import CommandShell.Proofs.Diagnostics
import CommandShell.Proofs.Requests
import CommandShell.Proofs.Soundness
import Mathlib.Data.Nat.Digits.Defs

namespace CommandShell

/-! When `exit` ends a session, and with what code. A numeral counts by its value, however it
is written, and anything else but a bare `exit` is refused. -/

/-! ## Numerals -/

namespace Text

/-- What a run of decimal digits stands for, each digit by its place. -/
def placeValue (digits : Text) : Nat :=
  Nat.ofDigits 10 (digits.reverse.map fun digit => digit.toNat - '0'.toNat)

theorem digitsValue_eq_placeValue (digits : Text) : digitsValue digits = placeValue digits := by
  rw [placeValue, Nat.ofDigits_eq_foldr, List.foldr_map, List.foldr_reverse, digitsValue]
  congr 1
  funext value digit
  exact Nat.add_comm _ _

/-- Decimal digits, with or without a plus sign before them. -/
structure IsNumeral (operand digits : Text) : Prop where
  spelled : operand = digits ∨ operand = '+' :: digits
  inhabited : digits ≠ []
  decimal : ∀ digit ∈ digits, '0' ≤ digit ∧ digit ≤ '9'

theorem isDigit_iff (character : Char) :
    isDigit character = true ↔ '0' ≤ character ∧ character ≤ '9' := by
  simp [isDigit]

end Text

namespace Builtin

/-- What is read of an operand of `exit`: all of it, but for a plus sign before it. -/
def exitDigits (operand : Text) : Text :=
  if operand.head? = some '+' then operand.drop 1 else operand

theorem isNumeral_iff (operand digits : Text) :
    Text.IsNumeral operand digits ↔
      digits = exitDigits operand ∧ digits ≠ [] ∧ digits.all Text.isDigit = true := by
  have decimal : (∀ digit ∈ digits, '0' ≤ digit ∧ digit ≤ '9') ↔
      digits.all Text.isDigit = true := by
    simp only [List.all_eq_true, Text.isDigit_iff]
  constructor
  · rintro ⟨spelled, inhabited, allDigits⟩
    refine ⟨?_, inhabited, decimal.mp allDigits⟩
    rcases spelled with rfl | rfl
    · have noSign : operand.head? ≠ some '+' := by
        intro sign
        have digit := allDigits '+' (List.mem_of_mem_head? sign)
        exact absurd digit (by decide)
      rw [exitDigits, if_neg noSign]
    · rfl
  · rintro ⟨rfl, inhabited, allDigits⟩
    refine ⟨?_, inhabited, decimal.mpr allDigits⟩
    unfold exitDigits
    split
    next sign =>
      rcases operand with _ | ⟨first, rest⟩
      · cases sign
      · cases sign
        exact .inr rfl
    next => exact .inl rfl

/-- However many digits a numeral has, it is accepted by its value. -/
theorem exitCode?_eq_some_iff (operand : Text) (code : Int) :
    exitCode? operand = some code ↔
      ∃ digits, Text.IsNumeral operand digits ∧ Text.placeValue digits ≤ 2147483647 ∧
        code = Text.placeValue digits := by
  let digits := exitDigits operand
  have value : Text.digitsValueUpTo? exitCodeLimit digits =
      if Text.placeValue digits ≤ 2147483647 then some (Text.placeValue digits) else none := by
    rw [Text.digitsValueUpTo?_eq, Text.digitsValue_eq_placeValue]
    rfl
  have read : exitCode? operand =
      if digits.isEmpty || !digits.all Text.isDigit then none
      else (Text.digitsValueUpTo? exitCodeLimit digits).map Int.ofNat := rfl
  have valid_iff : ¬(digits.isEmpty || !digits.all Text.isDigit) = true ↔
      digits ≠ [] ∧ digits.all Text.isDigit = true := by simp
  rw [read, value]
  constructor
  · intro accepted
    split at accepted
    · cases accepted
    next valid =>
      split at accepted
      next fits =>
        cases accepted
        exact ⟨digits, (isNumeral_iff operand digits).mpr ⟨rfl, valid_iff.mp valid⟩, fits, rfl⟩
      next => cases accepted
  · rintro ⟨other, numeral, fits, rfl⟩
    rcases (isNumeral_iff operand other).mp numeral with ⟨rfl, valid⟩
    rw [if_neg (valid_iff.mpr valid), if_pos fits]
    rfl

end Builtin

/-! ## Segments -/

/-- What `exit` ends a session with, given the status before it. Only the first operand counts. -/
inductive Exits (status : Int) : List Text → Int → Prop
  | bare : Exits status [] (status % 256)
  | numbered {operand digits : Text} (others : List Text)
      (numeral : Text.IsNumeral operand digits) (fits : Text.placeValue digits ≤ 2147483647) :
      Exits status (operand :: others) ((Text.placeValue digits : Int) % 256)

theorem Exits.bounds {status code : Int} {operands : List Text}
    (exits : Exits status operands code) : 0 ≤ code ∧ code ≤ 255 := by
  cases exits <;> omega

/-- Otherwise the first operand is refused. -/
theorem exits_or_refused (status : Int) (operands : List Text) :
    (∃ code, Exits status operands code) ∨
      ∃ operand others, operands = operand :: others ∧ Builtin.exitCode? operand = none := by
  cases operands with
  | nil => exact .inl ⟨_, .bare⟩
  | cons operand others =>
    cases read : Builtin.exitCode? operand with
    | none => exact .inr ⟨operand, others, rfl, read⟩
    | some code =>
      rcases (Builtin.exitCode?_eq_some_iff operand code).mp read with ⟨digits, numeral, fits, _⟩
      exact .inl ⟨_, .numbered others numeral fits⟩

namespace Shell

variable {shell : Shell} {segment : Segment} {operand : Text} {operands others : List Text}

theorem call_exit (common : operands ≠ [Builtin.manualOperand]) :
    Builtin.exit.call operands = .exit operands.head? := by
  rw [Builtin.call, if_neg common]

theorem outcome_of_exits (calls : shell.dispatched segment = some (.exit, operands)) {code : Int}
    (exits : Exits shell.session.status operands code) :
    ∃ asked, (shell.segment segment).1 = .exit asked ∧ Session.exitStatus asked = code := by
  rw [segment_of_dispatched calls]
  let calling := shell.calling segment .exit operands
  cases exits with
  | bare =>
    have succeeds : body .exit calling (Builtin.exit.call []) =
        (.ok (.exit shell.session.status), calling) := rfl
    rw [carryOut_of_ok succeeds]
    exact ⟨shell.session.status, rfl, rfl⟩
  | @numbered operand digits others numeral fits =>
    have read := (Builtin.exitCode?_eq_some_iff operand _).mpr ⟨digits, numeral, fits, rfl⟩
    have common : operand :: others ≠ [Builtin.manualOperand] := by
      intro manual
      cases manual
      have refused : Builtin.exitCode? Builtin.manualOperand = none := by decide
      cases refused.symm.trans read
    have succeeds : body .exit calling (Builtin.exit.call (operand :: others)) =
        (.ok (.exit (Session.exitStatus (Text.placeValue digits))), calling) := by
      rw [call_exit common]
      simp only [List.head?_cons, body, exit, read]
    rw [carryOut_of_ok succeeds]
    refine ⟨_, rfl, ?_⟩
    unfold Session.exitStatus
    omega

theorem segment_of_refused (calls : shell.dispatched segment = some (.exit, operand :: others))
    (common : operand :: others ≠ [Builtin.manualOperand])
    (refused : Builtin.exitCode? operand = none) :
    shell.segment segment =
      settle Builtin.exit.name (complain .exit (.illegalNumber operand)
        (shell.calling segment .exit (operand :: others))) := by
  let calling := shell.calling segment .exit (operand :: others)
  have fails : failure? calling.session calling.world (Builtin.exit.call (operand :: others)) =
      some (.illegalNumber operand) := by
    rw [call_exit common]
    simp [failure?, refused]
  have noManual : Builtin.exit.call (operand :: others) ≠ .manual := by
    rw [call_exit common]
    intro manual
    cases manual
  have failed : body .exit calling (Builtin.exit.call (operand :: others)) =
      (.error (.illegalNumber operand), calling) := body_of_failure fails .exit
  rw [segment_of_dispatched calls, carryOut_of_error noManual failed]

/-- A segment that is `exit` ends the session exactly if it has something to end it with. -/
theorem segment_exits_iff (calls : shell.dispatched segment = some (.exit, operands)) (code : Int) :
    (∃ asked, (shell.segment segment).1 = .exit asked ∧ Session.exitStatus asked = code) ↔
      Exits shell.session.status operands code := by
  refine ⟨?_, outcome_of_exits calls⟩
  rintro ⟨asked, ends, rfl⟩
  rcases exits_or_refused shell.session.status operands with
    ⟨code, exits⟩ | ⟨operand, others, rfl, refused⟩
  · rcases outcome_of_exits calls exits with ⟨other, same, rfl⟩
    cases ends.symm.trans same
    exact exits
  · have common : operand :: others ≠ [Builtin.manualOperand] := by
      intro manual
      rcases called_of_exit ends with ⟨_, called⟩
      rw [Shell.called, calls, manual] at called
      cases called
    rw [segment_of_refused calls common refused, complain_eq] at ends
    exact absurd ends (settle_ne_exit (stays_afterWriting (stays_status _) _) _ asked)

end Shell

/-! ## Steps -/

namespace Step

/-- Whether the step has run as this builtin with these operands. -/
def Dispatches (step : Step) (builtin : Builtin) (operands : List Text) : Prop :=
  step.Ran ∧ step.before.dispatched step.segment = some (builtin, operands)

variable {step : Step}

/-- Whether the step has run as an `exit` that ends the session with this code. -/
def ExitsWith (step : Step) (code : Int) : Prop :=
  ∃ operands, step.Dispatches .exit operands ∧ Exits step.before.session.status operands code

theorem request?_eq_some_iff (lawful : step.IsLawful) (code : Int) :
    step.request? = some code ↔ step.ExitsWith code := by
  have request : step.request? = some code ↔
      ∃ asked, step.outcome = some (.exit asked) ∧ Session.exitStatus asked = code := by
    unfold request?
    split
    next asked ran => simp [ran]
    next other => simpa using fun asked ran => absurd ran (other asked)
  rw [request]
  constructor
  · rintro ⟨asked, ran, code⟩
    have ends := (lawful.of_outcome ran).1
    rcases Shell.called_of_exit ends with ⟨operand, called⟩
    rcases Option.map_eq_some_iff.mp called with ⟨⟨builtin, operands⟩, calls, asks⟩
    rcases Builtin.call_eq_exit asks with ⟨rfl, _⟩
    refine ⟨operands, ⟨by simp [Ran, ran], calls⟩, ?_⟩
    exact (Shell.segment_exits_iff calls _).mp ⟨asked, ends, code⟩
  · rintro ⟨operands, ⟨ran, calls⟩, exits⟩
    rcases Option.isSome_iff_exists.mp ran with ⟨outcome, ran⟩
    rcases (Shell.segment_exits_iff calls _).mpr exits with ⟨asked, ends, code⟩
    cases (lawful.of_outcome ran).1.symm.trans ends
    exact ⟨asked, ran, code⟩

/-- What an operand comes to that `exit` refuses: status 2, and one diagnostic that names it. -/
structure IsRefusedExit (step : Step) (operand : Text) : Prop where
  ended : step.outcome = some (.status 2)
  status : step.after.session.status = 2
  diagnosed :
    Shell.Diagnosed [⟨some Builtin.exit.name, Text.ofString "Illegal number: " ++ operand⟩] []
      step.before step.after

theorem isRefusedExit {operand : Text} {others : List Text} (lawful : step.IsLawful)
    (works : step.before.letterhead.Works) (accounted : step.Accounted)
    (dispatches : step.Dispatches .exit (operand :: others))
    (common : operand :: others ≠ [Builtin.manualOperand])
    (refused : Builtin.exitCode? operand = none) : step.IsRefusedExit operand := by
  rcases dispatches with ⟨ran, calls⟩
  rcases Option.isSome_iff_exists.mp ran with ⟨outcome, ran⟩
  let calling := step.before.calling step.segment .exit (operand :: others)
  have working : calling.console.error.writeFault = none := Shell.errorWorks works
  have run := Shell.segment_of_refused calls common refused
  rw [Shell.settle_complain_of_working working] at run
  rcases lawful.of_outcome ran with ⟨ended, after⟩
  have idle : step.launches = [] := by
    apply Step.launches_eq
    rw [after, Shell.launches_conclude, Shell.launches_of_dispatched calls, List.append_nil]
  rw [run] at ended after
  have two : outcome = .status 2 := ended.symm
  subst two
  have due : step.due =
      [⟨some Builtin.exit.name, Text.ofString "Illegal number: " ++ operand⟩] := by
    rw [Step.due, ran, Option.elim_some, Shell.due_of_dispatched calls, Shell.call_exit common]
    simp [Shell.dueOfCall, Shell.failure?, refused, Failure.message]
  have diagnosed := accounted.diagnosed
  rw [due, idle] at diagnosed
  refine ⟨ran, ?_, diagnosed⟩
  rw [after]
  rfl

end Step

/-! ## Lines -/

namespace Shell

theorem request?_of_mem_stepsOf {shell : Shell} {line : Text} {step : Step}
    (member : step ∈ shell.stepsOf line) (code : Int) :
    step.request? = some code ↔ step.ExitsWith code :=
  Step.request?_eq_some_iff (isLawful_of_mem_stepsOf step member) code

theorem answer_eq_some_iff (shell : Shell) (line : Text) (code : Int) :
    (shell.submit line).1 = some code ↔ ∃ step ∈ shell.stepsOf line, step.ExitsWith code := by
  rw [answer_submit]
  constructor
  · intro answers
    rcases List.exists_of_findSome?_eq_some answers with ⟨step, member, asks⟩
    exact ⟨step, member, (request?_of_mem_stepsOf member code).mp asks⟩
  · rintro ⟨step, member, exits⟩
    have asks := (request?_of_mem_stepsOf member code).mpr exits
    rcases List.append_of_mem member with ⟨earlier, later, place⟩
    -- A step that has run shows that none before it has asked for the end.
    rcases exits with ⟨operands, ⟨ran, _⟩, _⟩
    have silent := (byRule_stepsOf shell line).no_request_before place ran
    rw [place, List.findSome?_append, List.findSome?_eq_none_iff.mpr silent, Option.none_or,
      List.findSome?_cons_of_isSome (by simp [asks]), asks]

/-- How a line comes to end the session. -/
structure EndsByExit (shell : Shell) (line : Text) : Prop where
  answer_iff : ∀ code, (shell.submit line).1 = some code ↔
    ∃ step ∈ shell.stepsOf line, step.ExitsWith code
  noted : ∀ code, (shell.submit line).1 = some code →
    0 ≤ code ∧ code ≤ 255 ∧ (shell.submit line).2.session.status = code ∧
      (shell.submit line).2.session.exitRequest = some code
  last : ∀ earlier step later, shell.stepsOf line = earlier ++ step :: later →
    ∀ code, step.ExitsWith code → ∀ other ∈ later, ¬other.Ran
  /-- Any other operand is refused, and the line goes on as it does after a failure. -/
  refused : shell.console.output.Works → shell.console.error.Works →
    ∀ earlier step later, shell.stepsOf line = earlier ++ step :: later →
      ∀ operand others, step.Dispatches .exit (operand :: others) →
        operand :: others ≠ [Builtin.manualOperand] →
        (∀ digits, Text.IsNumeral operand digits → 2147483647 < Text.placeValue digits) →
        step.IsRefusedExit operand ∧
          ∀ next rest, later = next :: rest →
            (next.Ran ↔ next.segment.operator = some .sequence ∨ next.segment.operator = some .or)

/-- A line ends the session exactly if a segment of it runs as `exit` with nothing or with a
numeral that fits into 32 bits, be it with a sign before it or with leading zeros. -/
theorem line_ends_by_exit (shell : Shell) (line : Text) : EndsByExit shell line where
  answer_iff := answer_eq_some_iff shell line
  noted := by
    intro code answers
    rcases (answer_eq_some_iff shell line code).mp answers with ⟨step, _, operands, _, exits⟩
    rcases exits.bounds with ⟨lower, upper⟩
    rcases exitRequest_submit shell line with ⟨noted, status⟩
    rw [answers, Option.some_or] at noted
    exact ⟨lower, upper, status code answers, noted⟩
  last := by
    intro earlier step later place code exits
    have member : step ∈ shell.stepsOf line := by simp [place]
    have asks := (request?_of_mem_stepsOf member code).mpr exits
    exact (byRule_stepsOf shell line).not_ran_after_request place asks
  refused := by
    intro output error earlier step later place operand others dispatches common unfit
    have member : step ∈ shell.stepsOf line := by simp [place]
    have refused : Builtin.exitCode? operand = none := by
      cases read : Builtin.exitCode? operand with
      | none => rfl
      | some code =>
        rcases (Builtin.exitCode?_eq_some_iff operand code).mp read with ⟨digits, numeral, fits, _⟩
        have beyond := unfit digits numeral
        omega
    rcases (accounted_submit ⟨output, error⟩ line).2 step member with ⟨same, accounted⟩
    have works : step.before.letterhead.Works := by
      rw [same]
      exact ⟨output, error⟩
    have isRefused := Step.isRefusedExit (isLawful_of_mem_stepsOf step member) works accounted
      dispatches common refused
    refine ⟨isRefused, ?_⟩
    rintro next rest rfl
    rw [(byRule_stepsOf shell line).next_ran_iff place isRefused.ended]
    simp [Session.exitStatus]

/-- A numeral that is too large by one is refused, and one with many zeros before it ends the
session with what is left of it modulo 256. -/
theorem line_ends_by_exit_behind_refusal :
    let shell : Shell :=
      { settings := { mode := .standardInput }
        session := .ofEnvironment .empty [] 7
        world := { files := .empty } }
    let large := Text.ofString "2147483648"
    let line := Text.ofString "exit 2147483648 || exit +000000000000300 x ; help"
    shell.console.output.Works ∧ shell.console.error.Works ∧
      (shell.submit line).1 = some 44 ∧ (shell.submit line).2.session.status = 44 ∧
      ∃ refused ending passed, shell.stepsOf line = [refused, ending, passed] ∧
        refused.IsRefusedExit large ∧ ending.ExitsWith 44 ∧ ¬passed.Ran := by
  intro shell large line
  have output : shell.console.output.Works := ⟨rfl, rfl⟩
  have error : shell.console.error.Works := ⟨rfl, rfl⟩
  have ends := line_ends_by_exit shell line
  have answers : (shell.submit line).1 = some 44 := by decide +kernel
  let numeral := Text.ofString "+000000000000300"
  have steps : (shell.stepsOf line).map (fun step =>
      (step.outcome, step.before.dispatched step.segment)) =
        [(some (.status 2), some (.exit, [large])),
          (some (.exit 44), some (.exit, [numeral, ['x']])),
          (none, some (.help, []))] := by decide +kernel
  simp only [List.map_eq_cons_iff, List.map_eq_nil_iff, Prod.mk.injEq] at steps
  rcases steps with
    ⟨refused, _, whole, ⟨ranRefused, callsRefused⟩, ending, _, rfl, ⟨ran, calls⟩,
      passed, _, rfl, _, rfl⟩
  have exits : ending.ExitsWith 44 := by
    have isNumeral : Text.IsNumeral numeral (Text.ofString "000000000000300") :=
      (Builtin.isNumeral_iff _ _).mpr ⟨by decide, by decide, by decide⟩
    exact ⟨_, ⟨by simp [Step.Ran, ran], calls⟩, .numbered [['x']] isNumeral (by decide)⟩
  have unfit : ∀ digits, Text.IsNumeral large digits → 2147483647 < Text.placeValue digits := by
    intro digits isNumeral
    rcases (Builtin.isNumeral_iff _ _).mp isNumeral with ⟨rfl, _⟩
    decide
  have isRefused := ends.refused output error [] refused [ending, passed] whole large []
    ⟨by simp [Step.Ran, ranRefused], callsRefused⟩ (by decide) unfit
  exact ⟨output, error, answers, (ends.noted 44 answers).2.2.1, refused, ending, passed, whole,
    isRefused.1, exits, ends.last [refused] ending [passed] whole 44 exits passed (by simp)⟩

end Shell

end CommandShell
