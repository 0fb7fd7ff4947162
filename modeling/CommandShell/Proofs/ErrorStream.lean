import CommandShell.Proofs.Simulation

namespace CommandShell

/-! What becomes of a line where nothing can be written to the error stream. It is
the same as elsewhere unless a builtin issues a diagnostic of its own: the builtin
then fails a second time, by the diagnostic, and this failure is the one that counts. -/

/-! ## Beside the error stream -/

def Event.isForError : Event → Bool
  | .written .error _ => true
  | .logged (.warning _) => true
  | _ => false

namespace Shell

/-- The shell with sinks of which at most the one for errors fails. -/
def withError (shell : Shell) (error : Sink) : Shell :=
  { shell with console := { shell.console with output := {}, error := error } }

/-- All there is to a shell but its error stream. -/
def besideError (shell : Shell) : Shell :=
  { shell with
    console :=
      { shell.console with
        error := {}
        latest := shell.console.latest.filter fun event => !event.isForError } }

theorem besideError_record_of_isForError {event : Event} (isForError : event.isForError = true)
    (shell : Shell) : (shell.record event).besideError = shell.besideError := by
  simp [besideError, record, Console.record, isForError]

theorem besideError_record_of_not_isForError {event : Event}
    (apart : event.isForError = false) (shell : Shell) :
    (shell.record event).besideError = shell.besideError.record event := by
  simp [besideError, record, Console.record, apart]

theorem besideError_write (shell : Shell) (text : Text) :
    (shell.write .error text).2.besideError = shell.besideError := by
  rw [write, Console.write, Console.recordWritten]
  dsimp only
  split
  · rfl
  · exact besideError_record_of_isForError rfl _

/-- On the left everything can be written, on the right nothing to the error stream,
and there is no other difference. -/
structure Beside (fault : Fault) (left right : Shell) : Prop where
  output : left.console.output = {}
  working : left.console.error = {}
  broken : right.console.error = { writeFault := some fault }
  same : left.besideError = right.besideError

theorem beside_withError (shell : Shell) (fault : Fault) :
    Beside fault (shell.withError {}) (shell.withError { writeFault := some fault }) :=
  ⟨rfl, rfl, rfl, rfl⟩

namespace Beside

variable {fault : Fault} {left right : Shell}

theorem session (beside : Beside fault left right) : left.session = right.session := by
  have sessions := congrArg Shell.session beside.same
  exact sessions

theorem world (beside : Beside fault left right) : left.world = right.world := by
  have worlds := congrArg Shell.world beside.same
  exact worlds

theorem rightOutput (beside : Beside fault left right) : right.console.output = {} := by
  have outputs := congrArg (fun shell => shell.console.output) beside.same
  exact outputs.symm.trans beside.output

theorem outputWorks (beside : Beside fault left right) :
    (left.console.sink .output).writeFault = none :=
  congrArg Sink.writeFault beside.output

theorem rightOutputWorks (beside : Beside fault left right) :
    (right.console.sink .output).writeFault = none :=
  congrArg Sink.writeFault beside.rightOutput

theorem errorWorks (beside : Beside fault left right) : left.console.error.writeFault = none :=
  congrArg Sink.writeFault beside.working

theorem errorBroken (beside : Beside fault left right) :
    right.console.error.writeFault = some fault :=
  congrArg Sink.writeFault beside.broken

theorem errorFull (beside : Beside fault left right) : right.console.error.room = 0 :=
  congrArg Sink.room beside.broken

theorem recorded (beside : Beside fault left right) (event : Event) :
    Beside fault (left.record event) (right.record event) := by
  refine ⟨beside.output, beside.working, beside.broken, ?_⟩
  cases apart : event.isForError with
  | true =>
    rw [besideError_record_of_isForError apart, besideError_record_of_isForError apart, beside.same]
  | false =>
    rw [besideError_record_of_not_isForError apart, besideError_record_of_not_isForError apart,
      beside.same]

theorem counted (beside : Beside fault left right) :
    Beside fault left.countComplaint right.countComplaint :=
  ⟨beside.output, beside.working, beside.broken, congrArg countComplaint beside.same⟩

theorem recordedApart (beside : Beside fault left right) {leftEvent rightEvent : Event}
    (leftFor : leftEvent.isForError = true) (rightFor : rightEvent.isForError = true) :
    Beside fault (left.record leftEvent) (right.record rightEvent) := by
  refine ⟨beside.output, beside.working, beside.broken, ?_⟩
  rw [besideError_record_of_isForError leftFor, besideError_record_of_isForError rightFor,
    beside.same]

theorem written (beside : Beside fault left right) (text : Text) :
    Agree (Beside fault) (left.write .output text) (right.write .output text) := by
  cases text with
  | nil =>
    rw [write_nil, write_nil]
    exact ⟨rfl, beside⟩
  | cons first rest =>
    rw [write_of_working beside.outputWorks (List.cons_ne_nil first rest),
      write_of_working beside.rightOutputWorks (List.cons_ne_nil first rest)]
    exact ⟨rfl, beside.recorded _⟩

end Beside

/-! ## What is alike -/

theorem simulation_beside (fault : Fault) : Simulation (Beside fault) where
  seen := by
    intro left right beside
    refine ⟨?_, ?_, ?_, ?_, beside.world, ?_⟩
    all_goals try rw [beside.session]
    unfold Console.flushFault?
    rw [beside.output, beside.working, beside.rightOutput, beside.broken]
  record := fun beside event => beside.recorded event
  print := fun beside text => beside.written text
  listHistory := by
    intro left right beside
    rw [beside.session]
    exact beside.written _
  revise := fun beside environment aliases previousDirectory world =>
    ⟨beside.output, beside.working, beside.broken,
      congrArg (fun shell => shell.revise environment aliases previousDirectory world)
        beside.same⟩
  reportOrWarn := by
    intro left right beside command message
    rw [reportOrWarn_of_working beside.errorWorks,
      reportOrWarn_of_full beside.errorBroken beside.errorFull]
    exact beside.counted.recordedApart rfl rfl
  status := fun beside => congrArg Session.status beside.session
  conclude := by
    intro left right beside outcome
    have same := congrArg (fun shell => shell.conclude outcome) beside.same
    cases outcome <;> exact ⟨beside.output, beside.working, beside.broken, same⟩

/-! ## Operands of `alias` -/

/-- What operands come to where everything can be written: the aliases after them, the
lines that are shown, and the number of names that are not defined. -/
@[ext] structure Served where
  aliases : Aliases
  shown : List Text := []
  missing : Nat := 0
  deriving DecidableEq, Repr

def serve (aliases : Aliases) : List Aliases.Operand → Served
  | [] => { aliases }
  | .define name value :: rest => serve (aliases.set name value) rest
  | .display name :: rest =>
    let after := serve aliases rest
    match aliases.get? name with
    | some value => { after with shown := (Aliases.describe name value ++ ['\n']) :: after.shown }
    | none => { after with missing := after.missing + 1 }

def afterServing (shell : Shell) (served : Served) : Shell :=
  { shell with
    session :=
      { shell.session with
        aliases := served.aliases
        complaints := shell.session.complaints + served.missing }
    console :=
      { shell.console with
        latest :=
          (served.shown.map (.written .output)).reverse ++ shell.console.latest } }

theorem serve_defined {aliases : Aliases} {name value : Text}
    (found : aliases.get? name = some value) (rest : List Aliases.Operand) :
    serve aliases (.display name :: rest) =
      { serve aliases rest with
        shown := (Aliases.describe name value ++ ['\n']) :: (serve aliases rest).shown } := by
  simp only [serve, found]

theorem serve_undefined {aliases : Aliases} {name : Text} (undefined : aliases.get? name = none)
    (rest : List Aliases.Operand) :
    serve aliases (.display name :: rest) =
      { serve aliases rest with missing := (serve aliases rest).missing + 1 } := by
  simp only [serve, undefined]

theorem afterServing_record (shell : Shell) (text : Text) (served : Served) :
    (shell.record (.written .output text)).afterServing served =
      shell.afterServing { served with shown := text :: served.shown } := by
  simp [afterServing, record, Console.record]

theorem afterServing_countComplaint (shell : Shell) (served : Served) :
    shell.countComplaint.afterServing served =
      shell.afterServing { served with missing := served.missing + 1 } := by
  simp [afterServing, countComplaint, Nat.add_assoc, Nat.add_comm 1]

theorem serveOperands_of_working (status : Int) (operands : List Aliases.Operand) {shell : Shell}
    (output : shell.console.output = {}) (error : shell.console.error = {}) :
    (serveOperands status operands shell).1 =
        .ok (.status
          (if (serve shell.session.aliases operands).missing = 0 then status else 1)) ∧
      (serveOperands status operands shell).2.console.error = {} ∧
      (serveOperands status operands shell).2.besideError =
        shell.besideError.afterServing (serve shell.session.aliases operands) := by
  induction operands generalizing status shell with
  | nil => exact ⟨rfl, error, rfl⟩
  | cons operand rest induction =>
    cases operand with
    | define name value => exact induction status output error
    | display name =>
      cases found : shell.session.aliases.get? name with
      | some value =>
        have works : (shell.console.sink .output).writeFault = none :=
          congrArg Sink.writeFault output
        have onward := @induction status
          (shell.record (.written .output (Aliases.describe name value ++ ['\n']))) output error
        rw [besideError_record_of_not_isForError rfl, afterServing_record] at onward
        rw [serveOperands_defined found, write_of_working works (by simp), afterWriting_none,
          serve_defined found]
        exact onward
      | none =>
        let event := Event.written .error
          (diagnostic shell.session (some Builtin.aliases.name) (undefinedName name))
        have works : shell.console.error.writeFault = none := congrArg Sink.writeFault error
        have onward := @induction 1 (shell.countComplaint.record event) output error
        rw [besideError_record_of_isForError rfl] at onward
        rw [serveOperands_undefined found, report_of_working works, afterWriting_none,
          serve_undefined found]
        refine ⟨by simpa using onward.1, onward.2.1, ?_⟩
        exact onward.2.2.trans (afterServing_countComplaint shell.besideError _)

/-- At the first name that is not defined, the operands are given up on the right. -/
theorem serveOperands_at_missing {fault : Fault} (status : Int)
    (operands : List Aliases.Operand) {left right : Shell} (beside : Beside fault left right)
    {aliases : Aliases} {rest : List Aliases.Operand}
    (first : firstMissing left.session.aliases operands = some (aliases, rest)) :
    ∃ leftThere rightThere event, Beside fault leftThere rightThere ∧
      leftThere.session.aliases = aliases ∧ event.isForError = true ∧
      serveOperands status operands left =
        serveOperands 1 rest (leftThere.countComplaint.record event) ∧
      serveOperands status operands right =
        (.error (.output fault), rightThere.countComplaint) := by
  induction operands generalizing status left right with
  | nil => cases first
  | cons operand later induction =>
    cases operand with
    | define name value =>
      exact induction status ((simulation_beside fault).setAlias beside name value) first
    | display name =>
      have foundToo := congrArg (fun session => session.aliases.get? name) beside.session
      cases found : left.session.aliases.get? name with
      | some value =>
        rw [serveOperands_defined found, serveOperands_defined (foundToo.symm.trans found),
          write_of_working beside.outputWorks (by simp),
          write_of_working beside.rightOutputWorks (by simp)]
        have onward : firstMissing left.session.aliases later = some (aliases, rest) := by
          simpa [firstMissing, found] using first
        exact induction status (beside.recorded _) onward
      | none =>
        have here : (left.session.aliases, later) = (aliases, rest) := by
          simpa [firstMissing, found] using first
        cases here
        rw [serveOperands_undefined found, serveOperands_undefined (foundToo.symm.trans found),
          report_of_working beside.errorWorks,
          report_of_full beside.errorBroken beside.errorFull]
        exact ⟨left, right, _, beside, rfl, rfl, rfl, rfl⟩

/-! ## What a missing diagnostic changes -/

/-- That a diagnostic of its own cannot be written makes a difference to a segment: its
builtin fails, or it is `alias` and misses a name. Of the latter nothing is to be seen
only where the operands after that name merely miss two more, since as many diagnostics
as these would have been are issued of the fault. -/
inductive HingesOnDiagnostic (shell : Shell) (segment : Segment) : Prop where
  | fails {builtin : Builtin} {operands : List Text} {failure : Failure}
    (calls : shell.dispatched segment = some (builtin, operands))
    (failed : (body builtin (shell.calling segment builtin operands) (builtin.call operands)).1 =
      .error failure)
  | misses {builtin : Builtin} {operands words : List Text} {aliases : Aliases}
    {rest : List Aliases.Operand}
    (calls : shell.dispatched segment = some (builtin, operands))
    (asks : builtin.call operands = .aliases words)
    (first : firstMissing shell.session.aliases (Aliases.Operand.ofWords words) =
      some (aliases, rest))
    (more : serve aliases rest ≠ { aliases, missing := 2 })

theorem print_of_working {shell : Shell} (output : shell.console.output = {}) (text : Text) :
    (shell.print text).1 = .ok (.status 0) := by
  have works : (shell.console.sink .output).writeFault = none := congrArg Sink.writeFault output
  cases text with
  | nil => rw [print_eq, write_nil, afterWriting_none]
  | cons first rest =>
    rw [print_eq, write_of_working works (List.cons_ne_nil first rest), afterWriting_none]

theorem defineAliases_of_working {shell : Shell} (output : shell.console.output = {})
    (error : shell.console.error = {}) (words : List Text) :
    ∃ outcome, (shell.defineAliases words).1 = .ok outcome := by
  unfold defineAliases
  cases words.isEmpty with
  | true => exact ⟨_, print_of_working output _⟩
  | false => exact ⟨_, (serveOperands_of_working 0 _ output error).1⟩

theorem settle_complain_of_working {shell : Shell}
    (working : shell.console.error.writeFault = none) (builtin : Builtin) (failure : Failure) :
    settle builtin.name (complain builtin failure shell) =
      (.status failure.status,
        shell.countComplaint.record
          (.written .error (diagnostic shell.session (some builtin.name) failure.message))) := by
  rw [complain_eq, report_of_working working, afterWriting_none]
  rfl

theorem settle_complain_of_full {shell : Shell} {fault : Fault}
    (broken : shell.console.error.writeFault = some fault) (full : shell.console.error.room = 0)
    (builtin : Builtin) (failure : Failure) :
    settle builtin.name (complain builtin failure shell) =
      (.status 1,
        shell.countComplaint.reportOrWarn (some builtin.name) (Failure.output fault).detail) := by
  rw [complain_eq, report_of_full broken full, afterWriting_some]
  rfl

theorem besideError_reportOrWarn (shell : Shell) (command : Option Text) (message : Text) :
    (shell.reportOrWarn command message).besideError = shell.countComplaint.besideError := by
  have keeps := @reportOrWarn_keeps
    (fun other => other.besideError = shell.countComplaint.besideError) shell rfl
  refine keeps ?_ ?_ command message
  · exact fun same text => (besideError_write _ text).trans same
  · exact fun same message => (besideError_record_of_isForError rfl _).trans same

theorem afterServing_injective {shell : Shell} {one two : Served}
    (same : shell.afterServing one = shell.afterServing two) : one = two := by
  have aliases : one.aliases = two.aliases := congrArg (fun shell => shell.session.aliases) same
  have complaints :
      shell.session.complaints + one.missing = shell.session.complaints + two.missing :=
    congrArg (fun shell => shell.session.complaints) same
  have latest : (one.shown.map (Event.written .output)).reverse ++ shell.console.latest =
      (two.shown.map (Event.written .output)).reverse ++ shell.console.latest :=
    congrArg (fun shell => shell.console.latest) same
  have shown : one.shown = two.shown := by
    have texts := List.reverse_inj.mp (List.append_cancel_right latest)
    exact (List.map_inj_right fun _ _ same => (Event.written.inj same).2).mp texts
  exact Served.ext aliases shown (Nat.add_left_cancel complaints)

/-- Where `alias` misses a name, both sides end in the status 1. On the right the name
counts three times: for its own diagnostic, for that of the builtin, and for the last. -/
theorem alias_at_missing {fault : Fault} {left right : Shell} (beside : Beside fault left right)
    {builtin : Builtin} {operands words : List Text} {aliases : Aliases}
    {rest : List Aliases.Operand} (asks : builtin.call operands = .aliases words)
    (first : firstMissing left.session.aliases (Aliases.Operand.ofWords words) =
      some (aliases, rest)) :
    ∃ there leftAfter rightAfter : Shell,
      settle builtin.name (carryOut builtin operands left) = (.status 1, leftAfter) ∧
      settle builtin.name (carryOut builtin operands right) = (.status 1, rightAfter) ∧
      leftAfter.console.output = {} ∧ leftAfter.console.error = {} ∧
      rightAfter.console.error = { writeFault := some fault } ∧
      leftAfter.besideError = there.afterServing (serve aliases rest) ∧
      rightAfter.besideError = there.afterServing { aliases, missing := 2 } := by
  have inhabited : words.isEmpty = false := by
    cases words with
    | nil => cases first
    | cons => rfl
  have served : ∀ shell : Shell, Shell.body builtin shell (builtin.call operands) =
      serveOperands 0 (Aliases.Operand.ofWords words) shell := by
    intro shell
    rw [asks]
    simp [Shell.body, defineAliases, inhabited]
  rcases serveOperands_at_missing 0 (Aliases.Operand.ofWords words) beside first with
    ⟨leftThere, rightThere, event, besideThere, sameAliases, isForError, leftServed, rightServed⟩
  have leftEnd := @serveOperands_of_working 1 rest (leftThere.countComplaint.record event)
    besideThere.output besideThere.working
  rw [← leftServed, besideError_record_of_isForError isForError] at leftEnd
  rcases leftTry : serveOperands 0 (Aliases.Operand.ofWords words) left with ⟨answer, leftAfter⟩
  rw [leftTry] at leftEnd
  rcases leftEnd with ⟨succeeded, leftError, leftBeside⟩
  rw [ite_self] at succeeded
  cases succeeded
  have leftCarried := carryOut_of_ok ((served left).trans leftTry)
  have common : builtin.call operands ≠ .manual := by
    rw [asks]
    intro manual
    cases manual
  have rightCarried := carryOut_of_error common ((served right).trans rightServed)
  have rightEnd := @settle_complain_of_full rightThere.countComplaint fault
    besideThere.errorBroken besideThere.errorFull builtin (.output fault)
  rw [← rightCarried] at rightEnd
  have leftEnd : settle builtin.name (carryOut builtin operands left) = (.status 1, leftAfter) := by
    rw [leftCarried]
    rfl
  have output : leftAfter.console.output = {} :=
    (congrArg (fun shell => shell.console.output) leftBeside).trans besideThere.output
  have rightBeside := besideError_reportOrWarn rightThere.countComplaint.countComplaint
    (some builtin.name) (Failure.output fault).detail
  have same := besideThere.counted.counted.counted.same
  rw [← same] at rightBeside
  refine ⟨leftThere.countComplaint.besideError, leftAfter, _, leftEnd, rightEnd, output, leftError,
    ?_, ?_, ?_⟩
  · rw [reportOrWarn_of_full besideThere.counted.counted.errorBroken
      besideThere.counted.counted.errorFull]
    exact besideThere.broken
  · rw [leftBeside, ← sameAliases]
    rfl
  · rw [rightBeside, ← sameAliases]
    rfl

/-- Where a builtin fails, one diagnostic more is issued on the right. -/
theorem carryOut_failing {fault : Fault} {left right : Shell} (beside : Beside fault left right)
    {builtin : Builtin} {operands : List Text} {failure : Failure}
    (failed : (Shell.body builtin left (builtin.call operands)).1 = .error failure) :
    (settle builtin.name (carryOut builtin operands right)).2.besideError =
      (settle builtin.name (carryOut builtin operands left)).2.besideError.countComplaint := by
  have common : builtin.call operands ≠ .manual := by
    intro manual
    have printed := print_of_working beside.output builtin.manual
    rw [manual, Shell.body, printed] at failed
    cases failed
  have agree := (simulation_beside fault).body beside builtin (builtin.call operands) <| by
    intro words asks
    rcases defineAliases_of_working beside.output beside.working words with ⟨_, defined⟩
    rw [asks, Shell.body, defined] at failed
    cases failed
  rcases leftTry : Shell.body builtin left (builtin.call operands) with ⟨answer, leftAfter⟩
  rcases rightTry : Shell.body builtin right (builtin.call operands) with ⟨other, rightAfter⟩
  rw [leftTry] at failed
  rw [leftTry, rightTry] at agree
  rcases agree with ⟨⟨⟩, besideAfter⟩
  cases failed
  rw [carryOut_of_error common leftTry, carryOut_of_error common rightTry,
    settle_complain_of_full besideAfter.errorBroken besideAfter.errorFull,
    besideError_reportOrWarn, settle_complain_of_working besideAfter.errorWorks]
  exact besideAfter.counted.counted.same.symm

/-! ## Segments -/

theorem segment_beside {fault : Fault} {left right : Shell} (beside : Beside fault left right)
    {segment : Segment} (free : ¬ left.HingesOnDiagnostic segment) :
    Agree (Beside fault) (left.segment segment) (right.segment segment) := by
  cases calls : left.dispatched segment with
  | none => exact (simulation_beside fault).segment_of_not_dispatched beside calls
  | some call =>
    rcases call with ⟨builtin, operands⟩
    rcases (simulation_beside fault).segments_of_dispatched beside calls with ⟨leftRun, rightRun⟩
    rw [leftRun, rightRun]
    have calling := (simulation_beside fault).calling beside segment builtin operands
    by_cases misses : ∃ words aliases rest, builtin.call operands = .aliases words ∧
        firstMissing left.session.aliases (Aliases.Operand.ofWords words) = some (aliases, rest)
    · rcases misses with ⟨words, aliases, rest, asks, first⟩
      have two : serve aliases rest = { aliases, missing := 2 } := by
        by_contra more
        exact free (.misses calls asks first more)
      rcases alias_at_missing calling asks first with
        ⟨there, leftAfter, rightAfter, leftEnd, rightEnd, output, working, broken, leftBeside,
          rightBeside⟩
      rw [leftEnd, rightEnd]
      exact ⟨rfl, output, working, broken, by rw [leftBeside, rightBeside, two]⟩
    · apply (simulation_beside fault).settled builtin.name
      apply (simulation_beside fault).carryOut calling
      · intro words asks
        apply (simulation_beside fault).defineAliases calling
        intro missing
        rcases Option.ne_none_iff_exists'.mp missing with ⟨⟨aliases, rest⟩, first⟩
        exact absurd ⟨words, aliases, rest, asks, first⟩ misses
      · intro failure failed
        exact absurd (.fails calls failed) free

theorem besideError_conclude (shell : Shell) (outcome : Outcome) :
    (shell.conclude outcome).besideError = shell.besideError.conclude outcome := by
  cases outcome <;> rfl

theorem conclude_afterServing (shell : Shell) (served : Served) (outcome : Outcome) :
    (shell.afterServing served).conclude outcome =
      (shell.conclude outcome).afterServing served := by
  cases outcome <;> rfl

/-- The sides are not alike again, whatever the status that is noted after them. -/
theorem not_beside_of_hinges {fault : Fault} {left right : Shell} (beside : Beside fault left right)
    {segment : Segment} (hinges : left.HingesOnDiagnostic segment) (outcome : Outcome) :
    ¬ Beside fault ((left.segment segment).2.conclude outcome)
      ((right.segment segment).2.conclude outcome) := by
  intro besideAfter
  have same := besideAfter.same
  rw [besideError_conclude, besideError_conclude] at same
  cases hinges with
  | @fails builtin operands failure calls failed =>
    have calling := (simulation_beside fault).calling beside segment builtin operands
    rcases (simulation_beside fault).segments_of_dispatched beside calls with ⟨leftRun, rightRun⟩
    rw [leftRun, rightRun, carryOut_failing calling failed] at same
    have complaints := congrArg (fun shell => shell.session.complaints) same
    cases outcome <;> exact absurd complaints (Nat.ne_of_lt (Nat.lt_succ_self _))
  | @misses builtin operands words aliases rest calls asks first more =>
    have calling := (simulation_beside fault).calling beside segment builtin operands
    rcases (simulation_beside fault).segments_of_dispatched beside calls with ⟨leftRun, rightRun⟩
    rcases alias_at_missing calling asks first with
      ⟨there, leftAfter, rightAfter, leftEnd, rightEnd, _, _, _, leftBeside, rightBeside⟩
    rw [leftRun, rightRun, leftEnd, rightEnd, leftBeside, rightBeside, conclude_afterServing,
      conclude_afterServing] at same
    exact more (afterServing_injective same)

/-! ## Lines -/

def steps (shell : Shell) (line : Text) : List Step :=
  match Chain.ofLine line with
  | .ok segments => course segments (shell.begin line segments)
  | .error _ => []

/-- A line has the same answer and the same effects on both sides, the error stream
apart, and takes the same steps to them. -/
structure SameRun (fault : Fault) (left right : Shell) (line : Text) : Prop where
  submitted : Agree (Beside fault) (left.submit line) (right.submit line)
  steps : List.Forall₂ (Simulation.StepsAgree (Beside fault)) (left.steps line) (right.steps line)

theorem not_hinges_of_stepsAgree {fault : Fault} {left right : Step}
    (agree : Simulation.StepsAgree (Beside fault) left right) (lawful : left.IsLawful)
    (lawfulToo : right.IsLawful) (ran : left.Ran) :
    ¬ left.before.HingesOnDiagnostic left.segment := by
  intro hinges
  rcases Option.isSome_iff_exists.mp ran with ⟨outcome, leftOutcome⟩
  have rightOutcome := agree.outcome.symm.trans leftOutcome
  rw [Step.IsLawful, leftOutcome] at lawful
  rw [Step.IsLawful, rightOutcome, ← agree.segment] at lawfulToo
  have after := agree.after
  rw [lawful.2, lawfulToo.2] at after
  exact not_beside_of_hinges agree.before hinges outcome after

theorem free_of_forall₂ {fault : Fault} {lefts rights : List Step}
    (agree : List.Forall₂ (Simulation.StepsAgree (Beside fault)) lefts rights)
    (lawful : ∀ step ∈ lefts, step.IsLawful) (lawfulToo : ∀ step ∈ rights, step.IsLawful) :
    ∀ step ∈ lefts, step.Ran → ¬ step.before.HingesOnDiagnostic step.segment := by
  induction agree with
  | nil => simp
  | cons head tail induction =>
    rcases List.forall_mem_cons.mp lawful with ⟨here, onward⟩
    rcases List.forall_mem_cons.mp lawfulToo with ⟨hereToo, onwardToo⟩
    exact List.forall_mem_cons.mpr
      ⟨not_hinges_of_stepsAgree head here hereToo, induction onward onwardToo⟩

theorem submit_beside {fault : Fault} {left right : Shell} (beside : Beside fault left right)
    (line : Text)
    (free : ∀ step ∈ left.steps line, step.Ran → ¬ step.before.HingesOnDiagnostic step.segment) :
    SameRun fault left right line := by
  have simulation := simulation_beside fault
  cases split : Chain.ofLine line with
  | error operator =>
    have reported := simulation.reportOrWarn
      (simulation.log beside (.trailingOperator operator.symbol)) none
      (Failure.unexpected operator.symbol).message
    constructor
    · simp only [submit, split]
      exact ⟨rfl, simulation.conclude reported (.status 2)⟩
    · simp only [steps, split]
      exact .nil
  | ok segments =>
    have logged := simulation.log beside (.split line segments.length)
    simp only [steps, split] at free
    cases segments with
    | nil =>
      constructor
      · simp only [submit, split, List.isEmpty_nil, if_true]
        exact ⟨rfl, logged⟩
      · simp only [steps, split]
        exact .nil
    | cons first rest =>
      have begun : Beside fault (left.begin line (first :: rest))
          (right.begin line (first :: rest)) :=
        ⟨logged.output, logged.working, logged.broken,
          congrArg (fun shell => shell.remember line) logged.same⟩
      have chained := simulation.chain (first :: rest) begun fun step member ran other beside =>
        segment_beside beside (free step member ran)
      constructor
      · rw [submit_chain split (List.cons_ne_nil first rest),
          submit_chain split (List.cons_ne_nil first rest)]
        exact chained.1
      · simp only [steps, split]
        exact chained.2

/-- A line takes the same steps to the same end on both sides exactly if none of the
segments that run hinges on a diagnostic of its own. -/
theorem sameRun_iff_no_step_hinges (shell : Shell) (fault : Fault) (line : Text) :
    SameRun fault (shell.withError {}) (shell.withError { writeFault := some fault }) line ↔
      ∀ step ∈ (shell.withError {}).steps line,
        step.Ran → ¬ step.before.HingesOnDiagnostic step.segment := by
  have lawful : ∀ shell : Shell, ∀ step ∈ shell.steps line, step.IsLawful := by
    intro shell
    unfold steps
    cases Chain.ofLine line with
    | ok segments => exact isLawful_of_mem_course segments _
    | error operator => simp
  constructor
  · intro same
    exact free_of_forall₂ same.steps (lawful _) (lawful _)
  · exact submit_beside (beside_withError shell fault) line

/-- An operand that `exit` refuses leaves the status 2, but the status 1 and a second
diagnostic where the first could not be written. -/
theorem sameRun_fails_at_illegalNumber :
    let shell : Shell :=
      { settings := { mode := .standardInput }
        session := .ofEnvironment .empty [] 7
        world := { files := .empty } }
    let fault := Fault.custom (Text.ofString "sink broken")
    let line := Text.ofString "exit abc"
    let left := (shell.withError {}).submit line
    let right := (shell.withError { writeFault := some fault }).submit line
    left.2.session.status = 2 ∧ left.2.session.complaints = 1 ∧
      right.2.session.status = 1 ∧ right.2.session.complaints = 2 ∧
      ¬ SameRun fault (shell.withError {}) (shell.withError { writeFault := some fault }) line := by
  intro shell fault line left right
  have different : ¬ SameRun fault (shell.withError {})
      (shell.withError { writeFault := some fault }) line := by
    intro same
    have status := congrArg Session.status same.submitted.related.session
    exact absurd status (by decide +kernel)
  exact ⟨by decide +kernel, by decide +kernel, by decide +kernel, by decide +kernel, different⟩

end Shell

end CommandShell
