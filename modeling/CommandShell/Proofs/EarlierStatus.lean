import CommandShell.Proofs.Inheritance
import CommandShell.Proofs.Simulation

namespace CommandShell

/-! What a line can tell of the status that the lines before it have left. The first
segment of a line leaves a status of its own, whatever becomes of it, so that nothing
but this segment can tell: by a reference to the status, or by asking for the end of
the session without a status for it. -/

/-! ## References to the status -/

namespace Piece

/-- What has been read of a reference to the status. -/
def Progress.opening : Progress → Text
  | .dollar => ['$']
  | .plain | .name _ => []

theorem opening_fresh_isSuffix (character : Char) :
    (fresh character).2.opening <:+ [character] := by
  unfold fresh
  split
  next dollar => simp [dollar, Progress.opening]
  next => exact List.nil_suffix

theorem status_not_mem_fresh (character : Char) : .status ∉ (fresh character).1 := by
  unfold fresh
  split <;> simp

theorem opening_step_isSuffix (character : Char) (progress : Progress) :
    (step character progress).2.opening <:+ [character] := by
  cases progress with
  | plain => exact opening_fresh_isSuffix character
  | dollar => grind [step, Progress.opening]
  | name characters =>
    by_cases named : isNameCharacter character = true
    · simp [step, named, Progress.opening]
    · simpa [step, named] using opening_fresh_isSuffix character

/-- The sign for the status is understood only behind a dollar sign. -/
theorem status_mem_step {character : Char} {progress : Progress}
    (refers : .status ∈ (step character progress).1) : progress = .dollar ∧ character = '?' := by
  cases progress with
  | plain => exact absurd refers (status_not_mem_fresh character)
  | dollar => grind [step]
  | name characters =>
    by_cases named : isNameCharacter character = true
    · simp [step, named] at refers
    · exact absurd (by simpa [step, named] using refers) (status_not_mem_fresh character)

theorem infix_of_status_mem_ofTextFrom {text : Text} {progress : Progress}
    (refers : .status ∈ ofTextFrom progress text) :
    ['$', '?'] <:+: progress.opening ++ text := by
  induction text generalizing progress with
  | nil => cases progress <;> simp [ofTextFrom, Progress.finish] at refers
  | cons character rest induction =>
    rcases List.mem_append.mp refers with here | later
    · rcases status_mem_step here with ⟨rfl, rfl⟩
      exact (List.prefix_append ['$', '?'] rest).isInfix
    · rcases opening_step_isSuffix character progress with ⟨front, opens⟩
      have whole : front ++ ((step character progress).2.opening ++ rest) = character :: rest := by
        rw [← List.append_assoc, opens, List.singleton_append]
      rw [← whole]
      exact ((induction later).trans (List.suffix_append front _).isInfix).trans
        (List.suffix_append progress.opening _).isInfix

theorem infix_of_status_mem {text : Text} (refers : .status ∈ ofText text) :
    ['$', '?'] <:+: text :=
  infix_of_status_mem_ofTextFrom refers

end Piece

/-! ## Shells that differ in their status -/

namespace Shell

/-- All there is to a shell but its status. -/
def besideStatus (shell : Shell) : Shell :=
  { shell with session := { shell.session with status := 0 } }

variable {left right : Shell}

theorem written_besideStatus (same : left.besideStatus = right.besideStatus) (stream : Stream)
    (text : Text) :
    Agree (fun left right => left.besideStatus = right.besideStatus) (left.write stream text)
      (right.write stream text) :=
  ⟨congrArg (fun shell => (shell.write stream text).1) same,
    congrArg (fun shell => (shell.write stream text).2) same⟩

theorem reportsAgree_besideStatus :
    ReportsAgree fun left right => left.besideStatus = right.besideStatus := by
  intro left right same command message
  exact ⟨congrArg (fun shell => (shell.report command message).1) same,
    congrArg (fun shell => (shell.report command message).2) same⟩

theorem coupling_besideStatus :
    Coupling fun left right => left.besideStatus = right.besideStatus where
  seen := by
    intro left right same
    have seen : SeenAlike left.besideStatus right.besideStatus := same ▸ .refl left.besideStatus
    exact ⟨seen.environment, seen.aliases, seen.previousDirectory, seen.processId, seen.world,
      seen.flushFault⟩
  record := fun same event => congrArg (fun shell => shell.record event) same
  print := fun same text => written_besideStatus same .output text
  listHistory := by
    intro left right same
    have histories := congrArg (fun shell => shell.session.history) same
    have listings : left.session.history = right.session.history := histories
    rw [listings]
    exact written_besideStatus same .output _
  revise := fun same environment aliases previousDirectory world =>
    congrArg (fun shell => shell.revise environment aliases previousDirectory world) same
  reportOrWarn := fun same command message =>
    (reportsAgree_besideStatus _ _ same command message).warned fun same event =>
      congrArg (fun shell => shell.record event) same

/-- A status that is noted replaces the one before. -/
theorem conclude_eq_of_besideStatus (same : left.besideStatus = right.besideStatus)
    (outcome : Outcome) : left.conclude outcome = right.conclude outcome := by
  have concluded := congrArg (fun shell => shell.conclude outcome) same
  cases outcome <;> exact concluded

end Shell

/-! ## Chains -/

/-- What a step has come to, apart from how it has begun. -/
def Step.result (step : Step) : Segment × Option Outcome × Shell :=
  (step.segment, step.outcome, step.after)

namespace Shell

variable {left right : Shell}

/-- A chain whose first segment runs and does not ask for the status goes on alike. -/
theorem chain_of_besideStatus (same : left.besideStatus = right.besideStatus) {first : Segment}
    (rest : Chain) (opening : first.operator = none) (unasked : ¬ left.AsksForStatus first) :
    chain (first :: rest) left = chain (first :: rest) right ∧
      (course (first :: rest) left).map Step.result =
        (course (first :: rest) right).map Step.result := by
  have runs : ∀ shell : Shell, first.runsAfter shell.session.status = true := by
    intro shell
    rw [Segment.runsAfter, opening]
  have agree := coupling_besideStatus.segment reportsAgree_besideStatus same
    fun asks => absurd asks unasked
  rcases leftRun : left.segment first with ⟨outcome, leftAfter⟩
  rcases rightRun : right.segment first with ⟨other, rightAfter⟩
  rw [leftRun, rightRun] at agree
  rcases agree with ⟨⟨⟩, sameAfter⟩
  have concluded := conclude_eq_of_besideStatus sameAfter outcome
  cases outcome with
  | status status =>
    rcases chain_of_status rest (runs left) leftRun with ⟨leftChain, leftCourse⟩
    rcases chain_of_status rest (runs right) rightRun with ⟨rightChain, rightCourse⟩
    simp only [conclude] at concluded
    rw [leftChain, rightChain, leftCourse, rightCourse, concluded]
    exact ⟨rfl, rfl⟩
  | exit code =>
    rcases chain_of_exit rest (runs left) leftRun with ⟨leftChain, leftCourse⟩
    rcases chain_of_exit rest (runs right) rightRun with ⟨rightChain, rightCourse⟩
    simp only [conclude] at concluded
    rw [leftChain, rightChain, leftCourse, rightCourse, concluded]
    exact ⟨rfl, rfl⟩

/-! ## Lines -/

/-- A line that cannot tell what status the shell has: it is rejected, or its first segment
cannot run, or that segment is no `exit` without operands and, its alias replaced, either
keeps its references or has none to the status. -/
inductive LeavesStatusUnread (shell : Shell) (line : Text) : Prop where
  | rejected {operator : Operator} (split : Chain.ofLine line = .error operator)
  | stray {first : Segment} {rest : Chain} {sign : Char}
    (split : Chain.ofLine line = .ok (first :: rest)) (stray : first.stray? = some sign)
  | command {first : Segment} {rest : Chain} (split : Chain.ofLine line = .ok (first :: rest))
    (words : shell.wordsOf first ≠ [Text.ofString "exit"])
    (references : Session.keepsReferences (shell.session.aliases.replace first.text) = true ∨
      ¬ Text.ofString "$?" <:+: shell.session.aliases.replace first.text)

theorem not_asksForStatus {shell : Shell} {segment : Segment}
    (words : shell.wordsOf segment ≠ [Text.ofString "exit"])
    (references : Session.keepsReferences (shell.session.aliases.replace segment.text) = true ∨
      ¬ Text.ofString "$?" <:+: shell.session.aliases.replace segment.text) :
    ¬ shell.AsksForStatus segment := by
  rintro ⟨_, ⟨substitutes, refers⟩ | calls⟩
  · rcases references with keeps | free
    · exact Bool.false_ne_true (substitutes.symm.trans keeps)
    · exact free (Piece.infix_of_status_mem refers)
  · exact words (wordsOf_of_dispatched calls)

/-- A line that leaves the status unread has the same answer in shells that differ in
nothing else. Its segments run alike and come to the same, down to the shell that they
leave with its transcript, and so does the line, whatever its later segments ask for. -/
theorem submit_eq_of_status_unread (same : left.besideStatus = right.besideStatus) {line : Text}
    (unread : left.LeavesStatusUnread line) :
    left.submit line = right.submit line ∧
      (left.stepsOf line).map Step.result = (right.stepsOf line).map Step.result := by
  have onward : ∀ {first : Segment} {rest : Chain}, Chain.ofLine line = .ok (first :: rest) →
      ¬ left.AsksForStatus first →
      left.submit line = right.submit line ∧
        (left.stepsOf line).map Step.result = (right.stepsOf line).map Step.result := by
    intro first rest split unasked
    have begun : (left.begin line (first :: rest)).besideStatus =
        (right.begin line (first :: rest)).besideStatus :=
      congrArg (fun shell => shell.begin line (first :: rest)) same
    have operators := Chain.operators_of_ofLine split
    have inhabited := List.cons_ne_nil first rest
    rw [submit_chain split inhabited, submit_chain split inhabited, stepsOf, stepsOf, split]
    exact chain_of_besideStatus begun rest operators.1 unasked
  cases unread with
  | @rejected operator split =>
    have logged := coupling_besideStatus.log same (.trailingOperator operator.symbol)
    have reported := coupling_besideStatus.reportOrWarn logged none
      (Failure.unexpected operator.symbol).message
    have concluded := conclude_eq_of_besideStatus reported (.status 2)
    simp only [submit, stepsOf, split]
    exact ⟨congrArg (Prod.mk none) concluded, trivial⟩
  | stray split stray =>
    refine onward split fun asks => ?_
    cases stray.symm.trans asks.1
  | command split words references =>
    exact onward split (not_asksForStatus words references)

/-- The first segment keeps its reference to the status. The second refers to the status
that the first has left, and the last asks for the end with that of the second. -/
theorem submit_eq_of_status_unread_of_alias :
    let shell : Shell :=
      { settings := { mode := .standardInput }
        session := .ofEnvironment .empty [] 7
        world := { files := .empty } }
    let left := shell.noteStatus 3
    let line := Text.ofString "alias s=$? && cd /$? || exit"
    left.besideStatus = shell.besideStatus ∧ left.LeavesStatusUnread line ∧
      left.submit line = shell.submit line ∧ (left.submit line).1 = some 2 := by
  intro shell left line
  have same : left.besideStatus = shell.besideStatus := rfl
  have unread : left.LeavesStatusUnread line :=
    @LeavesStatusUnread.command left line ⟨none, Text.ofString "alias s=$?"⟩
      [⟨some .and, Text.ofString "cd /$?"⟩, ⟨some .or, Text.ofString "exit"⟩]
      (by decide +kernel) (by decide +kernel) (.inl (by decide +kernel))
  have equal := submit_eq_of_status_unread same unread
  exact ⟨same, unread, equal.1, by decide +kernel⟩

end Shell

end CommandShell
