import CommandShell.Proofs.Inheritance

namespace CommandShell

/-! Requests for the end of a session. A segment ends it only through the builtin `exit`, and
the code that the builtin asks for is the one that the session notes. -/

namespace Shell

/-! ## Attempts that do not end the session -/

def Stays (attempt : Attempt) : Prop :=
  ∀ code, attempt.1 ≠ .ok (.exit code)

theorem stays_status (status : Int) (shell : Shell) : Stays (.ok (.status status), shell) := by
  intro code same
  cases same

theorem stays_error (failure : Failure) (shell : Shell) : Stays (.error failure, shell) := by
  intro code same
  cases same

theorem stays_afterWriting {next : Shell → Attempt} (onward : ∀ shell, Stays (next shell))
    (written : Option Fault × Shell) : Stays (afterWriting next written) := by
  rcases written with ⟨_ | fault, shell⟩
  · exact onward shell
  · exact stays_error (.output fault) shell

theorem stays_print (shell : Shell) (text : Text) : Stays (shell.print text) := by
  rw [print_eq]
  exact stays_afterWriting (stays_status 0) _

theorem stays_serveOperands (status : Int) (operands : List Aliases.Operand) (shell : Shell) :
    Stays (serveOperands status operands shell) := by
  induction operands generalizing status shell with
  | nil => exact stays_status status shell
  | cons operand rest induction =>
    cases operand with
    | define name value => exact induction status _
    | display name =>
      cases found : shell.session.aliases.get? name with
      | some value =>
        rw [serveOperands_defined found]
        exact stays_afterWriting (induction status) _
      | none =>
        rw [serveOperands_undefined found]
        exact stays_afterWriting (induction 1) _

theorem stays_changeDirectory (shell : Shell) (target : Option Text) :
    Stays (shell.changeDirectory target) := by
  unfold changeDirectory
  split
  · exact stays_error _ shell
  · split
    · exact stays_error _ shell
    · dsimp only
      split
      · exact stays_print _ _
      · exact stays_status 0 _

theorem stays_body (builtin : Builtin) (shell : Shell) {call : Call}
    (other : ∀ operand, call ≠ .exit operand) : Stays (body builtin shell call) := by
  cases call with
  | exit operand => exact absurd rfl (other operand)
  | changeDirectory target => exact stays_changeDirectory shell target
  | overview => exact stays_print shell _
  | aliases operands =>
    simp only [body, defineAliases]
    split
    · exact stays_print shell _
    · exact stays_serveOperands 0 _ shell
  | listHistory => exact stays_print shell _
  | listEnvironment => exact stays_print shell _
  | setVariable name value =>
    simp only [body, Shell.setVariable]
    split
    · exact stays_status 0 _
    · exact stays_error _ shell
  | unsetVariable name => exact stays_status 0 _
  | manual => exact stays_print shell _
  | misuse message => exact stays_error _ shell

theorem stays_carryOut (builtin : Builtin) (operands : List Text) (shell : Shell)
    (other : ∀ operand, builtin.call operands ≠ .exit operand) :
    Stays (carryOut builtin operands shell) := by
  have stays := stays_body builtin shell other
  rcases attempt : body builtin shell (builtin.call operands) with ⟨failure | outcome, after⟩
  · by_cases manual : builtin.call operands = .manual
    · rw [carryOut_manual manual, ← manual]
      exact stays
    · rw [carryOut_of_error manual attempt, complain_eq]
      exact stays_afterWriting (stays_status failure.status) _
  · rw [carryOut_of_ok attempt, ← attempt]
    exact stays

theorem stays_launch (shell : Shell) (launch : Launch) : Stays (shell.launch launch) := by
  have launching := shell.launching launch
  generalize shell.launch launch = attempt at launching
  cases launching with
  | ended => exact stays_status _ _
  | _ => exact stays_error _ _

theorem settle_ne_exit {attempt : Attempt} (stays : Stays attempt) (name : Text) (code : Int) :
    (settle name attempt).1 ≠ .exit code := by
  rcases attempt with ⟨failure | outcome, shell⟩
  · intro exits
    cases exits
  · intro exits
    exact stays code (congrArg Except.ok exits)

/-- No segment asks for the end of the session but by `exit`. -/
theorem called_of_exit {shell : Shell} {segment : Segment} {code : Int}
    (asks : (shell.segment segment).1 = .exit code) :
    ∃ operand, shell.called segment = some (.exit operand) := by
  cases calls : shell.dispatched segment with
  | some order =>
    rcases order with ⟨builtin, operands⟩
    by_contra other
    have stays := stays_carryOut builtin operands (shell.calling segment builtin operands)
      fun operand exits => other ⟨operand, by simp [called, calls, exits]⟩
    rw [segment_of_dispatched calls] at asks
    exact settle_ne_exit stays builtin.name code asks
  | none =>
    rcases segment_of_not_dispatched calls with
      ⟨_, _, run⟩ | ⟨_, _, run⟩ | ⟨name, operands, _, _, unknown, run⟩
    · rw [run] at asks
      cases asks
    · rw [run] at asks
      cases asks
    · rw [run, command_of_foreign unknown] at asks
      split at asks
      · exact absurd asks (settle_ne_exit (stays_launch _ _) name code)
      · cases asks
      · cases asks

/-! ## What the session notes -/

theorem Act.verdict {words : List Text} {call : Option Call} {left right : Shell}
    (act : Act words call left right) :
    right.session.status = left.session.status ∧
      right.session.exitRequest = left.session.exitRequest := by
  cases act with
  | arrive asked moved =>
    unfold Shell.arrive
    cases left.world.directory? <;> exact ⟨rfl, rfl⟩
  | start asked arguments environment started =>
    rw [recordRun_eq]
    exact ⟨rfl, rfl⟩
  | _ => exact ⟨rfl, rfl⟩

theorem Acts.verdict {words : List Text} {call : Option Call} {left right : Shell}
    (acts : Acts words call left right) :
    right.session.status = left.session.status ∧
      right.session.exitRequest = left.session.exitRequest := by
  induction acts with
  | refl => exact ⟨rfl, rfl⟩
  | tail _ act induction =>
    exact ⟨act.verdict.1.trans induction.1, act.verdict.2.trans induction.2⟩

theorem exitRequest_chain (segments : Chain) (shell : Shell) :
    (chain segments shell).2.session.exitRequest =
        (chain segments shell).1.or shell.session.exitRequest ∧
      ∀ code ∈ (chain segments shell).1, (chain segments shell).2.session.status = code := by
  induction segments generalizing shell with
  | nil => exact ⟨rfl, by simp [chain]⟩
  | cons segment rest induction =>
    have kept := (acts_segment shell segment).verdict.2
    rcases chain_and_course_cons segment rest shell with
      ⟨status, after, _, run, chain, _⟩ | ⟨code, after, _, run, chain, _⟩ | ⟨_, chain, _⟩
    · rw [run] at kept
      rw [chain, ← kept]
      exact induction (after.noteStatus status)
    · rw [chain]
      refine ⟨rfl, ?_⟩
      intro other same
      cases same
      rfl
    · rw [chain]
      exact induction (shell.passOver segment)

/-- A request for the end is the last status, and replaces a request before it. -/
theorem exitRequest_submit (shell : Shell) (line : Text) :
    (shell.submit line).2.session.exitRequest =
        (shell.submit line).1.or shell.session.exitRequest ∧
      ∀ code ∈ (shell.submit line).1, (shell.submit line).2.session.status = code := by
  rcases submit_cases shell line with ⟨_, unanswered, session⟩ | ⟨segments, _, _, executed⟩
  · rw [unanswered, session]
    exact ⟨rfl, by simp⟩
  · rw [executed]
    exact exitRequest_chain segments (shell.begin line segments)

end Shell

/-! ## Steps -/

namespace Step

/-- Whether the step ran and asked this of a builtin. -/
def Asked (step : Step) (call : Call) : Prop :=
  step.Ran ∧ step.before.called step.segment = some call

theorem asked_of_request {step : Step} (lawful : step.IsLawful) {code : Int}
    (request : step.request? = some code) : ∃ operand, step.Asked (.exit operand) := by
  unfold request? at request
  split at request
  next outcome ran =>
    rcases Shell.called_of_exit (lawful.of_outcome ran).1 with ⟨operand, called⟩
    exact ⟨operand, by simp [Ran, ran], called⟩
  next => cases request

end Step

namespace Shell

/-- A line answers with the first request of its steps. -/
theorem answer_submit (shell : Shell) (line : Text) :
    (shell.submit line).1 = (shell.stepsOf line).findSome? Step.request? := by
  rw [stepsOf]
  cases split : Chain.ofLine line with
  | error operator => exact (submit_rejected split).1
  | ok segments =>
    cases segments with
    | nil => exact (submit_empty split).1
    | cons first rest =>
      rw [submit_chain split (List.cons_ne_nil first rest)]
      exact chain_answer (first :: rest) _

/-- Whatever a line holds and whatever fails in it, it ends the session only where a
segment of it has run as `exit`. -/
theorem asked_of_submit {shell : Shell} {line : Text} {code : Int}
    (ends : (shell.submit line).1 = some code) :
    ∃ step ∈ shell.stepsOf line, ∃ operand, step.Asked (.exit operand) := by
  rw [answer_submit] at ends
  rcases List.exists_of_findSome?_eq_some ends with ⟨step, member, request⟩
  rcases Step.asked_of_request (isLawful_of_mem_stepsOf step member) request with ⟨operand, asked⟩
  exact ⟨step, member, operand, asked⟩

end Shell

end CommandShell
