import CommandShell.Shell.Commands

namespace CommandShell

/-! What a segment comes to when it runs: nothing that can run, a builtin or a
program. -/

theorem Builtin.name_of_ofName? {name : Text} {builtin : Builtin}
    (found : Builtin.ofName? name = some builtin) : builtin.name = name := by
  have same := List.find?_some found
  simpa using same

theorem Builtin.call_eq_exit {builtin : Builtin} {operands : List Text} {operand : Option Text}
    (asks : builtin.call operands = .exit operand) :
    builtin = .exit ∧ operands.head? = operand := by
  unfold Builtin.call at asks
  split at asks
  · cases asks
  · split at asks <;> cases asks
    exact ⟨rfl, rfl⟩

theorem Builtin.call_eq_aliases {builtin : Builtin} {operands words : List Text}
    (asks : builtin.call operands = .aliases words) : builtin = .aliases ∧ operands = words := by
  unfold Builtin.call at asks
  split at asks
  · cases asks
  · split at asks <;> cases asks
    exact ⟨rfl, rfl⟩

theorem Builtin.call_eq_changeDirectory {builtin : Builtin} {operands : List Text}
    {target : Option Text} (asks : builtin.call operands = .changeDirectory target) :
    builtin = .cd ∧ operands = target.toList := by
  unfold Builtin.call at asks
  split at asks
  · cases asks
  · split at asks <;> cases asks
    · exact ⟨rfl, rfl⟩
    · exact ⟨rfl, rfl⟩

namespace Shell

/-! ## Builtins -/

/-- The builtin that carries out a segment, and its operands. -/
def dispatched (shell : Shell) (segment : Segment) : Option (Builtin × List Text) :=
  match segment.stray?, Text.words (shell.session.expand segment.text) with
  | none, name :: operands => (Builtin.ofName? name).map fun builtin => (builtin, operands)
  | _, _ => none

theorem stray_of_dispatched {shell : Shell} {segment : Segment}
    {order : Builtin × List Text} (calls : shell.dispatched segment = some order) :
    segment.stray? = none := by
  cases stray : segment.stray? with
  | none => rfl
  | some sign => simp [dispatched, stray] at calls

def settle (name : Text) : Attempt → Outcome × Shell
  | (.ok outcome, shell) => (outcome, shell)
  | (.error failure, shell) => shell.concludeFailure name failure

def calling (shell : Shell) (segment : Segment) (builtin : Builtin) (operands : List Text) :
    Shell :=
  (shell.log (.expanded segment.text (shell.session.expand segment.text))).log
    (.builtin builtin.name operands)

theorem segment_of_dispatched {shell : Shell} {segment : Segment} {builtin : Builtin}
    {operands : List Text} (calls : shell.dispatched segment = some (builtin, operands)) :
    shell.segment segment =
      settle builtin.name (carryOut builtin operands (shell.calling segment builtin operands)) := by
  unfold dispatched at calls
  split at calls
  next stray words =>
    rcases Option.map_eq_some_iff.mp calls with ⟨_, found, same⟩
    cases same
    have name := Builtin.name_of_ofName? found
    simp only [Shell.segment, stray, words, command, found, calling, name]
    rfl
  next => cases calls

theorem carryOut_of_ok {builtin : Builtin} {operands : List Text} {shell after : Shell}
    {outcome : Outcome}
    (succeeded : body builtin shell (builtin.call operands) = (.ok outcome, after)) :
    carryOut builtin operands shell = (.ok outcome, after) := by
  unfold carryOut
  cases call : builtin.call operands <;> rw [call] at succeeded <;> simp only [succeeded]

theorem carryOut_manual {builtin : Builtin} {operands : List Text}
    (manual : builtin.call operands = .manual) (shell : Shell) :
    carryOut builtin operands shell = body builtin shell .manual := by
  simp only [carryOut, manual]

theorem carryOut_of_error {builtin : Builtin} {operands : List Text} {shell after : Shell}
    {failure : Failure} (common : builtin.call operands ≠ .manual)
    (failed : body builtin shell (builtin.call operands) = (.error failure, after)) :
    carryOut builtin operands shell = complain builtin failure after := by
  unfold carryOut
  cases call : builtin.call operands with
  | manual => exact absurd call common
  | _ =>
    rw [call] at failed
    simp only [failed]

/-! ## Programs -/

theorem segment_of_not_dispatched {shell : Shell} {segment : Segment}
    (foreign : shell.dispatched segment = none) :
    (∃ sign, segment.stray? = some sign ∧
        shell.segment segment =
          (.status 2, shell.reportOrWarn none (Failure.unexpected [sign]).message)) ∨
      (segment.stray? = none ∧ Text.words (shell.session.expand segment.text) = [] ∧
        shell.segment segment =
          (.status 0, shell.log (.expanded segment.text (shell.session.expand segment.text)))) ∨
      (∃ name operands, segment.stray? = none ∧
        Text.words (shell.session.expand segment.text) = name :: operands ∧
        Builtin.ofName? name = none ∧
        shell.segment segment =
          (shell.log (.expanded segment.text (shell.session.expand segment.text))).command
            name operands) := by
  unfold dispatched at foreign
  cases stray : segment.stray? with
  | some sign => exact .inl ⟨sign, rfl, by simp only [Shell.segment, stray]; rfl⟩
  | none =>
    cases words : Text.words (shell.session.expand segment.text) with
    | nil => exact .inr (.inl ⟨rfl, rfl, by simp [Shell.segment, stray, words]⟩)
    | cons name operands =>
      have unknown : Builtin.ofName? name = none := by simpa [stray, words] using foreign
      exact .inr (.inr ⟨name, operands, rfl, rfl, unknown, by simp [Shell.segment, stray, words]⟩)

theorem command_of_foreign {name : Text} (unknown : Builtin.ofName? name = none)
    (shell : Shell) (operands : List Text) :
    shell.command name operands =
      match CommandSearch.find shell.world
          (shell.session.environment.get? (Text.ofString "PATH")) name with
      | .program path =>
        settle name (shell.launch ⟨path, name :: operands, shell.session.environment.strings⟩)
      | .obstacle _ => shell.refuse name .commandNotExecutable
      | .nothing => shell.refuse name .commandNotFound := by
  simp only [command, unknown]
  rfl

end Shell

end CommandShell
