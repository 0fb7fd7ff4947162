import CommandShell.Proofs.Acts
import CommandShell.Proofs.Course
import CommandShell.Shell.Run

namespace CommandShell

/-! What is kept by the segments of a chain is kept by chains, and what is kept by all that
happens between two lines as well is kept by whole runs, wherever their lines come from. -/

/-- Where the lines of a run come from. -/
inductive Source where
  /-- What is read does not depend on what the lines do. -/
  | listed (readings : List Reading)
  /-- The standard input, of which programs take their part. -/
  | standardInput (decoding : LineReader.Decoding)

namespace Chain

/-- Whether a line is understood and holds a command. -/
def hasCommand (line : Text) : Bool :=
  match ofLine line with
  | .ok (_ :: _) => true
  | _ => false

end Chain

namespace Shell

/-- The shell when a source has run dry or a line has ended the session. -/
def drain (shell : Shell) : Source → Shell
  | .listed readings => takeAll readings shell
  | .standardInput decoding =>
    takeInput (shell.world.input.flatten.length + 1) ⟨[], [], .finished, decoding⟩ shell

def runOver (shell : Shell) (source : Source) : Int × Shell :=
  ((shell.drain source).close.result, (shell.drain source).close)

theorem runOver_listed (shell : Shell) (readings : List Reading) :
    shell.runOver (.listed readings) = shell.run readings := rfl

def countLine (shell : Shell) : Shell :=
  { shell with session := { shell.session with lineNumber := shell.session.lineNumber + 1 } }

def withInput (shell : Shell) (input : List Bytes) : Shell :=
  { shell with world := { shell.world with input := input } }

theorem session_eq_of_withoutDetails {left right : Shell}
    (same : left.withoutDetails = right.withoutDetails) : left.session = right.session := by
  have sessions := congrArg Shell.session same
  exact sessions

/-- A line without a command leaves at most a status and a diagnostic in the session, and
any other line is executed as a chain. -/
theorem submit_cases (shell : Shell) (line : Text) :
    (Chain.hasCommand line = false ∧ (shell.submit line).1 = none ∧
      (shell.submit line).2.session =
        { shell.session with
          status := (shell.submit line).2.session.status
          complaints := (shell.submit line).2.session.complaints }) ∨
    ∃ segments, Chain.hasCommand line = true ∧ Chain.ofLine line = .ok segments ∧
      shell.submit line = chain segments (shell.begin line segments) := by
  cases split : Chain.ofLine line with
  | error operator =>
    rcases submit_rejected split with ⟨unanswered, after⟩
    refine .inl ⟨by simp [Chain.hasCommand, split], unanswered, ?_⟩
    rw [session_eq_of_withoutDetails after]
    rfl
  | ok segments =>
    cases segments with
    | nil =>
      rcases submit_empty split with ⟨unanswered, after⟩
      refine .inl ⟨by simp [Chain.hasCommand, split], unanswered, ?_⟩
      rw [session_eq_of_withoutDetails after]
    | cons first rest =>
      exact .inr ⟨first :: rest, by simp [Chain.hasCommand, split], rfl,
        submit_chain split (List.cons_ne_nil first rest)⟩

/-! ## Invariants -/

structure ChainInvariant (Holds : Shell → Prop) : Prop where
  record : ∀ {shell}, Holds shell → ∀ event, Holds (shell.record event)
  segment : ∀ {shell}, Holds shell → ∀ segment, Holds (shell.segment segment).2
  conclude : ∀ {shell}, Holds shell → ∀ outcome, Holds (shell.conclude outcome)

/-- What is kept by runs over the lines that are admitted. -/
structure RunInvariant (Admits : Text → Prop) (Holds : Shell → Prop) : Prop extends
    ChainInvariant Holds where
  write : ∀ {shell}, Holds shell → ∀ stream text, Holds (shell.write stream text).2
  complain : ∀ {shell}, Holds shell → Holds shell.countComplaint
  remember : ∀ {shell}, Holds shell → ∀ {line}, Admits line → Chain.hasCommand line = true →
    Holds (shell.remember line)
  count : ∀ {shell}, Holds shell → Holds shell.countLine
  input : ∀ {shell}, Holds shell → ∀ input, Holds (shell.withInput input)

end Shell

def Source.Offers (Admits : Text → Prop) : Source → Prop
  | .listed readings => ∀ line, .line line ∈ readings → Admits line
  | .standardInput decoding =>
    ∀ reader : LineReader, reader.decoding = decoding →
      ∀ line, reader.next.1 = .line line → Admits line

theorem Source.offers_anything (source : Source) : source.Offers fun _ => True := by
  cases source with
  | listed => exact fun _ _ => trivial
  | standardInput => exact fun _ _ _ _ => trivial

namespace Shell

variable {Admits : Text → Prop} {Holds : Shell → Prop} {shell : Shell}

/-- A chain keeps an invariant up to each of its steps and to its end. -/
theorem ChainInvariant.chain (invariant : ChainInvariant Holds) (holds : Holds shell)
    (segments : Chain) :
    Holds (Shell.chain segments shell).2 ∧ ∀ step ∈ course segments shell, Holds step.before := by
  induction segments generalizing shell with
  | nil => exact ⟨holds, by simp [course]⟩
  | cons segment rest induction =>
    have segmentKeeps := invariant.segment holds segment
    rcases chain_and_course_cons segment rest shell with
      ⟨status, after, _, run, chain, course⟩ | ⟨code, after, _, run, chain, course⟩ |
      ⟨_, chain, course⟩
    · rw [run] at segmentKeeps
      rw [chain, course, List.forall_mem_cons]
      rcases induction (invariant.conclude segmentKeeps (.status status)) with ⟨atEnd, between⟩
      exact ⟨atEnd, holds, between⟩
    · rw [run] at segmentKeeps
      have atEnd := invariant.conclude segmentKeeps (.exit code)
      rw [chain, course, List.forall_mem_cons]
      refine ⟨atEnd, holds, fun step member => ?_⟩
      rcases List.mem_map.mp member with ⟨_, _, rfl⟩
      exact atEnd
    · rw [chain, course, List.forall_mem_cons]
      rcases induction (invariant.record holds _) with ⟨atEnd, between⟩
      exact ⟨atEnd, holds, between⟩

namespace RunInvariant

theorem reportOrWarn (invariant : RunInvariant Admits Holds) (holds : Holds shell)
    (command : Option Text) (message : Text) : Holds (shell.reportOrWarn command message) :=
  reportOrWarn_keeps (invariant.complain holds) (fun holds => invariant.write holds .error)
    (fun holds _ => invariant.record holds _) command message

theorem begin (invariant : RunInvariant Admits Holds) (holds : Holds shell) {line : Text}
    (admits : Admits line) {segments : Chain} (split : Chain.ofLine line = .ok segments)
    (inhabited : segments ≠ []) : Holds (shell.begin line segments) := by
  have command : Chain.hasCommand line = true := by
    cases segments with
    | nil => exact absurd rfl inhabited
    | cons first rest => simp [Chain.hasCommand, split]
  exact invariant.remember (invariant.record holds _) admits command

theorem submit (invariant : RunInvariant Admits Holds) (holds : Holds shell) {line : Text}
    (admits : Admits line) : Holds (shell.submit line).2 := by
  cases split : Chain.ofLine line with
  | error operator =>
    simp only [Shell.submit, split]
    have reported := invariant.reportOrWarn
      (invariant.record holds (.logged (.detail (.trailingOperator operator.symbol)))) none
      (Failure.unexpected operator.symbol).message
    exact invariant.conclude reported (.status 2)
  | ok segments =>
    cases segments with
    | nil =>
      simp only [Shell.submit, split]
      exact invariant.record holds _
    | cons first rest =>
      have inhabited := List.cons_ne_nil first rest
      have begun := invariant.begin holds admits split inhabited
      rw [submit_chain split inhabited]
      exact (invariant.toChainInvariant.chain begun _).1

theorem flush (invariant : RunInvariant Admits Holds) (holds : Holds shell) : Holds shell.flush := by
  unfold Shell.flush
  split
  · exact holds
  · exact invariant.record holds _

theorem breakLine (invariant : RunInvariant Admits Holds) (holds : Holds shell) :
    Holds shell.breakLine := by
  have written := invariant.write holds .output ['\n']
  unfold Shell.breakLine
  split
  · split
    next after same => simpa [same] using written
    next fault after same =>
      rw [same] at written
      exact invariant.record written _
  · exact holds

theorem accept (invariant : RunInvariant Admits Holds) (holds : Holds shell) (line : Text) :
    Holds (shell.accept line) := by
  unfold Shell.accept
  dsimp only
  split
  · exact invariant.count holds
  · exact invariant.record (invariant.count holds) _

theorem take_line (shell : Shell) (line : Text) :
    (shell.take (.line line)).2 = ((shell.accept line).submit line).2 := by
  unfold Shell.take
  dsimp only
  split <;> simp_all

theorem take (invariant : RunInvariant Admits Holds) (holds : Holds shell) {reading : Reading}
    (admits : ∀ line, reading = .line line → Admits line) : Holds (shell.take reading).2 := by
  cases reading with
  | line line =>
    rw [take_line]
    exact invariant.submit (invariant.accept holds line) (admits line rfl)
  | interrupt => exact invariant.breakLine holds
  | endOfInput => exact invariant.breakLine holds
  | failure message => exact invariant.breakLine (invariant.record holds _)

theorem invite (invariant : RunInvariant Admits Holds) (holds : Holds shell) : Holds shell.invite :=
  invariant.record (invariant.flush holds) _

theorem takeAll (invariant : RunInvariant Admits Holds) (holds : Holds shell)
    {readings : List Reading} (admits : ∀ line, .line line ∈ readings → Admits line) :
    Holds (Shell.takeAll readings shell) := by
  induction readings generalizing shell with
  | nil =>
    have noLine : ∀ line, Reading.endOfInput = .line line → Admits line := nofun
    exact invariant.take (invariant.invite holds) noLine
  | cons reading rest induction =>
    have here : ∀ line, reading = .line line → Admits line :=
      fun line same => admits line (same ▸ List.mem_cons_self)
    have taken := invariant.take (invariant.invite holds) here
    rw [Shell.takeAll]
    split
    next after run =>
      rw [run] at taken
      exact induction taken fun line member => admits line (List.mem_cons_of_mem _ member)
    next after run =>
      rw [run] at taken
      exact taken

theorem takeInput (invariant : RunInvariant Admits Holds) (holds : Holds shell) (limit : Nat)
    {reader : LineReader} (admits : Source.Offers Admits (.standardInput reader.decoding)) :
    Holds (Shell.takeInput limit reader shell) := by
  induction limit generalizing shell reader with
  | zero => exact holds
  | succ limit induction =>
    let offered : LineReader := { reader with deliveries := shell.invite.world.input }
    have readied : Holds (shell.invite.withInput offered.next.2.deliveries) :=
      invariant.input (invariant.invite holds) _
    have taken := invariant.take readied (admits offered rfl)
    have onward := offered.decoding_next
    rw [Shell.takeInput, readLine]
    dsimp only
    split
    next after run =>
      rw [withInput, run] at taken
      apply induction taken
      rw [onward]
      exact admits
    next after run =>
      rw [withInput, run] at taken
      exact taken

theorem drain (invariant : RunInvariant Admits Holds) (holds : Holds shell) {source : Source}
    (admits : source.Offers Admits) : Holds (shell.drain source) := by
  cases source with
  | listed readings => exact invariant.takeAll holds admits
  | standardInput decoding => exact invariant.takeInput holds _ admits

theorem saveHistory (invariant : RunInvariant Admits Holds) (holds : Holds shell)
    (saved : ∀ world, Holds { shell with world := world }) : Holds shell.saveHistory := by
  unfold Shell.saveHistory
  split
  · exact holds
  · dsimp only
    split
    · exact invariant.record (saved _) _
    · exact invariant.record holds _

end RunInvariant

/-! ## Everything that can be asked of a shell -/

end Shell

/-- The last three are what a run does between the lines that it submits. -/
inductive Operation where
  | submit (line : Text)
  | run (source : Source)
  | noteStatus (status : Int)
  | close
  | invite
  | accept (line : Text)
  | breakLine

def Operation.perform (shell : Shell) : Operation → Shell
  | .submit line => (shell.submit line).2
  | .run source => (shell.runOver source).2
  | .noteStatus status => shell.noteStatus status
  | .close => shell.close
  | .invite => shell.invite
  | .accept line => shell.accept line
  | .breakLine => shell.breakLine

namespace Shell

/-- The shell in another world, with other sinks to write to. -/
def surroundedBy (shell : Shell) (world : World) (output error : Sink) : Shell :=
  { shell with
    world := world
    console := { shell.console with output := output, error := error } }

/-- The shells that operations lead to, between which the files and whatever takes the
output may change in any way. -/
inductive Reached (first : Shell) : Shell → Prop
  | start : Reached first first
  | perform {shell : Shell} (reached : Reached first shell) (operation : Operation) :
      Reached first (operation.perform shell)
  | surround {shell : Shell} (reached : Reached first shell) (world : World)
      (output error : Sink) : Reached first (shell.surroundedBy world output error)

structure SessionInvariant (Holds : Shell → Prop) : Prop extends
    RunInvariant (fun _ => True) Holds where
  surround : ∀ {shell}, Holds shell → ∀ world output error,
    Holds (shell.surroundedBy world output error)

/-- Operations keep what runs and saving keep. -/
theorem RunInvariant.perform (invariant : RunInvariant (fun _ => True) Holds)
    (saves : ∀ {shell}, Holds shell → Holds shell.saveHistory) (holds : Holds shell)
    (operation : Operation) : Holds (operation.perform shell) := by
  cases operation with
  | submit line => exact invariant.submit holds trivial
  | run source => exact saves (invariant.flush (invariant.drain holds source.offers_anything))
  | noteStatus status => exact invariant.conclude holds (.status status)
  | close => exact saves (invariant.flush holds)
  | invite => exact invariant.invite holds
  | accept line => exact invariant.accept holds line
  | breakLine => exact invariant.breakLine holds

namespace SessionInvariant

theorem saveHistory (invariant : SessionInvariant Holds) {shell : Shell} (holds : Holds shell) :
    Holds shell.saveHistory := by
  apply invariant.toRunInvariant.saveHistory holds
  intro world
  exact invariant.surround holds world shell.console.output shell.console.error

theorem reached (invariant : SessionInvariant Holds) {first : Shell} (holds : Holds first)
    (reached : Reached first shell) : Holds shell := by
  induction reached with
  | start => exact holds
  | perform _ operation induction =>
    exact invariant.toRunInvariant.perform invariant.saveHistory induction operation
  | surround _ world output error induction => exact invariant.surround induction world output error

end SessionInvariant

end Shell

end CommandShell
