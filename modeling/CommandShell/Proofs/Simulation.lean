import CommandShell.Proofs.Course
import CommandShell.Proofs.Dispatch
import Mathlib.Data.List.Basic

namespace CommandShell.Shell

/-! Two shells side by side. A relation between them that every elementary act of a
command maintains is maintained by whole commands and by whole chains. -/

structure Agree {Answer : Type} (Related : Shell → Shell → Prop)
    (left right : Answer × Shell) : Prop where
  answer : left.1 = right.1
  related : Related left.2 right.2

/-- The same for all that a command can see, the history and the status apart. -/
structure SeenAlike (left right : Shell) : Prop where
  environment : left.session.environment = right.session.environment
  aliases : left.session.aliases = right.session.aliases
  previousDirectory : left.session.previousDirectory = right.session.previousDirectory
  processId : left.session.processId = right.session.processId
  world : left.world = right.world
  flushFault : left.console.flushFault? = right.console.flushFault?

/-- The shell with other values for what commands change directly. -/
def revise (shell : Shell) (environment : Environment) (aliases : Aliases)
    (previousDirectory : Option Text) (world : World) : Shell :=
  { shell with
    world := world
    session :=
      { shell.session with
        environment := environment
        aliases := aliases
        previousDirectory := previousDirectory } }

/-- A relation that each elementary act maintains. It leaves open whether the statuses
are the same, which only matters to what asks for the status. -/
structure Coupling (Related : Shell → Shell → Prop) : Prop where
  seen : ∀ {left right}, Related left right → SeenAlike left right
  record : ∀ {left right}, Related left right → ∀ event,
    Related (left.record event) (right.record event)
  print : ∀ {left right}, Related left right → ∀ text,
    Agree Related (left.write .output text) (right.write .output text)
  listHistory : ∀ {left right}, Related left right →
    Agree Related (left.write .output (historyListing left.session.history))
      (right.write .output (historyListing right.session.history))
  revise : ∀ {left right}, Related left right → ∀ environment aliases previousDirectory world,
    Related (left.revise environment aliases previousDirectory world)
      (right.revise environment aliases previousDirectory world)
  reportOrWarn : ∀ {left right}, Related left right → ∀ command message,
    Related (left.reportOrWarn command message) (right.reportOrWarn command message)

/-- A relation that the steps of a chain maintain, between shells with the same status. -/
structure Simulation (Related : Shell → Shell → Prop) : Prop extends Coupling Related where
  status : ∀ {left right}, Related left right → left.session.status = right.session.status
  conclude : ∀ {left right}, Related left right → ∀ outcome,
    Related (left.conclude outcome) (right.conclude outcome)

/-- A diagnostic can be written on both sides or on none. -/
def ReportsAgree (Related : Shell → Shell → Prop) : Prop :=
  ∀ left right, Related left right → ∀ command message,
    Agree Related (left.report command message) (right.report command message)

/-- A diagnostic that is reported alike is also warned of alike. -/
theorem Agree.warned {Related : Shell → Shell → Prop} {left right : Shell}
    {command : Option Text} {message : Text}
    (agree : Agree Related (left.report command message) (right.report command message))
    (record : ∀ {left right}, Related left right → ∀ event,
      Related (left.record event) (right.record event)) :
    Related (left.reportOrWarn command message) (right.reportOrWarn command message) := by
  unfold Shell.reportOrWarn
  generalize left.report command message = leftReport at agree ⊢
  generalize right.report command message = rightReport at agree ⊢
  rcases leftReport with ⟨answer, leftAfter⟩
  rcases rightReport with ⟨other, rightAfter⟩
  rcases agree with ⟨⟨⟩, related⟩
  cases answer with
  | none => exact related
  | some fault => exact record related _

/-! ## What commands see -/

end Shell

/-- Whether the expansion of a text shows the status. -/
def Session.RefersToStatus (session : Session) (text : Text) : Prop :=
  keepsReferences (session.aliases.replace text) = false ∧
    .status ∈ Piece.ofText (session.aliases.replace text)

namespace Shell

/-- Whether a segment that runs asks for the status: by a reference, or because it asks
for the end of the session and names no status for that. -/
def AsksForStatus (shell : Shell) (segment : Segment) : Prop :=
  segment.stray? = none ∧
    (shell.session.RefersToStatus segment.text ∨ shell.dispatched segment = some (.exit, []))

theorem SeenAlike.refl (shell : Shell) : SeenAlike shell shell :=
  ⟨rfl, rfl, rfl, rfl, rfl, rfl⟩

theorem SeenAlike.expand {left right : Shell} (seen : SeenAlike left right) {text : Text}
    (status : left.session.RefersToStatus text → left.session.status = right.session.status) :
    left.session.expand text = right.session.expand text := by
  have values : Session.keepsReferences (left.session.aliases.replace text) = false →
      ∀ piece ∈ Piece.ofText (left.session.aliases.replace text),
        left.session.valueOf piece = right.session.valueOf piece := by
    intro substitutes piece member
    rcases piece with character | _ | _ | name
    · rfl
    · exact congrArg Text.ofInt (status ⟨substitutes, member⟩)
    · exact congrArg Text.ofNat seen.processId
    · rw [Session.valueOf, Session.valueOf, seen.environment]
  simp only [Session.expand, ← seen.aliases]
  cases keeps : Session.keepsReferences (left.session.aliases.replace text) with
  | true => rfl
  | false => exact List.flatMap_congr (values keeps)

theorem dispatched_congr {left right : Shell} {segment : Segment}
    (alike : segment.stray? = none →
      left.session.expand segment.text = right.session.expand segment.text) :
    left.dispatched segment = right.dispatched segment := by
  unfold Shell.dispatched
  cases stray : segment.stray? with
  | some sign => rfl
  | none => rw [alike stray]

theorem SeenAlike.destination {left right : Shell} (seen : SeenAlike left right)
    (target : Option Text) :
    destination left.session target = destination right.session target := by
  unfold Shell.destination
  rw [seen.environment, seen.previousDirectory]

/-- The operand of `alias` that is the first to ask for an undefined name: the aliases
at its turn, and the operands after it. -/
def firstMissing (aliases : Aliases) :
    List Aliases.Operand → Option (Aliases × List Aliases.Operand)
  | [] => none
  | .define name value :: rest => firstMissing (aliases.set name value) rest
  | .display name :: rest =>
    match aliases.get? name with
    | some _ => firstMissing aliases rest
    | none => some (aliases, rest)

namespace Coupling

variable {Related : Shell → Shell → Prop} {left right : Shell}

/-! ## Acts -/

theorem log (coupling : Coupling Related) (related : Related left right) (detail : Detail) :
    Related (left.log detail) (right.log detail) :=
  coupling.record related _

/-- Both shells are changed in the same way. -/
theorem changed (coupling : Coupling Related) (related : Related left right)
    (environment : Environment → Environment) (aliases : Aliases → Aliases)
    (previousDirectory : Option Text → Option Text) (world : World → World) :
    Related
      (left.revise (environment left.session.environment) (aliases left.session.aliases)
        (previousDirectory left.session.previousDirectory) (world left.world))
      (right.revise (environment right.session.environment) (aliases right.session.aliases)
        (previousDirectory right.session.previousDirectory) (world right.world)) := by
  have seen := coupling.seen related
  rw [seen.environment, seen.aliases, seen.previousDirectory, seen.world]
  exact coupling.revise related _ _ _ _

/-- What depends on a write goes alike on both sides if the writes do. -/
theorem written {leftWrite rightWrite : Option Fault × Shell}
    (agree : Agree Related leftWrite rightWrite) {leftNext rightNext : Shell → Attempt}
    (next : Related leftWrite.2 rightWrite.2 →
      Agree Related (leftNext leftWrite.2) (rightNext rightWrite.2)) :
    Agree Related (afterWriting leftNext leftWrite) (afterWriting rightNext rightWrite) := by
  rcases leftWrite with ⟨answer, left⟩
  rcases rightWrite with ⟨other, right⟩
  rcases agree with ⟨⟨⟩, related⟩
  cases answer with
  | none => exact next related
  | some fault => exact ⟨rfl, related⟩

theorem printed {leftText rightText : Text}
    (agree : Agree Related (left.write .output leftText) (right.write .output rightText)) :
    Agree Related (left.print leftText) (right.print rightText) := by
  rw [print_eq, print_eq]
  exact written agree fun related => ⟨rfl, related⟩

theorem exit (related : Related left right) (operand : Option Text)
    (status : operand = none → left.session.status = right.session.status) :
    Agree Related (left.exit operand) (right.exit operand) := by
  unfold Shell.exit
  cases operand with
  | none => exact ⟨by rw [status rfl], related⟩
  | some operand =>
    cases code : Builtin.exitCode? operand <;> simp only [code] <;> exact ⟨rfl, related⟩

theorem changeDirectory (coupling : Coupling Related) (related : Related left right)
    (target : Option Text) :
    Agree Related (left.changeDirectory target) (right.changeDirectory target) := by
  have seen := coupling.seen related
  unfold Shell.changeDirectory
  rw [seen.destination, seen.world]
  cases destination right.session target with
  | error failure => exact ⟨rfl, related⟩
  | ok place =>
    rcases place with ⟨directory, announced⟩
    cases moved : right.world.changeDirectory directory with
    | error fault =>
      simp only [moved]
      exact ⟨rfl, related⟩
    | ok world =>
      let arrival := world.directory?.getD directory
      have there : Related
          { left with
            world := world
            session := arrive left.session right.world.directory? arrival }
          { right with
            world := world
            session := arrive right.session right.world.directory? arrival } := by
        cases right.world.directory? with
        | none =>
          exact coupling.changed related (fun environment => environment.set directoryName arrival)
            id id fun _ => world
        | some departure =>
          exact coupling.changed related
            (fun environment => (environment.set previousName departure).set directoryName arrival)
            id (fun _ => some departure) fun _ => world
      simp only [moved]
      cases announced with
      | false => exact ⟨rfl, there⟩
      | true => exact printed (coupling.print there (arrival ++ ['\n']))

theorem setVariable (coupling : Coupling Related) (related : Related left right)
    (name value : Text) :
    Agree Related (left.setVariable name value) (right.setVariable name value) := by
  unfold Shell.setVariable
  cases isVariableName name with
  | false => exact ⟨rfl, related⟩
  | true => exact ⟨rfl, coupling.changed related (·.set name value) id id id⟩

theorem unsetVariable (coupling : Coupling Related) (related : Related left right)
    (name : Text) : Agree Related (left.unsetVariable name) (right.unsetVariable name) :=
  ⟨rfl, coupling.changed related (·.unset name) id id id⟩

theorem setAlias (coupling : Coupling Related) (related : Related left right)
    (name value : Text) :
    Related
      { left with
        session := { left.session with aliases := left.session.aliases.set name value } }
      { right with
        session := { right.session with aliases := right.session.aliases.set name value } } :=
  coupling.changed related id (·.set name value) id id

theorem setWorld (coupling : Coupling Related) (related : Related left right)
    (world : World) : Related { left with world := world } { right with world := world } :=
  coupling.changed related id id id fun _ => world

/-! ## Aliases -/

/-- Operands are served alike where every alias asked for is defined, and where
diagnostics are written alike. -/
theorem serveOperands (coupling : Coupling Related) (status : Int)
    (operands : List Aliases.Operand) (related : Related left right)
    (reports : firstMissing left.session.aliases operands ≠ none → ReportsAgree Related) :
    Agree Related (Shell.serveOperands status operands left)
      (Shell.serveOperands status operands right) := by
  induction operands generalizing status left right with
  | nil => exact ⟨rfl, related⟩
  | cons operand rest induction =>
    cases operand with
    | define name value =>
      exact induction status (coupling.setAlias related name value) reports
    | display name =>
      have same := (coupling.seen related).aliases
      cases found : left.session.aliases.get? name with
      | some value =>
        rw [serveOperands_defined found, serveOperands_defined (same ▸ found)]
        refine written (coupling.print related _) fun related => induction status related ?_
        simpa [firstMissing, found, write_session] using reports
      | none =>
        have reports := reports (by simp [firstMissing, found])
        rw [serveOperands_undefined found, serveOperands_undefined (same ▸ found)]
        exact written (reports left right related _ _) fun related =>
          induction 1 related fun _ => reports

theorem defineAliases (coupling : Coupling Related) (related : Related left right)
    (operands : List Text)
    (reports : firstMissing left.session.aliases (Aliases.Operand.ofWords operands) ≠ none →
      ReportsAgree Related) :
    Agree Related (left.defineAliases operands) (right.defineAliases operands) := by
  unfold Shell.defineAliases
  cases operands.isEmpty with
  | true =>
    rw [(coupling.seen related).aliases]
    exact printed (coupling.print related _)
  | false => exact coupling.serveOperands 0 _ related reports

/-! ## Builtins -/

/-- What each builtin does by itself, for any shells that are related and, where it is
`alias`, any operands that are served alike. -/
theorem body (coupling : Coupling Related) (related : Related left right)
    (builtin : Builtin) (call : Call)
    (status : call = .exit none → left.session.status = right.session.status)
    (served : ∀ operands, call = .aliases operands →
      Agree Related (left.defineAliases operands) (right.defineAliases operands)) :
    Agree Related (Shell.body builtin left call) (Shell.body builtin right call) := by
  cases call with
  | exit operand => exact exit related operand fun bare => status (congrArg Call.exit bare)
  | changeDirectory target => exact coupling.changeDirectory related target
  | overview => exact printed (coupling.print related _)
  | aliases operands => exact served operands rfl
  | listHistory => exact printed (coupling.listHistory related)
  | listEnvironment =>
    have listed := printed (coupling.print related (environmentListing left.session.environment))
    simpa only [Shell.body, (coupling.seen related).environment] using listed
  | setVariable name value => exact coupling.setVariable related name value
  | unsetVariable name => exact coupling.unsetVariable related name
  | manual => exact printed (coupling.print related _)
  | misuse message => exact ⟨rfl, related⟩

theorem complain (reports : ReportsAgree Related) (related : Related left right)
    (builtin : Builtin) (failure : Failure) :
    Agree Related (Shell.complain builtin failure left) (Shell.complain builtin failure right) := by
  rw [complain_eq, complain_eq]
  exact written (reports left right related _ _) fun related => ⟨rfl, related⟩

theorem settled (coupling : Coupling Related) (name : Text) {leftTry rightTry : Attempt}
    (agree : Agree Related leftTry rightTry) :
    Agree Related (settle name leftTry) (settle name rightTry) := by
  rcases leftTry with ⟨answer, leftAfter⟩
  rcases rightTry with ⟨other, rightAfter⟩
  rcases agree with ⟨⟨⟩, related⟩
  cases answer with
  | ok outcome => exact ⟨rfl, related⟩
  | error failure => exact ⟨rfl, coupling.reportOrWarn related _ _⟩

/-! ## Commands -/

/-- Builtins are carried out alike if they succeed, and if diagnostics are written
alike. -/
theorem carryOut (coupling : Coupling Related) (related : Related left right)
    (builtin : Builtin) (operands : List Text)
    (status : builtin.call operands = .exit none → left.session.status = right.session.status)
    (served : ∀ operands', builtin.call operands = .aliases operands' →
      Agree Related (left.defineAliases operands') (right.defineAliases operands'))
    (reports : ∀ failure, (Shell.body builtin left (builtin.call operands)).1 = .error failure →
      ReportsAgree Related) :
    Agree Related (Shell.carryOut builtin operands left)
      (Shell.carryOut builtin operands right) := by
  have agree := coupling.body related builtin (builtin.call operands) status served
  rcases leftBody : Shell.body builtin left (builtin.call operands) with ⟨answer, leftAfter⟩
  rcases rightBody : Shell.body builtin right (builtin.call operands) with ⟨other, rightAfter⟩
  rw [leftBody] at reports
  rw [leftBody, rightBody] at agree
  rcases agree with ⟨⟨⟩, related⟩
  cases answer with
  | ok outcome =>
    rw [carryOut_of_ok leftBody, carryOut_of_ok rightBody]
    exact ⟨rfl, related⟩
  | error failure =>
    by_cases manual : builtin.call operands = .manual
    · rw [carryOut_manual manual, carryOut_manual manual, ← manual, leftBody, rightBody]
      exact ⟨rfl, related⟩
    · rw [carryOut_of_error manual leftBody, carryOut_of_error manual rightBody]
      exact complain (reports failure rfl) related builtin failure

theorem recordRun (coupling : Coupling Related) (related : Related left right)
    (launch : Launch) (run : Run) :
    Related (left.recordRun launch run) (right.recordRun launch run) := by
  unfold Shell.recordRun
  apply List.foldl_rel (coupling.record related (.started launch))
  intro write _ left right related
  exact coupling.record related (.produced write.1 write.2)

theorem launch (coupling : Coupling Related) (related : Related left right)
    (launch : Launch) : Agree Related (left.launch launch) (right.launch launch) := by
  have seen := coupling.seen related
  unfold Shell.launch
  rw [seen.flushFault]
  cases right.console.flushFault? with
  | some fault => exact ⟨rfl, related⟩
  | none =>
    have logged := coupling.log related (.starting launch.path launch.arguments)
    have sameWorld := (coupling.seen logged).world
    dsimp only
    rw [sameWorld]
    cases (right.log (.starting launch.path launch.arguments)).world.start launch with
    | error fault => exact ⟨rfl, logged⟩
    | ok started =>
      rcases started with ⟨run, world⟩
      have ran := coupling.recordRun (coupling.setWorld logged world) launch run
      cases awaited : world.awaitFault with
      | some fault =>
        simp only [awaited]
        exact ⟨rfl, ran⟩
      | none =>
        simp only [awaited]
        exact ⟨rfl, coupling.log ran (.ended launch.path run.ending.status)⟩

theorem refuse (coupling : Coupling Related) (related : Related left right)
    (name : Text) (failure : Failure) :
    Agree Related (left.refuse name failure) (right.refuse name failure) :=
  ⟨rfl, coupling.reportOrWarn (coupling.log related _) _ _⟩

/-! ## Segments -/

theorem segment_of_not_dispatched (coupling : Coupling Related) (related : Related left right)
    {segment : Segment}
    (alike : segment.stray? = none →
      left.session.expand segment.text = right.session.expand segment.text)
    (foreign : left.dispatched segment = none) :
    Agree Related (left.segment segment) (right.segment segment) := by
  have expanded := coupling.log related
    (.expanded segment.text (left.session.expand segment.text))
  rcases Shell.segment_of_not_dispatched foreign with
    ⟨sign, stray, runs⟩ | ⟨stray, words, runs⟩ | ⟨name, operands, stray, words, unknown, runs⟩
  · rw [runs]
    simp only [Shell.segment, stray]
    exact ⟨rfl, coupling.reportOrWarn related _ _⟩
  · rw [runs]
    rw [alike stray] at words expanded ⊢
    simp only [Shell.segment, stray, words]
    exact ⟨rfl, expanded⟩
  · rw [runs]
    rw [alike stray] at words expanded ⊢
    simp only [Shell.segment, stray, words]
    have seen := coupling.seen expanded
    rw [command_of_foreign unknown, command_of_foreign unknown, seen.world, seen.environment]
    split
    next path =>
      exact coupling.settled name (coupling.launch expanded _)
    next => exact coupling.refuse expanded name .commandNotExecutable
    next => exact coupling.refuse expanded name .commandNotFound

theorem calling (coupling : Coupling Related) (related : Related left right)
    {segment : Segment}
    (alike : left.session.expand segment.text = right.session.expand segment.text)
    (builtin : Builtin) (operands : List Text) :
    Related (left.calling segment builtin operands) (right.calling segment builtin operands) := by
  unfold Shell.calling
  rw [alike]
  exact coupling.log (coupling.log related _) _

theorem segments_of_dispatched {segment : Segment}
    (alike : segment.stray? = none →
      left.session.expand segment.text = right.session.expand segment.text)
    {builtin : Builtin} {operands : List Text}
    (calls : left.dispatched segment = some (builtin, operands)) :
    left.segment segment =
        settle builtin.name
          (Shell.carryOut builtin operands (left.calling segment builtin operands)) ∧
      right.segment segment =
        settle builtin.name
          (Shell.carryOut builtin operands (right.calling segment builtin operands)) :=
  ⟨Shell.segment_of_dispatched calls,
    Shell.segment_of_dispatched ((dispatched_congr alike).symm.trans calls)⟩

/-- Where diagnostics are written alike, every segment does the same on both sides, if the
statuses are the same where it asks for one. -/
theorem segment (coupling : Coupling Related) (reports : ReportsAgree Related)
    (related : Related left right) {segment : Segment}
    (status : left.AsksForStatus segment → left.session.status = right.session.status) :
    Agree Related (left.segment segment) (right.segment segment) := by
  have alike : segment.stray? = none →
      left.session.expand segment.text = right.session.expand segment.text :=
    fun stray => (coupling.seen related).expand fun refers => status ⟨stray, .inl refers⟩
  cases calls : left.dispatched segment with
  | none => exact coupling.segment_of_not_dispatched related alike calls
  | some call =>
    rcases call with ⟨builtin, operands⟩
    have stray := stray_of_dispatched calls
    rcases segments_of_dispatched alike calls with ⟨leftRun, rightRun⟩
    rw [leftRun, rightRun]
    have calling := coupling.calling related (alike stray) builtin operands
    apply coupling.settled builtin.name
    apply coupling.carryOut calling
    · intro bare
      rcases Builtin.call_eq_exit bare with ⟨rfl, none⟩
      rw [List.head?_eq_none_iff.mp none] at calls
      exact status ⟨stray, .inr calls⟩
    · exact fun words _ => coupling.defineAliases calling words fun _ => reports
    · exact fun _ _ => reports

end Coupling

namespace Simulation

variable {Related : Shell → Shell → Prop} {left right : Shell}

/-! ## The same status -/

theorem expand (simulation : Simulation Related) (related : Related left right) (text : Text) :
    left.session.expand text = right.session.expand text :=
  (simulation.seen related).expand fun _ => simulation.status related

theorem body (simulation : Simulation Related) (related : Related left right)
    (builtin : Builtin) (call : Call)
    (served : ∀ operands, call = .aliases operands →
      Agree Related (left.defineAliases operands) (right.defineAliases operands)) :
    Agree Related (Shell.body builtin left call) (Shell.body builtin right call) :=
  simulation.toCoupling.body related builtin call (fun _ => simulation.status related) served

theorem carryOut (simulation : Simulation Related) (related : Related left right)
    (builtin : Builtin) (operands : List Text)
    (served : ∀ operands', builtin.call operands = .aliases operands' →
      Agree Related (left.defineAliases operands') (right.defineAliases operands'))
    (reports : ∀ failure, (Shell.body builtin left (builtin.call operands)).1 = .error failure →
      ReportsAgree Related) :
    Agree Related (Shell.carryOut builtin operands left)
      (Shell.carryOut builtin operands right) :=
  simulation.toCoupling.carryOut related builtin operands (fun _ => simulation.status related)
    served reports

theorem segment_of_not_dispatched (simulation : Simulation Related) (related : Related left right)
    {segment : Segment} (foreign : left.dispatched segment = none) :
    Agree Related (left.segment segment) (right.segment segment) :=
  simulation.toCoupling.segment_of_not_dispatched related
    (fun _ => simulation.expand related segment.text) foreign

theorem calling (simulation : Simulation Related) (related : Related left right)
    (segment : Segment) (builtin : Builtin) (operands : List Text) :
    Related (left.calling segment builtin operands) (right.calling segment builtin operands) :=
  simulation.toCoupling.calling related (simulation.expand related segment.text) builtin operands

theorem segments_of_dispatched (simulation : Simulation Related) (related : Related left right)
    {segment : Segment} {builtin : Builtin} {operands : List Text}
    (calls : left.dispatched segment = some (builtin, operands)) :
    left.segment segment =
        settle builtin.name
          (Shell.carryOut builtin operands (left.calling segment builtin operands)) ∧
      right.segment segment =
        settle builtin.name
          (Shell.carryOut builtin operands (right.calling segment builtin operands)) :=
  Coupling.segments_of_dispatched (fun _ => simulation.expand related segment.text) calls

/-- Where diagnostics are written alike, every segment does the same on both sides. -/
theorem segment (simulation : Simulation Related) (reports : ReportsAgree Related)
    (related : Related left right) (segment : Segment) :
    Agree Related (left.segment segment) (right.segment segment) :=
  simulation.toCoupling.segment reports related fun _ => simulation.status related

/-! ## Chains -/

structure StepsAgree (Related : Shell → Shell → Prop) (left right : Step) : Prop where
  segment : left.segment = right.segment
  outcome : left.outcome = right.outcome
  before : Related left.before right.before
  after : Related left.after right.after

theorem unreached (segments : Chain) (related : Related left right) :
    List.Forall₂ (StepsAgree Related) (Shell.unreached segments left)
      (Shell.unreached segments right) := by
  induction segments with
  | nil => exact .nil
  | cons segment rest induction => exact .cons ⟨rfl, rfl, related, related⟩ induction

/-- Chains do the same on both sides, step by step, where each segment that runs does. -/
theorem chain (simulation : Simulation Related) (segments : Chain) (related : Related left right)
    (agree : ∀ step ∈ course segments left, step.Ran → ∀ other, Related step.before other →
      Agree Related (step.before.segment step.segment) (other.segment step.segment)) :
    Agree Related (Shell.chain segments left) (Shell.chain segments right) ∧
      List.Forall₂ (StepsAgree Related) (course segments left) (course segments right) := by
  induction segments generalizing left right with
  | nil => exact ⟨⟨rfl, related⟩, .nil⟩
  | cons segment rest induction =>
    have sameStatus := simulation.status related
    rcases chain_and_course_cons segment rest left with
      ⟨status, after, runs, run, leftChain, leftCourse⟩ |
      ⟨code, after, runs, run, leftChain, leftCourse⟩ | ⟨idle, leftChain, leftCourse⟩
    · rw [leftCourse] at agree
      rcases List.forall_mem_cons.mp agree with ⟨here, onward⟩
      have same := here rfl right related
      rcases rightRun : right.segment segment with ⟨outcome, other⟩
      rw [run, rightRun] at same
      rcases same with ⟨⟨⟩, relatedAfter⟩
      have concluded := simulation.conclude relatedAfter (.status status)
      rcases chain_of_status rest (sameStatus ▸ runs) rightRun with ⟨rightChain, rightCourse⟩
      rw [leftChain, rightChain, leftCourse, rightCourse]
      rcases induction concluded onward with ⟨chains, steps⟩
      exact ⟨chains, .cons ⟨rfl, rfl, related, concluded⟩ steps⟩
    · rw [leftCourse] at agree
      have same := (List.forall_mem_cons.mp agree).1 rfl right related
      rcases rightRun : right.segment segment with ⟨outcome, other⟩
      rw [run, rightRun] at same
      rcases same with ⟨⟨⟩, relatedAfter⟩
      have concluded := simulation.conclude relatedAfter (.exit code)
      rcases chain_of_exit rest (sameStatus ▸ runs) rightRun with ⟨rightChain, rightCourse⟩
      rw [leftChain, rightChain, leftCourse, rightCourse]
      exact ⟨⟨rfl, concluded⟩, .cons ⟨rfl, rfl, related, concluded⟩ (unreached rest concluded)⟩
    · rw [leftCourse] at agree
      have onward := (List.forall_mem_cons.mp agree).2
      have logged := simulation.log related (.skipped segment.text left.session.status)
      have passedOver : Related (left.passOver segment) (right.passOver segment) := by
        unfold passOver
        rw [← sameStatus]
        exact logged
      rcases chain_of_idle rest (sameStatus ▸ idle) with ⟨rightChain, rightCourse⟩
      rw [leftChain, rightChain, leftCourse, rightCourse]
      rcases induction passedOver onward with ⟨chains, steps⟩
      exact ⟨chains, .cons ⟨rfl, rfl, related, passedOver⟩ steps⟩

/-- Where diagnostics are written alike, every chain does the same on both sides. -/
theorem chain_of_reportsAgree (simulation : Simulation Related) (reports : ReportsAgree Related)
    (segments : Chain) (related : Related left right) :
    Agree Related (Shell.chain segments left) (Shell.chain segments right) := by
  have chained := simulation.chain segments related fun step _ _ other related =>
    simulation.segment reports related step.segment
  exact chained.1

end Simulation

end CommandShell.Shell
