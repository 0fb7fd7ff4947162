import CommandShell.Proofs.Dispatch
import CommandShell.Proofs.Writing
import Mathlib.Logic.Relation

namespace CommandShell

/-! A segment that runs changes the shell by one act after another. There are few kinds
of acts, and each tells what must have been asked for it, so that whatever a segment can
do is read off them. -/

/-! ## The world -/

namespace World

/-- A change of the directory keeps the files and the input. -/
theorem changeDirectory_eq_ok_iff (world after : World) (text : Text) :
    world.changeDirectory text = .ok after ↔
      ∃ place, world.locate text = .ok (.directory place) ∧
        { world with place := place } = after := by
  unfold changeDirectory
  split
  next place located => simp [located]
  all_goals simp_all

/-- A program that has been started has run in the working directory of the shell, with what
was left of the standard input. -/
theorem start_eq_ok {world after : World} {launch : Launch} {run : Run}
    (started : world.start launch = .ok (run, after)) :
    ∃ node program arguments,
      world.executable launch.path = .ok node ∧
      world.carrier loadLimit launch.path launch.arguments node = .ok (program, arguments) ∧
      run = program.run
        { arguments, environment := launchedEnvironment launch, directory := world.directory?
          input := world.input } ∧
      after = { world with input := run.input } := by
  unfold start at started
  dsimp only at started
  split at started
  · cases started
  · split at started
    · cases started
    next node found =>
      split at started
      · cases started
      · split at started
        · cases started
        next program arguments carried =>
          cases started
          exact ⟨node, program, arguments, found, carried, rfl, rfl⟩

end World

/-! ## Acts -/

def Event.launch? : Event → Option Launch
  | .started launch => some launch
  | _ => none

/-- The writes of a run as a transcript shows them. -/
def Run.events (run : Run) : List Event :=
  run.written.map fun write => .produced write.1 write.2

namespace Shell

/-- The words of a segment, as the shell would take them now. -/
def wordsOf (shell : Shell) (segment : Segment) : List Text :=
  Text.words (shell.session.expand segment.text)

/-- What a segment asks of a builtin, if it asks anything of one. -/
def called (shell : Shell) (segment : Segment) : Option Call :=
  (shell.dispatched segment).map fun (builtin, operands) => builtin.call operands

/-- One act of a segment with these words, which asks this of a builtin. -/
inductive Act (words : List Text) (call : Option Call) : Shell → Shell → Prop
  | record (shell : Shell) (event : Event) (ordinary : event.launch? = none) :
      Act words call shell (shell.record event)
  | write (shell : Shell) (stream : Stream) (text : Text) :
      Act words call shell (shell.write stream text).2
  | complain (shell : Shell) : Act words call shell shell.countComplaint
  | setVariable (shell : Shell) {name : Text} (value : Text)
      (asked : call = some (.setVariable name value)) (valid : isVariableName name = true) :
      Act words call shell
        { shell with
          session :=
            { shell.session with environment := shell.session.environment.set name value } }
  | unsetVariable (shell : Shell) {name : Text} (asked : call = some (.unsetVariable name)) :
      Act words call shell
        { shell with
          session :=
            { shell.session with environment := shell.session.environment.unset name } }
  | defineAlias (shell : Shell) {operands : List Text} {name value : Text}
      (asked : call = some (.aliases operands))
      (among : .define name value ∈ Aliases.Operand.ofWords operands) :
      Act words call shell
        { shell with
          session := { shell.session with aliases := shell.session.aliases.set name value } }
  | arrive {shell : Shell} {target : Option Text} {directory : Text} {world : World}
      (asked : call = some (.changeDirectory target))
      (moved : shell.world.changeDirectory directory = .ok world) :
      Act words call shell
        { shell with
          world := world
          session :=
            Shell.arrive shell.session shell.world.directory?
              (world.directory?.getD directory) }
  | start {shell : Shell} {launch : Launch} {run : Run} {world : World}
      (asked : call = none) (arguments : launch.arguments = words)
      (environment : launch.environment = shell.session.environment.strings)
      (started : shell.world.start launch = .ok (run, world)) :
      Act words call shell ({ shell with world := world }.recordRun launch run)

abbrev Acts (words : List Text) (call : Option Call) : Shell → Shell → Prop :=
  Relation.ReflTransGen (Act words call)

/-! ## Writing -/

variable {words : List Text} {call : Option Call}

theorem acts_log (shell : Shell) (detail : Detail) : Acts words call shell (shell.log detail) :=
  .single (.record shell _ rfl)

theorem acts_write (shell : Shell) (stream : Stream) (text : Text) :
    Acts words call shell (shell.write stream text).2 :=
  .single (.write shell stream text)

theorem acts_report (shell : Shell) (command : Option Text) (message : Text) :
    Acts words call shell (shell.report command message).2 :=
  .head (.complain shell) (acts_write shell.countComplaint .error _)

theorem acts_reportOrWarn (shell : Shell) (command : Option Text) (message : Text) :
    Acts words call shell (shell.reportOrWarn command message) :=
  reportOrWarn_keeps (.single (.complain shell)) (fun acts text => acts.tail (.write _ _ text))
    (fun acts _ => acts.tail (.record _ _ rfl)) command message

/-- What goes on after a write that has worked is added to the write. -/
theorem acts_afterWriting {shell : Shell} {next : Shell → Attempt}
    {written : Option Fault × Shell} (acts : Acts words call shell written.2)
    (onward : Acts words call written.2 (next written.2).2) :
    Acts words call shell (afterWriting next written).2 := by
  rcases written with ⟨_ | fault, after⟩
  · exact acts.trans onward
  · exact acts

theorem acts_print (shell : Shell) (text : Text) : Acts words call shell (shell.print text).2 := by
  rw [print_eq]
  exact acts_afterWriting (acts_write shell .output text) .refl

/-! ## Builtins -/

theorem acts_serveOperands {operands : List Text} (asked : call = some (.aliases operands))
    (status : Int) (rest : List Aliases.Operand)
    (among : ∀ operand ∈ rest, operand ∈ Aliases.Operand.ofWords operands) (shell : Shell) :
    Acts words call shell (serveOperands status rest shell).2 := by
  induction rest generalizing status shell with
  | nil => exact .refl
  | cons operand rest induction =>
    rcases List.forall_mem_cons.mp among with ⟨here, onward⟩
    cases operand with
    | define name value =>
      exact .head (.defineAlias shell asked here) (induction status onward _)
    | display name =>
      cases found : shell.session.aliases.get? name with
      | some value =>
        rw [serveOperands_defined found]
        exact acts_afterWriting (acts_write shell .output _) (induction status onward _)
      | none =>
        rw [serveOperands_undefined found]
        exact acts_afterWriting (acts_report shell _ _) (induction 1 onward _)

theorem acts_changeDirectory {target : Option Text}
    (asked : call = some (.changeDirectory target)) (shell : Shell) :
    Acts words call shell (shell.changeDirectory target).2 := by
  unfold changeDirectory
  split
  next => exact .refl
  next directory announced _ =>
    split
    next => exact .refl
    next world moved =>
      have arrived : Act words call shell _ := .arrive asked moved
      cases announced with
      | false => exact .single arrived
      | true => exact .head arrived (acts_print _ _)

theorem acts_body (builtin : Builtin) (shell : Shell) (asked : Call) (same : call = some asked) :
    Acts words call shell (body builtin shell asked).2 := by
  cases asked with
  | exit operand =>
    have still : (body builtin shell (.exit operand)).2 = shell := by
      simp only [body, Shell.exit]
      split
      · rfl
      · split <;> rfl
    rw [still]
  | changeDirectory target => exact acts_changeDirectory same shell
  | overview => exact acts_print shell _
  | aliases operands =>
    simp only [body, defineAliases]
    split
    · exact acts_print shell _
    · exact acts_serveOperands same 0 _ (fun _ member => member) shell
  | listHistory => exact acts_print shell _
  | listEnvironment => exact acts_print shell _
  | setVariable name value =>
    simp only [body, Shell.setVariable]
    split
    next valid => exact .single (.setVariable shell value same valid)
    next => exact .refl
  | unsetVariable name => exact .single (.unsetVariable shell same)
  | manual => exact acts_print shell _
  | misuse message => exact .refl

theorem acts_carryOut (builtin : Builtin) (operands : List Text) (shell : Shell)
    (same : call = some (builtin.call operands)) :
    Acts words call shell (carryOut builtin operands shell).2 := by
  have acts : Acts words call shell _ := acts_body builtin shell (builtin.call operands) same
  rcases attempt : body builtin shell (builtin.call operands) with ⟨failure | outcome, after⟩
  · rw [attempt] at acts
    by_cases manual : builtin.call operands = .manual
    · rw [carryOut_manual manual, ← manual, attempt]
      exact acts
    · rw [carryOut_of_error manual attempt, complain_eq]
      exact acts.trans (acts_afterWriting (acts_report after _ _) .refl)
  · rw [attempt] at acts
    rw [carryOut_of_ok attempt]
    exact acts

theorem acts_settle {shell : Shell} (name : Text) {attempt : Attempt}
    (acts : Acts words call shell attempt.2) : Acts words call shell (settle name attempt).2 := by
  rcases attempt with ⟨failure | outcome, after⟩
  · exact acts.trans (acts_reportOrWarn after _ _)
  · exact acts

/-! ## Programs -/

/-- The shell behind a program that it has started. -/
def behindRun (shell : Shell) (launch : Launch) (run : Run) (world : World) : Shell :=
  { shell.log (.starting launch.path launch.arguments) with world := world }.recordRun launch run

/-- The ways in which a launch ends. In the first two no program has run. -/
inductive Launching (shell : Shell) (launch : Launch) : Attempt → Prop
  | unflushed {fault : Fault} (fails : shell.console.flushFault? = some fault) :
    Launching shell launch (.error (.output fault), shell)
  | refused {fault : Fault} (flushes : shell.console.flushFault? = none)
      (fails : shell.world.start launch = .error fault) :
    Launching shell launch
      (.error (.start fault), shell.log (.starting launch.path launch.arguments))
  | lost {run : Run} {world : World} {fault : Fault} (flushes : shell.console.flushFault? = none)
      (started : shell.world.start launch = .ok (run, world))
      (fails : shell.world.awaitFault = some fault) :
    Launching shell launch (.error (.await fault), shell.behindRun launch run world)
  | ended {run : Run} {world : World} (flushes : shell.console.flushFault? = none)
      (started : shell.world.start launch = .ok (run, world))
      (awaited : shell.world.awaitFault = none) :
    Launching shell launch
      (.ok (.status run.ending.status),
        (shell.behindRun launch run world).log (.ended launch.path run.ending.status))

theorem launching (shell : Shell) (launch : Launch) :
    Launching shell launch (shell.launch launch) := by
  cases flushes : shell.console.flushFault? with
  | some fault =>
    simp only [Shell.launch, flushes]
    exact .unflushed flushes
  | none =>
    let logged := shell.log (.starting launch.path launch.arguments)
    cases started : shell.world.start launch with
    | error fault =>
      have startedThere : logged.world.start launch = .error fault := started
      simp only [Shell.launch, flushes]
      rw [startedThere]
      exact .refused flushes started
    | ok result =>
      rcases result with ⟨run, world⟩
      have startedThere : logged.world.start launch = .ok (run, world) := started
      have sameFault : world.awaitFault = shell.world.awaitFault := by
        rcases World.start_eq_ok started with ⟨_, _, _, _, _, _, rfl⟩
        rfl
      simp only [Shell.launch, flushes]
      rw [startedThere]
      dsimp only
      rw [sameFault]
      cases awaited : shell.world.awaitFault with
      | some fault => exact .lost flushes started awaited
      | none => exact .ended flushes started awaited

theorem acts_launch {shell : Shell} {launch : Launch} (asked : call = none)
    (arguments : launch.arguments = words)
    (environment : launch.environment = shell.session.environment.strings) :
    Acts words call shell (shell.launch launch).2 := by
  have log : Acts words call shell _ := acts_log shell (.starting launch.path launch.arguments)
  have launching := shell.launching launch
  generalize shell.launch launch = attempt at launching
  cases launching with
  | unflushed => exact .refl
  | refused => exact log
  | lost _ started _ => exact log.tail (.start asked arguments environment started)
  | ended _ started _ =>
    exact (log.tail (.start asked arguments environment started)).trans (acts_log _ _)

theorem acts_refuse (shell : Shell) (name : Text) (failure : Failure) :
    Acts words call shell (shell.refuse name failure).2 :=
  (acts_log shell _).trans (acts_reportOrWarn _ _ _)

/-! ## Segments -/

theorem wordsOf_of_dispatched {shell : Shell} {segment : Segment} {builtin : Builtin}
    {operands : List Text} (calls : shell.dispatched segment = some (builtin, operands)) :
    shell.wordsOf segment = builtin.name :: operands := by
  unfold dispatched at calls
  split at calls
  next name others stray words =>
    rcases Option.map_eq_some_iff.mp calls with ⟨_, found, same⟩
    cases same
    rw [wordsOf, words, Builtin.name_of_ofName? found]
  next => cases calls

/-- Whatever a segment does is done by acts. -/
theorem acts_segment (shell : Shell) (segment : Segment) :
    Acts (shell.wordsOf segment) (shell.called segment) shell (shell.segment segment).2 := by
  cases calls : shell.dispatched segment with
  | some order =>
    rcases order with ⟨builtin, operands⟩
    have called : shell.called segment = some (builtin.call operands) := by simp [called, calls]
    have log : Acts (shell.wordsOf segment) (shell.called segment) shell
        (shell.calling segment builtin operands) := .trans (acts_log shell _) (acts_log _ _)
    rw [segment_of_dispatched calls]
    exact acts_settle builtin.name (log.trans (acts_carryOut builtin operands _ called))
  | none =>
    have called : shell.called segment = none := by simp [called, calls]
    rcases segment_of_not_dispatched calls with
      ⟨sign, stray, run⟩ | ⟨stray, words, run⟩ | ⟨name, operands, stray, words, unknown, run⟩
    · rw [run]
      exact acts_reportOrWarn shell _ _
    · rw [run]
      exact acts_log shell _
    · have log : Acts (shell.wordsOf segment) (shell.called segment) shell _ :=
        acts_log shell (.expanded segment.text (shell.session.expand segment.text))
      rw [run, command_of_foreign unknown]
      refine log.trans ?_
      split
      next path => exact acts_settle name (acts_launch called words.symm rfl)
      next => exact acts_refuse _ name .commandNotExecutable
      next => exact acts_refuse _ name .commandNotFound

/-! ## What acts leave as it is -/

/-- What no command changes. -/
structure Ground where
  settings : Settings
  history : History
  files : FileTree
  lineNumber : Nat
  arguments : List Text
  processId : Nat
  writeFault : Stream → Option Fault
  flushFault : Stream → Option Fault

def ground (shell : Shell) : Ground where
  settings := shell.settings
  history := shell.session.history
  files := shell.world.files
  lineNumber := shell.session.lineNumber
  arguments := shell.session.arguments
  processId := shell.session.processId
  writeFault stream := (shell.console.sink stream).writeFault
  flushFault stream := (shell.console.sink stream).flushFault

theorem recordRun_eq (shell : Shell) (launch : Launch) (run : Run) :
    shell.recordRun launch run =
      { shell with
        console :=
          { shell.console with
            latest := run.events.reverse ++ .started launch :: shell.console.latest } } := by
  have produced : ∀ (written : List (Stream × Bytes)) (shell : Shell),
      written.foldl (fun shell write => shell.record (.produced write.1 write.2)) shell =
        { shell with
          console :=
            { shell.console with
              latest :=
                (written.map fun write => Event.produced write.1 write.2).reverse ++
                  shell.console.latest } } := by
    intro written
    induction written with
    | nil => exact fun _ => rfl
    | cons write rest induction =>
      intro shell
      rw [List.foldl_cons, induction]
      simp [record, Console.record]
  exact produced run.written (shell.record (.started launch))

theorem Act.ground {left right : Shell} (act : Act words call left right) :
    right.ground = left.ground := by
  cases act with
  | write stream text =>
    have faults := fun other => left.console.faults_write stream other text
    have kept : (left.write stream text).2.ground =
        { left.ground with
          writeFault := fun other => ((left.console.write stream text).2.sink other).writeFault
          flushFault := fun other => ((left.console.write stream text).2.sink other).flushFault } :=
      rfl
    rw [kept, funext fun other => (faults other).1, funext fun other => (faults other).2]
    rfl
  | arrive asked moved =>
    rcases (World.changeDirectory_eq_ok_iff _ _ _).mp moved with ⟨place, _, rfl⟩
    unfold Shell.arrive
    cases left.world.directory? <;> rfl
  | start asked arguments environment started =>
    rcases World.start_eq_ok started with ⟨_, _, _, _, _, _, rfl⟩
    rw [recordRun_eq]
    rfl
  | _ => rfl

theorem Acts.ground {left right : Shell} (acts : Acts words call left right) :
    right.ground = left.ground := by
  induction acts with
  | refl => rfl
  | tail _ act induction => exact act.ground.trans induction

theorem ground_segment (shell : Shell) (segment : Segment) :
    (shell.segment segment).2.ground = shell.ground :=
  (acts_segment shell segment).ground

end Shell

end CommandShell
