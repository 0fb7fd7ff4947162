import CommandShell.Proofs.ErrorStream
import CommandShell.Proofs.Inheritance

namespace CommandShell

/-! What the shell itself writes to the error stream. Where everything can be written, it is
one diagnostic after another, each of which has been counted, and which diagnostics are due
can be told of every segment before it runs. -/

/-! ## Diagnostics -/

/-- What is the same in all diagnostics of a line, and where they go. -/
structure Letterhead where
  program : Text
  lineNumber : Nat
  output : Sink
  error : Sink

def Letterhead.Works (letterhead : Letterhead) : Prop :=
  letterhead.output.Works ∧ letterhead.error.Works

/-- A diagnostic names a command, unless a line or a sign in it could not be understood. -/
structure Diagnostic where
  command : Option Text
  message : Text
  deriving DecidableEq, Repr

def Diagnostic.text (letterhead : Letterhead) (diagnostic : Diagnostic) : Text :=
  letterhead.program ++ [':', ' '] ++ Text.ofNat letterhead.lineNumber ++ [':', ' '] ++
    (diagnostic.command.elim [] fun command => command ++ [':', ' ']) ++
    diagnostic.message ++ ['\n']

namespace Shell

def letterhead (shell : Shell) : Letterhead where
  program := shell.session.shellName
  lineNumber := shell.session.lineNumber
  output := shell.console.output
  error := shell.console.error

/-- What the shell itself has written to the error stream. -/
def errors (shell : Shell) : Text :=
  shell.console.transcript.flatMap (Event.writtenText .error)

theorem text_eq_diagnostic (shell : Shell) (diagnostic : Diagnostic) :
    diagnostic.text shell.letterhead =
      Shell.diagnostic shell.session diagnostic.command diagnostic.message := by
  rcases diagnostic with ⟨_ | command, message⟩
  · simp [Diagnostic.text, Shell.diagnostic, letterhead]
  · simp [Diagnostic.text, Shell.diagnostic, letterhead]

/-- Between two shells these diagnostics have been issued and counted, these programs have
been started, and nothing else has been written to the error stream. -/
structure Diagnosed (due : List Diagnostic) (started : List Launch) (left right : Shell) :
    Prop where
  kept : right.letterhead = left.letterhead
  written : right.errors = left.errors ++ due.flatMap (Diagnostic.text left.letterhead)
  counted : right.session.complaints = left.session.complaints + due.length
  launched : right.launches = left.launches ++ started

namespace Diagnosed

variable {one two : List Diagnostic} {first second : List Launch} {left between right : Shell}

theorem refl (shell : Shell) : Diagnosed [] [] shell shell where
  kept := rfl
  written := (List.append_nil _).symm
  counted := rfl
  launched := (List.append_nil _).symm

theorem trans (earlier : Diagnosed one first left between)
    (later : Diagnosed two second between right) :
    Diagnosed (one ++ two) (first ++ second) left right where
  kept := later.kept.trans earlier.kept
  written := by
    rw [later.written, earlier.written, earlier.kept, List.flatMap_append, List.append_assoc]
  counted := by
    rw [later.counted, earlier.counted, List.length_append, Nat.add_assoc]
  launched := by
    rw [later.launched, earlier.launched, List.append_assoc]

theorem then_silent (earlier : Diagnosed one first left between)
    (silent : Diagnosed [] [] between right) : Diagnosed one first left right := by
  simpa using earlier.trans silent

theorem works (diagnosed : Diagnosed one first left right) (works : left.letterhead.Works) :
    right.letterhead.Works :=
  diagnosed.kept ▸ works

end Diagnosed

/-! ## Writing -/

theorem diagnosed_record (shell : Shell) {event : Event}
    (silent : event.writtenText .error = []) (ordinary : event.launch? = none) :
    Diagnosed [] [] shell (shell.record event) where
  kept := rfl
  written := by
    rw [errors, record, Console.transcript_record, List.flatMap_append, List.flatMap_singleton,
      silent]
    rfl
  counted := rfl
  launched := by rw [launches_record_ordinary shell ordinary, List.append_nil]

theorem diagnosed_log (shell : Shell) (detail : Detail) :
    Diagnosed [] [] shell (shell.log detail) :=
  diagnosed_record shell rfl rfl

section

variable {shell : Shell}

theorem diagnosed_complaint (shell : Shell) (command : Option Text) (message : Text) :
    Diagnosed [⟨command, message⟩] [] shell
      (shell.countComplaint.record
        (.written .error (diagnostic shell.session command message))) where
  kept := rfl
  written := by
    rw [errors, record, Console.transcript_record, List.flatMap_append, List.flatMap_singleton,
      List.flatMap_singleton, text_eq_diagnostic]
    rfl
  counted := rfl
  launched := by
    rw [launches_record_ordinary _ rfl, List.append_nil]
    rfl

theorem outputWorks (works : shell.letterhead.Works) :
    (shell.console.sink .output).writeFault = none :=
  works.1.1

theorem errorWorks (works : shell.letterhead.Works) : shell.console.error.writeFault = none :=
  works.2.1

theorem diagnosed_reportOrWarn (works : shell.letterhead.Works) (command : Option Text)
    (message : Text) :
    Diagnosed [⟨command, message⟩] [] shell (shell.reportOrWarn command message) := by
  rw [reportOrWarn_of_working (errorWorks works)]
  exact diagnosed_complaint shell command message

/-- What commands change directly is not to be seen in diagnostics. -/
theorem diagnosed_revise (shell : Shell) (environment : Environment) (aliases : Aliases)
    (previousDirectory : Option Text) (world : World) :
    Diagnosed [] [] shell (shell.revise environment aliases previousDirectory world) where
  kept := rfl
  written := (List.append_nil _).symm
  counted := rfl
  launched := (List.append_nil _).symm

theorem diagnosed_arrive (shell : Shell) (world : World) (departure : Option Text)
    (arrival : Text) :
    Diagnosed [] [] shell
      { shell with world := world, session := arrive shell.session departure arrival } := by
  cases departure with
  | none =>
    exact diagnosed_revise shell (shell.session.environment.set directoryName arrival)
      shell.session.aliases shell.session.previousDirectory world
  | some departed =>
    exact diagnosed_revise shell
      ((shell.session.environment.set previousName departed).set directoryName arrival)
      shell.session.aliases (some departed) world

/-! ## Builtins -/

/-- The names that operands of `alias` ask for and that are not defined at their turn. -/
def undefinedNames (aliases : Aliases) : List Aliases.Operand → List Text
  | [] => []
  | .define name value :: rest => undefinedNames (aliases.set name value) rest
  | .display name :: rest =>
    if (aliases.get? name).isNone then name :: undefinedNames aliases rest
    else undefinedNames aliases rest

/-- Why a builtin other than `alias` fails, if it does and what it writes can be written. -/
def failure? (session : Session) (world : World) : Call → Option Failure
  | .exit (some operand) =>
    if (Builtin.exitCode? operand).isNone then some (.illegalNumber operand) else none
  | .changeDirectory target =>
    match destination session target with
    | .error failure => some failure
    | .ok (directory, _) =>
      match world.changeDirectory directory with
      | .error fault => some (.changeDirectory directory fault)
      | .ok _ => none
  | .setVariable name _ =>
    if isVariableName name then none
    else some (.misuse (name ++ Text.ofString ": bad variable name"))
  | .misuse message => some (.misuse message)
  | .exit none | .overview | .aliases _ | .listHistory | .listEnvironment | .unsetVariable _
  | .manual => none

/-- The diagnostics of a builtin that was called by this name. -/
def dueOfCall (shell : Shell) (name : Text) : Call → List Diagnostic
  | .aliases words =>
    (undefinedNames shell.session.aliases (Aliases.Operand.ofWords words)).map fun undefined =>
      ⟨some name, undefinedName undefined⟩
  | call =>
    (failure? shell.session shell.world call).toList.map fun failure => ⟨some name, failure.message⟩

/-- The diagnostics of a launch. A program that has run has none, whatever its status,
unless this is not known because its end cannot be awaited. -/
def dueOfLaunch (shell : Shell) (name : Text) (launch : Launch) : List Diagnostic :=
  match shell.world.start launch with
  | .ok _ =>
    shell.world.awaitFault.toList.map fun fault => ⟨some name, (Failure.await fault).detail⟩
  | .error fault => [⟨some name, (Failure.start fault).detail⟩]

/-- The diagnostics of a command that names no builtin. -/
def dueOfProgram (shell : Shell) (name : Text) (operands : List Text) : List Diagnostic :=
  let environment := shell.session.environment
  match CommandSearch.find shell.world (environment.get? (Text.ofString "PATH")) name with
  | .program path => shell.dueOfLaunch name ⟨path, name :: operands, environment.strings⟩
  | .obstacle _ => [⟨some name, Failure.commandNotExecutable.message⟩]
  | .nothing => [⟨some name, Failure.commandNotFound.message⟩]

/-- The diagnostics that a segment will issue if it runs now. -/
def due (shell : Shell) (segment : Segment) : List Diagnostic :=
  match segment.stray?, shell.wordsOf segment with
  | some sign, _ => [⟨none, (Failure.unexpected [sign]).message⟩]
  | none, [] => []
  | none, name :: operands =>
    match Builtin.ofName? name with
    | some builtin => shell.dueOfCall name (builtin.call operands)
    | none => shell.dueOfProgram name operands

/-- What a command comes to that starts no program: a status that is not 0 exactly if there
are diagnostics, or the end of the session without any. -/
def Tells (due : List Diagnostic) : Outcome → Prop
  | .status status => Session.exitStatus status ≠ 0 ↔ due ≠ []
  | .exit _ => due = []

theorem tells_success : Tells [] (.status 0) := by
  simp [Tells, Session.exitStatus]

/-- An attempt that does not fail, and has issued these diagnostics. -/
def Issues (shell : Shell) (due : List Diagnostic) (attempt : Attempt) : Prop :=
  ∃ outcome after, attempt = (.ok outcome, after) ∧ Diagnosed due [] shell after ∧
    Tells due outcome

theorem Issues.behind {between : Shell} (silent : Diagnosed [] [] shell between)
    {due : List Diagnostic} {attempt : Attempt} (issues : Issues between due attempt) :
    Issues shell due attempt := by
  rcases issues with ⟨outcome, after, run, diagnosed, tells⟩
  exact ⟨outcome, after, run, silent.trans diagnosed, tells⟩

theorem issues_success {after : Shell} (silent : Diagnosed [] [] shell after) :
    Issues shell [] (.ok (.status 0), after) :=
  ⟨.status 0, after, rfl, silent, tells_success⟩

theorem issues_print (works : shell.letterhead.Works) (text : Text) :
    Issues shell [] (shell.print text) := by
  cases text with
  | nil =>
    rw [print_eq, write_nil]
    exact issues_success (.refl shell)
  | cons first rest =>
    rw [print_eq, write_of_working (outputWorks works) (List.cons_ne_nil first rest)]
    exact issues_success (diagnosed_record shell rfl rfl)

theorem exitStatus_failure_ne_zero (failure : Failure) :
    Session.exitStatus failure.status ≠ 0 := by
  cases failure with
  | openScript path fault =>
    simp only [Failure.status]
    split
    · decide
    · split <;> decide
  | _ => simp [Failure.status, Session.exitStatus]

theorem tells_failure (failure : Failure) (diagnostic : Diagnostic) :
    Tells [diagnostic] (.status failure.status) := by
  simp [Tells, exitStatus_failure_ne_zero]

/-- Each name that is not defined is reported at its turn, and any of them fails the
command. -/
theorem diagnosed_serveOperands (works : shell.letterhead.Works) (status : Int)
    (operands : List Aliases.Operand) :
    ∃ after,
      serveOperands status operands shell =
          (.ok (.status
            (if undefinedNames shell.session.aliases operands = [] then status else 1)), after) ∧
        Diagnosed
          ((undefinedNames shell.session.aliases operands).map fun name =>
            ⟨some Builtin.aliases.name, undefinedName name⟩) [] shell after := by
  induction operands generalizing status shell with
  | nil => exact ⟨shell, rfl, .refl shell⟩
  | cons operand rest induction =>
    cases operand with
    | define name value =>
      have silent := diagnosed_revise shell shell.session.environment
        (shell.session.aliases.set name value) shell.session.previousDirectory shell.world
      rcases induction (silent.works works) status with ⟨after, served, diagnosed⟩
      exact ⟨after, served, silent.trans diagnosed⟩
    | display name =>
      cases found : shell.session.aliases.get? name with
      | some value =>
        rw [serveOperands_defined found, write_of_working (outputWorks works) (by simp),
          afterWriting_none, undefinedNames, found]
        have silent : Diagnosed [] [] shell
            (shell.record (.written .output (Aliases.describe name value ++ ['\n']))) :=
          diagnosed_record shell rfl rfl
        rcases induction (silent.works works) status with ⟨after, served, diagnosed⟩
        exact ⟨after, served, silent.trans diagnosed⟩
      | none =>
        rw [serveOperands_undefined found, report_of_working (errorWorks works),
          afterWriting_none, undefinedNames, found]
        have complaint := diagnosed_complaint shell (some Builtin.aliases.name)
          (undefinedName name)
        rcases induction (complaint.works works) 1 with ⟨after, served, diagnosed⟩
        rw [ite_self] at served
        exact ⟨after, served, complaint.trans diagnosed⟩

theorem issues_defineAliases (works : shell.letterhead.Works) (words : List Text) :
    Issues shell (shell.dueOfCall Builtin.aliases.name (.aliases words))
      (shell.defineAliases words) := by
  cases words with
  | nil => exact issues_print works (aliasListing shell.session.aliases)
  | cons first rest =>
    rcases diagnosed_serveOperands works 0 (Aliases.Operand.ofWords (first :: rest)) with
      ⟨after, served, diagnosed⟩
    refine ⟨_, after, served, diagnosed, ?_⟩
    cases missing : undefinedNames shell.session.aliases (Aliases.Operand.ofWords (first :: rest))
    · simpa [dueOfCall, missing] using tells_success
    · simp [dueOfCall, missing, Tells, Session.exitStatus]

/-- A builtin that fails has done nothing before. -/
theorem body_of_failure {call : Call} {failure : Failure}
    (fails : failure? shell.session shell.world call = some failure) (builtin : Builtin) :
    body builtin shell call = (.error failure, shell) := by
  cases call with
  | exit operand =>
    cases operand with
    | none => cases fails
    | some operand =>
      cases code : Builtin.exitCode? operand with
      | none => simpa [failure?, code, body, Shell.exit] using fails
      | some code => simp [failure?, code] at fails
  | changeDirectory target =>
    cases goes : destination shell.session target with
    | error failure => simpa [failure?, goes, body, changeDirectory] using fails
    | ok place =>
      rcases place with ⟨directory, announced⟩
      cases moved : shell.world.changeDirectory directory with
      | error fault => simpa [failure?, goes, moved, body, changeDirectory] using fails
      | ok world => simp [failure?, goes, moved] at fails
  | setVariable name value =>
    cases valid : isVariableName name with
    | true => simp [failure?, valid] at fails
    | false => simpa [failure?, valid, body, setVariable] using fails
  | misuse message => simpa [failure?, body] using fails
  | _ => cases fails

/-- Any other builtin but `alias` issues nothing and succeeds, unless it ends the session. -/
theorem issues_body (works : shell.letterhead.Works) {call : Call}
    (succeeds : failure? shell.session shell.world call = none)
    (other : ∀ words, call ≠ .aliases words) (builtin : Builtin) :
    Issues shell [] (body builtin shell call) := by
  cases call with
  | exit operand =>
    cases operand with
    | none => exact ⟨_, shell, rfl, .refl shell, rfl⟩
    | some operand =>
      cases number : Builtin.exitCode? operand with
      | none => simp [failure?, number] at succeeds
      | some code =>
        have ends : body builtin shell (.exit (some operand)) =
            (.ok (.exit (Session.exitStatus code)), shell) := by
          simp only [body, Shell.exit, number]
        exact ⟨_, shell, ends, .refl shell, rfl⟩
  | changeDirectory target =>
    cases goes : destination shell.session target with
    | error failure => simp [failure?, goes] at succeeds
    | ok place =>
      rcases place with ⟨directory, announced⟩
      cases moved : shell.world.changeDirectory directory with
      | error fault => simp [failure?, goes, moved] at succeeds
      | ok world =>
        have arrived := diagnosed_arrive shell world shell.world.directory?
          (world.directory?.getD directory)
        simp only [body, changeDirectory, goes, moved]
        cases announced with
        | false => exact issues_success arrived
        | true => exact .behind arrived (issues_print (arrived.works works) _)
  | setVariable name value =>
    cases valid : isVariableName name with
    | false => simp [failure?, valid] at succeeds
    | true =>
      simp only [body, setVariable, valid, if_true]
      exact issues_success (diagnosed_revise shell (shell.session.environment.set name value)
        shell.session.aliases shell.session.previousDirectory shell.world)
  | unsetVariable name =>
    exact issues_success (diagnosed_revise shell (shell.session.environment.unset name)
      shell.session.aliases shell.session.previousDirectory shell.world)
  | misuse message => cases succeeds
  | aliases words => exact absurd rfl (other words)
  | overview => exact issues_print works _
  | listHistory => exact issues_print works _
  | listEnvironment => exact issues_print works _
  | manual => exact issues_print works _

/-! ## Segments -/

/-- The diagnostic of a program whose end could not be awaited. -/
def lostEnd (launch : Launch) (fault : Fault) : Diagnostic :=
  ⟨launch.arguments.head?, (Failure.await fault).detail⟩

/-- A run from this shell has issued these diagnostics. Its outcome tells whether there were
any, except where it has started a program: of a program that has ended there are none,
whatever its outcome, and of one whose end is lost there is one. -/
inductive Accounts (shell : Shell) : List Diagnostic → Outcome × Shell → Prop
  | alone {due : List Diagnostic} {outcome : Outcome} {after : Shell}
      (diagnosed : Diagnosed due [] shell after) (tells : Tells due outcome) :
      Accounts shell due (outcome, after)
  | ended {launch : Launch} {outcome : Outcome} {after : Shell}
      (awaited : shell.world.awaitFault = none) (diagnosed : Diagnosed [] [launch] shell after) :
      Accounts shell [] (outcome, after)
  | lost {launch : Launch} {fault : Fault} {after : Shell}
      (fails : shell.world.awaitFault = some fault)
      (diagnosed : Diagnosed [lostEnd launch fault] [launch] shell after) :
      Accounts shell [lostEnd launch fault] (.status (Failure.await fault).status, after)

theorem Accounts.behind {between : Shell} (silent : Diagnosed [] [] shell between)
    (same : between.world.awaitFault = shell.world.awaitFault)
    {due : List Diagnostic} {run : Outcome × Shell} (accounts : Accounts between due run) :
    Accounts shell due run := by
  cases accounts with
  | alone diagnosed tells => exact .alone (silent.trans diagnosed) tells
  | ended awaited diagnosed => exact .ended (same ▸ awaited) (silent.trans diagnosed)
  | lost fails diagnosed => exact .lost (same ▸ fails) (silent.trans diagnosed)

theorem accounts_concludeFailure (works : shell.letterhead.Works) (name : Text)
    (failure : Failure) :
    Accounts shell [⟨some name, failure.detail⟩] (shell.concludeFailure name failure) :=
  .alone (diagnosed_reportOrWarn works (some name) failure.detail) (tells_failure failure _)

theorem accounts_carryOut (works : shell.letterhead.Works) (builtin : Builtin)
    (operands : List Text) :
    Accounts shell (shell.dueOfCall builtin.name (builtin.call operands))
      (settle builtin.name (carryOut builtin operands shell)) := by
  by_cases aliases : ∃ words, builtin.call operands = .aliases words
  · rcases aliases with ⟨words, asks⟩
    rcases issues_defineAliases works words with ⟨outcome, after, defined, diagnosed, tells⟩
    have served : body builtin shell (builtin.call operands) = (.ok outcome, after) := by
      rw [asks]
      exact defined
    rw [carryOut_of_ok served, asks, (Builtin.call_eq_aliases asks).1]
    exact .alone diagnosed tells
  · have other : ∀ words, builtin.call operands ≠ .aliases words := not_exists.mp aliases
    have due : shell.dueOfCall builtin.name (builtin.call operands) =
        (failure? shell.session shell.world (builtin.call operands)).toList.map fun failure =>
          ⟨some builtin.name, failure.message⟩ := by
      cases call : builtin.call operands with
      | aliases words => exact absurd call (other words)
      | _ => rfl
    rw [due]
    cases fails : failure? shell.session shell.world (builtin.call operands) with
    | none =>
      rcases issues_body works fails other builtin with ⟨outcome, after, run, silent, tells⟩
      rw [carryOut_of_ok run]
      exact .alone silent tells
    | some failure =>
      have common : builtin.call operands ≠ .manual := by
        intro manual
        rw [manual] at fails
        cases fails
      rw [carryOut_of_error common (body_of_failure fails builtin),
        settle_complain_of_working (errorWorks works)]
      exact .alone (diagnosed_complaint shell (some builtin.name) failure.message)
        (tells_failure failure _)

theorem diagnosed_recordRun (shell : Shell) (launch : Launch) (run : Run) :
    Diagnosed [] [launch] shell (shell.recordRun launch run) where
  kept := by rw [recordRun_eq]; rfl
  written := by
    have produced : run.events.flatMap (Event.writtenText .error) = [] := by
      rw [Run.events, List.flatMap_map]
      exact List.flatMap_eq_nil_iff.mpr fun _ _ => rfl
    rw [recordRun_eq]
    simp [errors, Console.transcript, produced, Event.writtenText]
  counted := by rw [recordRun_eq]; rfl
  launched := launches_recordRun shell launch run

theorem diagnosed_behindRun (shell : Shell) (launch : Launch) (run : Run) (world : World) :
    Diagnosed [] [launch] shell (shell.behindRun launch run world) :=
  (diagnosed_log shell _).trans
    ((diagnosed_revise _ _ _ _ world).trans (diagnosed_recordRun _ launch run))

theorem accounts_launch (works : shell.letterhead.Works) {name : Text} {launch : Launch}
    (named : launch.arguments.head? = some name) :
    Accounts shell (shell.dueOfLaunch name launch) (settle name (shell.launch launch)) := by
  have output : shell.console.output.flushFault = none := works.1.2
  have error : shell.console.error.flushFault = none := works.2.2
  have flushes : shell.console.flushFault? = none := by
    rw [Console.flushFault?, output, error]
    rfl
  have launching := shell.launching launch
  generalize shell.launch launch = attempt at launching
  unfold dueOfLaunch
  cases launching with
  | unflushed fails =>
    rw [flushes] at fails
    cases fails
  | @refused fault _ fails =>
    have silent := diagnosed_log shell (.starting launch.path launch.arguments)
    rw [fails]
    exact .behind silent rfl (accounts_concludeFailure (silent.works works) name (.start fault))
  | @lost run world fault _ started fails =>
    have ran := diagnosed_behindRun shell launch run world
    have reported := diagnosed_reportOrWarn (ran.works works) (some name)
      (Failure.await fault).detail
    have lost : lostEnd launch fault = ⟨some name, (Failure.await fault).detail⟩ := by
      rw [lostEnd, named]
    rw [← lost] at reported
    rw [started, fails, Option.toList_some, List.map_singleton, ← lost]
    exact .lost fails (ran.trans reported)
  | @ended run world _ started awaited =>
    rw [started, awaited]
    exact .ended awaited ((diagnosed_behindRun shell launch run world).then_silent
      (diagnosed_log _ _))

theorem accounts_command_of_foreign (works : shell.letterhead.Works) {name : Text}
    (unknown : Builtin.ofName? name = none) (operands : List Text) :
    Accounts shell (shell.dueOfProgram name operands) (shell.command name operands) := by
  have refused : ∀ failure : Failure, failure.detail = failure.message →
      Accounts shell [⟨some name, failure.message⟩] (shell.refuse name failure) := by
    intro failure same
    have silent := diagnosed_log shell (.refused name failure.message)
    rw [← same]
    exact .behind silent rfl (accounts_concludeFailure (silent.works works) name failure)
  rw [command_of_foreign unknown, dueOfProgram]
  cases CommandSearch.find shell.world
      (shell.session.environment.get? (Text.ofString "PATH")) name with
  | obstacle _ => exact refused .commandNotExecutable rfl
  | nothing => exact refused .commandNotFound rfl
  | program path => exact accounts_launch works rfl

theorem due_of_dispatched {segment : Segment} {builtin : Builtin} {operands : List Text}
    (calls : shell.dispatched segment = some (builtin, operands)) :
    shell.due segment = shell.dueOfCall builtin.name (builtin.call operands) := by
  unfold dispatched at calls
  split at calls
  next name others stray words =>
    rcases Option.map_eq_some_iff.mp calls with ⟨_, found, same⟩
    cases same
    simp only [due, wordsOf, stray, words, found, Builtin.name_of_ofName? found]
  next => cases calls

theorem accounts_segment (works : shell.letterhead.Works) (segment : Segment) :
    Accounts shell (shell.due segment) (shell.segment segment) := by
  have silent := diagnosed_log shell (.expanded segment.text (shell.session.expand segment.text))
  cases calls : shell.dispatched segment with
  | some order =>
    rcases order with ⟨builtin, operands⟩
    have called : Diagnosed [] [] shell (shell.calling segment builtin operands) :=
      silent.trans (diagnosed_log _ _)
    rw [segment_of_dispatched calls, due_of_dispatched calls]
    exact .behind called rfl (accounts_carryOut (called.works works) builtin operands)
  | none =>
    rcases segment_of_not_dispatched calls with
      ⟨sign, stray, run⟩ | ⟨stray, words, run⟩ | ⟨name, operands, stray, words, unknown, run⟩
    · rw [run]
      simp only [due, stray]
      exact .alone (diagnosed_reportOrWarn works none _) (tells_failure (.unexpected [sign]) _)
    · rw [run]
      simp only [due, stray, wordsOf, words]
      exact .alone silent tells_success
    · rw [run]
      simp only [due, stray, wordsOf, words, unknown]
      exact .behind silent rfl (accounts_command_of_foreign (silent.works works) unknown operands)

theorem diagnosed_conclude (shell : Shell) (outcome : Outcome) :
    Diagnosed [] [] shell (shell.conclude outcome) := by
  cases outcome <;>
    exact ⟨rfl, (List.append_nil _).symm, rfl, (List.append_nil _).symm⟩

theorem errors_withoutDetails (shell : Shell) : shell.withoutDetails.errors = shell.errors := by
  have silent : ∀ events : List Event,
      (events.filter fun event => !event.isDetail).flatMap (Event.writtenText .error) =
        events.flatMap (Event.writtenText .error) := by
    intro events
    induction events with
    | nil => rfl
    | cons event rest induction =>
      cases detail : event.isDetail with
      | false => simp [detail, induction]
      | true =>
        have nothing : event.writtenText .error = [] := by
          unfold Event.isDetail at detail
          split at detail
          · rfl
          · cases detail
        simp [detail, nothing, induction]
  rw [errors, withoutDetails, Console.transcript, ← List.filter_reverse]
  exact silent shell.console.transcript

theorem diagnosed_of_withoutDetails {left right : Shell}
    (same : right.withoutDetails = left.withoutDetails) : Diagnosed [] [] left right where
  kept := by
    have letterheads := congrArg letterhead same
    exact letterheads
  written := by
    rw [← errors_withoutDetails right, same, errors_withoutDetails]
    exact (List.append_nil _).symm
  counted := by
    have complaints := congrArg (fun shell => shell.session.complaints) same
    exact complaints
  launched := by
    rw [← launches_withoutDetails right, same, launches_withoutDetails, List.append_nil]

end

end Shell

/-! ## Steps -/

namespace Step

/-- The diagnostics of a segment at its turn. One that is passed over has none. -/
def due (step : Step) : List Diagnostic :=
  step.outcome.elim [] fun _ => step.before.due step.segment

/-- A step has issued the diagnostics that were due. There are none where the segment is
passed over, ends the session or has run a program that has ended with a status, whatever
this is. Where the end of the program could not be awaited there is one for that. Where no
program has run, there are some exactly if the status is not 0. -/
structure Accounted (step : Step) : Prop where
  diagnosed : Shell.Diagnosed step.due step.launches step.before step.after
  passedOver : step.outcome = none → step.due = []
  exit : ∀ code, step.outcome = some (.exit code) → step.due = []
  program : step.launches ≠ [] → step.before.world.awaitFault = none → step.due = []
  lostEnd : ∀ launch ∈ step.launches, ∀ fault, step.before.world.awaitFault = some fault →
    step.due = [Shell.lostEnd launch fault] ∧ step.outcome = some (.status 126)
  status : ∀ status, step.outcome = some (.status status) → step.launches = [] →
    (Session.exitStatus status ≠ 0 ↔ step.due ≠ [])

theorem accounted_of_accounts {step : Step} {due : List Diagnostic} {outcome : Outcome}
    {left : Shell} (accounts : Shell.Accounts step.before due (outcome, left))
    (same : step.due = due) (ran : step.outcome = some outcome)
    (after : step.after = left.conclude outcome) : step.Accounted := by
  have concluded := Shell.diagnosed_conclude left outcome
  rw [← after] at concluded
  have notPassed : step.outcome ≠ none := by
    rw [ran]
    nofun
  cases accounts with
  | alone diagnosed tells =>
    subst same
    have there := diagnosed.then_silent concluded
    have idle : step.launches = [] := launches_eq there.launched
    constructor
    · rw [idle]
      exact there
    · exact fun passed => absurd passed notPassed
    · intro code ends
      rw [ends] at ran
      cases ran
      exact tells
    · exact absurd idle
    · simp [idle]
    · intro status ends _
      rw [ends] at ran
      cases ran
      exact tells
  | @ended launch _ _ awaited diagnosed =>
    have there := diagnosed.then_silent concluded
    have launched : step.launches = [launch] := launches_eq there.launched
    refine ⟨?_, fun _ => same, fun _ _ => same, fun _ _ => same, ?_, ?_⟩
    · rw [launched, same]
      exact there
    · intro _ _ fault fails
      cases awaited.symm.trans fails
    · intro status _ idle
      cases launched.symm.trans idle
  | @lost launch fault _ fails diagnosed =>
    have there := diagnosed.then_silent concluded
    have launched : step.launches = [launch] := launches_eq there.launched
    refine ⟨?_, fun passed => absurd passed notPassed, ?_, ?_, ?_, ?_⟩
    · rw [launched, same]
      exact there
    · intro code ends
      cases ran.symm.trans ends
    · intro _ awaited
      cases fails.symm.trans awaited
    · intro one among other failsToo
      rw [launched] at among
      cases List.mem_singleton.mp among
      cases fails.symm.trans failsToo
      exact ⟨same, ran⟩
    · intro status _ idle
      cases launched.symm.trans idle

theorem accounted_of_isLawful {step : Step} (works : step.before.letterhead.Works)
    (lawful : step.IsLawful) : step.Accounted := by
  cases ran : step.outcome with
  | some outcome =>
    have accounts := Shell.accounts_segment works step.segment
    have due : step.due = step.before.due step.segment := by rw [Step.due, ran]; rfl
    rcases lawful.of_outcome ran with ⟨rfl, after⟩
    exact accounted_of_accounts accounts due ran after
  | none =>
    have silent := Shell.diagnosed_of_withoutDetails (lawful.of_passed ran)
    have idle : step.launches = [] := launches_eq silent.launched
    have due : step.due = [] := by rw [Step.due, ran]; rfl
    refine ⟨?_, fun _ => due, fun _ _ => due, fun _ _ => due, by simp [idle], ?_⟩
    · rw [idle, due]
      exact silent
    · intro status ended
      rw [ran] at ended
      cases ended

/-- Steps in a row issue their diagnostics in a row, all with the same letterhead. -/
theorem accounted_of_linked {steps : List Step} {first last : Shell}
    (works : first.letterhead.Works) (linked : Linked first steps last)
    (lawful : ∀ step ∈ steps, step.IsLawful) :
    Shell.Diagnosed (steps.flatMap due) (steps.flatMap launches) first last ∧
      ∀ step ∈ steps, step.before.letterhead = first.letterhead ∧ step.Accounted := by
  induction steps generalizing first with
  | nil =>
    have same : first = last := linked
    subst same
    exact ⟨.refl first, by simp⟩
  | cons step rest induction =>
    rcases linked with ⟨rfl, linkedRest⟩
    rcases List.forall_mem_cons.mp lawful with ⟨here, onward⟩
    have accounted := accounted_of_isLawful works here
    have kept := accounted.diagnosed.kept
    rcases induction (accounted.diagnosed.works works) linkedRest onward with ⟨diagnosed, later⟩
    rw [kept] at later
    exact ⟨accounted.diagnosed.trans diagnosed, List.forall_mem_cons.mpr ⟨⟨rfl, accounted⟩, later⟩⟩

end Step

/-! ## Lines -/

namespace Shell

/-- The diagnostics of a line: one if it is rejected as a whole, and otherwise those of its
segments at their turns. -/
def dueOfLine (shell : Shell) (line : Text) : List Diagnostic :=
  match Chain.ofLine line with
  | .error operator => [⟨none, (Failure.unexpected operator.symbol).message⟩]
  | .ok _ => (shell.stepsOf line).flatMap Step.due

theorem accounted_submit {shell : Shell} (works : shell.letterhead.Works) (line : Text) :
    Diagnosed (shell.dueOfLine line) ((shell.stepsOf line).flatMap Step.launches) shell
        (shell.submit line).2 ∧
      ∀ step ∈ shell.stepsOf line, step.before.letterhead = shell.letterhead ∧ step.Accounted := by
  cases split : Chain.ofLine line with
  | error operator =>
    have silent := diagnosed_log shell (.trailingOperator operator.symbol)
    have reported := diagnosed_reportOrWarn (silent.works works) none
      (Failure.unexpected operator.symbol).message
    have noted := (silent.trans reported).then_silent (diagnosed_conclude _ (.status 2))
    simp only [dueOfLine, stepsOf, submit, split]
    exact ⟨noted, by simp⟩
  | ok segments =>
    have silent := diagnosed_log shell (.split line segments.length)
    by_cases inhabited : segments = []
    · subst inhabited
      simp only [dueOfLine, stepsOf, submit, split]
      exact ⟨silent, by simp [course]⟩
    · have begun : Diagnosed [] [] shell (shell.begin line segments) :=
        ⟨silent.kept, silent.written, silent.counted, silent.launched⟩
      rw [submit_chain split inhabited]
      simp only [dueOfLine, stepsOf, split]
      rcases Step.accounted_of_linked (begun.works works) (linked_course segments _)
        (isLawful_of_mem_course segments _) with ⟨diagnosed, each⟩
      rw [begun.kept] at each
      exact ⟨begun.trans diagnosed, each⟩

end Shell

end CommandShell
