import CommandShell.Chain
import CommandShell.CommandSearch
import CommandShell.Shell.Builtins

namespace CommandShell.Shell

/-! A command is expanded, falls into words and is carried out; a line is a chain
of commands. -/

/-! ## Programs -/

/-- Notes that a program has run: what it was started with and what it wrote. -/
def recordRun (shell : Shell) (launch : Launch) (run : Run) : Shell :=
  run.written.foldl (fun shell (stream, bytes) => shell.record (.produced stream bytes))
    (shell.record (.started launch))

/-- Starts a program and waits for it. Its writes go past the console, so both
streams are flushed before. Where its end cannot be awaited it has run nevertheless. -/
def launch (shell : Shell) (launch : Launch) : Attempt :=
  match shell.console.flushFault? with
  | some fault => (.error (.output fault), shell)
  | none =>
    let shell := shell.log (.starting launch.path launch.arguments)
    match shell.world.start launch with
    | .error fault => (.error (.start fault), shell)
    | .ok (run, world) =>
      let shell := { shell with world := world }.recordRun launch run
      match world.awaitFault with
      | some fault => (.error (.await fault), shell)
      | none =>
        let status := run.ending.status
        (.ok (.status status), shell.log (.ended launch.path status))

/-! ## Commands -/

/-- Issues the diagnostic of a failure, and makes its status the command's. -/
def concludeFailure (shell : Shell) (name : Text) (failure : Failure) : Outcome × Shell :=
  (.status failure.status, shell.reportOrWarn (some name) failure.detail)

/-- The same for a command that leads to no program. -/
def refuse (shell : Shell) (name : Text) (failure : Failure) : Outcome × Shell :=
  (shell.log (.refused name failure.message)).concludeFailure name failure

/-- Carries out a command: as a builtin if the name is one's, otherwise as the
program that the name leads to. -/
def command (shell : Shell) (name : Text) (operands : List Text) : Outcome × Shell :=
  let settle : Attempt → Outcome × Shell
    | (.ok outcome, shell) => (outcome, shell)
    | (.error failure, shell) => shell.concludeFailure name failure
  match Builtin.ofName? name with
  | some builtin =>
    settle <| carryOut builtin operands <| shell.log (.builtin name operands)
  | none =>
    let environment := shell.session.environment
    match CommandSearch.find shell.world (environment.get? (Text.ofString "PATH")) name with
    | .program path => settle (shell.launch ⟨path, name :: operands, environment.strings⟩)
    | .obstacle _ => shell.refuse name .commandNotExecutable
    | .nothing => shell.refuse name .commandNotFound

/-- Carries out a segment that is to run. One with a stray sign cannot, and one
that expands to no words succeeds. -/
def segment (shell : Shell) (segment : Segment) : Outcome × Shell :=
  match segment.stray? with
  | some sign =>
    let failure := Failure.unexpected [sign]
    (.status failure.status, shell.reportOrWarn none failure.message)
  | none =>
    let expanded := shell.session.expand segment.text
    let shell := shell.log (.expanded segment.text expanded)
    match Text.words expanded with
    | [] => (.status 0, shell)
    | name :: operands => shell.command name operands

/-! ## Lines -/

def noteStatus (shell : Shell) (status : Int) : Shell :=
  { shell with session := shell.session.noteStatus status }

def requestExit (shell : Shell) (code : Int) : Shell :=
  let session := shell.session.noteStatus code
  { shell with session := { session with exitRequest := some session.status } }

/-- Runs the segments of a chain in their order, each if its operator permits it
after the last one that ran. The answer is the status with which the session is
to end, if a segment asked for that; no segment after it runs. -/
def chain : Chain → Shell → Option Int × Shell
  | [], shell => (none, shell)
  | segment :: rest, shell =>
    if segment.runsAfter shell.session.status then
      match shell.segment segment with
      | (.status status, shell) => chain rest (shell.noteStatus status)
      | (.exit code, shell) => ((shell.requestExit code).session.exitRequest, shell.requestExit code)
    else
      chain rest <| shell.log (.skipped segment.text shell.session.status)

def remember (shell : Shell) (line : Text) : Shell :=
  { shell with session := { shell.session with history := shell.session.history.push line } }

/-- Executes a line. One that ends in an operator is rejected as a whole; one
without commands does nothing and is not remembered. -/
def submit (shell : Shell) (line : Text) : Option Int × Shell :=
  match Chain.ofLine line with
  | .error operator =>
    let failure := Failure.unexpected operator.symbol
    (none,
      ((shell.log (.trailingOperator operator.symbol)).reportOrWarn none
        failure.message).noteStatus failure.status)
  | .ok segments =>
    let shell := shell.log (.split line segments.length)
    if segments.isEmpty then (none, shell) else chain segments (shell.remember line)

end CommandShell.Shell
