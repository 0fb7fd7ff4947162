import CommandShell.Shell.Run
import CommandShell.Terminal

namespace CommandShell

/-! The command line of the shell itself: its options, the choice of where lines
come from, and what a whole session prints. -/

/-- How the shell has been called. -/
structure Invocation where
  /-- The name it was called by. -/
  name : Text := Text.ofString "hsh"
  arguments : List Text := []
  /-- The environment as strings of bytes. -/
  environment : List Bytes := []
  processId : Nat := 0
  /-- Whether the standard input is a terminal. -/
  terminal : Bool := false
  deriving DecidableEq, Repr

namespace CommandLine

/-! ## Arguments -/

def topics : List (Text × Topic) :=
  [(Text.ofString "commands", .commands), (Text.ofString "expansion", .expansion),
    (Text.ofString "parse", .parse), (Text.ofString "history", .history)]

def topic? (name : Text) : Option Topic :=
  topics.lookup name

/-- What the arguments ask for. -/
structure Request where
  help : Bool := false
  topics : List Topic := []
  script : Option Text := none
  deriving DecidableEq, Repr

/-- Why arguments are refused. -/
inductive Refusal where
  | unrecognized (argument : Text)
  | withoutValue (option : Text)
  | unknownTopic (name : Text)
  /-- An option after the request for help. -/
  | afterHelp
  deriving DecidableEq, Repr

def Refusal.message : Refusal → Text
  | .unrecognized argument =>
    Text.ofString "Unrecognized argument: " ++ argument ++ ['\n']
  | .withoutValue option =>
    Text.ofString "No value provided for option '" ++ option ++ Text.ofString "'.\n"
  | .unknownTopic name =>
    Text.ofString "Error parsing option '--log' with value '" ++ name ++
      Text.ofString "': unknown log target `" ++ name ++
      Text.ofString "` (expected commands, expansion, parse or history)\n"
  | .afterHelp => Text.ofString "Trailing arguments are not allowed after `help`."

/-- The only operand is the script. -/
def takeOperand (request : Request) (operand : Text) : Except Refusal Request :=
  match request.script with
  | none => .ok { request with script := some operand }
  | some _ => .error (.unrecognized operand)

/-- After `--` every argument is an operand. -/
def parseOperands (request : Request) : List Text → Except Refusal Request
  | [] => .ok request
  | operand :: rest =>
    match takeOperand request operand with
    | .ok request => parseOperands request rest
    | .error refusal => .error refusal

def helpWords : List Text :=
  [Text.ofString "--help", Text.ofString "help"]

def logOption : Text :=
  Text.ofString "--log"

def parseFrom (request : Request) : List Text → Except Refusal Request
  | [] => .ok request
  | argument :: rest =>
    if helpWords.contains argument then parseFrom { request with help := true } rest
    else if argument = ['-', '-'] then parseOperands request rest
    else if argument.head? = some '-' then
      if request.help then .error .afterHelp
      else if argument = logOption then
        match rest with
        | [] => .error (.withoutValue logOption)
        | name :: rest =>
          match topic? name with
          | some topic => parseFrom { request with topics := request.topics ++ [topic] } rest
          | none => .error (.unknownTopic name)
      else .error (.unrecognized argument)
    else
      match takeOperand request argument with
      | .ok request => parseFrom request rest
      | .error refusal => .error refusal

def parse (arguments : List Text) : Except Refusal Request :=
  parseFrom {} arguments

/-! ## Messages -/

/-- The last part of the name the shell was called by, or all of it where the
name does not end in one. -/
def shortName (name : Text) : Text :=
  match ((Cut.all '/' name).filter fun part => !part.isEmpty && part ≠ ['.']).getLast? with
  | none => name
  | some part => if part = ['.', '.'] then name else part

def help (name : Text) : Text :=
  Text.ofString "Usage: " ++ shortName name ++
    Builtin.page
      [" [--log <log...>] [--] [<script>]",
        "",
        "A minimal POSIX-style command interpreter.",
        "",
        "Positional Arguments:",
        "  script            script to run instead of reading commands from standard",
        "                    input.",
        "",
        "Options:",
        "  --log             enable debug logging for a target: commands, expansion,",
        "                    parse or history. May be repeated.",
        "  --help, help      display usage information",
        ""]

def refusal (name : Text) (refusal : Refusal) : Text :=
  refusal.message ++ Text.ofString "\nRun " ++ shortName name ++
    Text.ofString " --help for more information.\n"

/-! ## What appears -/

/-- The log has colours unless the variable `NO_COLOR` holds a text. -/
def usesColours (environment : List Bytes) : Bool :=
  match (Environment.processValue? (Text.ofString "NO_COLOR") environment).bind Utf8.decode? with
  | some value => value.isEmpty
  | none => true

/-- What an event leaves on the standard output. -/
def outputOf : Event → Bytes
  | .written .output text => Utf8.encode text
  | .produced .output bytes => bytes
  | .prompted prompt => Utf8.encode prompt
  | _ => []

/-- What an event leaves on the standard error. -/
def errorOf (view : LogView) : Event → Bytes
  | .written .error text => Utf8.encode text
  | .produced .error bytes => bytes
  | .logged entry => Utf8.encode (view.render entry)
  | _ => []

/-! ## The whole -/

/-- What is left when the shell has ended. -/
structure Completion where
  code : Int
  output : Bytes := []
  error : Bytes := []
  world : World
  deriving DecidableEq, Repr

/-- The size of the blocks in which a file is read. -/
def blockSize : Nat := 8192

theorem length_drop_blockSize_lt {bytes : Bytes} (filled : ¬bytes.isEmpty) :
    (bytes.drop blockSize).length < bytes.length := by
  have positive : 0 < bytes.length :=
    List.length_pos_iff.mpr fun empty => filled (List.isEmpty_iff.mpr empty)
  have size : blockSize = 8192 := rfl
  rw [List.length_drop]
  omega

/-- A file in the blocks in which it is read. -/
def blocks (bytes : Bytes) : List Bytes :=
  if bytes.isEmpty then []
  else bytes.take blockSize :: blocks (bytes.drop blockSize)
termination_by bytes.length
decreasing_by rename_i filled; exact length_drop_blockSize_lt filled

def complete (view : LogView) (code : Int) (shell : Shell) : Completion where
  code := code
  output := shell.console.transcript.flatMap outputOf
  error := shell.console.transcript.flatMap (errorOf view)
  world := shell.world

/-- The readings of a script. A directory can be opened and not read. -/
def scriptReadings (world : World) (path : Text) : Except Fault (List Reading) :=
  match world.read path with
  | .ok bytes => .ok (LineReader.readings { deliveries := blocks bytes })
  | .error fault =>
    if fault = .isDirectory then .ok [.failure fault.message] else .error fault

/-- The fate of a script that cannot be opened. Only one that is not there is
worth a message. -/
def unopened (invocation : Invocation) (world : World) (path : Text) (fault : Fault) :
    Completion :=
  let failure := Failure.openScript path fault
  { code := failure.status
    error :=
      if failure.status = 127 then
        Utf8.encode
          (invocation.name ++ Text.ofString ": 0: " ++ failure.message ++ ['\n'])
      else []
    world := world }

/-- A session as it has been asked for. -/
def serve (invocation : Invocation) (request : Request) (world : World) : Completion :=
  let environment := Environment.ofProcess invocation.environment
  let session :=
    Session.ofEnvironment environment (invocation.name :: invocation.arguments)
      invocation.processId
  let view : LogView := ⟨request.topics, usesColours invocation.environment⟩
  let begun (mode : Mode) : Shell :=
    Shell.start (Settings.ofEnvironment mode environment) session world
  match request.script with
  | some path =>
    match scriptReadings world path with
    | .error fault => unopened invocation world path fault
    | .ok readings =>
      let (code, shell) := (begun (.script path)).run readings
      complete view code shell
  | none =>
    let (mode, decoding) :=
      if invocation.terminal then (Mode.interactive, LineReader.Decoding.typed)
      else (.standardInput, .lossy)
    let (code, shell) := (begun mode).runInput decoding
    complete view code shell

/-- The whole of a call, with these bytes on the standard input. -/
def run (invocation : Invocation) (input : Bytes) (world : World) : Completion :=
  let deliveries := if invocation.terminal then Terminal.deliveries input else blocks input
  let world := { world with input := deliveries }
  match parse invocation.arguments with
  | .error reason =>
    { code := 1, error := Utf8.encode (refusal invocation.name reason), world := world }
  | .ok request =>
    if request.help then
      { code := 0, output := Utf8.encode (help invocation.name), world := world }
    else serve invocation request world

end CommandLine

end CommandShell
