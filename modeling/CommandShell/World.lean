import CommandShell.Environment
import CommandShell.FileTree
import CommandShell.Header

namespace CommandShell

/-! The world is what the shell shares with the programs it starts: the files,
the directory they all stand in, and the standard input. -/

/-- A program about to be started: the path of its file, its arguments with the
name it is called by in front, and its environment as strings. -/
structure Launch where
  path : Text
  arguments : List Text
  environment : List Text
  deriving DecidableEq, Repr

structure World where
  files : FileTree
  place : Place := .root
  /-- The deliveries that the standard input still holds. The shell and its programs
  share it, so that what one of them reads is gone for the others. -/
  input : List Bytes := []
  /-- The fault with which waiting for the end of a program fails, if it does: the system
  may be told not to keep the statuses of programs that have ended. -/
  awaitFault : Option Fault := none
  deriving DecidableEq, Repr

namespace World

def locate (world : World) (text : Text) : Except Fault Located :=
  world.files.locate world.place text

/-- Whether the text names anything. -/
def holds (world : World) (text : Text) : Bool :=
  match world.locate text with
  | .ok (.directory _) => true
  | .ok (.entry _ _) => true
  | _ => false

/-- Whether the text names a plain file or a program that can be executed. -/
def isExecutable (world : World) (text : Text) : Bool :=
  match world.locate text with
  | .ok (.entry _ node) => node.isExecutable
  | _ => false

/-! ## The working directory -/

def directory? (world : World) : Option Text :=
  world.place.text?

def changeDirectory (world : World) (text : Text) : Except Fault World :=
  match world.locate text with
  | .ok (.directory place) => .ok { world with place := place }
  | .ok (.entry _ _) => .error .notDirectory
  | .ok (.vacant _) => .error .noSuchEntry
  | .error fault => .error fault

/-! ## Files -/

def read (world : World) (text : Text) : Except Fault Bytes :=
  world.files.read world.place text

def write (world : World) (text : Text) (contents : Bytes) : Except Fault World :=
  match world.files.write world.place text contents with
  | .ok files => .ok { world with files := files }
  | .error fault => .error fault

def put (world : World) (text : Text) (node : Node) : World :=
  { world with files := world.files.put (FileTree.names text) node }

/-- Removes a file, or a directory with everything in it. If the working directory
is among that, it is left without a path. -/
def remove (world : World) (text : Text) : World :=
  match world.files.entryPath? (FileTree.names text) with
  | some path =>
    { world with files := world.files.remove path, place := world.place.afterRemoval path }
  | none => world

/-! ## Programs -/

/-- The largest size of one argument or string of the environment, its end
included. -/
def argumentLimit : Nat := 131072

/-- The largest size of all arguments and strings together. -/
def argumentsLimit : Nat := 2097152

/-- Whether the arguments and the environment of a program are too large to be
handed over. Each string takes one byte for its end and eight for its address. -/
def isTooLong (path : Text) (strings : List Text) : Bool :=
  let total := strings.foldl (fun total string => total + Utf8.size string + 9) 0
  strings.any (fun string => Utf8.size string + 1 > argumentLimit) ||
    total + Utf8.size path + 1 > argumentsLimit

/-- The file that a text names, if it can be executed. -/
def executable (world : World) (text : Text) : Except Fault Node :=
  match world.locate text with
  | .error fault => .error fault
  | .ok (.vacant _) => .error .noSuchEntry
  | .ok (.directory _) => .error .accessDenied
  | .ok (.entry _ node) => if node.isExecutable then .ok node else .error .accessDenied

/-- How many files may be loaded to get from a file to a program, both of them
counted. -/
def loadLimit : Nat := 6

/-- The program that carries out a file, and its arguments. For a file with a
header it is that of the interpreter, which may have a header in its turn. A header
without a name stands for the working directory, which cannot be executed. -/
def carrier (world : World) :
    Nat → Text → List Text → Node → Except Fault (Program × List Text)
  | 0, _, _, _ => .error .tooManyLinks
  | _ + 1, _, arguments, .program program => .ok (program, arguments)
  | limit + 1, path, arguments, node =>
    match Header.ofContents? node.contents with
    | none => .error .badFormat
    | some ⟨[], _⟩ => .error .accessDenied
    | some ⟨interpreter, argument⟩ =>
      match world.executable interpreter with
      | .error fault => .error fault
      | .ok node =>
        carrier world limit interpreter
          (interpreter :: argument.toList ++ path :: arguments.tail) node

def launchedEnvironment (launch : Launch) : List (Text × Text) :=
  Environment.received launch.environment

/-- Starts a program and waits for its end. -/
def start (world : World) (launch : Launch) : Except Fault (Run × World) :=
  let environment := launchedEnvironment launch
  let strings := launch.arguments ++ environment.map fun (name, value) => name ++ '=' :: value
  if strings.any (·.contains '\x00') then .error .zeroInArguments
  else
    match world.executable launch.path with
    | .error fault => .error fault
    | .ok node =>
      if isTooLong launch.path strings then .error .argumentsTooLong
      else
        match carrier world loadLimit launch.path launch.arguments node with
        | .error fault => .error fault
        | .ok (program, arguments) =>
          let run := program.run
            { arguments := arguments
              environment := environment
              directory := world.directory?
              input := world.input }
          .ok (run, { world with input := run.input })

end World

end CommandShell
