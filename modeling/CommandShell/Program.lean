import CommandShell.Text.Utf8

namespace CommandShell

/-! A program is known by what it does when it runs: a list of actions, after
which it ends with status 0 unless one of them ends it before. -/

inductive Stream where
  | output
  | error
  deriving DecidableEq, Repr

inductive Action where
  | write (stream : Stream) (bytes : Bytes)
  /-- Writes each argument in brackets on a line of its own. -/
  | showArguments
  /-- Writes each variable of the environment on a line of its own. -/
  | showEnvironment
  | showDirectory
  | copyInput
  | exit (code : Nat)
  | die (signal : Nat)
  deriving DecidableEq, Repr

abbrev Program := List Action

inductive Ending where
  | exited (code : Nat)
  | killed (signal : Nat)
  deriving DecidableEq, Repr

/-- A program killed by a signal has a status above 128. -/
def Ending.status : Ending → Int
  | .exited code => code
  | .killed signal => 128 + signal

structure Surroundings where
  arguments : List Text
  environment : List (Text × Text)
  /-- The working directory, unless it has been removed. -/
  directory : Option Text
  /-- What the standard input still holds. -/
  input : List Bytes
  deriving DecidableEq, Repr

/-- What a program leaves behind: its writes in their order, the rest of the
standard input, and its end. -/
structure Run where
  written : List (Stream × Bytes)
  input : List Bytes
  ending : Ending
  deriving DecidableEq, Repr

namespace Program

def line (text : Text) : Bytes :=
  Utf8.encode (text ++ ['\n'])

def argumentLines (arguments : List Text) : Bytes :=
  arguments.flatMap fun argument => line ('[' :: argument ++ [']'])

def environmentLines (environment : List (Text × Text)) : Bytes :=
  environment.flatMap fun (name, value) => line (name ++ '=' :: value)

/-- The line is empty where the directory has been removed. -/
def directoryLine (directory : Option Text) : Bytes :=
  line (directory.getD [])

def run (surroundings : Surroundings) : Program → Run
  | [] => ⟨[], surroundings.input, .exited 0⟩
  | .exit code :: _ => ⟨[], surroundings.input, .exited code⟩
  | .die signal :: _ => ⟨[], surroundings.input, .killed signal⟩
  | .write stream bytes :: rest =>
    after stream bytes (run surroundings rest)
  | .showArguments :: rest =>
    after .output (argumentLines surroundings.arguments) (run surroundings rest)
  | .showEnvironment :: rest =>
    after .output (environmentLines surroundings.environment) (run surroundings rest)
  | .showDirectory :: rest =>
    after .output (directoryLine surroundings.directory) (run surroundings rest)
  | .copyInput :: rest =>
    after .output surroundings.input.flatten
      (run { surroundings with input := [] } rest)
where
  after (stream : Stream) (bytes : Bytes) (later : Run) : Run :=
    { later with written := (stream, bytes) :: later.written }

end Program

end CommandShell
