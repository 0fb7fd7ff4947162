import CommandShell.Text.Blank

namespace CommandShell

/-! The builtins are the commands that the shell carries out itself. -/

inductive Builtin where
  | exit
  | cd
  | help
  | aliases
  | history
  | env
  | setenv
  | unsetenv
  deriving DecidableEq, Repr

/-- What is asked of a builtin once its operands have been understood. -/
inductive Call where
  /-- Ends the session; only the first operand counts. -/
  | exit (operand : Option Text)
  | changeDirectory (target : Option Text)
  | overview
  | aliases (operands : List Text)
  | listHistory
  | listEnvironment
  | setVariable (name value : Text)
  | unsetVariable (name : Text)
  /-- Shows the manual page of the builtin. -/
  | manual
  /-- Refuses the operands. -/
  | misuse (message : Text)
  deriving DecidableEq, Repr

namespace Builtin

def all : List Builtin :=
  [.exit, .cd, .help, .aliases, .history, .env, .setenv, .unsetenv]

def name : Builtin → Text
  | .exit => Text.ofString "exit"
  | .cd => Text.ofString "cd"
  | .help => Text.ofString "help"
  | .aliases => Text.ofString "alias"
  | .history => Text.ofString "history"
  | .env => Text.ofString "env"
  | .setenv => Text.ofString "setenv"
  | .unsetenv => Text.ofString "unsetenv"

def ofName? (name : Text) : Option Builtin :=
  all.find? fun builtin => builtin.name = name

/-! ## Operands -/

def surplus (operand : Text) : Call :=
  .misuse (Text.trimRight (Text.ofString "Unrecognized argument: " ++ operand))

def nameRequired : Call :=
  .misuse (Text.ofString "Required positional arguments not provided:\n    name")

/-- The operand that asks for the manual page where it is the only one. -/
def manualOperand : Text :=
  Text.ofString "--help"

/-- What the operands ask for. Apart from the one that asks for the manual, no
operand is an option. -/
def call (builtin : Builtin) (operands : List Text) : Call :=
  if operands = [manualOperand] then .manual
  else
    match builtin, operands with
    | .exit, operands => .exit operands.head?
    | .cd, [] => .changeDirectory none
    | .cd, [target] => .changeDirectory (some target)
    | .cd, _ :: operand :: _ => surplus operand
    | .help, _ => .overview
    | .aliases, operands => .aliases operands
    | .history, [] => .listHistory
    | .history, operand :: _ => surplus operand
    | .env, [] => .listEnvironment
    | .env, operand :: _ => surplus operand
    | .setenv, [] => nameRequired
    | .setenv, [name] => .setVariable name []
    | .setenv, [name, value] => .setVariable name value
    | .setenv, _ :: _ :: operand :: _ => surplus operand
    | .unsetenv, [] => nameRequired
    | .unsetenv, [name] => .unsetVariable name
    | .unsetenv, _ :: operand :: _ => surplus operand

/-- The largest number that `exit` accepts, which takes 32 bits with its sign. -/
def exitCodeLimit : Nat := 2147483647

/-- The number that an operand of `exit` stands for: decimal digits with or
without a plus sign before them. -/
def exitCode? (operand : Text) : Option Int :=
  let digits := if operand.head? = some '+' then operand.drop 1 else operand
  if digits.isEmpty || !digits.all Text.isDigit then none
  else (Text.digitsValueUpTo? exitCodeLimit digits).map Int.ofNat

end Builtin

end CommandShell
