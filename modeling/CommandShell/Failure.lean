import CommandShell.Fault

namespace CommandShell

/-! A failure is a reason for which a command does not succeed. It has one
message, which may rest on a fault, and one status. -/

inductive Failure where
  /-- A sign or operator that stands where none can. -/
  | unexpected (sign : Text)
  /-- An operand that should have been a number. -/
  | illegalNumber (operand : Text)
  /-- Something that was looked up and is not there. -/
  | missing (text : Text)
  /-- A command that names no builtin and no program. -/
  | commandNotFound
  /-- A command that names something which is not a program. -/
  | commandNotExecutable
  | changeDirectory (path : Text) (fault : Fault)
  | start (fault : Fault)
  /-- A program whose end could not be awaited. -/
  | await (fault : Fault)
  /-- Operands that a builtin does not take. -/
  | misuse (text : Text)
  | openScript (path : Text) (fault : Fault)
  | output (fault : Fault)
  deriving DecidableEq, Repr

namespace Failure

def message : Failure → Text
  | .unexpected sign =>
    Text.ofString "Syntax error: \"" ++ sign ++ Text.ofString "\" unexpected"
  | .illegalNumber operand => Text.ofString "Illegal number: " ++ operand
  | .missing text => text
  | .commandNotFound => Text.ofString "not found"
  | .commandNotExecutable => Text.ofString "Permission denied"
  | .changeDirectory path fault =>
    Text.ofString "can't cd to " ++ path ++ Text.ofString ": " ++ fault.reason
  | .start fault => fault.message
  | .await fault => fault.message
  | .misuse text => text
  | .openScript path _ => Text.ofString "Cannot open " ++ path
  | .output fault => fault.message

/-- The fault behind a failure that has one as its cause. -/
def cause? : Failure → Option Fault
  | .changeDirectory _ fault => some fault
  | .start fault => some fault
  | .await fault => some fault
  | .openScript _ fault => some fault
  | _ => none

/-- The message followed by the message of its cause. A program that cannot be
started has the same text for both, which then stands twice. -/
def detail (failure : Failure) : Text :=
  match failure.cause? with
  | some fault => failure.message ++ Text.ofString ": " ++ fault.message
  | none => failure.message

def status : Failure → Int
  | .unexpected _ => 2
  | .illegalNumber _ => 2
  | .missing _ => 1
  | .commandNotFound => 127
  | .commandNotExecutable => 126
  | .changeDirectory _ _ => 2
  | .start _ => 126
  | .await _ => 126
  | .misuse _ => 1
  | .openScript _ fault =>
    if fault.isDenied then 126 else if fault.isMissing then 127 else 1
  | .output _ => 1

end Failure

end CommandShell
