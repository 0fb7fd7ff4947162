import CommandShell.Fault.Wording

namespace CommandShell

/-! A fault is what the system answers where it cannot do what was asked. -/

inductive FaultKind where
  | notFound
  | permissionDenied
  | invalidInput
  deriving DecidableEq, Repr

inductive Fault where
  /-- One of the numbered faults of the system. -/
  | numbered (number : Int)
  /-- A fault of which only the kind is known. -/
  | ofKind (kind : FaultKind)
  | custom (text : Text)
  deriving DecidableEq, Repr

namespace Fault

def noSuchEntry : Fault := .numbered 2
def argumentsTooLong : Fault := .numbered 7
def badFormat : Fault := .numbered 8
def notDirectory : Fault := .numbered 20
def isDirectory : Fault := .numbered 21
def nameTooLong : Fault := .numbered 36
def tooManyLinks : Fault := .numbered 40
def accessDenied : Fault := .numbered 13

/-- A path that holds the character U+0000 cannot be handed to the system. -/
def zeroInPath : Fault :=
  .custom (Text.ofString "file name contained an unexpected NUL byte")

/-- The same for the arguments and the environment of a program. -/
def zeroInArguments : Fault :=
  .custom (Text.ofString "nul byte found in provided data")

/-- What stands between the wording of a numbered fault and its number. -/
def numberMark : Text :=
  Text.ofString " (os error "

def kindWording : FaultKind → String
  | .notFound => "entity not found"
  | .permissionDenied => "permission denied"
  | .invalidInput => "invalid input parameter"

def message : Fault → Text
  | .numbered number =>
    wording number ++ numberMark ++ Text.ofInt number ++ [')']
  | .ofKind kind => Text.ofString (kindWording kind)
  | .custom text => text

/-- The message without its number. Where several numbers seem to follow, only
the last is left out. -/
def reason (fault : Fault) : Text :=
  (Text.beforeLast numberMark fault.message).getD fault.message

def isMissing (fault : Fault) : Bool :=
  fault = noSuchEntry || fault = .ofKind .notFound

def isDenied (fault : Fault) : Bool :=
  fault = .numbered 1 || fault = accessDenied || fault = .ofKind .permissionDenied

end Fault

end CommandShell
