import CommandShell.Aliases
import CommandShell.Environment
import CommandShell.History
import CommandShell.Reference

namespace CommandShell

/-! The session is what commands read and change while the shell runs. -/

structure Session where
  environment : Environment
  aliases : Aliases := .empty
  history : History := {}
  /-- The status of the last command that ran. -/
  status : Int := 0
  /-- The status with which the session was asked to end. -/
  exitRequest : Option Int := none
  /-- The directory to which `cd -` returns. -/
  previousDirectory : Option Text := none
  /-- The shell's own arguments, its name first. -/
  arguments : List Text
  processId : Nat
  lineNumber : Nat := 0
  complaints : Nat := 0
  deriving DecidableEq, Repr

namespace Session

/-- A session that has read nothing yet. It can return to a directory that an
earlier session left in `OLDPWD`. -/
def ofEnvironment (environment : Environment) (arguments : List Text)
    (processId : Nat) : Session where
  environment := environment
  arguments := arguments
  processId := processId
  previousDirectory :=
    (environment.get? (Text.ofString "OLDPWD")).filter fun directory => !directory.isEmpty

def shellName (session : Session) : Text :=
  session.arguments.head?.getD (Text.ofString "hsh")

/-! ## Status -/

/-- The status as a process would leave it, from 0 to 255. -/
def exitStatus (status : Int) : Int :=
  status % 256

def noteStatus (session : Session) (status : Int) : Session :=
  { session with status := exitStatus status }

/-! ## Expansion -/

/-- The text that stands for a piece. A name without a value stands for nothing. -/
def valueOf (session : Session) : Piece → Text
  | .literal character => [character]
  | .status => Text.ofInt session.status
  | .processId => Text.ofNat session.processId
  | .variable name => (session.environment.get? name).getD []

/-- The text with its references replaced. Values are not looked at again. -/
def substitute (session : Session) (text : Text) : Text :=
  (Piece.ofText text).flatMap session.valueOf

/-- The command that defines aliases keeps its references, so that they take the
values of the time at which the alias is used. -/
def keepsReferences (command : Text) : Bool :=
  Text.firstWord command = Text.ofString "alias"

/-- A command with its alias replaced and then its references. -/
def expand (session : Session) (command : Text) : Text :=
  let replaced := session.aliases.replace command
  if keepsReferences replaced then replaced else session.substitute replaced

end Session

end CommandShell
