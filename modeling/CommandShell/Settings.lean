import CommandShell.Environment
import CommandShell.FileTree

namespace CommandShell

/-! The settings hold what does not change while a session runs. -/

/-- Where the lines come from. -/
inductive Mode where
  | interactive
  | standardInput
  | script (path : Text)
  deriving DecidableEq, Repr

structure Settings where
  mode : Mode
  /-- What invites the user to type a line. -/
  invitation : Text := ['$', ' ']
  historyPath : Option Text := none
  /-- The largest number of entries that are saved. -/
  historyLimit : Nat := 4096
  deriving DecidableEq, Repr

namespace Settings

/-- The history lies in the home directory, if there is one. -/
def ofEnvironment (mode : Mode) (environment : Environment) : Settings where
  mode := mode
  historyPath :=
    ((environment.get? (Text.ofString "HOME")).filter fun home => !home.isEmpty).map
      fun home => FileTree.join home (Text.ofString ".shell_history")

def isInteractive (settings : Settings) : Bool :=
  settings.mode = .interactive

/-- What is shown before a line is read. Only a user is invited. -/
def prompt (settings : Settings) : Text :=
  if settings.isInteractive then settings.invitation else []

end Settings

end CommandShell
