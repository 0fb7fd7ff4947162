import CommandShell.Console
import CommandShell.Failure
import CommandShell.HistoryFile
import CommandShell.Session
import CommandShell.Settings

namespace CommandShell

/-! The shell is a session in the world, with a console to write to. -/

structure Shell where
  settings : Settings
  session : Session
  world : World
  console : Console := {}
  deriving DecidableEq, Repr

/-- What a command has led to: a status, or the end of the session. -/
inductive Outcome where
  | status (status : Int)
  | exit (code : Int)
  deriving DecidableEq, Repr

namespace Shell

/-! ## Writing -/

def record (shell : Shell) (event : Event) : Shell :=
  { shell with console := shell.console.record event }

def log (shell : Shell) (detail : Detail) : Shell :=
  shell.record (.logged (.detail detail))

def warn (shell : Shell) (message : Text) : Shell :=
  shell.record (.logged (.warning message))

/-- Writes a text, and answers with the fault that prevented it. -/
def write (shell : Shell) (stream : Stream) (text : Text) : Option Fault × Shell :=
  let (fault, console) := shell.console.write stream text
  (fault, { shell with console := console })

/-! ## Diagnostics -/

/-- A diagnostic: the shell's name, the number of the line, the command unless
the line could not be understood, and the message. -/
def diagnostic (session : Session) (command : Option Text) (message : Text) : Text :=
  let place := session.shellName ++ [':', ' '] ++ Text.ofNat session.lineNumber ++ [':', ' ']
  match command with
  | some command => place ++ command ++ [':', ' '] ++ message ++ ['\n']
  | none => place ++ message ++ ['\n']

/-- Issues a diagnostic, and answers with the fault that prevented it. It counts
whether it could be written or not. -/
def report (shell : Shell) (command : Option Text) (message : Text) : Option Fault × Shell :=
  let text := diagnostic shell.session command message
  { shell with session := { shell.session with complaints := shell.session.complaints + 1 } }.write
    .error text

/-- Issues a diagnostic. That it could not be written is only worth a warning. -/
def reportOrWarn (shell : Shell) (command : Option Text) (message : Text) : Shell :=
  match shell.report command message with
  | (none, shell) => shell
  | (some fault, shell) =>
    shell.warn (Text.ofString "failed to write diagnostic: " ++ fault.message)

/-! ## Beginning and end -/

/-- A shell with the history of the sessions before it. A history that cannot be
read is left alone: it is not replaced when the session ends. -/
def start (settings : Settings) (session : Session) (world : World)
    (console : Console := {}) : Shell :=
  let shell : Shell := ⟨settings, session, world, console⟩
  match settings.historyPath with
  | none => shell
  | some path =>
    match HistoryFile.load world path with
    | .ok none => { shell with session := { session with history := {} } }
    | .ok (some history) =>
      { shell with session := { session with history := history } }.log
        (.loaded history.texts.length path)
    | .error fault =>
      { shell with settings := { settings with historyPath := none } }.warn
        (Text.ofString "failed to read history from " ++ path ++ [':', ' '] ++ fault.message)

def flush (shell : Shell) : Shell :=
  match shell.console.flushFault? with
  | none => shell
  | some fault => shell.warn (Text.ofString "failed to flush output: " ++ fault.message)

/-- Saves the history, if it has a file. -/
def saveHistory (shell : Shell) : Shell :=
  match shell.settings.historyPath with
  | none => shell
  | some path =>
    let history := shell.session.history
    match HistoryFile.save shell.world path history shell.settings.historyLimit with
    | .ok world =>
      { shell with world := world }.log
        (.saved (history.newest shell.settings.historyLimit).length path)
    | .error fault =>
      shell.warn
        (Text.ofString "failed to write history to " ++ path ++ [':', ' '] ++ fault.message)

def close (shell : Shell) : Shell :=
  shell.flush.saveHistory

end Shell

end CommandShell
