import CommandShell.LineReader
import CommandShell.Shell.Commands

namespace CommandShell.Shell

/-! A run takes line after line until one of them ends the session or the input
does. -/

/-- Gets ready for the next line: what was written appears, and the prompt is
shown. -/
def invite (shell : Shell) : Shell :=
  shell.flush.record (.prompted shell.settings.prompt)

/-- Ends a line that the user has left. -/
def breakLine (shell : Shell) : Shell :=
  if shell.settings.isInteractive then
    match shell.write .output ['\n'] with
    | (none, shell) => shell
    | (some fault, shell) =>
      shell.warn (Text.ofString "failed to write output: " ++ fault.message)
  else shell

/-- Counts a line, and notes it as accepted unless it is blank. -/
def accept (shell : Shell) (line : Text) : Shell :=
  let shell :=
    { shell with session := { shell.session with lineNumber := shell.session.lineNumber + 1 } }
  if Text.isAllBlank line then shell else shell.record (.accepted line)

/-- Whether a run goes on after what has been read. Input that fails counts as
ended. -/
inductive Progress where
  | goesOn
  | ended
  deriving DecidableEq, Repr

def take (shell : Shell) : Reading → Progress × Shell
  | .line line =>
    match (shell.accept line).submit line with
    | (none, shell) => (.goesOn, shell)
    | (some _, shell) => (.ended, shell)
  | .interrupt => (.goesOn, shell.breakLine)
  | .endOfInput => (.ended, shell.breakLine)
  | .failure message =>
    (.ended, (shell.warn (Text.ofString "failed to read input: " ++ message)).breakLine)

def result (shell : Shell) : Int :=
  shell.session.exitRequest.getD shell.session.status

/-! ## Readings known beforehand

What is read from a script or from a reader of one's own does not depend on what
the lines do. -/

/-- Takes the readings in their order, and the end of the input after them. -/
def takeAll : List Reading → Shell → Shell
  | [], shell => (shell.invite.take .endOfInput).2
  | reading :: rest, shell =>
    match shell.invite.take reading with
    | (.goesOn, shell) => takeAll rest shell
    | (.ended, shell) => shell

def run (shell : Shell) (readings : List Reading) : Int × Shell :=
  let shell := (takeAll readings shell).close
  (shell.result, shell)

/-! ## The standard input

Programs read from the same standard input as the shell, so every line is read
only after the line before it has been executed. What the shell has taken in
advance is in its reader's buffer and out of the programs' reach. -/

def readLine (shell : Shell) (reader : LineReader) : Reading × LineReader × Shell :=
  let (reading, reader) := { reader with deliveries := shell.world.input }.next
  (reading, reader, { shell with world := { shell.world with input := reader.deliveries } })

/-- Takes at most so many readings from the standard input. -/
def takeInput : Nat → LineReader → Shell → Shell
  | 0, _, shell => shell
  | limit + 1, reader, shell =>
    let (reading, reader, shell) := shell.invite.readLine reader
    match shell.take reading with
    | (.goesOn, shell) => takeInput limit reader shell
    | (.ended, shell) => shell

/-- A run over the standard input. Each line takes a byte at least, which bounds
the number of readings. -/
def runInput (shell : Shell) (decoding : LineReader.Decoding) : Int × Shell :=
  let limit := shell.world.input.flatten.length + 1
  let shell := (takeInput limit ⟨[], [], .finished, decoding⟩ shell).close
  (shell.result, shell)

end CommandShell.Shell
