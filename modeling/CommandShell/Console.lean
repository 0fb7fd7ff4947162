import CommandShell.Log
import CommandShell.World

namespace CommandShell

/-! The console takes what the shell writes. It keeps one transcript in which the
writes of the shell, those of its programs, the prompts and the log stand in the
order in which they happened. -/

/-- One of the two streams the shell writes to. Writing and flushing work unless
they have a fault. A stream with a write fault still takes as many characters as it
has room for; without one the room does not matter. -/
structure Sink where
  writeFault : Option Fault := none
  flushFault : Option Fault := none
  room : Nat := 0
  deriving DecidableEq, Repr

namespace Sink

/-- The fault with which the writing of a text ends. The empty text can always be
written. -/
def fault? (sink : Sink) (text : Text) : Option Fault :=
  match sink.writeFault with
  | none => none
  | some fault => if text.length ≤ sink.room then none else some fault

/-- What of a text is written, up to the fault. -/
def taken (sink : Sink) (text : Text) : Text :=
  match sink.writeFault with
  | none => text
  | some _ => text.take sink.room

/-- The stream after a text has been written to it. -/
def after (sink : Sink) (text : Text) : Sink :=
  match sink.writeFault with
  | none => sink
  | some _ => { sink with room := sink.room - text.length }

end Sink

inductive Event where
  | written (stream : Stream) (text : Text)
  /-- A line is to be read after this prompt. -/
  | prompted (prompt : Text)
  /-- A line that is not blank has been read. -/
  | accepted (line : Text)
  | started (launch : Launch)
  | produced (stream : Stream) (bytes : Bytes)
  | logged (entry : LogEntry)
  deriving DecidableEq, Repr

structure Console where
  output : Sink := {}
  error : Sink := {}
  /-- The events, the latest first. -/
  latest : List Event := []
  deriving DecidableEq, Repr

namespace Console

def sink (console : Console) : Stream → Sink
  | .output => console.output
  | .error => console.error

def setSink (console : Console) (stream : Stream) (sink : Sink) : Console :=
  match stream with
  | .output => { console with output := sink }
  | .error => { console with error := sink }

def transcript (console : Console) : List Event :=
  console.latest.reverse

def record (console : Console) (event : Event) : Console :=
  { console with latest := event :: console.latest }

@[simp] theorem transcript_record (console : Console) (event : Event) :
    (console.record event).transcript = console.transcript ++ [event] :=
  List.reverse_cons

/-- Notes what has been written to a stream, unless that is nothing. -/
def recordWritten (console : Console) (stream : Stream) (text : Text) : Console :=
  if text.isEmpty then console else console.record (.written stream text)

/-- Writes a text, and answers with the fault that prevented it. What the stream
has taken before the fault is written nevertheless. -/
def write (console : Console) (stream : Stream) (text : Text) : Option Fault × Console :=
  let sink := console.sink stream
  (sink.fault? text,
    (console.setSink stream (sink.after text)).recordWritten stream (sink.taken text))

/-- Flushes both streams, the output first. -/
def flushFault? (console : Console) : Option Fault :=
  console.output.flushFault <|> console.error.flushFault

end Console

/-! ## What a transcript shows -/

namespace Event

def writtenText (stream : Stream) : Event → Text
  | .written other text => if other = stream then text else []
  | _ => []

def producedBytes (stream : Stream) : Event → Bytes
  | .produced other bytes => if other = stream then bytes else []
  | _ => []

def prompt? : Event → Option Text
  | .prompted prompt => some prompt
  | _ => none

def acceptedLine? : Event → Option Text
  | .accepted line => some line
  | _ => none

end Event

end CommandShell
