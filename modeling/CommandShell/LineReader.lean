import CommandShell.Cut
import CommandShell.Text.Erasure

namespace CommandShell

/-! Lines are read from bytes that arrive in deliveries of any size. What has
arrived and has not been read yet waits in a buffer. -/

inductive Reading where
  | line (text : Text)
  | interrupt
  | endOfInput
  | failure (message : Text)
  deriving DecidableEq, Repr

inductive InputEnd where
  | finished
  | failed (message : Text)
  deriving DecidableEq, Repr

def InputEnd.reading : InputEnd → Reading
  | .finished => .endOfInput
  | .failed message => .failure message

namespace LineReader

inductive Decoding where
  /-- Bytes that are not text are replaced. -/
  | lossy
  /-- A line with such bytes cannot be read. The backspaces in a line take away
  what was typed before them. -/
  | typed
  deriving DecidableEq, Repr

end LineReader

structure LineReader where
  buffer : Bytes := []
  deliveries : List Bytes
  ending : InputEnd := .finished
  decoding : LineReader.Decoding := .lossy
  deriving DecidableEq, Repr

namespace LineReader

def lineFeed : UInt8 := 0x0A

def carriageReturn : UInt8 := 0x0D

/-- The bytes of a line without the carriage return at their end. -/
def dropCarriageReturn (bytes : Bytes) : Bytes :=
  if bytes.getLast? = some carriageReturn then bytes.dropLast else bytes

/-- The failure of a line that should have been text. The message of the failure
is followed by that of its cause, which is the same. -/
def notText : Reading :=
  let message := Text.ofString "stream did not contain valid UTF-8"
  .failure (message ++ Text.ofString ": " ++ message)

def Decoding.line (decoding : Decoding) (bytes : Bytes) : Reading :=
  match decoding with
  | .lossy => .line (Utf8.decodeLossy (dropCarriageReturn bytes))
  | .typed =>
    match Utf8.decode? (dropCarriageReturn bytes) with
    | some text => .line (Text.erase text)
    | none => notText

/-- The bytes up to the first line feed, the buffer behind it and the deliveries
that were not needed; `none` where no line feed comes. -/
def fetch (buffer : Bytes) : List Bytes → Option (Bytes × Bytes × List Bytes)
  | [] => (Cut.once lineFeed buffer).map fun (line, rest) => (line, rest, [])
  | delivery :: deliveries =>
    match Cut.once lineFeed buffer with
    | some (line, rest) => some (line, rest, delivery :: deliveries)
    | none =>
      (fetch delivery deliveries).map fun (line, rest, unused) =>
        (buffer ++ line, rest, unused)

def remaining (reader : LineReader) : Bytes :=
  reader.buffer ++ reader.deliveries.flatten

/-- The next line. The last line may lack its line feed; where the input fails
instead of ending, such a line is lost. -/
def next (reader : LineReader) : Reading × LineReader :=
  match fetch reader.buffer reader.deliveries with
  | some (line, buffer, deliveries) =>
    (reader.decoding.line line, { reader with buffer := buffer, deliveries := deliveries })
  | none =>
    let drained := { reader with buffer := [], deliveries := [] }
    match reader.ending with
    | .failed message => (.failure message, drained)
    | .finished =>
      if reader.remaining.isEmpty then (.endOfInput, drained)
      else (reader.decoding.line reader.remaining, drained)

theorem decoding_next (reader : LineReader) :
    reader.next.2.decoding = reader.decoding := by
  unfold next
  split
  · rfl
  · dsimp only
    split
    · rfl
    · split <;> rfl

/-- At most so many readings, up to the first that is no line. -/
def readingsWithin : Nat → LineReader → List Reading
  | 0, _ => []
  | limit + 1, reader =>
    match reader.next with
    | (.line text, rest) => .line text :: readingsWithin limit rest
    | (reading, _) => [reading]

/-- Everything that can be read, up to the end or the failure of the input. Each
line takes a byte at least, which bounds their number. -/
def readings (reader : LineReader) : List Reading :=
  readingsWithin (reader.remaining.length + 1) reader

end LineReader

end CommandShell
