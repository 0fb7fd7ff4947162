import CommandShell.LineReader

namespace CommandShell

/-! A feed is asked for more bytes whenever those that have arrived are used up. Where asking is
interrupted, nothing has arrived and the feed is asked again; a line that is being read goes on
as if nothing had happened. -/

/-- What asking a feed comes to, unless it has ended. A delivery without a byte would mean that
it has. -/
inductive Arrival where
  | delivery (first : UInt8) (others : Bytes)
  | interruption
  deriving DecidableEq, Repr

def Arrival.bytes : Arrival → Bytes
  | .delivery first others => first :: others
  | .interruption => []

structure Feed where
  /-- What has arrived and has not been read. -/
  held : Bytes := []
  arrivals : List Arrival
  ending : InputEnd := .finished
  deriving DecidableEq, Repr

namespace Feed

def remaining (feed : Feed) : Bytes :=
  feed.held ++ feed.arrivals.flatMap Arrival.bytes

/-- Reads on through the next line feed, or to the end where none comes; `before` is what the
line has so far. Where the feed fails, it is lost. -/
def readThrough (ending : InputEnd) (before held : Bytes) (arrivals : List Arrival) :
    Except Text Bytes × Feed :=
  match Cut.once LineReader.lineFeed held with
  | some (line, behind) =>
    (.ok (before ++ line ++ [LineReader.lineFeed]), ⟨behind, arrivals, ending⟩)
  | none =>
    match arrivals with
    | arrival :: arrivals => readThrough ending (before ++ held) arrival.bytes arrivals
    | [] =>
      match ending with
      | .finished => (.ok (before ++ held), ⟨[], [], ending⟩)
      | .failed message => (.error message, ⟨[], [], ending⟩)

/-- The bytes of a line without the line feed at their end. -/
def dropLineFeed (bytes : Bytes) : Bytes :=
  if bytes.getLast? = some LineReader.lineFeed then bytes.dropLast else bytes

/-- The next line. Only at the end is there nothing to read. -/
def next (feed : Feed) : Reading × Feed :=
  match readThrough feed.ending [] feed.held feed.arrivals with
  | (.error message, rest) => (.failure message, rest)
  | (.ok [], rest) => (.endOfInput, rest)
  | (.ok bytes, rest) => (LineReader.Decoding.lossy.line (dropLineFeed bytes), rest)

/-- At most so many readings, up to the first that is no line. -/
def readingsWithin : Nat → Feed → List Reading
  | 0, _ => []
  | limit + 1, feed =>
    match feed.next with
    | (.line text, rest) => .line text :: readingsWithin limit rest
    | (reading, _) => [reading]

/-- Everything that can be read, up to the end or the failure of the feed. Each line takes a
byte at least. -/
def readings (feed : Feed) : List Reading :=
  readingsWithin (feed.remaining.length + 1) feed

end Feed

end CommandShell
