import CommandShell.LineReader

namespace CommandShell.Terminal

/-! A terminal delivers what is typed line by line, and the return key ends a
line. It takes a limited number of bytes in one line and loses the others. -/

def lineLimit : Nat := 4095

def ofKey (byte : UInt8) : UInt8 :=
  if byte = LineReader.carriageReturn then LineReader.lineFeed else byte

/-- What arrives when these bytes are typed. A last line that has not been ended
is delivered as it is. -/
def deliveries (keys : Bytes) : List Bytes :=
  let lines := (Cut.all LineReader.lineFeed (keys.map ofKey)).map (·.take lineLimit)
  lines.dropLast.map (· ++ [LineReader.lineFeed]) ++
    lines.getLast?.toList.filter fun line => !line.isEmpty

end CommandShell.Terminal
