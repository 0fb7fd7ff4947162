import CommandShell.Cut
import CommandShell.Text.Utf8

namespace CommandShell

/-! A plain file can be executed where its first line names an interpreter, which
is then started with the file as its argument. -/

/-- What the first line of a file says after `#!`. -/
structure Header where
  interpreter : Text
  /-- What the interpreter is given before the file. -/
  argument : Option Text
  deriving DecidableEq, Repr

namespace Header

/-- How much of a file is looked at. A shorter file counts as if zeros followed. -/
def size : Nat := 256

def isBlank (byte : UInt8) : Bool :=
  byte = 0x20 || byte = 0x09

def isEnd (byte : UInt8) : Bool :=
  isBlank byte || byte = 0

/-- The line without the blanks around it, given what follows the mark. Where the
line does not end within the part of the file that is looked at, the name in it
must. -/
def line? (rest : Bytes) : Option Bytes :=
  let visible := rest ++ List.replicate (size - 2 - rest.length) 0 |>.take (size - 2)
  let trim (line : Bytes) : Bytes :=
    ((line.dropWhile isBlank).reverse.dropWhile isBlank).reverse
  match Cut.once 0x0A visible with
  | some (line, _) => some (trim line)
  | none =>
    if (visible.dropWhile isBlank).any isEnd then some (trim visible.dropLast) else none

/-- What a line that is not empty says. -/
def ofLine (line : Bytes) : Header where
  interpreter := Utf8.decodeLossy (line.takeWhile fun byte => !isEnd byte)
  argument :=
    match line.dropWhile fun byte => !isEnd byte with
    | 0 :: _ | [] => none
    | _ :: rest =>
      some (Utf8.decodeLossy ((rest.dropWhile isBlank).takeWhile fun byte => byte ≠ 0))

/-- The header of a file, unless it has none that names anything. -/
def ofContents? : Bytes → Option Header
  | 0x23 :: 0x21 :: rest => ((line? rest).filter fun line => !line.isEmpty).map ofLine
  | _ => none

end Header

end CommandShell
