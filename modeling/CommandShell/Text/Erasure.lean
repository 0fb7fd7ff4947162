import CommandShell.Text.Cluster
import CommandShell.Text.Utf8

namespace CommandShell.Text

/-! A backspace in a typed line takes away the cluster before it. Where nothing is
left before it, it does nothing; it never stays in the line. -/

def backspace : Char := '\x08'

/-- A line of which a part has been typed: its characters in reverse, and the
sizes of its clusters, the last one first. A size is kept in one byte, so that of
a cluster of 256 bytes or more only the remainder is known. -/
structure Typed where
  reversed : Text := []
  sizes : List UInt8 := []
  deriving DecidableEq, Repr

namespace Typed

/-- Drops characters until so many bytes are gone. -/
def dropBytes : Nat → Text → Text
  | _, [] => []
  | 0, text => text
  | bytes + 1, character :: rest => dropBytes (bytes + 1 - character.utf8Size) rest

/-- Types a cluster, or takes one away. -/
def add (typed : Typed) (cluster : Text) : Typed :=
  if cluster = [backspace] then
    match typed.sizes with
    | [] => typed
    | size :: sizes => ⟨dropBytes size.toNat typed.reversed, sizes⟩
  else ⟨cluster.reverse ++ typed.reversed, UInt8.ofNat (Utf8.size cluster) :: typed.sizes⟩

end Typed

/-- The line that typing a text leaves. -/
def erase (text : Text) : Text :=
  ((Cluster.all text).foldl Typed.add {}).reversed.reverse

end CommandShell.Text
