import CommandShell.Text.Basic

namespace CommandShell.Utf8

/-! UTF-8 in both directions. Writing uses the encoding of each character;
reading never fails: each maximal run of bytes that begins a character but does
not complete it, and each byte that cannot begin one, becomes one replacement
character. -/

def replacement : Char := '\uFFFD'

def encode (text : Text) : Bytes :=
  text.flatMap String.utf8EncodeChar

def size (text : Text) : Nat :=
  text.foldl (fun size character => size + character.utf8Size) 0

theorem foldl_utf8Size (start : Nat) (text : Text) :
    text.foldl (fun size character => size + character.utf8Size) start = start + size text := by
  induction text generalizing start with
  | nil => rfl
  | cons character rest induction =>
    have whole : size (character :: rest) = 0 + character.utf8Size + size rest :=
      induction (0 + character.utf8Size)
    have here := induction (start + character.utf8Size)
    rw [List.foldl_cons, here, whole]
    omega

theorem size_cons (character : Char) (text : Text) :
    size (character :: text) = character.utf8Size + size text := by
  rw [size, List.foldl_cons, foldl_utf8Size, Nat.zero_add]

/-! ## Decoding -/

/-- A character under way: the bits read so far, how many bytes are still
missing, and between which bounds the next of them must lie. -/
structure Unfinished where
  bits : Nat
  missing : Nat
  least : Nat
  greatest : Nat
  deriving DecidableEq, Repr

/-- What the first byte of a character announces. The bounds exclude overlong
forms, surrogates and everything above U+10FFFF. -/
def announced (byte : UInt8) : Option Unfinished :=
  let value := byte.toNat
  if 0xC2 ≤ value ∧ value ≤ 0xDF then some ⟨value - 0xC0, 1, 0x80, 0xBF⟩
  else if value = 0xE0 then some ⟨0, 2, 0xA0, 0xBF⟩
  else if value = 0xED then some ⟨0xD, 2, 0x80, 0x9F⟩
  else if 0xE1 ≤ value ∧ value ≤ 0xEF then some ⟨value - 0xE0, 2, 0x80, 0xBF⟩
  else if value = 0xF0 then some ⟨0, 3, 0x90, 0xBF⟩
  else if 0xF1 ≤ value ∧ value ≤ 0xF3 then some ⟨value - 0xF0, 3, 0x80, 0xBF⟩
  else if value = 0xF4 then some ⟨4, 3, 0x80, 0x8F⟩
  else none

/-- A byte read where a character begins: what it yields at once, and what it
leaves under way. -/
def stepFresh (byte : UInt8) : Text × Option Unfinished :=
  if byte.toNat < 0x80 then ([Char.ofNat byte.toNat], none)
  else
    match announced byte with
    | some unfinished => ([], some unfinished)
    | none => ([replacement], none)

/-- A byte read after what is under way. One that does not continue it ends it
with a replacement and is read afresh. -/
def step (byte : UInt8) : Option Unfinished → Text × Option Unfinished
  | none => stepFresh byte
  | some unfinished =>
    let value := byte.toNat
    if unfinished.least ≤ value ∧ value ≤ unfinished.greatest then
      let bits := 64 * unfinished.bits + value % 64
      if unfinished.missing = 1 then ([Char.ofNat bits], none)
      else ([], some ⟨bits, unfinished.missing - 1, 0x80, 0xBF⟩)
    else
      let (text, next) := stepFresh byte
      (replacement :: text, next)

def decodeFrom (underway : Option Unfinished) : Bytes → Text
  | [] => if underway.isSome then [replacement] else []
  | byte :: rest =>
    let (text, next) := step byte underway
    text ++ decodeFrom next rest

/-- The text of any bytes, with replacement characters where they are not UTF-8. -/
def decodeLossy (bytes : Bytes) : Text :=
  decodeFrom none bytes

/-- The text of bytes that are UTF-8 throughout: those that writing it gives back. -/
def decode? (bytes : Bytes) : Option Text :=
  let text := decodeLossy bytes
  if encode text = bytes then some text else none

end CommandShell.Utf8
