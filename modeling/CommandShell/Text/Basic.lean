namespace CommandShell

/-! Text is a list of characters and raw data a list of bytes. Everything the
shell reads, stores and prints is built from these two, so that each rule about
text is a plain list recursion. -/

abbrev Text := List Char

abbrev Bytes := List UInt8

namespace Text

def ofString (string : String) : Text :=
  string.toList

def toString (text : Text) : String :=
  String.ofList text

/-! ## Numerals -/

/-- The decimal digits of a natural number, without leading zeros. -/
def ofNat (number : Nat) : Text :=
  Nat.toDigits 10 number

/-- A minus sign marks the negative numbers; nothing marks the others. -/
def ofInt : Int → Text
  | .ofNat number => ofNat number
  | .negSucc number => '-' :: ofNat (number + 1)

/-- ASCII digits only. -/
def isDigit (character : Char) : Bool :=
  '0' ≤ character && character ≤ '9'

/-- The value of a numeral after one more digit. -/
def appendDigit (value : Nat) (digit : Char) : Nat :=
  10 * value + (digit.toNat - '0'.toNat)

/-- The value of a run of decimal digits, the most significant one first. -/
def digitsValue (digits : Text) : Nat :=
  digits.foldl appendDigit 0

/-- Reads one more digit of a numeral that may not exceed a limit. -/
def appendDigitUpTo? (limit value : Nat) (digit : Char) : Option Nat :=
  if appendDigit value digit ≤ limit then some (appendDigit value digit) else none

/-- The value of a run of decimal digits that does not exceed a limit. What comes
after the digit that exceeds it is not read. -/
def digitsValueUpTo? (limit : Nat) (digits : Text) : Option Nat :=
  digits.foldlM (appendDigitUpTo? limit) 0

theorem le_foldl_appendDigit (value : Nat) (digits : Text) :
    value ≤ digits.foldl appendDigit value := by
  induction digits generalizing value with
  | nil => exact Nat.le_refl value
  | cons digit rest induction =>
    exact Nat.le_trans (by unfold appendDigit; omega) (induction (appendDigit value digit))

theorem foldlM_appendDigitUpTo? {limit value : Nat} (within : value ≤ limit) (digits : Text) :
    digits.foldlM (appendDigitUpTo? limit) value =
      if digits.foldl appendDigit value ≤ limit then some (digits.foldl appendDigit value)
      else none := by
  induction digits generalizing value with
  | nil => simp [within]
  | cons digit rest induction =>
    rw [List.foldlM_cons, List.foldl_cons, appendDigitUpTo?]
    by_cases next : appendDigit value digit ≤ limit
    · rw [if_pos next]
      exact induction next
    · have beyond := le_foldl_appendDigit (appendDigit value digit) rest
      rw [if_neg next, if_neg (by omega)]
      rfl

theorem digitsValueUpTo?_eq (limit : Nat) (digits : Text) :
    digitsValueUpTo? limit digits =
      if digitsValue digits ≤ limit then some (digitsValue digits) else none :=
  foldlM_appendDigitUpTo? (Nat.zero_le limit) digits

/-! ## Ends -/

/-- The text without its last character where that is `last`. -/
def dropLastIf (last : Char) (text : Text) : Text :=
  if text.getLast? = some last then text.dropLast else text

/-- The text before the last occurrence of `mark` in it, if there is one. -/
def beforeLast (mark : Text) : Text → Option Text
  | [] => if mark.isEmpty then some [] else none
  | character :: rest =>
    match beforeLast mark rest with
    | some before => some (character :: before)
    | none => if mark.isPrefixOf (character :: rest) then some [] else none

/-- The text with blanks before it up to the given width. -/
def padLeft (width : Nat) (text : Text) : Text :=
  List.replicate (width - text.length) ' ' ++ text

end Text

end CommandShell
