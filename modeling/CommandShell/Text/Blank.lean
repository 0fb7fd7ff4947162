import CommandShell.Text.Basic
import CommandShell.Text.Ranges

namespace CommandShell.Text

/-! Blank characters are those with the Unicode property White_Space. They
separate words, surround commands and introduce comments; no other character
does any of these, in particular not U+001C to U+001F, U+180E, U+200B and
U+FEFF. -/

/-- The 25 blank characters, as ranges of code points. -/
def blankRanges : Ranges :=
  [(0x09, 0x0D), (0x20, 0x20), (0x85, 0x85), (0xA0, 0xA0), (0x1680, 0x1680),
    (0x2000, 0x200A), (0x2028, 0x2029), (0x202F, 0x202F), (0x205F, 0x205F),
    (0x3000, 0x3000)]

theorem blankRanges_increaseFrom : blankRanges.increaseFrom 0 = true := rfl

def isBlank (character : Char) : Bool :=
  blankRanges.contains character.toNat

/-- The blanks of ASCII are blank. -/
theorem isBlank_of_isWhitespace {character : Char} (blank : character.isWhitespace = true) :
    isBlank character = true := by
  simp only [Char.isWhitespace, Bool.or_eq_true, decide_eq_true_eq] at blank
  rcases blank with ((rfl | rfl) | rfl) | rfl <;> rfl

def isVisible (character : Char) : Bool :=
  !isBlank character

/-! ## Trimming -/

def trimLeft (text : Text) : Text :=
  text.dropWhile isBlank

def trimRight (text : Text) : Text :=
  (text.reverse.dropWhile isBlank).reverse

def trim (text : Text) : Text :=
  trimRight (trimLeft text)

/-- Whether the text is empty or holds blanks only. -/
def isAllBlank (text : Text) : Bool :=
  text.all isBlank

/-! ## Words -/

/-- Reads on in a word whose characters so far stand reversed in `word`. -/
def wordsFrom (word : Text) : Text → List Text
  | [] => if word.isEmpty then [] else [word.reverse]
  | character :: rest =>
    if isBlank character then
      if word.isEmpty then wordsFrom [] rest
      else word.reverse :: wordsFrom [] rest
    else wordsFrom (character :: word) rest

/-- The maximal runs of visible characters, from left to right. Quotes have no
special role. -/
def words (text : Text) : List Text :=
  wordsFrom [] text

/-- The first word, or the empty text where there is none. -/
def firstWord (text : Text) : Text :=
  (trimLeft text).takeWhile isVisible

end CommandShell.Text
