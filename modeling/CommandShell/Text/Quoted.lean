import CommandShell.Text.Unprintable
import CommandShell.Text.Basic

namespace CommandShell.Text

/-! Quoted text stands between double quotes and on one line. Log entries show
lines, words and commands in this form. -/

/-- The digits of a code point in base sixteen, in lower case. -/
def hexadecimal (character : Char) : Text :=
  Nat.toDigits 16 character.toNat

/-- How one character stands between the quotes. -/
def quoteCharacter (character : Char) : Text :=
  if character = '\x22' then ['\\', '\x22']
  else if character = '\\' then ['\\', '\\']
  else if character = '\n' then ['\\', 'n']
  else if character = '\r' then ['\\', 'r']
  else if character = '\t' then ['\\', 't']
  else if character = '\x00' then ['\\', '0']
  else if isPrintable character then [character]
  else ofString "\\u\x7b" ++ hexadecimal character ++ ofString "\x7d"

def quoted (text : Text) : Text :=
  '\x22' :: text.flatMap quoteCharacter ++ ['\x22']

/-- Quoted texts in brackets, with a comma and a space between two of them. -/
def quotedList (texts : List Text) : Text :=
  '[' :: List.intercalate [',', ' '] (texts.map quoted) ++ [']']

end CommandShell.Text
