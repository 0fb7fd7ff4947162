import CommandShell.Text.Quoted

namespace CommandShell

/-! The log tells what the shell does. Warnings are always shown, and the details
of a topic where they have been asked for. -/

inductive Topic where
  | commands
  | expansion
  | parse
  | history
  deriving DecidableEq, Repr

inductive Detail where
  /-- A line was rejected because it ends in an operator. -/
  | trailingOperator (symbol : Text)
  | split (line : Text) (segments : Nat)
  | expanded (command result : Text)
  /-- The operator of a segment did not permit it to run. -/
  | skipped (command : Text) (status : Int)
  | builtin (name : Text) (operands : List Text)
  /-- A command leads to no program. -/
  | refused (command message : Text)
  | starting (path : Text) (arguments : List Text)
  | ended (path : Text) (status : Int)
  | loaded (entries : Nat) (path : Text)
  | saved (entries : Nat) (path : Text)
  deriving DecidableEq, Repr

namespace Detail

def topic : Detail → Topic
  | trailingOperator _ | split _ _ => .parse
  | expanded _ _ => .expansion
  | skipped _ _ | builtin _ _ | refused _ _ | starting _ _ | ended _ _ => .commands
  | loaded _ _ | saved _ _ => .history

def message : Detail → Text
  | trailingOperator symbol => Text.ofString "trailing operator " ++ symbol
  | split line segments =>
    Text.ofString "split " ++ Text.quoted line ++ Text.ofString " into " ++
      Text.ofNat segments ++ Text.ofString " segment(s)"
  | expanded command result =>
    Text.quoted command ++ Text.ofString " -> " ++ Text.quoted result
  | skipped command status =>
    Text.ofString "skipping " ++ Text.quoted command ++
      Text.ofString " after status " ++ Text.ofInt status
  | builtin name operands =>
    Text.ofString "builtin " ++ name ++ ' ' :: Text.quotedList operands
  | refused command message => command ++ [':', ' '] ++ message
  | starting path arguments =>
    Text.ofString "spawning " ++ path ++ ' ' :: Text.quotedList arguments
  | ended path status => path ++ Text.ofString " exited with " ++ Text.ofInt status
  | loaded entries path =>
    Text.ofString "loaded " ++ Text.ofNat entries ++ Text.ofString " entries from " ++ path
  | saved entries path =>
    Text.ofString "saved " ++ Text.ofNat entries ++ Text.ofString " entries to " ++ path

end Detail

inductive LogEntry where
  | detail (detail : Detail)
  | warning (message : Text)
  deriving DecidableEq, Repr

structure LogView where
  topics : List Topic := []
  coloured : Bool := true
  deriving DecidableEq, Repr

namespace LogView

/-- The characters that could control a terminal are shown by their code. -/
def character (character : Char) : Text :=
  let code := character.toNat
  if code = 0x1B || code = 0x07 || code = 0x08 || code = 0x0C || code = 0x7F then
    ['\\', 'x', Nat.digitChar (code / 16), Nat.digitChar (code % 16)]
  else if 0x80 ≤ code && code ≤ 0x9F then
    Text.ofString "\\u\x7b" ++ Text.hexadecimal character ++ ['\x7d']
  else [character]

/-- The level of an entry, in its colour if there are colours. -/
def level (view : LogView) (colour : String) (name : String) : Text :=
  if view.coloured then
    Text.ofString "\x1b[" ++ Text.ofString colour ++ Text.ofString name ++ Text.ofString "\x1b[0m"
  else Text.ofString name

def line (level message : Text) : Text :=
  level ++ ' ' :: message.flatMap character ++ ['\n']

/-- The line of an entry, unless it is a detail that is not shown. -/
def render (view : LogView) : LogEntry → Text
  | .detail detail =>
    if view.topics.contains detail.topic then line (view.level "34m" "DEBUG") detail.message
    else []
  | .warning message => line (view.level "33m" " WARN") message

end LogView

end CommandShell
