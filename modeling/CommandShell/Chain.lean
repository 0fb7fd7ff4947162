import CommandShell.Text.Blank

namespace CommandShell

/-! A line is a flat chain of commands. The operators `&&`, `||` and `;` stand
between them, and a comment begins at a `#` that opens the line or follows a
blank. There is no nesting and no quoting. -/

inductive Operator where
  | and
  | or
  | sequence
  deriving DecidableEq, Repr

namespace Operator

def symbol : Operator → Text
  | .and => ['&', '&']
  | .or => ['|', '|']
  | .sequence => [';']

/-- Whether a command that follows the operator runs when the last command that
ran left this status. -/
def permits (status : Int) : Operator → Bool
  | .and => status = 0
  | .or => status ≠ 0
  | .sequence => true

end Operator

/-- One command of a chain with the operator that binds it to those before it.
The first command of a chain has none. -/
structure Segment where
  operator : Option Operator
  text : Text
  deriving DecidableEq, Repr

namespace Segment

def runsAfter (segment : Segment) (status : Int) : Bool :=
  match segment.operator with
  | none => true
  | some operator => operator.permits status

def isStray (character : Char) : Bool :=
  character = '&' || character = '|'

/-- The first `&` or `|` of the command. One that stands alone joins nothing,
and the command that holds it cannot run. -/
def stray? (segment : Segment) : Option Char :=
  segment.text.find? isStray

end Segment

abbrev Chain := List Segment

namespace Chain

/-! ## Comments -/

def beforeCommentFrom (blankBefore : Bool) : Text → Text
  | [] => []
  | character :: rest =>
    if character = '#' && blankBefore then []
    else character :: beforeCommentFrom (Text.isBlank character) rest

def beforeComment (line : Text) : Text :=
  beforeCommentFrom true line

/-! ## Operators -/

inductive Lexeme where
  | character (character : Char)
  | operator (operator : Operator)
  deriving DecidableEq, Repr

/-- Reads operators from left to right, two signs before one. -/
def lexemes : Text → List Lexeme
  | [] => []
  | '&' :: '&' :: rest => .operator .and :: lexemes rest
  | '|' :: '|' :: rest => .operator .or :: lexemes rest
  | ';' :: rest => .operator .sequence :: lexemes rest
  | character :: rest => .character character :: lexemes rest

/-- A line between its operators: what precedes the first of them, and each
operator with what follows it up to the next. -/
structure Stretches where
  first : Text
  others : List (Operator × Text)
  deriving DecidableEq, Repr

namespace Stretches

def ofLexemes : List Lexeme → Stretches
  | [] => ⟨[], []⟩
  | .character character :: rest =>
    let stretches := ofLexemes rest
    ⟨character :: stretches.first, stretches.others⟩
  | .operator operator :: rest =>
    let stretches := ofLexemes rest
    ⟨[], (operator, stretches.first) :: stretches.others⟩

/-- The operator that nothing but blanks follows, if there is one. -/
def dangling? (stretches : Stretches) : Option Operator :=
  match stretches.others.getLast? with
  | some (operator, stretch) => if Text.isAllBlank stretch then some operator else none
  | none => none

/-- Every stretch as a command, trimmed, with the operator right before it. -/
def candidates (stretches : Stretches) : List Segment :=
  ⟨none, Text.trim stretches.first⟩ ::
    stretches.others.map fun (operator, stretch) => ⟨some operator, Text.trim stretch⟩

/-- The stretches that hold a command. A blank one disappears together with the
operator before it, and the first command loses its operator. -/
def segments (stretches : Stretches) : Chain :=
  match stretches.candidates.filter fun segment => !segment.text.isEmpty with
  | [] => []
  | first :: others => { first with operator := none } :: others

end Stretches

def stretches (line : Text) : Stretches :=
  .ofLexemes (lexemes (beforeComment line))

/-- The chain that a line stands for, or the operator at its end that lacks a
command. -/
def ofLine (line : Text) : Except Operator Chain :=
  match (stretches line).dangling? with
  | some operator => .error operator
  | none => .ok (stretches line).segments

end Chain

end CommandShell
