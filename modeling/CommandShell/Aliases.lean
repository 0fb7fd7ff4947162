import CommandShell.Cut
import CommandShell.Store
import CommandShell.Text.Blank

namespace CommandShell

/-! An alias gives a name to a text that stands in for it as the first word of a
command. -/

abbrev Aliases := Store Text Text

namespace Aliases

/-- The command with its first word replaced by the text it is an alias of. The
replacement is not looked up again. -/
def replace (aliases : Aliases) (command : Text) : Text :=
  let word := Text.firstWord command
  if word.isEmpty then command
  else
    match aliases.get? word with
    | some value => value ++ (Text.trimLeft command).dropWhile Text.isVisible
    | none => command

def describe (name value : Text) : Text :=
  name ++ ['=', '\x27'] ++ value ++ ['\x27']

/-! ## Operands

The operands of `alias` arrive as words. A value that opens with a quote was
meant to hold blanks, so it takes in the words after it up to one that ends in
the same quote. -/

inductive Operand where
  | define (name value : Text)
  | display (name : Text)
  deriving DecidableEq, Repr

namespace Operand

/-- A definition whose value opened with a quote that has not closed yet. -/
structure Open where
  name : Text
  quote : Char
  /-- The value so far with its quotes, in reverse. -/
  reversed : Text
  deriving DecidableEq, Repr

namespace Open

def value (definition : Open) : Text :=
  definition.reversed.reverse

/-- The closing quote must be another character than the opening one. -/
def isComplete (definition : Open) : Bool :=
  definition.reversed.head? = some definition.quote && !definition.reversed.tail.isEmpty

def absorb (definition : Open) (word : Text) : Open :=
  { definition with reversed := word.reverse ++ ' ' :: definition.reversed }

@[simp] theorem value_absorb (definition : Open) (word : Text) :
    (definition.absorb word).value = definition.value ++ ' ' :: word := by
  simp [absorb, value]

/-- The definition without its opening quote and, where there is one, without
its closing quote. -/
def finish (definition : Open) : Operand :=
  .define definition.name (Text.dropLastIf definition.quote (definition.value.drop 1))

end Open

def isQuote (character : Char) : Bool :=
  character = '\x22' || character = '\x27'

/-- What a word begins: a complete operand, or a definition still open. -/
def ofWord (word : Text) : Operand ⊕ Open :=
  match Cut.once '=' word with
  | none => .inl (.display word)
  | some (name, value) =>
    match value.head? with
    | none => .inl (.define name value)
    | some quote =>
      if isQuote quote then .inr ⟨name, quote, value.reverse⟩ else .inl (.define name value)

/-- Where a definition with a quote stands after its latest word. -/
def settle (definition : Open) : List Operand × Option Open :=
  if definition.isComplete then ([definition.finish], none) else ([], some definition)

/-- What one more word completes, and the definition it leaves open. -/
def step (underway : Option Open) (word : Text) : List Operand × Option Open :=
  match underway with
  | some definition => settle (definition.absorb word)
  | none =>
    match ofWord word with
    | .inl operand => ([operand], none)
    | .inr definition => settle definition

/-- The operands from here on, given the definition that is still open. One that
stays open to the end takes in all words. -/
def ofWordsFrom (underway : Option Open) : List Text → List Operand
  | [] => (underway.map Open.finish).toList
  | word :: rest =>
    let (operands, next) := step underway word
    operands ++ ofWordsFrom next rest

def ofWords (words : List Text) : List Operand :=
  ofWordsFrom none words

end Operand

end Aliases

end CommandShell
