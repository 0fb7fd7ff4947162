import CommandShell.Text.Basic
import CommandShell.Text.Cluster.Ranges

namespace CommandShell.Text.Cluster

/-! A cluster is what a reader takes for one character: a letter with its accents,
a syllable, a flag, or pictographs that joiners connect. A text falls into the
extended grapheme clusters of Unicode. Whether a character continues the cluster
before it depends on its own role, on the role of the character before it, and on
what that character completes. -/

/-! ## Roles -/

/-- The part of a syllable that a character writes. -/
inductive SyllablePart where
  | leading
  | vowel
  | trailing
  /-- A leading consonant and a vowel. -/
  | openSyllable
  /-- The same with a trailing consonant. -/
  | closedSyllable
  deriving DecidableEq, Repr

inductive Role where
  | carriageReturn
  | lineFeed
  | control
  | mark
  | linker
  | joiner
  | nonJoiner
  | spacing
  | prepend
  | syllable (part : SyllablePart)
  /-- One of the two letters that write a flag. -/
  | flagLetter
  | pictograph
  | consonant
  | other
  deriving DecidableEq, Repr

/-- The syllables that have a code point of their own stand in order, for each
leading consonant and vowel first the open one and then the 27 closed ones. -/
def syllablePart? (code : Nat) : Option SyllablePart :=
  if (0x1100 ≤ code && code ≤ 0x115F) || (0xA960 ≤ code && code ≤ 0xA97C) then some .leading
  else if vowelRanges.contains code then some .vowel
  else if (0x11A8 ≤ code && code ≤ 0x11FF) || (0xD7CB ≤ code && code ≤ 0xD7FB) then some .trailing
  else if 0xAC00 ≤ code && code ≤ 0xD7A3 then
    if (code - 0xAC00) % 28 = 0 then some .openSyllable else some .closedSyllable
  else none

def Role.ofCode (code : Nat) : Role :=
  if code = 0x0D then .carriageReturn
  else if code = 0x0A then .lineFeed
  else if 0x20 ≤ code && code < 0x7F then .other
  else if code = 0x200C then .nonJoiner
  else if code = 0x200D then .joiner
  else if controlRanges.contains code then .control
  else if linkerRanges.contains code then .linker
  else if markRanges.contains code then .mark
  else if spacingRanges.contains code then .spacing
  else if prependRanges.contains code then .prepend
  else if 0x1F1E6 ≤ code && code ≤ 0x1F1FF then .flagLetter
  else if pictographRanges.contains code then .pictograph
  else if consonantRanges.contains code then .consonant
  else
    match syllablePart? code with
    | some part => .syllable part
    | none => .other

/-! ## Where clusters end -/

/-- What the end of a text can still become together with the next character. -/
inductive Promise where
  | nothing
  /-- A consonant and marks, none of which is a linker. -/
  | consonant
  /-- A consonant and marks, one of which is a linker. -/
  | linkedConsonant
  /-- A pictograph and marks. -/
  | pictograph
  /-- A pictograph, marks and a joiner. -/
  | joinedPictograph
  /-- The first letter of a flag. -/
  | flagLetter
  deriving DecidableEq, Repr

/-- The promise after one more character. -/
def Promise.after (promise : Promise) : Role → Promise
  | .consonant => .consonant
  | .pictograph => .pictograph
  | .flagLetter => if promise = .flagLetter then .nothing else .flagLetter
  | .mark =>
    match promise with
    | .consonant => .consonant
    | .linkedConsonant => .linkedConsonant
    | .pictograph => .pictograph
    | _ => .nothing
  | .linker =>
    match promise with
    | .consonant | .linkedConsonant => .linkedConsonant
    | .pictograph => .pictograph
    | _ => .nothing
  | .joiner =>
    match promise with
    | .consonant => .consonant
    | .linkedConsonant => .linkedConsonant
    | .pictograph => .joinedPictograph
    | _ => .nothing
  | .nonJoiner => if promise = .pictograph then .pictograph else .nothing
  | _ => .nothing

/-- Whether a part of a syllable continues the part before it. -/
def SyllablePart.continues : SyllablePart → SyllablePart → Bool
  | .leading, part => part ≠ .trailing
  | .openSyllable, part | .vowel, part => part = .vowel || part = .trailing
  | .closedSyllable, part | .trailing, part => part = .trailing

/-- Whether a character continues the cluster of the character before it, after
which there was a promise. -/
def continues (last : Role) (promise : Promise) (next : Role) : Bool :=
  match last, next with
  | .carriageReturn, .lineFeed => true
  | .carriageReturn, _ | .lineFeed, _ | .control, _ => false
  | _, .carriageReturn | _, .lineFeed | _, .control => false
  | .syllable last, .syllable next => last.continues next
  | _, .mark | _, .linker | _, .joiner | _, .nonJoiner | _, .spacing => true
  | .prepend, _ => true
  | _, .consonant => promise = .linkedConsonant
  | _, .pictograph => promise = .joinedPictograph
  | _, .flagLetter => promise = .flagLetter
  | _, _ => false

/-! ## Cutting -/

/-- A cluster under way: its characters in reverse, and what decides about the
next one. -/
structure Underway where
  reversed : Text
  last : Role
  promise : Promise
  deriving DecidableEq, Repr

/-- The clusters of a text that follows what is under way. -/
def allFrom : Underway → Text → List Text
  | underway, [] => [underway.reversed.reverse]
  | underway, character :: rest =>
    let role := Role.ofCode character.toNat
    let promise := underway.promise.after role
    if continues underway.last underway.promise role then
      allFrom ⟨character :: underway.reversed, role, promise⟩ rest
    else underway.reversed.reverse :: allFrom ⟨[character], role, promise⟩ rest

/-- The clusters of a text, from left to right. -/
def all : Text → List Text
  | [] => []
  | character :: rest =>
    let role := Role.ofCode character.toNat
    allFrom ⟨[character], role, Promise.nothing.after role⟩ rest

theorem flatten_allFrom (underway : Underway) (text : Text) :
    (allFrom underway text).flatten = underway.reversed.reverse ++ text := by
  induction text generalizing underway with
  | nil => simp [allFrom]
  | cons character rest induction =>
    simp only [allFrom]
    split <;> simp [induction]

/-- No character is lost. -/
theorem flatten_all (text : Text) : (all text).flatten = text := by
  cases text with
  | nil => rfl
  | cons character rest => simp [all, flatten_allFrom]

end CommandShell.Text.Cluster
