import CommandShell.Proofs.Words
import CommandShell.Session

namespace CommandShell

/-! Expansion changes a text as a whole, and yet every word of it by itself: the
alias stands for the first word, and no reference reaches beyond the word in which
it begins. -/

namespace Piece

/-! ## Reading a text in parts -/

/-- The pieces that end within a text, and how far the piece under way has come at its
end. -/
def read (progress : Progress) : Text → List Piece × Progress
  | [] => ([], progress)
  | character :: rest =>
    let (pieces, next) := step character progress
    let (onward, last) := read next rest
    (pieces ++ onward, last)

theorem ofTextFrom_append (progress : Progress) (first second : Text) :
    ofTextFrom progress (first ++ second) =
      (read progress first).1 ++ ofTextFrom (read progress first).2 second := by
  induction first generalizing progress with
  | nil => rfl
  | cons character rest induction => simp [ofTextFrom, read, induction]

theorem ofTextFrom_eq (progress : Progress) (text : Text) :
    ofTextFrom progress text = (read progress text).1 ++ (read progress text).2.finish := by
  have whole := ofTextFrom_append progress text []
  rwa [List.append_nil] at whole

/-- Whether a character can go on with a reference that has begun before it. -/
def goesOn (character : Char) : Bool :=
  character = '?' || character = '$' || isNameCharacter character

/-- Whether the character goes on with the piece under way. -/
def Progress.takes : Progress → Char → Bool
  | .plain, _ => false
  | .dollar, character => goesOn character
  | .name _, character => isNameCharacter character

/-- A piece with which nothing goes on is complete, and reading starts afresh. -/
theorem ofTextFrom_of_not_takes (progress : Progress) {text : Text}
    (ends : text.head?.any progress.takes = false) :
    ofTextFrom progress text = progress.finish ++ ofText text := by
  cases text with
  | nil => cases progress <;> rfl
  | cons character rest =>
    have apart : progress.takes character = false := ends
    cases progress with
    | plain => rfl
    | dollar =>
      simp only [Progress.takes, goesOn, Bool.or_eq_false_iff, decide_eq_false_iff_not] at apart
      simp [ofText, ofTextFrom, step, fresh, Progress.finish, apart.1.1, apart.1.2, apart.2]
    | name characters =>
      simp only [Progress.takes] at apart
      simp [ofText, ofTextFrom, step, Progress.finish, apart]

/-! ## References end at blanks -/

theorem code_of_isBlank {character : Char} (blank : Text.isBlank character = true) :
    character.toNat ≤ 0x20 ∨ 0x85 ≤ character.toNat := by
  have within := Text.Ranges.contains_iff Text.blankRanges_increaseFrom character.toNat
  rcases within.mp blank with ⟨range, member, lower, upper⟩
  simp only [Text.blankRanges, List.mem_cons, List.not_mem_nil, or_false] at member
  rcases member with rfl | rfl | rfl | rfl | rfl | rfl | rfl | rfl | rfl | rfl <;> omega

theorem code_of_goesOn {character : Char} (continues : goesOn character = true) :
    0x20 < character.toNat ∧ character.toNat < 0x85 := by
  simp only [goesOn, isNameCharacter, Bool.or_eq_true, decide_eq_true_eq] at continues
  delta Char.isAlphanum Char.isAlpha Char.isUpper Char.isLower Char.isDigit at continues
  simp only [Bool.or_eq_true, Bool.and_eq_true, decide_eq_true_eq, ge_iff_le,
    UInt32.le_iff_toNat_le] at continues
  change _ ∨ (((65 ≤ character.toNat ∧ character.toNat ≤ 90) ∨
    (97 ≤ character.toNat ∧ character.toNat ≤ 122)) ∨
    (48 ≤ character.toNat ∧ character.toNat ≤ 57)) ∨ _ at continues
  rcases continues with (rfl | rfl) | ((letter | letter) | digit) | rfl
  · decide
  · decide
  · omega
  · omega
  · omega
  · decide

theorem goesOn_of_isBlank {character : Char} (blank : Text.isBlank character = true) :
    goesOn character = false := by
  cases continues : goesOn character with
  | false => rfl
  | true =>
    have outside := code_of_isBlank blank
    have inside := code_of_goesOn continues
    omega

theorem ofTextFrom_append_of_ends {character : Char} (ends : goesOn character = false)
    (progress : Progress) (first second : Text) :
    ofTextFrom progress (first ++ character :: second) =
      ofTextFrom progress first ++ ofText (character :: second) := by
  have apart : (character :: second).head?.any (read progress first).2.takes = false := by
    cases (read progress first).2 with
    | plain => rfl
    | dollar => exact ends
    | name characters => exact (Bool.or_eq_false_iff.mp ends).2
  rw [ofTextFrom_append, ofTextFrom_of_not_takes _ apart, ← List.append_assoc, ← ofTextFrom_eq]

theorem ofText_cons_blank {blank : Char} (separates : Text.isBlank blank = true) (text : Text) :
    ofText (blank :: text) = .literal blank :: ofText text := by
  have ends := goesOn_of_isBlank separates
  simp only [goesOn, Bool.or_eq_false_iff, decide_eq_false_iff_not] at ends
  simp [ofText, ofTextFrom, step, fresh, ends.1.2]

theorem ofText_append_blank {blank : Char} (separates : Text.isBlank blank = true)
    (first second : Text) :
    ofText (first ++ blank :: second) = ofText first ++ .literal blank :: ofText second := by
  rw [← ofText_cons_blank separates]
  exact ofTextFrom_append_of_ends (goesOn_of_isBlank separates) .plain first second

def isReference : Piece → Bool
  | .literal _ => false
  | .status | .processId | .variable _ => true

def references (text : Text) : List Piece :=
  (ofText text).filter isReference

theorem references_append_blank {blank : Char} (separates : Text.isBlank blank = true)
    (first second : Text) :
    references (first ++ blank :: second) = references first ++ references second := by
  simp [references, ofText_append_blank separates, isReference]

/-- Every reference lies within one word. -/
theorem references_eq_flatMap_words (text : Text) :
    references text = (Text.words text).flatMap references := by
  have oneWord : ∀ word : Text, (∀ character ∈ word, Text.isBlank character = false) →
      references word = (Text.words word).flatMap references := by
    intro word visible
    by_cases empty : word = []
    · rw [empty]
      rfl
    · simp [Text.words_of_visible visible empty]
  induction text using Text.word_induction with
  | visible word visible => exact oneWord word visible
  | separated word blank rest visible separates induction =>
    rw [references_append_blank separates, Text.words_append_blank separates,
      List.flatMap_append, ← induction, ← oneWord word visible]

end Piece

/-! ## Substitution word by word -/

namespace Session

theorem substitute_append_blank (session : Session) {blank : Char}
    (separates : Text.isBlank blank = true) (first second : Text) :
    session.substitute (first ++ blank :: second) =
      session.substitute first ++ blank :: session.substitute second := by
  simp [substitute, Piece.ofText_append_blank separates, valueOf]

/-- The words of a text after substitution are those of its words, each of which
may have come to several words or to none. -/
theorem words_substitute (session : Session) (text : Text) :
    Text.words (session.substitute text) =
      (Text.words text).flatMap fun word => Text.words (session.substitute word) := by
  have oneWord : ∀ word : Text, (∀ character ∈ word, Text.isBlank character = false) →
      Text.words (session.substitute word) =
        (Text.words word).flatMap fun word => Text.words (session.substitute word) := by
    intro word visible
    by_cases empty : word = []
    · rw [empty]
      rfl
    · simp [Text.words_of_visible visible empty]
  induction text using Text.word_induction with
  | visible word visible => exact oneWord word visible
  | separated word blank rest visible separates induction =>
    rw [session.substitute_append_blank separates, Text.words_append_blank separates,
      Text.words_append_blank separates, List.flatMap_append, ← induction,
      ← oneWord word visible]

end Session

/-! ## The alias of the first word -/

namespace Aliases

/-- The words of a command with the first of them replaced, if it is an alias, by
the words of the text it stands for. -/
def replaceWords (aliases : Aliases) : List Text → List Text
  | [] => []
  | first :: rest =>
    match aliases.get? first with
    | some value => Text.words value ++ rest
    | none => first :: rest

theorem words_replace (aliases : Aliases) (command : Text) :
    Text.words (aliases.replace command) = aliases.replaceWords (Text.words command) := by
  by_cases empty : Text.firstWord command = []
  · simp [replace, empty, Text.words_of_firstWord_eq_nil empty, replaceWords]
  · rw [Text.words_of_firstWord_ne_nil empty]
    simp only [replace, List.isEmpty_iff, empty, if_false, replaceWords]
    cases aliases.get? (Text.firstWord command) with
    | none => exact Text.words_of_firstWord_ne_nil empty
    | some value =>
      exact Text.words_append_of_detached value (Text.afterFirstWord_detached command)

end Aliases

/-! ## Both together -/

namespace Session

/-- What a command comes to, given its words: the alias first, then the references
of each word by itself, which the words of a definition of aliases keep. -/
def expandWords (session : Session) (words : List Text) : List Text :=
  let replaced := session.aliases.replaceWords words
  if replaced.head? = some (Text.ofString "alias") then replaced
  else replaced.flatMap fun word => Text.words (session.substitute word)

theorem keepsReferences_eq_head? (command : Text) :
    keepsReferences command =
      decide ((Text.words command).head? = some (Text.ofString "alias")) := by
  rw [Text.head?_words, keepsReferences]
  split
  next empty => rw [empty]; rfl
  next => simp

theorem words_expand_eq (session : Session) (text : Text) :
    Text.words (session.expand text) = session.expandWords (Text.words text) := by
  simp only [expand, expandWords, keepsReferences_eq_head?, Aliases.words_replace,
    decide_eq_true_eq]
  split
  · exact session.aliases.words_replace text
  · rw [words_substitute, Aliases.words_replace]

/-- Expansion acts word by word. The words of an expanded text are found from the
words of the text alone, whichever blanks stand between these, and every reference
that is replaced lies within one of the words. -/
theorem expand_wordwise (session : Session) (text : Text) :
    Text.words (session.expand text) = session.expandWords (Text.words text) ∧
      Piece.references (session.aliases.replace text) =
        (session.aliases.replaceWords (Text.words text)).flatMap Piece.references ∧
      ∀ other, Text.words other = Text.words text →
        Text.words (session.expand other) = Text.words (session.expand text) := by
  refine ⟨session.words_expand_eq text, ?_, ?_⟩
  · rw [Piece.references_eq_flatMap_words, Aliases.words_replace]
  · intro other same
    rw [words_expand_eq, words_expand_eq, same]

/-- Two ways of writing one command, whose alias and references yield words of
their own, vanish or end at a blank. -/
theorem expand_wordwise_of_other_blanks :
    let session :=
      { Session.ofEnvironment (.ofList [(Text.ofString "X", Text.ofString "p q")]) [] 7 with
        aliases := .ofList [(Text.ofString "say", Text.ofString " echo $X")] }
    let spread := Text.ofString "\u3000say $\u2003$X$$ $Y\t"
    let plain := Text.ofString "say $ $X$$ $Y"
    Text.words spread = Text.words plain ∧
      Text.words (session.expand spread) = Text.words (session.expand plain) ∧
      Text.words (session.expand plain) =
        ["echo", "p", "q", "$", "p", "q7"].map Text.ofString :=
  ⟨by decide +kernel, (expand_wordwise _ _).2.2 _ (by decide +kernel), by decide +kernel⟩

end Session

end CommandShell
