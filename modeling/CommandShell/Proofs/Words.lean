import CommandShell.Text.Blank

namespace CommandShell.Text

/-! The words of a text are what its blanks leave of it. All laws of words follow
from one of them: a blank between two texts separates their words. -/

/-! ## Blanks between words -/

theorem wordsFrom_append_blank {blank : Char} (separates : isBlank blank = true)
    (word first second : Text) :
    wordsFrom word (first ++ blank :: second) = wordsFrom word first ++ words second := by
  induction first generalizing word with
  | nil =>
    simp only [List.nil_append, wordsFrom, separates, if_true]
    split <;> rfl
  | cons character rest induction =>
    simp only [List.cons_append, wordsFrom]
    split
    · split
      · exact induction []
      · rw [induction [], List.cons_append]
    · exact induction (character :: word)

theorem words_append_blank {blank : Char} (separates : isBlank blank = true)
    (first second : Text) : words (first ++ blank :: second) = words first ++ words second :=
  wordsFrom_append_blank separates [] first second

@[simp] theorem words_nil : words [] = [] := rfl

theorem words_cons_blank {blank : Char} (separates : isBlank blank = true) (text : Text) :
    words (blank :: text) = words text :=
  words_append_blank separates [] text

/-- A text that is empty or begins with a blank adds its words to those of any
text before it. -/
theorem words_append_of_detached (first : Text) {second : Text}
    (detached : ∀ character ∈ second.head?, isBlank character = true) :
    words (first ++ second) = words first ++ words second := by
  cases second with
  | nil => simp
  | cons blank rest =>
    have separates : isBlank blank = true := detached blank rfl
    rw [words_append_blank separates, words_cons_blank separates]

/-! ## Texts without blanks -/

theorem wordsFrom_of_visible (word : Text) {text : Text}
    (visible : ∀ character ∈ text, isBlank character = false) :
    wordsFrom word text =
      if word.isEmpty && text.isEmpty then [] else [word.reverse ++ text] := by
  induction text generalizing word with
  | nil => cases word <;> simp [wordsFrom]
  | cons character rest induction =>
    have first : isBlank character = false := visible character List.mem_cons_self
    simp only [wordsFrom, first, Bool.false_eq_true, if_false]
    rw [induction (character :: word) fun other member =>
      visible other (List.mem_cons_of_mem _ member)]
    simp

theorem words_of_visible {word : Text} (visible : ∀ character ∈ word, isBlank character = false)
    (inhabited : word ≠ []) : words word = [word] := by
  rw [words, wordsFrom_of_visible [] visible]
  simp [inhabited]

/-- What holds of texts without blanks, and of every text whose first blank stands
before one of which it holds, holds of all texts. -/
@[elab_as_elim]
theorem word_induction {motive : Text → Prop}
    (visible : ∀ word : Text, (∀ character ∈ word, isBlank character = false) → motive word)
    (separated : ∀ (word : Text) (blank : Char) (rest : Text),
      (∀ character ∈ word, isBlank character = false) → isBlank blank = true →
      motive rest → motive (word ++ blank :: rest))
    (text : Text) : motive text := by
  have behind : ∀ word : Text, (∀ character ∈ word, isBlank character = false) →
      motive (word ++ text) := by
    -- `word` takes in the visible characters that the induction passes.
    induction text with
    | nil =>
      intro word solid
      simpa using visible word solid
    | cons character rest induction =>
      intro word solid
      cases blank : isBlank character with
      | true => exact separated word character rest solid blank (induction [] (by simp))
      | false =>
        have longer := induction (word ++ [character]) (by
          intro other member
          rcases List.mem_append.mp member with member | member
          · exact solid other member
          · rw [List.mem_singleton.mp member, blank])
        simpa using longer
  exact behind [] (by simp)

/-! ## The first word -/

theorem words_trimLeft (text : Text) : words (trimLeft text) = words text := by
  induction text with
  | nil => rfl
  | cons character rest induction =>
    cases blank : isBlank character with
    | true => simpa [trimLeft, List.dropWhile_cons, blank, words_cons_blank blank] using induction
    | false => simp [trimLeft, blank]

/-- What follows the first word. -/
def afterFirstWord (text : Text) : Text :=
  (trimLeft text).dropWhile isVisible

theorem afterFirstWord_detached (text : Text) :
    ∀ character ∈ (afterFirstWord text).head?, isBlank character = true := by
  intro character member
  have invisible := List.head?_dropWhile_not isVisible (trimLeft text)
  unfold afterFirstWord at member
  rw [Option.mem_def.mp member] at invisible
  simpa [isVisible] using invisible

theorem firstWord_visible (text : Text) :
    ∀ character ∈ firstWord text, isBlank character = false := by
  intro character member
  have visible := List.all_eq_true.mp List.all_takeWhile character member
  simpa [isVisible] using visible

theorem words_eq_firstWord_append (text : Text) :
    words text = words (firstWord text) ++ words (afterFirstWord text) := by
  rw [← words_append_of_detached (firstWord text) (afterFirstWord_detached text)]
  rw [firstWord, afterFirstWord, List.takeWhile_append_dropWhile, words_trimLeft]

theorem words_of_firstWord_ne_nil {text : Text} (inhabited : firstWord text ≠ []) :
    words text = firstWord text :: words (afterFirstWord text) := by
  rw [words_eq_firstWord_append, words_of_visible (firstWord_visible text) inhabited]
  rfl

theorem words_of_firstWord_eq_nil {text : Text} (empty : firstWord text = []) :
    words text = [] := by
  have nothing : trimLeft text = [] := by
    cases trimmed : trimLeft text with
    | nil => rfl
    | cons character rest =>
      have invisible := List.head?_dropWhile_not isBlank text
      rw [show (text.dropWhile isBlank).head? = some character by
        rw [← trimLeft, trimmed]; rfl] at invisible
      rw [firstWord, trimmed, List.takeWhile_cons] at empty
      simp [isVisible, invisible] at empty
  rw [← words_trimLeft, nothing, words_nil]

/-- The first word is the first of the words. -/
theorem head?_words (text : Text) :
    (words text).head? = if firstWord text = [] then none else some (firstWord text) := by
  split
  next empty => rw [words_of_firstWord_eq_nil empty]; rfl
  next inhabited => rw [words_of_firstWord_ne_nil inhabited]; rfl

end CommandShell.Text
