import CommandShell.Proofs.AliasOperands

namespace CommandShell.Aliases

/-! Aliases are listed as they could be defined, with quotes around their values. What is
listed defines the same alias again unless its blanks are not single spaces, which words do
not keep, or a space comes behind a quote, where the value is taken to end. -/

def listingQuote : Char := '\x27'

/-- Every blank of the value is a space without a blank beside it and without a quote before
it. -/
def ReadsBack (value : Text) : Prop :=
  ∀ before blank after, value = before ++ blank :: after → Text.isBlank blank = true →
    blank = ' ' ∧
      (∀ last ∈ before.getLast?, Text.isBlank last = false ∧ last ≠ listingQuote) ∧
      ∀ first ∈ after.head?, Text.isBlank first = false

theorem readsBack_of_visible {value : Text}
    (visible : ∀ character ∈ value, Text.isBlank character = false) : ReadsBack value := by
  rintro before blank after rfl separates
  rw [visible blank (by simp)] at separates
  cases separates

/-- A blank of a text is the first one, or it stands in the rest behind that. -/
theorem cut_at_blank {word rest before after : Text} {blank other : Char}
    (visible : ∀ character ∈ word, Text.isBlank character = false)
    (separates : Text.isBlank other = true)
    (whole : word ++ blank :: rest = before ++ other :: after) :
    before = word ∧ other = blank ∧ after = rest ∨
      ∃ others, before = word ++ blank :: others ∧ rest = others ++ other :: after := by
  rcases List.append_eq_append_iff.mp whole with ⟨more, rfl, shape⟩ | ⟨more, rfl, shape⟩
  · cases more with
    | nil =>
      cases shape
      exact .inl ⟨List.append_nil word, rfl, rfl⟩
    | cons first others =>
      rcases List.cons.inj shape with ⟨rfl, behind⟩
      exact .inr ⟨others, rfl, behind⟩
  · cases more with
    | nil =>
      cases shape
      exact .inl ⟨(List.append_nil before).symm, rfl, rfl⟩
    | cons first others =>
      rcases List.cons.inj shape with ⟨rfl, -⟩
      rw [visible other (by simp)] at separates
      cases separates

/-- What holds of the blanks of a value holds of the first and of those behind it. -/
theorem readsBack_separated_iff {word rest : Text} {blank : Char}
    (visible : ∀ character ∈ word, Text.isBlank character = false)
    (separates : Text.isBlank blank = true) :
    ReadsBack (word ++ blank :: rest) ↔
      blank = ' ' ∧ word.getLast? ≠ some listingQuote ∧
        (∀ first ∈ rest.head?, Text.isBlank first = false) ∧ ReadsBack rest := by
  constructor
  · intro reads
    rcases reads word blank rest rfl separates with ⟨space, before, after⟩
    refine ⟨space, fun closes => (before _ closes).2 rfl, after, ?_⟩
    rintro others other later rfl separatesToo
    rcases reads (word ++ blank :: others) other later (by simp) separatesToo with
      ⟨spaceToo, beforeToo, afterToo⟩
    refine ⟨spaceToo, fun last isLast => beforeToo last ?_, afterToo⟩
    rw [List.getLast?_append, List.getLast?_cons, Option.mem_def.mp isLast]
    rfl
  · rintro ⟨space, noQuote, begins, reads⟩ before other after whole separatesToo
    rcases cut_at_blank visible separatesToo whole with ⟨rfl, rfl, rfl⟩ | ⟨others, rfl, rfl⟩
    · refine ⟨space, fun last isLast => ?_, begins⟩
      refine ⟨visible last (List.mem_of_mem_getLast? isLast), ?_⟩
      rintro rfl
      exact noQuote isLast
    · rcases reads others other after rfl separatesToo with ⟨spaceToo, beforeToo, afterToo⟩
      refine ⟨spaceToo, ?_, afterToo⟩
      cases others with
      | nil => exact absurd (begins other rfl) (by simp [separatesToo])
      | cons => simpa [List.getLast?_append] using beforeToo

theorem describe_eq (name value : Text) :
    describe name value = name ++ '=' :: listingQuote :: (value ++ [listingQuote]) := by
  simp [describe, listingQuote]

theorem concat_listingQuote_visible {word : Text}
    (visible : ∀ character ∈ word, Text.isBlank character = false) :
    ∀ character ∈ word ++ [listingQuote], Text.isBlank character = false := by
  intro character member
  rcases List.mem_append.mp member with member | member
  · exact visible character member
  · rw [List.mem_singleton.mp member]
    decide

namespace Operand

/-! ## Reading a listed alias -/

/-- The definition that a listed alias opens, after some of its value. -/
def opened (name inner : Text) : Open :=
  ⟨name, listingQuote, (listingQuote :: inner).reverse⟩

theorem absorb_opened (name inner word : Text) :
    (opened name inner).absorb word = opened name (inner ++ ' ' :: word) := by
  simp [opened, Open.absorb]

theorem step_opening {name : Text} (unsigned : '=' ∉ name) (inner : Text) :
    step none (name ++ '=' :: listingQuote :: inner) = settle (opened name inner) := by
  have cut := (Cut.once_eq_some_iff '=' _ name (listingQuote :: inner)).mpr ⟨rfl, unsigned⟩
  have quoted : isQuote listingQuote = true := by decide
  simp only [step, ofWord, cut, List.head?_cons, quoted, if_true]
  rfl

theorem isComplete_opened (name inner : Text) :
    (opened name inner).isComplete = endsIn listingQuote inner := by
  rcases inner.eq_nil_or_concat with rfl | ⟨before, last, rfl⟩ <;>
    simp [opened, Open.isComplete, endsIn]

theorem settle_opened_of_closed (name value : Text) :
    settle (opened name (value ++ [listingQuote])) = ([.define name value], none) := by
  have closed : (opened name (value ++ [listingQuote])).isComplete = true := by
    simp [isComplete_opened, endsIn]
  rw [settle, if_pos closed]
  simp [opened, Open.finish, Open.value, Text.dropLastIf]

theorem settle_opened_of_open {name inner : Text} (noQuote : inner.getLast? ≠ some listingQuote) :
    settle (opened name inner) = ([], some (opened name inner)) := by
  rw [settle, isComplete_opened, endsIn, if_neg (by simpa using noQuote)]

/-- The rest of a value, behind a space in it. -/
theorem read_rest_of_listing (name inner : Text) {rest : Text} (reads : ReadsBack rest)
    (begins : ∀ first ∈ rest.head?, Text.isBlank first = false) :
    read (some (opened name inner)) (Text.words (rest ++ [listingQuote])) =
      ([.define name (inner ++ ' ' :: rest)], none) := by
  induction rest using Text.word_induction generalizing inner with
  | visible word visible =>
    have closes : (opened name inner).absorb (word ++ [listingQuote]) =
        opened name ((inner ++ ' ' :: word) ++ [listingQuote]) := by
      simp [absorb_opened]
    rw [Text.words_of_visible (concat_listingQuote_visible visible) (by simp), read, step, closes,
      settle_opened_of_closed]
    rfl
  | separated word blank rest visible separates induction =>
    rcases (readsBack_separated_iff visible separates).mp reads with ⟨rfl, noQuote, first, onward⟩
    have inhabited : word ≠ [] := by
      rintro rfl
      exact absurd (begins ' ' rfl) (by decide)
    have goesOn : (inner ++ ' ' :: word).getLast? ≠ some listingQuote := by
      rwa [List.getLast?_append_of_ne_nil _ (List.cons_ne_nil _ _),
        List.getLast?_cons_of_ne_nil inhabited]
    rw [List.append_assoc, List.cons_append, Text.words_append_blank separates,
      Text.words_of_visible visible inhabited, List.singleton_append, read, step, absorb_opened,
      settle_opened_of_open goesOn]
    simp [induction _ onward first]

/-- A listed alias whose value reads back is its definition. -/
theorem read_describe {name value : Text} (isName : IsName name) (reads : ReadsBack value) :
    read none (Text.words (describe name value)) = ([.define name value], none) := by
  have visibleName : ∀ inner : Text, (∀ character ∈ inner, Text.isBlank character = false) →
      ∀ character ∈ name ++ '=' :: listingQuote :: inner, Text.isBlank character = false := by
    intro inner visible character member
    simp only [List.mem_append, List.mem_cons] at member
    rcases member with member | rfl | rfl | member
    · exact isName.visible character member
    · decide
    · decide
    · exact visible character member
  rw [describe_eq]
  cases value using Text.word_induction with
  | visible value visible =>
    rw [Text.words_of_visible (visibleName _ (concat_listingQuote_visible visible)) (by simp),
      read, step_opening isName.unsigned, settle_opened_of_closed]
    rfl
  | separated word blank rest visible separates _ =>
    rcases (readsBack_separated_iff visible separates).mp reads with ⟨rfl, noQuote, first, onward⟩
    have shape : name ++ '=' :: listingQuote :: (word ++ ' ' :: rest ++ [listingQuote]) =
        (name ++ '=' :: listingQuote :: word) ++ ' ' :: (rest ++ [listingQuote]) := by
      simp
    rw [shape, Text.words_append_blank separates,
      Text.words_of_visible (visibleName _ visible) (by simp), List.singleton_append, read,
      step_opening isName.unsigned, settle_opened_of_open noQuote]
    simp [read_rest_of_listing name word onward first]

/-! ## What does not read back -/

theorem words_concat_listingQuote_ne_nil (text : Text) :
    Text.words (text ++ [listingQuote]) ≠ [] := by
  induction text using Text.word_induction with
  | visible word visible =>
    rw [Text.words_of_visible (concat_listingQuote_visible visible) (by simp)]
    exact List.cons_ne_nil _ _
  | separated word blank rest visible separates induction =>
    rw [List.append_assoc, List.cons_append, Text.words_append_blank separates]
    exact List.append_ne_nil_of_right_ne_nil _ induction

theorem ofWords_ne_nil {words : List Text} (inhabited : words ≠ []) : ofWords words ≠ [] := by
  intro nothing
  rcases exists_groups words with ⟨groups, whole, spelled⟩
  rw [nothing, List.forall₂_nil_right_iff] at spelled
  rw [spelled] at whole
  exact inhabited whole.symm

/-- A value of single spaces reads back, or it does so up to a quote before one of them. -/
theorem readsBack_or_exists {value : Text} (isValue : IsValue value) :
    ReadsBack value ∨
      ∃ part after, value = part ++ listingQuote :: ' ' :: after ∧ ReadsBack part := by
  induction value using Text.word_induction with
  | visible value visible => exact .inl (readsBack_of_visible visible)
  | separated word blank rest visible separates induction =>
    have space := isValue.blanks blank (by simp) separates
    subst space
    have begins : ∀ first ∈ rest.head?, Text.isBlank first = false := by
      intro first isFirst
      rcases List.head?_eq_some_iff.mp isFirst with ⟨tail, rfl⟩
      have within : [' ', first] <:+: word ++ ' ' :: first :: tail := ⟨word, tail, by simp⟩
      have apart := isValue.apart.infix within
      cases blank : Text.isBlank first with
      | false => rfl
      | true =>
        have alike := isValue.blanks first (by simp) blank
        simp [alike] at apart
    by_cases closes : word.getLast? = some listingQuote
    · rcases List.getLast?_eq_some_iff.mp closes with ⟨part, rfl⟩
      exact .inr ⟨part, rest, by simp,
        readsBack_of_visible fun character member => visible character (by simp [member])⟩
    · rcases induction (isValue.of_infix ⟨word ++ [' '], [], by simp⟩) with
        onward | ⟨part, after, rfl, onward⟩
      · exact .inl ((readsBack_separated_iff visible separates).mpr ⟨rfl, closes, begins, onward⟩)
      · refine .inr ⟨word ++ ' ' :: part, after, by simp,
          (readsBack_separated_iff visible separates).mpr ⟨rfl, closes, ?_, onward⟩⟩
        intro first isFirst
        exact begins first (by rw [List.head?_append, Option.mem_def.mp isFirst]; rfl)

/-- What `alias` lists defines the same alias again exactly if the blanks of the value are
single spaces, none of them behind a quote. -/
theorem ofWords_describe_iff {name : Text} (isName : IsName name) (value : Text) :
    ofWords (Text.words (describe name value)) = [.define name value] ↔ ReadsBack value := by
  constructor
  · intro same
    have areWords : ∀ word ∈ Text.words (describe name value), Text.IsWord word :=
      fun _ => Text.isWord_of_mem_words
    have sound := isSound_of_mem_ofWords areWords (.define name value) (by simp [same])
    rcases readsBack_or_exists sound.2 with reads | ⟨part, after, rfl, reads⟩
    · exact reads
    · -- The part before the quote is a definition of its own, and more words follow it.
      have shape : describe name (part ++ listingQuote :: ' ' :: after) =
          describe name part ++ ' ' :: (after ++ [listingQuote]) := by
        simp [describe_eq]
      have first := read_describe isName reads
      have finished : unfinished (Text.words (describe name part)) = none := by
        rw [unfinished, first]
      have more := ofWords_ne_nil (words_concat_listingQuote_ne_nil after)
      rw [shape, Text.words_append_blank Text.isBlank_space, ofWords_append_of_finished finished,
        ofWords_eq, first, finished] at same
      exact absurd (List.append_eq_singleton_iff.mp same) (by simp [more])
  · intro reads
    rw [ofWords_eq, unfinished, read_describe isName reads]
    rfl

/-- Quotes within words and single spaces at both ends read back. Behind a quote that ends a
word the value is over, and what is left of it is an operand of its own. -/
theorem ofWords_describe_iff_of_quotes :
    let name := Text.ofString "ll"
    let kept := Text.ofString " it's 'ls = \"$X "
    let broken := Text.ofString "don' t"
    IsName name ∧ ReadsBack kept ∧ ¬ReadsBack broken ∧
      ofWords (Text.words (describe name kept)) = [.define name kept] ∧
      ofWords (Text.words (describe name broken)) =
        [.define name (Text.ofString "don"), .display (Text.ofString "t'")] := by
  intro name kept broken
  have isName : IsName name := ⟨by decide, List.forall_mem_iff_forall_getElem.mpr (by decide)⟩
  have same : ofWords (Text.words (describe name kept)) = [.define name kept] := by
    decide +kernel
  have other : ofWords (Text.words (describe name broken)) =
      [.define name (Text.ofString "don"), .display (Text.ofString "t'")] := by
    decide +kernel
  refine ⟨isName, (ofWords_describe_iff isName kept).mp same, fun reads => ?_, same, other⟩
  have whole := (ofWords_describe_iff isName broken).mpr reads
  rw [other] at whole
  exact absurd whole (by decide)

end Operand

end CommandShell.Aliases
