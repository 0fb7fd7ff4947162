import CommandShell.Proofs.LineGrammar

namespace CommandShell

/-! Which chains lines stand for, and a line for each of them. A chain can be spelled
where its commands hold nothing that ends a command, and then it is the chain of its
spelling. -/

/-! ## Texts without blanks around them -/

namespace Text

/-- The text neither begins nor ends with a blank. -/
structure IsTight (text : Text) : Prop where
  opening : ∀ character ∈ text.head?, isBlank character = false
  closing : ∀ character ∈ text.getLast?, isBlank character = false

theorem dropWhile_of_head? {text : Text}
    (opening : ∀ character ∈ text.head?, isBlank character = false) :
    text.dropWhile isBlank = text := by
  cases text with
  | nil => rfl
  | cons character rest => simp [opening character rfl]

theorem IsTight.trim_eq {text : Text} (tight : text.IsTight) : trim text = text := by
  have reversed : text.reverse.dropWhile isBlank = text.reverse :=
    dropWhile_of_head? (by simpa using tight.closing)
  rw [trim, trimLeft, dropWhile_of_head? tight.opening, trimRight, reversed, List.reverse_reverse]

theorem visible_of_mem_head?_dropWhile (text : Text) :
    ∀ character ∈ (text.dropWhile isBlank).head?, isBlank character = false := by
  intro character first
  have invisible := List.head?_dropWhile_not isBlank text
  rwa [Option.mem_def.mp first] at invisible

theorem trimRight_isPrefix (text : Text) : trimRight text <+: text := by
  rw [← List.reverse_suffix, trimRight, List.reverse_reverse]
  exact List.dropWhile_suffix isBlank

theorem isTight_trim (text : Text) : (trim text).IsTight := by
  constructor
  · intro character first
    rcases trimRight_isPrefix (trimLeft text) with ⟨blanks, whole⟩
    apply visible_of_mem_head?_dropWhile text
    rw [← trimLeft, ← whole, ← trim]
    rcases List.head?_eq_some_iff.mp first with ⟨rest, shape⟩
    rw [shape]
    rfl
  · intro character last
    rw [trim, trimRight, List.getLast?_reverse] at last
    exact visible_of_mem_head?_dropWhile _ character last

/-- Trimming takes nothing but blanks. -/
theorem exists_trim_eq (text : Text) : ∃ before after,
    isAllBlank before = true ∧ isAllBlank after = true ∧ text = before ++ trim text ++ after := by
  have left := List.takeWhile_append_dropWhile (p := isBlank) (l := text)
  have right := List.takeWhile_append_dropWhile (p := isBlank) (l := (trimLeft text).reverse)
  refine ⟨text.takeWhile isBlank, ((trimLeft text).reverse.takeWhile isBlank).reverse,
    List.all_takeWhile, ?_, ?_⟩
  · rw [isAllBlank, List.all_reverse]
    exact List.all_takeWhile
  · rw [trim, trimRight, List.append_assoc, ← List.reverse_append, right, List.reverse_reverse]
    exact left.symm

theorem trim_isInfix (text : Text) : trim text <:+: text := by
  rcases exists_trim_eq text with ⟨before, after, -, -, whole⟩
  exact ⟨before, after, whole.symm⟩

end Text

/-! ## Stray signs -/

namespace Segment

/-- The sign is the first `&` or `|` of the text, or the text has none. -/
def IsFirstStray (text : Text) : Option Char → Prop
  | some sign => isStray sign = true ∧ ∃ before after, text = before ++ sign :: after ∧
      ∀ character ∈ before, isStray character = false
  | none => ∀ character ∈ text, isStray character = false

theorem isFirstStray_stray? (segment : Segment) : IsFirstStray segment.text segment.stray? := by
  unfold stray?
  cases found : segment.text.find? isStray with
  | none => simpa [IsFirstStray] using found
  | some sign =>
    rcases List.find?_eq_some_iff_append.mp found with ⟨stray, before, after, whole, apart⟩
    exact ⟨stray, before, after, whole, by simpa using apart⟩

end Segment

namespace Chain

/-! ## Chains that lines stand for -/

/-- What the text of a command can be. -/
structure IsCommandText (text : Text) : Prop where
  inhabited : text ≠ []
  tight : text.IsTight
  /-- An operator would divide the command. -/
  joint : HoldsNoOperator text
  /-- A `#` behind a blank would begin a comment. -/
  mark : ∀ blank, Text.isBlank blank = true → ¬[blank, '#'] <:+: text

/-- What the chain of a line can be. -/
structure IsWellFormed (chain : Chain) : Prop where
  inhabited : chain ≠ []
  first : ∀ segment ∈ chain.head?, segment.operator = none
  others : ∀ segment ∈ chain.tail, segment.operator ≠ none
  texts : ∀ segment ∈ chain, IsCommandText segment.text
  strays : ∀ segment ∈ chain, Segment.IsFirstStray segment.text segment.stray?

/-! ### Comments -/

theorem beforeCommentFrom_head?_ne (line : Text) :
    (beforeCommentFrom true line).head? ≠ some '#' := by
  cases line with
  | nil => simp [beforeCommentFrom]
  | cons character rest =>
    by_cases mark : character = '#' <;> simp [beforeCommentFrom, mark]

/-- In what stands before the comment nothing begins a comment. -/
theorem mark_not_infix_beforeCommentFrom {blank : Char} (separates : Text.isBlank blank = true)
    (blankBefore : Bool) (line : Text) :
    ¬[blank, '#'] <:+: beforeCommentFrom blankBefore line := by
  induction line generalizing blankBefore with
  | nil => simp [beforeCommentFrom]
  | cons character rest induction =>
    rw [beforeCommentFrom]
    split
    · simp
    · intro stands
      rcases List.infix_cons_iff.mp stands with opens | later
      · rcases List.cons_prefix_cons.mp opens with ⟨rfl, tail, follows⟩
        apply beforeCommentFrom_head?_ne rest
        rw [← separates, ← follows]
        rfl
      · exact induction _ later

/-- A text in which nothing begins a comment has none. -/
theorem beforeCommentFrom_eq_self {blankBefore : Bool} {text : Text}
    (opening : blankBefore = true → text.head? ≠ some '#')
    (mark : ∀ blank, Text.isBlank blank = true → ¬[blank, '#'] <:+: text) :
    beforeCommentFrom blankBefore text = text := by
  induction text generalizing blankBefore with
  | nil => rfl
  | cons character rest induction =>
    have noMark : ¬(decide (character = '#') && blankBefore) = true := by
      rw [Bool.and_eq_true, decide_eq_true_eq]
      rintro ⟨rfl, follows⟩
      exact opening follows rfl
    rw [beforeCommentFrom, if_neg noMark, induction]
    · intro separates first
      rcases List.head?_eq_some_iff.mp first with ⟨tail, rfl⟩
      exact mark character separates (List.prefix_append [character, '#'] tail).isInfix
    · intro blank separates stands
      exact mark blank separates (stands.trans (List.suffix_cons character rest).isInfix)

/-! ### Every chain of a line is well-formed -/

/-- The stretches are parts of the text, and hold no operator. -/
theorem FallsInto.part_of_mem_texts {text : Text} {stretches : Stretches}
    (falls : FallsInto text stretches) :
    ∀ stretch ∈ stretches.texts, stretch <:+: text ∧ HoldsNoOperator stretch := by
  induction falls with
  | whole free => simpa [Stretches.texts] using free
  | @cut first rest operator stretches free leftmost onward induction =>
    intro stretch member
    rcases List.mem_cons.mp member with rfl | member
    · exact ⟨(List.prefix_append stretch _).isInfix, free⟩
    · rcases induction stretch (by simpa [Stretches.texts] using member) with ⟨part, holds⟩
      exact ⟨part.trans (List.suffix_append _ rest |>.trans
        (List.suffix_append first _)).isInfix, holds⟩

theorem isCommandText_of_mem {line : Text} {chain : Chain} (split : ofLine line = .ok chain)
    {segment : Segment} (member : segment ∈ chain) : IsCommandText segment.text := by
  rcases (ofLine_eq_ok_iff line chain).mp split with ⟨-, segments⟩
  have yields := ((stretches line).yields_iff chain).mpr segments
  have listed : segment.text ∈ chain.map Segment.text := List.mem_map_of_mem member
  rw [yields.texts, List.mem_map] at listed
  rcases listed with ⟨stretch, kept, trimmed⟩
  rcases List.mem_filter.mp kept with ⟨among, visible⟩
  rcases (FallsInto.ofLexemes_lexemes (beforeComment line)).part_of_mem_texts stretch among with
    ⟨part, free⟩
  rw [← trimmed]
  have within := Text.trim_isInfix stretch
  refine ⟨?_, Text.isTight_trim stretch, free.of_infix within, ?_⟩
  · rw [Ne, Text.trim_eq_nil_iff]
    simpa [isFilled] using visible
  · intro blank separates stands
    exact mark_not_infix_beforeCommentFrom separates true line
      ((stands.trans within).trans part)

theorem isWellFormed_of_ofLine {line : Text} {chain : Chain} (split : ofLine line = .ok chain)
    (inhabited : chain ≠ []) : IsWellFormed chain := by
  cases chain with
  | nil => exact absurd rfl inhabited
  | cons first rest =>
    rcases operators_of_ofLine split with ⟨unbound, others⟩
    refine ⟨inhabited, ?_, ?_, fun _ => isCommandText_of_mem split,
      fun segment _ => segment.isFirstStray_stray?⟩
    · rintro segment ⟨⟩
      exact unbound
    · intro segment member
      rcases others segment member with ⟨operator, bound⟩
      rw [bound]
      exact Option.some_ne_none operator

end Chain

/-! ## Spelling a chain -/

/-- The operator before the command where it is spelled. A first command, which has
none, is spelled behind a `;`, where it may begin with a `#`. -/
def Segment.joint (segment : Segment) : Operator :=
  segment.operator.getD .sequence

def Segment.spelling (segment : Segment) : Text :=
  segment.joint.symbol ++ segment.text

namespace Chain

/-- A line for the chain: its commands, each behind its operator, with a space before
each operator but the first. -/
def spelling (chain : Chain) : Text :=
  List.intercalate [' '] (chain.map Segment.spelling)

theorem spelling_cons_cons (one two : Segment) (rest : Chain) :
    spelling (one :: two :: rest) = one.spelling ++ ' ' :: spelling (two :: rest) := by
  simp [spelling, List.intercalate_cons_cons]

/-- No operator holds a blank, so that no comment begins across its end. -/
theorem mark_infix_of_symbol_append {operator : Operator} {text : Text} {blank : Char}
    (separates : Text.isBlank blank = true) (stands : [blank, '#'] <:+: operator.symbol ++ text) :
    [blank, '#'] <:+: text := by
  have apart := isBlank_apart separates
  cases operator <;>
    simp_all [Operator.symbol, List.infix_cons_iff, List.cons_prefix_cons, Segment.isStray]

theorem isFree_segment_spelling {segment : Segment} (plain : IsCommandText segment.text) :
    IsFree segment.spelling := by
  refine beforeCommentFrom_eq_self (fun _ => ?_) fun blank separates stands => ?_
  · rw [Segment.spelling]
    cases segment.joint <;> simp [Operator.symbol]
  · exact plain.mark blank separates (mark_infix_of_symbol_append separates stands)

theorem isFree_spelling {chain : Chain}
    (plain : ∀ segment ∈ chain, IsCommandText segment.text) : IsFree chain.spelling := by
  induction chain with
  | nil => rfl
  | cons one rest induction =>
    rcases List.forall_mem_cons.mp plain with ⟨here, onward⟩
    cases rest with
    | nil => simpa [spelling] using isFree_segment_spelling here
    | cons two rest =>
      rw [IsFree, spelling_cons_cons, beforeComment,
        beforeCommentFrom_append_blank Text.isBlank_space (isFree_segment_spelling here),
        show beforeCommentFrom true (spelling (two :: rest)) = _ from induction onward]

/-- The command with the operator before which it is spelled. -/
def spelled (segment : Segment) : Segment :=
  { segment with operator := some segment.joint }

theorem candidates_operator (operator : Operator) (after : List Lexeme) :
    (Stretches.ofLexemes (.operator operator :: after)).candidates =
      ⟨none, []⟩ :: joinedBy operator (Stretches.ofLexemes after).candidates :=
  rfl

theorem candidates_segment_spelling {segment : Segment} (plain : IsCommandText segment.text) :
    (Stretches.ofLexemes (lexemes segment.spelling)).candidates =
      [⟨none, []⟩, spelled segment] := by
  rw [Segment.spelling, lexemes_symbol_append, candidates_operator,
    ofLexemes_lexemes_of_holdsNoOperator plain.joint]
  simp [Stretches.candidates, joinedBy, spelled, plain.tight.trim_eq]

/-- Before the first operator of its spelling a chain has nothing. -/
theorem exists_spelling_eq (first : Segment) (rest : Chain) :
    ∃ tail, spelling (first :: rest) = first.joint.symbol ++ tail := by
  cases rest with
  | nil => exact ⟨first.text, by simp [spelling, Segment.spelling]⟩
  | cons second rest =>
    exact ⟨_, by rw [spelling_cons_cons, Segment.spelling, List.append_assoc]⟩

theorem candidates_spelling (first : Segment) (rest : Chain)
    (plain : ∀ segment ∈ first :: rest, IsCommandText segment.text) :
    (Stretches.ofLexemes (lexemes (spelling (first :: rest)))).candidates =
      ⟨none, []⟩ :: (first :: rest).map spelled := by
  induction rest generalizing first with
  | nil => simpa [spelling] using candidates_segment_spelling (plain first List.mem_cons_self)
  | cons second rest induction =>
    rcases List.forall_mem_cons.mp plain with ⟨here, onward⟩
    rcases exists_spelling_eq second rest with ⟨tail, opens⟩
    have following := induction second onward
    rw [opens, lexemes_symbol_append, candidates_operator] at following
    rw [spelling_cons_cons, lexemes_append_blank Text.isBlank_space, opens,
      lexemes_symbol_append, List.append_cons, Stretches.candidates_append_operator,
      Stretches.candidates_append_blank _ Text.isBlank_space, candidates_segment_spelling here,
      (List.cons.inj following).2]
    rfl

/-- A well-formed chain is what its spelling stands for. -/
theorem ofLine_spelling {chain : Chain} (wellFormed : IsWellFormed chain) :
    ofLine chain.spelling = .ok chain := by
  cases chain with
  | nil => exact absurd rfl wellFormed.inhabited
  | cons first rest =>
    have candidates : (stretches (spelling (first :: rest))).candidates =
        ⟨none, []⟩ :: (first :: rest).map spelled := by
      rw [stretches, show beforeComment _ = _ from isFree_spelling wellFormed.texts]
      exact candidates_spelling first rest wellFormed.texts
    have inhabited : ∀ segment ∈ (first :: rest).map spelled, isInhabited segment = true := by
      intro segment member
      rcases List.mem_map.mp member with ⟨plain, among, rfl⟩
      simpa [isInhabited, spelled] using (wellFormed.texts plain among).inhabited
    have others : rest.map spelled = rest := by
      refine (List.map_congr_left fun segment member => ?_).trans (List.map_id rest)
      rcases Option.ne_none_iff_exists.mp (wellFormed.others segment member) with ⟨operator, joint⟩
      cases segment
      cases joint
      rfl
    rw [ofLine_eq_ok_iff, Stretches.dangling?_eq, Stretches.segments_eq_leading, candidates,
      List.tail_cons]
    constructor
    · -- The last stretch is the last command.
      cases last : ((first :: rest).map spelled).getLast? with
      | none => rfl
      | some segment =>
        rw [Option.bind_some, if_pos (inhabited segment (List.mem_of_getLast? last))]
    · have blank : isInhabited ⟨none, []⟩ = false := rfl
      rw [List.filter_cons_of_neg (by rw [blank]; exact Bool.false_ne_true),
        List.filter_eq_self.mpr inhabited, List.map_cons, others]
      have unbound : first.operator = none := wellFormed.first first rfl
      cases first
      cases unbound
      rfl

/-- The chains of lines are exactly those that are well-formed. Every chain with commands
that a line stands for is well-formed, and every well-formed chain is the chain of a line:
of its spelling. -/
theorem ofLine_image :
    (∀ line chain, ofLine line = .ok chain → chain ≠ [] → IsWellFormed chain) ∧
      ∀ chain, IsWellFormed chain → ofLine chain.spelling = .ok chain :=
  ⟨fun _ _ => isWellFormed_of_ofLine, fun _ => ofLine_spelling⟩

/-- Commands that open with a `#` or with a sign of the operator before them, and hold
signs that join nothing. -/
theorem ofLine_image_of_lone_signs :
    let line := Text.ofString "\t;#a |& b && &c#||| d #e"
    let chain : Chain :=
      [⟨none, Text.ofString "#a |& b"⟩, ⟨some .and, Text.ofString "&c#"⟩,
        ⟨some .or, Text.ofString "| d"⟩]
    ofLine line = .ok chain ∧ chain ≠ [] ∧ IsWellFormed chain ∧
      chain.map Segment.stray? = [some '|', some '&', some '|'] ∧
      chain.spelling = Text.ofString ";#a |& b &&&c# ||| d" ∧
      ofLine chain.spelling = .ok chain := by
  intro line chain
  have split : ofLine line = .ok chain := by decide
  have wellFormed : IsWellFormed chain := ofLine_image.1 line chain split (by decide)
  exact ⟨split, by decide, wellFormed, by decide, by decide, ofLine_image.2 chain wellFormed⟩

end Chain

end CommandShell
