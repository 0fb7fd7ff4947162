import CommandShell.Chain
import CommandShell.Proofs.Words
import Mathlib.Data.List.TakeWhile

namespace CommandShell

/-! A line loses nothing when it is read as lexemes and falls into stretches, and a
blank is a place at which the reading can be taken apart. Two lines with an operator
between blanks are therefore read as the one line and the other. -/

/-! ## Trimming at blanks -/

namespace Text

theorem isBlank_space : isBlank ' ' = true := by decide

theorem trim_cons_blank {blank : Char} (separates : isBlank blank = true) (text : Text) :
    trim (blank :: text) = trim text := by
  simp [trim, trimLeft, separates]

theorem trimRight_append_blank {blank : Char} (separates : isBlank blank = true) (text : Text) :
    trimRight (text ++ [blank]) = trimRight text := by
  simp [trimRight, separates]

theorem trim_append_blank {blank : Char} (separates : isBlank blank = true) (text : Text) :
    trim (text ++ [blank]) = trim text := by
  simp only [trim, trimLeft, List.dropWhile_append]
  split
  next empty =>
    rw [List.isEmpty_iff.mp empty]
    simp [trimRight, separates]
  next => exact trimRight_append_blank separates _

/-- Trimming leaves nothing of a text exactly where it holds blanks only. -/
theorem trim_eq_nil_iff (text : Text) : trim text = [] ↔ isAllBlank text = true := by
  simp only [trim, trimRight, trimLeft, isAllBlank, List.reverse_eq_nil_iff,
    List.dropWhile_eq_nil_iff, List.mem_reverse, List.all_eq_true]
  constructor
  · intro rest character member
    rw [← List.takeWhile_append_dropWhile (p := isBlank) (l := text)] at member
    rcases List.mem_append.mp member with member | member
    · exact List.all_eq_true.mp List.all_takeWhile character member
    · exact rest character member
  · intro blank character member
    exact blank character ((List.dropWhile_sublist isBlank).subset member)

theorem trimLeft_append_of_isAllBlank {first : Text} (blank : isAllBlank first = true)
    (second : Text) : trimLeft (first ++ second) = trimLeft second := by
  induction first with
  | nil => rfl
  | cons character rest induction =>
    simp only [isAllBlank, List.all_cons, Bool.and_eq_true] at blank
    simpa [trimLeft, blank.1] using induction blank.2

end Text

namespace Chain

/-! ## Comments -/

theorem not_comment_of_isBlank {blank : Char} (separates : Text.isBlank blank = true) :
    blank ≠ '#' := by
  rintro rfl
  exact absurd separates (by decide)

/-- A text that holds no comment keeps what follows it and a blank, up to the
comment in that. -/
theorem beforeCommentFrom_append_blank {blankBefore : Bool} {blank : Char}
    (separates : Text.isBlank blank = true) {first : Text}
    (free : beforeCommentFrom blankBefore first = first) (second : Text) :
    beforeCommentFrom blankBefore (first ++ blank :: second) =
      first ++ blank :: beforeCommentFrom true second := by
  induction first generalizing blankBefore with
  | nil => simp [beforeCommentFrom, not_comment_of_isBlank separates, separates]
  | cons character rest induction =>
    simp only [List.cons_append, beforeCommentFrom] at free ⊢
    split at free
    next => exact absurd free (by simp)
    next noComment =>
      rw [if_neg noComment, induction (List.cons.inj free).2]

theorem beforeCommentFrom_prefix (blankBefore : Bool) (line : Text) :
    beforeCommentFrom blankBefore line <+: line := by
  induction line generalizing blankBefore with
  | nil => exact List.prefix_rfl
  | cons character rest induction =>
    rw [beforeCommentFrom]
    split
    · exact List.nil_prefix
    · exact (List.prefix_cons_inj character).mpr (induction _)

/-! ## Lexemes -/

/-- The characters that a lexeme was read from. -/
def Lexeme.text : Lexeme → Text
  | .character sign => [sign]
  | .operator joint => joint.symbol

theorem flatMap_text_lexemes (line : Text) : (lexemes line).flatMap Lexeme.text = line := by
  fun_induction lexemes line <;> simp_all [Lexeme.text, Operator.symbol]

theorem lexemes_cons_character {character : Char} {rest : Text} (apart : character ≠ ';')
    (single : Segment.isStray character = true → rest.head? ≠ some character) :
    lexemes (character :: rest) = .character character :: lexemes rest := by
  rw [lexemes]
  · rintro tail rfl rfl
    exact single rfl rfl
  · rintro tail rfl rfl
    exact single rfl rfl
  · exact apart

/-- No operator reaches across a character that is none of its signs. -/
theorem lexemes_append_of_apart {mark : Char} (apart : Segment.isStray mark = false)
    (first second : Text) :
    lexemes (first ++ mark :: second) = lexemes first ++ lexemes (mark :: second) := by
  fun_induction lexemes first with
  | case1 => rfl
  | case2 rest induction => simp [lexemes, induction]
  | case3 rest induction => simp [lexemes, induction]
  | case4 rest induction => simp [lexemes, induction]
  | case5 character rest noAnd noOr noSequence induction =>
    rw [List.cons_append, lexemes_cons_character noSequence, induction, List.cons_append]
    intro stray head
    cases rest with
    | nil =>
      cases head
      rw [apart] at stray
      exact Bool.false_ne_true stray
    | cons other tail =>
      cases head
      simp only [Segment.isStray, Bool.or_eq_true, decide_eq_true_eq] at stray
      rcases stray with rfl | rfl
      · exact noAnd tail rfl rfl
      · exact noOr tail rfl rfl

theorem isBlank_apart {blank : Char} (separates : Text.isBlank blank = true) :
    Segment.isStray blank = false ∧ blank ≠ ';' := by
  constructor
  · cases stray : Segment.isStray blank with
    | false => rfl
    | true =>
      simp only [Segment.isStray, Bool.or_eq_true, decide_eq_true_eq] at stray
      rcases stray with rfl | rfl <;> exact absurd separates (by decide)
  · rintro rfl
    exact absurd separates (by decide)

theorem lexemes_cons_blank {blank : Char} (separates : Text.isBlank blank = true) (text : Text) :
    lexemes (blank :: text) = .character blank :: lexemes text := by
  rcases isBlank_apart separates with ⟨apart, noSequence⟩
  refine lexemes_cons_character noSequence fun stray => ?_
  rw [apart] at stray
  exact absurd stray Bool.false_ne_true

theorem lexemes_append_blank {blank : Char} (separates : Text.isBlank blank = true)
    (first second : Text) :
    lexemes (first ++ blank :: second) =
      lexemes first ++ .character blank :: lexemes second := by
  rw [lexemes_append_of_apart (isBlank_apart separates).1, lexemes_cons_blank separates]

theorem lexemes_symbol_append_blank (operator : Operator) {blank : Char}
    (separates : Text.isBlank blank = true) (text : Text) :
    lexemes (operator.symbol ++ blank :: text) =
      .operator operator :: .character blank :: lexemes text := by
  rw [lexemes_append_blank separates]
  cases operator <;> rfl

/-! ## Stretches -/

/-- The chain with an operator before its first command. -/
def joinedBy (operator : Operator) : Chain → Chain
  | [] => []
  | first :: rest => { first with operator := some operator } :: rest

namespace Stretches

/-- The characters that the stretches were read from, operators included. -/
def text (stretches : Stretches) : Text :=
  stretches.first ++ stretches.others.flatMap fun (operator, stretch) => operator.symbol ++ stretch

theorem text_ofLexemes (lexemes : List Lexeme) :
    (ofLexemes lexemes).text = lexemes.flatMap Lexeme.text := by
  induction lexemes with
  | nil => rfl
  | cons lexeme rest induction =>
    rw [List.flatMap_cons, ← induction]
    cases lexeme <;> simp [ofLexemes, text, Lexeme.text]

theorem ofLexemes_append_operator (before after : List Lexeme) (operator : Operator) :
    ofLexemes (before ++ .operator operator :: after) =
      { first := (ofLexemes before).first
        others := (ofLexemes before).others ++
          (operator, (ofLexemes after).first) :: (ofLexemes after).others } := by
  induction before with
  | nil => rfl
  | cons lexeme rest induction =>
    cases lexeme <;> simp [ofLexemes, induction]

theorem candidates_append_operator (before after : List Lexeme) (operator : Operator) :
    (ofLexemes (before ++ .operator operator :: after)).candidates =
      (ofLexemes before).candidates ++ joinedBy operator (ofLexemes after).candidates := by
  simp [ofLexemes_append_operator, candidates, joinedBy]

/-- A blank after the last lexeme is trimmed from the last command, which may be the
first, with something before it, or another one. -/
theorem trim_append_blank (lexemes : List Lexeme) {blank : Char}
    (separates : Text.isBlank blank = true) (before : Text) :
    Text.trim (before ++ (ofLexemes (lexemes ++ [.character blank])).first) =
        Text.trim (before ++ (ofLexemes lexemes).first) ∧
      (ofLexemes (lexemes ++ [.character blank])).candidates.tail =
        (ofLexemes lexemes).candidates.tail := by
  induction lexemes generalizing before with
  | nil => simp [ofLexemes, candidates, Text.trim_append_blank separates]
  | cons lexeme rest induction =>
    cases lexeme with
    | character character =>
      rcases induction (before ++ [character]) with ⟨first, others⟩
      exact ⟨by simpa [ofLexemes] using first, others⟩
    | operator operator =>
      rcases induction [] with ⟨first, others⟩
      simp only [candidates, List.tail_cons, List.nil_append] at first others
      simp [ofLexemes, candidates, first, others]

theorem candidates_append_blank (lexemes : List Lexeme) {blank : Char}
    (separates : Text.isBlank blank = true) :
    (ofLexemes (lexemes ++ [.character blank])).candidates = (ofLexemes lexemes).candidates := by
  rcases trim_append_blank lexemes separates [] with ⟨first, others⟩
  simp only [candidates, List.tail_cons, List.nil_append] at first others ⊢
  rw [first, others]

/-- A blank before the first lexeme is trimmed from the first command. -/
theorem candidates_cons_blank (lexemes : List Lexeme) {blank : Char}
    (separates : Text.isBlank blank = true) :
    (ofLexemes (.character blank :: lexemes)).candidates = (ofLexemes lexemes).candidates := by
  simp [ofLexemes, candidates, Text.trim_cons_blank separates]

/-- Where commands follow an operator, nothing dangles unless it did among them. -/
theorem dangling?_joined (first : Text) (others : List (Operator × Text)) {operator : Operator}
    {after : Stretches} (nothing : after.dangling? = none)
    (visible : Text.isAllBlank after.first = false) :
    dangling? ⟨first, others ++ (operator, ' ' :: after.first) :: after.others⟩ = none := by
  unfold dangling? at nothing ⊢
  rw [List.getLast?_append]
  cases last : after.others with
  | nil => simpa [Text.isAllBlank, Text.isBlank_space] using visible
  | cons other rest =>
    rw [last, List.getLast?_cons] at nothing
    rw [List.getLast?_cons_cons, List.getLast?_cons, Option.some_or]
    exact nothing

end Stretches

theorem text_stretches (line : Text) : (stretches line).text = beforeComment line := by
  rw [stretches, Stretches.text_ofLexemes, flatMap_text_lexemes]

/-! ## Operators of a chain -/

/-- A line is accepted unless nothing but blanks follows its last operator. -/
theorem ofLine_eq_ok_iff (line : Text) (chain : Chain) :
    ofLine line = .ok chain ↔
      (stretches line).dangling? = none ∧ (stretches line).segments = chain := by
  unfold ofLine
  cases (stretches line).dangling? <;> simp

/-- The chain without the operator before its first command. -/
def leading : Chain → Chain
  | [] => []
  | first :: rest => { first with operator := none } :: rest

def isInhabited (segment : Segment) : Bool :=
  !segment.text.isEmpty

theorem Stretches.segments_eq_leading (stretches : Stretches) :
    stretches.segments = leading (stretches.candidates.filter isInhabited) := by
  unfold Stretches.segments leading
  rfl

theorem joinedBy_leading (operator : Operator) (chain : Chain) :
    joinedBy operator (leading chain) = joinedBy operator chain := by
  cases chain <;> rfl

theorem leading_append {first : Chain} (someFirst : leading first ≠ []) (second : Chain) :
    leading (first ++ second) = leading first ++ second := by
  cases first with
  | nil => exact absurd rfl someFirst
  | cons => rfl

theorem filter_joinedBy (operator : Operator) {first : Segment}
    (inhabited : isInhabited first = true) (rest : Chain) :
    (joinedBy operator (first :: rest)).filter isInhabited =
      joinedBy operator ((first :: rest).filter isInhabited) := by
  simp_all [joinedBy, List.filter_cons, isInhabited]

/-- In the chain of a line the first command has no operator and all others have one. -/
theorem operators_of_ofLine {line : Text} {first : Segment} {rest : Chain}
    (split : ofLine line = .ok (first :: rest)) :
    first.operator = none ∧ ∀ segment ∈ rest, ∃ operator, segment.operator = some operator := by
  rcases (ofLine_eq_ok_iff line _).mp split with ⟨-, segments⟩
  rw [Stretches.segments_eq_leading] at segments
  cases kept : (stretches line).candidates.filter isInhabited with
  | nil => simp [kept, leading] at segments
  | cons one others =>
    rw [kept] at segments
    rcases List.cons.inj segments with ⟨rfl, rfl⟩
    refine ⟨rfl, fun segment member => ?_⟩
    -- A command that is not the first kept one is not the first candidate either.
    have behind : segment ∈ (stretches line).candidates.tail := by
      have sublist : (one :: others).Sublist (stretches line).candidates :=
        kept ▸ List.filter_sublist
      exact sublist.tail.subset member
    simp only [Stretches.candidates, List.tail_cons, List.mem_map] at behind
    rcases behind with ⟨⟨operator, stretch⟩, -, rfl⟩
    exact ⟨operator, rfl⟩

/-! ## Joining lines -/

/-- One line, an operator between two blanks, and another line. -/
def joinLines (operator : Operator) (one two : Text) : Text :=
  one ++ ' ' :: (operator.symbol ++ ' ' :: two)

/-- The line has no comment. -/
def IsFree (line : Text) : Prop :=
  beforeComment line = line

/-- The first visible characters of the line are an operator. -/
def OpensWithOperator (line : Text) : Prop :=
  ∃ operator : Operator, operator.symbol <+: Text.trimLeft line

instance (line : Text) : Decidable (IsFree line) :=
  inferInstanceAs (Decidable (_ = _))

theorem opensWithOperator_iff (line : Text) :
    OpensWithOperator line ↔
      [Operator.and, .or, .sequence].any fun operator =>
        operator.symbol.isPrefixOf (Text.trimLeft line) := by
  simp only [OpensWithOperator, List.any_eq_true, List.isPrefixOf_iff_prefix]
  constructor
  · rintro ⟨operator, opens⟩
    exact ⟨operator, by cases operator <;> simp, opens⟩
  · rintro ⟨operator, -, opens⟩
    exact ⟨operator, opens⟩

instance (line : Text) : Decidable (OpensWithOperator line) :=
  decidable_of_iff _ (opensWithOperator_iff line).symm

theorem trimLeft_symbol_append (operator : Operator) (text : Text) :
    Text.trimLeft (operator.symbol ++ text) = operator.symbol ++ text := by
  cases operator <;> rfl

theorem beforeComment_joinLines (operator : Operator) {one : Text} (free : IsFree one)
    (two : Text) :
    beforeComment (joinLines operator one two) = joinLines operator one (beforeComment two) := by
  have symbolFree : beforeCommentFrom true operator.symbol = operator.symbol := by
    cases operator <;> rfl
  unfold joinLines beforeComment
  rw [beforeCommentFrom_append_blank Text.isBlank_space free,
    beforeCommentFrom_append_blank Text.isBlank_space symbolFree]

theorem lexemes_joinLines (operator : Operator) (one two : Text) :
    lexemes (joinLines operator one two) =
      (lexemes one ++ [.character ' ']) ++
        .operator operator :: .character ' ' :: lexemes two := by
  rw [joinLines, lexemes_append_blank Text.isBlank_space,
    lexemes_symbol_append_blank operator Text.isBlank_space]
  simp

theorem stretches_joinLines (operator : Operator) {one : Text} (free : IsFree one) (two : Text) :
    stretches (joinLines operator one two) =
      .ofLexemes ((lexemes one ++ [.character ' ']) ++
        .operator operator :: .character ' ' :: lexemes (beforeComment two)) := by
  rw [stretches, beforeComment_joinLines operator free, lexemes_joinLines]

/-- A line with commands that does not open with an operator opens with a command. -/
theorem first_not_isAllBlank {line : Text} {chain : Chain} (split : ofLine line = .ok chain)
    (inhabited : chain ≠ []) (opens : ¬OpensWithOperator line) :
    Text.isAllBlank (stretches line).first = false := by
  cases blank : Text.isAllBlank (stretches line).first with
  | false => rfl
  | true =>
    exfalso
    cases others : (stretches line).others with
    | nil =>
      -- Without an operator, a blank first stretch is all there is, and no command.
      have empty := (Text.trim_eq_nil_iff _).mpr blank
      apply inhabited
      simpa [ofLine, Stretches.dangling?, others, Stretches.segments, Stretches.candidates,
        empty] using split.symm
    | cons other rest =>
      rcases other with ⟨operator, stretch⟩
      rcases beforeCommentFrom_prefix true line with ⟨comment, whole⟩
      rw [← beforeComment, ← text_stretches, Stretches.text, others, List.flatMap_cons] at whole
      apply opens
      refine ⟨operator, ?_⟩
      rw [← whole, List.append_assoc, Text.trimLeft_append_of_isAllBlank blank, List.append_assoc,
        List.append_assoc, trimLeft_symbol_append]
      exact List.prefix_append _ _

/-- Joining two lines by an operator joins their chains by it, where the first line
has no comment in which the second could get lost and the second does not open
with an operator of its own. -/
theorem ofLine_joinLines (operator : Operator) {one two : Text} {first second : Chain}
    (splitOne : ofLine one = .ok first) (someFirst : first ≠ [])
    (splitTwo : ofLine two = .ok second) (someSecond : second ≠ [])
    (free : IsFree one) (opens : ¬OpensWithOperator two) :
    ofLine (joinLines operator one two) = .ok (first ++ joinedBy operator second) := by
  have visible := first_not_isAllBlank splitTwo someSecond opens
  rcases (ofLine_eq_ok_iff one first).mp splitOne with ⟨-, segmentsOne⟩
  rcases (ofLine_eq_ok_iff two second).mp splitTwo with ⟨danglingTwo, segmentsTwo⟩
  rw [ofLine_eq_ok_iff, stretches_joinLines operator free]
  constructor
  · rw [Stretches.ofLexemes_append_operator]
    exact Stretches.dangling?_joined _ _ danglingTwo visible
  · have candidates : (Stretches.ofLexemes ((lexemes one ++ [.character ' ']) ++
        .operator operator :: .character ' ' :: lexemes (beforeComment two))).candidates =
        (stretches one).candidates ++ joinedBy operator (stretches two).candidates := by
      rw [Stretches.candidates_append_operator,
        Stretches.candidates_append_blank _ Text.isBlank_space,
        Stretches.candidates_cons_blank _ Text.isBlank_space, stretches, stretches,
        show beforeComment one = one from free]
    have firstTwo : isInhabited ⟨none, Text.trim (stretches two).first⟩ = true := by
      rw [isInhabited, Bool.not_eq_true', List.isEmpty_eq_false_iff, Ne, Text.trim_eq_nil_iff,
        visible]
      exact Bool.false_ne_true
    rw [Stretches.segments_eq_leading] at segmentsOne segmentsTwo ⊢
    rw [candidates, List.filter_append, leading_append (segmentsOne ▸ someFirst), segmentsOne,
      Stretches.candidates.eq_1 (stretches two), filter_joinedBy operator firstTwo,
      ← joinedBy_leading, ← Stretches.candidates.eq_1, segmentsTwo]

end Chain

end CommandShell
