import CommandShell.Proofs.Splitting

namespace CommandShell

/-! The grammar of lines. Operators are taken from left to right, and the stretches
between them, without those that are blank, are the commands. Every text falls into
stretches in one way only, and that is the way in which it is read. -/

namespace Chain

/-! ## Texts without operators -/

/-- No operator stands anywhere in the text. -/
def HoldsNoOperator (text : Text) : Prop :=
  ∀ operator : Operator, ¬operator.symbol <:+: text

namespace HoldsNoOperator

theorem of_infix {text part : Text} (free : HoldsNoOperator text) (within : part <:+: text) :
    HoldsNoOperator part :=
  fun operator stands => free operator (stands.trans within)

theorem nil : HoldsNoOperator [] := by
  intro operator stands
  cases operator <;> simp [Operator.symbol] at stands

end HoldsNoOperator

/-- A stray sign joins commands where it is doubled. -/
theorem exists_symbol_of_isStray {sign : Char} (stray : Segment.isStray sign = true) :
    ∃ operator : Operator, operator.symbol = [sign, sign] := by
  simp only [Segment.isStray, Bool.or_eq_true, decide_eq_true_eq] at stray
  rcases stray with rfl | rfl
  · exact ⟨.and, rfl⟩
  · exact ⟨.or, rfl⟩

theorem lexemes_symbol_append (operator : Operator) (text : Text) :
    lexemes (operator.symbol ++ text) = .operator operator :: lexemes text := by
  cases operator <;> rfl

/-- What holds of the empty text, and passes from a text to the texts with an
operator or with a character that opens none before it, holds of all texts. -/
@[elab_as_elim]
theorem operator_induction {motive : Text → Prop} (nil : motive [])
    (operator : ∀ (operator : Operator) (rest : Text), motive rest →
      motive (operator.symbol ++ rest))
    (character : ∀ (character : Char) (rest : Text),
      (∀ operator : Operator, ¬operator.symbol <+: character :: rest) → motive rest →
      motive (character :: rest))
    (text : Text) : motive text := by
  fun_induction lexemes text with
  | case1 => exact nil
  | case2 rest induction => exact operator .and rest induction
  | case3 rest induction => exact operator .or rest induction
  | case4 rest induction => exact operator .sequence rest induction
  | case5 sign rest noAnd noOr noSequence induction =>
    refine character sign rest ?_ induction
    rintro (_ | _ | _) ⟨tail, opens⟩
    · exact noAnd tail (List.cons.inj opens).1.symm (List.cons.inj opens).2.symm
    · exact noOr tail (List.cons.inj opens).1.symm (List.cons.inj opens).2.symm
    · exact noSequence (List.cons.inj opens).1.symm

/-- Behind its own first sign an operator would be read one character earlier. -/
theorem symbol_isPrefix_of_head? {operator : Operator} {sign : Char}
    (begins : operator.symbol.head? = some sign) (rest : Text) :
    operator.symbol <+: sign :: (operator.symbol ++ rest) := by
  cases operator <;> cases begins <;> simp [Operator.symbol]

theorem apart_of_not_opens {character : Char} {rest : Text}
    (apart : ∀ operator : Operator, ¬operator.symbol <+: character :: rest) :
    character ≠ ';' ∧ (Segment.isStray character = true → rest.head? ≠ some character) := by
  constructor
  · rintro rfl
    exact apart .sequence (List.prefix_append [';'] rest)
  · intro stray head
    rcases exists_symbol_of_isStray stray with ⟨operator, doubled⟩
    rcases List.head?_eq_some_iff.mp head with ⟨tail, rfl⟩
    exact apart operator (doubled ▸ List.prefix_append [character, character] tail)

/-- A character that opens no operator is read as itself. -/
theorem lexemes_cons_of_not_opens {character : Char} {rest : Text}
    (apart : ∀ operator : Operator, ¬operator.symbol <+: character :: rest) :
    lexemes (character :: rest) = .character character :: lexemes rest :=
  lexemes_cons_character (apart_of_not_opens apart).1 (apart_of_not_opens apart).2

/-- A text without operators is read character by character, whatever follows it, unless
its last sign makes an operator with the one behind it. -/
theorem lexemes_append_of_holdsNoOperator {first second : Text} (free : HoldsNoOperator first)
    (apart : ∀ sign ∈ first.getLast?, second.head? ≠ some sign) :
    lexemes (first ++ second) = first.map .character ++ lexemes second := by
  induction first with
  | nil => rfl
  | cons character rest induction =>
    rcases apart_of_not_opens fun operator opens => free operator opens.isInfix with
      ⟨noSequence, single⟩
    rw [List.cons_append, lexemes_cons_character noSequence, List.map_cons, List.cons_append]
    · congr 1
      refine induction (free.of_infix (List.suffix_cons character rest).isInfix) ?_
      intro sign last
      exact apart sign (by cases rest <;> simp_all)
    · cases rest with
      | nil => exact fun _ => apart character rfl
      | cons other tail => exact single

theorem ofLexemes_map_character (text : Text) :
    Stretches.ofLexemes (text.map .character) = ⟨text, []⟩ := by
  induction text with
  | nil => rfl
  | cons character rest induction => simp [Stretches.ofLexemes, induction]

/-- A text without operators is one stretch. -/
theorem ofLexemes_lexemes_of_holdsNoOperator {text : Text} (free : HoldsNoOperator text) :
    Stretches.ofLexemes (lexemes text) = ⟨text, []⟩ := by
  have read : lexemes (text ++ []) = text.map .character ++ lexemes [] :=
    lexemes_append_of_holdsNoOperator free (by simp)
  rw [List.append_nil] at read
  rw [read, lexemes, List.append_nil, ofLexemes_map_character]

/-! ## Falling into stretches -/

/-- The stretches that a text falls into at its operators. Each operator is the first one
in what the operators before it have left: the stretch before it holds none, and does
not end in the sign with which it begins. -/
inductive FallsInto : Text → Stretches → Prop where
  | whole {text : Text} (free : HoldsNoOperator text) : FallsInto text ⟨text, []⟩
  | cut {first rest : Text} {operator : Operator} {stretches : Stretches}
      (free : HoldsNoOperator first) (leftmost : first.getLast? ≠ operator.symbol.head?)
      (onward : FallsInto rest stretches) :
      FallsInto (first ++ (operator.symbol ++ rest))
        ⟨first, (operator, stretches.first) :: stretches.others⟩

namespace FallsInto

/-- A character that opens no operator lengthens the first stretch. -/
theorem cons {character : Char} {rest : Text} {stretches : Stretches}
    (apart : ∀ operator : Operator, ¬operator.symbol <+: character :: rest)
    (falls : FallsInto rest stretches) :
    FallsInto (character :: rest) ⟨character :: stretches.first, stretches.others⟩ := by
  cases falls with
  | whole free =>
    refine .whole fun operator stands => ?_
    rcases List.infix_cons_iff.mp stands with opens | later
    · exact apart operator opens
    · exact free operator later
  | @cut first rest joint stretches free leftmost onward =>
    refine .cut (?_ : HoldsNoOperator (character :: first)) ?_ onward
    · intro operator stands
      rcases List.infix_cons_iff.mp stands with opens | later
      · exact apart operator (opens.trans (List.prefix_append (character :: first) _))
      · exact free operator later
    · cases first with
      | nil => exact fun begins => apart joint (symbol_isPrefix_of_head? begins.symm rest)
      | cons => exact leftmost

/-- Every text falls into the stretches that are read from it. -/
theorem ofLexemes_lexemes (text : Text) : FallsInto text (.ofLexemes (lexemes text)) := by
  induction text using operator_induction with
  | nil => exact .whole .nil
  | operator operator rest induction =>
    rw [lexemes_symbol_append]
    exact .cut .nil (by cases operator <;> simp [Operator.symbol]) induction
  | character character rest apart induction =>
    rw [lexemes_cons_of_not_opens apart]
    exact induction.cons apart

/-- It falls into no others. -/
theorem eq_ofLexemes {text : Text} {stretches : Stretches} (falls : FallsInto text stretches) :
    stretches = .ofLexemes (lexemes text) := by
  induction falls with
  | whole free => rw [ofLexemes_lexemes_of_holdsNoOperator free]
  | @cut first rest operator stretches free leftmost onward induction =>
    have apart : ∀ sign ∈ first.getLast?, (operator.symbol ++ rest).head? ≠ some sign := by
      intro sign last
      rw [Option.mem_def.mp last] at leftmost
      cases operator <;> exact fun head => leftmost head.symm
    rw [lexemes_append_of_holdsNoOperator free apart, lexemes_symbol_append,
      Stretches.ofLexemes_append_operator, ofLexemes_map_character, ← induction]
    rfl

end FallsInto

theorem fallsInto_iff (text : Text) (stretches : Stretches) :
    FallsInto text stretches ↔ stretches = .ofLexemes (lexemes text) := by
  constructor
  · exact FallsInto.eq_ofLexemes
  · rintro rfl
    exact FallsInto.ofLexemes_lexemes text

/-! ## The commands of a line -/

theorem map_text_leading (chain : Chain) :
    (leading chain).map Segment.text = chain.map Segment.text := by
  cases chain <;> rfl

theorem tail_leading (chain : Chain) : (leading chain).tail = chain.tail := by
  cases chain <;> rfl

theorem operator_of_mem_head?_leading {chain : Chain} :
    ∀ segment ∈ (leading chain).head?, segment.operator = none := by
  intro segment first
  cases chain with
  | nil => cases first
  | cons => cases first; rfl

/-- Whether the stretch holds a command. -/
def isFilled (stretch : Text) : Bool :=
  !Text.isAllBlank stretch

/-- A stretch as a command, with the operator right before it. -/
def command : Operator × Text → Segment
  | (operator, stretch) => ⟨some operator, Text.trim stretch⟩

namespace Stretches

/-- The stretches without the operators between them. -/
def texts (stretches : Stretches) : List Text :=
  stretches.first :: stretches.others.map Prod.snd

/-- Nothing but blanks follows the last operator, which is the given one. -/
def EndsIn (stretches : Stretches) (operator : Operator) : Prop :=
  ∃ before stretch, stretches.others = before ++ [(operator, stretch)] ∧
    Text.isAllBlank stretch = true

/-- The chain of commands that the stretches stand for. -/
structure Yields (stretches : Stretches) (chain : Chain) : Prop where
  /-- The stretches that are not blank are the commands, and nothing else is. -/
  texts : chain.map Segment.text = (stretches.texts.filter isFilled).map Text.trim
  /-- The first command has no operator. -/
  first : ∀ segment ∈ chain.head?, segment.operator = none
  /-- Every other one has the last operator before it. -/
  others : chain.tail <:+ (stretches.others.filter fun other => isFilled other.2).map command

theorem candidates_eq (stretches : Stretches) :
    stretches.candidates = ⟨none, Text.trim stretches.first⟩ :: stretches.others.map command :=
  rfl

theorem isInhabited_trim (operator : Option Operator) (stretch : Text) :
    isInhabited ⟨operator, Text.trim stretch⟩ = isFilled stretch := by
  have empty := Text.trim_eq_nil_iff stretch
  cases blank : Text.isAllBlank stretch <;> simp_all [isInhabited, isFilled]

theorem filter_candidates (stretches : Stretches) :
    stretches.candidates.filter isInhabited =
      (if isFilled stretches.first then [⟨none, Text.trim stretches.first⟩] else []) ++
        (stretches.others.filter fun other => isFilled other.2).map command := by
  have filled : isInhabited ∘ command = fun other => isFilled other.2 :=
    funext fun other => isInhabited_trim (some other.1) other.2
  rw [candidates_eq, List.filter_cons, isInhabited_trim, List.filter_map, filled]
  split <;> rfl

theorem map_text_command (others : List (Operator × Text)) :
    ((others.filter fun other => isFilled other.2).map command).map Segment.text =
      ((others.map Prod.snd).filter isFilled).map Text.trim := by
  rw [List.filter_map, List.map_map, List.map_map]
  rfl

theorem yields_segments (stretches : Stretches) : stretches.Yields stretches.segments := by
  rw [segments_eq_leading, filter_candidates]
  constructor
  · rw [map_text_leading, List.map_append, map_text_command, texts, List.filter_cons]
    split <;> rfl
  · exact operator_of_mem_head?_leading
  · rw [tail_leading]
    split
    · exact List.suffix_rfl
    · exact List.tail_suffix _

/-- There is no other chain that the stretches stand for. -/
theorem Yields.eq {stretches : Stretches} {one two : Chain} (yieldsOne : stretches.Yields one)
    (yieldsTwo : stretches.Yields two) : one = two := by
  have texts := yieldsOne.texts.trans yieldsTwo.texts.symm
  have lengths : one.length = two.length := by
    simpa using congrArg List.length texts
  have tails : one.tail = two.tail :=
    (List.suffix_of_suffix_length_le yieldsOne.others yieldsTwo.others
      (by simp [lengths])).eq_of_length (by simp [lengths])
  cases one with
  | nil => exact (List.length_eq_zero_iff.mp lengths.symm).symm
  | cons first rest =>
    cases two with
    | nil => exact absurd lengths (by simp)
    | cons other others =>
      have operators := (yieldsOne.first first rfl).trans (yieldsTwo.first other rfl).symm
      have same : first.text = other.text := (List.cons.inj texts).1
      cases first
      cases other
      cases operators
      cases same
      exact congrArg _ tails

theorem yields_iff (stretches : Stretches) (chain : Chain) :
    stretches.Yields chain ↔ stretches.segments = chain := by
  constructor
  · exact stretches.yields_segments.eq
  · rintro rfl
    exact stretches.yields_segments

theorem endsIn_iff (stretches : Stretches) (operator : Operator) :
    stretches.EndsIn operator ↔ stretches.dangling? = some operator := by
  unfold EndsIn dangling?
  constructor
  · rintro ⟨before, stretch, others, blank⟩
    simp [others, blank]
  · intro dangles
    cases last : stretches.others.getLast? with
    | none => simp [last] at dangles
    | some other =>
      rcases List.getLast?_eq_some_iff.mp last with ⟨before, others⟩
      rw [last] at dangles
      simp only [Option.ite_none_right_eq_some, Option.some.injEq] at dangles
      rcases dangles with ⟨blank, rfl⟩
      exact ⟨before, other.2, others, blank⟩

/-- What dangles can be told from the commands with the blank ones among them. -/
theorem dangling?_eq (stretches : Stretches) :
    stretches.dangling? = stretches.candidates.tail.getLast?.bind fun segment =>
      if isInhabited segment then none else segment.operator := by
  rw [dangling?, candidates_eq, List.tail_cons, List.getLast?_map]
  cases stretches.others.getLast? with
  | none => rfl
  | some other =>
    rcases other with ⟨operator, stretch⟩
    have filled : isInhabited (command (operator, stretch)) = isFilled stretch :=
      isInhabited_trim (some operator) stretch
    rw [Option.map_some, Option.bind_some, filled, isFilled]
    dsimp only [command]
    cases Text.isAllBlank stretch <;> rfl

theorem candidates_append_blanks {blanks : Text} (blank : Text.isAllBlank blanks = true)
    (line : Text) :
    (ofLexemes (lexemes (line ++ blanks))).candidates = (ofLexemes (lexemes line)).candidates := by
  induction blanks generalizing line with
  | nil => rw [List.append_nil]
  | cons character rest induction =>
    rcases Bool.and_eq_true_iff.mp blank with ⟨separates, onward⟩
    rw [List.append_cons, induction onward, lexemes_append_blank separates]
    exact candidates_append_blank _ separates

end Stretches

theorem ofLine_congr {one two : Text}
    (same : (stretches one).candidates = (stretches two).candidates) :
    ofLine one = ofLine two := by
  rw [ofLine, ofLine, Stretches.dangling?_eq, Stretches.dangling?_eq,
    Stretches.segments_eq_leading, Stretches.segments_eq_leading, same]

theorem ofLine_eq_error_iff (line : Text) (operator : Operator) :
    ofLine line = .error operator ↔ (stretches line).dangling? = some operator := by
  unfold ofLine
  cases (stretches line).dangling? <;> simp

/-! ## Blank lines -/

theorem HoldsNoOperator.of_isAllBlank {text : Text} (blank : Text.isAllBlank text = true) :
    HoldsNoOperator text := by
  intro operator stands
  have blanks : ∀ sign ∈ operator.symbol, Text.isBlank sign = true :=
    fun sign member => List.all_eq_true.mp blank sign (stands.mem member)
  cases operator <;> exact absurd (blanks _ List.mem_cons_self) (by decide)

/-- A line has no commands exactly where it is blank up to its comment. -/
theorem ofLine_eq_ok_nil_iff (line : Text) :
    ofLine line = .ok [] ↔ Text.isAllBlank (beforeComment line) = true := by
  constructor
  · intro split
    rcases (ofLine_eq_ok_iff line []).mp split with ⟨nothing, segments⟩
    have texts := ((stretches line).yields_iff []).mpr segments |>.texts
    have blank : ∀ stretch ∈ (stretches line).texts, Text.isAllBlank stretch = true := by
      intro stretch member
      have hidden := List.filter_eq_nil_iff.mp (List.map_eq_nil_iff.mp texts.symm) stretch member
      simpa [isFilled] using hidden
    have single : (stretches line).others = [] := by
      rcases (stretches line).others.eq_nil_or_concat with single | ⟨before, last, others⟩
      · exact single
      · -- The last stretch is blank like all others, so that its operator would dangle.
        rw [List.concat_eq_append] at others
        have dangles := ((stretches line).endsIn_iff last.1).mp
          ⟨before, last.2, others, blank last.2 (by simp [Stretches.texts, others])⟩
        rw [nothing] at dangles
        cases dangles
    rw [← text_stretches, Stretches.text, single, List.flatMap_nil, List.append_nil]
    exact blank _ List.mem_cons_self
  · intro blank
    have whole : stretches line = ⟨beforeComment line, []⟩ :=
      ofLexemes_lexemes_of_holdsNoOperator (.of_isAllBlank blank)
    have empty := (Text.trim_eq_nil_iff _).mpr blank
    simp [ofLine, whole, Stretches.dangling?, Stretches.segments, Stretches.candidates, empty]

/-! ## Comments are inert -/

theorem beforeCommentFrom_blanks_comment {blanks : Text} (blank : Text.isAllBlank blanks = true)
    (comment : Text) : beforeCommentFrom true (blanks ++ '#' :: comment) = blanks := by
  induction blanks with
  | nil => rfl
  | cons character rest induction =>
    rcases Bool.and_eq_true_iff.mp blank with ⟨separates, onward⟩
    simp [beforeCommentFrom, not_comment_of_isBlank separates, separates, induction onward]

/-- Behind a comment the line has ended. -/
theorem beforeCommentFrom_append {blankBefore : Bool} {line : Text}
    (commented : beforeCommentFrom blankBefore line ≠ line) (more : Text) :
    beforeCommentFrom blankBefore (line ++ more) = beforeCommentFrom blankBefore line := by
  induction line generalizing blankBefore with
  | nil => exact absurd rfl commented
  | cons character rest induction =>
    simp only [List.cons_append, beforeCommentFrom] at commented ⊢
    split
    · rfl
    next noMark =>
      rw [if_neg noMark] at commented
      rw [induction fun same => commented (congrArg _ same)]

theorem beforeComment_append_comment (line : Text) {blanks : Text} (inhabited : blanks ≠ [])
    (blank : Text.isAllBlank blanks = true) (comment : Text) :
    beforeComment (line ++ blanks ++ '#' :: comment) =
      beforeComment line ++ if IsFree line then blanks else [] := by
  rw [List.append_assoc]
  split
  next free =>
    cases blanks with
    | nil => exact absurd rfl inhabited
    | cons character rest =>
      rcases Bool.and_eq_true_iff.mp blank with ⟨separates, onward⟩
      rw [beforeComment, List.cons_append, beforeCommentFrom_append_blank separates free,
        beforeCommentFrom_blanks_comment onward, show beforeComment line = line from free]
  next commented =>
    rw [List.append_nil]
    exact beforeCommentFrom_append commented _

theorem ofLine_append_comment (line : Text) {blanks : Text} (inhabited : blanks ≠ [])
    (blank : Text.isAllBlank blanks = true) (comment : Text) :
    ofLine (line ++ blanks ++ '#' :: comment) = ofLine line := by
  apply ofLine_congr
  rw [stretches, beforeComment_append_comment line inhabited blank]
  split
  · exact Stretches.candidates_append_blanks blank (beforeComment line)
  · rw [List.append_nil, stretches]

/-- A line is read by the grammar. What stands before its comment falls into stretches
in one way. The line is rejected where its last operator has nothing but blanks behind
it, and by that operator; otherwise the stretches that are not blank are its commands.
A comment behind a blank changes nothing of this. -/
theorem ofLine_follows_grammar (line : Text) :
    (∀ others, FallsInto (beforeComment line) others ↔ others = stretches line) ∧
      (∀ operator, ofLine line = .error operator ↔ (stretches line).EndsIn operator) ∧
      (ofLine line = .ok [] ↔ Text.isAllBlank (beforeComment line) = true) ∧
      (∀ chain, ofLine line = .ok chain ↔
        (∀ operator, ¬(stretches line).EndsIn operator) ∧ (stretches line).Yields chain) ∧
      ∀ blanks comment, blanks ≠ [] → Text.isAllBlank blanks = true →
        ofLine (line ++ blanks ++ '#' :: comment) = ofLine line := by
  refine ⟨fallsInto_iff (beforeComment line), ?_, ofLine_eq_ok_nil_iff line, ?_, ?_⟩
  · intro operator
    rw [ofLine_eq_error_iff, Stretches.endsIn_iff]
  · intro chain
    rw [ofLine_eq_ok_iff, Stretches.yields_iff, Option.eq_none_iff_forall_ne_some]
    simp only [Stretches.endsIn_iff, ne_eq]
  · intro blanks comment inhabited blank
    exact ofLine_append_comment line inhabited blank comment

/-- A comment does not save an operator that has nothing behind it. -/
theorem ofLine_follows_grammar_of_comment :
    let line := Text.ofString "&& a &&& |;\u3000"
    let blanks := Text.ofString "\u2003\t"
    blanks ≠ [] ∧ Text.isAllBlank blanks = true ∧ ofLine line = .error .sequence ∧
      ofLine (line ++ blanks ++ '#' :: Text.ofString "| b") = .error .sequence :=
  ⟨by decide, by decide, by decide,
    ((ofLine_follows_grammar _).2.2.2.2 _ _ (by decide) (by decide)).trans (by decide)⟩

/-! ## Joined lines -/

/-- A line is blank up to its comment where it is blank or opens with the comment. -/
theorem isAllBlank_beforeComment_iff (line : Text) :
    Text.isAllBlank (beforeComment line) = true ↔
      Text.isAllBlank line = true ∨ (Text.trimLeft line).head? = some '#' := by
  induction line with
  | nil => simp [beforeComment, beforeCommentFrom, Text.isAllBlank]
  | cons character rest induction =>
    by_cases mark : character = '#'
    · subst mark
      have visible : Text.isBlank '#' = false := by decide
      simp [beforeComment, beforeCommentFrom, Text.isAllBlank, Text.trimLeft, visible]
    · cases blank : Text.isBlank character with
      | true =>
        simpa [beforeComment, beforeCommentFrom, mark, Text.isAllBlank, Text.trimLeft, blank]
          using induction
      | false =>
        simp [beforeComment, beforeCommentFrom, mark, Text.isAllBlank, Text.trimLeft, blank]

/-- An operator that joins a line to one without commands has nothing behind it. -/
theorem ofLine_joinLines_of_isAllBlank (operator : Operator) {one two : Text} (free : IsFree one)
    (blank : Text.isAllBlank (beforeComment two) = true) :
    ofLine (joinLines operator one two) = .error operator := by
  have single : Stretches.ofLexemes (lexemes (beforeComment two)) = ⟨beforeComment two, []⟩ :=
    ofLexemes_lexemes_of_holdsNoOperator (.of_isAllBlank blank)
  have wide : Text.isAllBlank (' ' :: beforeComment two) = true := by
    rw [Text.isAllBlank, List.all_cons, Text.isBlank_space, Bool.true_and]
    exact blank
  rw [ofLine_eq_error_iff, stretches_joinLines operator free,
    Stretches.ofLexemes_append_operator, ← Stretches.endsIn_iff, Stretches.ofLexemes, single]
  exact ⟨_, _, rfl, wide⟩

/-- An operator between two lines joins their chains. It needs a command behind it: a
line that is blank or a comment cannot be joined. -/
theorem ofLine_of_joined (operator : Operator) {one : Text} {first : Chain}
    (splitOne : ofLine one = .ok first) (someFirst : first ≠ []) (free : IsFree one)
    (two : Text) :
    (∀ second, ofLine two = .ok second → second ≠ [] → ¬OpensWithOperator two →
        ofLine (joinLines operator one two) = .ok (first ++ joinedBy operator second)) ∧
      (Text.isAllBlank two = true ∨ (Text.trimLeft two).head? = some '#' →
        ofLine (joinLines operator one two) = .error operator) := by
  constructor
  · intro second splitTwo someSecond opens
    exact ofLine_joinLines operator splitOne someFirst splitTwo someSecond free opens
  · intro nothing
    exact ofLine_joinLines_of_isAllBlank operator free
      ((isAllBlank_beforeComment_iff two).mpr nothing)

/-- A lone sign before the operator and one behind it, and a comment in place of the
second line. -/
theorem ofLine_of_joined_at_lone_signs :
    let one := Text.ofString "a#; x &"
    let first : Chain := [⟨none, Text.ofString "a#"⟩, ⟨some .sequence, Text.ofString "x &"⟩]
    let two := Text.ofString "\u2003&y|| z #c"
    let second : Chain := [⟨none, Text.ofString "&y"⟩, ⟨some .or, ['z']⟩]
    ofLine one = .ok first ∧ first ≠ [] ∧ IsFree one ∧
      ofLine two = .ok second ∧ second ≠ [] ∧ ¬OpensWithOperator two ∧
      ofLine (joinLines .and one two) = .ok (first ++ joinedBy .and second) ∧
      ofLine (joinLines .and one (Text.ofString "\t#&y")) = .error .and := by
  intro one first two second
  have splitOne : ofLine one = .ok first := by decide
  have someFirst : first ≠ [] := by decide
  have free : IsFree one := by decide
  have splitTwo : ofLine two = .ok second := by decide
  have someSecond : second ≠ [] := by decide
  have opens : ¬OpensWithOperator two := by decide
  exact ⟨splitOne, someFirst, free, splitTwo, someSecond, opens,
    (ofLine_of_joined .and splitOne someFirst free two).1 second splitTwo someSecond opens,
    (ofLine_of_joined .and splitOne someFirst free _).2 (.inr (by decide))⟩

end Chain

end CommandShell
