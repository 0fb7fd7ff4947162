import CommandShell.Proofs.Diagnostics

namespace CommandShell

/-! The operands of `alias` follow one another: what is given to it in one go can as well be
given to it in parts, unless a part ends within quotes. -/

namespace Aliases.Operand

/-! ## Reading words in parts -/

/-- The operands that end within the words, and the definition that is open behind them. -/
def read (underway : Option Open) : List Text → List Operand × Option Open
  | [] => ([], underway)
  | word :: rest =>
    let (operands, next) := step underway word
    let (onward, last) := read next rest
    (operands ++ onward, last)

/-- The definition whose quotes the words leave open, if they leave any open. -/
def unfinished (words : List Text) : Option Open :=
  (read none words).2

theorem ofWordsFrom_append (underway : Option Open) (first second : List Text) :
    ofWordsFrom underway (first ++ second) =
      (read underway first).1 ++ ofWordsFrom (read underway first).2 second := by
  induction first generalizing underway with
  | nil => rfl
  | cons word rest induction => simp [ofWordsFrom, read, induction]

theorem ofWords_append (first second : List Text) :
    ofWords (first ++ second) =
      (read none first).1 ++ ofWordsFrom (unfinished first) second :=
  ofWordsFrom_append none first second

theorem ofWords_eq (words : List Text) :
    ofWords words = (read none words).1 ++ ((unfinished words).map Open.finish).toList := by
  have whole := ofWords_append words []
  rwa [List.append_nil] at whole

theorem ofWords_append_of_finished {first : List Text} (finished : unfinished first = none)
    (second : List Text) : ofWords (first ++ second) = ofWords first ++ ofWords second := by
  rw [ofWords_append, ofWords_eq first, finished]
  simp [ofWords]

/-! ## Definitions over several words -/

/-- The definition after it has taken in the words. -/
def Open.absorbAll (definition : Open) (words : List Text) : Open :=
  words.foldl Open.absorb definition

theorem intercalate_concat {words : List Text} (inhabited : words ≠ []) (word : Text) :
    [' '].intercalate (words ++ [word]) = [' '].intercalate words ++ ' ' :: word := by
  induction words with
  | nil => exact absurd rfl inhabited
  | cons first rest induction =>
    cases rest with
    | nil => simp [List.intercalate_cons_cons]
    | cons second rest =>
      rw [List.cons_append, List.cons_append, List.intercalate_cons_cons, ← List.cons_append,
        induction (List.cons_ne_nil second rest), List.intercalate_cons_cons]
      simp

/-- The words are those of the definition so far: a name, the sign, and a value that begins
with a quote. -/
structure Open.IsWrittenAs (definition : Open) (words : List Text) : Prop where
  unsigned : '=' ∉ definition.name
  quoted : isQuote definition.quote = true
  opens : definition.value.head? = some definition.quote
  whole : [' '].intercalate words = definition.name ++ '=' :: definition.value

section

variable {definition : Open} {words : List Text}

theorem Open.IsWrittenAs.absorb (written : definition.IsWrittenAs words) (word : Text) :
    (definition.absorb word).IsWrittenAs (words ++ [word]) where
  unsigned := written.unsigned
  quoted := written.quoted
  opens := by
    rw [Open.value_absorb, List.head?_append, written.opens]
    rfl
  whole := by
    have inhabited : words ≠ [] := by
      rintro rfl
      simpa using written.whole
    rw [intercalate_concat inhabited, written.whole, Open.value_absorb]
    simp [Open.absorb]

theorem Open.IsWrittenAs.absorbAll (written : definition.IsWrittenAs words) (more : List Text) :
    (definition.absorbAll more).IsWrittenAs (words ++ more) := by
  induction more generalizing definition words with
  | nil => simpa [Open.absorbAll] using written
  | cons word rest induction => simpa [Open.absorbAll] using induction (written.absorb word)

theorem Open.IsWrittenAs.ne_space (written : definition.IsWrittenAs words) :
    definition.quote ≠ ' ' := by
  intro space
  have quoted := written.quoted
  rw [space] at quoted
  exact absurd quoted (by decide)

/-- What a word opens is written as this word. -/
theorem isWrittenAs_of_ofWord {word : Text} (opened : ofWord word = .inr definition) :
    definition.IsWrittenAs [word] := by
  unfold ofWord at opened
  cases cut : Cut.once '=' word with
  | none =>
    rw [cut] at opened
    cases opened
  | some parts =>
    rcases parts with ⟨name, value⟩
    rcases (Cut.once_eq_some_iff '=' word name value).mp cut with ⟨whole, unsigned⟩
    rw [cut] at opened
    dsimp only at opened
    split at opened
    · cases opened
    next quote first =>
      split at opened
      next quoted =>
        cases opened
        exact ⟨unsigned, quoted, by simpa [Open.value] using first,
          by simpa [Open.value] using whole⟩
      · cases opened

end

/-! ## Where quotes close -/

def endsIn (quote : Char) (word : Text) : Bool :=
  word.getLast? = some quote

theorem isComplete_absorb {definition : Open} (solid : definition.quote ≠ ' ') (word : Text) :
    (definition.absorb word).isComplete = endsIn definition.quote word := by
  rw [endsIn, ← List.head?_reverse]
  cases reversed : word.reverse with
  | nil => simp [Open.isComplete, Open.absorb, reversed, Ne.symm solid]
  | cons last rest => simp [Open.isComplete, Open.absorb, reversed]

/-- How many of the words a definition takes in: those up to the first that ends in its
quote, or all. -/
def reach (quote : Char) (words : List Text) : Nat :=
  words.findIdx (endsIn quote) + 1

/-- An open definition takes in the words within its reach, and the operands go on behind
them. -/
theorem ofWordsFrom_open {definition : Open} (solid : definition.quote ≠ ' ')
    (words : List Text) :
    ofWordsFrom (some definition) words =
      (definition.absorbAll (words.take (reach definition.quote words))).finish ::
        ofWords (words.drop (reach definition.quote words)) := by
  induction words generalizing definition with
  | nil => rfl
  | cons word rest induction =>
    cases closes : endsIn definition.quote word with
    | true =>
      have complete := (isComplete_absorb solid word).trans closes
      simp [ofWordsFrom, step, settle, complete, reach, List.findIdx_cons, closes, Open.absorbAll,
        ofWords]
    | false =>
      have incomplete := (isComplete_absorb solid word).trans closes
      have onward : ofWordsFrom (some (definition.absorb word)) rest =
          ((definition.absorb word).absorbAll (rest.take (reach definition.quote rest))).finish ::
            ofWords (rest.drop (reach definition.quote rest)) := induction solid
      have further : reach definition.quote (word :: rest) = reach definition.quote rest + 1 := by
        simp [reach, List.findIdx_cons, closes]
      rw [further, List.take_succ_cons, List.drop_succ_cons]
      simpa [ofWordsFrom, step, settle, incomplete, Open.absorbAll] using onward

/-! ## Which words make up an operand -/

/-- The words, with a space between any two of them, are how the operand is written. Quotes
around a value are not part of it, and the closing one may be missing. -/
inductive Spells : List Text → Operand → Prop
  | display {name : Text} (unsigned : '=' ∉ name) : Spells [name] (.display name)
  | define {name value : Text} (unsigned : '=' ∉ name)
      (unquoted : value.head?.any isQuote = false) :
      Spells [name ++ '=' :: value] (.define name value)
  | quoted {words : List Text} {name value : Text} {quote : Char} (unsigned : '=' ∉ name)
      (isQuote : isQuote quote = true)
      (whole : [' '].intercalate words = name ++ '=' :: quote :: (value ++ [quote])) :
      Spells words (.define name value)
  | unclosed {words : List Text} {name value : Text} {quote : Char} (unsigned : '=' ∉ name)
      (isQuote : isQuote quote = true) (ends : endsIn quote value = false)
      (whole : [' '].intercalate words = name ++ '=' :: quote :: value) :
      Spells words (.define name value)

theorem spells_of_ofWord {word : Text} {operand : Operand} (complete : ofWord word = .inl operand) :
    Spells [word] operand := by
  unfold ofWord at complete
  cases cut : Cut.once '=' word with
  | none =>
    rw [cut] at complete
    cases complete
    exact .display ((Cut.once_eq_none_iff '=' word).mp cut)
  | some parts =>
    rcases parts with ⟨name, value⟩
    rcases (Cut.once_eq_some_iff '=' word name value).mp cut with ⟨rfl, unsigned⟩
    rw [cut] at complete
    dsimp only at complete
    split at complete
    next empty =>
      cases complete
      exact .define unsigned (by rw [empty]; rfl)
    next first opens =>
      split at complete
      · cases complete
      next unquoted =>
        cases complete
        exact .define unsigned (by rw [opens]; simpa using unquoted)

theorem Open.IsWrittenAs.spells_finish {definition : Open} {words : List Text}
    (written : definition.IsWrittenAs words) : Spells words definition.finish := by
  rcases written with ⟨unsigned, quoted, opens, whole⟩
  rcases List.head?_eq_some_iff.mp opens with ⟨inner, shape⟩
  rw [shape] at whole
  rw [Open.finish, shape, List.drop_one, List.tail_cons, Text.dropLastIf]
  split
  next closed =>
    rcases List.getLast?_eq_some_iff.mp closed with ⟨value, rfl⟩
    rw [List.dropLast_concat]
    exact .quoted unsigned quoted whole
  next unclosed => exact .unclosed unsigned quoted (by simpa [endsIn] using unclosed) whole

/-- The words belong to the definition that is open, if one is open, and are none otherwise. -/
def IsLeft (words : List Text) : Option Open → Prop
  | none => words = []
  | some definition => definition.IsWrittenAs words

/-- The words fall into groups, each of which makes up one operand, and those that are left. -/
def Accounts (words : List Text) (result : List Operand × Option Open) : Prop :=
  ∃ groups left, words = groups.flatten ++ left ∧ List.Forall₂ Spells groups result.1 ∧
    IsLeft left result.2

theorem accounts_settle {definition : Open} {words : List Text}
    (written : definition.IsWrittenAs words) : Accounts words (settle definition) := by
  unfold settle
  split
  · exact ⟨[words], [], by simp, .cons written.spells_finish .nil, rfl⟩
  · exact ⟨[], words, rfl, .nil, written⟩

theorem accounts_step {underway : Option Open} {before : List Text}
    (left : IsLeft before underway) (word : Text) :
    Accounts (before ++ [word]) (step underway word) := by
  cases underway with
  | some definition =>
    have written : definition.IsWrittenAs before := left
    exact accounts_settle (written.absorb word)
  | none =>
    have nothing : before = [] := left
    subst nothing
    unfold step
    dsimp only
    split
    next operand complete => exact ⟨[[word]], [], rfl, .cons (spells_of_ofWord complete) .nil, rfl⟩
    next definition opened => exact accounts_settle (isWrittenAs_of_ofWord opened)

theorem accounts_read {underway : Option Open} {before : List Text}
    (left : IsLeft before underway) (words : List Text) :
    Accounts (before ++ words) (read underway words) := by
  induction words generalizing underway before with
  | nil => exact ⟨[], before, by simp, .nil, left⟩
  | cons word rest induction =>
    rcases accounts_step left word with ⟨groups, between, here, spelled, goesOn⟩
    rcases induction goesOn with ⟨others, behind, onward, spelledToo, last⟩
    refine ⟨groups ++ others, behind, ?_, List.rel_append spelled spelledToo, last⟩
    rw [List.append_cons, here, List.append_assoc, onward, List.flatten_append, List.append_assoc]

/-- Every word belongs to one operand. -/
theorem exists_groups (words : List Text) :
    ∃ groups, groups.flatten = words ∧ List.Forall₂ Spells groups (ofWords words) := by
  have nothing : IsLeft [] none := rfl
  rcases accounts_read nothing words with ⟨groups, left, whole, spelled, last⟩
  rw [List.nil_append] at whole
  rw [ofWords_eq, unfinished]
  cases opened : (read none words).2 with
  | none =>
    rw [opened] at last
    have none : left = [] := last
    exact ⟨groups, by simp [whole, none], by simpa using spelled⟩
  | some definition =>
    rw [opened] at last
    have written : definition.IsWrittenAs left := last
    exact ⟨groups ++ [left], by simp [whole],
      List.rel_append spelled (.cons written.spells_finish .nil)⟩

theorem ne_space_of_unfinished {words : List Text} {definition : Open}
    (opened : unfinished words = some definition) : definition.quote ≠ ' ' := by
  have nothing : IsLeft [] none := rfl
  rcases accounts_read nothing words with ⟨groups, left, -, -, last⟩
  rw [show (read none words).2 = some definition from opened] at last
  have written : definition.IsWrittenAs left := last
  exact written.ne_space

/-- Words whose quotes are left open take words from those behind them. -/
theorem ofWords_append_of_unfinished {first : List Text} {definition : Open}
    (opened : unfinished first = some definition) (second : List Text) :
    ∃ complete, ofWords first = complete ++ [definition.finish] ∧
      ofWords (first ++ second) = complete ++
        (definition.absorbAll (second.take (reach definition.quote second))).finish ::
          ofWords (second.drop (reach definition.quote second)) := by
  refine ⟨(read none first).1, ?_, ?_⟩
  · rw [ofWords_eq, opened]
    rfl
  · rw [ofWords_append, opened, ofWordsFrom_open (ne_space_of_unfinished opened)]

end Aliases.Operand

namespace Shell

open Aliases.Operand

/-! ## Serving operands in parts -/

/-- Goes on with more operands where the ones before have been served. -/
def serveMore (more : List Aliases.Operand) : Attempt → Attempt
  | (.ok (.status status), shell) => serveOperands status more shell
  | ended => ended

theorem serveMore_afterWriting (more : List Aliases.Operand) (next : Shell → Attempt)
    (written : Option Fault × Shell) :
    serveMore more (afterWriting next written) =
      afterWriting (fun shell => serveMore more (next shell)) written := by
  rcases written with ⟨_ | fault, shell⟩ <;> rfl

theorem serveOperands_append (status : Int) (first second : List Aliases.Operand)
    (shell : Shell) :
    serveOperands status (first ++ second) shell =
      serveMore second (serveOperands status first shell) := by
  induction first generalizing status shell with
  | nil => rfl
  | cons operand rest induction =>
    have onward : ∀ status, serveOperands status (rest ++ second) =
        fun shell => serveMore second (serveOperands status rest shell) :=
      fun status => funext (induction status)
    cases operand with
    | define name value => exact induction status _
    | display name =>
      cases found : shell.session.aliases.get? name with
      | some value =>
        rw [List.cons_append, serveOperands_defined found, serveOperands_defined found,
          serveMore_afterWriting, onward]
      | none =>
        rw [List.cons_append, serveOperands_undefined found, serveOperands_undefined found,
          serveMore_afterWriting, onward]

/-- The status before the operands is not to be seen in what they do. -/
theorem shell_serveOperands (one two : Int) (operands : List Aliases.Operand) (shell : Shell) :
    (serveOperands one operands shell).2 = (serveOperands two operands shell).2 := by
  induction operands generalizing shell with
  | nil => rfl
  | cons operand rest induction =>
    cases operand with
    | define name value => exact induction _
    | display name =>
      cases found : shell.session.aliases.get? name with
      | some value =>
        rw [serveOperands_defined found, serveOperands_defined found]
        rcases shell.write .output (Aliases.describe name value ++ ['\n']) with ⟨_ | fault, after⟩
        · exact induction after
        · rfl
      | none => rw [serveOperands_undefined found, serveOperands_undefined found]

theorem call_aliases {words : List Text} (common : words ≠ [Builtin.manualOperand]) :
    Builtin.aliases.call words = .aliases words := by
  simp [Builtin.call, common]

theorem carryOut_aliases {words : List Text} (inhabited : words ≠ [])
    (common : words ≠ [Builtin.manualOperand]) {shell after : Shell} {outcome : Outcome}
    (served : serveOperands 0 (ofWords words) shell = (.ok outcome, after)) :
    carryOut .aliases words shell = (.ok outcome, after) := by
  apply carryOut_of_ok
  rw [call_aliases common, ← served]
  simp [body, defineAliases, inhabited]

/-- The diagnostics of `alias` for the names that it does not find. -/
def undefinedDiagnostics (names : List Text) : List Diagnostic :=
  names.map fun name => ⟨some Builtin.aliases.name, undefinedName name⟩

/-- The operands of `alias` are served one after the other. Every word belongs to exactly one
of them. Where the first words leave no quotes open, the operands of all words are those of
the first and then those of the second, and with working streams `alias` on all words does
what it does on the first and then on the second: both shells end alike, with the same
aliases and the same output, and it fails if one of the two finds a name undefined. Where the
first words leave quotes open, their last operand takes in the second words up to the first
that ends in the quote, or all of them. -/
theorem alias_serves_operands_in_turn (first second : List Text) :
    (∀ words, ∃ groups, groups.flatten = words ∧ List.Forall₂ Spells groups (ofWords words)) ∧
    (∀ definition, unfinished first = some definition →
      ∃ complete, ofWords first = complete ++ [definition.finish] ∧
        ofWords (first ++ second) = complete ++
          (definition.absorbAll (second.take (reach definition.quote second))).finish ::
            ofWords (second.drop (reach definition.quote second))) ∧
    (unfinished first = none →
      ofWords (first ++ second) = ofWords first ++ ofWords second ∧
      ∀ shell : Shell, shell.letterhead.Works →
        first ≠ [] → second ≠ [] →
        first ≠ [Builtin.manualOperand] → second ≠ [Builtin.manualOperand] →
        ∃ between after missingFirst missingSecond,
          missingFirst = undefinedNames shell.session.aliases (ofWords first) ∧
          missingSecond = undefinedNames between.session.aliases (ofWords second) ∧
          carryOut .aliases first shell =
            (.ok (.status (if missingFirst = [] then 0 else 1)), between) ∧
          carryOut .aliases second between =
            (.ok (.status (if missingSecond = [] then 0 else 1)), after) ∧
          carryOut .aliases (first ++ second) shell =
            (.ok (.status (if missingFirst = [] ∧ missingSecond = [] then 0 else 1)), after) ∧
          Diagnosed (undefinedDiagnostics missingFirst) [] shell between ∧
          Diagnosed (undefinedDiagnostics missingSecond) [] between after) := by
  refine ⟨exists_groups, fun definition opened => ofWords_append_of_unfinished opened second,
    fun finished => ⟨ofWords_append_of_finished finished second, ?_⟩⟩
  intro shell works inhabitedFirst inhabitedSecond commonFirst commonSecond
  rcases diagnosed_serveOperands works 0 (ofWords first) with ⟨between, servedFirst, diagnosed⟩
  have worksOn := diagnosed.works works
  rcases diagnosed_serveOperands worksOn 0 (ofWords second) with
    ⟨after, servedSecond, diagnosedSecond⟩
  refine ⟨between, after, _, _, rfl, rfl, carryOut_aliases inhabitedFirst commonFirst servedFirst,
    carryOut_aliases inhabitedSecond commonSecond servedSecond, ?_, diagnosed, diagnosedSecond⟩
  have inhabited : first ++ second ≠ [] := List.append_ne_nil_of_left_ne_nil inhabitedFirst second
  have common : first ++ second ≠ [Builtin.manualOperand] := by
    intro single
    have lengths := congrArg List.length single
    have someFirst := List.length_pos_iff.mpr inhabitedFirst
    have someSecond := List.length_pos_iff.mpr inhabitedSecond
    simp only [List.length_append, List.length_singleton] at lengths
    omega
  apply carryOut_aliases inhabited common
  rw [ofWords_append_of_finished finished, serveOperands_append, servedFirst, serveMore]
  generalize undefinedNames shell.session.aliases (ofWords first) = missingFirst
  -- The second operands, served with the status that the first have left.
  rcases diagnosed_serveOperands worksOn (if missingFirst = [] then 0 else 1) (ofWords second) with
    ⟨afterToo, servedToo, -⟩
  have same := shell_serveOperands (if missingFirst = [] then 0 else 1) 0 (ofWords second) between
  rw [servedToo, servedSecond] at same
  rw [servedToo, show afterToo = after from same]
  generalize undefinedNames between.session.aliases (ofWords second) = missingSecond
  cases missingFirst <;> cases missingSecond <;> rfl

/-- An undefined name between definitions over several words, and quotes that close only in
the words behind them. -/
theorem alias_serves_operands_in_turn_of_quotes :
    let shell : Shell :=
      ⟨{ mode := .standardInput }, .ofEnvironment .empty [] 7, { files := .empty }, {}⟩
    let first := ["ll=\"ls", "-l\"", "nope", "e='"].map Text.ofString
    let second := ["'", "ll", "f=\"", "x'", "y"].map Text.ofString
    let closed := first ++ [['\x27']]
    shell.letterhead.Works ∧ unfinished closed = none ∧
      unfinished first = some ⟨['e'], '\x27', ['\x27']⟩ ∧
      ofWords (first ++ second) =
        [.define (Text.ofString "ll") (Text.ofString "ls -l"), .display (Text.ofString "nope"),
          .define ['e'] [' '], .display (Text.ofString "ll"),
          .define ['f'] (Text.ofString " x' y")] ∧
      (∃ complete, ofWords first = complete ++ [.define ['e'] []] ∧
        ofWords (first ++ second) =
          complete ++ .define ['e'] [' '] :: ofWords (second.drop 1)) ∧
      ∃ between after, carryOut .aliases closed shell = (.ok (.status 1), between) ∧
        carryOut .aliases (second.drop 1) between = (.ok (.status 0), after) ∧
        carryOut .aliases (closed ++ second.drop 1) shell = (.ok (.status 1), after) := by
  intro shell first second closed
  have works : shell.letterhead.Works := ⟨⟨rfl, rfl⟩, ⟨rfl, rfl⟩⟩
  have finished : unfinished closed = none := by decide
  have opened : unfinished first = some ⟨['e'], '\x27', ['\x27']⟩ := by decide
  have inOne : ofWords (first ++ second) =
      [.define (Text.ofString "ll") (Text.ofString "ls -l"), .display (Text.ofString "nope"),
        .define ['e'] [' '], .display (Text.ofString "ll"),
        .define ['f'] (Text.ofString " x' y")] := by decide +kernel
  refine ⟨works, finished, opened, inOne,
    (alias_serves_operands_in_turn first second).2.1 _ opened, ?_⟩
  rcases ((alias_serves_operands_in_turn closed (second.drop 1)).2.2 finished).2 shell works
    (by decide) (by decide) (by decide +kernel) (by decide +kernel) with
    ⟨between, after, missing, more, missed, missedMore, one, two, both, -⟩
  have undefined : missing = [Text.ofString "nope"] := missed.trans (by decide +kernel)
  subst undefined
  have there : (carryOut .aliases closed shell).2 = between := congrArg Prod.snd one
  have defined : more = [] := by
    rw [missedMore, ← there]
    decide +kernel
  subst defined
  exact ⟨between, after, one, two, both⟩

end Shell

end CommandShell
