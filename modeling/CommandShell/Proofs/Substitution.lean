import CommandShell.Proofs.Expansion
import Mathlib.Data.List.Induction

namespace CommandShell

/-! References are replaced in one pass from left to right. Where a text is cut, its
parts can be taken one by one, unless the cut goes through a reference; and what is put
in for a reference is not read again. -/

namespace Piece

/-! ## Where a text breaks off -/

theorem read_concat (progress : Progress) (text : Text) (character : Char) :
    read progress (text ++ [character]) =
      ((read progress text).1 ++ (step character (read progress text).2).1,
        (step character (read progress text).2).2) := by
  induction text generalizing progress with
  | nil => simp [read]
  | cons first rest induction => simp [read, induction]

def isVariable : Piece → Bool
  | .variable _ => true
  | .literal _ | .status | .processId => false

/-- Whether nothing can go on with a piece. -/
def isSettled (piece : Piece) : Bool :=
  piece ≠ .literal '$' && !piece.isVariable

/-- Reading that does not stand within a piece has just ended a settled one. -/
theorem isSettled_of_fresh {character : Char} (plain : (fresh character).2 = .plain) :
    ∃ piece, (fresh character).1 = [piece] ∧ isSettled piece = true := by
  unfold fresh at plain ⊢
  split at plain
  next => cases plain
  next noDollar =>
    rw [if_neg noDollar]
    exact ⟨.literal character, rfl, by simp [isSettled, isVariable, noDollar]⟩

theorem isSettled_of_step {character : Char} {progress : Progress}
    (plain : (step character progress).2 = .plain) :
    ∃ pieces piece, (step character progress).1 = pieces ++ [piece] ∧ isSettled piece = true := by
  cases progress with
  | plain =>
    rcases isSettled_of_fresh plain with ⟨piece, single, settled⟩
    exact ⟨[], piece, single, settled⟩
  | dollar =>
    by_cases status : character = '?'
    · exact ⟨[], .status, by simp [step, status], rfl⟩
    · by_cases processId : character = '$'
      · exact ⟨[], .processId, by simp [step, processId], rfl⟩
      · by_cases named : isNameCharacter character = true
        · simp [step, status, processId, named] at plain
        · exact ⟨[.literal '$'], .literal character, by simp [step, status, processId, named],
            by simp [isSettled, isVariable, processId]⟩
  | name characters =>
    by_cases named : isNameCharacter character = true
    · simp [step, named] at plain
    · simp only [step, named, Bool.false_eq_true, if_false] at plain ⊢
      rcases isSettled_of_fresh plain with ⟨piece, single, settled⟩
      exact ⟨[.variable characters.reverse], piece, by rw [single]; rfl, settled⟩

theorem isSettled_of_read {text : Text} (plain : (read .plain text).2 = .plain) :
    ∀ piece ∈ (read .plain text).1.getLast?, isSettled piece = true := by
  rcases text.eq_nil_or_concat with rfl | ⟨before, character, rfl⟩
  · simp [read]
  · rw [List.concat_eq_append, read_concat] at plain ⊢
    rcases isSettled_of_step plain with ⟨pieces, piece, ended, settled⟩
    intro last member
    simp only [ended, ← List.append_assoc, List.getLast?_concat, Option.mem_some_iff] at member
    exact member ▸ settled

/-- The last piece of the text is a dollar sign that stands for itself: no reference has
begun with it, and it is not the second sign of `$$`. -/
def EndsInDollar (text : Text) : Prop :=
  (ofText text).getLast? = some (.literal '$')

/-- The last piece of the text is a name with its dollar sign. -/
def EndsInName (text : Text) : Prop :=
  (ofText text).getLast?.any isVariable = true

theorem endsInDollar_iff (text : Text) : EndsInDollar text ↔ (read .plain text).2 = .dollar := by
  rw [EndsInDollar, ofText, ofTextFrom_eq]
  cases stands : (read .plain text).2 with
  | plain =>
    have settled := isSettled_of_read stands
    rw [Progress.finish, List.append_nil]
    refine iff_of_false (fun last => ?_) (by simp)
    exact absurd (settled _ last) (by decide)
  | dollar => simp [Progress.finish]
  | name characters => simp [Progress.finish]

theorem endsInName_iff (text : Text) :
    EndsInName text ↔ ∃ characters, (read .plain text).2 = .name characters := by
  rw [EndsInName, ofText, ofTextFrom_eq]
  cases stands : (read .plain text).2 with
  | plain =>
    have settled := isSettled_of_read stands
    rw [Progress.finish, List.append_nil]
    refine iff_of_false (fun last => ?_) (by simp)
    rcases (Option.any_eq_true _ _).mp last with ⟨piece, member, named⟩
    simpa [isSettled, named] using settled piece member
  | dollar => simp [Progress.finish, isVariable]
  | name characters => simp [Progress.finish, isVariable]

/-- How many dollar signs stand at the end of the text. -/
def closingDollars (text : Text) : Nat :=
  (text.reverse.takeWhile (· = '$')).length

theorem closingDollars_concat (text : Text) (character : Char) :
    closingDollars (text ++ [character]) =
      if character = '$' then closingDollars text + 1 else 0 := by
  by_cases dollar : character = '$' <;> simp [closingDollars, dollar]

theorem ne_of_isNameCharacter {character : Char} (named : isNameCharacter character = true) :
    character ≠ '?' ∧ character ≠ '$' := by
  constructor <;> rintro rfl <;> exact absurd named (by decide)

theorem step_eq_dollar_iff (character : Char) (progress : Progress) :
    (step character progress).2 = .dollar ↔ character = '$' ∧ progress ≠ .dollar := by
  have unnamed : isNameCharacter '$' = false := by decide
  cases progress with
  | plain => by_cases dollar : character = '$' <;> simp [step, fresh, dollar]
  | dollar => grind [step]
  | name characters => grind [step, fresh]

theorem step_eq_name_iff (character : Char) (progress : Progress) :
    (∃ characters, (step character progress).2 = .name characters) ↔
      isNameCharacter character = true ∧
        (progress = .dollar ∨ ∃ characters, progress = .name characters) := by
  by_cases named : isNameCharacter character = true
  · rcases ne_of_isNameCharacter named with ⟨noStatus, noDollar⟩
    cases progress <;> simp [step, fresh, named, noStatus, noDollar]
  · refine iff_of_false ?_ fun continued => named continued.1
    rintro ⟨characters, onward⟩
    cases progress <;> grind [step, fresh]

theorem endsInDollar_concat (text : Text) (character : Char) :
    EndsInDollar (text ++ [character]) ↔ character = '$' ∧ ¬EndsInDollar text := by
  rw [endsInDollar_iff, endsInDollar_iff, read_concat, step_eq_dollar_iff]

theorem endsInName_concat (text : Text) (character : Char) :
    EndsInName (text ++ [character]) ↔
      isNameCharacter character = true ∧ (EndsInDollar text ∨ EndsInName text) := by
  rw [endsInName_iff, endsInName_iff, endsInDollar_iff, read_concat, step_eq_name_iff]

/-- Of a run of dollar signs every second one ends a reference. -/
theorem endsInDollar_iff_odd (text : Text) :
    EndsInDollar text ↔ closingDollars text % 2 = 1 := by
  induction text using List.reverseRecOn with
  | nil => simp [endsInDollar_iff, read, closingDollars]
  | append_singleton text character induction =>
    rw [endsInDollar_concat, induction, closingDollars_concat]
    split
    next dollar => simp only [dollar, true_and]; omega
    next other => simp [other]

/-- A name that ends a text stands behind a dollar sign that opens a reference. -/
theorem endsInName_iff_exists (text : Text) :
    EndsInName text ↔ ∃ before name, text = before ++ '$' :: name ∧ ¬EndsInDollar before ∧
      name ≠ [] ∧ ∀ character ∈ name, isNameCharacter character = true := by
  induction text using List.reverseRecOn with
  | nil => simp [endsInName_iff, read]
  | append_singleton text character induction =>
    rw [endsInName_concat]
    constructor
    · rintro ⟨named, opens | goesOn⟩
      · rcases text.eq_nil_or_concat with rfl | ⟨before, last, rfl⟩
        · simp [endsInDollar_iff, read] at opens
        · rw [List.concat_eq_append, endsInDollar_concat] at opens
          rcases opens with ⟨rfl, noDollar⟩
          exact ⟨before, [character], by simp, noDollar, by simp, by simpa using named⟩
      · rcases induction.mp goesOn with ⟨before, name, rfl, noDollar, inhabited, all⟩
        refine ⟨before, name ++ [character], by simp, noDollar, by simp, fun other member => ?_⟩
        rcases List.mem_append.mp member with member | member
        · exact all other member
        · rwa [List.mem_singleton.mp member]
    · rintro ⟨before, name, whole, noDollar, inhabited, all⟩
      rcases name.eq_nil_or_concat with rfl | ⟨more, last, rfl⟩
      · exact absurd rfl inhabited
      · rw [List.concat_eq_append] at whole all
        rw [← List.cons_append, ← List.append_assoc] at whole
        rcases List.append_inj' whole rfl with ⟨rfl, ⟨⟩⟩
        refine ⟨all character (by simp), ?_⟩
        by_cases alone : more = []
        · subst alone
          exact .inl ((endsInDollar_concat before '$').mpr ⟨rfl, noDollar⟩)
        · exact .inr (induction.mpr ⟨before, more, rfl, noDollar, alone,
            fun other member => all other (by simp [member])⟩)

/-- The second text goes on with a reference of the first. -/
def GoesOnWith (first second : Text) : Prop :=
  EndsInDollar first ∧ second.head?.any goesOn = true ∨
    EndsInName first ∧ second.head?.any isNameCharacter = true

theorem goesOnWith_iff (first second : Text) :
    GoesOnWith first second ↔ second.head?.any (read .plain first).2.takes = true := by
  rw [GoesOnWith, endsInDollar_iff, endsInName_iff]
  cases (read .plain first).2 with
  | plain => cases second <;> simp [Progress.takes]
  | dollar => simp [Progress.takes, Option.any_eq_true]
  | name characters => simp [Progress.takes, Option.any_eq_true]

/-- Where no reference is cut, the pieces of the parts are those of the whole. -/
theorem ofText_append_of_not_goesOnWith {first second : Text} (cut : ¬GoesOnWith first second) :
    ofText (first ++ second) = ofText first ++ ofText second := by
  have ends : second.head?.any (read .plain first).2.takes = false := by
    rwa [goesOnWith_iff, Bool.not_eq_true] at cut
  rw [ofText, ofTextFrom_append, ofTextFrom_of_not_takes _ ends, ← List.append_assoc,
    ← ofTextFrom_eq, ← ofText]

/-! ## Single references -/

/-- A character that opens no reference is kept. -/
theorem ofText_literal {character : Char} {rest : Text}
    (opens : character = '$' → rest.head?.any goesOn = false) :
    ofText (character :: rest) = .literal character :: ofText rest := by
  by_cases dollar : character = '$'
  · subst dollar
    exact ofTextFrom_of_not_takes .dollar (opens rfl)
  · simp [ofText, ofTextFrom, step, fresh, dollar]

/-- The characters are all that belong to a name, if they are those of one at all. -/
structure IsLongestName (name rest : Text) : Prop where
  inhabited : name ≠ []
  named : ∀ character ∈ name, isNameCharacter character = true
  ends : rest.head?.any isNameCharacter = false

theorem IsLongestName.dollar_not_mem {name rest : Text} (longest : IsLongestName name rest) :
    '$' ∉ name :=
  fun member => (ne_of_isNameCharacter (longest.named '$' member)).2 rfl

theorem exists_longestName {text : Text} (opens : text.head?.any isNameCharacter = true) :
    ∃ name rest, text = name ++ rest ∧ IsLongestName name rest := by
  refine ⟨text.takeWhile isNameCharacter, text.dropWhile isNameCharacter,
    List.takeWhile_append_dropWhile.symm, ?_, ?_, ?_⟩
  · cases text with
    | nil => cases opens
    | cons character rest =>
      have here : isNameCharacter character = true := opens
      rw [List.takeWhile_cons_of_pos here]
      exact List.cons_ne_nil _ _
  · exact List.all_eq_true.mp List.all_takeWhile
  · have apart := List.head?_dropWhile_not isNameCharacter text
    cases first : (text.dropWhile isNameCharacter).head? with
    | none => rfl
    | some character =>
      rw [first] at apart
      exact apart

theorem ofTextFrom_name_append (characters : Text) {name rest : Text}
    (named : ∀ character ∈ name, isNameCharacter character = true)
    (ends : rest.head?.any isNameCharacter = false) :
    ofTextFrom (.name characters) (name ++ rest) =
      .variable (characters.reverse ++ name) :: ofText rest := by
  induction name generalizing characters with
  | nil =>
    rw [List.nil_append, List.append_nil]
    exact ofTextFrom_of_not_takes (.name characters) ends
  | cons character more induction =>
    rcases List.forall_mem_cons.mp named with ⟨here, onward⟩
    simp [ofTextFrom, step, here, induction _ onward]

/-- A dollar sign before a name stands for the value of the whole name. -/
theorem ofText_variable {name rest : Text} (longest : IsLongestName name rest) :
    ofText ('$' :: (name ++ rest)) = .variable name :: ofText rest := by
  rcases longest with ⟨inhabited, named, ends⟩
  cases name with
  | nil => exact absurd rfl inhabited
  | cons first more =>
    rcases List.forall_mem_cons.mp named with ⟨here, onward⟩
    rcases ne_of_isNameCharacter here with ⟨noStatus, noDollar⟩
    simp [ofText, ofTextFrom, step, fresh, noStatus, noDollar, here,
      ofTextFrom_name_append _ onward ends]

end Piece

/-! ## Substitution -/

namespace Session

open Piece

@[simp] theorem substitute_nil (session : Session) : session.substitute [] = [] := rfl

theorem substitute_append (session : Session) {first second : Text}
    (cut : ¬GoesOnWith first second) :
    session.substitute (first ++ second) =
      session.substitute first ++ session.substitute second := by
  simp [substitute, ofText_append_of_not_goesOnWith cut]

theorem substitute_variable (session : Session) {name rest : Text}
    (longest : IsLongestName name rest) :
    session.substitute ('$' :: (name ++ rest)) =
      (session.environment.get? name).getD [] ++ session.substitute rest := by
  simp [substitute, ofText_variable longest, valueOf]

theorem substitute_literal (session : Session) {character : Char} {rest : Text}
    (opens : character = '$' → rest.head?.any goesOn = false) :
    session.substitute (character :: rest) = character :: session.substitute rest := by
  simp [substitute, ofText_literal opens, valueOf]

/-- Text up to its first dollar sign is kept. -/
theorem substitute_append_of_dollar_not_mem (session : Session) {first : Text}
    (free : '$' ∉ first) (second : Text) :
    session.substitute (first ++ second) = first ++ session.substitute second := by
  induction first with
  | nil => rfl
  | cons character rest induction =>
    rw [List.mem_cons, not_or] at free
    rw [List.cons_append, session.substitute_literal fun dollar => absurd dollar.symm free.1,
      induction free.2, List.cons_append]

/-! ### Cuts through references -/

/-- A session without variables and with nothing but zeros in it. -/
def bare : Session :=
  .ofEnvironment .empty [] 0

theorem bare_variable (name : Text) : bare.valueOf (.variable name) = [] := rfl

/-- Where something goes on with the piece under way, the parts by themselves come to
something else than the whole. -/
theorem substitute_parts_ne {progress : Progress} {text : Text}
    (takes : text.head?.any progress.takes = true) :
    (ofTextFrom progress text).flatMap bare.valueOf ≠
      progress.finish.flatMap bare.valueOf ++ bare.substitute text := by
  -- A name comes to nothing with what precedes it, and to itself without.
  have shorter : ∀ {name rest : Text}, IsLongestName name rest → ∀ before : Text,
      bare.substitute rest ≠ before ++ bare.substitute (name ++ rest) := by
    intro name rest longest before same
    rw [bare.substitute_append_of_dollar_not_mem longest.dollar_not_mem] at same
    have lengths := congrArg List.length same
    have inhabited := List.length_pos_iff.mpr longest.inhabited
    simp only [List.length_append] at lengths
    omega
  have zero : ∀ {value onward behind : Text}, value = ['0'] → value ++ onward ≠ '$' :: behind := by
    rintro value onward behind rfl same
    exact absurd (List.cons.inj same).1 (by decide)
  cases progress with
  | plain => cases text <;> cases takes
  | dollar =>
    cases text with
    | nil => cases takes
    | cons character rest =>
      have opens : goesOn character = true := takes
      simp only [goesOn, Bool.or_eq_true, decide_eq_true_eq] at opens
      rcases opens with (rfl | rfl) | named
      · exact zero (by decide : bare.valueOf .status = ['0'])
      · exact zero (by decide : bare.valueOf .processId = ['0'])
      · have named : (character :: rest).head?.any isNameCharacter = true := named
        rcases exists_longestName named with ⟨name, after, shape, longest⟩
        rw [shape, show ofTextFrom .dollar (name ++ after) = _ from ofText_variable longest,
          List.flatMap_cons, bare_variable]
        exact shorter longest _
  | name characters =>
    rcases exists_longestName takes with ⟨name, rest, rfl, longest⟩
    rw [ofTextFrom_name_append characters longest.named longest.ends, List.flatMap_cons,
      bare_variable]
    exact shorter longest _

/-- The parts of a text come to what the whole comes to in every session, exactly where
the cut between them goes through no reference. -/
theorem substitute_append_iff (first second : Text) :
    (∀ session : Session, session.substitute (first ++ second) =
        session.substitute first ++ session.substitute second) ↔ ¬GoesOnWith first second := by
  constructor
  · intro same goesOn
    have parts := same bare
    simp only [substitute, ofText, ofTextFrom_append, ofTextFrom_eq .plain first,
      List.flatMap_append, List.append_assoc, List.append_cancel_left_eq] at parts
    exact substitute_parts_ne ((goesOnWith_iff first second).mp goesOn) parts
  · intro cut session
    exact session.substitute_append cut

/-- References are replaced in one pass. The parts of a text can be taken one by one
unless the cut between them goes through a reference, whatever the session: behind a dollar
sign that ends a run of oddly many, or within a name behind such a sign. A status, a process
and the value of a longest name stand for their references, and all else is kept. A value
stands as it is in what the text comes to, and a text without dollar signs comes to
itself. -/
theorem substitute_in_one_pass :
    (∀ first second : Text,
      (∀ session : Session, session.substitute (first ++ second) =
          session.substitute first ++ session.substitute second) ↔ ¬GoesOnWith first second) ∧
    (∀ text, EndsInDollar text ↔ closingDollars text % 2 = 1) ∧
    (∀ text, EndsInName text ↔ ∃ before name, text = before ++ '$' :: name ∧
      ¬EndsInDollar before ∧ name ≠ [] ∧
      ∀ character ∈ name, isNameCharacter character = true) ∧
    ∀ session : Session,
      (∀ rest, session.substitute ('$' :: '?' :: rest) =
          Text.ofInt session.status ++ session.substitute rest) ∧
      (∀ rest, session.substitute ('$' :: '$' :: rest) =
          Text.ofNat session.processId ++ session.substitute rest) ∧
      (∀ name rest, IsLongestName name rest → session.substitute ('$' :: (name ++ rest)) =
          (session.environment.get? name).getD [] ++ session.substitute rest) ∧
      (∀ character rest, (character = '$' → rest.head?.any goesOn = false) →
          session.substitute (character :: rest) = character :: session.substitute rest) ∧
      (∀ before name after value, ¬EndsInDollar before → IsLongestName name after →
          session.environment.get? name = some value →
          session.substitute (before ++ '$' :: (name ++ after)) =
            session.substitute before ++ value ++ session.substitute after) ∧
      ∀ text, '$' ∉ text → session.substitute text = text := by
  refine ⟨substitute_append_iff, endsInDollar_iff_odd, endsInName_iff_exists,
    fun session => ⟨fun _ => rfl, fun _ => rfl, fun _ _ => session.substitute_variable,
      fun _ _ => session.substitute_literal, ?_, ?_⟩⟩
  · intro before name after value noDollar longest found
    have cut : ¬GoesOnWith before ('$' :: (name ++ after)) := by
      rintro (⟨dollar, -⟩ | ⟨-, named⟩)
      · exact noDollar dollar
      · have sign : isNameCharacter '$' = true := named
        exact absurd sign (by decide)
    rw [session.substitute_append cut, session.substitute_variable longest, found,
      Option.getD_some, List.append_assoc]
  · intro text free
    have whole := session.substitute_append_of_dollar_not_mem free []
    rwa [List.append_nil, substitute_nil, List.append_nil] at whole

/-- A value that looks like references, behind a reference that ends in a dollar sign. -/
theorem substitute_in_one_pass_of_dollars :
    let session : Session :=
      { Session.ofEnvironment (.ofList [(Text.ofString "X", Text.ofString "$X$?")]) [] 7 with
        status := 3 }
    let before := Text.ofString "é$$"
    ¬EndsInDollar before ∧ IsLongestName (Text.ofString "X") (Text.ofString "é$?") ∧
      session.environment.get? (Text.ofString "X") = some (Text.ofString "$X$?") ∧
      session.substitute (before ++ '$' :: (Text.ofString "X" ++ Text.ofString "é$?")) =
        Text.ofString "é7$X$?é3" := by
  intro session before
  have noDollar : ¬EndsInDollar before := by
    rw [substitute_in_one_pass.2.1]
    decide
  have longest : IsLongestName (Text.ofString "X") (Text.ofString "é$?") :=
    ⟨by decide, List.all_eq_true.mp (by decide), by decide⟩
  have found : session.environment.get? (Text.ofString "X") = some (Text.ofString "$X$?") := by
    decide
  refine ⟨noDollar, longest, found, ?_⟩
  have replaced := (substitute_in_one_pass.2.2.2 session).2.2.2.2.1 before _ _ _ noDollar longest
    found
  exact replaced.trans (by decide +kernel)

end Session

end CommandShell
