import CommandShell.Proofs.Acts
import CommandShell.Proofs.Soundness
import CommandShell.Proofs.Substitution

namespace CommandShell

/-! What `alias` is given. A command that spells `alias` out keeps the references of its
operands, so that a definition holds them as they are written. Whether it does is settled before
references are replaced. A command in which a reference comes to the word `alias` is carried out
by the same builtin, but by then the references of its operands have been replaced as well. -/

namespace Piece

/-! ## References of a text -/

/-- A text is made up of references and of characters that open none. -/
@[elab_as_elim]
theorem reference_induction {motive : Text → Prop} (nil : motive [])
    (status : ∀ rest, motive rest → motive ('$' :: '?' :: rest))
    (processId : ∀ rest, motive rest → motive ('$' :: '$' :: rest))
    (named : ∀ name rest, IsLongestName name rest → motive rest → motive ('$' :: (name ++ rest)))
    (literal : ∀ character rest, (character = '$' → rest.head?.any goesOn = false) →
      motive rest → motive (character :: rest))
    (text : Text) : motive text := by
  -- A reference is at least two characters, so the induction is on the length.
  induction length : text.length using Nat.strong_induction_on generalizing text with
  | _ _ induction =>
    subst length
    cases text with
    | nil => exact nil
    | cons character rest =>
      by_cases opens : character = '$' ∧ rest.head?.any goesOn = true
      · rcases opens with ⟨rfl, onward⟩
        cases rest with
        | nil => cases onward
        | cons next rest =>
          have shorter : rest.length < ('$' :: next :: rest).length := by
            simp only [List.length_cons]
            omega
          have kinds : goesOn next = true := onward
          simp only [goesOn, Bool.or_eq_true, decide_eq_true_eq] at kinds
          rcases kinds with (rfl | rfl) | inName
          · exact status rest (induction _ shorter rest rfl)
          · exact processId rest (induction _ shorter rest rfl)
          · have begins : (next :: rest).head?.any isNameCharacter = true := inName
            rcases exists_longestName begins with ⟨name, after, whole, longest⟩
            have behind : after.length < ('$' :: next :: rest).length := by
              rw [whole, List.length_cons, List.length_append]
              omega
            rw [whole]
            exact named name after longest (induction _ behind after rfl)
      · refine literal character rest (fun dollar => ?_) (induction _ (Nat.lt_succ_self _) rest rfl)
        simpa [dollar] using opens

theorem references_literal {character : Char} {rest : Text}
    (opens : character = '$' → rest.head?.any goesOn = false) :
    references (character :: rest) = references rest := by
  simp [references, ofText_literal opens, isReference]

theorem references_variable {name rest : Text} (longest : IsLongestName name rest) :
    references ('$' :: (name ++ rest)) = .variable name :: references rest := by
  rw [references, ofText_variable longest]
  rfl

theorem references_append_of_dollar_not_mem {first : Text} (free : '$' ∉ first) (second : Text) :
    references (first ++ second) = references second := by
  induction first with
  | nil => rfl
  | cons character rest induction =>
    rw [List.mem_cons, not_or] at free
    rw [List.cons_append, references_literal fun dollar => absurd dollar.symm free.1,
      induction free.2]

theorem references_of_mem_words {text word : Text} (plain : references text = [])
    (member : word ∈ Text.words text) : references word = [] := by
  rw [references_eq_flatMap_words, List.flatMap_eq_nil_iff] at plain
  exact plain word member

end Piece

namespace Text

theorem dollar_not_mem_ofNat (number : Nat) : '$' ∉ ofNat number := by
  intro member
  have digit := Nat.isDigit_of_mem_toDigits (by decide) (by decide) member
  exact absurd digit (by decide)

theorem dollar_not_mem_ofInt (number : Int) : '$' ∉ ofInt number := by
  cases number with
  | ofNat number => exact dollar_not_mem_ofNat number
  | negSucc number => simpa [ofInt] using dollar_not_mem_ofNat (number + 1)

end Text

namespace Session

open Piece

/-! ## Texts without references -/

theorem substitute_of_references (session : Session) {text : Text} (plain : references text = []) :
    session.substitute text = text := by
  induction text using reference_induction with
  | nil => rfl
  | status rest induction => cases plain
  | processId rest induction => cases plain
  | named name rest longest induction =>
    rw [references_variable longest] at plain
    cases plain
  | literal character rest opens induction =>
    rw [references_literal opens] at plain
    rw [session.substitute_literal opens, induction plain]

theorem words_substitute_of_references (session : Session) {word : Text}
    (isWord : Text.IsWord word) (plain : references word = []) :
    Text.words (session.substitute word) = [word] := by
  rw [session.substitute_of_references plain, Text.words_of_visible isWord.visible isWord.inhabited]

theorem flatMap_substitute_of_references (session : Session) {words : List Text}
    (areWords : ∀ word ∈ words, Text.IsWord word) (plain : ∀ word ∈ words, references word = []) :
    (words.flatMap fun word => Text.words (session.substitute word)) = words := by
  rw [List.flatMap_congr fun word member =>
    session.words_substitute_of_references (areWords word member) (plain word member)]
  exact List.flatMap_singleton' words

theorem head?_substitute (session : Session) {text : Text}
    (ends : text.head?.any goesOn = false) :
    (session.substitute text).head? = text.head? := by
  cases text with
  | nil => rfl
  | cons character rest =>
    have noDollar : character ≠ '$' := by
      rintro rfl
      cases ends
    rw [session.substitute_literal fun dollar => absurd dollar noDollar]
    rfl

/-- Values without dollar signs bring no references in, and what is left of a text around
them makes none up. -/
theorem references_substitute {session : Session}
    (free : ∀ name value, session.environment.get? name = some value → '$' ∉ value)
    (text : Text) : references (session.substitute text) = [] := by
  induction text using reference_induction with
  | nil => rfl
  | status rest induction =>
    have replaced : session.substitute ('$' :: '?' :: rest) =
        Text.ofInt session.status ++ session.substitute rest := rfl
    rw [replaced, references_append_of_dollar_not_mem (Text.dollar_not_mem_ofInt _), induction]
  | processId rest induction =>
    have replaced : session.substitute ('$' :: '$' :: rest) =
        Text.ofNat session.processId ++ session.substitute rest := rfl
    rw [replaced, references_append_of_dollar_not_mem (Text.dollar_not_mem_ofNat _), induction]
  | named name rest longest induction =>
    rw [session.substitute_variable longest]
    cases found : session.environment.get? name with
    | none => exact induction
    | some value =>
      rw [Option.getD_some, references_append_of_dollar_not_mem (free name value found), induction]
  | literal character rest opens induction =>
    rw [session.substitute_literal opens, references_literal, induction]
    intro dollar
    rw [session.head?_substitute (opens dollar)]
    exact opens dollar

/-! ## The words of an expanded command -/

/-- What the words of a command come to once its alias has been replaced. -/
def substituteWords (session : Session) (words : List Text) : List Text :=
  if words.head? = some (Text.ofString "alias") then words
  else words.flatMap fun word => Text.words (session.substitute word)

theorem words_expand_of_replaced (session : Session) (text : Text) :
    Text.words (session.expand text) =
      session.substituteWords (Text.words (session.aliases.replace text)) := by
  rw [words_expand_eq, expandWords, substituteWords, ← Aliases.words_replace]

/-- The words spell `alias` out, or the first comes to it alone and the others hold no
references. -/
def KeepsOperands (session : Session) (words : List Text) : Prop :=
  words.head? = some (Text.ofString "alias") ∨
    ∃ maker rest, words = maker :: rest ∧
      Text.words (session.substitute maker) = [Text.ofString "alias"] ∧
      ∀ word ∈ rest, references word = []

/-- References have brought the word `alias` forth: words that came to nothing, then one that
came to `alias` and perhaps operands, then the operands after it. -/
def BringsForth (session : Session) (words operands : List Text) : Prop :=
  ∃ silent maker own rest, words = silent ++ maker :: rest ∧
    (∀ word ∈ silent, Text.words (session.substitute word) = []) ∧
    Text.words (session.substitute maker) = Text.ofString "alias" :: own ∧
    operands = own ++ rest.flatMap fun word => Text.words (session.substitute word)

section

variable {session : Session} {words operands : List Text}

theorem eq_tail_of_keepsOperands (areWords : ∀ word ∈ words, Text.IsWord word)
    (calls : session.substituteWords words = Text.ofString "alias" :: operands)
    (keeps : session.KeepsOperands words) : operands = words.tail := by
  rw [substituteWords] at calls
  split at calls
  · rw [calls, List.tail_cons]
  next unspelled =>
    rcases keeps with spelled | ⟨maker, rest, rfl, made, plain⟩
    · exact absurd spelled unspelled
    · have kept := session.flatMap_substitute_of_references
        (fun word member => areWords word (List.mem_cons_of_mem maker member)) plain
      rw [List.flatMap_cons, made, kept] at calls
      exact (List.cons.inj calls).2.symm

theorem bringsForth_of_unspelled (unspelled : words.head? ≠ some (Text.ofString "alias"))
    (calls : session.substituteWords words = Text.ofString "alias" :: operands) :
    session.BringsForth words operands := by
  rw [substituteWords, if_neg unspelled, List.flatMap_def, List.flatten_eq_cons_iff] at calls
  rcases calls with ⟨silents, own, others, whole, silent, rfl⟩
  rcases List.map_eq_append_iff.mp whole with ⟨before, behind, rfl, rfl, cut⟩
  rcases List.map_eq_cons_iff.mp cut with ⟨maker, rest, rfl, made, rfl⟩
  exact ⟨before, maker, own, rest, rfl, List.forall_mem_map.mp silent, made, rfl⟩

/-- Operands that references have brought forth are words of texts in which none are left. -/
theorem references_of_mem_operands
    (free : ∀ name value, session.environment.get? name = some value → '$' ∉ value)
    (unspelled : words.head? ≠ some (Text.ofString "alias"))
    (calls : session.substituteWords words = Text.ofString "alias" :: operands) :
    ∀ operand ∈ operands, references operand = [] := by
  intro operand member
  rw [substituteWords, if_neg unspelled] at calls
  have among := List.mem_cons_of_mem (Text.ofString "alias") member
  rw [← calls, List.mem_flatMap] at among
  rcases among with ⟨word, -, within⟩
  exact references_of_mem_words (references_substitute free word) within

/-- Operands without references are as written only if the first word has come to `alias` by
itself: a word less or more in front of them would be missing or too many. -/
theorem keepsOperands_of_bringsForth (areWords : ∀ word ∈ words, Text.IsWord word)
    (brings : session.BringsForth words operands)
    (plain : ∀ operand ∈ operands, references operand = [])
    (same : operands = words.tail) : session.KeepsOperands words := by
  rcases brings with ⟨silent, maker, own, rest, rfl, silence, made, rfl⟩
  rw [same] at plain
  have kept : (rest.flatMap fun word => Text.words (session.substitute word)) = rest := by
    refine session.flatMap_substitute_of_references
      (fun word member => areWords word (by simp [member])) fun word member => plain word ?_
    cases silent <;> simp [member]
  rw [kept] at same
  cases silent with
  | nil =>
    have alone : own = [] := List.self_eq_append_left.mp same.symm
    exact .inr ⟨maker, rest, rfl, alone ▸ made, plain⟩
  | cons first others =>
    have unchanged := session.words_substitute_of_references (areWords maker (by simp))
      (plain maker (by simp))
    have alone : own = [] := (List.cons.inj (made.symm.trans unchanged)).2
    have lengths := congrArg List.length same
    simp only [alone, List.nil_append, List.cons_append, List.tail_cons, List.length_append,
      List.length_cons] at lengths
    omega

end

end Session

/-! ## The operands of `alias` -/

namespace Shell

/-- A command whose first word comes to `alias` is carried out by that builtin. Its operands are
the words as they are written if the command spells `alias` out. If not, references have
brought that word forth, and where no value holds a dollar sign the operands are as written only
if the first word came to `alias` alone and the others held no references. -/
theorem alias_operands_as_written {shell : Shell} {segment : Segment} {operands : List Text}
    (runs : segment.stray? = none)
    (calls : Text.words (shell.session.expand segment.text) =
      Text.ofString "alias" :: operands) :
    let session := shell.session
    let written := Text.words (session.aliases.replace segment.text)
    shell.segment segment =
        settle (Text.ofString "alias")
          (carryOut .aliases operands (shell.calling segment .aliases operands)) ∧
      (session.KeepsOperands written → operands = written.tail) ∧
      (written.head? = some (Text.ofString "alias") ∨ session.BringsForth written operands) ∧
      ((∀ name value, session.environment.get? name = some value → '$' ∉ value) →
        operands = written.tail → session.KeepsOperands written) := by
  intro session written
  have areWords : ∀ word ∈ written, Text.IsWord word := fun _ => Text.isWord_of_mem_words
  have dispatches : shell.dispatched segment = some (.aliases, operands) := by
    simp only [dispatched, runs, calls]
    rfl
  rw [Session.words_expand_of_replaced] at calls
  refine ⟨segment_of_dispatched dispatches, Session.eq_tail_of_keepsOperands areWords calls, ?_, ?_⟩
  · exact or_iff_not_imp_left.mpr fun unspelled => Session.bringsForth_of_unspelled unspelled calls
  · intro free same
    by_cases spelled : written.head? = some (Text.ofString "alias")
    · exact .inl spelled
    · exact Session.keepsOperands_of_bringsForth areWords
        (Session.bringsForth_of_unspelled spelled calls)
        (Session.references_of_mem_operands free spelled calls) same

/-- An alias whose references come to nothing and to `alias` gives away the reference of the
operand, which the word `alias` keeps. An operand without references is left as it is. -/
theorem alias_operands_as_written_of_body :
    let shell : Shell :=
      { settings := { mode := .standardInput }
        session :=
          { Session.ofEnvironment (.ofList [(Text.ofString "CMD", Text.ofString "alias"),
              (Text.ofString "TARGET", Text.ofString "now")]) [] 7 with
            aliases := .ofList [(Text.ofString "mk", Text.ofString "$GONE $CMD k=1")] }
        world := { files := .empty } }
    let made : Segment := ⟨none, Text.ofString "mk show=$TARGET"⟩
    let alone : Segment := ⟨none, Text.ofString "$CMD show=$"⟩
    let written := ["$GONE", "$CMD", "k=1", "show=$TARGET"].map Text.ofString
    let replaced := ["k=1", "show=now"].map Text.ofString
    made.stray? = none ∧ alone.stray? = none ∧
      Text.words (shell.session.expand made.text) = Text.ofString "alias" :: replaced ∧
      Text.words (shell.session.aliases.replace made.text) = written ∧
      shell.session.BringsForth written replaced ∧ ¬shell.session.KeepsOperands written ∧
      Text.words (shell.session.expand alone.text) = ["alias", "show=$"].map Text.ofString ∧
      shell.session.KeepsOperands (["$CMD", "show=$"].map Text.ofString) ∧
      (shell.submit (Text.ofString "alias show=$TARGET")).2.session.aliases.get?
        (Text.ofString "show") = some (Text.ofString "$TARGET") := by
  intro shell made alone written replaced
  have whole : Text.words (shell.session.aliases.replace made.text) = written := by decide +kernel
  have calls : Text.words (shell.session.expand made.text) = Text.ofString "alias" :: replaced := by
    decide +kernel
  have runs : made.stray? = none := by decide
  rcases alias_operands_as_written runs calls with ⟨-, kept, brought, -⟩
  rw [whole] at kept brought
  have runsToo : alone.stray? = none := by decide
  have callsToo : Text.words (shell.session.expand alone.text) =
      ["alias", "show=$"].map Text.ofString := by
    decide +kernel
  have free : ∀ name value, shell.session.environment.get? name = some value → '$' ∉ value := by
    intro name value found
    have entries : ∀ entry ∈ shell.session.environment.entries, '$' ∉ entry.2 := by decide
    exact entries _ ((Store.get?_eq_some_iff _ _ _).mp found)
  have same : [Text.ofString "show=$"] =
      (Text.words (shell.session.aliases.replace alone.text)).tail := by
    decide +kernel
  have keeps := (alias_operands_as_written runsToo callsToo).2.2.2 free same
  have wholeToo : Text.words (shell.session.aliases.replace alone.text) =
      ["$CMD", "show=$"].map Text.ofString := by
    decide +kernel
  rw [wholeToo] at keeps
  exact ⟨runs, runsToo, calls, whole, brought.resolve_left (by decide),
    fun keeps => absurd (kept keeps) (by decide), callsToo, keeps, by decide +kernel⟩

/-- The command word is a reference, and the alias that is defined does not hold the reference
that is written in its value. -/
theorem alias_operands_replaced :
    let shell : Shell :=
      { settings := { mode := .standardInput }
        session := .ofEnvironment (.ofList [(Text.ofString "CMD", Text.ofString "alias"),
          (Text.ofString "TARGET", Text.ofString "now")]) [] 7
        world := { files := .empty } }
    let segment : Segment := ⟨none, Text.ofString "$CMD show=$TARGET"⟩
    shell.dispatched segment = some (.aliases, [Text.ofString "show=now"]) ∧
      (Text.words (shell.session.aliases.replace segment.text)).tail =
        [Text.ofString "show=$TARGET"] ∧
      (shell.submit segment.text).2.session.aliases.entries =
        [(Text.ofString "show", Text.ofString "now")] := by
  intro shell segment
  exact ⟨by decide +kernel, by decide +kernel, by decide +kernel⟩

end Shell

end CommandShell
