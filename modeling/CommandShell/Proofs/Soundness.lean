import CommandShell.Proofs.Runs
import CommandShell.Proofs.Words
import Mathlib.Data.List.Chain

namespace CommandShell

/-! What can be relied on in every session, whatever it has been given to execute: its
statuses are those of a process, names are what names can be, and the entries of the
history are numbered without a gap. -/

/-! ## Words -/

namespace Text

structure IsWord (word : Text) : Prop where
  inhabited : word ≠ []
  visible : ∀ character ∈ word, isBlank character = false

theorem isWord_of_mem_words {text word : Text} (member : word ∈ words text) : IsWord word := by
  have alone : ∀ solid : Text, (∀ character ∈ solid, isBlank character = false) →
      word ∈ words solid → IsWord word := by
    intro solid visible member
    by_cases empty : solid = []
    · simp [empty] at member
    · rw [words_of_visible visible empty, List.mem_singleton] at member
      exact member ▸ ⟨empty, visible⟩
  induction text using word_induction with
  | visible solid visible => exact alone solid visible member
  | separated solid blank rest visible separates induction =>
    rw [words_append_blank separates] at member
    rcases List.mem_append.mp member with first | later
    · exact alone solid visible first
    · exact induction later

theorem ne_space_of_visible {character : Char} (visible : isBlank character = false) :
    character ≠ ' ' := by
  rintro rfl
  exact absurd visible (by decide)

end Text

/-! ## Aliases -/

namespace Aliases

structure IsName (name : Text) : Prop where
  unsigned : '=' ∉ name
  visible : ∀ character ∈ name, Text.isBlank character = false

structure IsValue (value : Text) : Prop where
  blanks : ∀ character ∈ value, Text.isBlank character = true → character = ' '
  apart : value.IsChain fun one two => one ≠ ' ' ∨ two ≠ ' '

theorem IsValue.of_infix {part value : Text} (isValue : IsValue value) (within : part <:+: value) :
    IsValue part where
  blanks := fun character member => isValue.blanks character (within.subset member)
  apart := isValue.apart.infix within

theorem isValue_of_visible {value : Text}
    (visible : ∀ character ∈ value, Text.isBlank character = false) : IsValue value := by
  constructor
  · intro character member blank
    rw [visible character member] at blank
    cases blank
  · induction value with
    | nil => exact .nil
    | cons first rest induction =>
      rcases List.forall_mem_cons.mp visible with ⟨here, onward⟩
      exact (induction onward).cons fun _ _ => .inl (Text.ne_space_of_visible here)

/-- One space and a word can be added to a value that does not end in a blank. -/
theorem IsValue.append_word {value word : Text} (isValue : IsValue value)
    (ends : ∀ last ∈ value.getLast?, Text.isBlank last = false) (isWord : Text.IsWord word) :
    IsValue (value ++ ' ' :: word) := by
  have isValueToo := isValue_of_visible isWord.visible
  constructor
  · intro character member blank
    rcases List.mem_append.mp member with before | behind
    · exact isValue.blanks character before blank
    · rcases List.mem_cons.mp behind with space | within
      · exact space
      · exact isValueToo.blanks character within blank
  · apply isValue.apart.append
    · apply isValueToo.apart.cons
      intro first begins
      exact .inr (Text.ne_space_of_visible (isWord.visible first (List.mem_of_mem_head? begins)))
    · intro last isLast _ _
      exact .inl (Text.ne_space_of_visible (ends last isLast))

namespace Operand

def IsSound : Operand → Prop
  | .define name value => IsName name ∧ IsValue value
  | .display _ => True

structure Open.IsSound (definition : Open) : Prop where
  name : IsName definition.name
  value : IsValue definition.value
  ends : ∀ last ∈ definition.value.getLast?, Text.isBlank last = false

theorem Open.IsSound.absorb {definition : Open} (sound : definition.IsSound) {word : Text}
    (isWord : Text.IsWord word) : (definition.absorb word).IsSound := by
  refine ⟨sound.name, ?_, ?_⟩
  · rw [Open.value_absorb]
    exact sound.value.append_word sound.ends isWord
  · rw [Open.value_absorb]
    intro last isLast
    have within : last ∈ word.getLast? := by
      cases word with
      | nil => exact absurd rfl isWord.inhabited
      | cons first rest => simpa [List.getLast?_append, List.getLast?_cons_cons] using isLast
    exact isWord.visible last (List.mem_of_mem_getLast? within)

theorem Open.IsSound.finish {definition : Open} (sound : definition.IsSound) :
    definition.finish.IsSound := by
  refine ⟨sound.name, sound.value.of_infix ?_⟩
  have behind : definition.value.drop 1 <:+: definition.value := (List.drop_suffix _ _).isInfix
  unfold Text.dropLastIf
  split
  · exact (List.dropLast_prefix _).isInfix.trans behind
  · exact behind

theorem isSound_ofWord {word : Text} (isWord : Text.IsWord word) :
    (∀ operand, ofWord word = .inl operand → operand.IsSound) ∧
      ∀ definition, ofWord word = .inr definition → definition.IsSound := by
  unfold ofWord
  cases cut : Cut.once '=' word with
  | none =>
    constructor <;> intro _ same <;> cases same
    trivial
  | some parts =>
    rcases parts with ⟨name, value⟩
    rcases (Cut.once_eq_some_iff '=' word name value).mp cut with ⟨whole, unsigned⟩
    have visible := isWord.visible
    rw [whole] at visible
    have isName : IsName name :=
      ⟨unsigned, fun character member => visible character (List.mem_append_left _ member)⟩
    have visibleValue : ∀ character ∈ value, Text.isBlank character = false :=
      fun character member =>
        visible character (List.mem_append_right _ (List.mem_cons_of_mem _ member))
    have isValue := isValue_of_visible visibleValue
    dsimp only
    split
    · constructor <;> intro _ same <;> cases same
      exact ⟨isName, isValue⟩
    · split
      · constructor <;> intro _ same <;> cases same
        refine ⟨isName, by simpa [Open.value] using isValue, ?_⟩
        intro last isLast
        exact visibleValue last (List.mem_of_mem_getLast? (by simpa [Open.value] using isLast))
      · constructor <;> intro _ same <;> cases same
        exact ⟨isName, isValue⟩

theorem isSound_settle {definition : Open} (sound : definition.IsSound) :
    (∀ operand ∈ (settle definition).1, operand.IsSound) ∧
      ∀ still ∈ (settle definition).2, still.IsSound := by
  unfold settle
  split
  · simpa using sound.finish
  · simpa using sound

theorem isSound_step {underway : Option Open} (sound : ∀ definition ∈ underway, definition.IsSound)
    {word : Text} (isWord : Text.IsWord word) :
    (∀ operand ∈ (step underway word).1, operand.IsSound) ∧
      ∀ still ∈ (step underway word).2, still.IsSound := by
  cases underway with
  | some definition => exact isSound_settle ((sound definition rfl).absorb isWord)
  | none =>
    rcases isSound_ofWord isWord with ⟨complete, opened⟩
    unfold step
    dsimp only
    split
    next operand same => simpa using complete operand same
    next definition same => exact isSound_settle (opened definition same)

theorem isSound_of_mem_ofWordsFrom {words : List Text} (areWords : ∀ word ∈ words, Text.IsWord word)
    {underway : Option Open} (sound : ∀ definition ∈ underway, definition.IsSound) :
    ∀ operand ∈ ofWordsFrom underway words, operand.IsSound := by
  induction words generalizing underway with
  | nil =>
    intro operand member
    cases underway with
    | none => simp [ofWordsFrom] at member
    | some definition =>
      have same : operand = definition.finish := by simpa [ofWordsFrom] using member
      exact same ▸ (sound definition rfl).finish
  | cons word rest induction =>
    rcases List.forall_mem_cons.mp areWords with ⟨isWord, areWordsRest⟩
    rcases isSound_step sound isWord with ⟨complete, still⟩
    intro operand member
    rcases List.mem_append.mp member with here | later
    · exact complete operand here
    · exact induction areWordsRest still operand later

theorem isSound_of_mem_ofWords {words : List Text} (areWords : ∀ word ∈ words, Text.IsWord word) :
    ∀ operand ∈ ofWords words, operand.IsSound :=
  isSound_of_mem_ofWordsFrom areWords (by simp)

end Operand

end Aliases

/-! ## Sessions -/

namespace Session

/-- What a process can leave as its status. -/
def IsStatus (status : Int) : Prop :=
  0 ≤ status ∧ status ≤ 255

structure IsSound (session : Session) : Prop where
  status : IsStatus session.status
  exitRequest : ∀ code ∈ session.exitRequest, IsStatus code
  names : ∀ name ∈ session.environment.keys, name ≠ [] ∧ '=' ∉ name
  aliases : ∀ name value, (name, value) ∈ session.aliases.entries →
    Aliases.IsName name ∧ Aliases.IsValue value

theorem isStatus_exitStatus (status : Int) : IsStatus (exitStatus status) := by
  unfold IsStatus exitStatus
  omega

theorem isSound_ofEnvironment {environment : Environment}
    (names : ∀ name ∈ environment.keys, name ≠ [] ∧ '=' ∉ name) (arguments : List Text)
    (processId : Nat) : (ofEnvironment environment arguments processId).IsSound where
  status := ⟨Int.le_refl 0, (by decide : (0 : Int) ≤ 255)⟩
  exitRequest := by simp [ofEnvironment]
  names := names
  aliases := by simp [ofEnvironment, Store.empty]

theorem IsSound.setVariable {session : Session} (sound : session.IsSound) {name : Text}
    (inhabited : name ≠ []) (unsigned : '=' ∉ name) (value : Text) :
    IsSound { session with environment := session.environment.set name value } := by
  refine ⟨sound.status, sound.exitRequest, ?_, sound.aliases⟩
  intro other member
  rw [Store.keys_set] at member
  split at member
  · exact sound.names other member
  · rcases List.mem_append.mp member with old | new
    · exact sound.names other old
    · exact List.mem_singleton.mp new ▸ ⟨inhabited, unsigned⟩

theorem IsSound.unsetVariable {session : Session} (sound : session.IsSound) (name : Text) :
    IsSound { session with environment := session.environment.unset name } := by
  refine ⟨sound.status, sound.exitRequest, ?_, sound.aliases⟩
  intro other member
  rw [Store.keys_unset] at member
  exact sound.names other (List.mem_of_mem_filter member)

theorem IsSound.defineAlias {session : Session} (sound : session.IsSound) {name value : Text}
    (isName : Aliases.IsName name) (isValue : Aliases.IsValue value) :
    IsSound { session with aliases := session.aliases.set name value } := by
  refine ⟨sound.status, sound.exitRequest, sound.names, ?_⟩
  intro other stored member
  rcases Store.mem_entries_set member with new | old
  · cases new
    exact ⟨isName, isValue⟩
  · exact sound.aliases other stored old

theorem IsSound.arrive {session : Session} (sound : session.IsSound) (departure : Option Text)
    (arrival : Text) : IsSound (Shell.arrive session departure arrival) := by
  have previous : Shell.previousName ≠ [] ∧ '=' ∉ Shell.previousName := by decide
  have directory : Shell.directoryName ≠ [] ∧ '=' ∉ Shell.directoryName := by decide
  unfold Shell.arrive
  cases departure with
  | none => exact sound.setVariable directory.1 directory.2 arrival
  | some departed =>
    have left := sound.setVariable previous.1 previous.2 departed
    have noted : IsSound
        { session with
          environment := session.environment.set Shell.previousName departed
          previousDirectory := some departed } :=
      ⟨left.status, left.exitRequest, left.names, left.aliases⟩
    exact noted.setVariable directory.1 directory.2 arrival

end Session

namespace Shell

theorem isVariableName_iff (name : Text) :
    isVariableName name = true ↔ name ≠ [] ∧ '=' ∉ name := by
  simp [isVariableName]

/-- The operands of `alias` are words of the segment. -/
theorem isWord_of_called {shell : Shell} {segment : Segment} {operands : List Text}
    (asked : shell.called segment = some (.aliases operands)) :
    ∀ word ∈ operands, Text.IsWord word := by
  rcases Option.map_eq_some_iff.mp asked with ⟨⟨builtin, others⟩, calls, asks⟩
  have words := wordsOf_of_dispatched calls
  intro word member
  apply Text.isWord_of_mem_words
  rw [← (Builtin.call_eq_aliases asks).2] at member
  rw [← wordsOf, words]
  exact List.mem_cons_of_mem _ member

theorem isSound_act {words : List Text} {call : Option Call} {left right : Shell}
    (areWords : ∀ operands, call = some (.aliases operands) →
      ∀ word ∈ operands, Text.IsWord word)
    (act : Act words call left right) (sound : left.session.IsSound) : right.session.IsSound := by
  cases act with
  | record => exact sound
  | write => exact sound
  | complain => exact { sound with }
  | setVariable value asked valid =>
    rcases (isVariableName_iff _).mp valid with ⟨inhabited, unsigned⟩
    exact sound.setVariable inhabited unsigned value
  | unsetVariable asked => exact sound.unsetVariable _
  | defineAlias asked among =>
    have isSound := Aliases.Operand.isSound_of_mem_ofWords (areWords _ asked) _ among
    exact sound.defineAlias isSound.1 isSound.2
  | arrive asked moved => exact sound.arrive _ _
  | start asked arguments environment started =>
    rw [recordRun_eq]
    exact sound

theorem isSound_acts {words : List Text} {call : Option Call} {left right : Shell}
    (areWords : ∀ operands, call = some (.aliases operands) →
      ∀ word ∈ operands, Text.IsWord word)
    (acts : Acts words call left right) (sound : left.session.IsSound) :
    right.session.IsSound := by
  induction acts with
  | refl => exact sound
  | tail _ act induction => exact isSound_act areWords act induction

theorem isSound_segment {shell : Shell} (sound : shell.session.IsSound) (segment : Segment) :
    (shell.segment segment).2.session.IsSound :=
  isSound_acts (fun _ => isWord_of_called) (acts_segment shell segment) sound

theorem isSound_conclude {shell : Shell} (sound : shell.session.IsSound) (outcome : Outcome) :
    (shell.conclude outcome).session.IsSound := by
  cases outcome with
  | status status =>
    exact ⟨Session.isStatus_exitStatus status, sound.exitRequest, sound.names, sound.aliases⟩
  | exit code =>
    refine ⟨Session.isStatus_exitStatus code, ?_, sound.names, sound.aliases⟩
    intro requested same
    cases same
    exact Session.isStatus_exitStatus code

theorem sessionInvariant_isSound : SessionInvariant fun shell => shell.session.IsSound where
  record := fun sound _ => sound
  segment := isSound_segment
  conclude := isSound_conclude
  write := fun sound _ _ => sound
  complain := fun sound => { sound with }
  remember := fun sound _ _ _ => { sound with }
  count := fun sound => { sound with }
  input := fun sound _ => sound
  surround := fun sound _ _ _ => sound

/-! ## Beginning and history -/

/-- Beginning gives a session at most another history. -/
theorem session_start (settings : Settings) (session : Session) (world : World)
    (console : Console) :
    (Shell.start settings session world console).session =
      { session with
        history := (Shell.start settings session world console).session.history } := by
  unfold Shell.start
  split
  · rfl
  · split <;> rfl

theorem isSound_start {environment : Environment}
    (names : ∀ name ∈ environment.keys, name ≠ [] ∧ '=' ∉ name) (arguments : List Text)
    (processId : Nat) (settings : Settings) (world : World) (console : Console) :
    (Shell.start settings (.ofEnvironment environment arguments processId) world
      console).session.IsSound := by
  rw [session_start]
  exact { Session.isSound_ofEnvironment names arguments processId with }

/-- A session that begins with sound names is sound for ever: whatever lines and sources it
is given, whatever becomes of the files and of its output, and whether commands succeed or
fail in it. -/
theorem reached_isSound {settings : Settings} {environment : Environment}
    (names : ∀ name ∈ environment.keys, name ≠ [] ∧ '=' ∉ name) (arguments : List Text)
    (processId : Nat) (world : World) (console : Console) {shell : Shell}
    (reached : Reached
      (Shell.start settings (.ofEnvironment environment arguments processId) world console)
      shell) :
    shell.session.IsSound ∧
      shell.session.environment.keys.Nodup ∧
      shell.session.aliases.keys.Nodup ∧
      shell.session.history.entries =
        (List.range' 1 shell.session.history.texts.length).zip shell.session.history.texts ∧
      shell.session.history.nextNumber = shell.session.history.texts.length + 1 ∧
      ∀ text, (shell.session.history.push text).entries =
        shell.session.history.entries ++ [(shell.session.history.nextNumber, text)] := by
  have begun := isSound_start names arguments processId settings world console
  exact ⟨sessionInvariant_isSound.reached begun reached, shell.session.environment.distinct,
    shell.session.aliases.distinct, shell.session.history.entries_eq_zip,
    shell.session.history.nextNumber_eq, shell.session.history.entries_push⟩

/-- A definition over several words, a bad name and a number too large for a status. -/
theorem reached_isSound_of_alias :
    let environment : Environment := Store.ofList [(Text.ofString "A", Text.ofString "b=c")]
    let begun :=
      Shell.start { mode := .standardInput } (.ofEnvironment environment [] 7)
        { files := .empty } {}
    let line := Text.ofString "alias ll=\"ls   -l\" x='a ; setenv B=c || exit 300"
    let shell := Operation.perform begun (.run (.listed [.interrupt, .line line]))
    (∀ name ∈ environment.keys, name ≠ [] ∧ '=' ∉ name) ∧
      shell.session.aliases.entries =
        [(Text.ofString "ll", Text.ofString "ls -l"), (Text.ofString "x", Text.ofString "a")] ∧
      shell.session.environment.keys = [Text.ofString "A"] ∧
      shell.session.exitRequest = some 44 ∧
      shell.session.history.entries = [(1, line)] ∧
      shell.session.IsSound := by
  intro environment begun line shell
  have names : ∀ name ∈ environment.keys, name ≠ [] ∧ '=' ∉ name := by decide +kernel
  have reached : Reached begun shell :=
    .perform .start (.run (.listed [.interrupt, .line line]))
  have sound := reached_isSound names [] 7 { files := .empty } {} reached
  exact ⟨names, by decide +kernel, by decide +kernel, by decide +kernel, by decide +kernel,
    sound.1⟩

end Shell

end CommandShell
