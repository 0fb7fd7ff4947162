import CommandShell.Proofs.Spelling

namespace CommandShell

/-! A line can be split in one pass. Its lexemes are taken one by one, and what is kept
on the way is the stretch so far with its first stray sign, the last operator, and the
commands that have ended. The stray sign of each command is known when it ends, and the
pass comes to what the stretches of the line come to. -/

namespace Segment

theorem find?_isStray_of_isAllBlank {blanks : Text} (blank : Text.isAllBlank blanks = true) :
    blanks.find? isStray = none := by
  rw [List.find?_eq_none]
  intro sign member stray
  rw [(Chain.isBlank_apart (List.all_eq_true.mp blank sign member)).1] at stray
  exact Bool.false_ne_true stray

/-- Blanks around a text hold no stray sign. -/
theorem find?_isStray_trim (text : Text) :
    (Text.trim text).find? isStray = text.find? isStray := by
  rcases Text.exists_trim_eq text with ⟨before, after, blankBefore, blankAfter, whole⟩
  have parts := congrArg (List.find? isStray) whole
  rw [List.find?_append, List.find?_append, find?_isStray_of_isAllBlank blankBefore,
    find?_isStray_of_isAllBlank blankAfter, Option.none_or, Option.or_none] at parts
  exact parts.symm

end Segment

namespace Chain

/-- What is kept of the lexemes that have been taken. -/
structure Scan where
  stretch : Text := []
  stray : Option Char := none
  operator : Option Operator := none
  /-- The commands that have ended, with the stray sign of each. -/
  entries : List (Segment × Option Char) := []

namespace Scan

def commands (scan : Scan) : Chain :=
  scan.entries.map Prod.fst

/-- Ends the stretch. One that is blank holds no command. -/
def flush (scan : Scan) : Scan :=
  { scan with
    stretch := []
    stray := none
    entries :=
      if Text.isAllBlank scan.stretch then scan.entries
      else
        let operator := if scan.entries.isEmpty then none else scan.operator
        scan.entries ++ [(⟨operator, Text.trim scan.stretch⟩, scan.stray)] }

def step (scan : Scan) : Lexeme → Scan
  | .character sign =>
    { scan with
      stretch := scan.stretch ++ [sign]
      stray := scan.stray.or (if Segment.isStray sign then some sign else none) }
  | .operator joint => { scan.flush with operator := some joint }

def run (scan : Scan) (lexemes : List Lexeme) : Scan :=
  lexemes.foldl step scan

/-- What the scan comes to where the line ends. -/
def result (scan : Scan) : Except Operator (List (Segment × Option Char)) :=
  match scan.operator with
  | some operator =>
    if Text.isAllBlank scan.stretch then .error operator else .ok scan.flush.entries
  | none => .ok scan.flush.entries

@[simp]
theorem run_nil (scan : Scan) : scan.run [] = scan := rfl

@[simp]
theorem run_cons (scan : Scan) (lexeme : Lexeme) (rest : List Lexeme) :
    scan.run (lexeme :: rest) = (scan.step lexeme).run rest :=
  rfl

theorem entries_flush_of_isAllBlank {scan : Scan} (blank : Text.isAllBlank scan.stretch = true) :
    scan.flush.entries = scan.entries := by
  rw [flush, if_pos blank]

theorem entries_flush {scan : Scan} (filled : ¬Text.isAllBlank scan.stretch = true) :
    scan.flush.entries = scan.entries ++
      [(⟨if scan.entries.isEmpty then none else scan.operator, Text.trim scan.stretch⟩,
        scan.stray)] := by
  rw [flush, if_neg filled]

/-! ## What every step keeps -/

structure IsSound (scan : Scan) : Prop where
  /-- The stray sign is the first one of the stretch. -/
  stray : scan.stray = scan.stretch.find? Segment.isStray
  /-- Each command is kept with its own. -/
  strays : ∀ entry ∈ scan.entries, entry.2 = entry.1.stray?
  /-- The first command has no operator. -/
  first : leading scan.commands = scan.commands

theorem isSound_empty : IsSound {} :=
  ⟨rfl, fun _ member => absurd member List.not_mem_nil, rfl⟩

theorem IsSound.flush {scan : Scan} (sound : scan.IsSound) : scan.flush.IsSound := by
  by_cases blank : Text.isAllBlank scan.stretch = true
  · refine ⟨rfl, ?_, ?_⟩
    · rw [entries_flush_of_isAllBlank blank]
      exact sound.strays
    · rw [commands, entries_flush_of_isAllBlank blank]
      exact sound.first
  · refine ⟨rfl, ?_, ?_⟩
    · intro entry member
      rw [entries_flush blank] at member
      rcases List.mem_append.mp member with earlier | last
      · exact sound.strays entry earlier
      · rw [List.mem_singleton.mp last, Segment.stray?, Segment.find?_isStray_trim]
        exact sound.stray
    · rw [commands, entries_flush blank]
      cases ended : scan.entries with
      | nil => rfl
      | cons entry rest =>
        have first := sound.first
        rw [commands, ended] at first
        rw [List.map_append, leading_append (by simp [leading]), first]

theorem IsSound.step {scan : Scan} (sound : scan.IsSound) (lexeme : Lexeme) :
    (scan.step lexeme).IsSound := by
  cases lexeme with
  | character sign =>
    refine ⟨?_, sound.strays, sound.first⟩
    rw [Scan.step, sound.stray, List.find?_append]
    cases stray : Segment.isStray sign <;> simp [stray]
  | operator joint => exact ⟨sound.flush.stray, sound.flush.strays, sound.flush.first⟩

theorem IsSound.run {scan : Scan} (sound : scan.IsSound) (lexemes : List Lexeme) :
    (scan.run lexemes).IsSound := by
  induction lexemes generalizing scan with
  | nil => exact sound
  | cons lexeme rest induction => exact induction (sound.step lexeme)

theorem IsSound.entries_eq {scan : Scan} (sound : scan.IsSound) :
    scan.entries = scan.commands.map fun segment => (segment, segment.stray?) := by
  rw [commands, List.map_map]
  refine (List.map_id _).symm.trans (List.map_congr_left fun entry member => ?_)
  exact Prod.ext rfl (sound.strays entry member)

/-! ## What a scan finds -/

/-- The commands that the scan is to find when it goes on through the stretches. -/
def ahead (scan : Scan) (stretches : Stretches) : Chain :=
  ⟨scan.operator, Text.trim (scan.stretch ++ stretches.first)⟩ :: stretches.others.map command

theorem leading_leading_append (first second : Chain) :
    leading (leading first ++ second) = leading (first ++ second) := by
  cases first <;> rfl

theorem leading_commands_flush (scan : Scan) :
    leading scan.flush.commands = leading
      (scan.commands ++ [⟨scan.operator, Text.trim scan.stretch⟩].filter isInhabited) := by
  rw [List.filter_cons, List.filter_nil, Stretches.isInhabited_trim, isFilled]
  by_cases blank : Text.isAllBlank scan.stretch = true
  · simp [commands, entries_flush_of_isAllBlank blank, blank]
  · rw [commands, entries_flush blank]
    cases entries : scan.entries <;> simp [commands, entries, blank, leading]

theorem leading_commands_run (scan : Scan) (lexemes : List Lexeme) :
    leading (scan.run lexemes).flush.commands =
      leading (scan.commands ++ (scan.ahead (.ofLexemes lexemes)).filter isInhabited) := by
  induction lexemes generalizing scan with
  | nil => simpa [ahead, Stretches.ofLexemes] using scan.leading_commands_flush
  | cons lexeme rest induction =>
    rw [run_cons, induction]
    cases lexeme with
    | character sign => simp [step, ahead, commands, Stretches.ofLexemes]
    | operator joint =>
      have ended : (scan.step (.operator joint)).commands = scan.flush.commands := rfl
      rw [ended, ← leading_leading_append, leading_commands_flush, leading_leading_append,
        List.append_assoc, ← List.filter_append]
      simp [step, ahead, flush, command, Stretches.ofLexemes]

/-- The scan ends in the last stretch, behind the last operator. -/
theorem standing_run (scan : Scan) (lexemes : List Lexeme) :
    ((scan.run lexemes).operator, (scan.run lexemes).stretch) =
      match (Stretches.ofLexemes lexemes).others.getLast? with
      | none => (scan.operator, scan.stretch ++ (Stretches.ofLexemes lexemes).first)
      | some other => (some other.1, other.2) := by
  induction lexemes generalizing scan with
  | nil => simp [Stretches.ofLexemes]
  | cons lexeme rest induction =>
    rw [run_cons, induction]
    cases lexeme with
    | character sign => simp [step, Stretches.ofLexemes]
    | operator joint =>
      simp only [Stretches.ofLexemes, List.getLast?_cons]
      cases (Stretches.ofLexemes rest).others.getLast? <;> simp [step, flush]

end Scan

/-- What one pass over the line has kept at its end or its comment. -/
def scan (line : Text) : Scan :=
  Scan.run {} (lexemes (beforeComment line))

theorem entries_flush_scan (line : Text) :
    (scan line).flush.entries =
      (stretches line).segments.map fun segment => (segment, segment.stray?) := by
  have sound : (scan line).flush.IsSound := (Scan.isSound_empty.run _).flush
  have found := Scan.leading_commands_run {} (lexemes (beforeComment line))
  rw [sound.entries_eq, ← sound.first, Stretches.segments_eq_leading]
  exact congrArg _ found

/-- One pass over a line finds its commands, the stray sign of each, and the operator at
its end that lacks a command. -/
theorem result_scan (line : Text) :
    (scan line).result =
      (ofLine line).map (List.map fun segment => (segment, segment.stray?)) := by
  have standing : ((scan line).operator, (scan line).stretch) =
      match (stretches line).others.getLast? with
      | none => (none, (stretches line).first)
      | some other => (some other.1, other.2) :=
    Scan.standing_run {} (lexemes (beforeComment line))
  rw [Scan.result, entries_flush_scan, ofLine, Stretches.dangling?]
  cases last : (stretches line).others.getLast? with
  | none =>
    rw [last] at standing
    rw [(Prod.mk.inj standing).1]
    rfl
  | some other =>
    rw [last] at standing
    rw [(Prod.mk.inj standing).1, (Prod.mk.inj standing).2]
    dsimp only
    split <;> rfl

end Chain

end CommandShell
