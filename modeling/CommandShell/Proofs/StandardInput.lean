import CommandShell.Proofs.InputLines
import CommandShell.Proofs.Submissions

namespace CommandShell

/-! The shell reads lines from a standard input that its programs read as well. What the
shell has fetched is out of their reach, and what they have taken is out of the shell's, so
that a program can take the end of a line whose beginning the shell has fetched. -/

/-! ## What programs take -/

namespace Program

/-- A program leaves the standard input as it is or takes all of it. -/
theorem input_run (program : Program) (surroundings : Surroundings) :
    (program.run surroundings).input = surroundings.input ∨
      (program.run surroundings).input = [] := by
  induction program generalizing surroundings with
  | nil => exact .inl rfl
  | cons action rest induction =>
    cases action with
    | copyInput =>
      right
      rcases induction { surroundings with input := [] } with same | none
      · exact same
      · exact none
    | exit code => exact .inl rfl
    | die signal => exact .inl rfl
    | _ => exact induction surroundings

end Program

namespace Shell

theorem Act.input {words : List Text} {call : Option Call} {left right : Shell}
    (act : Act words call left right) :
    right.world.input = left.world.input ∨ right.world.input = [] := by
  cases act with
  | arrive asked moved =>
    rcases (World.changeDirectory_eq_ok_iff _ _ _).mp moved with ⟨place, _, rfl⟩
    exact .inl rfl
  | @start _ run _ asked arguments environment started =>
    rcases World.start_eq_ok started with ⟨_, program, _, _, _, rfl, rfl⟩
    rw [recordRun_eq]
    exact program.input_run _
  | _ => exact .inl rfl

theorem Acts.input {words : List Text} {call : Option Call} {left right : Shell}
    (acts : Acts words call left right) :
    right.world.input = left.world.input ∨ right.world.input = [] := by
  induction acts with
  | refl => exact .inl rfl
  | tail _ act induction =>
    rcases act.input with same | none
    · rw [same]
      exact induction
    · exact .inr none

theorem chainInvariant_input (input : List Bytes) :
    ChainInvariant fun shell => shell.world.input = input ∨ shell.world.input = [] where
  record := fun kept _ => kept
  segment := by
    intro shell kept segment
    rcases (acts_segment shell segment).input with same | none
    · rw [same]
      exact kept
    · exact .inr none
  conclude := by
    intro shell kept outcome
    cases outcome <;> exact kept

theorem input_submit (shell : Shell) (line : Text) :
    (shell.submit line).2.world.input = shell.world.input ∨
      (shell.submit line).2.world.input = [] := by
  cases split : Chain.ofLine line with
  | error operator =>
    have rejected : (shell.submit line).2.withoutDetails = _ := (submit_rejected split).2
    have worlds := congrArg (fun shell => shell.world.input) rejected
    exact .inl worlds
  | ok segments =>
    cases segments with
    | nil =>
      have empty : (shell.submit line).2.withoutDetails = _ := (submit_empty split).2
      have worlds := congrArg (fun shell => shell.world.input) empty
      exact .inl worlds
    | cons first rest =>
      rw [submit_chain split (List.cons_ne_nil first rest)]
      have begun : (shell.begin line (first :: rest)).world.input = shell.world.input := rfl
      exact ((chainInvariant_input shell.world.input).chain (.inl begun) (first :: rest)).1

end Shell

/-- What the standard input no longer holds when a line has been executed. -/
def Submission.taken (submission : Submission) : Bytes :=
  let before := submission.before.world.input.flatten
  before.take (before.length - submission.after.world.input.flatten.length)

/-- The programs of a line take nothing of the standard input, or all that it holds. -/
theorem Submission.taken_or (submission : Submission) :
    submission.taken = [] ∨ submission.after.world.input = [] := by
  rcases Shell.input_submit submission.before submission.line with same | none
  · left
    rw [taken, after, same, Nat.sub_self, List.take_zero]
  · exact .inr none

theorem Submission.taken_append (submission : Submission) :
    submission.before.world.input.flatten =
      submission.taken ++ submission.after.world.input.flatten := by
  rw [taken]
  rcases Shell.input_submit submission.before submission.line with same | none
  · rw [after, same, Nat.sub_self, List.take_zero, List.nil_append]
  · rw [after, none, List.flatten_nil, List.length_nil, Nat.sub_zero, List.take_length,
      List.append_nil]

namespace Shell

/-- What the standard input no longer holds when a reading has been taken. -/
def takenAfter (shell : Shell) (reading : Reading) : Bytes :=
  ((shell.submission? reading).map Submission.taken).getD []

theorem input_take (shell : Shell) (reading : Reading) :
    shell.world.input.flatten =
        shell.takenAfter reading ++ (shell.take reading).2.world.input.flatten ∧
      ((shell.take reading).2.world.input = shell.world.input ∨
        (shell.take reading).2.world.input = []) := by
  have unread : ∀ other : Shell, other.world = shell.world →
      shell.world.input.flatten = [] ++ other.breakLine.world.input.flatten ∧
        (other.breakLine.world.input = shell.world.input ∨ other.breakLine.world.input = []) := by
    intro other same
    have worlds := congrArg (fun shell => shell.world) (besideConsole_breakLine other)
    have kept : other.breakLine.world = shell.world := Eq.trans worlds same
    rw [kept]
    exact ⟨rfl, .inl rfl⟩
  cases reading with
  | line line =>
    have accepted : (shell.accept line).world = shell.world := by
      rw [accept]
      split <;> rfl
    have parts := Submission.taken_append ⟨line, shell.accept line⟩
    have submitted := input_submit (shell.accept line) line
    rw [accepted] at parts submitted
    rw [RunInvariant.take_line]
    exact ⟨parts, submitted⟩
  | interrupt => exact unread shell rfl
  | endOfInput => exact unread shell rfl
  | failure message => exact unread (shell.warn _) rfl

namespace Hearing

def bytes? (hearing : Hearing) : Option Bytes :=
  hearing.reader.nextBytes?

def taken (hearing : Hearing) : Bytes :=
  hearing.shell.takenAfter hearing.reading

/-- Where the bytes are not typed, the line that is handed over for execution is their
text. -/
theorem line_submission? {hearing : Hearing} (lossy : hearing.reader.decoding = .lossy) :
    hearing.submission?.map Submission.line = hearing.bytes?.map LineReader.textOf := by
  rw [submission?, reading, LineReader.next_fst, bytes?, lossy]
  cases hearing.reader.nextBytes? with
  | some bytes => rfl
  | none => cases hearing.reader.ending <;> rfl

end Hearing

/-! ## What a run hears -/

/-- A run has heard these lines of what the reader has fetched, and this is left of the
input. What does not end in a line feed is only taken for a line at the end of the input. -/
structure Hears (fetched : Bytes) (heard : List Bytes) (left : Bytes) : Prop where
  lines : heard <+: LineReader.lines fetched
  drained : heard = LineReader.lines fetched → ¬ LineReader.EndsLine fetched → left = []

theorem hears_nothing (fetched left : Bytes) : Hears fetched [] left where
  lines := List.nil_prefix
  drained := by
    intro none unfinished
    have empty := (LineReader.lines_eq_nil_iff fetched).mp none.symm
    exact absurd (.inl empty) unfinished

theorem Hears.line {line fetched left : Bytes} {heard : List Bytes}
    (free : LineReader.lineFeed ∉ line) (hears : Hears fetched heard left) :
    Hears (line ++ LineReader.lineFeed :: fetched) (line :: heard) left where
  lines := by
    rw [LineReader.lines_append_lineFeed free, List.cons_prefix_cons]
    exact ⟨rfl, hears.lines⟩
  drained := by
    rw [LineReader.lines_append_lineFeed free, LineReader.endsLine_append_lineFeed,
      List.cons_eq_cons]
    exact fun all => hears.drained all.2

/-- The last line of an input, which has no line feed. -/
def lastLine (rest : Bytes) : Option Bytes :=
  if rest.isEmpty then none else some rest

theorem hears_lastLine {rest : Bytes} (free : LineReader.lineFeed ∉ rest) :
    Hears rest (lastLine rest).toList [] where
  lines := by
    by_cases empty : rest = []
    · simp [lastLine, empty]
    · rw [LineReader.lines_of_not_mem free empty]
      simp [lastLine, empty]
  drained := fun _ _ => rfl

/-- Of an input behind a buffer the reader fetches what comes first, and programs take from
the rest. -/
def UsesUp (buffer : Bytes) (input : List Bytes) (heard : List Bytes) (taken left : Bytes) :
    Prop :=
  ∃ used unused, input = used ++ unused ∧ unused.flatten = taken ++ left ∧
    Hears (buffer ++ used.flatten) heard left

namespace UsesUp

variable {buffer behind taken left : Bytes} {input heard : List Bytes}

theorem nothing (buffer : Bytes) (input : List Bytes) :
    UsesUp buffer input [] [] input.flatten :=
  ⟨[], input, rfl, rfl, hears_nothing _ _⟩

theorem eq_nil (uses : UsesUp [] [] heard taken left) : heard = [] ∧ taken = [] ∧ left = [] := by
  rcases uses with ⟨used, unused, parts, counted, hears⟩
  rcases List.append_eq_nil_iff.mp parts.symm with ⟨rfl, rfl⟩
  rcases List.append_eq_nil_iff.mp counted.symm with ⟨rfl, rfl⟩
  exact ⟨List.prefix_nil.mp hears.lines, rfl, rfl⟩

/-- After a line either all is left that the reader has not fetched, or nothing. -/
theorem line {line takenHere : Bytes} {used unused later : List Bytes}
    (free : LineReader.lineFeed ∉ line)
    (fetched : buffer ++ used.flatten = line ++ LineReader.lineFeed :: behind)
    (parts : unused.flatten = takenHere ++ later.flatten) (after : later = unused ∨ later = [])
    (uses : UsesUp behind later heard taken left) :
    UsesUp buffer (used ++ unused) (line :: heard) (takenHere ++ taken) left := by
  rcases uses with ⟨usedLater, unusedLater, rfl, counted, hears⟩
  rcases after with same | none
  · rw [← same, List.self_eq_append_left] at parts
    refine ⟨used ++ usedLater, unusedLater, ?_, ?_, ?_⟩
    · rw [← same, List.append_assoc]
    · rw [parts, List.nil_append, counted]
    · rw [List.flatten_append, ← List.append_assoc, fetched, List.append_assoc, List.cons_append]
      exact hears.line free
  · rcases List.append_eq_nil_iff.mp none with ⟨rfl, rfl⟩
    refine ⟨used, unused, rfl, ?_, ?_⟩
    · rw [parts, none, List.append_assoc, ← counted]
    · rw [List.flatten_nil, List.append_nil] at hears
      rw [fetched]
      exact hears.line free

theorem last (free : LineReader.lineFeed ∉ buffer ++ input.flatten)
    (uses : UsesUp [] [] heard taken left) :
    UsesUp buffer input ((lastLine (buffer ++ input.flatten)).toList ++ heard) taken left := by
  rcases uses.eq_nil with ⟨rfl, rfl, rfl⟩
  rw [List.append_nil]
  exact ⟨input, [], (List.append_nil input).symm, rfl, hears_lastLine free⟩

end UsesUp

theorem deliveries_hear (shell : Shell) (reader : LineReader) :
    (shell.hear reader).reader = { reader with deliveries := shell.world.input } ∧
      (shell.hear reader).shell.world.input = (shell.hear reader).onward.deliveries := by
  have world := congrArg (fun shell => shell.world) (invite_eq shell).1
  have invited : shell.invite.world = shell.world := world
  rw [hear, invited]
  exact ⟨rfl, rfl⟩

theorem decoding_of_mem_hearings {limit : Nat} {reader : LineReader} {shell : Shell} :
    ∀ hearing ∈ hearings limit reader shell, hearing.reader.decoding = reader.decoding := by
  induction limit generalizing reader shell with
  | zero => simp [hearings]
  | succ limit induction =>
    intro hearing member
    have readers := (deliveries_hear shell reader).1
    rcases List.mem_cons.mp member with rfl | later
    · rw [readers]
    · split at later
      · cases later
      · rw [induction hearing later, Hearing.onward, LineReader.decoding_next, readers]

section

variable {reader : LineReader}

theorem onward_hear (finished : reader.ending = .finished) (shell : Shell) :
    (shell.hear reader).onward.ending = .finished := by
  rw [Hearing.onward, LineReader.ending_next, (deliveries_hear shell reader).1]
  exact finished

theorem hear_cases (finished : reader.ending = .finished) (shell : Shell) :
    let hearing := shell.hear reader
    (∃ line used, LineReader.lineFeed ∉ line ∧ hearing.bytes? = some line ∧
        shell.world.input = used ++ hearing.shell.world.input ∧
        reader.buffer ++ used.flatten = line ++ LineReader.lineFeed :: hearing.onward.buffer) ∨
      let rest := reader.buffer ++ shell.world.input.flatten
      LineReader.lineFeed ∉ rest ∧
        hearing.bytes? = lastLine rest ∧
        hearing.shell.world.input = [] ∧ hearing.onward.buffer = [] := by
  intro hearing
  rcases deliveries_hear shell reader with ⟨readers, offered⟩
  have ending : hearing.reader.ending = .finished := by
    rw [readers]
    exact finished
  have cases := LineReader.next_cases ending
  rw [Hearing.bytes?, offered, Hearing.onward]
  rw [LineReader.remaining, readers] at cases
  rw [readers]
  exact cases

theorem usesUp_takeInput (limit : Nat) (finished : reader.ending = .finished) (shell : Shell) :
    UsesUp reader.buffer shell.world.input
      ((hearings limit reader shell).filterMap Hearing.bytes?)
      ((hearings limit reader shell).flatMap Hearing.taken)
      (takeInput limit reader shell).world.input.flatten := by
  induction limit generalizing reader shell with
  | zero => exact .nothing reader.buffer shell.world.input
  | succ limit induction =>
    let hearing := shell.hear reader
    let others := if hearing.isLast then [] else hearings limit hearing.onward hearing.after
    let last := if hearing.isLast then hearing.after else takeInput limit hearing.onward hearing.after
    have onward : UsesUp hearing.onward.buffer hearing.after.world.input
        (others.filterMap Hearing.bytes?) (others.flatMap Hearing.taken)
        last.world.input.flatten := by
      cases ends : hearing.isLast with
      | true =>
        simp only [others, last, ends, if_true]
        exact .nothing _ _
      | false =>
        simp only [others, last, ends]
        exact induction (onward_hear finished shell) hearing.after
    have ran : takeInput (limit + 1) reader shell = last := takeInput_succ limit reader shell
    have heard : hearings (limit + 1) reader shell = hearing :: others := rfl
    rcases input_take hearing.shell hearing.reading with ⟨parts, after⟩
    have lines : (hearing :: others).filterMap Hearing.bytes? =
        hearing.bytes?.toList ++ others.filterMap Hearing.bytes? := by
      cases bytes : hearing.bytes? <;> simp [bytes]
    rw [ran, heard, lines, List.flatMap_cons]
    rcases hear_cases finished shell with
      ⟨line, used, free, bytes, input, fetched⟩ | ⟨free, bytes, drained, emptied⟩
    · rw [input, bytes]
      exact onward.line free fetched parts after
    · have none : hearing.after.world.input = [] := by
        rcases after with same | none
        · exact same.trans drained
        · exact none
      have untouched : hearing.taken = [] := by
        have nothing := congrArg List.flatten drained
        exact (List.append_eq_nil_iff.mp (parts.symm.trans nothing)).1
      have behind : hearing.onward.buffer = [] := emptied
      rw [none, behind] at onward
      rw [bytes, untouched]
      exact onward.last free

end

end Shell

end CommandShell
