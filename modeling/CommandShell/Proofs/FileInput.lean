import CommandShell.Proofs.StandardInput

namespace CommandShell.Shell

/-! A file as standard input. The shell's reader fetches it block by block, and a program
that reads it takes what comes behind the last block that has been fetched. Where that is
within a line, the shell executes the beginning of the line. -/

/-! ## What is heard of a file -/

/-- The lines that a run over the standard input executes, as they stand in the input. -/
def linesHeard (shell : Shell) (decoding : LineReader.Decoding) : List Bytes :=
  (hearings (shell.world.input.flatten.length + 1) ⟨[], [], .finished, decoding⟩ shell).filterMap
    Hearing.bytes?

/-- What programs take of the standard input during a run. -/
def inputTaken (shell : Shell) (source : Source) : Bytes :=
  (shell.submissions source).flatMap Submission.taken

theorem flatMap_taken (hearings : List Hearing) :
    hearings.flatMap Hearing.taken =
      (hearings.filterMap Hearing.submission?).flatMap Submission.taken := by
  induction hearings with
  | nil => rfl
  | cons hearing rest induction =>
    rw [List.flatMap_cons, induction, Hearing.taken, takenAfter, ← Hearing.submission?]
    cases submission : hearing.submission? <;> simp [submission]

theorem line_submissions (shell : Shell) :
    (shell.submissions (.standardInput .lossy)).map Submission.line =
      (shell.linesHeard .lossy).map LineReader.textOf := by
  rw [submissions, linesHeard, List.map_filterMap, List.map_filterMap]
  apply List.filterMap_congr
  intro hearing member
  exact Hearing.line_submission? (decoding_of_mem_hearings hearing member)

/-- A run over a file hears lines of the blocks that its reader has fetched before the first
program has taken the rest of the file. They are lines of the file, unless they are all
lines of these blocks and a program has taken the end of the last one. Programs here take
nothing of the input or all of it, since no action takes a part. -/
theorem linesHeard_of_file (shell : Shell) (content : Bytes) :
    let begun := shell.withInput (CommandLine.blocks content)
    let source := Source.standardInput .lossy
    let heard := begun.linesHeard .lossy
    let taken := begun.inputTaken source
    let left := (begun.drain source).world.input.flatten
    (∀ submission ∈ begun.submissions source,
      submission.taken = [] ∨ submission.after.world.input = []) ∧
    (begun.submissions source).map Submission.line = heard.map LineReader.textOf ∧
      heard.dropLast <+: LineReader.lines content ∧
      ∃ count, let fetched := content.take (count * CommandLine.blockSize)
        content = fetched ++ taken ++ left ∧
          heard <+: LineReader.lines fetched ∧
          (heard <+: LineReader.lines content ↔
            (heard = LineReader.lines fetched → LineReader.Apart fetched taken)) := by
  intro begun source heard taken left
  refine ⟨fun submission _ => submission.taken_or, line_submissions begun, ?_⟩
  have uses : UsesUp [] (CommandLine.blocks content) heard taken left := by
    have finished : (LineReader.mk [] [] .finished .lossy).ending = .finished := rfl
    have uses := usesUp_takeInput (begun.world.input.flatten.length + 1) finished begun
    rw [flatMap_taken] at uses
    exact uses
  rcases uses with ⟨used, unused, blocks, rest, hears⟩
  rcases CommandLine.flatten_of_blocks_eq_append blocks with ⟨front, back⟩
  rw [List.nil_append, front] at hears
  let fetched := content.take (used.length * CommandLine.blockSize)
  have parts : content = fetched ++ (taken ++ left) := by
    rw [← rest, back, List.take_append_drop]
  have allButLast : heard.dropLast <+: LineReader.lines content := by
    have known := (List.dropLast_prefix heard).trans hears.lines
    rw [parts, LineReader.isPrefix_lines_append_iff known]
    intro all
    have fewer := hears.lines.length_le
    rw [← all, List.length_dropLast] at fewer
    have none : heard = [] := List.length_eq_zero_iff.mp (by omega)
    rw [none] at all
    exact .inl (.inl ((LineReader.lines_eq_nil_iff fetched).mp all.symm))
  have apart : heard = LineReader.lines fetched →
      (LineReader.Apart fetched (taken ++ left) ↔ LineReader.Apart fetched taken) := by
    intro all
    by_cases ends : LineReader.EndsLine fetched
    · simp [LineReader.Apart, ends]
    · rw [hears.drained all ends, List.append_nil]
  refine ⟨allButLast, used.length, by rw [List.append_assoc, ← parts], hears.lines, ?_⟩
  rw [← imp_congr_right apart, ← LineReader.isPrefix_lines_append_iff hears.lines, ← parts]

/-! ## A program at the end of a block -/

theorem hear_of_fetch {reader : LineReader} {shell : Shell} {line behind : Bytes}
    {unused : List Bytes}
    (fetched : LineReader.fetch reader.buffer shell.world.input = some (line, behind, unused)) :
    (shell.hear reader).shell = shell.invite.withInput unused ∧
      (shell.hear reader).reading = reader.decoding.line line ∧
      (shell.hear reader).bytes? = some line ∧
      (shell.hear reader).onward = { reader with buffer := behind, deliveries := unused } := by
  have world := congrArg (fun shell => shell.world) (invite_eq shell).1
  have invited : shell.invite.world = shell.world := world
  refine ⟨?_, ?_, ?_, ?_⟩
  all_goals simp only [hear, invited, Hearing.reading, Hearing.bytes?, Hearing.onward,
    LineReader.next, LineReader.nextBytes?, fetched]

/-- The text of a line that begins with the sign for comments begins with it. -/
theorem textOf_comment (bytes : Bytes) :
    ∃ text, LineReader.textOf (0x23 :: bytes) = '#' :: text := by
  have kept : ∃ rest, LineReader.dropCarriageReturn (0x23 :: bytes) = 0x23 :: rest := by
    cases bytes with
    | nil => exact ⟨[], rfl⟩
    | cons first others =>
      rw [LineReader.dropCarriageReturn]
      split
      · exact ⟨(first :: others).dropLast, rfl⟩
      · exact ⟨first :: others, rfl⟩
  rcases kept with ⟨rest, same⟩
  rw [LineReader.textOf, same]
  exact ⟨Utf8.decodeFrom none rest, rfl⟩

theorem ofLine_comment (text : Text) : Chain.ofLine ('#' :: text) = .ok [] := rfl

/-- A comment leaves nothing behind but the number of its line. -/
theorem take_comment (shell : Shell) (text : Text) :
    shell.endsWith (.line ('#' :: text)) = false ∧
      (shell.take (.line ('#' :: text))).2.essence = shell.countLine.essence := by
  have empty := @submit_empty (shell.accept ('#' :: text)) _ (ofLine_comment text)
  have accepted : (shell.accept ('#' :: text)).essence = shell.countLine.essence := by
    rw [accept]
    split <;> rfl
  constructor
  · rw [endsWith, empty.1, Option.isSome_none]
  · have essences := congrArg essence empty.2
    rw [RunInvariant.take_line, ← accepted]
    exact essences

section

variable {reader : LineReader} {shell : Shell}

theorem invite_withInput (shell : Shell) (before after : List Bytes) :
    (shell.withInput before).invite.withInput after = shell.invite.withInput after := by
  have sinks : (shell.withInput before).console = shell.console := rfl
  rw [invite, invite, flush, flush, sinks]
  cases shell.console.flushFault? <;> rfl

theorem essence_invited (drained : shell.world.input = []) :
    (shell.invite.withInput []).essence = shell.essence := by
  have invited := congrArg (fun shell => shell.withInput []) (invite_eq shell).1
  have same : shell.withInput [] = shell := by
    rw [withInput, ← drained]
  exact invited.trans (congrArg essence same)

theorem hear_comment {behind rest : Bytes} (lossy : reader.decoding = .lossy)
    (drained : shell.world.input = []) (free : LineReader.lineFeed ∉ rest)
    (held : reader.buffer = (0x23 :: rest) ++ LineReader.lineFeed :: behind) :
    (shell.hear reader).isLast = false ∧ (shell.hear reader).bytes? = some (0x23 :: rest) ∧
      (shell.hear reader).onward = { reader with buffer := behind, deliveries := [] } ∧
      (shell.hear reader).after.essence = shell.countLine.essence := by
  have fetched : LineReader.fetch reader.buffer shell.world.input =
      some (0x23 :: rest, behind, []) := by
    rw [held, drained]
    apply LineReader.fetch_of_buffer
    rw [List.mem_cons, not_or]
    exact ⟨by decide, free⟩
  rcases hear_of_fetch fetched with ⟨begins, reading, bytes, onward⟩
  rcases textOf_comment rest with ⟨text, spelled⟩
  have commentReading : (shell.hear reader).reading = .line ('#' :: text) := by
    rw [reading, lossy, ← spelled]
    rfl
  rcases take_comment (shell.hear reader).shell text with ⟨idle, essence⟩
  rw [← commentReading] at idle essence
  refine ⟨idle, bytes, onward, ?_⟩
  have counted := congrArg countLine (essence_invited drained)
  rw [Hearing.after, essence, begins]
  exact counted

/-- What is left in the buffer when the input has been taken is heard as a line. -/
theorem hear_rest (lossy : reader.decoding = .lossy) (finished : reader.ending = .finished)
    (drained : shell.world.input = []) (free : LineReader.lineFeed ∉ reader.buffer)
    (filled : reader.buffer ≠ []) :
    (shell.hear reader).bytes? = some reader.buffer ∧
      (shell.hear reader).reading = .line (LineReader.textOf reader.buffer) ∧
      (shell.hear reader).shell.essence = shell.essence := by
  rcases deliveries_hear shell reader with ⟨readers, input⟩
  rcases hear_cases finished shell with ⟨line, used, _, _, parts, fetched⟩ | ⟨_, bytes, none, _⟩
  · rw [drained] at parts
    rcases List.append_eq_nil_iff.mp parts.symm with ⟨rfl, _⟩
    rw [List.flatten_nil, List.append_nil] at fetched
    rw [fetched] at free
    exact absurd (List.mem_append_right line List.mem_cons_self) free
  · have rest : reader.buffer ++ shell.world.input.flatten = reader.buffer := by
      rw [drained, List.flatten_nil, List.append_nil]
    have heard : (shell.hear reader).bytes? = some reader.buffer := by
      rw [bytes, rest, lastLine, if_neg (by simpa using filled)]
    refine ⟨heard, ?_, ?_⟩
    · rw [Hearing.reading, LineReader.next_fst, ← Hearing.bytes?, heard, readers, lossy]
      rfl
    · have begins : (shell.hear reader).shell =
          shell.invite.withInput (shell.hear reader).shell.world.input := rfl
      rw [begins, none]
      exact essence_invited drained

theorem hearings_succ (limit : Nat) (reader : LineReader) (shell : Shell) :
    hearings (limit + 1) reader shell =
      shell.hear reader ::
        if (shell.hear reader).isLast then []
        else hearings limit (shell.hear reader).onward (shell.hear reader).after := rfl

/-- The line behind a comment is executed as far as it is in the buffer. -/
theorem takeInput_of_comment {comment fragment : Bytes} {code : Int}
    (lossy : reader.decoding = .lossy) (finished : reader.ending = .finished)
    (drained : shell.world.input = []) (free : LineReader.lineFeed ∉ comment)
    (fragmentFree : LineReader.lineFeed ∉ fragment) (filled : fragment ≠ [])
    (held : reader.buffer = (0x23 :: comment) ++ LineReader.lineFeed :: fragment)
    (exits : (shell.countLine.essence.takeLine (LineReader.textOf fragment)).1 = some code)
    (limit : Nat) :
    (hearings (limit + 2) reader shell).filterMap Hearing.bytes? =
        [0x23 :: comment, fragment] ∧
      (takeInput (limit + 2) reader shell).session.exitRequest = some code := by
  rcases hear_comment lossy drained free held with ⟨goesOn, heardComment, onward, essence⟩
  rw [hearings_succ, takeInput_succ, goesOn, onward]
  generalize shell.hear reader = second at heardComment essence ⊢
  have emptied : second.after.world.input = [] := by
    have inputs := congrArg (fun shell => shell.world.input) essence
    exact inputs.trans drained
  rcases @hear_rest { reader with buffer := fragment, deliveries := [] } second.after lossy
    finished emptied fragmentFree filled with ⟨heardFragment, reading, same⟩
  rw [if_neg Bool.false_ne_true, if_neg Bool.false_ne_true, hearings_succ, takeInput_succ]
  generalize second.after.hear { reader with buffer := fragment, deliveries := [] } = third at *
  have answer : (third.shell.takeLine (LineReader.textOf fragment)).1 = some code := by
    rw [takeLine_eq, same, essence, exits]
  have ends : third.isLast = true := by
    have answered := congrArg Option.isSome answer
    rw [Hearing.isLast, reading]
    exact answered
  rw [ends, if_pos rfl, if_pos rfl, Hearing.after, reading, RunInvariant.take_line]
  constructor
  · simp [heardComment, heardFragment]
  · rw [(exitRequest_submit _ _).1, ← takeLine, answer, Option.some_or]

theorem code_of_takeInput {heard : List Bytes} {code : Int}
    (long : 2 ≤ shell.world.input.flatten.length)
    (ran : ∀ limit,
      (hearings (limit + 3) ⟨[], [], .finished, .lossy⟩ shell).filterMap Hearing.bytes? = heard ∧
        (takeInput (limit + 3) ⟨[], [], .finished, .lossy⟩ shell).session.exitRequest = some code) :
    shell.linesHeard .lossy = heard ∧ (shell.runOver (.standardInput .lossy)).1 = code := by
  have enough : shell.world.input.flatten.length + 1 =
      shell.world.input.flatten.length - 2 + 3 := by omega
  rcases ran (shell.world.input.flatten.length - 2) with ⟨heard, asked⟩
  rw [← enough] at heard asked
  refine ⟨heard, ?_⟩
  rw [runOver, result, session_close, drain, asked, Option.getD_some]

end

/-- A shell that finds a program that reads to the end of the input. -/
def besideReader : Shell :=
  let environment : Environment := .ofList [(Text.ofString "PATH", Text.ofString "/bin")]
  let world := World.put { files := .empty } (Text.ofString "/bin/cat") (.program [.copyInput])
  Shell.start { mode := .standardInput } (.ofEnvironment environment [] 7) world {}

/-- The program takes what the reader has not fetched. -/
theorem hear_reading_program (behind : Bytes) :
    let cat := Utf8.encode (Text.ofString "cat")
    let delivery := Utf8.encode (Text.ofString "4\n")
    let begun := besideReader.withInput [cat ++ LineReader.lineFeed :: behind, delivery]
    let hearing := begun.hear ⟨[], [], .finished, .lossy⟩
    hearing.isLast = false ∧ hearing.bytes? = some cat ∧
      hearing.onward = ⟨behind, [delivery], .finished, .lossy⟩ ∧
      hearing.after.world.input = [] ∧
      (hearing.after.countLine.essence.takeLine (Text.ofString "exit 3")).1 = some 3 := by
  intro cat delivery begun hearing
  have catFree : LineReader.lineFeed ∉ cat := by decide +kernel
  have fetched := LineReader.fetch_of_delivery catFree behind [delivery]
  rcases @hear_of_fetch ⟨[], [], .finished, .lossy⟩ begun _ _ _ fetched with
    ⟨shell, reading, bytes, onward⟩
  have offered : hearing.shell = besideReader.invite.withInput [delivery] :=
    shell.trans (invite_withInput besideReader _ [delivery])
  have line : hearing.reading = .line (Text.ofString "cat") := by
    rw [reading]
    exact congrArg Reading.line (by decide +kernel)
  refine ⟨?_, bytes, onward, ?_, ?_⟩
  · rw [Hearing.isLast, offered, line]
    decide +kernel
  · rw [Hearing.after, offered, line]
    decide +kernel
  · rw [Hearing.after, offered, line]
    decide +kernel

theorem takeInput_of_reading_program {comment rest : Bytes} (opens : comment = 0x23 :: rest)
    (free : LineReader.lineFeed ∉ rest) (limit : Nat) :
    let cat := Utf8.encode (Text.ofString "cat")
    let fragment := Utf8.encode (Text.ofString "exit 3")
    let begun := besideReader.withInput
      [cat ++ LineReader.lineFeed :: (comment ++ LineReader.lineFeed :: fragment),
        Utf8.encode (Text.ofString "4\n")]
    let reader : LineReader := ⟨[], [], .finished, .lossy⟩
    (hearings (limit + 3) reader begun).filterMap Hearing.bytes? = [cat, comment, fragment] ∧
      (takeInput (limit + 3) reader begun).session.exitRequest = some 3 := by
  intro cat fragment begun reader
  rcases hear_reading_program (comment ++ LineReader.lineFeed :: fragment) with
    ⟨goesOn, heardCat, onward, drained, exits⟩
  rw [hearings_succ, takeInput_succ, goesOn, onward]
  generalize begun.hear reader = first at goesOn heardCat drained exits ⊢
  have spelled : LineReader.textOf fragment = Text.ofString "exit 3" := by decide +kernel
  let behind : LineReader :=
    ⟨comment ++ LineReader.lineFeed :: fragment, [Utf8.encode (Text.ofString "4\n")], .finished,
      .lossy⟩
  have held : behind.buffer = (0x23 :: rest) ++ LineReader.lineFeed :: fragment := by
    rw [← opens]
  have later := takeInput_of_comment rfl rfl drained free (by decide +kernel) (by decide +kernel)
    held (spelled ▸ exits) limit
  rw [← opens] at later
  refine ⟨?_, later.2⟩
  rw [if_neg Bool.false_ne_true, List.filterMap_cons_some heardCat, later.1]

theorem blocks_of_boundary {comment : Bytes} (size : comment.length = 8181) :
    let cat := Utf8.encode (Text.ofString "cat")
    CommandLine.blocks (cat ++ LineReader.lineFeed ::
        (comment ++ LineReader.lineFeed :: Utf8.encode (Text.ofString "exit 34\n"))) =
      [cat ++ LineReader.lineFeed ::
        (comment ++ LineReader.lineFeed :: Utf8.encode (Text.ofString "exit 3")),
        Utf8.encode (Text.ofString "4\n")] := by
  intro cat
  have last : Utf8.encode (Text.ofString "exit 34\n") =
      Utf8.encode (Text.ofString "exit 3") ++ Utf8.encode (Text.ofString "4\n") := by
    decide +kernel
  have whole : ∀ front back : Bytes, cat ++ LineReader.lineFeed ::
      (comment ++ LineReader.lineFeed :: (front ++ back)) =
        (cat ++ LineReader.lineFeed :: (comment ++ LineReader.lineFeed :: front)) ++ back := by
    simp
  have full : (cat ++ LineReader.lineFeed :: (comment ++
      LineReader.lineFeed :: Utf8.encode (Text.ofString "exit 3"))).length =
      CommandLine.blockSize := by
    simp only [List.length_append, List.length_cons, size]
    decide +kernel
  rw [last, whole, CommandLine.blocks_append full,
    CommandLine.blocks_of_length_le (by decide +kernel) (by decide +kernel)]

/-- The first block ends within a line behind a program that reads to the end of the input.
The line is executed as far as the block goes, and ends the run with another code. -/
theorem linesHeard_of_boundary {comment rest : Bytes} (opens : comment = 0x23 :: rest)
    (free : LineReader.lineFeed ∉ rest) (size : comment.length = 8181) :
    let cat := Utf8.encode (Text.ofString "cat")
    let content := cat ++ LineReader.lineFeed :: (comment ++
      LineReader.lineFeed :: Utf8.encode (Text.ofString "exit 34\n"))
    let begun := besideReader.withInput (CommandLine.blocks content)
    LineReader.lines content = [cat, comment, Utf8.encode (Text.ofString "exit 34")] ∧
      begun.linesHeard .lossy = [cat, comment, Utf8.encode (Text.ofString "exit 3")] ∧
      (begun.runOver (.standardInput .lossy)).1 = 3 := by
  intro cat content begun
  constructor
  · have commentFree : LineReader.lineFeed ∉ comment := by
      rw [opens, List.mem_cons, not_or]
      exact ⟨by decide, free⟩
    have ending : Utf8.encode (Text.ofString "exit 34\n") =
        Utf8.encode (Text.ofString "exit 34") ++ LineReader.lineFeed :: [] := by decide +kernel
    rw [LineReader.lines_append_lineFeed (by decide +kernel),
      LineReader.lines_append_lineFeed commentFree, ending,
      LineReader.lines_append_lineFeed (by decide +kernel), LineReader.lines_nil]
  · have begins : begun = besideReader.withInput _ :=
      congrArg besideReader.withInput (blocks_of_boundary size)
    rw [begins]
    apply code_of_takeInput
    · rw [withInput]
      simp only [List.flatten_cons, List.length_append, List.length_cons]
      omega
    · exact takeInput_of_reading_program opens free

theorem linesHeard_of_reading_program :
    let comment : Bytes := List.replicate 8181 0x23
    let cat := Utf8.encode (Text.ofString "cat")
    let content := cat ++ LineReader.lineFeed :: (comment ++
      LineReader.lineFeed :: Utf8.encode (Text.ofString "exit 34\n"))
    let begun := besideReader.withInput (CommandLine.blocks content)
    LineReader.lines content = [cat, comment, Utf8.encode (Text.ofString "exit 34")] ∧
      begun.linesHeard .lossy = [cat, comment, Utf8.encode (Text.ofString "exit 3")] ∧
      (begun.runOver (.standardInput .lossy)).1 = 3 := by
  have free : LineReader.lineFeed ∉ List.replicate 8180 (0x23 : UInt8) := by
    intro member
    exact absurd (List.eq_of_mem_replicate member) (by decide)
  exact linesHeard_of_boundary List.replicate_succ free List.length_replicate

end CommandShell.Shell
