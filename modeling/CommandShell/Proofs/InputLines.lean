import CommandShell.CommandLine
import CommandShell.Proofs.Decoding

namespace CommandShell

/-! The lines of an input, and what a reader that has fetched only a part of the input can
know of them: all lines but the last of this part are lines of the whole, and the last one is
if the part does not end within it. -/

namespace Cut

variable {α : Type} [DecidableEq α]

/-- Goes through the pieces of a list from the first to the last. -/
@[elab_as_elim]
theorem pieces_induction (mark : α) {motive : List α → Prop}
    (last : ∀ piece, mark ∉ piece → motive piece)
    (more : ∀ piece rest, mark ∉ piece → motive rest → motive (piece ++ mark :: rest))
    (list : List α) : motive list := by
  induction length : list.length using Nat.strongRecOn generalizing list with
  | ind size induction =>
    by_cases member : mark ∈ list
    · rcases List.eq_append_cons_of_mem member with ⟨piece, rest, rfl, free⟩
      have shorter : rest.length < size := by
        simp only [List.length_append, List.length_cons] at length
        omega
      exact more piece rest free (induction rest.length shorter rest rfl)
    · exact last list member

theorem all_append_mark {mark : α} {before : List α} (free : mark ∉ before) (after : List α) :
    all mark (before ++ mark :: after) = before :: all mark after := by
  rw [all_append, all_of_not_mem free, List.singleton_append]

end Cut

namespace LineReader

/-! ## Lines -/

/-- The lines of an input: the pieces between its line feeds. What stands behind the last
line feed is a line unless it is empty. -/
def lines (bytes : Bytes) : List Bytes :=
  let pieces := Cut.all lineFeed bytes
  if pieces.getLast? = some [] then pieces.dropLast else pieces

theorem lines_nil : lines [] = [] := rfl

theorem lines_of_not_mem {last : Bytes} (free : lineFeed ∉ last) (inhabited : last ≠ []) :
    lines last = [last] := by
  rw [lines, Cut.all_of_not_mem free]
  simp [inhabited]

theorem lines_append_lineFeed {line : Bytes} (free : lineFeed ∉ line) (rest : Bytes) :
    lines (line ++ lineFeed :: rest) = line :: lines rest := by
  rw [lines, lines, Cut.all_append_mark free]
  cases pieces : Cut.all lineFeed rest with
  | nil => exact absurd pieces (Cut.all_ne_nil lineFeed rest)
  | cons first others =>
    rw [List.getLast?_cons_cons, List.dropLast_cons_cons]
    split <;> rfl

theorem free_or_first_line (bytes : Bytes) :
    lineFeed ∉ bytes ∨ ∃ line rest, bytes = line ++ lineFeed :: rest ∧ lineFeed ∉ line := by
  cases cut : Cut.once lineFeed bytes with
  | none => exact .inl ((Cut.once_eq_none_iff _ _).mp cut)
  | some parts => exact .inr ⟨parts.1, parts.2, (Cut.once_eq_some_iff _ _ _ _).mp cut⟩

theorem lines_eq_nil_iff (bytes : Bytes) : lines bytes = [] ↔ bytes = [] := by
  constructor
  · intro none
    by_cases empty : bytes = []
    · exact empty
    · rcases free_or_first_line bytes with free | ⟨line, rest, rfl, free⟩
      · rw [lines_of_not_mem free empty] at none
        cases none
      · rw [lines_append_lineFeed free] at none
        cases none
  · rintro rfl
    rfl

/-! ## A part of the input -/

/-- Whether a part of an input ends where one of its lines does. -/
def EndsLine (front : Bytes) : Prop :=
  front = [] ∨ front.getLast? = some lineFeed

/-- Whether no line goes on from one part of an input to the next. -/
def Apart (front back : Bytes) : Prop :=
  EndsLine front ∨ back = [] ∨ back.head? = some lineFeed

theorem endsLine_append_lineFeed (line rest : Bytes) :
    EndsLine (line ++ lineFeed :: rest) ↔ EndsLine rest := by
  cases rest with
  | nil => simp [EndsLine]
  | cons first others => simp [EndsLine, List.getLast?_append, List.getLast?_cons_cons]

/-- The lines that a part completes, and what it holds of one more line. -/
theorem exists_unfinished_line (front : Bytes) :
    ∃ complete last, lineFeed ∉ last ∧ (EndsLine front ↔ last = []) ∧
      ∀ back, lines (front ++ back) = complete ++ lines (last ++ back) := by
  induction front using Cut.pieces_induction lineFeed with
  | last piece free =>
    refine ⟨[], piece, free, ?_, fun back => rfl⟩
    constructor
    · rintro (empty | ended)
      · exact empty
      · exact absurd (List.mem_of_getLast? ended) free
    · exact .inl
  | more line rest free induction =>
    rcases induction with ⟨complete, last, without, ends, split⟩
    refine ⟨line :: complete, last, without, ?_, ?_⟩
    · rw [endsLine_append_lineFeed, ends]
    · intro back
      rw [List.append_assoc, List.cons_append, lines_append_lineFeed free, split]
      rfl

theorem singleton_isPrefix_lines_iff {last : Bytes} (free : lineFeed ∉ last)
    (inhabited : last ≠ []) (back : Bytes) :
    [last] <+: lines (last ++ back) ↔ back = [] ∨ back.head? = some lineFeed := by
  constructor
  · intro first
    rcases free_or_first_line (last ++ back) with whole | ⟨line, rest, same, lineFree⟩
    · have different : last ++ back ≠ [] := by simp [inhabited]
      rw [lines_of_not_mem whole different] at first
      have equal : last = last ++ back := by simpa using first
      exact .inl (List.self_eq_append_right.mp equal)
    · rw [same, lines_append_lineFeed lineFree, List.cons_prefix_cons] at first
      rw [← first.1, List.append_cancel_left_eq] at same
      exact .inr (by rw [same, List.head?_cons])
  · rintro (rfl | starts)
    · have alone : lines (last ++ []) = [last] := by
        rw [List.append_nil, lines_of_not_mem free inhabited]
      exact ⟨[], alone.symm⟩
    · cases back with
      | nil => cases starts
      | cons byte rest =>
        cases starts
        rw [lines_append_lineFeed free]
        exact ⟨lines rest, rfl⟩

/-- The lines at the beginning of a part are lines of the whole input, unless they are all
lines of the part and the last one of them goes on behind it. -/
theorem isPrefix_lines_append_iff {heard : List Bytes} {front : Bytes}
    (known : heard <+: lines front) (back : Bytes) :
    heard <+: lines (front ++ back) ↔ (heard = lines front → Apart front back) := by
  rcases exists_unfinished_line front with ⟨complete, last, free, ends, split⟩
  have whole := split []
  simp only [List.append_nil] at whole
  rw [whole] at known
  rw [split, whole, Apart, ends]
  by_cases empty : last = []
  · subst empty
    rw [lines_nil, List.append_nil] at known ⊢
    exact ⟨fun _ _ => .inl rfl, fun _ => known.trans (List.prefix_append complete _)⟩
  · rw [lines_of_not_mem free empty] at known ⊢
    rcases List.prefix_concat_iff.mp known with rfl | within
    · rw [List.prefix_append_right_inj, singleton_isPrefix_lines_iff free empty]
      simp [empty]
    · have fewer : heard ≠ complete ++ [last] := by
        rintro rfl
        have shorter := within.length_le
        rw [List.length_append, List.length_singleton] at shorter
        omega
      exact ⟨fun _ all => absurd all fewer,
        fun _ => within.trans (List.prefix_append complete _)⟩

/-! ## Reading -/

/-- The bytes of the next line, if there is one. -/
def nextBytes? (reader : LineReader) : Option Bytes :=
  match fetch reader.buffer reader.deliveries with
  | some (line, _, _) => some line
  | none =>
    match reader.ending with
    | .failed _ => none
    | .finished => if reader.remaining.isEmpty then none else some reader.remaining

/-- The text of a line in an input that is not typed. -/
def textOf (bytes : Bytes) : Text :=
  Utf8.decodeLossy (dropCarriageReturn bytes)

theorem next_fst (reader : LineReader) :
    reader.next.1 =
      match reader.nextBytes? with
      | some bytes => reader.decoding.line bytes
      | none => reader.ending.reading := by
  cases fetched : fetch reader.buffer reader.deliveries with
  | some parts => simp only [next, nextBytes?, fetched]
  | none =>
    cases ending : reader.ending with
    | failed message =>
      simp only [next, nextBytes?, fetched, ending]
      rfl
    | finished =>
      simp only [next, nextBytes?, fetched, ending]
      split <;> rfl

theorem ending_next (reader : LineReader) : reader.next.2.ending = reader.ending := by
  rw [next]
  split
  · rfl
  · cases reader.ending with
    | failed message => rfl
    | finished =>
      dsimp only
      split <;> rfl

/-- A reader that finds a line feed has fetched the deliveries up to it. -/
theorem fetch_eq_some {buffer line rest : Bytes} {deliveries unused : List Bytes}
    (fetched : fetch buffer deliveries = some (line, rest, unused)) :
    ∃ used, deliveries = used ++ unused ∧
      buffer ++ used.flatten = line ++ lineFeed :: rest := by
  induction deliveries generalizing buffer line with
  | nil =>
    rcases Option.map_eq_some_iff.mp fetched with ⟨⟨before, after⟩, cut, same⟩
    cases same
    refine ⟨[], rfl, ?_⟩
    rw [List.flatten_nil, List.append_nil]
    exact ((Cut.once_eq_some_iff _ _ _ _).mp cut).1
  | cons delivery deliveries induction =>
    rw [fetch] at fetched
    split at fetched
    next before after cut =>
      cases fetched
      refine ⟨[], rfl, ?_⟩
      rw [List.flatten_nil, List.append_nil]
      exact ((Cut.once_eq_some_iff _ _ _ _).mp cut).1
    next =>
      rcases Option.map_eq_some_iff.mp fetched with ⟨⟨before, after, others⟩, later, same⟩
      cases same
      rcases induction later with ⟨used, rfl, parts⟩
      refine ⟨delivery :: used, rfl, ?_⟩
      rw [List.flatten_cons, parts, List.append_assoc]

theorem fetch_of_buffer {line : Bytes} (free : lineFeed ∉ line) (behind : Bytes)
    (deliveries : List Bytes) :
    fetch (line ++ lineFeed :: behind) deliveries = some (line, behind, deliveries) := by
  have cut := (Cut.once_eq_some_iff lineFeed _ line behind).mpr ⟨rfl, free⟩
  cases deliveries with
  | nil => rw [fetch, cut, Option.map_some]
  | cons => rw [fetch, cut]

theorem fetch_of_delivery {line : Bytes} (free : lineFeed ∉ line) (behind : Bytes)
    (deliveries : List Bytes) :
    fetch [] ((line ++ lineFeed :: behind) :: deliveries) = some (line, behind, deliveries) := by
  rw [fetch, Cut.once, fetch_of_buffer free]
  rfl

/-- A reader whose input does not fail reads a line up to its line feed, or all that is
left. -/
theorem next_cases {reader : LineReader} (finished : reader.ending = .finished) :
    (∃ line used, lineFeed ∉ line ∧ reader.nextBytes? = some line ∧
        reader.deliveries = used ++ reader.next.2.deliveries ∧
        reader.buffer ++ used.flatten = line ++ lineFeed :: reader.next.2.buffer) ∨
      lineFeed ∉ reader.remaining ∧
        reader.nextBytes? = (if reader.remaining.isEmpty then none else some reader.remaining) ∧
        reader.next.2.deliveries = [] ∧ reader.next.2.buffer = [] := by
  cases fetched : fetch reader.buffer reader.deliveries with
  | some parts =>
    rcases parts with ⟨line, rest, unused⟩
    rcases fetch_eq_some fetched with ⟨used, deliveries, parts⟩
    left
    refine ⟨line, used, fetch_line fetched, ?_, ?_, ?_⟩
    · simp only [nextBytes?, fetched]
    · simpa only [next, fetched] using deliveries
    · simpa only [next, fetched] using parts
  | none =>
    right
    refine ⟨fetch_nothing fetched, ?_, ?_⟩
    · simp only [nextBytes?, fetched, finished]
    · simp only [next, fetched, finished]
      split <;> exact ⟨rfl, rfl⟩

end LineReader

/-! ## Blocks -/

namespace CommandLine

theorem blocks_of_ne_nil {bytes : Bytes} (filled : bytes ≠ []) :
    blocks bytes = bytes.take blockSize :: blocks (bytes.drop blockSize) := by
  rw [blocks, if_neg (by simpa using filled)]

theorem blocks_append {front : Bytes} (full : front.length = blockSize) (back : Bytes) :
    blocks (front ++ back) = front :: blocks back := by
  have filled : front ++ back ≠ [] := by
    intro empty
    rw [(List.append_eq_nil_iff.mp empty).1] at full
    cases full
  rw [blocks_of_ne_nil filled, List.take_left' full, List.drop_left' full]

theorem blocks_of_length_le {bytes : Bytes} (filled : bytes ≠ [])
    (short : bytes.length ≤ blockSize) : blocks bytes = [bytes] := by
  rw [blocks_of_ne_nil filled, List.take_of_length_le short, List.drop_of_length_le short, blocks]
  rfl

/-- The blocks at the beginning of a file hold its beginning, and the others the rest. -/
theorem flatten_of_blocks_eq_append {bytes : Bytes} {used unused : List Bytes}
    (parts : blocks bytes = used ++ unused) :
    used.flatten = bytes.take (used.length * blockSize) ∧
      unused.flatten = bytes.drop (used.length * blockSize) := by
  have whole : ∀ bytes : Bytes, (blocks bytes).flatten = bytes := by
    intro bytes
    induction length : bytes.length using Nat.strongRecOn generalizing bytes with
    | ind size induction =>
      by_cases empty : bytes = []
      · rw [empty, blocks]
        rfl
      · have shorter : (bytes.drop blockSize).length < size := by
          rw [← length]
          exact length_drop_blockSize_lt (by simpa using empty)
        rw [blocks_of_ne_nil empty, List.flatten_cons, induction _ shorter _ rfl,
          List.take_append_drop]
  induction used generalizing bytes with
  | nil =>
    rw [List.nil_append] at parts
    simp [← parts, whole]
  | cons block used induction =>
    by_cases empty : bytes = []
    · rw [empty, blocks] at parts
      cases parts
    · rw [blocks_of_ne_nil empty, List.cons_append] at parts
      rcases List.cons_eq_cons.mp parts with ⟨rfl, others⟩
      rcases induction others with ⟨first, second⟩
      have length : (used.length + 1) * blockSize = blockSize + used.length * blockSize := by
        rw [Nat.succ_mul, Nat.add_comm]
      rw [List.flatten_cons, List.length_cons, first, second, length, List.take_add,
        List.drop_drop]
      exact ⟨rfl, rfl⟩

end CommandLine

end CommandShell
