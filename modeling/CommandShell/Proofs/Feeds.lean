import CommandShell.Feed
import CommandShell.Proofs.Pieces

namespace CommandShell

/-! What is read of an input depends on its bytes and on its end alone: neither on how the bytes
are delivered nor on where asking for them is interrupted. -/

namespace LineReader

/-! ## One reading -/

/-- Fetching cuts everything that is left at the first line feed. -/
theorem fetch_eq_once (buffer : Bytes) (deliveries : List Bytes) :
    (fetch buffer deliveries).map (fun (line, behind, unused) => (line, behind ++ unused.flatten)) =
      Cut.once lineFeed (buffer ++ deliveries.flatten) := by
  cases fetched : fetch buffer deliveries with
  | none => exact ((Cut.once_eq_none_iff _ _).mpr (fetch_nothing fetched)).symm
  | some parts =>
    rcases parts with ⟨line, behind, unused⟩
    rcases fetch_eq_some fetched with ⟨used, rfl, whole⟩
    refine ((Cut.once_eq_some_iff _ _ _ _).mpr ⟨?_, fetch_line fetched⟩).symm
    rw [List.flatten_append, ← List.append_assoc, whole, List.append_assoc, List.cons_append]

variable {reader : LineReader}

theorem next_of_line {line rest : Bytes} (free : lineFeed ∉ line)
    (whole : reader.remaining = line ++ lineFeed :: rest) :
    reader.next.1 = reader.decoding.line line ∧ reader.next.2.remaining = rest := by
  have cut := fetch_eq_once reader.buffer reader.deliveries
  rw [← remaining, (Cut.once_eq_some_iff _ _ _ _).mpr ⟨whole, free⟩] at cut
  rcases Option.map_eq_some_iff.mp cut with ⟨⟨first, behind, unused⟩, fetched, same⟩
  cases same
  simp only [next, fetched, remaining, and_self]

/-- Without a line feed in what is left, that is a line unless it is empty or the input fails. -/
theorem next_of_unfinished (free : lineFeed ∉ reader.remaining) :
    reader.next =
      (if reader.ending = .finished ∧ reader.remaining ≠ [] then
          reader.decoding.line reader.remaining
        else reader.ending.reading,
      { reader with buffer := [], deliveries := [] }) := by
  have cut := fetch_eq_once reader.buffer reader.deliveries
  rw [← remaining, (Cut.once_eq_none_iff _ _).mpr free, Option.map_eq_none_iff] at cut
  cases ending : reader.ending with
  | failed message => simp [next, cut, ending, InputEnd.reading]
  | finished =>
    simp only [next, cut, ending, List.isEmpty_iff]
    split <;> simp_all [InputEnd.reading]

/-- Where nothing is left, nothing comes but the end or the failure of the input. -/
theorem next_of_drained (drained : reader.remaining = []) :
    reader.next.1 = reader.ending.reading ∧ reader.next.2.remaining = [] := by
  have free : lineFeed ∉ reader.remaining := by simp [drained]
  rw [next_of_unfinished free, if_neg fun unfinished => unfinished.2 drained]
  exact ⟨rfl, rfl⟩

/-! ## All readings -/

theorem readingsWithin_succ (limit : Nat) (reader : LineReader) :
    readingsWithin (limit + 1) reader =
      reader.next.1 ::
        match reader.next.1 with
        | .line _ => readingsWithin limit reader.next.2
        | _ => [] := by
  rw [readingsWithin]
  rcases reader.next with ⟨reading, rest⟩
  cases reading <;> rfl

/-- What is read when only these bytes are left, without a line feed. -/
def lastReadings (ending : InputEnd) (rest : Bytes) : List Reading :=
  (if ending = .finished ∧ rest ≠ [] then [.line (textOf rest)] else []) ++ [ending.reading]

/-- The readings of an input: the lines that a line feed ends, and what stands behind the last
one, unless the input fails there. -/
def readingsOf (ending : InputEnd) (bytes : Bytes) : List Reading :=
  (Cut.closed lineFeed bytes).map (fun line => .line (textOf line)) ++
    lastReadings ending (Cut.remainder lineFeed bytes)

theorem readingsOf_of_not_mem (ending : InputEnd) {bytes : Bytes} (free : lineFeed ∉ bytes) :
    readingsOf ending bytes = lastReadings ending bytes := by
  rw [readingsOf, Cut.closed_of_not_mem free, Cut.remainder_of_not_mem free]
  rfl

theorem readingsOf_append_lineFeed (ending : InputEnd) {line : Bytes} (free : lineFeed ∉ line)
    (rest : Bytes) :
    readingsOf ending (line ++ lineFeed :: rest) =
      .line (textOf line) :: readingsOf ending rest := by
  rw [readingsOf, Cut.closed_append_mark free, Cut.remainder_append]
  rfl

theorem readingsWithin_of_drained (drained : reader.remaining = []) (limit : Nat) :
    readingsWithin (limit + 1) reader = [reader.ending.reading] := by
  rw [readingsWithin_succ, (next_of_drained drained).1]
  cases reader.ending <;> rfl

theorem readingsWithin_of_unfinished (lossy : reader.decoding = .lossy)
    (free : lineFeed ∉ reader.remaining) {limit : Nat}
    (enough : reader.remaining.length < limit) :
    readingsWithin limit reader = lastReadings reader.ending reader.remaining := by
  obtain ⟨limit, rfl⟩ := Nat.exists_eq_add_one_of_ne_zero (Nat.ne_zero_of_lt enough)
  have drained : reader.next.2.remaining = [] := by
    rw [next_of_unfinished free]
    rfl
  rw [readingsWithin_succ, congrArg Prod.fst (next_of_unfinished free), lossy, lastReadings]
  by_cases unfinished : reader.ending = .finished ∧ reader.remaining ≠ []
  · -- There are two readings. The limit allows both since there is a byte at least.
    have positive := List.length_pos_iff.mpr unfinished.2
    obtain ⟨limit, rfl⟩ := Nat.exists_eq_add_one_of_ne_zero (show limit ≠ 0 by omega)
    simp only [if_pos unfinished, Decoding.line, readingsWithin_of_drained drained, ending_next]
    rfl
  · simp only [if_neg unfinished]
    cases reader.ending <;> rfl

theorem readings_eq (lossy : reader.decoding = .lossy) :
    reader.readings = readingsOf reader.ending reader.remaining := by
  have within : ∀ (bytes : Bytes) (reader : LineReader) (limit : Nat),
      reader.decoding = .lossy → reader.remaining = bytes → bytes.length < limit →
      readingsWithin limit reader = readingsOf reader.ending bytes := by
    intro bytes
    induction bytes using Cut.pieces_induction lineFeed with
    | last piece free =>
      rintro reader limit lossy rfl enough
      rw [readingsOf_of_not_mem _ free]
      exact readingsWithin_of_unfinished lossy free enough
    | more line rest free induction =>
      intro reader limit lossy whole enough
      cases limit with
      | zero => cases enough
      | succ limit =>
        rcases next_of_line free whole with ⟨reading, left⟩
        have fewer : rest.length < limit := by
          simp only [List.length_append, List.length_cons] at enough
          omega
        have later := induction reader.next.2 limit (reader.decoding_next.trans lossy) left fewer
        rw [readingsOf_append_lineFeed _ free, ← ending_next, ← later, readingsWithin_succ,
          reading, lossy]
        rfl
  exact within reader.remaining reader _ lossy rfl (Nat.lt_succ_self _)

end LineReader

namespace Feed

variable {feed : Feed}

/-! ## Interruptions

A reader of the deliveries alone reads the same. To it an interruption is a delivery that brings
nothing. -/

def reader (feed : Feed) : LineReader where
  buffer := feed.held
  deliveries := feed.arrivals.map Arrival.bytes
  ending := feed.ending

theorem remaining_reader (feed : Feed) : feed.reader.remaining = feed.remaining := by
  rw [LineReader.remaining, remaining, List.flatMap_def]
  rfl

/-- Reading through a line feed takes what fetching takes, or all that is left. -/
theorem readThrough_eq (ending : InputEnd) (before held : Bytes) (arrivals : List Arrival) :
    (∃ line behind left,
      LineReader.fetch held (arrivals.map Arrival.bytes) =
          some (line, behind, left.map Arrival.bytes) ∧
        readThrough ending before held arrivals =
          (.ok (before ++ line ++ [LineReader.lineFeed]), ⟨behind, left, ending⟩)) ∨
    LineReader.fetch held (arrivals.map Arrival.bytes) = none ∧
      readThrough ending before held arrivals =
        (match ending with
          | .finished => .ok (before ++ held ++ arrivals.flatMap Arrival.bytes)
          | .failed message => .error message,
        ⟨[], [], ending⟩) := by
  induction arrivals generalizing before held with
  | nil =>
    cases cut : Cut.once LineReader.lineFeed held with
    | none =>
      right
      rw [readThrough.eq_def, cut]
      cases ending <;> simp [LineReader.fetch, cut]
    | some parts =>
      left
      refine ⟨parts.1, parts.2, [], ?_, ?_⟩
      · simp [LineReader.fetch, cut]
      · rw [readThrough.eq_def, cut]
  | cons arrival arrivals induction =>
    cases cut : Cut.once LineReader.lineFeed held with
    | some parts =>
      left
      refine ⟨parts.1, parts.2, arrival :: arrivals, ?_, ?_⟩
      · simp [LineReader.fetch, cut]
      · rw [readThrough, cut]
    | none =>
      -- What is held belongs to the line, so it goes before what the next arrival brings.
      rw [readThrough, cut, List.map_cons, LineReader.fetch, cut]
      rcases induction (before ++ held) arrival.bytes with
        ⟨line, behind, left, fetched, read⟩ | ⟨nothing, read⟩
      · left
        refine ⟨held ++ line, behind, left, ?_, ?_⟩
        · simp [fetched]
        · rw [← List.append_assoc]
          exact read
      · right
        constructor
        · simp [nothing]
        · dsimp only
          rw [read, List.flatMap_cons]
          simp only [List.append_assoc]

theorem dropLineFeed_concat (line : Bytes) :
    dropLineFeed (line ++ [LineReader.lineFeed]) = line := by
  rw [dropLineFeed, if_pos List.getLast?_concat, List.dropLast_concat]

theorem dropLineFeed_of_not_mem {bytes : Bytes} (free : LineReader.lineFeed ∉ bytes) :
    dropLineFeed bytes = bytes :=
  if_neg fun ends => free (List.mem_of_getLast? ends)

theorem next_of_readThrough {bytes : Bytes} {rest : Feed} (filled : bytes ≠ [])
    (read : readThrough feed.ending [] feed.held feed.arrivals = (.ok bytes, rest)) :
    feed.next = (LineReader.Decoding.lossy.line (dropLineFeed bytes), rest) := by
  rw [next, read]
  cases bytes with
  | nil => exact absurd rfl filled
  | cons => rfl

theorem next_reader (feed : Feed) :
    feed.next.1 = feed.reader.next.1 ∧ feed.next.2.reader = feed.reader.next.2 := by
  rcases readThrough_eq feed.ending [] feed.held feed.arrivals with
    ⟨line, behind, left, fetched, read⟩ | ⟨nothing, read⟩
  · rw [next_of_readThrough (by simp) read, List.nil_append, dropLineFeed_concat, LineReader.next,
      reader, fetched]
    exact ⟨rfl, rfl⟩
  · have free : LineReader.lineFeed ∉ feed.reader.remaining := LineReader.fetch_nothing nothing
    have whole := feed.remaining_reader
    rw [LineReader.next_of_unfinished free, whole]
    rw [whole] at free
    -- Nothing that is read is empty but what is read at the end of the feed.
    by_cases unfinished : feed.ending = .finished ∧ feed.remaining ≠ []
    · have taken : readThrough feed.ending [] feed.held feed.arrivals =
          (.ok feed.remaining, ⟨[], [], feed.ending⟩) := by
        rw [read, unfinished.1]
        rfl
      rw [next_of_readThrough unfinished.2 taken, dropLineFeed_of_not_mem free]
      exact ⟨(if_pos unfinished).symm, rfl⟩
    · have reads : feed.next = (feed.ending.reading, ⟨[], [], feed.ending⟩) := by
        cases ending : feed.ending with
        | failed message =>
          rw [next, read, ending]
          rfl
        | finished =>
          have nothing : feed.remaining = [] := by simpa [ending] using unfinished
          have taken : [] ++ feed.held ++ feed.arrivals.flatMap Arrival.bytes = [] := nothing
          rw [next, read, ending, taken]
          rfl
      rw [reads]
      exact ⟨(if_neg unfinished).symm, rfl⟩

theorem readings_reader (feed : Feed) : feed.readings = feed.reader.readings := by
  have within : ∀ (limit : Nat) (feed : Feed),
      readingsWithin limit feed = LineReader.readingsWithin limit feed.reader := by
    intro limit
    induction limit with
    | zero => exact fun _ => rfl
    | succ limit induction =>
      intro feed
      rcases feed.next_reader with ⟨reading, onward⟩
      rw [LineReader.readingsWithin_succ, ← reading, ← onward, readingsWithin]
      rcases feed.next with ⟨first, rest⟩
      cases first with
      | line text => exact congrArg (.line text :: ·) (induction rest)
      | _ => rfl
  rw [readings, LineReader.readings, within, remaining_reader]

theorem readings_eq (feed : Feed) :
    feed.readings = LineReader.readingsOf feed.ending feed.remaining := by
  rw [readings_reader, LineReader.readings_eq rfl, remaining_reader]
  rfl

/-! ## Reading on -/

/-- The feed after so many readings, whatever these are. -/
def after : Nat → Feed → Feed
  | 0, feed => feed
  | count + 1, feed => after count feed.next.2

theorem next_of_line {line rest : Bytes} (free : LineReader.lineFeed ∉ line)
    (whole : feed.remaining = line ++ LineReader.lineFeed :: rest) :
    feed.next.1 = .line (LineReader.textOf line) ∧ feed.next.2.remaining = rest := by
  rw [← remaining_reader] at whole
  rcases LineReader.next_of_line free whole with ⟨reading, left⟩
  rw [feed.next_reader.1, ← remaining_reader, feed.next_reader.2]
  exact ⟨reading, left⟩

theorem ending_next (feed : Feed) : feed.next.2.ending = feed.ending := by
  have same := congrArg LineReader.ending feed.next_reader.2
  exact same.trans feed.reader.ending_next

theorem next_of_unfinished (free : LineReader.lineFeed ∉ feed.remaining) :
    feed.next.1 =
        (if feed.ending = .finished ∧ feed.remaining ≠ [] then
          .line (LineReader.textOf feed.remaining)
        else feed.ending.reading) ∧
      feed.next.2.remaining = [] := by
  rw [← remaining_reader] at free
  rw [feed.next_reader.1, ← feed.next.2.remaining_reader, feed.next_reader.2,
    LineReader.next_of_unfinished free, remaining_reader]
  exact ⟨rfl, rfl⟩

/-- Where nothing is left, nothing comes any more. -/
theorem next_after_of_drained (drained : feed.remaining = []) (count : Nat) :
    (feed.after count).next.1 = feed.ending.reading := by
  have free : LineReader.lineFeed ∉ feed.remaining := by simp [drained]
  induction count generalizing feed with
  | zero => exact (next_of_unfinished free).1.trans (if_neg fun unfinished => unfinished.2 drained)
  | succ count induction =>
    have left := (next_of_unfinished free).2
    rw [after, induction left (by simp [left]), ending_next]

/-- Every reading is the one in its place. Behind the last of them there is nothing but the end
or the failure. -/
theorem next_after (feed : Feed) (index : Nat) :
    (feed.after index).next.1 = feed.readings.getD index feed.ending.reading := by
  rw [readings_eq]
  generalize bytes : feed.remaining = left
  induction left using Cut.pieces_induction LineReader.lineFeed generalizing feed index with
  | last piece free =>
    subst bytes
    rcases next_of_unfinished free with ⟨reading, drained⟩
    rw [LineReader.readingsOf_of_not_mem _ free, LineReader.lastReadings]
    cases index with
    | zero =>
      rw [after, reading]
      split <;> rfl
    | succ index =>
      rw [after, next_after_of_drained drained, ending_next]
      split <;> cases index <;> rfl
  | more line rest free induction =>
    rcases next_of_line free bytes with ⟨reading, left⟩
    rw [LineReader.readingsOf_append_lineFeed _ free]
    cases index with
    | zero => exact reading
    | succ index =>
      rw [after, induction feed.next.2 index left, ending_next]
      rfl

end Feed

/-! ## Lines that have been written -/

/-- How a line is ended in a file. -/
inductive LineEnd where
  | bare
  /-- There is a carriage return before the line feed. -/
  | afterReturn
  deriving DecidableEq, Repr

/-- What is between a line and its line feed. -/
def LineEnd.returns : LineEnd → Bytes
  | .bare => []
  | .afterReturn => [LineReader.carriageReturn]

namespace LineReader

/-- Lines as they are in a file, each with an end of its own. -/
def encodeLines (lines : List (Text × LineEnd)) : Bytes :=
  lines.flatMap fun (text, lineEnd) => Utf8.encode text ++ lineEnd.returns ++ [lineFeed]

theorem lineFeed_not_mem_encode {text : Text} (free : '\n' ∉ text) :
    lineFeed ∉ Utf8.encode text := by
  have iff := Utf8.denotes_lineFeed.mem_decodeLossy_iff (Utf8.encode text)
  rw [Utf8.decodeLossy_encode] at iff
  exact mt iff.mpr free

theorem textOf_encode {text : Text} (ends : text.getLast? ≠ some '\x0D') (lineEnd : LineEnd) :
    textOf (Utf8.encode text ++ lineEnd.returns) = text := by
  cases lineEnd with
  | bare =>
    rw [LineEnd.returns, List.append_nil, textOf_eq, Utf8.decodeLossy_encode]
    exact if_neg ends
  | afterReturn =>
    rw [LineEnd.returns, textOf, dropCarriageReturn, if_pos List.getLast?_concat,
      List.dropLast_concat, Utf8.decodeLossy_encode]

/-- What has been written is read, however its lines end. -/
theorem readingsOf_encodeLines {lines : List (Text × LineEnd)}
    (readable : ∀ line ∈ lines, '\n' ∉ line.1 ∧ line.1.getLast? ≠ some '\x0D') :
    readingsOf .finished (encodeLines lines) =
      lines.map (fun line => .line line.1) ++ [.endOfInput] := by
  induction lines with
  | nil => rfl
  | cons line rest induction =>
    rcases List.forall_mem_cons.mp readable with ⟨⟨free, ends⟩, others⟩
    have returnFree : lineFeed ∉ Utf8.encode line.1 ++ line.2.returns := by
      rw [List.mem_append, not_or]
      refine ⟨lineFeed_not_mem_encode free, ?_⟩
      cases line.2 <;> decide
    rw [encodeLines, List.flatMap_cons, List.append_assoc, List.singleton_append,
      readingsOf_append_lineFeed _ returnFree, textOf_encode ends, ← encodeLines,
      induction others]
    rfl

end LineReader

namespace Feed

/-- A feed is read line by line, and then its end or its failure. Each piece that a line feed
ends is a line, and so is what stands behind the last line feed, if that is not empty and the
feed does not fail; if it does, no part of that is read, then or later. So the readings are
the same for any deliveries of the same bytes with any interruptions. Lines that have been
written, with one line end or the other, are read as they were. -/
theorem readings_follow_bytes (feed : Feed) :
    let complete := Cut.closed LineReader.lineFeed feed.remaining
    let rest := Cut.remainder LineReader.lineFeed feed.remaining
    (complete.flatMap (· ++ [LineReader.lineFeed]) ++ rest = feed.remaining ∧
      (∀ line ∈ complete, LineReader.lineFeed ∉ line) ∧ LineReader.lineFeed ∉ rest) ∧
    feed.readings =
      complete.map (fun line =>
          .line (Utf8.decodeLossy (LineReader.dropCarriageReturn line))) ++
        ((if feed.ending = .finished ∧ rest ≠ [] then
            [.line (Utf8.decodeLossy (LineReader.dropCarriageReturn rest))]
          else []) ++
          [feed.ending.reading]) ∧
    (∀ index, (feed.after index).next.1 = feed.readings.getD index feed.ending.reading) ∧
    (∀ other : Feed, other.remaining = feed.remaining → other.ending = feed.ending →
      other.readings = feed.readings) ∧
    ∀ lines : List (Text × LineEnd),
      (∀ line ∈ lines, '\n' ∉ line.1 ∧ line.1.getLast? ≠ some '\x0D') →
      feed.remaining = LineReader.encodeLines lines → feed.ending = .finished →
      feed.readings = lines.map (fun line => .line line.1) ++ [.endOfInput] := by
  intro complete rest
  refine ⟨⟨Cut.flatMap_closed_append _ _, fun line => Cut.not_mem_of_mem_closed,
    Cut.not_mem_remainder _ _⟩, feed.readings_eq, feed.next_after, ?_, ?_⟩
  · intro other bytes ending
    rw [other.readings_eq, feed.readings_eq, bytes, ending]
  · intro lines readable bytes finished
    rw [feed.readings_eq, bytes, finished, LineReader.readingsOf_encodeLines readable]

/-- A character, a line end and a line are divided between deliveries. -/
theorem readings_follow_bytes_across_deliveries :
    let lines : List (Text × LineEnd) :=
      [(Text.ofString "é", .afterReturn), ([], .bare), (['a', '\x0D', 'b'], .bare)]
    let feed : Feed :=
      { held := [0xC3]
        arrivals := [.interruption, .delivery 0xA9 [0x0D], .interruption,
          .delivery 0x0A [0x0A, 0x61, 0x0D], .delivery 0x62 [0x0A], .interruption] }
    let whole : Feed := { held := LineReader.encodeLines lines, arrivals := [] }
    (∀ line ∈ lines, '\n' ∉ line.1 ∧ line.1.getLast? ≠ some '\x0D') ∧
      feed.remaining = LineReader.encodeLines lines ∧
      feed.readings = lines.map (fun line => .line line.1) ++ [.endOfInput] ∧
      whole.readings = feed.readings ∧ (feed.after 5).next.1 = .endOfInput := by
  intro lines feed whole
  have readable : ∀ line ∈ lines, '\n' ∉ line.1 ∧ line.1.getLast? ≠ some '\x0D' := by
    decide +kernel
  have bytes : feed.remaining = LineReader.encodeLines lines := by decide +kernel
  have same : whole.remaining = feed.remaining := by decide +kernel
  rcases feed.readings_follow_bytes with ⟨-, -, later, alike, readBack⟩
  have readings := readBack lines readable bytes rfl
  refine ⟨readable, bytes, readings, alike whole same rfl, ?_⟩
  rw [later, readings]
  rfl

/-- Of the line in which the feed fails nothing is read. -/
example :
    readings { arrivals := [.delivery 0x61 [0x0A], .delivery 0x62 []], ending := .failed ['x'] } =
      [.line ['a'], .failure ['x']] := by
  decide +kernel

end Feed

end CommandShell
