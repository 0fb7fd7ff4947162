import CommandShell.Proofs.Feeds
import CommandShell.Proofs.SavedHistory

namespace CommandShell

/-! The records of a history file. Writing texts as records and reading them back cuts each at
its line feeds, takes a carriage return from the end of every piece and leaves the empty pieces
out. Of a file in which no line lacks its line feed, the records are the lines a reader has. -/

/-! ## Records and lines -/

theorem Text.dropLastIf_subset (last : Char) (text : Text) :
    Text.dropLastIf last text ⊆ text := by
  unfold Text.dropLastIf
  split
  · exact List.dropLast_subset text
  · exact List.Subset.refl text

theorem Text.dropLastIf_eq_self_iff (last : Char) (text : Text) :
    Text.dropLastIf last text = text ↔ text.getLast? ≠ some last := by
  unfold Text.dropLastIf
  split
  next ends =>
    have shorter : text.dropLast ≠ text := by
      intro same
      have inhabited : text ≠ [] := by
        rintro rfl
        cases ends
      have length := congrArg List.length same
      have positive := List.length_pos_iff.mpr inhabited
      rw [List.length_dropLast] at length
      omega
    simp [shorter, ends]
  next other => simp [other]

namespace History

theorem linesFrom_cons (line : Text) {character : Char} (different : character ≠ '\n')
    (rest : Text) : linesFrom line (character :: rest) = linesFrom (character :: line) rest := by
  rw [linesFrom]
  exact different

theorem linesFrom_of_not_mem (line : Text) {text : Text} (free : '\n' ∉ text) :
    linesFrom line text =
      if line.reverse ++ text = [] then [] else [line.reverse ++ text] := by
  induction text generalizing line with
  | nil => simp [linesFrom]
  | cons first others induction =>
    rcases not_or.mp (mt List.mem_cons.mpr free) with ⟨different, freeOthers⟩
    rw [linesFrom_cons line (Ne.symm different), induction _ freeOthers]
    simp

theorem linesFrom_append_lineFeed (line : Text) {text : Text} (free : '\n' ∉ text)
    (rest : Text) :
    linesFrom line (text ++ '\n' :: rest) =
      Text.dropLastIf '\x0D' (line.reverse ++ text) :: linesFrom [] rest := by
  induction text generalizing line with
  | nil => rw [List.nil_append, linesFrom, List.append_nil]
  | cons first others induction =>
    rcases not_or.mp (mt List.mem_cons.mpr free) with ⟨different, freeOthers⟩
    rw [List.cons_append, linesFrom_cons line (Ne.symm different), induction _ freeOthers]
    simp

/-- The pieces that line feeds end are lines, each without a carriage return at its end. What
stands behind the last line feed is one as it is. -/
theorem linesFrom_eq (text : Text) :
    linesFrom [] text =
      (Cut.closed '\n' text).map (Text.dropLastIf '\x0D') ++
        if Cut.remainder '\n' text = [] then [] else [Cut.remainder '\n' text] := by
  induction text using Cut.pieces_induction '\n' with
  | last piece free =>
    rw [linesFrom_of_not_mem [] free, Cut.closed_of_not_mem free, Cut.remainder_of_not_mem free]
    rfl
  | more piece rest free induction =>
    rw [linesFrom_append_lineFeed [] free, induction, Cut.closed_append_mark free,
      Cut.remainder_append]
    rfl

/-! ## Texts as records -/

theorem record_cons (text : Text) (rest : List Text) :
    record (text :: rest) = text ++ '\n' :: record rest := by
  simp [record]

theorem closed_record (texts : List Text) :
    Cut.closed '\n' (record texts) = texts.flatMap (Cut.all '\n') := by
  induction texts with
  | nil => rfl
  | cons text rest induction =>
    rw [record_cons, Cut.closed_append, induction, List.flatMap_cons]

theorem remainder_record (texts : List Text) : Cut.remainder '\n' (record texts) = [] := by
  induction texts with
  | nil => rfl
  | cons text rest induction => rw [record_cons, Cut.remainder_append, induction]

/-- What is left of texts that are written as records and read again. -/
def reread (texts : List Text) : List Text :=
  ((texts.flatMap (Cut.all '\n')).map (Text.dropLastIf '\x0D')).filter fun text => !text.isEmpty

theorem records_record_eq (texts : List Text) : records (record texts) = reread texts := by
  rw [records, linesFrom_eq, closed_record, remainder_record, if_pos rfl, List.append_nil, reread]

/-- A text that fills a line: it is not empty and does not go beyond the line. -/
structure IsRecord (text : Text) : Prop where
  inhabited : text ≠ []
  unbroken : '\n' ∉ text

theorem isRecord_of_mem_records {text file : Text} (member : text ∈ records file) :
    IsRecord text := by
  rcases List.mem_filter.mp member with ⟨line, inhabited⟩
  refine ⟨by simpa using inhabited, ?_⟩
  rw [linesFrom_eq, List.mem_append] at line
  rcases line with closed | last
  · rcases List.mem_map.mp closed with ⟨piece, isPiece, rfl⟩
    exact mt (Text.dropLastIf_subset _ _ ·) (Cut.not_mem_of_mem_closed isPiece)
  · split at last
    · cases last
    · rw [List.mem_singleton.mp last]
      exact Cut.not_mem_remainder '\n' file

theorem flatMap_all_of_unbroken {texts : List Text} (unbroken : ∀ text ∈ texts, '\n' ∉ text) :
    texts.flatMap (Cut.all '\n') = texts := by
  induction texts with
  | nil => rfl
  | cons text rest induction =>
    rcases List.forall_mem_cons.mp unbroken with ⟨here, onward⟩
    rw [List.flatMap_cons, Cut.all_of_not_mem here, induction onward, List.singleton_append]

/-- What is read of records is each text without a carriage return at its end. -/
theorem records_record {texts : List Text} (unbroken : ∀ text ∈ texts, '\n' ∉ text) :
    records (record texts) =
      (texts.map (Text.dropLastIf '\x0D')).filter fun text => !text.isEmpty := by
  rw [records_record_eq, reread, flatMap_all_of_unbroken unbroken]

/-- Records are read as they were exactly if none of them ends in a carriage return. -/
theorem records_record_eq_self_iff {texts : List Text}
    (areRecords : ∀ text ∈ texts, IsRecord text) :
    records (record texts) = texts ↔ ∀ text ∈ texts, text.getLast? ≠ some '\x0D' := by
  have each : texts.map (Text.dropLastIf '\x0D') = texts ↔
      ∀ text ∈ texts, text.getLast? ≠ some '\x0D' := by
    have fixed := List.map_inj_left (l := texts) (f := Text.dropLastIf '\x0D') (g := id)
    rw [List.map_id] at fixed
    simp only [fixed, id_eq, Text.dropLastIf_eq_self_iff]
  rw [records_record fun text member => (areRecords text member).unbroken, ← each]
  constructor
  · intro same
    have length := (congrArg List.length same).trans
      (List.length_map (Text.dropLastIf '\x0D')).symm
    rwa [List.filter_eq_self.mpr (List.length_filter_eq_length_iff.mp length)] at same
  · intro same
    rw [same, List.filter_eq_self]
    intro text member
    simpa using (areRecords text member).inhabited

/-- Texts are left as they were exactly if each fills a line and does not end in a carriage
return. -/
theorem reread_eq_self_iff (texts : List Text) :
    reread texts = texts ↔
      ∀ text ∈ texts, text ≠ [] ∧ '\n' ∉ text ∧ text.getLast? ≠ some '\x0D' := by
  rw [← records_record_eq]
  constructor
  · intro same
    have areRecords : ∀ text ∈ texts, IsRecord text := fun text member =>
      isRecord_of_mem_records (same.symm ▸ member)
    have ends := (records_record_eq_self_iff areRecords).mp same
    exact fun text member =>
      ⟨(areRecords text member).inhabited, (areRecords text member).unbroken, ends text member⟩
  · intro fit
    have areRecords : ∀ text ∈ texts, IsRecord text := fun text member =>
      ⟨(fit text member).1, (fit text member).2.1⟩
    exact (records_record_eq_self_iff areRecords).mpr fun text member => (fit text member).2.2

end History

/-! ## Saving and loading -/

/-- Whether there is a file at a path that can be written, or there could be a new one. -/
def World.isWritable (world : World) (path : Text) : Bool :=
  match world.files.locate world.place path .creation with
  | .ok (.entry _ node) => node.isWritable
  | .ok (.vacant _) => true
  | _ => false

theorem World.write_of_isWritable {world : World} {path : Text}
    (writable : world.isWritable path = true) (contents : Bytes) :
    ∃ after, world.write path contents = .ok after := by
  unfold isWritable at writable
  unfold write FileTree.write
  split at writable
  next file node located =>
    simp only [located, writable, if_true]
    exact ⟨_, rfl⟩
  next file located =>
    simp only [located]
    exact ⟨_, rfl⟩
  next => cases writable

namespace HistoryFile

variable {world : World} {path : Text}

/-- Saving a history and loading it again leaves the latest texts, as many as the file may hold,
as they were exactly if each of them fills a line and does not end in a carriage return. In
every case their pieces between line feeds are left, each without a carriage return at its
end, as far as they are not empty then, and they are numbered from one on. Only a file that
could not be read before cannot be loaded. -/
theorem load_of_save (writable : world.isWritable path = true) (history : History) (limit : Nat) :
    let kept := history.newest limit
    let again := History.ofTexts (History.reread kept)
    kept = history.texts.drop (history.texts.length - limit) ∧
    kept.length = min limit history.texts.length ∧
    (∃ after, save world path history limit = .ok after ∧
      (world.read path ≠ .error .accessDenied → load after path = .ok (some again)) ∧
      (world.read path = .error .accessDenied → load after path = .error .accessDenied)) ∧
    (again.texts = kept ↔
      ∀ text ∈ kept, text ≠ [] ∧ '\n' ∉ text ∧ text.getLast? ≠ some '\x0D') ∧
    again.entries = (List.range' 1 again.texts.length).zip again.texts ∧
    again.nextNumber = again.texts.length + 1 := by
  intro kept again
  have size : kept.length = min limit history.texts.length := by
    simp [kept, History.newest, History.texts]
  rcases World.write_of_isWritable writable (history.contents limit) with ⟨after, written⟩
  refine ⟨history.newest_eq_drop limit, size, ⟨after, written, ?_, ?_⟩, ?_, again.entries_eq_zip,
    again.nextNumber_eq⟩
  · intro allowed
    have contents := World.read_of_write written allowed
    rw [load, contents]
    dsimp only
    rw [History.ofContents, History.contents, Utf8.decodeLossy_encode, History.records_record_eq]
  · intro denied
    rcases World.read_after_write written with ⟨allowed, -⟩ | ⟨-, stillDenied⟩
    · exact absurd denied allowed
    · rw [load, stillDenied]
      rfl
  · rw [History.texts_ofTexts]
    exact History.reread_eq_self_iff kept

/-- Of four texts three are kept. One of these is divided, one is lost and one is left. -/
theorem load_of_save_beyond_lines :
    let path := Text.ofString "/h"
    let world := World.put { files := .empty } path
      (.file (Utf8.encode (Text.ofString "before\n")) 0o600)
    let history := History.ofTexts (["old", "x\r\ny", "\r", "z"].map Text.ofString)
    world.isWritable path = true ∧ world.read path ≠ .error .accessDenied ∧
      ∃ after, save world path history 3 = .ok after ∧
        load after path = .ok (some (.ofTexts (["x", "y", "z"].map Text.ofString))) := by
  intro path world history
  have writable : world.isWritable path = true := by decide +kernel
  have read : world.read path = .ok (Utf8.encode (Text.ofString "before\n")) := by decide +kernel
  have allowed : world.read path ≠ .error .accessDenied := by
    rw [read]
    nofun
  rcases load_of_save writable history 3 with ⟨-, -, ⟨after, saved, loaded, -⟩, -⟩
  have left : History.reread (history.newest 3) = ["x", "y", "z"].map Text.ofString := by
    decide +kernel
  refine ⟨writable, allowed, after, saved, ?_⟩
  rw [loaded allowed, left]

/-! ## The lines of a reader -/

/-- A reader has the lines of a file that the history would have, if no line of it lacks its
line feed: it cuts bytes and drops the carriage returns before it makes text of the lines, and
the history makes text of the whole file first. The records are those that are not empty. -/
theorem load_eq_readings {feed : Feed} (finished : feed.ending = .finished)
    (ends : LineReader.EndsLine feed.remaining) (holds : world.read path = .ok feed.remaining) :
    (Cut.closed LineReader.lineFeed feed.remaining).map
        (fun line => Utf8.decodeLossy (LineReader.dropCarriageReturn line)) =
      (Cut.closed '\n' (Utf8.decodeLossy feed.remaining)).map (Text.dropLastIf '\x0D') ∧
    feed.readings =
      (History.linesFrom [] (Utf8.decodeLossy feed.remaining)).map .line ++ [.endOfInput] ∧
    ∃ history, load world path = .ok (some history) ∧
      history.texts =
        (feed.readings.filterMap Reading.line?).filter fun text => !text.isEmpty := by
  have pieces : (Cut.closed LineReader.lineFeed feed.remaining).map LineReader.textOf =
      (Cut.closed '\n' (Utf8.decodeLossy feed.remaining)).map (Text.dropLastIf '\x0D') := by
    rw [Utf8.denotes_lineFeed.closed_decodeLossy, List.map_map]
    exact List.map_congr_left fun line _ => LineReader.textOf_eq line
  have nothing := LineReader.remainder_of_endsLine ends
  have lines : History.linesFrom [] (Utf8.decodeLossy feed.remaining) =
      (Cut.closed LineReader.lineFeed feed.remaining).map LineReader.textOf := by
    rw [History.linesFrom_eq, Utf8.denotes_lineFeed.remainder_decodeLossy, nothing, ← pieces]
    exact List.append_nil _
  have readings : feed.readings =
      (History.linesFrom [] (Utf8.decodeLossy feed.remaining)).map .line ++ [.endOfInput] := by
    rw [feed.readings_eq, LineReader.readingsOf, LineReader.lastReadings, nothing, finished, lines,
      List.map_map]
    rfl
  refine ⟨pieces, readings, .ofContents feed.remaining, ?_, ?_⟩
  · rw [load, holds]
  · have heard : ∀ lines : List Text,
        (lines.map Reading.line ++ [Reading.endOfInput]).filterMap Reading.line? = lines := by
      intro lines
      rw [List.filterMap_append, List.filterMap_map]
      exact (List.append_nil _).trans List.filterMap_some
    rw [readings, heard, History.ofContents, History.texts_ofTexts, History.records]

/-- Characters end too early before a carriage return, a line feed and the end of the file. -/
theorem load_eq_readings_of_no_text :
    let path := Text.ofString "/h"
    let bytes : Bytes := [0xE4, 0xB8, 0x0D, 0x0A, 0x0A, 0x61, 0x0D, 0x0D, 0x0A, 0xF0, 0x9F, 0x0A]
    let world := World.put { files := .empty } path (.file bytes 0o644)
    let feed : Feed :=
      { arrivals := [.delivery 0xE4 [], .interruption, .delivery 0xB8 [0x0D],
          .delivery 0x0A (bytes.drop 4)] }
    feed.ending = .finished ∧ LineReader.EndsLine feed.remaining ∧
      world.read path = .ok feed.remaining ∧
      feed.readings =
        [.line ['\uFFFD'], .line [], .line ['a', '\x0D'], .line ['\uFFFD'], .endOfInput] ∧
      ∃ history, load world path = .ok (some history) ∧
        history.texts = [['\uFFFD'], ['a', '\x0D'], ['\uFFFD']] := by
  intro path bytes world feed
  have ends : LineReader.EndsLine feed.remaining := .inr (by decide +kernel)
  have holds : world.read path = .ok feed.remaining := by decide +kernel
  have readings : feed.readings =
      [.line ['\uFFFD'], .line [], .line ['a', '\x0D'], .line ['\uFFFD'], .endOfInput] := by
    decide +kernel
  rcases load_eq_readings rfl ends holds with ⟨-, -, history, loaded, texts⟩
  refine ⟨rfl, ends, holds, readings, history, loaded, ?_⟩
  rw [texts, readings]
  rfl

end HistoryFile

end CommandShell
