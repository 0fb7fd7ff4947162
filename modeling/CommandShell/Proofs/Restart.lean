import CommandShell.Proofs.Records
import CommandShell.Proofs.SavedHistory

namespace CommandShell

/-! What the next session finds of a history. A file is written text by text and read line
by line, and a carriage return at the end of a text counts as part of the line end when it
is read. -/

/-! ## Restarting -/

/-- The sources that take their lines from bytes, whether these are text or not. -/
inductive Source.ReadsBytes : Source → Prop
  | reader (reader : LineReader) (lossy : reader.decoding = .lossy) :
      ReadsBytes (.listed reader.readings)
  | standardInput : ReadsBytes (.standardInput .lossy)

theorem Source.ReadsBytes.offers {source : Source} (reads : source.ReadsBytes) :
    source.Offers fun line => '\n' ∉ line := by
  cases reads with
  | reader reader lossy =>
    intro line member
    exact LineReader.lineFeed_not_mem_readings lossy member
  | standardInput =>
    intro reader lossy line read
    exact LineReader.lineFeed_not_mem_next lossy read

namespace Shell

theorem hasCommand_nil : Chain.hasCommand [] = false := by decide +kernel

theorem runInvariant_isRecord :
    RunInvariant (fun line => '\n' ∉ line) fun shell =>
      ∀ text ∈ shell.session.history.texts, History.IsRecord text where
  record := fun holds _ => holds
  segment := by
    intro shell holds segment
    have same := congrArg Ground.history (ground_segment shell segment)
    have history : (shell.segment segment).2.session.history = shell.session.history := same
    rw [history]
    exact holds
  conclude := by
    intro shell holds outcome
    cases outcome <;> exact holds
  write := fun holds _ _ => holds
  complain := id
  remember := by
    intro shell holds line unbroken command text member
    rcases List.mem_append.mp (History.texts_push _ _ ▸ member) with old | new
    · exact holds text old
    · have inhabited : line ≠ [] := by
        rintro rfl
        rw [hasCommand_nil] at command
        cases command
      exact List.mem_singleton.mp new ▸ ⟨inhabited, unbroken⟩
  count := id
  input := fun holds _ => holds

/-- All texts of a history that has been loaded fill lines. -/
theorem isRecord_of_loaded {world : World} {path : Text} {found : Option History}
    (loaded : HistoryFile.load world path = .ok found) :
    ∀ text ∈ found.elim [] History.texts, History.IsRecord text := by
  unfold HistoryFile.load at loaded
  split at loaded
  next bytes _ =>
    cases loaded
    intro text member
    rw [Option.elim_some, History.ofContents, History.texts_ofTexts] at member
    exact History.isRecord_of_mem_records member
  next =>
    split at loaded
    · cases loaded
      simp
    · cases loaded

section

variable {settings next : Settings} {path : Text} {world nextWorld : World} {begun : Shell}
  {session nextSession : Session} {console nextConsole : Console} {found : Option History}
  {source : Source}

/-- A session that begins with the history file of the one before it has the texts that
were saved, each without a carriage return at its end and the empty ones left out. So it
has them as they were exactly if none of them ends in one. -/
theorem restart_finds_records (named : settings.historyPath = some path)
    (absolute : path.head? = some '/')
    (loaded : HistoryFile.load world path = .ok found)
    (begins : begun = Shell.start settings session world console)
    (reads : source.ReadsBytes)
    (saves : (HistoryFile.save (begun.drain source).world path
      (begun.drain source).session.history settings.historyLimit).isOk = true)
    (handed : nextWorld.files = (begun.runOver source).2.world.files)
    (again : next.historyPath = some path) :
    let kept := (begun.runOver source).2.session.history.newest settings.historyLimit
    let history := (Shell.start next nextSession nextWorld nextConsole).session.history
    history.texts =
        (kept.map (Text.dropLastIf '\x0D')).filter (fun text => !text.isEmpty) ∧
      (history.texts = kept ↔ ∀ text ∈ kept, text.getLast? ≠ some '\x0D') ∧
      history.entries = (List.range' 1 history.texts.length).zip history.texts ∧
      history.nextNumber = history.texts.length + 1 := by
  intro kept history
  have session : (begun.runOver source).2.session = (begun.drain source).session :=
    session_close _
  have newest : kept = (begun.drain source).session.history.newest settings.historyLimit := by
    rw [← session]
  have areRecords : ∀ text ∈ kept, History.IsRecord text := by
    have atStart : ∀ text ∈ begun.session.history.texts, History.IsRecord text := by
      rw [begins, (start_of_loaded named loaded _ console).2.2]
      exact isRecord_of_loaded loaded
    have atEnd := runInvariant_isRecord.drain atStart reads.offers
    rw [newest, History.newest_eq_drop]
    exact fun text member => atEnd text (List.mem_of_mem_drop member)
  have texts : history.texts = History.records (History.record kept) := by
    have left := read_after_run named absolute loaded begins saves
    have after : HistoryFile.load nextWorld path = .ok (some (.ofContents
        ((begun.drain source).session.history.contents settings.historyLimit))) := by
      rw [HistoryFile.load_eq_of_files absolute handed, HistoryFile.load, left]
    rw [(start_of_loaded again after nextSession nextConsole).2.2, Option.elim_some,
      History.ofContents, History.texts_ofTexts, History.contents, Utf8.decodeLossy_encode,
      ← newest]
  refine ⟨?_, ?_, history.entries_eq_zip, history.nextNumber_eq⟩
  · rw [texts]
    exact History.records_record fun text member => (areRecords text member).unbroken
  · rw [texts]
    exact History.records_record_eq_self_iff areRecords

/-- Of the texts in the file one is lost, and of the lines one is changed. -/
theorem restart_finds_records_without_returns :
    let path := Text.ofString "/h"
    let settings : Settings := { mode := .standardInput, historyPath := some path }
    let world := World.put { files := .empty } path
      (.file (Utf8.encode (Text.ofString "\r\r\nold\n")) 0o600)
    let session := Session.ofEnvironment .empty [] 7
    let begun := Shell.start settings session world {}
    let reader : LineReader :=
      { deliveries := [Utf8.encode (Text.ofString "help\r\r\nhis"),
          Utf8.encode (Text.ofString "tory\r\n")] }
    let source := Source.listed reader.readings
    (begun.runOver source).2.session.history.newest settings.historyLimit =
        ["\r", "old", "help\r", "history"].map Text.ofString ∧
      (Shell.start settings session (begun.runOver source).2.world {}).session.history.texts =
        ["old", "help", "history"].map Text.ofString := by
  intro path settings world session begun reader source
  have loaded : HistoryFile.load world path =
      .ok (some (.ofTexts (["\r", "old"].map Text.ofString))) := by decide +kernel
  have saves : (HistoryFile.save (begun.drain source).world path
      (begun.drain source).session.history settings.historyLimit).isOk = true := by
    decide +kernel
  have kept : (begun.runOver source).2.session.history.newest settings.historyLimit =
      ["\r", "old", "help\r", "history"].map Text.ofString := by decide +kernel
  have reads : source.ReadsBytes := .reader reader rfl
  have finds := @restart_finds_records settings settings path world
    (begun.runOver source).2.world begun session session {} {} _ source rfl rfl loaded rfl reads
    saves rfl rfl
  rw [kept] at finds
  exact ⟨kept, finds.1⟩

/-- A line that ends in two carriage returns before its line feed is remembered with one of
them, and the next session has it without any. -/
theorem restart_loses_return :
    let path := Text.ofString "/h"
    let settings : Settings := { mode := .standardInput, historyPath := some path }
    let session := Session.ofEnvironment .empty [] 7
    let begun := Shell.start settings session { files := .empty } {}
    let source := Source.listed (LineReader.readings
      { deliveries := [Utf8.encode (Text.ofString "help\r\r\n")] })
    let ended := (begun.runOver source).2
    let again := Shell.start settings session ended.world {}
    HistoryFile.load { files := .empty } path = .ok none ∧
      (HistoryFile.save (begun.drain source).world path (begun.drain source).session.history
        settings.historyLimit).isOk = true ∧
      ended.session.history.newest settings.historyLimit = [Text.ofString "help\r"] ∧
      again.session.history.texts = [Text.ofString "help"] := by
  intro path settings session begun source ended again
  exact ⟨by decide +kernel, by decide +kernel, by decide +kernel, by decide +kernel⟩

end

end Shell

end CommandShell
