import CommandShell.Proofs.Runs
import CommandShell.Proofs.Storage

namespace CommandShell

/-! What a session leaves in its history file: the texts that were in it and the lines
that have been executed since, as many of the latest as the file may hold. -/

/-! ## Lines with commands -/

def Reading.line? : Reading → Option Text
  | .line text => some text
  | _ => none

/-- The lines with commands among the readings. -/
def commandLines (readings : List Reading) : List Text :=
  (readings.filterMap Reading.line?).filter Chain.hasCommand

namespace Shell

variable {shell : Shell}

theorem history_conclude (shell : Shell) (outcome : Outcome) :
    (shell.conclude outcome).session.history = shell.session.history := by
  cases outcome <;> rfl

/-- Nothing but a line with a command adds to the history. -/
theorem runInvariant_history (history : History) :
    RunInvariant (fun _ => False) fun shell => shell.session.history = history where
  record := fun same _ => same
  segment := fun same segment => (congrArg Ground.history (ground_segment _ segment)).trans same
  conclude := fun same outcome => (history_conclude _ outcome).trans same
  write := fun same _ _ => same
  complain := id
  remember := fun _ _ admitted _ => admitted.elim
  count := id
  input := fun same _ => same

/-- A line is remembered once if it holds a command, whatever its commands do. -/
theorem history_submit (shell : Shell) (line : Text) :
    (shell.submit line).2.session.history.texts =
      shell.session.history.texts ++ [line].filter Chain.hasCommand := by
  rcases submit_cases shell line with
    ⟨noCommand, _, session⟩ | ⟨segments, command, _, executed⟩
  · rw [session]
    simp [noCommand]
  · have begun : (shell.begin line segments).session.history = shell.session.history.push line :=
      rfl
    have kept := ((runInvariant_history _).toChainInvariant.chain begun segments).1
    rw [executed, kept, History.texts_push]
    simp [command]

/-! ## Readings that are taken -/

/-- Whether a run ends with this reading: the input does, or the line asks for it. -/
def endsWith (shell : Shell) : Reading → Bool
  | .line line => ((shell.accept line).submit line).1.isSome
  | .interrupt => false
  | .endOfInput | .failure _ => true

/-- The readings up to the one that ends the run, itself included. -/
def readingsTaken : List Reading → Shell → List Reading
  | [], _ => []
  | reading :: rest, shell =>
    reading ::
      if shell.invite.endsWith reading then []
      else readingsTaken rest (shell.invite.take reading).2

theorem take_fst (shell : Shell) (reading : Reading) :
    (shell.take reading).1 = if shell.endsWith reading then .ended else .goesOn := by
  cases reading with
  | line line =>
    unfold take endsWith
    dsimp only
    split
    next same => simp [same]
    next same => simp [same]
  | _ => rfl

/-- What goes on after a reading goes on unless the reading ends the run. -/
theorem match_take (shell : Shell) (reading : Reading) (next : Shell → Shell) :
    (match shell.take reading with
      | (.goesOn, after) => next after
      | (.ended, after) => after) =
      if shell.endsWith reading then (shell.take reading).2
      else next (shell.take reading).2 := by
  have progress := take_fst shell reading
  rcases taken : shell.take reading with ⟨goesOn | ended, after⟩ <;> rw [taken] at progress
  · have goesOn : shell.endsWith reading = false := by simpa using progress
    simp [goesOn]
  · have ends : shell.endsWith reading = true := by simpa using progress
    simp [ends]

theorem takeAll_cons (reading : Reading) (rest : List Reading) (shell : Shell) :
    takeAll (reading :: rest) shell =
      if shell.invite.endsWith reading then (shell.invite.take reading).2
      else takeAll rest (shell.invite.take reading).2 := by
  rw [takeAll]
  exact match_take shell.invite reading (takeAll rest)

theorem history_take (shell : Shell) (reading : Reading) :
    (shell.take reading).2.session.history.texts =
      shell.session.history.texts ++ commandLines [reading] := by
  have kept : (∀ line, reading ≠ .line line) →
      (shell.take reading).2.session.history = shell.session.history :=
    (runInvariant_history _).take rfl
  cases reading with
  | line line =>
    have accepted := (runInvariant_history _).accept (rfl : shell.session.history = _) line
    rw [RunInvariant.take_line, history_submit, accepted]
    simp [commandLines, Reading.line?]
  | _ =>
    rw [kept nofun]
    simp [commandLines, Reading.line?]

theorem commandLines_cons (reading : Reading) (rest : List Reading) :
    commandLines (reading :: rest) = commandLines [reading] ++ commandLines rest := by
  rw [← List.singleton_append, commandLines, List.filterMap_append, List.filter_append]
  rfl

/-- A run adds the lines with commands of the readings it takes. -/
theorem history_takeAll (readings : List Reading) (shell : Shell) :
    (takeAll readings shell).session.history.texts =
      shell.session.history.texts ++ commandLines (readingsTaken readings shell) := by
  induction readings generalizing shell with
  | nil =>
    have invited := (runInvariant_history _).invite (rfl : shell.session.history = _)
    rw [takeAll, history_take, invited]
    rfl
  | cons reading rest induction =>
    have invited := (runInvariant_history _).invite (rfl : shell.session.history = _)
    rw [takeAll_cons, readingsTaken, commandLines_cons]
    split
    · rw [history_take, invited]
      simp [commandLines]
    · rw [induction, history_take, invited, List.append_assoc]

theorem readingsTaken_isPrefix (readings : List Reading) (shell : Shell) :
    readingsTaken readings shell <+: readings := by
  induction readings generalizing shell with
  | nil => exact List.prefix_rfl
  | cons reading rest induction =>
    rw [readingsTaken]
    split
    · exact ⟨rest, rfl⟩
    · exact (List.prefix_append_right_inj [reading]).mpr (induction _)

/-! ## Settings and files -/

/-- Runs leave the files to the end. -/
theorem runInvariant_files (settings : Settings) (files : FileTree) :
    RunInvariant (fun _ => True) fun shell =>
      shell.settings = settings ∧ shell.world.files = files where
  record := fun same _ => same
  segment := by
    intro shell ⟨sameSettings, sameFiles⟩ segment
    have ground := ground_segment shell segment
    exact ⟨(congrArg Ground.settings ground).trans sameSettings,
      (congrArg Ground.files ground).trans sameFiles⟩
  conclude := by
    intro shell same outcome
    cases outcome <;> exact same
  write := fun same _ _ => same
  complain := id
  remember := fun same _ _ _ => same
  count := id
  input := fun same _ => same

theorem sessionInvariant_noPath :
    SessionInvariant fun shell => shell.settings.historyPath = none where
  record := fun same _ => same
  segment := by
    intro shell same segment
    have ground := congrArg Ground.settings (ground_segment shell segment)
    exact (congrArg Settings.historyPath ground).trans same
  conclude := by
    intro shell same outcome
    cases outcome <;> exact same
  write := fun same _ _ => same
  complain := id
  remember := fun same _ _ _ => same
  count := id
  input := fun same _ => same
  surround := fun same _ _ _ => same

theorem saveHistory_of_noPath (noPath : shell.settings.historyPath = none) :
    shell.saveHistory = shell := by
  rw [saveHistory, noPath]

/-- A session without a history file writes no file. -/
theorem files_perform (noPath : shell.settings.historyPath = none) (operation : Operation) :
    (operation.perform shell).world.files = shell.world.files := by
  have saves : ∀ {other : Shell},
      other.settings = shell.settings ∧ other.world.files = shell.world.files →
        other.saveHistory.settings = shell.settings ∧
          other.saveHistory.world.files = shell.world.files := by
    intro other same
    rw [saveHistory_of_noPath (same.1 ▸ noPath)]
    exact same
  exact ((runInvariant_files _ _).perform saves ⟨rfl, rfl⟩ operation).2

/-! ## Beginning and end -/

section

variable {settings : Settings} {path : Text} {world : World}

theorem start_of_loaded (named : settings.historyPath = some path) {found : Option History}
    (loaded : HistoryFile.load world path = .ok found) (session : Session) (console : Console) :
    let begun := Shell.start settings session world console
    begun.settings = settings ∧ begun.world = world ∧
      begun.session.history.texts = found.elim [] History.texts := by
  cases found <;> simp [start, named, loaded, History.texts, log, record]

theorem start_of_fault (named : settings.historyPath = some path) {fault : Fault}
    (failed : HistoryFile.load world path = .error fault) (session : Session)
    (console : Console) :
    let begun := Shell.start settings session world console
    begun.settings.historyPath = none ∧ begun.session = session := by
  simp only [start, named, failed]
  exact ⟨rfl, rfl⟩

theorem session_close (shell : Shell) : shell.close.session = shell.session := by
  have flushed : shell.flush.session = shell.session := by
    unfold flush
    split <;> rfl
  rw [close, saveHistory]
  split
  · exact flushed
  · dsimp only
    split <;> exact flushed

theorem world_close {saved : World} (named : shell.settings.historyPath = some path)
    (written : HistoryFile.save shell.world path shell.session.history
      shell.settings.historyLimit = .ok saved) :
    shell.close.world = saved := by
  have flushed : shell.flush = { shell with console := shell.flush.console } := by
    unfold flush
    split <;> rfl
  rw [close, flushed, saveHistory]
  simp only [named, written]
  rfl

variable {begun : Shell} {session : Session} {console : Console} {found : Option History}
  {source : Source}

/-- When a run has ended, its history file holds the latest texts of its history. -/
theorem read_after_run (named : settings.historyPath = some path)
    (absolute : path.head? = some '/') (loaded : HistoryFile.load world path = .ok found)
    (begins : begun = Shell.start settings session world console)
    (saves : (HistoryFile.save (begun.drain source).world path
      (begun.drain source).session.history settings.historyLimit).isOk = true) :
    (begun.runOver source).2.world.read path =
      .ok ((begun.drain source).session.history.contents settings.historyLimit) := by
  rcases start_of_loaded named loaded session console with ⟨sameSettings, sameWorld, _⟩
  rw [← begins] at sameSettings sameWorld
  have kept : (begun.drain source).settings = settings ∧
      (begun.drain source).world.files = world.files :=
    (runInvariant_files _ _).drain ⟨sameSettings, congrArg World.files sameWorld⟩
      source.offers_anything
  cases written : HistoryFile.save (begun.drain source).world path
      (begun.drain source).session.history settings.historyLimit with
  | error fault =>
    rw [written] at saves
    cases saves
  | ok saved =>
    have ended : (begun.runOver source).2.world = saved := by
      apply world_close
      · rw [kept.1, named]
      · rw [kept.1, written]
    rw [ended]
    exact HistoryFile.read_of_save absolute kept.2.symm loaded written

/-- A run over any readings leaves in the history file the latest of the texts that were
there and of the lines with commands that it has taken, and nothing else. A session that
could not read the file keeps the history it had and never writes a file. -/
theorem run_leaves_history (named : settings.historyPath = some path)
    (absolute : path.head? = some '/') (session : Session) (console : Console)
    (readings : List Reading) :
    let begun := Shell.start settings session world console
    let drained := takeAll readings begun
    let taken := readingsTaken readings begun
    taken <+: readings ∧
      (∀ found, HistoryFile.load world path = .ok found →
        (HistoryFile.save drained.world path drained.session.history
          settings.historyLimit).isOk = true →
        let texts := found.elim [] History.texts ++ commandLines taken
        (begun.run readings).2.world.read path =
          .ok (Utf8.encode
            (History.record (texts.drop (texts.length - settings.historyLimit))))) ∧
      ∀ fault, HistoryFile.load world path = .error fault →
        begun.session = session ∧
          ∀ shell, Reached begun shell → ∀ operation : Operation,
            (operation.perform shell).world.files = shell.world.files := by
  intro begun drained taken
  refine ⟨readingsTaken_isPrefix readings begun, ?_, ?_⟩
  · intro found loaded saves
    have texts : drained.session.history.texts =
        found.elim [] History.texts ++ commandLines taken := by
      rw [history_takeAll, (start_of_loaded named loaded session console).2.2]
    have left := @read_after_run settings path world begun session console found
      (.listed readings) named absolute loaded rfl saves
    have drains : begun.drain (.listed readings) = drained := rfl
    rw [runOver_listed, drains] at left
    rw [left, History.contents, History.newest_eq_drop, texts]
  · intro fault failed
    rcases start_of_fault named failed session console with ⟨noPath, same⟩
    refine ⟨same, ?_⟩
    intro shell reached operation
    exact files_perform (sessionInvariant_noPath.reached noPath reached) operation

/-- A comment, a line that is rejected, an interrupt, and a line that asks for the end
before its last command; the file holds no more than three texts. -/
theorem run_leaves_history_up_to_exit :
    let settings : Settings :=
      { mode := .standardInput, historyPath := some (Text.ofString "/h"), historyLimit := 3 }
    let world := World.put { files := .empty } (Text.ofString "/h")
      (.file (Utf8.encode (Text.ofString "one\n\ntwo\r\nthree")) 0o600)
    let session := Session.ofEnvironment .empty [] 7
    let exiting := Text.ofString " cd /x || exit 3; history"
    let readings : List Reading :=
      [.line (Text.ofString "# exit"), .line (Text.ofString "exit &&"), .interrupt,
        .line exiting, .line (Text.ofString "history")]
    settings.historyPath = some (Text.ofString "/h") ∧
      (Text.ofString "/h").head? = some '/' ∧
      commandLines (readingsTaken readings (Shell.start settings session world {})) = [exiting] ∧
      ((Shell.start settings session world {}).run readings).2.world.read (Text.ofString "/h") =
        .ok (Utf8.encode (Text.ofString "two\nthree\n cd /x || exit 3; history\n")) := by
  intro settings world session exiting readings
  have leaves := @run_leaves_history settings (Text.ofString "/h") world rfl rfl session {}
    readings
  have taken : commandLines (readingsTaken readings (Shell.start settings session world {})) =
      [exiting] := by decide +kernel
  have loaded : HistoryFile.load world (Text.ofString "/h") =
      .ok (some (.ofTexts (["one", "two", "three"].map Text.ofString))) := by decide +kernel
  have works : (HistoryFile.save
      (takeAll readings (Shell.start settings session world {})).world (Text.ofString "/h")
      (takeAll readings (Shell.start settings session world {})).session.history
      settings.historyLimit).isOk = true := by decide +kernel
  have left := leaves.2.1 _ loaded works
  rw [taken] at left
  refine ⟨rfl, rfl, taken, ?_⟩
  rw [left]
  decide +kernel

end

end Shell

end CommandShell
