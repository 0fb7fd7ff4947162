import CommandShell.Proofs.SavedHistory

namespace CommandShell

/-! Which file the history of a session is loaded from, and which file it is saved to. The
path of the history is fixed when the session begins and followed twice, from where the
session stands then and from where it stands when it ends. -/

/-- What has been found at a path is what is there. -/
def Located.IsAt (files : FileTree) : Located → Prop
  | .directory _ => True
  | .entry path node => files.node? path = some node
  | .vacant path => files.node? path = none

namespace FileTree

variable {files after : FileTree} {place : Place} {text : Text} {path : Path} {found : Located}

/-! ## Files and their paths -/

/-- The path of the file that a text names, or of the one that would be created for it. -/
def fileNamed? (files : FileTree) (place : Place) (text : Text) : Option Path :=
  match files.locate place text with
  | .ok found => found.path?
  | .error _ => none

/-- What is read from the file at a path. -/
def readAt (files : FileTree) (path : Path) : Except Fault Bytes :=
  match files.node? path with
  | some node => if node.isReadable then .ok node.contents else .error .accessDenied
  | none => .error .noSuchEntry

/-- The files after the one at a path has been created or given other contents. -/
def overwrite (files : FileTree) (path : Path) (contents : Bytes) : FileTree :=
  files.set path <|
    match files.node? path with
    | some node => node.withContents contents
    | none => .file contents Node.newPermissions

theorem leads_of_locate {purpose : Purpose} (located : files.locate place text purpose = .ok found) :
    Leads files (linkLimit + 1) (origin text place) (names text) found := by
  unfold locate at located
  split at located
  · cases located
  · split at located
    · cases located
    · split at located
      · cases located
      · exact leads_of_followLinks located

theorem Leads.isAt {limit : Nat} {names : List Text} (leads : Leads files limit place names found) :
    found.IsAt files := by
  induction leads with
  | stop => trivial
  | stay _ _ induction => exact induction
  | climb _ induction => exact induction
  | enter _ _ _ induction => exact induction
  | follow _ _ _ induction => exact induction
  | vacant _ nothing => exact nothing
  | entry _ something _ => exact something

/-- Reading a file depends on its path alone. -/
theorem read_eq_readAt (named : files.fileNamed? place text = some path) :
    files.read place text = files.readAt path := by
  unfold fileNamed? at named
  cases located : files.locate place text with
  | error fault => simp [located] at named
  | ok found =>
    have there := (leads_of_locate located).isAt
    rw [located] at named
    rw [read, readAt, located]
    cases found with
    | directory => cases named
    | entry other node =>
      cases named
      rw [there]
    | vacant other =>
      cases named
      rw [there]

/-- A write overwrites the file that is named, and no other. -/
theorem write_eq_ok {contents : Bytes} (written : files.write place text contents = .ok after) :
    ∃ path, files.fileNamed? place text = some path ∧ after = files.overwrite path contents := by
  unfold write at written
  cases located : files.locate place text .creation with
  | error fault => simp [located] at written
  | ok found =>
    have there := (leads_of_locate located).isAt
    have named : files.fileNamed? place text = found.path? := by
      have same : files.locate place text = .ok found := locate_of_leads located id
      rw [fileNamed?, same]
    rw [located] at written
    cases found with
    | directory => cases written
    | entry other node =>
      dsimp only at written
      split at written
      · cases written
        refine ⟨other, named, ?_⟩
        rw [overwrite, there]
      · cases written
    | vacant other =>
      cases written
      refine ⟨other, named, ?_⟩
      rw [overwrite, there]

end FileTree

/-! ## The file of the history -/

namespace World

def fileNamed? (world : World) (text : Text) : Option Path :=
  world.files.fileNamed? world.place text

theorem fileNamed?_eq {one two : World} (same : one.files = two.files) {text : Text}
    (steady : text.head? = some '/' ∨ one.place = two.place) :
    one.fileNamed? text = two.fileNamed? text := by
  rw [fileNamed?, fileNamed?, FileTree.fileNamed?, FileTree.fileNamed?, same]
  rcases steady with absolute | standing
  · rw [FileTree.locate_of_absolute absolute one.place two.place]
  · rw [standing]

end World

/-- The file that a session in this world begins with the contents of. -/
def Settings.loadedFile? (settings : Settings) (world : World) : Option Path :=
  settings.historyPath.bind world.fileNamed?

namespace Shell

/-- The file that the shell overwrites when it is closed. -/
def savedFile? (shell : Shell) : Option Path :=
  shell.settings.historyPath.bind fun name =>
    match HistoryFile.save shell.world name shell.session.history shell.settings.historyLimit with
    | .ok _ => shell.world.fileNamed? name
    | .error _ => none

theorem files_close (shell : Shell) :
    shell.close.world.files =
      match shell.savedFile? with
      | some path =>
        shell.world.files.overwrite path
          (shell.session.history.contents shell.settings.historyLimit)
      | none => shell.world.files := by
  have flushed : shell.flush = { shell with console := shell.flush.console } := by
    unfold flush
    split <;> rfl
  rw [close, flushed, saveHistory, savedFile?]
  cases shell.settings.historyPath with
  | none => rfl
  | some name =>
    simp only [Option.bind_some]
    cases saved : HistoryFile.save shell.world name shell.session.history
        shell.settings.historyLimit with
    | error fault => rfl
    | ok after =>
      unfold HistoryFile.save World.write at saved
      cases written : shell.world.files.write shell.world.place name
          (shell.session.history.contents shell.settings.historyLimit) with
      | error fault => simp [written] at saved
      | ok files =>
        rcases FileTree.write_eq_ok written with ⟨path, place, overwritten⟩
        rw [written] at saved
        cases saved
        rw [World.fileNamed?, place]
        exact overwritten

theorem historyPath_start {settings : Settings} {session : Session} {world : World}
    {console : Console} {name : Text}
    (named : (Shell.start settings session world console).settings.historyPath = some name) :
    settings.historyPath = some name := by
  cases given : settings.historyPath with
  | none => simp [start, given] at named
  | some path =>
    cases loaded : HistoryFile.load world path with
    | ok found =>
      rw [(start_of_loaded given loaded session console).1] at named
      exact given.symm.trans named
    | error fault =>
      rw [(start_of_fault given loaded session console).1] at named
      cases named

theorem start_keeps (settings : Settings) (session : Session) (world : World)
    (console : Console) :
    (Shell.start settings session world console).world = world ∧
      (Shell.start settings session world console).settings.historyLimit =
        settings.historyLimit := by
  unfold start
  dsimp only
  split
  · exact ⟨rfl, rfl⟩
  · split <;> exact ⟨rfl, rfl⟩

/-- A run leaves the files alone to its end, and then overwrites at most the file that the
path of the history leads to from where the session has arrived. The history had been loaded
from the file that the path led to from where the session began, which is the same file
exactly if the path leads to the same file from both places. An absolute path does, and so
does any path when the session has returned to where it began. -/
theorem savedFile_of_run (settings : Settings) (session : Session) (world : World)
    (console : Console) (source : Source) :
    let begun := Shell.start settings session world console
    let drained := begun.drain source
    drained.world.files = world.files ∧
      (begun.runOver source).2.world.files =
        (match drained.savedFile? with
          | some path =>
            world.files.overwrite path
              (drained.session.history.contents settings.historyLimit)
          | none => world.files) ∧
      ∀ saved, drained.savedFile? = some saved →
        ∃ name, settings.historyPath = some name ∧
          drained.world.fileNamed? name = some saved ∧
          (∀ loaded, settings.loadedFile? world = some loaded →
            world.read name = world.files.readAt loaded) ∧
          (settings.loadedFile? world = some saved ↔
            world.fileNamed? name = drained.world.fileNamed? name) ∧
          (name.head? = some '/' ∨ world.place = drained.world.place →
            settings.loadedFile? world = some saved) := by
  intro begun drained
  rcases start_keeps settings session world console with ⟨sameWorld, sameLimit⟩
  rcases (runInvariant_files begun.settings world.files).drain
    ⟨rfl, congrArg World.files sameWorld⟩ source.offers_anything with ⟨kept, unchanged⟩
  refine ⟨unchanged, ?_, ?_⟩
  · rw [runOver, files_close]
    have limit : drained.settings.historyLimit = settings.historyLimit :=
      (congrArg Settings.historyLimit kept).trans sameLimit
    rw [limit, unchanged]
  · intro saved overwritten
    rcases Option.bind_eq_some_iff.mp overwritten with ⟨name, path, place⟩
    have given : settings.historyPath = some name :=
      historyPath_start ((congrArg Settings.historyPath kept).symm.trans path)
    have loadedFile : settings.loadedFile? world = world.fileNamed? name := by
      rw [Settings.loadedFile?, given, Option.bind_some]
    have there : drained.world.fileNamed? name = some saved := by
      split at place
      · exact place
      · cases place
    refine ⟨name, given, there, ?_, ?_, ?_⟩
    · intro loaded named
      rw [loadedFile] at named
      exact FileTree.read_eq_readAt named
    · rw [loadedFile, there]
    · intro steady
      rw [loadedFile, ← there]
      exact World.fileNamed?_eq unchanged.symm steady

/-- The home directory is relative, and the session ends in a directory with a home of its
own. The history of the first home replaces that of the second. -/
theorem savedFile_behind_relative_home :
    let environment : Environment := .ofList [(Text.ofString "HOME", Text.ofString "h")]
    let here := Text.ofString "/h/.shell_history"
    let there := Text.ofString "/sub/h/.shell_history"
    let file (text : String) : Node := .file (Utf8.encode (Text.ofString text)) 0o644
    let world := (World.put { files := .empty } here (file "old\n")).put there (file "mine\n")
    let begun := Shell.start (Settings.ofEnvironment .standardInput environment)
      (.ofEnvironment environment [] 7) world {}
    let ended := (begun.runOver (.listed [.line (Text.ofString "cd sub")])).2.world
    begun.session.history.texts = [Text.ofString "old"] ∧
      ended.read here = .ok (Utf8.encode (Text.ofString "old\n")) ∧
      ended.read there = .ok (Utf8.encode (Text.ofString "old\ncd sub\n")) := by
  intro environment here there file world begun ended
  exact ⟨by decide +kernel, by decide +kernel, by decide +kernel⟩

end Shell

end CommandShell
