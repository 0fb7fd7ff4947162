import CommandShell.Proofs.Cutoff
import CommandShell.Proofs.RunSimulation

namespace CommandShell

/-! What a request for the end that an earlier line has left behind does to a later run. It
changes nothing but the code: a run in which no line asks for the end returns what had been
asked for before. -/

namespace Shell

/-! ## Shells that differ in their request -/

def withRequest (request : Option Int) (shell : Shell) : Shell :=
  { shell with session := { shell.session with exitRequest := request } }

/-- All there is to a shell but what it has been asked for. -/
def besideRequest (shell : Shell) : Shell :=
  shell.withRequest none

variable {left right : Shell}

theorem written_besideRequest (same : left.besideRequest = right.besideRequest)
    (stream : Stream) (text : Text) :
    Agree (fun left right => left.besideRequest = right.besideRequest) (left.write stream text)
      (right.write stream text) :=
  ⟨congrArg (fun shell => (shell.write stream text).1) same,
    congrArg (fun shell => (shell.write stream text).2) same⟩

theorem reportsAgree_besideRequest :
    ReportsAgree fun left right => left.besideRequest = right.besideRequest := by
  intro left right same command message
  exact ⟨congrArg (fun shell => (shell.report command message).1) same,
    congrArg (fun shell => (shell.report command message).2) same⟩

/-- No line can tell what has been asked for before it. -/
theorem runSimulation_besideRequest :
    RunSimulation fun left right => left.besideRequest = right.besideRequest where
  seen := by
    intro left right same
    have seen : SeenAlike left.besideRequest right.besideRequest := same ▸ .refl left.besideRequest
    exact ⟨seen.environment, seen.aliases, seen.previousDirectory, seen.processId, seen.world,
      seen.flushFault⟩
  record := fun same event => congrArg (fun shell => shell.record event) same
  print := fun same text => written_besideRequest same .output text
  listHistory := by
    intro left right same
    have histories := congrArg (fun shell => shell.session.history) same
    have listings : left.session.history = right.session.history := histories
    rw [listings]
    exact written_besideRequest same .output _
  revise := fun same environment aliases previousDirectory world =>
    congrArg (fun shell => shell.revise environment aliases previousDirectory world) same
  reportOrWarn := fun same command message =>
    (reportsAgree_besideRequest _ _ same command message).warned fun same event =>
      congrArg (fun shell => shell.record event) same
  status := by
    intro left right same
    have statuses := congrArg (fun shell => shell.session.status) same
    exact statuses
  conclude := by
    intro left right same outcome
    have concluded := congrArg (fun shell => (shell.conclude outcome).besideRequest) same
    cases outcome <;> exact concluded
  reports := reportsAgree_besideRequest
  settings := by
    intro left right same
    have settings := congrArg Shell.settings same
    exact settings
  remember := fun same line => congrArg (fun shell => shell.remember line) same
  count := fun same => congrArg countLine same
  input := fun same input => congrArg (fun shell => shell.withInput input) same

theorem besideRequest_close (shell : Shell) :
    shell.close.besideRequest = shell.besideRequest.close := by
  have saved : ∀ other : Shell, other.saveHistory.besideRequest =
      other.besideRequest.saveHistory := by
    intro other
    have unchanged : other.besideRequest.settings = other.settings := rfl
    have history : HistoryFile.save other.besideRequest.world = HistoryFile.save other.world := rfl
    rw [saveHistory, saveHistory, unchanged, history]
    cases other.settings.historyPath with
    | none => rfl
    | some path =>
      dsimp only
      have contents : other.besideRequest.session.history = other.session.history := rfl
      rw [contents]
      cases HistoryFile.save other.world path other.session.history
        other.settings.historyLimit <;> rfl
  have flushed : shell.flush.besideRequest = shell.besideRequest.flush := by
    have sinks : shell.besideRequest.console = shell.console := rfl
    rw [flush, flush, sinks]
    cases shell.console.flushFault? <;> rfl
  rw [close, saved, flushed, close]

/-! ## What a run is asked for -/

/-- What has been asked for between two shells is the last status, and replaces what had been
asked for before. -/
structure Asks (asked : Option Int) (before after : Shell) : Prop where
  request : after.session.exitRequest = asked.or before.session.exitRequest
  status : ∀ code ∈ asked, after.session.status = code

theorem asks_none {before after : Shell}
    (same : after.session.exitRequest = before.session.exitRequest) : Asks none before after :=
  ⟨same, by simp⟩

theorem Asks.trans {asked : Option Int} {first between last : Shell}
    (silent : Asks none first between) (asks : Asks asked between last) :
    Asks asked first last :=
  ⟨by rw [asks.request, silent.request, Option.none_or], asks.status⟩

theorem asks_invite (shell : Shell) : Asks none shell shell.invite :=
  asks_none (congrArg (fun shell => shell.session.exitRequest) (invite_eq shell).1)

/-- What a reading asks for. -/
def asked (shell : Shell) (reading : Reading) : Option Int :=
  (shell.submission? reading).bind Submission.answer

theorem asks_take (shell : Shell) (reading : Reading) :
    Asks (shell.asked reading) shell (shell.take reading).2 := by
  have broken : ∀ other : Shell, Asks none other other.breakLine := fun other =>
    asks_none (congrArg (fun shell => shell.session.exitRequest) (besideConsole_breakLine other))
  cases reading with
  | line line =>
    rcases exitRequest_takeLine shell line with ⟨request, status⟩
    rw [RunInvariant.take_line]
    exact ⟨request, status⟩
  | interrupt => exact broken shell
  | endOfInput => exact broken shell
  | failure message =>
    let warned := shell.warn (Text.ofString "failed to read input: " ++ message)
    have silent : Asks none shell warned := asks_none rfl
    exact silent.trans (broken warned)

theorem asked_of_goesOn {shell : Shell} {reading : Reading}
    (goesOn : shell.endsWith reading = false) : shell.asked reading = none := by
  cases reading with
  | line line => exact Option.isNone_iff_eq_none.mp (Option.isSome_eq_false_iff.mp goesOn)
  | interrupt => rfl
  | endOfInput => rfl
  | failure message => rfl

theorem asks_takeAll (readings : List Reading) (shell : Shell) :
    Asks ((takings readings shell).findSome? fun taking =>
        taking.before.invite.asked taking.reading) shell (takeAll readings shell) := by
  have invited := asks_invite shell
  induction readings generalizing shell with
  | nil => exact invited.trans (asks_take shell.invite .endOfInput)
  | cons reading rest induction =>
    have taken := invited.trans (asks_take shell.invite reading)
    rw [takeAll_cons, takings]
    cases ends : shell.invite.endsWith reading with
    | true => simpa [taking] using taken
    | false =>
      rw [asked_of_goesOn ends] at taken
      have onward := induction _ (asks_invite (shell.invite.take reading).2)
      simpa [taking, asked_of_goesOn ends] using taken.trans onward

theorem asks_hear (shell : Shell) (reader : LineReader) :
    Asks ((shell.hear reader).shell.asked (shell.hear reader).reading) shell
      (shell.hear reader).after := by
  have fetched : Asks none shell (shell.hear reader).shell := (asks_invite shell).trans (asks_none rfl)
  exact fetched.trans (asks_take (shell.hear reader).shell (shell.hear reader).reading)

theorem asks_takeInput (limit : Nat) (reader : LineReader) (shell : Shell) :
    Asks ((hearings limit reader shell).findSome? fun hearing =>
        hearing.shell.asked hearing.reading) shell (takeInput limit reader shell) := by
  induction limit generalizing reader shell with
  | zero => exact asks_none rfl
  | succ limit induction =>
    have heard := asks_hear shell reader
    rw [takeInput_succ, hearings]
    cases ends : (shell.hear reader).isLast with
    | true => simpa using heard
    | false =>
      have silent := asked_of_goesOn ends
      rw [silent] at heard
      simpa [silent] using heard.trans (induction (shell.hear reader).onward _)

/-- What the first line that answers has asked for. -/
def askedBy (shell : Shell) (source : Source) : Option Int :=
  (shell.submissions source).findSome? Submission.answer

theorem asks_drain (shell : Shell) (source : Source) :
    Asks (shell.askedBy source) shell (shell.drain source) := by
  cases source with
  | listed readings =>
    have asks := asks_takeAll readings shell
    rw [askedBy, submissions, ← List.head?_filterMap, List.filterMap_filterMap,
      List.head?_filterMap]
    exact asks
  | standardInput decoding =>
    have asks := asks_takeInput (shell.world.input.flatten.length + 1)
      ⟨[], [], .finished, decoding⟩ shell
    rw [askedBy, submissions, ← List.head?_filterMap, List.filterMap_filterMap,
      List.head?_filterMap]
    exact asks

/-! ## Codes -/

/-- Whether a line of the run executes an `exit` that ends it. -/
def Exits (shell : Shell) (source : Source) : Prop :=
  ∃ submission ∈ shell.submissions source, submission.Exits

theorem exits_iff_asked (shell : Shell) (source : Source) :
    shell.Exits source ↔ ∃ code, shell.askedBy source = some code := by
  rw [Exits, askedBy]
  simp only [Submission.exits_iff, ← Option.isSome_iff_exists, List.findSome?_isSome_iff]

section

variable {shell : Shell} {source : Source}

theorem code_of_exits (exits : shell.Exits source) :
    (shell.runOver source).1 = (shell.runOver source).2.session.status := by
  have asks := asks_drain shell source
  rcases (exits_iff_asked shell source).mp exits with ⟨code, asked⟩
  have code_returned : (shell.runOver source).1 = code := by
    simp only [runOver, result, session_close, asks.request, asked, Option.some_or,
      Option.getD_some]
  have status : (shell.runOver source).2.session.status = code := by
    simp only [runOver, session_close]
    exact asks.status code asked
  rw [code_returned, status]

theorem code_of_not_exits (silent : ¬ shell.Exits source) :
    (shell.runOver source).1 =
      shell.session.exitRequest.getD (shell.runOver source).2.session.status := by
  have asks := asks_drain shell source
  have unasked : shell.askedBy source = none := by
    cases asked : shell.askedBy source with
    | none => rfl
    | some code => exact absurd ((exits_iff_asked shell source).mpr ⟨code, asked⟩) silent
  simp only [runOver, result, session_close, asks.request, unasked, Option.none_or]

theorem code_of_fresh (fresh : shell.session.exitRequest = none) :
    (shell.runOver source).1 = (shell.runOver source).2.session.status := by
  by_cases exits : shell.Exits source
  · exact code_of_exits exits
  · rw [code_of_not_exits exits, fresh, Option.getD_none]

end

/-- A run does the same whatever had been asked for before it, and one that begins without a
request returns its last status. Any other run returns its last status exactly if a line of
it executes an `exit`, or if what had been asked for before happens to be that status;
otherwise it returns what had been asked for before. -/
theorem runOver_besideRequest (shell : Shell) (source : Source) :
    let ran := shell.runOver source
    let fresh := (shell.withRequest none).runOver source
    let last := ran.2.session.status
    ran.2.besideRequest = fresh.2.besideRequest ∧
      fresh.1 = last ∧
      (shell.Exits source → ran.1 = last) ∧
      (¬ shell.Exits source → ran.1 = shell.session.exitRequest.getD last) ∧
      (ran.1 = fresh.1 ↔
        shell.Exits source ∨ ∀ code ∈ shell.session.exitRequest, code = last) := by
  intro ran fresh last
  have same : ran.2.besideRequest = fresh.2.besideRequest := by
    have begun : shell.besideRequest = (shell.withRequest none).besideRequest := rfl
    have drained := runSimulation_besideRequest.drain begun source
    simp only [ran, fresh, runOver, besideRequest_close, drained]
  have freshLast : fresh.1 = last := by
    have statuses := congrArg (fun shell => shell.session.status) same
    have returned : fresh.1 = fresh.2.session.status := code_of_fresh rfl
    exact returned.trans statuses.symm
  refine ⟨same, freshLast, code_of_exits, code_of_not_exits, ?_⟩
  rw [freshLast]
  by_cases exits : shell.Exits source
  · simp [exits, ran, last, code_of_exits exits]
  · have code := code_of_not_exits exits
    cases earlier : shell.session.exitRequest with
    | none =>
      rw [earlier, Option.getD_none] at code
      simp [ran, last, code]
    | some asked =>
      rw [earlier, Option.getD_some] at code
      simp [exits, ran, last, code]

/-- A line that has asked for the end is followed by a run in which none does. The run
returns what the line has asked for, and not its last status. -/
theorem code_of_earlier_line :
    let begun :=
      Shell.start { mode := .standardInput } (Session.ofEnvironment .empty [] 7)
        { files := .empty } {}
    let asked := Operation.perform begun (.submit (Text.ofString "exit 7"))
    let source := Source.listed [.line (Text.ofString "cd /nonexistent")]
    Reached begun asked ∧
      (asked.runOver source).1 = 7 ∧ (asked.runOver source).2.session.status = 2 ∧
      ((asked.withRequest none).runOver source).1 = 2 := by
  intro begun asked source
  exact ⟨.perform .start (.submit _), by decide +kernel, by decide +kernel, by decide +kernel⟩

end Shell

end CommandShell
