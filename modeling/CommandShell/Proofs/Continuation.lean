import CommandShell.Proofs.SavedHistory
import CommandShell.Proofs.Simulation

namespace CommandShell

/-! How a run goes on depends on what the session and the world have come to. What the
transcript holds already makes no difference to a line, nor does the mode in which the
lines are read, so that a reading adds the same to any transcript. -/

/-! ## What a transcript shows -/

/-- Whether an event is more than a prompt or an entry of the log. -/
def Event.isShown : Event → Bool
  | .written _ _ | .accepted _ | .started _ | .produced _ _ => true
  | .prompted _ | .logged _ => false

namespace Shell

/-- The events of the transcript, prompts and log left out. -/
def shown (shell : Shell) : List Event :=
  shell.console.transcript.filter Event.isShown

theorem shown_record (shell : Shell) (event : Event) :
    (shell.record event).shown = shell.shown ++ [event].filter Event.isShown := by
  rw [shown, record, Console.transcript_record, List.filter_append, shown]

theorem shown_record_of_hidden (shell : Shell) {event : Event} (hidden : event.isShown = false) :
    (shell.record event).shown = shell.shown := by
  simp [shown_record, hidden]

/-! ## Another mode, and other events before -/

/-- The shell in this mode and with these events behind it. -/
def behind (mode : Mode) (earlier : List Event) (shell : Shell) : Shell :=
  { shell with
    settings := { shell.settings with mode := mode }
    console := { shell.console with latest := shell.console.latest ++ earlier } }

/-- All there is to a shell but the mode and the transcript. -/
def essence (shell : Shell) : Shell :=
  { shell with
    settings := { shell.settings with mode := .standardInput }
    console := { shell.console with latest := [] } }

/-- All there is to a shell but its console. -/
def besideConsole (shell : Shell) : Shell :=
  { shell with console := {} }

variable {mode : Mode} {earlier : List Event}

theorem essence_behind (shell : Shell) : (behind mode earlier shell).essence = shell.essence := rfl

theorem shown_behind (shell : Shell) :
    (behind mode earlier shell).shown = earlier.reverse.filter Event.isShown ++ shell.shown := by
  simp only [shown, Console.transcript, behind, List.reverse_append, List.filter_append]

theorem write_behind (shell : Shell) (stream : Stream) (text : Text) :
    (behind mode earlier shell).write stream text =
      ((shell.write stream text).1, behind mode earlier (shell.write stream text).2) := by
  have console : (behind mode earlier shell).console = shell.console.behind earlier := rfl
  rw [write, console, Console.write_behind]
  rfl

theorem written_behind {left right : Shell} (same : left = behind mode earlier right)
    (stream : Stream) (text : Text) :
    Agree (fun left right => left = behind mode earlier right) (left.write stream text)
      (right.write stream text) := by
  subst same
  rw [write_behind]
  exact ⟨rfl, rfl⟩

theorem reportsAgree_behind (mode : Mode) (earlier : List Event) :
    ReportsAgree fun left right => left = behind mode earlier right := by
  rintro left right rfl command message
  have counted : (behind mode earlier right).countComplaint =
      behind mode earlier right.countComplaint := rfl
  exact written_behind counted .error _

theorem simulation_behind (mode : Mode) (earlier : List Event) :
    Simulation fun left right => left = behind mode earlier right where
  seen := by
    rintro left right rfl
    exact ⟨rfl, rfl, rfl, rfl, rfl, rfl⟩
  record := by
    rintro left right rfl event
    rfl
  print := fun same text => written_behind same .output text
  listHistory := by
    rintro left right rfl
    exact written_behind rfl .output _
  revise := by
    rintro left right rfl environment aliases previousDirectory world
    rfl
  reportOrWarn := by
    intro left right same command message
    apply (reportsAgree_behind mode earlier left right same command message).warned
    rintro left right rfl event
    rfl
  status := by
    rintro left right rfl
    rfl
  conclude := by
    rintro left right rfl outcome
    cases outcome <;> rfl

/-- A line does the same in any mode and whatever has happened before. -/
theorem submit_behind (shell : Shell) (line : Text) :
    (behind mode earlier shell).submit line =
      ((shell.submit line).1, behind mode earlier (shell.submit line).2) := by
  have simulation := simulation_behind mode earlier
  cases split : Chain.ofLine line with
  | error operator =>
    have reported := simulation.reportOrWarn
      (simulation.log (rfl : behind mode earlier shell = _) (.trailingOperator operator.symbol))
      none (Failure.unexpected operator.symbol).message
    simp only [submit, split]
    exact congrArg (Prod.mk none) (simulation.conclude reported (.status 2))
  | ok segments =>
    by_cases inhabited : segments = []
    · subst inhabited
      simp only [submit, split]
      rfl
    · have begun : (behind mode earlier shell).begin line segments =
          behind mode earlier (shell.begin line segments) := rfl
      have agree := simulation.chain_of_reportsAgree (reportsAgree_behind mode earlier) segments
        begun
      rw [submit_chain split inhabited, submit_chain split inhabited]
      exact Prod.ext agree.answer agree.related

/-! ## Lines that are taken -/

theorem accept_behind (shell : Shell) (line : Text) :
    (behind mode earlier shell).accept line = behind mode earlier (shell.accept line) := by
  unfold accept
  dsimp only
  split <;> rfl

/-- Takes a line: it is counted, noted as accepted, and executed. -/
def takeLine (shell : Shell) (line : Text) : Option Int × Shell :=
  (shell.accept line).submit line

theorem takeLine_behind (shell : Shell) (line : Text) :
    (behind mode earlier shell).takeLine line =
      ((shell.takeLine line).1, behind mode earlier (shell.takeLine line).2) := by
  rw [takeLine, accept_behind, submit_behind, takeLine]

theorem takeLine_eq (shell : Shell) (line : Text) :
    shell.takeLine line =
      ((shell.essence.takeLine line).1,
        behind shell.settings.mode shell.console.latest (shell.essence.takeLine line).2) :=
  takeLine_behind shell.essence line

/-! ## Readings that are taken -/

theorem flush_eq (shell : Shell) :
    shell.flush.essence = shell.essence ∧ shell.flush.settings = shell.settings ∧
      shell.flush.shown = shell.shown := by
  unfold flush
  split
  · exact ⟨rfl, rfl, rfl⟩
  · exact ⟨rfl, rfl, shown_record_of_hidden shell rfl⟩

theorem invite_eq (shell : Shell) :
    shell.invite.essence = shell.essence ∧ shell.invite.settings = shell.settings ∧
      shell.invite.shown = shell.shown := by
  rcases flush_eq shell with ⟨essence, settings, shown⟩
  exact ⟨essence, settings, (shown_record_of_hidden shell.flush rfl).trans shown⟩

theorem flush_behind (shell : Shell) :
    (behind mode earlier shell).flush = behind mode earlier shell.flush := by
  have sinks : (behind mode earlier shell).console.flushFault? = shell.console.flushFault? := rfl
  rw [flush, flush, sinks]
  cases shell.console.flushFault? <;> rfl

theorem saveHistory_behind (shell : Shell) :
    (behind mode earlier shell).saveHistory = behind mode earlier shell.saveHistory := by
  have named : (behind mode earlier shell).settings.historyPath = shell.settings.historyPath := rfl
  rw [saveHistory, saveHistory, named]
  cases shell.settings.historyPath with
  | none => rfl
  | some path =>
    have saved : HistoryFile.save (behind mode earlier shell).world path
          (behind mode earlier shell).session.history
          (behind mode earlier shell).settings.historyLimit =
        HistoryFile.save shell.world path shell.session.history shell.settings.historyLimit := rfl
    dsimp only
    rw [saved]
    cases HistoryFile.save shell.world path shell.session.history shell.settings.historyLimit <;>
      rfl

theorem close_behind (shell : Shell) :
    (behind mode earlier shell).close = behind mode earlier shell.close := by
  rw [close, flush_behind, saveHistory_behind, close]

/-- What is left at the end is a matter of the essence, and shows nothing more. -/
theorem close_eq (shell : Shell) :
    shell.close.essence = shell.essence.close.essence ∧ shell.close.shown = shell.shown := by
  constructor
  · have closed : shell.close =
        behind shell.settings.mode shell.console.latest shell.essence.close :=
      close_behind shell.essence
    rw [closed, essence_behind]
  · rw [← (flush_eq shell).2.2, close]
    generalize shell.flush = shell
    unfold saveHistory
    split
    · rfl
    · dsimp only
      split
      · exact shown_record_of_hidden _ rfl
      · exact shown_record_of_hidden shell rfl

/-- What ends a line that the user has left: in the interactive mode a line break, if it
can be written. -/
def lineBreak (shell : Shell) : List Event :=
  if shell.settings.isInteractive ∧ shell.console.output.fault? ['\n'] = none then
    [.written .output ['\n']]
  else []

/-- The interactive mode writes a line break, and warns where that fails. -/
theorem breakLine_of_isInteractive {shell : Shell}
    (interactive : shell.settings.isInteractive = true) :
    shell.breakLine =
      match shell.write .output ['\n'] with
      | (none, after) => after
      | (some fault, after) =>
        after.warn (Text.ofString "failed to write output: " ++ fault.message) := by
  unfold breakLine
  exact if_pos interactive

theorem breakLine_of_not_isInteractive {shell : Shell}
    (quiet : shell.settings.isInteractive = false) : shell.breakLine = shell := by
  simp [breakLine, quiet]

theorem breakLine_behind (shell : Shell) :
    (behind shell.settings.mode earlier shell).breakLine =
      behind shell.settings.mode earlier shell.breakLine := by
  cases interactive : shell.settings.isInteractive with
  | false =>
    have quiet : (behind shell.settings.mode earlier shell).settings.isInteractive = false :=
      interactive
    rw [breakLine_of_not_isInteractive quiet, breakLine_of_not_isInteractive interactive]
  | true =>
    have asked : (behind shell.settings.mode earlier shell).settings.isInteractive = true :=
      interactive
    rw [breakLine_of_isInteractive asked, breakLine_of_isInteractive interactive, write_behind]
    generalize shell.write .output ['\n'] = written
    rcases written with ⟨_ | fault, after⟩ <;> rfl

/-- Only the console can tell that a line has been left. -/
theorem besideConsole_breakLine (shell : Shell) :
    shell.breakLine.besideConsole = shell.besideConsole := by
  cases interactive : shell.settings.isInteractive with
  | false => rw [breakLine_of_not_isInteractive interactive]
  | true =>
    have kept : (shell.write .output ['\n']).2.besideConsole = shell.besideConsole := rfl
    rw [breakLine_of_isInteractive interactive]
    generalize shell.write .output ['\n'] = written at kept ⊢
    rcases written with ⟨_ | fault, after⟩ <;> exact kept

theorem taken_lineBreak (sink : Sink) :
    sink.taken ['\n'] = if sink.fault? ['\n'] = none then ['\n'] else [] := by
  unfold Sink.taken Sink.fault?
  cases sink.writeFault with
  | none => simp
  | some fault => cases sink.room <;> simp

theorem shown_breakLine (shell : Shell) :
    shell.breakLine.shown = shell.shown ++ shell.lineBreak := by
  cases interactive : shell.settings.isInteractive with
  | false =>
    rw [breakLine_of_not_isInteractive interactive, lineBreak, interactive]
    simp
  | true =>
    have used : (shell.use .output ['\n']).shown = shell.shown := rfl
    rw [breakLine_of_isInteractive interactive, write_eq, lineBreak, interactive, Console.sink,
      taken_lineBreak]
    cases broken : shell.console.output.fault? ['\n'] with
    | none =>
      simp only [true_and, if_true]
      exact (shown_record _ _).trans (congrArg (· ++ _) used)
    | some fault =>
      simp only [reduceCtorEq, and_false, if_false, List.append_nil]
      exact (shown_record_of_hidden _ rfl).trans used

/-- Where the output works, a line break leaves no trace but itself. -/
theorem essence_breakLine {shell : Shell} (works : shell.console.output.writeFault = none) :
    shell.breakLine.essence = shell.essence := by
  cases interactive : shell.settings.isInteractive with
  | false => rw [breakLine_of_not_isInteractive interactive]
  | true =>
    have worksThere : (shell.console.sink .output).writeFault = none := works
    rw [breakLine_of_isInteractive interactive,
      write_of_working worksThere (List.cons_ne_nil _ _)]
    rfl

/-- What a reading that is no line does: it breaks a line, and may warn before. -/
theorem exists_of_noLine (shell : Shell) {reading : Reading} (noLine : reading.line? = none) :
    ∃ broken : Shell, (shell.invite.take reading).2 = broken.breakLine ∧
      broken.essence = shell.essence ∧ broken.settings = shell.settings ∧
      broken.shown = shell.shown := by
  rcases invite_eq shell with ⟨essence, settings, shown⟩
  cases reading with
  | line => cases noLine
  | interrupt => exact ⟨shell.invite, rfl, essence, settings, shown⟩
  | endOfInput => exact ⟨shell.invite, rfl, essence, settings, shown⟩
  | failure message =>
    exact ⟨shell.invite.warn _, rfl, essence, settings,
      (shown_record_of_hidden shell.invite rfl).trans shown⟩

/-- A reading that is no line shows a line break or nothing. -/
theorem take_of_noLine (shell : Shell) {reading : Reading} (noLine : reading.line? = none) :
    (shell.invite.take reading).2.besideConsole = shell.besideConsole ∧
      (shell.invite.take reading).2.shown = shell.shown ++ shell.lineBreak := by
  rcases exists_of_noLine shell noLine with ⟨broken, taken, essence, settings, shown⟩
  have outputs : broken.console.output = shell.console.output :=
    congrArg (fun shell => shell.console.output) essence
  have breaks : broken.lineBreak = shell.lineBreak := by
    rw [lineBreak, settings, outputs, lineBreak]
  rw [taken, besideConsole_breakLine, shown_breakLine, shown, breaks]
  have sessions : broken.session = shell.session :=
    congrArg (fun shell => shell.session) essence
  have worlds : broken.world = shell.world := congrArg (fun shell => shell.world) essence
  rw [besideConsole, sessions, worlds, settings]
  exact ⟨rfl, rfl⟩

/-- Where the output works, it leaves no other trace. -/
theorem essence_of_noLine {shell : Shell} (works : shell.console.output.writeFault = none)
    {reading : Reading} (noLine : reading.line? = none) :
    (shell.invite.take reading).2.essence = shell.essence := by
  rcases exists_of_noLine shell noLine with ⟨broken, taken, essence, settings, shown⟩
  have outputs : broken.console.output = shell.console.output :=
    congrArg (fun shell => shell.console.output) essence
  rw [taken, essence_breakLine (outputs ▸ works), essence]

/-- What a line that is read comes to and shows is a matter of the essence. -/
theorem take_of_line (shell : Shell) (line : Text) :
    (shell.invite.take (.line line)).2.essence = (shell.essence.takeLine line).2.essence ∧
      (shell.invite.take (.line line)).2.settings.mode = shell.settings.mode ∧
      (shell.invite.take (.line line)).2.shown =
        shell.shown ++ (shell.essence.takeLine line).2.shown ∧
      shell.invite.endsWith (.line line) = (shell.essence.takeLine line).1.isSome := by
  rcases invite_eq shell with ⟨essence, settings, shown⟩
  have taken := takeLine_eq shell.invite line
  have before : shell.invite.console.latest.reverse.filter Event.isShown = shell.shown := shown
  rw [essence, settings] at taken
  have ends : shell.invite.endsWith (.line line) = (shell.invite.takeLine line).1.isSome := rfl
  rw [RunInvariant.take_line, ← takeLine, ends, taken]
  exact ⟨rfl, rfl, by rw [shown_behind, before], rfl⟩

end Shell

end CommandShell
