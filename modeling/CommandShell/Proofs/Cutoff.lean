import CommandShell.Proofs.Continuation
import CommandShell.Proofs.Requests

namespace CommandShell

/-! A session goes on until a line asks for its end, and then stops there. Up to that line
it is the same as to execute its lines one after another; what would have come after the
line is not even read. -/

namespace Shell

/-! ## What appears -/

/-- The shell without the prompts and the log in its transcript. -/
def visible (shell : Shell) : Shell :=
  { shell with
    console := { shell.console with latest := shell.console.latest.filter Event.isShown } }

theorem visible_behind (mode : Mode) (earlier : List Event) (shell : Shell) :
    (behind mode earlier shell).visible =
      behind mode (earlier.filter Event.isShown) shell.visible := by
  simp only [visible, behind, List.filter_append]

section

variable {left right : Shell}

theorem visible_eq_iff :
    left.visible = right.visible ↔
      left.essence = right.essence ∧ left.settings = right.settings ∧ left.shown = right.shown := by
  have shown_visible : ∀ shell : Shell, shell.visible.shown = shell.shown := by
    intro shell
    simp [Shell.shown, visible, Console.transcript, ← List.filter_reverse]
  constructor
  · intro same
    have essence := congrArg Shell.essence same
    have settings := congrArg Shell.settings same
    have shown := congrArg Shell.shown same
    rw [shown_visible, shown_visible] at shown
    exact ⟨essence, settings, shown⟩
  · rintro ⟨essence, settings, shown⟩
    have form : ∀ shell : Shell, shell.visible =
        behind shell.settings.mode shell.shown.reverse shell.essence := by
      intro shell
      have latest : shell.shown.reverse = shell.console.latest.filter Event.isShown := by
        rw [Shell.shown, Console.transcript, ← List.filter_reverse, List.reverse_reverse]
      rw [latest]
      rfl
    rw [form left, form right, essence, settings, shown]

/-- What does not depend on the transcript keeps what appears. -/
theorem visible_of_behind {step : Shell → Shell}
    (commutes : ∀ earlier shell, step (behind shell.settings.mode earlier shell) =
      behind shell.settings.mode earlier (step shell))
    (same : left.visible = right.visible) : (step left).visible = (step right).visible := by
  -- The shell without a transcript, which is the same for both.
  let bare : Shell → Shell := fun shell =>
    { shell with console := { shell.console with latest := [] } }
  have form : ∀ shell : Shell, (step shell).visible =
      behind shell.visible.settings.mode shell.visible.console.latest
        (step (bare shell.visible)).visible := by
    intro shell
    have stepped := commutes shell.console.latest (bare shell)
    have whole : behind (bare shell).settings.mode shell.console.latest (bare shell) = shell := rfl
    rw [whole] at stepped
    rw [stepped, visible_behind]
    rfl
  rw [form left, form right, same]

theorem visible_takeLine (same : left.visible = right.visible) (line : Text) :
    (left.takeLine line).1 = (right.takeLine line).1 ∧
      (left.takeLine line).2.visible = (right.takeLine line).2.visible := by
  constructor
  · rw [takeLine_eq left, takeLine_eq right, (visible_eq_iff.mp same).1]
  · let step : Shell → Shell := fun shell => (shell.takeLine line).2
    have commutes : ∀ earlier shell, step (behind shell.settings.mode earlier shell) =
        behind shell.settings.mode earlier (step shell) := by
      intro earlier shell
      dsimp only [step]
      rw [takeLine_behind]
    exact visible_of_behind commutes same

theorem visible_breakLine (same : left.visible = right.visible) :
    left.breakLine.visible = right.breakLine.visible :=
  visible_of_behind (fun _ => breakLine_behind) same

theorem visible_close (same : left.visible = right.visible) :
    left.close.visible = right.close.visible :=
  visible_of_behind (fun _ shell => close_behind shell) same

theorem visible_invite (shell : Shell) : shell.invite.visible = shell.visible :=
  visible_eq_iff.mpr (invite_eq shell)

/-! ## Runs of which the same appears -/

/-- A line that is read comes to the same as one that is taken without being read. -/
theorem visible_line (same : left.visible = right.visible) (line : Text) :
    (left.invite.take (.line line)).2.visible = (right.takeLine line).2.visible ∧
      left.invite.endsWith (.line line) = (right.takeLine line).1.isSome := by
  have invited : left.invite.visible = right.visible := by rw [visible_invite, same]
  rcases visible_takeLine invited line with ⟨answers, appears⟩
  rw [RunInvariant.take_line]
  exact ⟨appears, congrArg Option.isSome answers⟩

/-- Of two shells that appear the same, the same appears after every reading, and both go
on or neither. -/
theorem visible_take (same : left.visible = right.visible) (reading : Reading) :
    (left.invite.take reading).2.visible = (right.invite.take reading).2.visible ∧
      left.invite.endsWith reading = right.invite.endsWith reading := by
  have others : reading.line? = none →
      (left.invite.take reading).2.visible = (right.invite.take reading).2.visible := by
    intro noLine
    rcases exists_of_noLine left noLine with ⟨leftBroken, leftTaken, leftSame⟩
    rcases exists_of_noLine right noLine with ⟨rightBroken, rightTaken, rightSame⟩
    rw [leftTaken, rightTaken]
    apply visible_breakLine
    rw [visible_eq_iff.mpr leftSame, visible_eq_iff.mpr rightSame, same]
  cases reading with
  | line line =>
    rcases visible_line same line with ⟨leftAfter, leftEnds⟩
    rcases visible_line (rfl : right.visible = _) line with ⟨rightAfter, rightEnds⟩
    exact ⟨leftAfter.trans rightAfter.symm, leftEnds.trans rightEnds.symm⟩
  | interrupt => exact ⟨others rfl, rfl⟩
  | endOfInput => exact ⟨others rfl, rfl⟩
  | failure message => exact ⟨others rfl, rfl⟩

theorem visible_takeAll (same : left.visible = right.visible) (readings : List Reading) :
    (takeAll readings left).visible = (takeAll readings right).visible ∧
      readingsTaken readings left = readingsTaken readings right := by
  induction readings generalizing left right with
  | nil => exact ⟨(visible_take same .endOfInput).1, rfl⟩
  | cons reading rest induction =>
    rcases visible_take same reading with ⟨after, ends⟩
    rw [takeAll_cons, takeAll_cons, readingsTaken, readingsTaken, ends]
    split
    · exact ⟨after, rfl⟩
    · rcases induction after with ⟨onward, taken⟩
      exact ⟨onward, congrArg _ taken⟩

end

/-! ## Line after line -/

/-- Takes line after line, up to one that asks for the end. -/
def takeEach : List Text → Shell → Option Int × Shell
  | [], shell => (none, shell)
  | line :: rest, shell =>
    match shell.takeLine line with
    | (none, after) => takeEach rest after
    | (some code, after) => (some code, after)

theorem takeEach_line (line : Text) (rest : List Reading) (shell : Shell) :
    takeEach ((Reading.line line :: rest).filterMap Reading.line?) shell =
      match shell.takeLine line with
      | (none, after) => takeEach (rest.filterMap Reading.line?) after
      | (some code, after) => (some code, after) := rfl

end Shell

/-- The readings that leave a run going, unless they are lines that ask for its end. -/
def Reading.LeavesOpen (reading : Reading) : Prop :=
  reading = .interrupt ∨ ∃ line, reading = .line line

namespace Shell

section

variable {left right : Shell} {readings : List Reading}

/-- Without a user an interrupt does not appear. -/
theorem visible_interrupt (same : left.visible = right.visible)
    (quiet : right.settings.isInteractive = false) :
    (left.invite.take .interrupt).2.visible = right.visible := by
  rcases @exists_of_noLine right .interrupt rfl with ⟨broken, taken, unbroken⟩
  rw [(visible_take same .interrupt).1, taken,
    breakLine_of_not_isInteractive ((congrArg Settings.isInteractive unbroken.2.1).trans quiet)]
  exact visible_eq_iff.mpr unbroken

theorem isInteractive_takeLine (shell : Shell) (line : Text) :
    (shell.takeLine line).2.settings.isInteractive = shell.settings.isInteractive := by
  rw [takeLine_eq]
  rfl

/-- The shell after readings that have not ended the run. -/
def advance (readings : List Reading) (shell : Shell) : Shell :=
  readings.foldl (fun shell reading => (shell.invite.take reading).2) shell

/-- A reading that leaves the run open goes on as its line does, if it is one. -/
theorem take_of_silent {reading : Reading} (leavesOpen : reading.LeavesOpen)
    (same : left.visible = right.visible) (quiet : right.settings.isInteractive = false)
    {led : Shell}
    (silent : takeEach ((reading :: readings).filterMap Reading.line?) right = (none, led)) :
    ∃ next : Shell, left.invite.endsWith reading = false ∧
      (left.invite.take reading).2.visible = next.visible ∧
      next.settings.isInteractive = false ∧
      takeEach (readings.filterMap Reading.line?) next = (none, led) := by
  rcases leavesOpen with rfl | ⟨line, rfl⟩
  · exact ⟨right, rfl, visible_interrupt same quiet, quiet, silent⟩
  · rcases visible_line same line with ⟨after, ends⟩
    have quietAfter := (isInteractive_takeLine right line).trans quiet
    rw [takeEach_line] at silent
    rcases answer : right.takeLine line with ⟨_ | code, next⟩
    · rw [answer] at silent after ends quietAfter
      exact ⟨next, ends, after, quietAfter, silent⟩
    · rw [answer] at silent
      cases silent

/-- Where no line asks for the end, a run over readings that leave it open comes to where
their lines lead, and goes on from there. -/
theorem takeAll_append_of_silent (leavesOpen : ∀ reading ∈ readings, reading.LeavesOpen)
    (same : left.visible = right.visible) (quiet : right.settings.isInteractive = false)
    {led : Shell} (silent : takeEach (readings.filterMap Reading.line?) right = (none, led)) :
    (advance readings left).visible = led.visible ∧
      ∀ rest, takeAll (readings ++ rest) left = takeAll rest (advance readings left) ∧
        readingsTaken (readings ++ rest) left =
          readings ++ readingsTaken rest (advance readings left) := by
  induction readings generalizing left right with
  | nil =>
    cases silent
    exact ⟨same, fun _ => ⟨rfl, rfl⟩⟩
  | cons reading others induction =>
    rcases List.forall_mem_cons.mp leavesOpen with ⟨here, onward⟩
    rcases take_of_silent here same quiet silent with ⟨next, goesOn, after, quietAfter, silentAfter⟩
    rcases induction onward after quietAfter silentAfter with ⟨appears, runs⟩
    refine ⟨appears, ?_⟩
    intro rest
    rw [List.cons_append, takeAll_cons, readingsTaken, goesOn]
    exact ⟨(runs rest).1, congrArg _ (runs rest).2⟩

/-- The first line that asks for the end, with the readings before it. -/
theorem exists_of_takeEach_eq_some {shell executed : Shell} {code : Int}
    (asks : takeEach (readings.filterMap Reading.line?) shell = (some code, executed)) :
    ∃ earlier line later led,
      readings = earlier ++ .line line :: later ∧
      takeEach (earlier.filterMap Reading.line?) shell = (none, led) ∧
      led.takeLine line = (some code, executed) := by
  induction readings generalizing shell with
  | nil => cases asks
  | cons reading rest induction =>
    cases reading with
    | line line =>
      rw [takeEach_line] at asks
      rcases answer : shell.takeLine line with ⟨_ | other, next⟩
      · rw [answer] at asks
        rcases induction asks with ⟨earlier, last, later, led, place, silent, asked⟩
        refine ⟨.line line :: earlier, last, later, led, congrArg _ place, ?_, asked⟩
        rw [takeEach_line, answer]
        exact silent
      · rw [answer] at asks
        cases asks
        exact ⟨[], line, rest, shell, rfl, rfl, answer⟩
    | _ =>
      rcases induction asks with ⟨earlier, last, later, led, place, silent, asked⟩
      exact ⟨_ :: earlier, last, later, led, congrArg _ place, silent, asked⟩

end

/-! ## Codes -/

/-- The statuses of a run are those of a process, if the first is. -/
theorem runInvariant_isStatus :
    RunInvariant (fun _ => True) fun shell => Session.IsStatus shell.session.status where
  record := fun isStatus _ => isStatus
  segment := by
    intro shell isStatus segment
    rw [(acts_segment shell segment).verdict.1]
    exact isStatus
  conclude := by
    intro shell _ outcome
    cases outcome <;> exact Session.isStatus_exitStatus _
  write := fun isStatus _ _ => isStatus
  complain := id
  remember := fun isStatus _ _ _ => isStatus
  count := id
  input := fun isStatus _ => isStatus

theorem exitRequest_takeLine (shell : Shell) (line : Text) :
    (shell.takeLine line).2.session.exitRequest =
        (shell.takeLine line).1.or shell.session.exitRequest ∧
      ∀ code ∈ (shell.takeLine line).1, (shell.takeLine line).2.session.status = code := by
  have counted : (shell.accept line).session.exitRequest = shell.session.exitRequest := by
    unfold accept
    dsimp only
    split <;> rfl
  rw [takeLine, ← counted]
  exact exitRequest_submit (shell.accept line) line

/-- The code with which a run has been asked to end is its last status. -/
theorem exitRequest_takeAll (readings : List Reading) {shell : Shell}
    (fresh : shell.session.exitRequest = none) :
    ∀ code ∈ (takeAll readings shell).session.exitRequest,
      (takeAll readings shell).session.status = code := by
  have unasked : ∀ {shell : Shell} (reading : Reading), shell.session.exitRequest = none →
      reading.line? = none → (shell.invite.take reading).2.session.exitRequest = none := by
    intro shell reading fresh noLine
    have kept := congrArg (fun shell => shell.session.exitRequest) (take_of_noLine shell noLine).1
    exact kept.trans fresh
  have silent : ∀ {shell : Shell}, shell.session.exitRequest = none →
      ∀ code ∈ shell.session.exitRequest, shell.session.status = code := by
    intro shell none code asked
    rw [none] at asked
    cases asked
  induction readings generalizing shell with
  | nil => exact silent (unasked .endOfInput fresh rfl)
  | cons reading rest induction =>
    rw [takeAll_cons]
    cases reading with
    | line line =>
      rcases exitRequest_takeLine shell.invite line with ⟨request, last⟩
      have invited : shell.invite.session.exitRequest = none :=
        (congrArg (fun shell => shell.session.exitRequest) (invite_eq shell).1).trans fresh
      have ends : shell.invite.endsWith (.line line) = (shell.invite.takeLine line).1.isSome := rfl
      rw [invited, Option.or_none] at request
      rw [RunInvariant.take_line, ← takeLine, ends]
      cases answer : (shell.invite.takeLine line).1 with
      | none =>
        rw [answer] at request
        exact induction request
      | some code =>
        rw [Option.isSome_some, if_pos rfl, request]
        exact last
    | interrupt => exact induction (unasked .interrupt fresh rfl)
    | endOfInput => exact silent (unasked .endOfInput fresh rfl)
    | failure message => exact silent (unasked (.failure message) fresh rfl)

/-- A session that begins without a request for its end returns its last status. -/
theorem code_run (readings : List Reading) {shell : Shell}
    (fresh : shell.session.exitRequest = none) :
    (shell.run readings).1 = (shell.run readings).2.session.status ∧
      (Session.IsStatus shell.session.status → Session.IsStatus (shell.run readings).1) := by
  have returned : (shell.run readings).1 = (shell.run readings).2.session.status := by
    have requested := exitRequest_takeAll readings fresh
    have session : (shell.run readings).2.session = (takeAll readings shell).session :=
      session_close _
    have code : (shell.run readings).1 = (shell.run readings).2.result := rfl
    rw [code, result, session]
    cases asked : (takeAll readings shell).session.exitRequest with
    | none => rfl
    | some code => exact (requested code asked).symm
  refine ⟨returned, ?_⟩
  intro isStatus
  have kept : Session.IsStatus (shell.drain (.listed readings)).session.status :=
    runInvariant_isStatus.drain isStatus (Source.offers_anything _)
  have session : (shell.run readings).2.session = (shell.drain (.listed readings)).session :=
    session_close _
  rw [returned, session]
  exact kept

/-! ## Sessions -/

/-- A run that stops at a line among its readings: at the first that asks for the end, and
whatever the readings behind it are. -/
structure StopsAt (begun : Shell) (readings earlier : List Reading) (line : Text) (code : Int)
    (executed : Shell) : Prop where
  place : earlier ++ [.line line] <+: readings
  silent : (takeEach (earlier.filterMap Reading.line?) begun).1 = none
  asks : (takeEach (earlier.filterMap Reading.line?) begun).2.takeLine line = (some code, executed)
  taken : ∀ rest, readingsTaken (readings ++ rest) begun = earlier ++ [.line line]
  unread : ∀ rest other, begun.run (readings ++ rest) = begun.run (readings ++ other)
  code : ∀ rest, (begun.run (readings ++ rest)).1 = code
  appears : ∀ rest, (begun.run (readings ++ rest)).2.visible = executed.close.visible

/-- A run that is the same as to go on from this shell. -/
structure GoesOn (begun : Shell) (readings : List Reading) (executed : Shell) : Prop where
  taken : ∀ rest, readingsTaken (readings ++ rest) begun = readings ++ readingsTaken rest executed
  code : ∀ rest, (begun.run (readings ++ rest)).1 = (executed.run rest).1
  appears : ∀ rest, (begun.run (readings ++ rest)).2.visible = (executed.run rest).2.visible

section

variable {begun : Shell} {readings : List Reading}

theorem result_of_visible {left right : Shell} (same : left.visible = right.visible) :
    left.result = right.result :=
  congrArg (fun shell => shell.result) same

theorem stopsAt_of_asks (leavesOpen : ∀ reading ∈ readings, reading.LeavesOpen)
    (quiet : begun.settings.isInteractive = false) {code : Int} {executed : Shell}
    (asks : takeEach (readings.filterMap Reading.line?) begun = (some code, executed)) :
    ∃ earlier line, StopsAt begun readings earlier line code executed := by
  rcases exists_of_takeEach_eq_some asks with ⟨earlier, line, later, led, rfl, silent, answers⟩
  have opens : ∀ reading ∈ earlier, reading.LeavesOpen :=
    fun reading member => leavesOpen reading (List.mem_append_left _ member)
  rcases takeAll_append_of_silent opens rfl quiet silent with ⟨before, runs⟩
  rcases visible_line before line with ⟨appears, ends⟩
  rw [answers] at appears ends
  -- The line ends the run before anything behind it is looked at.
  have stops : ∀ rest,
      takeAll (earlier ++ .line line :: later ++ rest) begun =
          ((advance earlier begun).invite.take (.line line)).2 ∧
        readingsTaken (earlier ++ .line line :: later ++ rest) begun = earlier ++ [.line line] := by
    intro rest
    rcases runs (.line line :: (later ++ rest)) with ⟨taken, order⟩
    rw [List.append_assoc, List.cons_append, taken, order, takeAll_cons, readingsTaken, ends]
    exact ⟨rfl, rfl⟩
  have closed := visible_close appears
  have result : executed.close.result = code := by
    rcases exitRequest_takeLine led line with ⟨request, _⟩
    rw [answers] at request
    rw [Shell.result, session_close, request, Option.some_or, Option.getD_some]
  refine ⟨earlier, line, ?_, ?_, ?_, fun rest => (stops rest).2, ?_, ?_, ?_⟩
  · exact ⟨later, List.append_assoc _ _ _⟩
  · rw [silent]
  · rw [silent]
    exact answers
  · intro rest other
    rw [Shell.run, Shell.run, (stops rest).1, (stops other).1]
  · intro rest
    rw [Shell.run, (stops rest).1]
    exact (result_of_visible closed).trans result
  · intro rest
    rw [Shell.run, (stops rest).1]
    exact closed

theorem goesOn_of_silent (leavesOpen : ∀ reading ∈ readings, reading.LeavesOpen)
    (quiet : begun.settings.isInteractive = false)
    (silent : (takeEach (readings.filterMap Reading.line?) begun).1 = none) :
    GoesOn begun readings (takeEach (readings.filterMap Reading.line?) begun).2 := by
  rcases takeAll_append_of_silent leavesOpen (rfl : begun.visible = _) quiet
    (Prod.ext silent rfl) with ⟨before, runs⟩
  have closed : ∀ rest, (begun.run (readings ++ rest)).2.visible =
      ((takeEach (readings.filterMap Reading.line?) begun).2.run rest).2.visible := by
    intro rest
    rw [Shell.run, (runs rest).1]
    exact visible_close (visible_takeAll before rest).1
  refine ⟨?_, fun rest => result_of_visible (closed rest), closed⟩
  intro rest
  rw [(runs rest).2, (visible_takeAll before rest).2]

/-- A session stops at the first line that asks for its end, and nothing behind that line
is read. Until then it is the same as to execute its lines one after another, and no line
asks for the end but by an `exit` that has run. -/
theorem run_append (fresh : begun.session.exitRequest = none)
    (quiet : begun.settings.isInteractive = false)
    (leavesOpen : ∀ reading ∈ readings, reading.LeavesOpen) :
    let executed := takeEach (readings.filterMap Reading.line?) begun
    (∀ code, executed.1 = some code →
        ∃ earlier line, StopsAt begun readings earlier line code executed.2) ∧
      (executed.1 = none → GoesOn begun readings executed.2) ∧
      (∀ (shell : Shell) line code, (shell.submit line).1 = some code →
        ∃ step ∈ shell.stepsOf line, ∃ operand, step.Asked (.exit operand)) ∧
      ∀ others, (begun.run others).1 = (begun.run others).2.session.status ∧
        (Session.IsStatus begun.session.status → Session.IsStatus (begun.run others).1) := by
  intro executed
  refine ⟨?_, goesOn_of_silent leavesOpen quiet, fun _ _ _ => asked_of_submit,
    fun others => code_run others fresh⟩
  intro code asks
  exact stopsAt_of_asks leavesOpen quiet (Prod.ext asks rfl)

/-- Neither a line that is not understood nor a command that fails ends the session. -/
theorem run_append_of_malformed_line :
    let begun :=
      Shell.start { mode := .script (Text.ofString "/s") } (Session.ofEnvironment .empty [] 7)
        { files := .empty } {}
    let malformed := Text.ofString "ls ||"
    let last := Text.ofString "cd /gone || exit 300"
    let readings := [.line malformed, .interrupt, .line last]
    begun.session.exitRequest = none ∧
      begun.settings.isInteractive = false ∧
      (∀ reading ∈ readings, reading.LeavesOpen) ∧
      GoesOn begun (readings.take 2) (takeEach [malformed] begun).2 ∧
      (∃ earlier line,
        StopsAt begun readings earlier line 44 (takeEach [malformed, last] begun).2) ∧
      ∀ others, Session.IsStatus (begun.run others).1 := by
  intro begun malformed last readings
  have fresh : begun.session.exitRequest = none := rfl
  have quiet : begun.settings.isInteractive = false := by decide
  have leavesOpen : ∀ reading ∈ readings, reading.LeavesOpen := by
    intro reading member
    simp only [readings, List.mem_cons, List.not_mem_nil, or_false] at member
    rcases member with rfl | rfl | rfl
    · exact .inr ⟨_, rfl⟩
    · exact .inl rfl
    · exact .inr ⟨_, rfl⟩
  have opens : ∀ reading ∈ readings.take 2, reading.LeavesOpen :=
    fun reading member => leavesOpen reading (List.mem_of_mem_take member)
  have silent : (takeEach [malformed] begun).1 = none := by decide +kernel
  have asks : (takeEach [malformed, last] begun).1 = some 44 := by decide +kernel
  have goesOn := (run_append fresh quiet opens).2.1 silent
  rcases run_append fresh quiet leavesOpen with ⟨stops, _, _, codes⟩
  have zero : Session.IsStatus begun.session.status := by
    unfold Session.IsStatus
    decide
  exact ⟨fresh, quiet, leavesOpen, goesOn, stops 44 asks, fun others => (codes others).2 zero⟩

end

end Shell

end CommandShell
