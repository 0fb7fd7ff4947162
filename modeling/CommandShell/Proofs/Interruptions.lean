import CommandShell.Proofs.Continuation
import CommandShell.Proofs.Inheritance

namespace CommandShell

/-! A session is made by its lines. Interrupts, input that fails instead of ending, and the
mode in which the lines are read change nothing in what it does, and nothing in what it
shows but the line breaks of the interactive mode: one for each reading that is no line. -/

/-! ## Lines among readings -/

namespace Reading

/-- The lines before the end of the input, which is also where the input fails. -/
def linesToEnd : List Reading → List Text
  | [] => []
  | .line text :: rest => text :: linesToEnd rest
  | .interrupt :: rest => linesToEnd rest
  | .endOfInput :: _ => []
  | .failure _ :: _ => []

def withoutInterrupts (readings : List Reading) : List Reading :=
  readings.filter fun reading => reading ≠ .interrupt

/-- The readings with the end of the input in place of the first failure. -/
def endingAtFailure : List Reading → List Reading
  | [] => []
  | .failure _ :: rest => .endOfInput :: rest
  | reading :: rest => reading :: endingAtFailure rest

theorem linesToEnd_withoutInterrupts (readings : List Reading) :
    linesToEnd (withoutInterrupts readings) = linesToEnd readings := by
  induction readings with
  | nil => rfl
  | cons reading rest induction =>
    cases reading with
    | line text => exact congrArg (text :: ·) induction
    | interrupt => exact induction
    | endOfInput => rfl
    | failure message => rfl

theorem linesToEnd_endingAtFailure (readings : List Reading) :
    linesToEnd (endingAtFailure readings) = linesToEnd readings := by
  induction readings with
  | nil => rfl
  | cons reading rest induction =>
    cases reading with
    | line text => exact congrArg (text :: ·) induction
    | interrupt => exact induction
    | endOfInput => rfl
    | failure message => rfl

end Reading

/-! ## Takings -/

/-- A reading that a run has taken, with the shell before and after. -/
structure Taking where
  reading : Reading
  before : Shell
  after : Shell

namespace Taking

/-- What the reading has added to what is shown. -/
def shown (taking : Taking) : List Event :=
  taking.after.shown.drop taking.before.shown.length

def line? (taking : Taking) : Option (Text × List Event) :=
  taking.reading.line?.map fun line => (line, taking.shown)

end Taking

namespace Shell

def taking (shell : Shell) (reading : Reading) : Taking :=
  ⟨reading, shell, (shell.invite.take reading).2⟩

/-- The takings of a run. The last reading is the end of the input, unless the run has ended
before. -/
def takings : List Reading → Shell → List Taking
  | [], shell => [shell.taking .endOfInput]
  | reading :: rest, shell =>
    shell.taking reading ::
      if shell.invite.endsWith reading then [] else takings rest (shell.taking reading).after

theorem shown_after_taking (shell : Shell) (reading : Reading) :
    (shell.taking reading).after.shown = shell.shown ++ (shell.taking reading).shown := by
  have added : ∀ events, (shell.taking reading).after.shown = shell.shown ++ events →
      (shell.taking reading).after.shown = shell.shown ++ (shell.taking reading).shown := by
    intro events same
    have dropped : (shell.taking reading).shown = events := by
      rw [Taking.shown, same]
      exact List.drop_left
    rw [dropped, same]
  cases reading with
  | line line => exact added _ (take_of_line shell line).2.2.1
  | _ => exact added _ (take_of_noLine shell rfl).2

theorem line?_taking (shell : Shell) (line : Text) :
    (shell.taking (.line line)).line? = some (line, (shell.essence.takeLine line).2.shown) := by
  have shown := (take_of_line shell line).2.2.1
  have dropped : (shell.taking (.line line)).shown = (shell.essence.takeLine line).2.shown := by
    rw [Taking.shown, taking, shown]
    exact List.drop_left
  rw [Taking.line?, dropped]
  rfl

theorem shown_taking_of_noLine (shell : Shell) {reading : Reading}
    (noLine : reading.line? = none) : (shell.taking reading).shown = shell.lineBreak := by
  rw [Taking.shown, taking, (take_of_noLine shell noLine).2]
  exact List.drop_left

/-- The takings of a run account for all that it shows. -/
theorem shown_takeAll (readings : List Reading) (shell : Shell) :
    (takeAll readings shell).shown =
      shell.shown ++ (takings readings shell).flatMap Taking.shown := by
  induction readings generalizing shell with
  | nil =>
    rw [takings, List.flatMap_singleton]
    exact shown_after_taking shell .endOfInput
  | cons reading rest induction =>
    rw [takeAll_cons, takings, List.flatMap_cons]
    split
    · rw [List.flatMap_nil, List.append_nil]
      exact shown_after_taking shell reading
    · rw [← List.append_assoc, ← shown_after_taking]
      exact induction (shell.taking reading).after

theorem shown_run (readings : List Reading) (shell : Shell) :
    (shell.run readings).2.shown =
      shell.shown ++ (takings readings shell).flatMap Taking.shown :=
  (close_eq _).2.trans (shown_takeAll readings shell)

/-- The readings of the takings are those that a run over the readings and the end takes. -/
theorem readings_takings (readings : List Reading) (shell : Shell) :
    (takings readings shell).map Taking.reading =
      readingsTaken (readings ++ [.endOfInput]) shell := by
  induction readings generalizing shell with
  | nil => rfl
  | cons reading rest induction =>
    rw [takings, List.map_cons, List.cons_append, readingsTaken]
    split
    · rfl
    · rw [induction]
      rfl

/-! ## Line breaks -/

/-- An output that works goes on to do so, in the same mode. -/
theorem runInvariant_works (interactive : Bool) :
    RunInvariant (fun _ => True) fun shell =>
      shell.console.output.writeFault = none ∧ shell.settings.isInteractive = interactive where
  record := fun holds _ => holds
  segment := by
    intro shell ⟨works, mode⟩ segment
    have ground := ground_segment shell segment
    have settings := congrArg Ground.settings ground
    have faults := congrArg (fun ground => ground.writeFault .output) ground
    exact ⟨faults.trans works, (congrArg Settings.isInteractive settings).trans mode⟩
  conclude := by
    intro shell holds outcome
    cases outcome <;> exact holds
  write := fun holds stream text =>
    ⟨(Console.faults_write _ stream .output text).1.trans holds.1, holds.2⟩
  complain := id
  remember := fun holds _ _ _ => holds
  count := id
  input := fun holds _ => holds

theorem works_taking {shell : Shell} (works : shell.console.output.writeFault = none)
    (reading : Reading) :
    (shell.taking reading).after.console.output.writeFault = none ∧
      (shell.taking reading).after.settings.isInteractive = shell.settings.isInteractive :=
  (runInvariant_works _).take ((runInvariant_works _).invite ⟨works, rfl⟩) fun _ _ => trivial

/-- Where the output works, the interactive mode ends a line that the user has left with a
line break. -/
theorem shown_taking_of_works {shell : Shell} (works : shell.console.output.writeFault = none)
    {reading : Reading} (noLine : reading.line? = none) :
    (shell.taking reading).shown =
      if shell.settings.isInteractive then [.written .output ['\n']] else [] := by
  rw [shown_taking_of_noLine shell noLine, lineBreak]
  simp only [Sink.fault?_of_working works, and_true]

theorem shown_of_mem_takings {readings : List Reading} {shell : Shell}
    (works : shell.console.output.writeFault = none) :
    ∀ taking ∈ takings readings shell, taking.reading.line? = none →
      taking.shown =
        if shell.settings.isInteractive then [.written .output ['\n']] else [] := by
  induction readings generalizing shell with
  | nil =>
    intro taking member noLine
    rw [List.mem_singleton.mp member]
    exact shown_taking_of_works works rfl
  | cons reading rest induction =>
    intro taking member noLine
    rcases List.mem_cons.mp member with rfl | later
    · exact shown_taking_of_works works noLine
    · rcases works_taking works reading with ⟨worksAfter, mode⟩
      split at later
      · cases later
      · rw [← mode]
        exact induction worksAfter taking later noLine

/-! ## Sessions of the same lines -/

section

variable {left right : Shell}

theorem taking_of_noLine (same : left.essence = right.essence)
    (works : left.console.output.writeFault = none) {reading : Reading}
    (noLine : reading.line? = none) :
    (left.taking reading).after.essence = right.essence ∧ (left.taking reading).line? = none := by
  have kept := essence_of_noLine works noLine
  exact ⟨kept.trans same, by rw [Taking.line?, taking, noLine, Option.map_none]⟩

theorem taking_of_line (same : left.essence = right.essence) (line : Text) :
    (left.taking (.line line)).after.essence = (right.taking (.line line)).after.essence ∧
      (left.taking (.line line)).line? = (right.taking (.line line)).line? ∧
      left.invite.endsWith (.line line) = right.invite.endsWith (.line line) := by
  rcases take_of_line left line with ⟨leftEssence, _, _, leftEnds⟩
  rcases take_of_line right line with ⟨rightEssence, _, _, rightEnds⟩
  rw [line?_taking, line?_taking, taking, taking, leftEssence, rightEssence, leftEnds, rightEnds,
    same]
  exact ⟨rfl, rfl, rfl⟩

/-- A run comes to the same as a run over its lines alone, and its lines show the same. -/
theorem takeAll_linesToEnd (readings : List Reading) (same : left.essence = right.essence)
    (works : left.console.output.writeFault = none) :
    (takeAll readings left).essence =
        (takeAll ((Reading.linesToEnd readings).map .line) right).essence ∧
      (takings readings left).filterMap Taking.line? =
        (takings ((Reading.linesToEnd readings).map .line) right).filterMap Taking.line? := by
  have last : ∀ {left right : Shell} (reading : Reading), left.essence = right.essence →
      left.console.output.writeFault = none → reading.line? = none →
      (left.taking reading).after.essence = (takeAll [] right).essence := by
    intro left right reading same works noLine
    have outputs : left.console.output = right.console.output :=
      congrArg (fun shell => shell.console.output) same
    have ended : (takeAll [] right).essence = right.essence :=
      essence_of_noLine (outputs ▸ works) rfl
    rw [ended]
    exact (taking_of_noLine same works noLine).1
  induction readings generalizing left right with
  | nil => exact ⟨last .endOfInput same works rfl, rfl⟩
  | cons reading rest induction =>
    rw [takeAll_cons, takings]
    cases reading with
    | endOfInput => exact ⟨last .endOfInput same works rfl, rfl⟩
    | failure message => exact ⟨last (.failure message) same works rfl, rfl⟩
    | interrupt =>
      rcases @taking_of_noLine left right same works .interrupt rfl with ⟨kept, skipped⟩
      rw [List.filterMap_cons_none skipped]
      exact induction kept (works_taking works .interrupt).1
    | line line =>
      rcases taking_of_line same line with ⟨sameAfter, sameShown, sameEnds⟩
      have shows := sameShown.symm.trans (line?_taking left line)
      rw [List.filterMap_cons_some (line?_taking left line)]
      rw [Reading.linesToEnd, List.map_cons, takeAll_cons, takings, sameEnds,
        List.filterMap_cons_some shows]
      split
      · exact ⟨sameAfter, rfl⟩
      · rcases induction sameAfter (works_taking works (.line line)).1 with ⟨ends, lines⟩
        exact ⟨ends, congrArg _ lines⟩

end

/-! ## What is observed -/

section

variable {α : Type} {observe : Event → List α}

theorem flatMap_shown (hidden : ∀ event : Event, event.isShown = false → observe event = [])
    (shell : Shell) : shell.shown.flatMap observe = shell.console.transcript.flatMap observe := by
  unfold shown
  induction shell.console.transcript with
  | nil => rfl
  | cons event rest induction =>
    cases visible : event.isShown with
    | true => rw [List.filter_cons_of_pos visible, List.flatMap_cons, List.flatMap_cons, induction]
    | false =>
      rw [List.filter_cons_of_neg (by simp [visible]), List.flatMap_cons, hidden event visible,
        List.nil_append, induction]

/-- Where nothing is observed of a line break, all that is observed is observed of lines. -/
theorem flatMap_takings (unseen : observe (.written .output ['\n']) = []) (readings : List Reading)
    {shell : Shell} (works : shell.console.output.writeFault = none) :
    ((takings readings shell).flatMap Taking.shown).flatMap observe =
      ((takings readings shell).filterMap Taking.line?).flatMap
        fun line => line.2.flatMap observe := by
  have breaks : ∀ taking ∈ takings readings shell, taking.reading.line? = none →
      taking.shown.flatMap observe = [] := by
    intro taking member noLine
    rw [shown_of_mem_takings works taking member noLine]
    split
    · rw [List.flatMap_singleton, unseen]
    · rfl
  generalize takings readings shell = takings at breaks
  induction takings with
  | nil => rfl
  | cons taking rest induction =>
    rcases List.forall_mem_cons.mp breaks with ⟨here, onward⟩
    rw [List.flatMap_cons, List.flatMap_append, induction onward]
    cases found : taking.reading.line? with
    | none =>
      rw [List.filterMap_cons_none (by rw [Taking.line?, found, Option.map_none]), here found,
        List.nil_append]
    | some line =>
      rw [List.filterMap_cons_some (by rw [Taking.line?, found, Option.map_some]),
        List.flatMap_cons]

theorem flatMap_transcript_run
    (hidden : ∀ event : Event, event.isShown = false → observe event = [])
    (unseen : observe (.written .output ['\n']) = []) (readings : List Reading) {shell : Shell}
    (works : shell.console.output.writeFault = none) :
    (shell.run readings).2.console.transcript.flatMap observe =
      shell.console.transcript.flatMap observe ++
        ((takings readings shell).filterMap Taking.line?).flatMap
          fun line => line.2.flatMap observe := by
  rw [← flatMap_shown hidden, ← flatMap_shown hidden, shown_run, List.flatMap_append,
    flatMap_takings unseen readings works]

end

/-! ## Sessions -/

/-- How a run comes to what it shows: reading after reading adds to it, and one that is no
line adds the line break of the interactive mode and nothing else. -/
structure Account (shell : Shell) (readings : List Reading) : Prop where
  order : (takings readings shell).map Taking.reading =
    readingsTaken (readings ++ [.endOfInput]) shell
  shown : (shell.run readings).2.shown =
    shell.shown ++ (takings readings shell).flatMap Taking.shown
  breaks : ∀ taking ∈ takings readings shell, taking.reading.line? = none →
    taking.shown = if shell.settings.isInteractive then [.written .output ['\n']] else []

theorem account {shell : Shell} (works : shell.console.output.writeFault = none)
    (readings : List Reading) : Account shell readings where
  order := readings_takings readings shell
  shown := shown_run readings shell
  breaks := shown_of_mem_takings works

/-- Two runs that do the same. Their lines show the same, one after another, and whatever
else they show are line breaks for which they account. -/
structure SameSession (left : Shell) (lefts : List Reading) (right : Shell)
    (rights : List Reading) : Prop where
  code : (left.run lefts).1 = (right.run rights).1
  session : (left.run lefts).2.session = (right.run rights).2.session
  world : (left.run lefts).2.world = (right.run rights).2.world
  accepted : (left.run lefts).2.console.transcript.filterMap Event.acceptedLine? =
    (right.run rights).2.console.transcript.filterMap Event.acceptedLine?
  launches : (left.run lefts).2.launches = (right.run rights).2.launches
  errors : (left.run lefts).2.console.transcript.flatMap (Event.writtenText .error) =
    (right.run rights).2.console.transcript.flatMap (Event.writtenText .error)
  lines : (takings lefts left).filterMap Taking.line? =
    (takings rights right).filterMap Taking.line?
  accountLeft : Account left lefts
  accountRight : Account right rights

section

variable {left right : Shell} {lefts rights : List Reading}

/-- The lines to the end of the input decide what a session does. -/
theorem sameSession_of_linesToEnd (essence : left.essence = right.essence)
    (transcript : left.console.transcript = right.console.transcript)
    (works : left.console.output.writeFault = none)
    (same : Reading.linesToEnd lefts = Reading.linesToEnd rights) :
    SameSession left lefts right rights := by
  have outputs : right.console.output = left.console.output :=
    (congrArg (fun shell => shell.console.output) essence).symm
  have worksToo : right.console.output.writeFault = none := outputs ▸ works
  rcases takeAll_linesToEnd lefts essence works with ⟨leftEnd, leftLines⟩
  rcases takeAll_linesToEnd rights (rfl : right.essence = _) worksToo with ⟨rightEnd, rightLines⟩
  rw [same] at leftEnd leftLines
  have lines := leftLines.trans rightLines.symm
  have ends : (left.run lefts).2.essence = (right.run rights).2.essence := by
    rw [run, run, (close_eq _).1, leftEnd, ← rightEnd, ← (close_eq _).1]
  have observed : ∀ {α : Type} {observe : Event → List α},
      (∀ event : Event, event.isShown = false → observe event = []) →
      observe (.written .output ['\n']) = [] →
      (left.run lefts).2.console.transcript.flatMap observe =
        (right.run rights).2.console.transcript.flatMap observe := by
    intro α observe hidden unseen
    rw [flatMap_transcript_run hidden unseen lefts works,
      flatMap_transcript_run hidden unseen rights worksToo, transcript, lines]
  have found : ∀ {α : Type} {observe : Event → Option α},
      (∀ event : Event, event.isShown = false → observe event = none) →
      observe (.written .output ['\n']) = none →
      (left.run lefts).2.console.transcript.filterMap observe =
        (right.run rights).2.console.transcript.filterMap observe := by
    intro α observe hidden unseen
    rw [List.filterMap_eq_flatMap_toList, List.filterMap_eq_flatMap_toList]
    exact observed (fun event invisible => by rw [hidden event invisible]; rfl)
      (by rw [unseen]; rfl)
  have codes := congrArg result ends
  have sessions := congrArg Shell.session ends
  have worlds := congrArg Shell.world ends
  exact
    { code := codes
      session := sessions
      world := worlds
      accepted := found (fun event invisible => by cases event <;> trivial) rfl
      launches := found (fun event invisible => by cases event <;> trivial) rfl
      errors := observed (fun event invisible => by cases event <;> trivial) rfl
      lines
      accountLeft := account works lefts
      accountRight := account worksToo rights }

end

def inMode (mode : Mode) (shell : Shell) : Shell :=
  { shell with settings := { shell.settings with mode := mode } }

/-- A session does the same without its interrupts, with its input ending where it failed,
and in any mode. -/
theorem run_same_session {shell : Shell} (works : shell.console.output.writeFault = none)
    (readings : List Reading) :
    SameSession shell readings shell (Reading.withoutInterrupts readings) ∧
      SameSession shell readings shell (Reading.endingAtFailure readings) ∧
      ∀ mode, SameSession shell readings (shell.inMode mode) readings :=
  ⟨sameSession_of_linesToEnd rfl rfl works (Reading.linesToEnd_withoutInterrupts readings).symm,
    sameSession_of_linesToEnd rfl rfl works (Reading.linesToEnd_endingAtFailure readings).symm,
    fun _ => sameSession_of_linesToEnd rfl rfl works rfl⟩

/-- Of the three line breaks that the user sees, the last is at the failure of the input. -/
theorem run_same_session_of_failing_input :
    let shell : Shell :=
      { settings := { mode := .interactive }
        session := Session.ofEnvironment .empty [] 7
        world := { files := .empty } }
    let line := Text.ofString "ls"
    let failure := Reading.failure (Text.ofString "gone")
    let readings := [.interrupt, .line line, .interrupt, failure, .line (Text.ofString "exit 3")]
    shell.console.output.writeFault = none ∧
      SameSession shell readings shell [.line line, failure, .line (Text.ofString "exit 3")] ∧
      SameSession shell readings shell
        [.interrupt, .line line, .interrupt, .endOfInput, .line (Text.ofString "exit 3")] ∧
      SameSession shell readings (shell.inMode .standardInput) readings ∧
      (shell.run readings).1 = 127 ∧
      (shell.run readings).2.shown =
        [.written .output ['\n'], .accepted line,
          .written .error (Text.ofString "hsh: 1: ls: not found\n"),
          .written .output ['\n'], .written .output ['\n']] := by
  intro shell line failure readings
  have works : shell.console.output.writeFault = none := rfl
  rcases run_same_session works readings with ⟨interrupts, failures, modes⟩
  exact ⟨works, interrupts, failures, modes .standardInput, by decide +kernel, by decide +kernel⟩

end Shell

end CommandShell
