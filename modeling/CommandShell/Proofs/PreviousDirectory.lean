import CommandShell.Proofs.DirectoryChange
import CommandShell.Proofs.Places

namespace CommandShell

/-! Where `cd -` leads. It undoes the last `cd` that succeeded, whatever else has happened
since then, and a second `cd -` undoes the first. -/

namespace Shell

/-- Between two shells the place is the same, and so are the directory to return to and whether
the output works. -/
structure Rests (left right : Shell) : Prop where
  place : right.world.place = left.world.place
  previous : right.session.previousDirectory = left.session.previousDirectory
  fault : right.console.output.writeFault = left.console.output.writeFault

theorem Rests.refl (shell : Shell) : Rests shell shell :=
  ⟨rfl, rfl, rfl⟩

theorem Rests.trans {one two three : Shell} (first : Rests one two) (second : Rests two three) :
    Rests one three :=
  ⟨second.place.trans first.place, second.previous.trans first.previous,
    second.fault.trans first.fault⟩

end Shell

/-! ## Steps -/

namespace Step

/-- Whether the step is a `cd` that has succeeded. -/
def Moves (step : Step) : Prop :=
  step.outcome = some (.status 0) ∧ ∃ target, step.Asked (.changeDirectory target)

variable {step : Step}

theorem writeFault_of_isLawful (lawful : step.IsLawful) :
    step.after.console.output.writeFault = step.before.console.output.writeFault := by
  cases ran : step.outcome with
  | some outcome =>
    have kept := congrArg (fun ground => ground.writeFault .output)
      (Shell.ground_segment step.before step.segment)
    rw [(lawful.of_outcome ran).2]
    cases outcome <;> exact kept
  | none =>
    have kept := congrArg (fun shell => shell.console.output.writeFault) (lawful.of_passed ran)
    exact kept

/-- A step that was asked for a change of the directory has done as `cd` does. -/
theorem goes_of_asked (lawful : step.IsLawful) {target : Option Text}
    (asked : step.Asked (.changeDirectory target)) :
    ∃ outcome after, step.outcome = some outcome ∧ step.after = after.conclude outcome ∧
      Shell.Goes target.toList step.before (outcome, after) := by
  rcases asked with ⟨ran, called⟩
  rcases Option.isSome_iff_exists.mp ran with ⟨outcome, ran⟩
  rcases Option.map_eq_some_iff.mp called with ⟨⟨builtin, operands⟩, calls, asks⟩
  rcases Builtin.call_eq_changeDirectory asks with ⟨rfl, rfl⟩
  have common : target.toList ≠ [Builtin.manualOperand] := by
    intro manual
    rw [manual] at asks
    cases asks
  have goes := Shell.goes_segment calls common
  rcases lawful.of_outcome ran with ⟨rfl, after⟩
  exact ⟨_, _, ran, after, goes⟩

theorem arrives_of_moves (lawful : step.IsLawful) (moves : step.Moves) :
    ∃ target, Shell.Arrives target step.before step.after := by
  rcases moves with ⟨succeeded, target, asked⟩
  rcases goes_of_asked lawful asked with ⟨outcome, after, ran, concluded, goes⟩
  cases ran.symm.trans succeeded
  refine ⟨target, ?_⟩
  rw [concluded]
  cases goes with
  | nowhere failed => exact absurd rfl failed
  | there arrives =>
    rw [Option.head?_toList] at arrives
    exact arrives.of_idle rfl

/-- A step that is no successful `cd` keeps the working directory and the previous one, provided
that the output works: otherwise a `cd -` may fail after it has changed both. -/
theorem rests_of_not_moves (lawful : step.IsLawful)
    (works : step.before.console.output.writeFault = none) (idle : ¬step.Moves) :
    Shell.Rests step.before step.after := by
  have fault := writeFault_of_isLawful lawful
  rcases Shell.frame_directory.step lawful with ⟨previous, place⟩ | ⟨_, asked, target, rfl⟩
  · exact ⟨place, previous, fault⟩
  · rcases goes_of_asked lawful asked with ⟨outcome, after, ran, concluded, goes⟩
    cases goes with
    | nowhere _ still =>
      have place := congrArg Shell.Whereabouts.place still.same
      have previous := congrArg Shell.Whereabouts.previousDirectory still.same
      rw [concluded] at fault ⊢
      exact ⟨place, previous, fault⟩
    | there => exact absurd ⟨ran, target, asked⟩ idle
    | unannounced unheard => exact absurd works unheard.fault_ne_none

/-- A step that is a `cd -` to this directory: it succeeds, prints the directory, and notes the
one that it has left. -/
structure Returns (step : Step) (directory : Text) (place : Place) : Prop where
  succeeds : step.outcome = some (.status 0)
  arrives : step.after.world.place = place
  announced : step.after.outputs = step.before.outputs ++ (directory ++ ['\n'])
  current : step.after.session.environment.get? Shell.directoryName = some directory
  previous : step.after.session.previousDirectory = step.before.world.directory?
  previousValue :
    step.after.session.environment.get? Shell.previousName = step.before.world.directory?

/-- `cd -` succeeds if the previous directory is known, is the path of a place, and leads
there. -/
theorem returns_of_noted (lawful : step.IsLawful)
    (works : step.before.console.output.writeFault = none)
    (asked : step.Asked (.changeDirectory (some ['-']))) {directory here : Text} {place : Place}
    (noted : step.before.session.previousDirectory = some directory)
    (path : place.text? = some directory)
    (located : step.before.world.locate directory = .ok (.directory place))
    (standing : step.before.world.directory? = some here) : step.Returns directory place := by
  rcases goes_of_asked lawful asked with ⟨outcome, after, ran, concluded, goes⟩
  cases goes with
  | nowhere _ _ astray =>
    exact absurd ⟨by simp, directory, place, .back noted, located⟩ astray
  | unannounced unheard => exact absurd works unheard.fault_ne_none
  | there arrives announced =>
    have same : step.after.whereabouts = after.whereabouts := by rw [concluded]; rfl
    rcases (arrives.of_idle same).moved with ⟨other, denotes, reached, current⟩
    cases noted.symm.trans ((Session.denotes_back_iff _ _).mp denotes)
    cases located.symm.trans reached
    have directory : step.after.world.directory? = some directory := path
    rw [directory, Option.getD_some] at current
    rcases (arrives.of_idle same).departed here standing with ⟨previous, value⟩
    have environment : after.session.environment = step.after.session.environment :=
      congrArg Shell.Whereabouts.environment same.symm
    rw [Option.toList_some, if_pos rfl, environment, current] at announced
    rw [← standing] at previous value
    refine ⟨ran, rfl, ?_, current, previous, value⟩
    rw [concluded]
    exact announced

end Step

/-! ## Moves in a row -/

namespace Shell

/-- What happens in a session: lines are submitted one after another, and in between whatever
may happen that leaves the shell where it is. -/
inductive Journey (first : Shell) : List Step → Shell → Prop
  | start : Journey first [] first
  | submit {steps : List Step} {shell : Shell} (journey : Journey first steps shell)
      (line : Text) : Journey first (steps ++ shell.stepsOf line) (shell.submit line).2
  | meanwhile {steps : List Step} {shell other : Shell} (journey : Journey first steps shell)
      (rests : Rests shell other) : Journey first steps other

end Shell

namespace Step

/-- Each step begins where the step before it has ended. -/
def Follows (first : Shell) : List Step → Shell → Prop
  | [], last => Shell.Rests first last
  | step :: rest, last => Shell.Rests first step.before ∧ Follows step.after rest last

theorem Follows.of_linked {steps : List Step} {first last : Shell}
    (linked : Linked first steps last) : Follows first steps last := by
  induction steps generalizing first with
  | nil =>
    have same : first = last := linked
    exact same ▸ .refl first
  | cons step rest induction =>
    rcases linked with ⟨begins, onward⟩
    exact ⟨begins ▸ .refl step.before, induction onward⟩

theorem Follows.rests {steps : List Step} {first between last : Shell}
    (follows : Follows first steps between) (rests : Shell.Rests between last) :
    Follows first steps last := by
  induction steps generalizing first with
  | nil => exact Shell.Rests.trans follows rests
  | cons step rest induction => exact ⟨follows.1, induction follows.2⟩

theorem Follows.behind {steps : List Step} {first between last : Shell}
    (rests : Shell.Rests first between) (follows : Follows between steps last) :
    Follows first steps last := by
  cases steps with
  | nil => exact rests.trans follows
  | cons step rest => exact ⟨rests.trans follows.1, follows.2⟩

theorem follows_append_iff {one two : List Step} {first last : Shell} :
    Follows first (one ++ two) last ↔
      ∃ between, Follows first one between ∧ Follows between two last := by
  induction one generalizing first with
  | nil =>
    constructor
    · exact fun follows => ⟨first, .refl first, follows⟩
    · rintro ⟨between, rests, follows⟩
      exact .behind rests follows
  | cons step rest induction =>
    simp only [List.cons_append, Follows, induction]
    constructor
    · rintro ⟨begins, between, here, onward⟩
      exact ⟨between, ⟨begins, here⟩, onward⟩
    · rintro ⟨between, ⟨begins, here⟩, onward⟩
      exact ⟨begins, between, here, onward⟩

end Step

namespace Shell

theorem rests_of_withoutDetails {left right : Shell}
    (same : right.withoutDetails = left.withoutDetails) : Rests left right where
  place := congrArg (fun shell => shell.world.place) same
  previous := congrArg (fun shell => shell.session.previousDirectory) same
  fault := congrArg (fun shell => shell.console.output.writeFault) same

theorem follows_submit (shell : Shell) (line : Text) :
    Step.Follows shell (shell.stepsOf line) (shell.submit line).2 := by
  rw [stepsOf]
  cases split : Chain.ofLine line with
  | error operator =>
    have rejected : Rests (shell.afterRejection operator) (shell.submit line).2 :=
      rests_of_withoutDetails (submit_rejected split).2
    have acts : Acts [] none shell
        (shell.reportOrWarn none (Failure.unexpected operator.symbol).message) :=
      acts_reportOrWarn shell none _
    rw [reportOrWarn_eq] at acts
    have fault := congrArg (fun ground => ground.writeFault .output) acts.ground
    exact ⟨rejected.place, rejected.previous, rejected.fault.trans fault⟩
  | ok segments =>
    by_cases inhabited : segments = []
    · subst inhabited
      exact rests_of_withoutDetails (submit_empty split).2
    · rw [submit_chain split inhabited]
      have begun : Rests shell (shell.begin line segments) := ⟨rfl, rfl, rfl⟩
      exact .behind begun (.of_linked (linked_course segments _))

/-- Steps that follow one another while the output works. -/
structure Trail (first : Shell) (steps : List Step) (last : Shell) : Prop where
  follows : Step.Follows first steps last
  lawful : ∀ step ∈ steps, step.IsLawful
  works : first.console.output.writeFault = none

theorem Journey.trail {first last : Shell} {steps : List Step}
    (journey : first.Journey steps last) (works : first.console.output.writeFault = none) :
    first.Trail steps last := by
  induction journey with
  | start => exact ⟨.refl first, by simp, works⟩
  | @submit steps shell _ line trail =>
    have follows := Step.follows_append_iff.mpr ⟨shell, trail.follows, follows_submit shell line⟩
    have lawful : ∀ step ∈ steps ++ shell.stepsOf line, step.IsLawful :=
      List.forall_mem_append.mpr ⟨trail.lawful, isLawful_of_mem_stepsOf⟩
    exact ⟨follows, lawful, works⟩
  | meanwhile _ rests trail => exact ⟨trail.follows.rests rests, trail.lawful, works⟩

namespace Trail

variable {first last : Shell}

theorem writeFault {steps : List Step} (trail : first.Trail steps last) :
    last.console.output.writeFault = first.console.output.writeFault := by
  rcases trail with ⟨follows, lawful, works⟩
  induction steps generalizing first with
  | nil => exact Rests.fault follows
  | cons step rest induction =>
    rcases List.forall_mem_cons.mp lawful with ⟨here, onward⟩
    have same : step.after.console.output.writeFault = first.console.output.writeFault := by
      rw [Step.writeFault_of_isLawful here, follows.1.fault]
    rw [induction follows.2 onward (by rw [same, works]), same]

/-- A trail leads up to each of its steps and on from there. -/
theorem split {earlier later : List Step} {step : Step}
    (trail : first.Trail (earlier ++ step :: later) last) :
    first.Trail earlier step.before ∧ step.IsLawful ∧
      step.before.console.output.writeFault = none ∧ step.after.Trail later last := by
  rcases Step.follows_append_iff.mp trail.follows with ⟨between, before, begins, behind⟩
  rcases List.forall_mem_append.mp trail.lawful with ⟨lawfulEarlier, onward⟩
  rcases List.forall_mem_cons.mp onward with ⟨here, lawfulLater⟩
  have up : first.Trail earlier step.before := ⟨before.rests begins, lawfulEarlier, trail.works⟩
  have worksHere : step.before.console.output.writeFault = none := by
    rw [up.writeFault, trail.works]
  have worksAfter : step.after.console.output.writeFault = none := by
    rw [Step.writeFault_of_isLawful here, worksHere]
  exact ⟨up, here, worksHere, behind, lawfulLater, worksAfter⟩

/-- Steps of which none moves leave the shell where it is. -/
theorem rests_of_idle {steps : List Step} (trail : first.Trail steps last)
    (idle : ∀ step ∈ steps, ¬step.Moves) : Rests first last := by
  -- The output is carried along: without it a step could go somewhere and fail.
  induction steps generalizing first with
  | nil => exact trail.follows
  | cons step rest induction =>
    have whole : first.Trail ([] ++ step :: rest) last := trail
    rcases whole.split with ⟨begins, here, works, onward⟩
    rcases List.forall_mem_cons.mp idle with ⟨still, stillOnward⟩
    have up : Rests first step.before := begins.follows
    exact (up.trans (Step.rests_of_not_moves here works still)).trans (induction onward stillOnward)

end Trail

end Shell

namespace Step

/-- Whether of these steps this was the last to go anywhere. -/
def IsLatestMove (steps : List Step) (moved : Step) : Prop :=
  ∃ earlier idle, steps = earlier ++ moved :: idle ∧ moved.Moves ∧ ∀ step ∈ idle, ¬step.Moves

variable {moved back forth : Step}

theorem IsLatestMove.rests {steps : List Step} {first last : Shell}
    (latest : IsLatestMove steps moved) (trail : first.Trail steps last) :
    moved.IsLawful ∧ moved.Moves ∧ Shell.Rests moved.after last := by
  rcases latest with ⟨earlier, idle, rfl, moves, still⟩
  rcases trail.split with ⟨_, lawful, _, onward⟩
  exact ⟨lawful, moves, onward.rests_of_idle still⟩

/-! ## There and back -/

/-- After a successful `cd` and steps that keep its directories, `cd -` returns to the directory
in which the first step began, provided that the path of that directory still leads there. -/
theorem returns_to_departure (lawful : moved.IsLawful) (moves : moved.Moves)
    (rests : Shell.Rests moved.after back.before) (lawfulBack : back.IsLawful)
    (works : back.before.console.output.writeFault = none)
    (asked : back.Asked (.changeDirectory (some ['-'])))
    (kept : back.before.world.Keeps moved.before.world.place)
    (standing : moved.after.world.directory? ≠ none) :
    ∃ departed, moved.before.world.directory? = some departed ∧
      back.Returns departed moved.before.world.place := by
  rcases kept with ⟨departed, path, located⟩
  rcases arrives_of_moves lawful moves with ⟨target, arrives⟩
  have noted : back.before.session.previousDirectory = some departed := by
    rw [rests.previous]
    exact (arrives.departed departed path).1
  rcases Option.ne_none_iff_exists'.mp standing with ⟨here, standing⟩
  have standing : back.before.world.directory? = some here := by
    rw [World.directory?, rests.place]
    exact standing
  exact ⟨departed, path, returns_of_noted lawfulBack works asked noted path located standing⟩

/-- The later step succeeds and sets the working directory, the previous one and their variables
as the earlier one did. -/
structure Restores (moved forth : Step) : Prop where
  succeeds : forth.outcome = some (.status 0)
  place : forth.after.world.place = moved.after.world.place
  previous : forth.after.session.previousDirectory = moved.after.session.previousDirectory
  values : ∀ name, name = Shell.directoryName ∨ name = Shell.previousName →
    forth.after.session.environment.get? name = moved.after.session.environment.get? name

/-- A `cd -` back to the directory that the first step led to sets everything as the first step
did, if the step before it has returned to where the first step began. -/
theorem restores_of_returns (lawful : moved.IsLawful) (moves : moved.Moves) {departed here : Text}
    (began : moved.before.world.directory? = some departed)
    (arrived : moved.after.world.directory? = some here)
    (left : back.after.world.place = moved.before.world.place)
    (rests : Shell.Rests back.after forth.before)
    (returns : forth.Returns here moved.after.world.place) : Restores moved forth := by
  rcases arrives_of_moves lawful moves with ⟨target, arrives⟩
  rcases arrives.moved with ⟨directory, _, _, current⟩
  rcases arrives.departed departed began with ⟨previous, value⟩
  have standing : forth.before.world.directory? = some departed := by
    rw [World.directory?, rests.place, left]
    exact began
  refine ⟨returns.succeeds, returns.arrives, ?_, ?_⟩
  · rw [returns.previous, standing, previous]
  · rintro name (rfl | rfl)
    · rw [returns.current, current, arrived, Option.getD_some]
    · rw [returns.previousValue, standing, value]

end Step

namespace Shell

/-- As long as the output works, the directory to return to is the one in which the shell was
before the last `cd` that succeeded, whatever has failed or been set since. Where it still has a
path, `cd -` goes there, and a second `cd -` leaves everything as that `cd` had left it. -/
theorem back_undoes_latest_move {first last : Shell} {steps : List Step}
    (works : first.console.output.writeFault = none) (journey : first.Journey steps last) :
    (∀ moved, Step.IsLatestMove steps moved →
      last.world.place = moved.after.world.place ∧
        ∀ departed, moved.before.world.directory? = some departed →
          last.session.previousDirectory = some departed) ∧
    ∀ earlier moved back later, steps = earlier ++ back :: later →
      Step.IsLatestMove earlier moved → back.Asked (.changeDirectory (some ['-'])) →
      back.before.world.Keeps moved.before.world.place →
      back.before.world.Keeps moved.after.world.place →
      (∃ departed, moved.before.world.directory? = some departed ∧
        back.Returns departed moved.before.world.place) ∧
      ∀ idle forth rest, later = idle ++ forth :: rest → (∀ step ∈ idle, ¬step.Moves) →
        forth.Asked (.changeDirectory (some ['-'])) →
        forth.before.world.Keeps moved.after.world.place → Step.Restores moved forth := by
  have trail := journey.trail works
  constructor
  · intro moved latest
    rcases latest.rests trail with ⟨lawful, moves, rests⟩
    rcases Step.arrives_of_moves lawful moves with ⟨target, arrives⟩
    refine ⟨rests.place, fun departed began => ?_⟩
    rw [rests.previous]
    exact (arrives.departed departed began).1
  · rintro earlier moved back later rfl latest asked kept standing
    rcases trail.split with ⟨before, lawfulBack, worksBack, behind⟩
    rcases latest.rests before with ⟨lawful, moves, rests⟩
    rcases standing with ⟨here, arrived, _⟩
    have arrived : moved.after.world.directory? = some here := arrived
    rcases Step.returns_to_departure lawful moves rests lawfulBack worksBack asked kept
      (by simp [arrived]) with ⟨departed, began, returns⟩
    refine ⟨⟨departed, began, returns⟩, ?_⟩
    rintro idle forth rest rfl still askedAgain keptAgain
    rcases behind.split with ⟨during, lawfulForth, worksForth, _⟩
    -- By now the way back is the latest move, so that the same argument leads forth again.
    have restsAgain := during.rests_of_idle still
    have left : back.after.world.directory? = some departed := by
      rw [World.directory?, returns.arrives]
      exact began
    have same : back.before.world.directory? = some here := by
      rw [World.directory?, rests.place]
      exact arrived
    rw [← rests.place] at keptAgain
    rcases Step.returns_to_departure lawfulBack ⟨returns.succeeds, _, asked⟩ restsAgain lawfulForth
      worksForth askedAgain keptAgain (by simp [left]) with ⟨other, departedAgain, returnsAgain⟩
    cases same.symm.trans departedAgain
    rw [rests.place] at returnsAgain
    exact Step.restores_of_returns lawful moves began arrived returns.arrives restsAgain
      returnsAgain

/-- One line goes somewhere and back, and there again. -/
theorem back_undoes_latest_move_within_line :
    let target := Text.ofString "/a"
    let files := (World.put { files := .empty } target .directory).files
    let first : Shell :=
      { settings := { mode := .standardInput }
        session := .ofEnvironment .empty [] 7
        world := { files := files } }
    let line := Text.ofString "cd /a && setenv OLDPWD /b && cd - && cd -"
    first.console.output.writeFault = none ∧
      ∃ moved set back forth, first.Journey [moved, set, back, forth] (first.submit line).2 ∧
        Step.IsLatestMove [moved, set] moved ∧ back.Returns ['/'] .root ∧
        Step.Restores moved forth ∧ forth.after.world.directory? = some target := by
  intro target files first line
  have works : first.console.output.writeFault = none := rfl
  have journey : first.Journey (first.stepsOf line) (first.submit line).2 :=
    .submit .start line
  let root : World := { files := files }
  let inside : World := { files := files, place := { present := [['a']] } }
  let toTarget := Call.changeDirectory (some target)
  let toPrevious := Call.changeDirectory (some ['-'])
  let setting := Call.setVariable previousName (Text.ofString "/b")
  have steps : (first.stepsOf line).map (fun step =>
      (step.outcome, step.before.called step.segment, step.before.world, step.after.world)) =
        [(some (.status 0), some toTarget, root, inside),
          (some (.status 0), some setting, inside, inside),
          (some (.status 0), some toPrevious, inside, root),
          (some (.status 0), some toPrevious, root, inside)] := by decide +kernel
  simp only [List.map_eq_cons_iff, List.map_eq_nil_iff, Prod.mk.injEq] at steps
  rcases steps with
    ⟨moved, _, whole, ⟨moves, calledMoved, beganMoved, endedMoved⟩,
      set, _, rfl, ⟨_, calledSet, _, _⟩,
      back, _, rfl, ⟨ranBack, calledBack, beganBack, _⟩,
      forth, _, rfl, ⟨ranForth, calledForth, beganForth, endedForth⟩, rfl⟩
  rw [whole] at journey
  have latest : Step.IsLatestMove [moved, set] moved := by
    refine ⟨[], [set], rfl, ⟨moves, some target, by simp [Step.Ran, moves], calledMoved⟩, ?_⟩
    rintro other member ⟨_, _, _, called⟩
    cases List.mem_singleton.mp member
    have impossible : some setting = some (.changeDirectory _) := calledSet.symm.trans called
    simp [setting] at impossible
  have standsRoot : FileTree.IsStanding files .root := FileTree.isStanding_root files
  have isName : FileTree.IsEntryName ['a'] :=
    ⟨by decide, by decide, by decide, by decide, by decide, by decide⟩
  have standsInside : FileTree.IsStanding files inside.place :=
    standsRoot.enter isName (by decide +kernel) (by decide)
  have undoes := (back_undoes_latest_move works journey).2 [moved, set] moved back [forth] rfl
    latest ⟨by simp [Step.Ran, ranBack], calledBack⟩
  rw [beganMoved, endedMoved, beganBack] at undoes
  rcases undoes (World.keeps_of_isStanding standsRoot) (World.keeps_of_isStanding standsInside) with
    ⟨⟨departed, began, returns⟩, again⟩
  cases began
  have restores := again [] forth [] rfl (by simp) ⟨by simp [Step.Ran, ranForth], calledForth⟩
  rw [beganForth] at restores
  refine ⟨works, moved, set, back, forth, journey, latest, returns,
    restores (World.keeps_of_isStanding standsInside), ?_⟩
  rw [endedForth]
  rfl

end Shell

end CommandShell
