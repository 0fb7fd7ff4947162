import CommandShell.Proofs.Splitting
import CommandShell.Proofs.Writing
import CommandShell.Shell.Commands
import Mathlib.Data.List.Induction

namespace CommandShell

/-! The course of a chain shows every segment of it with the shell before and after.
A segment runs or is passed over by what the segments before it have come to, and
one that is passed over leaves no trace but in the log. -/

/-! ## Steps -/

namespace Shell

def conclude (shell : Shell) : Outcome → Shell
  | .status status => shell.noteStatus status
  | .exit code => shell.requestExit code

end Shell

def Outcome.recorded : Outcome → Int
  | .status value => Session.exitStatus value
  | .exit code => Session.exitStatus code

/-- A segment in the course of its chain. It has an outcome if it ran. -/
structure Step where
  segment : Segment
  before : Shell
  outcome : Option Outcome
  after : Shell

namespace Step

def Ran (step : Step) : Prop :=
  step.outcome.isSome = true

def request? (step : Step) : Option Int :=
  match step.outcome with
  | some (.exit code) => some (Session.exitStatus code)
  | _ => none

/-- The shell after the step is the shell before it as the segment has left it, if
it ran, and otherwise the same, the details of the log apart. -/
def IsLawful (step : Step) : Prop :=
  match step.outcome with
  | some outcome =>
    (step.before.segment step.segment).1 = outcome ∧
      step.after = (step.before.segment step.segment).2.conclude outcome
  | none => step.after.withoutDetails = step.before.withoutDetails

theorem IsLawful.of_outcome {step : Step} (lawful : step.IsLawful) {outcome : Outcome}
    (ran : step.outcome = some outcome) :
    (step.before.segment step.segment).1 = outcome ∧
      step.after = (step.before.segment step.segment).2.conclude outcome := by
  unfold IsLawful at lawful
  rw [ran] at lawful
  exact lawful

theorem IsLawful.of_passed {step : Step} (lawful : step.IsLawful)
    (passed : step.outcome = none) : step.after.withoutDetails = step.before.withoutDetails := by
  unfold IsLawful at lawful
  rw [passed] at lawful
  exact lawful

/-- Each step begins with the shell that the step before it has left. -/
def Linked (first : Shell) : List Step → Shell → Prop
  | [], last => first = last
  | step :: rest, last => step.before = first ∧ Linked step.after rest last

/-- The status that the last segment to run has left. -/
def latestStatus (steps : List Step) : Option Int :=
  (steps.filterMap Step.outcome).getLast?.map Outcome.recorded

/-- Whether a segment may run after these steps: the session goes on, and the
operator of the segment agrees with the status of the last one that ran. -/
def MayRun (earlier : List Step) (segment : Segment) : Prop :=
  (∀ step ∈ earlier, step.request? = none) ∧
    (segment.operator = some .sequence ∨
      segment.operator = some .and ∧ latestStatus earlier = some 0 ∨
      segment.operator = some .or ∧ ∃ status, latestStatus earlier = some status ∧ status ≠ 0)

/-- The first segment runs, and every other one as the steps before it permit. -/
structure ByRule (steps : List Step) : Prop where
  first : ∀ step later, steps = step :: later → step.Ran
  later : ∀ earlier step later, steps = earlier ++ step :: later → earlier ≠ [] →
    (step.Ran ↔ MayRun earlier step.segment)

theorem latestStatus_append_ran (steps : List Step) {step : Step} {outcome : Outcome}
    (ran : step.outcome = some outcome) :
    latestStatus (steps ++ [step]) = some outcome.recorded := by
  simp [latestStatus, ran]

theorem latestStatus_append_passed (steps : List Step) {passed : List Step}
    (idle : ∀ step ∈ passed, step.outcome = none) :
    latestStatus (steps ++ passed) = latestStatus steps := by
  have nothing : passed.filterMap Step.outcome = [] := List.filterMap_eq_nil_iff.mpr idle
  rw [latestStatus, List.filterMap_append, nothing, List.append_nil, latestStatus]

theorem latestStatus_cons (step : Step) (rest : List Step) :
    latestStatus (step :: rest) =
      (latestStatus rest).or (step.outcome.map Outcome.recorded) := by
  cases outcome : step.outcome with
  | none => simp [latestStatus, outcome]
  | some outcome =>
    simp only [latestStatus, List.filterMap_cons, outcome, List.getLast?_cons]
    cases (rest.filterMap Step.outcome).getLast? <;> rfl

theorem mayRun_iff {earlier : List Step} {segment : Segment} {operator : Operator} {status : Int}
    (joined : segment.operator = some operator) (latest : latestStatus earlier = some status) :
    MayRun earlier segment ↔
      (∀ step ∈ earlier, step.request? = none) ∧ operator.permits status = true := by
  unfold MayRun
  rw [joined, latest]
  cases operator <;> simp [Operator.permits]

end Step

/-! ## The course of a chain -/

namespace Shell

def passOver (shell : Shell) (segment : Segment) : Shell :=
  shell.log (.skipped segment.text shell.session.status)

/-- Segments that come too late to be considered. -/
def unreached (segments : Chain) (shell : Shell) : List Step :=
  segments.map fun segment => ⟨segment, shell, none, shell⟩

/-- The steps of a chain. After a segment that asked for the end of the session, the
shell stays as it is. -/
def course : Chain → Shell → List Step
  | [], _ => []
  | segment :: rest, shell =>
    if segment.runsAfter shell.session.status then
      let (outcome, after) := shell.segment segment
      let after := after.conclude outcome
      ⟨segment, shell, some outcome, after⟩ ::
        match outcome with
        | .status _ => course rest after
        | .exit _ => unreached rest after
    else
      ⟨segment, shell, none, shell.passOver segment⟩ :: course rest (shell.passOver segment)

theorem chain_of_status {segment : Segment} {shell after : Shell} {status : Int} (rest : Chain)
    (runs : segment.runsAfter shell.session.status = true)
    (run : shell.segment segment = (.status status, after)) :
    chain (segment :: rest) shell = chain rest (after.noteStatus status) ∧
      course (segment :: rest) shell =
        ⟨segment, shell, some (.status status), after.noteStatus status⟩ ::
          course rest (after.noteStatus status) := by
  constructor
  · simp only [chain, runs, run, if_true]
  · simp only [course, runs, run, if_true, conclude]

theorem chain_of_exit {segment : Segment} {shell after : Shell} {code : Int} (rest : Chain)
    (runs : segment.runsAfter shell.session.status = true)
    (run : shell.segment segment = (.exit code, after)) :
    chain (segment :: rest) shell = (some (Session.exitStatus code), after.requestExit code) ∧
      course (segment :: rest) shell =
        ⟨segment, shell, some (.exit code), after.requestExit code⟩ ::
          unreached rest (after.requestExit code) := by
  constructor
  · simp only [chain, runs, run, if_true]
    rfl
  · simp only [course, runs, run, if_true, conclude]

theorem chain_of_idle {segment : Segment} {shell : Shell} (rest : Chain)
    (idle : segment.runsAfter shell.session.status = false) :
    chain (segment :: rest) shell = chain rest (shell.passOver segment) ∧
      course (segment :: rest) shell =
        ⟨segment, shell, none, shell.passOver segment⟩ :: course rest (shell.passOver segment) := by
  constructor
  · simp [chain, idle, passOver]
  · simp [course, idle]

/-- A chain of one segment more, of which the three cases are one induction step of
everything below. -/
theorem chain_and_course_cons (segment : Segment) (rest : Chain) (shell : Shell) :
    (∃ status after, segment.runsAfter shell.session.status = true ∧
        shell.segment segment = (.status status, after) ∧
        chain (segment :: rest) shell = chain rest (after.noteStatus status) ∧
        course (segment :: rest) shell =
          ⟨segment, shell, some (.status status), after.noteStatus status⟩ ::
            course rest (after.noteStatus status)) ∨
      (∃ code after, segment.runsAfter shell.session.status = true ∧
        shell.segment segment = (.exit code, after) ∧
        chain (segment :: rest) shell =
          (some (Session.exitStatus code), after.requestExit code) ∧
        course (segment :: rest) shell =
          ⟨segment, shell, some (.exit code), after.requestExit code⟩ ::
            unreached rest (after.requestExit code)) ∨
      (segment.runsAfter shell.session.status = false ∧
        chain (segment :: rest) shell = chain rest (shell.passOver segment) ∧
        course (segment :: rest) shell =
          ⟨segment, shell, none, shell.passOver segment⟩ ::
            course rest (shell.passOver segment)) := by
  cases runs : segment.runsAfter shell.session.status with
  | false => exact .inr (.inr ⟨rfl, chain_of_idle rest runs⟩)
  | true =>
    rcases run : shell.segment segment with ⟨status | code, after⟩
    · exact .inl ⟨status, after, rfl, rfl, chain_of_status rest runs run⟩
    · exact .inr (.inl ⟨code, after, rfl, rfl, chain_of_exit rest runs run⟩)

theorem map_segment_course (segments : Chain) (shell : Shell) :
    (course segments shell).map Step.segment = segments := by
  induction segments generalizing shell with
  | nil => rfl
  | cons segment rest induction =>
    rcases chain_and_course_cons segment rest shell with
      ⟨_, _, _, _, _, course⟩ | ⟨_, _, _, _, _, course⟩ | ⟨_, _, course⟩
    · rw [course, List.map_cons, induction]
    · rw [course, List.map_cons, unreached, List.map_map]
      simp [Function.comp_def]
    · rw [course, List.map_cons, induction]

theorem linked_unreached (segments : Chain) (shell : Shell) :
    Step.Linked shell (unreached segments shell) shell := by
  induction segments with
  | nil => rfl
  | cons segment rest induction => exact ⟨rfl, induction⟩

theorem linked_course (segments : Chain) (shell : Shell) :
    Step.Linked shell (course segments shell) (chain segments shell).2 := by
  induction segments generalizing shell with
  | nil => rfl
  | cons segment rest induction =>
    rcases chain_and_course_cons segment rest shell with
      ⟨_, _, _, _, chain, course⟩ | ⟨_, _, _, _, chain, course⟩ | ⟨_, chain, course⟩
    · rw [chain, course]
      exact ⟨rfl, induction _⟩
    · rw [chain, course]
      exact ⟨rfl, linked_unreached rest _⟩
    · rw [chain, course]
      exact ⟨rfl, induction _⟩

theorem isLawful_of_mem_course (segments : Chain) (shell : Shell) :
    ∀ step ∈ course segments shell, step.IsLawful := by
  induction segments generalizing shell with
  | nil => simp [course]
  | cons segment rest induction =>
    intro step member
    rcases chain_and_course_cons segment rest shell with
      ⟨_, _, _, run, _, course⟩ | ⟨_, _, _, run, _, course⟩ | ⟨_, _, course⟩ <;>
      rw [course] at member <;>
      rcases List.mem_cons.mp member with rfl | member
    · simp [Step.IsLawful, run, conclude]
    · exact induction _ step member
    · simp [Step.IsLawful, run, conclude]
    · rcases List.mem_map.mp member with ⟨segment, _, rfl⟩
      rfl
    · rfl
    · exact induction _ step member

theorem chain_answer (segments : Chain) (shell : Shell) :
    (chain segments shell).1 = (course segments shell).findSome? Step.request? := by
  induction segments generalizing shell with
  | nil => rfl
  | cons segment rest induction =>
    rcases chain_and_course_cons segment rest shell with
      ⟨_, _, _, _, chain, course⟩ | ⟨_, _, _, _, chain, course⟩ | ⟨_, chain, course⟩
    · rw [chain, course, induction]
      rfl
    · rw [chain, course]
      rfl
    · rw [chain, course, induction]
      rfl

/-! ## Which segments run -/

theorem runsAfter_iff_mayRun {earlier : List Step} {segment : Segment} {status : Int}
    (alive : ∀ step ∈ earlier, step.request? = none)
    (latest : Step.latestStatus earlier = some status)
    (joined : ∃ operator, segment.operator = some operator) :
    segment.runsAfter status = true ↔ Step.MayRun earlier segment := by
  rcases joined with ⟨operator, joined⟩
  rw [Step.mayRun_iff joined latest, Segment.runsAfter, joined]
  exact ⟨fun permits => ⟨alive, permits⟩, fun may => may.2⟩

theorem unreached_ran_iff_mayRun {segments : Chain} {shell : Shell} (earlier : List Step)
    {last step : Step} {between later : List Step} {code : Int}
    (exited : last.outcome = some (.exit code))
    (place : unreached segments shell = between ++ step :: later) :
    step.Ran ↔ Step.MayRun (earlier ++ last :: between) step.segment := by
  have unreached := List.mem_append_right between (List.mem_cons_self (a := step) (l := later))
  rw [← place] at unreached
  rcases List.mem_map.mp unreached with ⟨segment, _, rfl⟩
  constructor
  · intro ran
    cases ran
  · intro may
    have request := may.1 last (List.mem_append_right earlier List.mem_cons_self)
    simp [Step.request?, exited] at request

/-- Where the status of the shell is that of the last segment to run, each further
segment runs exactly if it may. The steps taken so far stand in `earlier`, which the
induction extends by one step at a time. -/
theorem ran_iff_mayRun (segments : Chain) (shell : Shell) (earlier : List Step)
    (alive : ∀ step ∈ earlier, step.request? = none)
    (latest : Step.latestStatus earlier = some shell.session.status)
    (joined : ∀ segment ∈ segments, ∃ operator, segment.operator = some operator)
    {between later : List Step} {step : Step}
    (place : course segments shell = between ++ step :: later) :
    step.Ran ↔ Step.MayRun (earlier ++ between) step.segment := by
  induction segments generalizing shell earlier between with
  | nil => simp [course] at place
  | cons segment rest induction =>
    have may := runsAfter_iff_mayRun alive latest (joined segment List.mem_cons_self)
    have joinedRest := fun segment member => joined segment (List.mem_cons_of_mem _ member)
    -- What one more step that asks for nothing leaves to be shown of the rest.
    have onward : ∀ (taken : Step) (after : Shell) (between : List Step),
        taken.request? = none →
        Step.latestStatus (earlier ++ [taken]) = some after.session.status →
        course rest after = between ++ step :: later →
        (step.Ran ↔ Step.MayRun (earlier ++ taken :: between) step.segment) := by
      intro taken after between quiet latest place
      have stillAlive : ∀ step ∈ earlier ++ [taken], step.request? = none := by
        simpa [or_imp, forall_and] using ⟨alive, quiet⟩
      simpa using induction after (earlier ++ [taken]) stillAlive latest joinedRest place
    rcases chain_and_course_cons segment rest shell with
      ⟨status, after, runs, _, _, course⟩ | ⟨code, after, runs, _, _, course⟩ | ⟨idle, _, course⟩
    · rw [course] at place
      rcases List.cons_eq_append_iff.mp place with ⟨rfl, here⟩ | ⟨between, rfl, there⟩
      · cases here
        rw [List.append_nil, ← may, runs]
        simp [Step.Ran]
      · refine onward _ (after.noteStatus status) between rfl ?_ there
        rw [Step.latestStatus_append_ran earlier rfl]
        rfl
    · rw [course] at place
      rcases List.cons_eq_append_iff.mp place with ⟨rfl, here⟩ | ⟨between, rfl, there⟩
      · cases here
        rw [List.append_nil, ← may, runs]
        simp [Step.Ran]
      · exact unreached_ran_iff_mayRun earlier rfl there
    · rw [course] at place
      rcases List.cons_eq_append_iff.mp place with ⟨rfl, here⟩ | ⟨between, rfl, there⟩
      · cases here
        rw [List.append_nil, ← may, idle]
        simp [Step.Ran]
      · refine onward _ (shell.passOver segment) between rfl ?_ there
        rw [Step.latestStatus_append_passed earlier (by simp), latest]
        rfl

theorem byRule_course {first : Segment} {rest : Chain} (shell : Shell)
    (opening : first.operator = none)
    (joined : ∀ segment ∈ rest, ∃ operator, segment.operator = some operator) :
    Step.ByRule (course (first :: rest) shell) := by
  have runs : first.runsAfter shell.session.status = true := by
    rw [Segment.runsAfter, opening]
  rcases chain_and_course_cons first rest shell with
    ⟨status, after, _, _, _, course⟩ | ⟨code, after, _, _, _, course⟩ | ⟨idle, _, _⟩
  · rw [course]
    constructor
    · intro step later here
      cases here
      simp [Step.Ran]
    · intro earlier step later place notFirst
      rcases List.cons_eq_append_iff.mp place with ⟨rfl, _⟩ | ⟨between, rfl, there⟩
      · exact absurd rfl notFirst
      · exact ran_iff_mayRun rest (after.noteStatus status) [_] (by simp [Step.request?])
          (by simp [Step.latestStatus, Outcome.recorded, noteStatus, Session.noteStatus])
          joined there
  · rw [course]
    constructor
    · intro step later here
      cases here
      simp [Step.Ran]
    · intro earlier step later place notFirst
      rcases List.cons_eq_append_iff.mp place with ⟨rfl, _⟩ | ⟨between, rfl, there⟩
      · exact absurd rfl notFirst
      · exact unreached_ran_iff_mayRun [] rfl there
  · rw [runs] at idle
    exact absurd idle Bool.true_eq_false.mp

/-! ## The status at the end -/

theorem latestStatus_unreached (segments : Chain) (shell : Shell) :
    Step.latestStatus (unreached segments shell) = none := by
  have idle : ∀ step ∈ unreached segments shell, step.outcome = none := by
    intro step member
    rcases List.mem_map.mp member with ⟨segment, _, rfl⟩
    rfl
  exact Step.latestStatus_append_passed [] idle

theorem latestStatus_course (segments : Chain) (shell : Shell) :
    (Step.latestStatus (course segments shell)).or (some shell.session.status) =
      some (chain segments shell).2.session.status := by
  induction segments generalizing shell with
  | nil => rfl
  | cons segment rest induction =>
    rcases chain_and_course_cons segment rest shell with
      ⟨status, after, _, _, chain, course⟩ | ⟨code, after, _, _, chain, course⟩ | ⟨_, chain, course⟩
    · rw [chain, course, ← induction, Step.latestStatus_cons, Option.or_assoc]
      rfl
    · rw [chain, course, Step.latestStatus_cons, latestStatus_unreached]
      rfl
    · rw [chain, course, ← induction, Step.latestStatus_cons]
      simp [passOver, log, record]

theorem latestStatus_course_of_byRule {segment : Segment} (rest : Chain) (shell : Shell)
    (byRule : Step.ByRule (course (segment :: rest) shell)) :
    Step.latestStatus (course (segment :: rest) shell) =
      some (chain (segment :: rest) shell).2.session.status := by
  have status := latestStatus_course (segment :: rest) shell
  cases steps : course (segment :: rest) shell with
  | nil =>
    have segments := map_segment_course (segment :: rest) shell
    rw [steps] at segments
    cases segments
  | cons step later =>
    rcases Option.isSome_iff_exists.mp (byRule.first step later steps) with ⟨outcome, ran⟩
    rw [steps, Step.latestStatus_cons, ran, Option.or_assoc] at status
    rw [Step.latestStatus_cons, ran]
    exact status

end Shell

/-! ## Segments that are passed over -/

namespace Step

/-- Segments that follow one another behind a segment that ran are all passed over if
they are joined by `&&` and it has failed, and if they are joined by `||` and it has
succeeded. -/
def ShortCircuits (steps : List Step) : Prop :=
  ∀ earlier step passed later, steps = earlier ++ step :: (passed ++ later) →
    ∀ outcome, step.outcome = some outcome →
      (outcome.recorded ≠ 0 → (∀ other ∈ passed, other.segment.operator = some .and) →
        ∀ other ∈ passed, ¬other.Ran) ∧
      (outcome.recorded = 0 → (∀ other ∈ passed, other.segment.operator = some .or) →
        ∀ other ∈ passed, ¬other.Ran)

theorem not_ran_iff (step : Step) : ¬step.Ran ↔ step.outcome = none := by
  simp [Ran]

/-- The status of a segment that ran holds for all that follow and do not run. -/
theorem ByRule.passed_over {steps : List Step} (byRule : ByRule steps) {operator : Operator}
    {earlier passed : List Step} {step : Step} {outcome : Outcome}
    (ran : step.outcome = some outcome) (forbids : operator.permits outcome.recorded = false)
    (joined : ∀ other ∈ passed, other.segment.operator = some operator) :
    ∀ later, steps = earlier ++ step :: (passed ++ later) → ∀ other ∈ passed, ¬other.Ran := by
  induction passed using List.reverseRecOn with
  | nil => simp
  | append_singleton passed last induction =>
    intro later place
    have idle := induction (fun other member => joined other (List.mem_append_left _ member))
      (last :: later) (by simpa using place)
    have latest : latestStatus ((earlier ++ [step]) ++ passed) = some outcome.recorded := by
      have none := fun other member => (not_ran_iff other).mp (idle other member)
      rw [latestStatus_append_passed _ none, latestStatus_append_ran earlier ran]
    have may := mayRun_iff (joined last (by simp)) latest
    have rule := byRule.later ((earlier ++ [step]) ++ passed) last later (by simpa using place)
      (by simp)
    intro other member
    rcases List.mem_append.mp member with member | member
    · exact idle other member
    · rw [List.mem_singleton.mp member, rule, may, forbids]
      simp

theorem ByRule.shortCircuits {steps : List Step} (byRule : ByRule steps) :
    ShortCircuits steps := by
  intro earlier step passed later place outcome ran
  constructor
  · intro failed joined
    exact byRule.passed_over ran (by simp [Operator.permits, failed]) joined later place
  · intro succeeded joined
    exact byRule.passed_over ran (by simp [Operator.permits, succeeded]) joined later place

/-! ## Segments beside one that ran -/

theorem ByRule.no_request_before {steps earlier later : List Step} {step : Step}
    (byRule : ByRule steps) (place : steps = earlier ++ step :: later) (ran : step.Ran) :
    ∀ other ∈ earlier, other.request? = none := by
  by_cases first : earlier = []
  · simp [first]
  · exact ((byRule.later earlier step later place first).mp ran).1

theorem ByRule.not_ran_after_request {steps earlier later : List Step} {step : Step}
    (byRule : ByRule steps) (place : steps = earlier ++ step :: later) {code : Int}
    (request : step.request? = some code) : ∀ other ∈ later, ¬other.Ran := by
  intro other member ran
  rcases List.append_of_mem member with ⟨between, rest, rfl⟩
  have whole : steps = (earlier ++ step :: between) ++ other :: rest := by
    rw [place, List.append_assoc, List.cons_append]
  have silent := byRule.no_request_before whole ran step (by simp)
  cases silent.symm.trans request

/-- Behind a step with a status of its own, the next one runs as its operator says. -/
theorem ByRule.next_ran_iff {steps earlier rest : List Step} {step next : Step}
    (byRule : ByRule steps) (place : steps = earlier ++ step :: next :: rest) {status : Int}
    (ended : step.outcome = some (.status status)) :
    next.Ran ↔
      next.segment.operator = some .sequence ∨
        next.segment.operator = some .and ∧ Session.exitStatus status = 0 ∨
          next.segment.operator = some .or ∧ Session.exitStatus status ≠ 0 := by
  have whole : steps = (earlier ++ [step]) ++ next :: rest := by simp [place]
  have ran : step.Ran := by simp [Ran, ended]
  have silent : ∀ other ∈ earlier ++ [step], other.request? = none := by
    rw [List.forall_mem_append]
    refine ⟨byRule.no_request_before place ran, ?_⟩
    simp [request?, ended]
  rw [byRule.later (earlier ++ [step]) next rest whole (by simp), MayRun, and_iff_right silent,
    latestStatus_append_ran earlier ended]
  simp [Outcome.recorded]

end Step

/-! ## Lines -/

namespace Shell

/-- The shell after a line that was rejected because it ends in an operator. -/
def afterRejection (shell : Shell) (operator : Operator) : Shell :=
  { shell with
    session := { shell.session with complaints := shell.session.complaints + 1, status := 2 }
    console :=
      shell.console.diagnosed
        (diagnostic shell.session none (Failure.unexpected operator.symbol).message) }

theorem submit_rejected {shell : Shell} {line : Text} {operator : Operator}
    (split : Chain.ofLine line = .error operator) :
    (shell.submit line).1 = none ∧
      (shell.submit line).2.withoutDetails = (shell.afterRejection operator).withoutDetails := by
  have reported : shell.submit line =
      (none, ((shell.log (.trailingOperator operator.symbol)).reportOrWarn none
        (Failure.unexpected operator.symbol).message).noteStatus 2) := by
    simp only [submit, split]
    rfl
  have withoutDetail : ∀ (shell : Shell) (detail : Detail) (text : Text),
      Shell.withoutDetails { shell with console := (shell.log detail).console.diagnosed text } =
        Shell.withoutDetails { shell with console := shell.console.diagnosed text } := by
    intro shell detail text
    rw [Console.diagnosed_eq, shell.console.diagnosed_eq]
    simp [withoutDetails, Console.behind, log, record, Console.record, Event.isDetail]
  rw [reported, reportOrWarn_eq]
  refine ⟨rfl, ?_⟩
  exact withoutDetail (shell.countComplaint.noteStatus 2) _ _

theorem submit_empty {shell : Shell} {line : Text} (split : Chain.ofLine line = .ok []) :
    (shell.submit line).1 = none ∧
      (shell.submit line).2.withoutDetails = shell.withoutDetails := by
  have logged : shell.submit line = (none, shell.log (.split line 0)) := by
    simp [submit, split]
  rw [logged]
  exact ⟨rfl, rfl⟩

def begin (shell : Shell) (line : Text) (segments : Chain) : Shell :=
  (shell.log (.split line segments.length)).remember line

theorem submit_chain {shell : Shell} {line : Text} {segments : Chain}
    (split : Chain.ofLine line = .ok segments) (inhabited : segments ≠ []) :
    shell.submit line = chain segments (shell.begin line segments) := by
  simp [submit, split, inhabited, begin]

/-- A line that ends in an operator is rejected as a whole: nothing runs and nothing
is remembered, and the one diagnostic leaves the status 2. A line without commands
does nothing. Of any other line the first segment runs, and each further one exactly
if no earlier one has ended the session and its operator permits it after the status
of the nearest earlier one that ran, whose status is also that of the line. -/
theorem submit_runs_by_rule (shell : Shell) (line : Text) :
    match Chain.ofLine line with
    | .error operator =>
      (shell.submit line).1 = none ∧
        (shell.submit line).2.withoutDetails = (shell.afterRejection operator).withoutDetails
    | .ok [] =>
      (shell.submit line).1 = none ∧
        (shell.submit line).2.withoutDetails = shell.withoutDetails
    | .ok segments =>
      let steps := course segments (shell.begin line segments)
      steps.map Step.segment = segments ∧
        Step.Linked (shell.begin line segments) steps (shell.submit line).2 ∧
        (∀ step ∈ steps, step.IsLawful) ∧
        Step.ByRule steps ∧
        Step.ShortCircuits steps ∧
        (shell.submit line).1 = steps.findSome? Step.request? ∧
        Step.latestStatus steps = some (shell.submit line).2.session.status := by
  cases split : Chain.ofLine line with
  | error operator => exact submit_rejected split
  | ok segments =>
    cases segments with
    | nil => exact submit_empty split
    | cons first rest =>
      have operators := Chain.operators_of_ofLine split
      have byRule := byRule_course (shell.begin line (first :: rest)) operators.1 operators.2
      rw [submit_chain split (List.cons_ne_nil first rest)]
      refine ⟨map_segment_course _ _, linked_course _ _, isLawful_of_mem_course _ _, byRule,
        byRule.shortCircuits, chain_answer _ _, latestStatus_course_of_byRule _ _ byRule⟩

end Shell

end CommandShell
