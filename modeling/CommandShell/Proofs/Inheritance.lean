import CommandShell.Proofs.Soundness
import CommandShell.Proofs.Substitution

namespace CommandShell

/-! A program finds the variables that the session has at the moment at which it is
started. They travel as strings and are cut apart again, which gives them back as they
were because no name in a session holds the sign that a string is cut at. -/

/-! ## Strings and pairs -/

namespace Environment

theorem nameOrder_cons (left right : Char) (lefts rights : Text) :
    nameOrder (left :: lefts) (right :: rights) = true ↔
      left.toNat < right.toNat ∨ left = right ∧ nameOrder lefts rights = true := by
  by_cases same : left = right
  · simp [nameOrder, same]
  · simp [nameOrder, same]

theorem nameOrder_total (one two : Text) : nameOrder one two = true ∨ nameOrder two one = true := by
  induction one generalizing two with
  | nil => exact .inl rfl
  | cons left lefts induction =>
    cases two with
    | nil => exact .inr rfl
    | cons right rights =>
      simp only [nameOrder_cons]
      rcases Nat.lt_trichotomy left.toNat right.toNat with below | equal | above
      · exact .inl (.inl below)
      · have same : left = right := Char.toNat_inj.mp equal
        rcases induction rights with forwards | backwards
        · exact .inl (.inr ⟨same, forwards⟩)
        · exact .inr (.inr ⟨same.symm, backwards⟩)
      · exact .inr (.inl above)

theorem nameOrder_trans {one two three : Text} (first : nameOrder one two = true)
    (second : nameOrder two three = true) : nameOrder one three = true := by
  induction one generalizing two three with
  | nil => rfl
  | cons left lefts induction =>
    cases two with
    | nil => cases first
    | cons middle middles =>
      cases three with
      | nil => cases second
      | cons right rights =>
        rw [nameOrder_cons] at first second ⊢
        rcases first with below | ⟨rfl, first⟩ <;> rcases second with above | ⟨rfl, second⟩
        · exact .inl (Nat.lt_trans below above)
        · exact .inl below
        · exact .inl above
        · exact .inr ⟨rfl, induction first second⟩

/-- The order of names is that of their code points. -/
theorem lex_of_nameOrder {one two : Text} (ordered : nameOrder one two = true)
    (different : one ≠ two) : one.Lex (fun left right => left.toNat < right.toNat) two := by
  induction one generalizing two with
  | nil =>
    cases two with
    | nil => exact absurd rfl different
    | cons => exact .nil
  | cons left lefts induction =>
    cases two with
    | nil => cases ordered
    | cons right rights =>
      rcases (nameOrder_cons left right lefts rights).mp ordered with below | ⟨rfl, onward⟩
      · exact .rel below
      · exact .cons (induction onward fun equal => different (congrArg (left :: ·) equal))

theorem firstOfEach_of_distinct (pairs : List (Text × Text))
    (distinct : (pairs.map Prod.fst).Nodup) : firstOfEach pairs = pairs := by
  induction pairs with
  | nil => rw [firstOfEach]; simp
  | cons one rest induction =>
    cases rest with
    | nil => rw [firstOfEach]; simp
    | cons two rest =>
      rcases List.nodup_cons.mp distinct with ⟨fresh, distinctRest⟩
      have different : one.1 ≠ two.1 := fun same => fresh (same ▸ List.mem_cons_self)
      rw [firstOfEach, if_neg different, induction distinctRest]

theorem filterMap_once_strings {environment : Environment}
    (unsigned : ∀ name ∈ environment.keys, '=' ∉ name) :
    environment.strings.filterMap (Cut.once '=') = environment.entries := by
  rw [strings, List.filterMap_map]
  refine (List.filterMap_congr ?_).trans List.filterMap_some
  intro entry member
  have free := unsigned entry.1 (List.mem_map_of_mem member)
  exact (Cut.once_eq_some_iff '=' _ entry.1 entry.2).mpr ⟨rfl, free⟩

variable {environment : Environment}

theorem mergeSort_perm_entries (environment : Environment) :
    (environment.entries.reverse.mergeSort fun one two => nameOrder one.1 two.1).Perm
      environment.entries :=
  (List.mergeSort_perm _ _).trans environment.entries.reverse_perm

theorem received_strings (unsigned : ∀ name ∈ environment.keys, '=' ∉ name) :
    received environment.strings =
      environment.entries.reverse.mergeSort fun one two => nameOrder one.1 two.1 := by
  rw [received, filterMap_once_strings unsigned]
  apply firstOfEach_of_distinct
  exact ((mergeSort_perm_entries environment).map Prod.fst).nodup_iff.mpr environment.distinct

theorem mem_received_strings (unsigned : ∀ name ∈ environment.keys, '=' ∉ name)
    (name value : Text) :
    (name, value) ∈ received environment.strings ↔ environment.get? name = some value := by
  rw [received_strings unsigned, (mergeSort_perm_entries environment).mem_iff,
    Store.get?_eq_some_iff]

theorem received_strings_increases (unsigned : ∀ name ∈ environment.keys, '=' ∉ name) :
    ((received environment.strings).map Prod.fst).Pairwise
      (List.Lex fun left right => left.toNat < right.toNat) := by
  have total : ∀ one two : Text × Text,
      (nameOrder one.1 two.1 || nameOrder two.1 one.1) = true := by
    intro one two
    rw [Bool.or_eq_true]
    exact nameOrder_total one.1 two.1
  have transitive : ∀ one two three : Text × Text, nameOrder one.1 two.1 = true →
      nameOrder two.1 three.1 = true → nameOrder one.1 three.1 = true :=
    fun _ _ _ => nameOrder_trans
  have ordered := List.pairwise_mergeSort transitive total environment.entries.reverse
  have distinct :=
    ((mergeSort_perm_entries environment).map Prod.fst).nodup_iff.mpr environment.distinct
  rw [received_strings unsigned, List.pairwise_map]
  exact ordered.imp₂ (fun _ _ => lex_of_nameOrder) (List.pairwise_map.mp distinct)

end Environment

/-- A program finds all variables of the session and no others, in the order of their
names, and their values are those that references to them take. -/
structure Session.Inherited (session : Session) (received : List (Text × Text)) : Prop where
  pairs : ∀ name value,
    (name, value) ∈ received ↔ session.environment.get? name = some value
  order : (received.map Prod.fst).Pairwise
    (List.Lex fun left right => left.toNat < right.toNat)
  references : ∀ name value, (name, value) ∈ received →
    (∀ character ∈ name, Piece.isNameCharacter character = true) →
    session.substitute ('$' :: name) = value

namespace Session

theorem substitute_dollar (session : Session) {name : Text} (inhabited : name ≠ [])
    (named : ∀ character ∈ name, Piece.isNameCharacter character = true) :
    session.substitute ('$' :: name) = (session.environment.get? name).getD [] := by
  have longest : Piece.IsLongestName name [] := ⟨inhabited, named, rfl⟩
  simpa using session.substitute_variable longest

theorem inherited_received {session : Session}
    (names : ∀ name ∈ session.environment.keys, name ≠ [] ∧ '=' ∉ name) :
    session.Inherited (Environment.received session.environment.strings) := by
  have unsigned := fun name member => (names name member).2
  have pairs := Environment.mem_received_strings unsigned
  refine ⟨pairs, Environment.received_strings_increases unsigned, ?_⟩
  intro name value member named
  have found := (pairs name value).mp member
  have known := (Store.get?_eq_some_iff _ _ _).mp found
  have inhabited := (names name (List.mem_map_of_mem (f := Prod.fst) known)).1
  rw [session.substitute_dollar inhabited named, found, Option.getD_some]

end Session

/-! ## Launches -/

namespace Shell

/-- The launches so far, in their order. -/
def launches (shell : Shell) : List Launch :=
  shell.console.transcript.filterMap Event.launch?

theorem launches_record (shell : Shell) (event : Event) :
    (shell.record event).launches = shell.launches ++ event.launch?.toList := by
  unfold launches
  rw [record, Console.transcript_record, List.filterMap_append]
  cases event <;> rfl

theorem launches_record_ordinary (shell : Shell) {event : Event}
    (ordinary : event.launch? = none) : (shell.record event).launches = shell.launches := by
  rw [launches_record, ordinary, Option.toList_none, List.append_nil]

theorem launches_withoutDetails (shell : Shell) :
    shell.withoutDetails.launches = shell.launches := by
  have ordinary : ∀ event : Event,
      (if (!event.isDetail) = true then event.launch? else none) = event.launch? := by
    intro event
    unfold Event.isDetail
    split <;> rfl
  simp only [launches, withoutDetails, Console.transcript, ← List.filter_reverse,
    List.filterMap_filter, ordinary]

theorem launches_conclude (shell : Shell) (outcome : Outcome) :
    (shell.conclude outcome).launches = shell.launches := by
  cases outcome <;> rfl

theorem launches_recordRun (shell : Shell) (launch : Launch) (run : Run) :
    (shell.recordRun launch run).launches = shell.launches ++ [launch] := by
  have produced : run.events.filterMap Event.launch? = [] := by
    simp [Run.events, Event.launch?]
  rw [recordRun_eq]
  simp only [launches, Console.transcript, List.reverse_append, List.reverse_reverse,
    List.filterMap_append, produced, List.append_nil, List.reverse_cons]
  rfl

theorem launches_write (shell : Shell) (stream : Stream) (text : Text) :
    (shell.write stream text).2.launches = shell.launches := by
  rcases shell.console.transcript_write stream text with ⟨events, transcript, written⟩
  have ordinary : events.filterMap Event.launch? = [] := by
    rw [List.filterMap_eq_nil_iff]
    intro event member
    rcases written event member with ⟨taken, rfl⟩
    rfl
  have console : (shell.write stream text).2.launches =
      (shell.console.write stream text).2.transcript.filterMap Event.launch? := rfl
  rw [console, transcript, List.filterMap_append, ordinary, List.append_nil, launches]

theorem launches_reportOrWarn (shell : Shell) (command : Option Text) (message : Text) :
    (shell.reportOrWarn command message).launches = shell.launches := by
  have keeps := @reportOrWarn_keeps (fun other => other.launches = shell.launches) shell rfl
  refine keeps ?_ ?_ command message
  · exact fun same text => (launches_write _ .error text).trans same
  · exact fun same message => (launches_record_ordinary _ rfl).trans same

/-- What a builtin is asked for starts no program. -/
theorem launches_of_called {words : List Text} {call : Call} {left right : Shell}
    (acts : Acts words (some call) left right) : right.launches = left.launches := by
  induction acts with
  | refl => rfl
  | tail _ act induction =>
    rw [← induction]
    cases act with
    | record event ordinary => exact launches_record_ordinary _ ordinary
    | write stream text => exact launches_write _ stream text
    | start asked => cases asked
    | _ => rfl

/-- A segment with these words, from the one shell to the other, starts this program with
the variables of the session. The program runs in the world as it is then, and the
transcript shows its run. -/
structure Launches (left : Shell) (words : List Text) (launch : Launch) (right : Shell) :
    Prop where
  arguments : launch.arguments = words
  environment : launch.environment = left.session.environment.strings
  ran : ∃ run, left.world.start launch = .ok (run, right.world) ∧
    ∃ earlier later,
      right.console.transcript = earlier ++ .started launch :: (run.events ++ later)

variable {left right : Shell} {words : List Text} {launch : Launch}

theorem Launches.then_record (launches : left.Launches words launch right) (event : Event) :
    left.Launches words launch (right.record event) := by
  rcases launches with ⟨arguments, environment, run, started, earlier, later, shown⟩
  refine ⟨arguments, environment, run, started, earlier, later ++ [event], ?_⟩
  rw [record, Console.transcript_record, shown]
  simp

theorem Launches.then_write (launches : left.Launches words launch right) (stream : Stream)
    (text : Text) : left.Launches words launch (right.write stream text).2 := by
  rcases launches with ⟨arguments, environment, run, started, earlier, later, shown⟩
  rcases right.console.transcript_write stream text with ⟨events, transcript, _⟩
  have console : (right.write stream text).2.console = (right.console.write stream text).2 := rfl
  refine ⟨arguments, environment, run, started, earlier, later ++ events, ?_⟩
  rw [console, transcript, shown]
  simp

theorem Launches.then_reportOrWarn (launches : left.Launches words launch right)
    (command : Option Text) (message : Text) :
    left.Launches words launch (right.reportOrWarn command message) := by
  have counted : left.Launches words launch right.countComplaint :=
    ⟨launches.arguments, launches.environment, launches.ran⟩
  exact reportOrWarn_keeps counted (fun launches => launches.then_write .error)
    (fun launches _ => launches.then_record _) command message

theorem Launches.then_conclude (launches : left.Launches words launch right)
    (outcome : Outcome) : left.Launches words launch (right.conclude outcome) := by
  cases outcome <;> exact ⟨launches.arguments, launches.environment, launches.ran⟩

theorem launches_behindRun {run : Run} {world : World} (arguments : launch.arguments = words)
    (environment : launch.environment = left.session.environment.strings)
    (started : left.world.start launch = .ok (run, world)) :
    (left.behindRun launch run world).launches = left.launches ++ [launch] ∧
      left.Launches words launch (left.behindRun launch run world) := by
  have logged : (left.log (.starting launch.path launch.arguments)).launches = left.launches :=
    launches_record_ordinary left rfl
  refine ⟨?_, arguments, environment, run, ?_, ?_⟩
  · rw [behindRun, launches_recordRun, ← logged]
    rfl
  · rw [behindRun, recordRun_eq]
    exact started
  · refine ⟨(left.log (.starting launch.path launch.arguments)).console.transcript, [], ?_⟩
    rw [behindRun, recordRun_eq]
    simp [Console.transcript]

/-- A launch starts its program or comes to nothing. -/
theorem launches_launch (arguments : launch.arguments = words)
    (environment : launch.environment = left.session.environment.strings) (name : Text) :
    let right := (settle name (left.launch launch)).2
    right.launches = left.launches ∨
      right.launches = left.launches ++ [launch] ∧ left.Launches words launch right := by
  intro right
  have launching := left.launching launch
  generalize attempted : left.launch launch = attempt at launching
  have settled : right = (settle name attempt).2 := by rw [← attempted]
  rw [settled]
  cases launching with
  | unflushed => exact .inl (launches_reportOrWarn _ _ _)
  | refused =>
    exact .inl ((launches_reportOrWarn _ _ _).trans (launches_record_ordinary left rfl))
  | lost _ started _ =>
    rcases launches_behindRun arguments environment started with ⟨added, launches⟩
    exact .inr ⟨(launches_reportOrWarn _ _ _).trans added, launches.then_reportOrWarn _ _⟩
  | ended _ started _ =>
    rcases launches_behindRun arguments environment started with ⟨added, launches⟩
    exact .inr ⟨(launches_record_ordinary _ rfl).trans added, launches.then_record _⟩

theorem launches_of_dispatched {shell : Shell} {segment : Segment} {order : Builtin × List Text}
    (calls : shell.dispatched segment = some order) :
    (shell.segment segment).2.launches = shell.launches := by
  have acts := acts_segment shell segment
  rw [called, calls] at acts
  exact launches_of_called acts

theorem launches_segment (shell : Shell) (segment : Segment) :
    let after := (shell.segment segment).2
    after.launches = shell.launches ∨
      ∃ launch, after.launches = shell.launches ++ [launch] ∧
        shell.Launches (shell.wordsOf segment) launch after := by
  intro after
  cases calls : shell.dispatched segment with
  | some order => exact .inl (launches_of_dispatched calls)
  | none =>
    let logged := shell.log (.expanded segment.text (shell.session.expand segment.text))
    have same : logged.launches = shell.launches := launches_record_ordinary shell rfl
    rcases segment_of_not_dispatched calls with
      ⟨sign, stray, run⟩ | ⟨stray, words, run⟩ | ⟨name, operands, stray, words, unknown, run⟩
    · exact .inl ((congrArg (launches ·.2) run).trans (launches_reportOrWarn shell _ _))
    · exact .inl ((congrArg (launches ·.2) run).trans same)
    · have refused : ∀ failure, (logged.refuse name failure).2.launches = shell.launches :=
        fun failure => (launches_reportOrWarn _ _ _).trans
          ((launches_record_ordinary logged rfl).trans same)
      have ran : after = (logged.command name operands).2 := congrArg Prod.snd run
      rw [ran, command_of_foreign unknown]
      split
      next path found =>
        let launch : Launch := ⟨path, name :: operands, logged.session.environment.strings⟩
        have expanded : launch.arguments = shell.wordsOf segment := words.symm
        have inherited : launch.environment = logged.session.environment.strings := rfl
        rcases launches_launch expanded inherited name with none | ⟨added, launches⟩
        · exact .inl (none.trans same)
        · rw [same] at added
          exact .inr ⟨launch, added, launches.arguments, launches.environment, launches.ran⟩
      next => exact .inl (refused _)
      next => exact .inl (refused _)

end Shell

/-! ## Lines -/

namespace Step

/-- What the step has started. -/
def launches (step : Step) : List Launch :=
  step.after.launches.drop step.before.launches.length

theorem launches_eq {step : Step} {started : List Launch}
    (added : step.after.launches = step.before.launches ++ started) : step.launches = started := by
  rw [launches, added, List.drop_left]

theorem launches_of_isLawful {step : Step} (lawful : step.IsLawful) :
    step.after.launches = step.before.launches ++ step.launches ∧
      ∀ launch ∈ step.launches,
        step.before.Launches (step.before.wordsOf step.segment) launch step.after := by
  have none : step.after.launches = step.before.launches →
      step.after.launches = step.before.launches ++ step.launches ∧
        ∀ launch ∈ step.launches,
          step.before.Launches (step.before.wordsOf step.segment) launch step.after := by
    intro same
    rw [← List.append_nil step.before.launches] at same
    rw [launches_eq same]
    exact ⟨same, by simp⟩
  cases ran : step.outcome with
  | some outcome =>
    have after := (lawful.of_outcome ran).2
    have same : step.after.launches = (step.before.segment step.segment).2.launches := by
      rw [after, Shell.launches_conclude]
    rcases Shell.launches_segment step.before step.segment with idle | ⟨launch, added, launches⟩
    · exact none (same.trans idle)
    · rw [← same] at added
      rw [launches_eq added]
      refine ⟨added, List.forall_mem_singleton.mpr ?_⟩
      rw [after]
      exact launches.then_conclude outcome
  | none =>
    apply none
    rw [← Shell.launches_withoutDetails, lawful.of_passed ran, Shell.launches_withoutDetails]

theorem launches_of_linked {steps : List Step} {first last : Shell}
    (linked : Linked first steps last) (lawful : ∀ step ∈ steps, step.IsLawful) :
    last.launches = first.launches ++ steps.flatMap launches := by
  induction steps generalizing first with
  | nil =>
    have same : first = last := linked
    simp [same]
  | cons step rest induction =>
    rcases linked with ⟨begins, linkedRest⟩
    rcases List.forall_mem_cons.mp lawful with ⟨here, onward⟩
    rw [induction linkedRest onward, List.flatMap_cons, ← List.append_assoc, ← begins,
      (launches_of_isLawful here).1]

end Step

namespace Shell

/-- The steps of a line, of which there are none where it is rejected. -/
def stepsOf (shell : Shell) (line : Text) : List Step :=
  match Chain.ofLine line with
  | .ok segments => course segments (shell.begin line segments)
  | .error _ => []

theorem isLawful_of_mem_stepsOf {shell : Shell} {line : Text} :
    ∀ step ∈ shell.stepsOf line, step.IsLawful := by
  unfold stepsOf
  split
  · exact isLawful_of_mem_course _ _
  · simp

theorem byRule_stepsOf (shell : Shell) (line : Text) : Step.ByRule (shell.stepsOf line) := by
  have nothing : Step.ByRule [] := ⟨by simp, by simp⟩
  rw [stepsOf]
  cases split : Chain.ofLine line with
  | error operator => exact nothing
  | ok segments =>
    cases segments with
    | nil => exact nothing
    | cons first rest =>
      rcases Chain.operators_of_ofLine split with ⟨opening, joined⟩
      exact byRule_course _ opening joined

theorem isSound_of_mem_stepsOf {shell : Shell} (sound : shell.session.IsSound) {line : Text}
    {step : Step} (member : step ∈ shell.stepsOf line) : step.before.session.IsSound := by
  unfold stepsOf at member
  split at member
  next segments split =>
    by_cases inhabited : segments = []
    · subst inhabited
      cases member
    · have begun := sessionInvariant_isSound.toRunInvariant.begin sound trivial split inhabited
      exact (sessionInvariant_isSound.toChainInvariant.chain begun segments).2 step member
  next => cases member

/-- Nothing starts programs but the steps of a line. -/
theorem launches_submit (shell : Shell) (line : Text) :
    (shell.submit line).2.launches =
      shell.launches ++ (shell.stepsOf line).flatMap Step.launches := by
  have quiet : ∀ after : Shell, (shell.submit line).2.withoutDetails = after.withoutDetails →
      after.launches = shell.launches → (shell.submit line).2.launches = shell.launches := by
    intro after same unchanged
    rw [← launches_withoutDetails, same, launches_withoutDetails, unchanged]
  cases split : Chain.ofLine line with
  | error operator =>
    have reported := launches_reportOrWarn shell none (Failure.unexpected operator.symbol).message
    rw [reportOrWarn_eq] at reported
    rw [quiet _ (submit_rejected split).2 reported]
    simp [stepsOf, split]
  | ok segments =>
    by_cases inhabited : segments = []
    · subst inhabited
      rw [quiet _ (submit_empty split).2 rfl]
      simp [stepsOf, split, course]
    · have begun : (shell.begin line segments).launches = shell.launches :=
        launches_record_ordinary shell rfl
      rw [submit_chain split inhabited, stepsOf, split, ← begun]
      exact Step.launches_of_linked (linked_course _ _) (isLawful_of_mem_course _ _)

end Shell

/-- The program that a launch of the step has run, and what it has been handed. Where the
file is no program itself, its header names the one that carries it out and adds to the
words. -/
structure Step.Runs (step : Step) (launch : Launch) (program : Program)
    (surroundings : Surroundings) : Prop where
  carried : ∃ node, step.before.world.executable launch.path = .ok node ∧
    step.before.world.carrier World.loadLimit launch.path launch.arguments node =
      .ok (program, surroundings.arguments)
  itself : ∀ named, step.before.world.executable launch.path = .ok (.program named) →
    program = named ∧ surroundings.arguments = launch.arguments
  environment : surroundings.environment = World.launchedEnvironment launch
  directory : surroundings.directory = step.before.world.directory?
  input : surroundings.input = step.before.world.input
  ran : step.before.world.start launch = .ok (program.run surroundings, step.after.world)
  shown : ∃ earlier later, step.after.console.transcript =
    earlier ++ .started launch :: ((program.run surroundings).events ++ later)

theorem Shell.Launches.runs {step : Step} {words : List Text} {launch : Launch}
    (launches : step.before.Launches words launch step.after) :
    ∃ program surroundings, step.Runs launch program surroundings := by
  rcases launches.ran with ⟨run, started, shown⟩
  rcases World.start_eq_ok started with ⟨node, program, arguments, found, carried, rfl, _⟩
  refine ⟨program, _, ⟨node, found, carried⟩, ?_, rfl, rfl, rfl, started, shown⟩
  intro named itself
  rw [found] at itself
  cases itself
  cases carried
  exact ⟨rfl, rfl⟩

namespace Shell

/-- In a session that begins with sound names, the steps of its lines start all programs
there are. Whenever a step does, the environment of the launch is the list of the variables
that the session has when the step begins. The program is run with that environment taken
apart again, which gives it each of these variables once, with the value of a reference to
it, in the order of the names, and nothing else. -/
theorem launches_inherit {settings : Settings} {environment : Environment}
    (names : ∀ name ∈ environment.keys, name ≠ [] ∧ '=' ∉ name) (arguments : List Text)
    (processId : Nat) (world : World) (console : Console) {shell : Shell}
    (reached : Reached
      (Shell.start settings (.ofEnvironment environment arguments processId) world console)
      shell) (line : Text) :
    (shell.submit line).2.launches =
        shell.launches ++ (shell.stepsOf line).flatMap Step.launches ∧
      ∀ step ∈ shell.stepsOf line, ∀ launch ∈ step.launches,
        launch.arguments = step.before.wordsOf step.segment ∧
          launch.environment = step.before.session.environment.strings ∧
          step.before.session.Inherited (World.launchedEnvironment launch) ∧
          ∃ program surroundings, step.Runs launch program surroundings := by
  refine ⟨launches_submit shell line, ?_⟩
  intro step member launch launched
  have sound : step.before.session.IsSound := by
    have begun := isSound_start names arguments processId settings world console
    have atShell := sessionInvariant_isSound.reached begun reached
    exact isSound_of_mem_stepsOf atShell member
  have lawful := isLawful_of_mem_stepsOf step member
  have launches := (Step.launches_of_isLawful lawful).2 launch launched
  have inherited := Session.inherited_received sound.names
  rw [← launches.environment] at inherited
  exact ⟨launches.arguments, launches.environment, inherited, launches.runs⟩

/-- A program that is started under an alias after one variable has been removed and
another has been set twice, at last to a value with the sign in it. -/
theorem launches_inherit_behind_alias :
    let environment : Environment := .ofList [(Text.ofString "A", Text.ofString "b=c")]
    let program : Program := [.showArguments, .showEnvironment]
    let world := World.put { files := .empty } (Text.ofString "/bin/show") (.program program)
    let begun :=
      Shell.start { mode := .standardInput } (.ofEnvironment environment [] 7) world {}
    let shell := Operation.perform begun
      (.submit (Text.ofString "setenv B ; unsetenv A ; setenv B x=y ; alias p=/bin/show"))
    let line := Text.ofString "p $B && p $A"
    (∀ name ∈ environment.keys, name ≠ [] ∧ '=' ∉ name) ∧
      (shell.submit line).2.launches =
        shell.launches ++ (shell.stepsOf line).flatMap Step.launches ∧
      (shell.stepsOf line).map (fun step => step.launches.map Launch.arguments) =
        [[[Text.ofString "/bin/show", Text.ofString "x=y"]], [[Text.ofString "/bin/show"]]] ∧
      ∀ step ∈ shell.stepsOf line, ∀ launch ∈ step.launches,
        launch.environment = [Text.ofString "B=x=y"] ∧
          step.before.session.environment.strings = [Text.ofString "B=x=y"] ∧
          step.before.session.Inherited [(Text.ofString "B", Text.ofString "x=y")] ∧
          ∃ surroundings, step.Runs launch program surroundings ∧
            surroundings.arguments = launch.arguments ∧
            surroundings.environment = [(Text.ofString "B", Text.ofString "x=y")] := by
  intro environment program world begun shell line
  have names : ∀ name ∈ environment.keys, name ≠ [] ∧ '=' ∉ name := by decide +kernel
  have reached : Reached begun shell := .perform .start (.submit _)
  rcases launches_inherit names [] 7 world {} reached line with ⟨all, inherits⟩
  have found : ∀ step ∈ shell.stepsOf line, ∀ launch ∈ step.launches,
      launch.environment = [Text.ofString "B=x=y"] ∧
        World.launchedEnvironment launch = [(Text.ofString "B", Text.ofString "x=y")] ∧
        step.before.world.executable launch.path = .ok (.program program) := by
    decide +kernel
  refine ⟨names, all, by decide +kernel, ?_⟩
  intro step member launch launched
  rcases found step member launch launched with ⟨environment, received, itself⟩
  rcases inherits step member launch launched with
    ⟨_, strings, inherited, carried, surroundings, runs⟩
  rcases runs.itself program itself with ⟨rfl, unchanged⟩
  refine ⟨environment, strings ▸ environment, received ▸ inherited, surroundings, runs,
    unchanged, ?_⟩
  rw [runs.environment, received]

end Shell

end CommandShell
