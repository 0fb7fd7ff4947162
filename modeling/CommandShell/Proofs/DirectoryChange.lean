import CommandShell.Proofs.Diagnostics
import CommandShell.Proofs.Footprint

namespace CommandShell

/-! What `cd` comes to. It fails and changes nothing, or it succeeds and changes to the
directory that its operand denotes. There is one case between the two: a `cd -` whose
directory cannot be printed has changed to it and fails nevertheless. -/

/-! ## Destinations -/

/-- The text that an operand of `cd` stands for. -/
inductive Session.Denotes (session : Session) : Option Text → Text → Prop
  | home {target : Option Text} {directory : Text} (bare : target = none ∨ target = some [])
      (known : session.environment.get? Shell.homeName = some directory) :
      Denotes session target directory
  | back {directory : Text} (known : session.previousDirectory = some directory) :
      Denotes session (some ['-']) directory
  | itself {directory : Text} (inhabited : directory ≠ []) (notBack : directory ≠ ['-']) :
      Denotes session (some directory) directory

theorem Session.denotes_back_iff (session : Session) (directory : Text) :
    session.Denotes (some ['-']) directory ↔ session.previousDirectory = some directory := by
  constructor
  · intro denotes
    cases denotes with
    | home bare => rcases bare with bare | bare <;> cases bare
    | back known => exact known
    | itself _ notBack => exact absurd rfl notBack
  · exact .back

namespace Shell

theorem destination_eq_ok_iff (session : Session) (target : Option Text) (directory : Text)
    (announced : Bool) :
    destination session target = .ok (directory, announced) ↔
      session.Denotes target directory ∧ announced = decide (target = some ['-']) := by
  constructor
  · intro goes
    unfold destination at goes
    split at goes
    · split at goes <;> cases goes
      next known => exact ⟨.home (.inl rfl) known, rfl⟩
    · split at goes <;> cases goes
      next known => exact ⟨.home (.inr rfl) known, rfl⟩
    · split at goes <;> cases goes
      next known => exact ⟨.back known, rfl⟩
    next other inhabited notBack =>
      cases goes
      have notBack : directory ≠ ['-'] := notBack
      exact ⟨.itself inhabited notBack, by simp [notBack]⟩
  · rintro ⟨denotes, rfl⟩
    cases denotes with
    | home bare known => rcases bare with rfl | rfl <;> simp [destination, known]
    | back known => simp [destination, known]
    | itself inhabited notBack => simp [destination, notBack]

/-- The shell after it has gone to a place that this text names. -/
def arriveAt (shell : Shell) (directory : Text) (place : Place) : Shell :=
  { shell with
    world := { shell.world with place := place }
    session := arrive shell.session shell.world.directory? (place.text?.getD directory) }

/-- What `cd` prints where it has gone back to a place that this text names. -/
def announcement (directory : Text) (place : Place) : Text :=
  place.text?.getD directory ++ ['\n']

variable {shell : Shell} {target : Option Text} {directory : Text} {place : Place}

theorem changeDirectory_of_located (denotes : shell.session.Denotes target directory)
    (located : shell.world.locate directory = .ok (.directory place)) :
    shell.changeDirectory target =
      if target = some ['-'] then
        (shell.arriveAt directory place).print (announcement directory place)
      else (.ok (.status 0), shell.arriveAt directory place) := by
  have goes := (destination_eq_ok_iff shell.session target directory _).mpr ⟨denotes, rfl⟩
  have moved :=
    (World.changeDirectory_eq_ok_iff shell.world _ directory).mpr ⟨place, located, rfl⟩
  simp only [changeDirectory, goes, moved, decide_eq_true_eq]
  rfl

/-- A directory that is there is reached, and nothing else is. -/
theorem failure?_changeDirectory_eq_none_iff (session : Session) (world : World)
    (target : Option Text) :
    failure? session world (.changeDirectory target) = none ↔
      ∃ directory place, session.Denotes target directory ∧
        world.locate directory = .ok (.directory place) := by
  constructor
  · intro succeeds
    cases goes : destination session target with
    | error failure => simp [failure?, goes] at succeeds
    | ok place =>
      rcases place with ⟨directory, announced⟩
      have denotes := ((destination_eq_ok_iff _ _ _ _).mp goes).1
      cases moved : world.changeDirectory directory with
      | error fault => simp [failure?, goes, moved] at succeeds
      | ok after =>
        rcases (World.changeDirectory_eq_ok_iff _ _ _).mp moved with ⟨place, located, _⟩
        exact ⟨directory, place, denotes, located⟩
  · rintro ⟨directory, place, denotes, located⟩
    have goes := (destination_eq_ok_iff session target directory _).mpr ⟨denotes, rfl⟩
    have moved := (World.changeDirectory_eq_ok_iff world _ directory).mpr ⟨place, located, rfl⟩
    simp only [failure?, goes, moved]

/-! ## Arriving -/

/-- What `cd` may change beside its messages. -/
structure Whereabouts where
  place : Place
  previousDirectory : Option Text
  environment : Environment

def whereabouts (shell : Shell) : Whereabouts where
  place := shell.world.place
  previousDirectory := shell.session.previousDirectory
  environment := shell.session.environment

/-- What the shell itself has written to the output. -/
def outputs (shell : Shell) : Text :=
  shell.console.transcript.flatMap (Event.writtenText .output)

/-- The directories and variables are the same, and the output has not been written to. -/
structure Idle (before after : Shell) : Prop where
  same : after.whereabouts = before.whereabouts
  silent : after.outputs = before.outputs

theorem outputs_record (shell : Shell) (event : Event) :
    (shell.record event).outputs = shell.outputs ++ event.writtenText .output := by
  rw [outputs, record, Console.transcript_record, List.flatMap_append, List.flatMap_singleton]
  rfl

theorem idle_record (shell : Shell) {event : Event} (silent : event.writtenText .output = []) :
    Idle shell (shell.record event) where
  same := rfl
  silent := by rw [outputs_record, silent, List.append_nil]

theorem outputs_write (shell : Shell) (stream : Stream) (text : Text) :
    (shell.write stream text).2.outputs =
      shell.outputs ++ if stream = .output then (shell.console.sink stream).taken text else [] := by
  have used : (shell.use stream text).outputs = shell.outputs := by cases stream <;> rfl
  rw [write_eq]
  generalize (shell.console.sink stream).taken text = taken
  unfold recordWritten Console.recordWritten
  cases taken with
  | nil => simpa using used
  | cons first rest =>
    have recorded := outputs_record (shell.use stream text) (.written stream (first :: rest))
    rw [used] at recorded
    exact recorded

theorem Idle.then_report {before shell : Shell} (idle : Idle before shell)
    (command : Option Text) (message : Text) : Idle before (shell.report command message).2 where
  same := idle.same
  silent := by
    have written := outputs_write shell.countComplaint .error
      (diagnostic shell.session command message)
    rw [if_neg (by decide), List.append_nil] at written
    exact written.trans idle.silent

theorem Idle.then_reportOrWarn {before shell : Shell} (idle : Idle before shell)
    (command : Option Text) (message : Text) :
    Idle before (shell.reportOrWarn command message) := by
  have reported := idle.then_report command message
  unfold reportOrWarn
  generalize shell.report command message = report at reported
  rcases report with ⟨_ | fault, after⟩
  · exact reported
  · have quiet : ∀ message, (after.warn message).outputs = after.outputs :=
      fun _ => (idle_record after rfl).silent
    exact ⟨reported.same, (quiet _).trans reported.silent⟩

/-- A failure that is diagnosed makes for its status and for nothing else. Where the
diagnostic cannot be written, that is the failure. -/
theorem settle_complain (builtin : Builtin) (failure : Failure) (shell : Shell) :
    ∃ status after, settle builtin.name (complain builtin failure shell) =
      (.status status, after) ∧ (status = failure.status ∨ status = 1) ∧ Idle shell after := by
  have reported := Idle.then_report (⟨rfl, rfl⟩ : Idle shell shell) (some builtin.name)
    failure.message
  rw [complain_eq]
  generalize shell.report (some builtin.name) failure.message = report at reported
  rcases report with ⟨_ | fault, after⟩
  · exact ⟨_, after, rfl, .inl rfl, reported⟩
  · exact ⟨_, _, rfl, .inr rfl, reported.then_reportOrWarn _ _⟩

/-- The working directory has changed to the one that the target denotes, and the variables and
the previous directory have been set accordingly. -/
structure Arrives (target : Option Text) (before after : Shell) : Prop where
  moved : ∃ directory, before.session.Denotes target directory ∧
    before.world.locate directory = .ok (.directory after.world.place) ∧
    after.session.environment.get? directoryName =
      some (after.world.directory?.getD directory)
  departed : ∀ directory, before.world.directory? = some directory →
    after.session.previousDirectory = some directory ∧
      after.session.environment.get? previousName = some directory
  /-- A directory that has been removed is not noted. -/
  lost : before.world.directory? = none →
    after.session.previousDirectory = before.session.previousDirectory ∧
      after.session.environment.get? previousName =
        before.session.environment.get? previousName
  others : ∀ name, name ≠ directoryName → name ≠ previousName →
    after.session.environment.get? name = before.session.environment.get? name

theorem previousName_ne_directoryName : previousName ≠ directoryName := by decide

/-- Only the directories and variables count. -/
theorem Arrives.of_idle {before between after : Shell} (arrives : Arrives target before between)
    (same : after.whereabouts = between.whereabouts) : Arrives target before after := by
  have place : after.world.place = between.world.place := congrArg Whereabouts.place same
  have previous : after.session.previousDirectory = between.session.previousDirectory :=
    congrArg Whereabouts.previousDirectory same
  have environment : after.session.environment = between.session.environment :=
    congrArg Whereabouts.environment same
  rcases arrives with ⟨moved, departed, lost, others⟩
  rw [World.directory?, ← place] at moved
  rw [← previous, ← environment] at departed lost
  rw [← environment] at moved others
  exact ⟨moved, departed, lost, others⟩

theorem get?_directoryName_arriveAt (shell : Shell) (directory : Text) (place : Place) :
    (shell.arriveAt directory place).session.environment.get? directoryName =
      some (place.text?.getD directory) := by
  unfold arriveAt arrive
  cases shell.world.directory? <;> exact Store.get?_set_self _ _ _

theorem arrives_arriveAt (denotes : shell.session.Denotes target directory)
    (located : shell.world.locate directory = .ok (.directory place)) :
    Arrives target shell (shell.arriveAt directory place) where
  moved := ⟨directory, denotes, located, get?_directoryName_arriveAt shell directory place⟩
  departed := by
    intro departed there
    unfold arriveAt arrive
    rw [there]
    refine ⟨rfl, ?_⟩
    exact (Store.get?_set_of_ne _ _ previousName_ne_directoryName).trans (Store.get?_set_self _ _ _)
  lost := by
    intro gone
    unfold arriveAt arrive
    rw [gone]
    exact ⟨rfl, Store.get?_set_of_ne _ _ previousName_ne_directoryName⟩
  others := fun name noDirectory noPrevious => get?_arrive noDirectory noPrevious _ _ _

/-! ## The course of `cd` -/

/-- Whether `cd` is asked to go to a directory that is there. -/
structure IsReachable (operands : List Text) (shell : Shell) : Prop where
  single : operands.length ≤ 1
  located : ∃ directory place, shell.session.Denotes operands.head? directory ∧
    shell.world.locate directory = .ok (.directory place)

/-- Whether `cd` is asked to go back to a directory that is there and cannot be printed. -/
structure Unannounced (operands : List Text) (shell : Shell) : Prop where
  back : operands = [['-']]
  broken : ∃ directory place, shell.session.Denotes operands.head? directory ∧
    shell.world.locate directory = .ok (.directory place) ∧
    shell.console.output.fault? (announcement directory place) ≠ none

theorem Unannounced.reachable {operands : List Text} (unheard : Unannounced operands shell) :
    IsReachable operands shell := by
  rcases unheard with ⟨rfl, directory, place, denotes, located, _⟩
  exact ⟨by simp, directory, place, denotes, located⟩

theorem Unannounced.fault_ne_none {operands : List Text} (unheard : Unannounced operands shell) :
    shell.console.output.writeFault ≠ none := by
  rcases unheard.broken with ⟨directory, place, _, _, broken⟩
  exact fun works => broken (Sink.fault?_of_working works _)

/-- The ways in which `cd` goes. -/
inductive Goes (operands : List Text) (before : Shell) : Outcome × Shell → Prop
  | nowhere {status : Int} {after : Shell} (failed : Session.exitStatus status ≠ 0)
      (idle : Idle before after) (astray : ¬IsReachable operands before) :
      Goes operands before (.status status, after)
  | there {after : Shell} (arrives : Arrives operands.head? before after)
      (announced : after.outputs = before.outputs ++
        if operands = [['-']] then
          (after.session.environment.get? directoryName).getD [] ++ ['\n']
        else [])
      (reachable : IsReachable operands before) (heard : ¬Unannounced operands before) :
      Goes operands before (.status 0, after)
  | unannounced {after : Shell} (unheard : Unannounced operands before)
      (arrives : Arrives operands.head? before after)
      (cut : ∃ taken rest, rest ≠ [] ∧ after.outputs = before.outputs ++ taken ∧
        taken ++ rest = (after.session.environment.get? directoryName).getD [] ++ ['\n']) :
      Goes operands before (.status 1, after)

section

variable {operands : List Text}

theorem isReachable_log_iff (detail : Detail) :
    IsReachable operands (shell.log detail) ↔ IsReachable operands shell :=
  ⟨fun reachable => ⟨reachable.single, reachable.located⟩,
    fun reachable => ⟨reachable.single, reachable.located⟩⟩

theorem unannounced_log_iff (detail : Detail) :
    Unannounced operands (shell.log detail) ↔ Unannounced operands shell :=
  ⟨fun unheard => ⟨unheard.back, unheard.broken⟩, fun unheard => ⟨unheard.back, unheard.broken⟩⟩

theorem Goes.behind_log {detail : Detail} {run : Outcome × Shell}
    (goes : Goes operands (shell.log detail) run) : Goes operands shell run := by
  have silent : (shell.log detail).outputs = shell.outputs := (idle_record shell rfl).silent
  cases goes with
  | nowhere failed idle astray =>
    rw [isReachable_log_iff] at astray
    exact .nowhere failed ⟨idle.same, idle.silent.trans silent⟩ astray
  | there arrives announced reachable heard =>
    rw [silent] at announced
    rw [isReachable_log_iff] at reachable
    rw [unannounced_log_iff] at heard
    exact .there ⟨arrives.moved, arrives.departed, arrives.lost, arrives.others⟩ announced
      reachable heard
  | unannounced unheard arrives cut =>
    rw [unannounced_log_iff] at unheard
    rw [silent] at cut
    exact .unannounced unheard ⟨arrives.moved, arrives.departed, arrives.lost, arrives.others⟩ cut

/-- What is asked of `cd`, but for its manual, is to go somewhere or too much. -/
theorem call_cd (common : operands ≠ [Builtin.manualOperand]) :
    operands.length ≤ 1 ∧ Builtin.cd.call operands = .changeDirectory operands.head? ∨
      1 < operands.length ∧ ∃ message, Builtin.cd.call operands = .misuse message := by
  unfold Builtin.call
  rw [if_neg common]
  rcases operands with _ | ⟨target, _ | ⟨surplus, rest⟩⟩
  · exact .inl ⟨by simp, rfl⟩
  · exact .inl ⟨by simp, rfl⟩
  · exact .inr ⟨by simp, _, rfl⟩

theorem failure?_eq_none_iff_isReachable (common : operands ≠ [Builtin.manualOperand])
    (shell : Shell) :
    failure? shell.session shell.world (Builtin.cd.call operands) = none ↔
      IsReachable operands shell := by
  rcases call_cd common with ⟨single, asks⟩ | ⟨several, message, asks⟩
  · rw [asks, failure?_changeDirectory_eq_none_iff]
    exact ⟨fun located => ⟨single, located⟩, fun reachable => reachable.located⟩
  · rw [asks]
    constructor
    · intro impossible
      cases impossible
    · rintro ⟨single, -⟩
      omega

/-- A destination that is there is reached, unless the way there is the way back. -/
theorem goes_there (common : operands ≠ [Builtin.manualOperand]) (single : operands.length ≤ 1)
    (notBack : operands.head? ≠ some ['-'])
    (denotes : shell.session.Denotes operands.head? directory)
    (located : shell.world.locate directory = .ok (.directory place)) :
    Goes operands shell (settle Builtin.cd.name (carryOut .cd operands shell)) := by
  have other : operands ≠ [['-']] := fun only => notBack (only ▸ rfl)
  have asks : Builtin.cd.call operands = .changeDirectory operands.head? := by
    rcases call_cd common with ⟨_, asks⟩ | ⟨several, _⟩
    · exact asks
    · omega
  have goes : body .cd shell (Builtin.cd.call operands) =
      (.ok (.status 0), shell.arriveAt directory place) := by
    have changed := changeDirectory_of_located denotes located
    rw [if_neg notBack] at changed
    rw [asks]
    exact changed
  rw [carryOut_of_ok goes]
  refine .there (arrives_arriveAt denotes located) ?_ ⟨single, directory, place, denotes, located⟩
    fun unheard => other unheard.back
  rw [if_neg other, List.append_nil]
  rfl

end

theorem unannounced_back_iff (denotes : shell.session.Denotes (some ['-']) directory)
    (located : shell.world.locate directory = .ok (.directory place)) :
    Unannounced [['-']] shell ↔
      shell.console.output.fault? (announcement directory place) ≠ none := by
  constructor
  · rintro ⟨_, other, there, denotesToo, locatedToo, broken⟩
    rw [List.head?_cons, Session.denotes_back_iff] at denotesToo
    cases ((Session.denotes_back_iff _ _).mp denotes).symm.trans denotesToo
    cases located.symm.trans locatedToo
    exact broken
  · exact fun broken => ⟨rfl, directory, place, denotes, located, broken⟩

/-- It is reached then, too, and what may fail is its announcement. -/
theorem goes_back (denotes : shell.session.Denotes (some ['-']) directory)
    (located : shell.world.locate directory = .ok (.directory place)) :
    Goes [['-']] shell (settle Builtin.cd.name (carryOut .cd [['-']] shell)) := by
  let arrived := shell.arriveAt directory place
  let announced := announcement directory place
  let written := arrived.write .output announced
  have arrives : Arrives (some ['-']) shell written.2 :=
    (arrives_arriveAt denotes located).of_idle rfl
  have reachable : IsReachable [['-']] shell := ⟨by simp, directory, place, denotes, located⟩
  have outputs : written.2.outputs =
      shell.outputs ++ shell.console.output.taken announced :=
    outputs_write arrived .output announced
  have names : (written.2.session.environment.get? directoryName).getD [] ++ ['\n'] =
      announced := by
    have environment := get?_directoryName_arriveAt shell directory place
    simp only [written, write_session, arrived, environment, Option.getD_some]
    rfl
  have goes : body .cd shell (Builtin.cd.call [['-']]) =
      afterWriting (fun shell => (.ok (.status 0), shell))
        (shell.console.output.fault? announced, written.2) :=
    changeDirectory_of_located denotes located
  cases fails : shell.console.output.fault? announced with
  | none =>
    rw [fails, afterWriting_none] at goes
    rw [carryOut_of_ok goes]
    have heard : ¬Unannounced [['-']] shell := fun unheard =>
      (unannounced_back_iff denotes located).mp unheard fails
    refine .there arrives ?_ reachable heard
    rw [outputs, Sink.taken_of_fault?_eq_none fails, if_pos rfl, names]
  | some fault =>
    have unheard : Unannounced [['-']] shell :=
      (unannounced_back_iff denotes located).mpr (Option.ne_none_iff_exists'.mpr ⟨fault, fails⟩)
    rw [fails, afterWriting_some] at goes
    rw [carryOut_of_error (by decide) goes]
    rcases settle_complain .cd (.output fault) written.2 with ⟨status, after, run, failed, idle⟩
    have one : status = 1 := failed.elim id id
    subst one
    rw [run]
    rcases Sink.exists_of_fault?_eq_some fails with ⟨rest, inhabited, whole⟩
    have environment := congrArg Whereabouts.environment idle.same
    simp only [whereabouts] at environment
    refine .unannounced unheard (arrives.of_idle idle.same)
      ⟨shell.console.output.taken announced, rest, inhabited, idle.silent.trans outputs, ?_⟩
    rw [whole, environment, names]

section

variable {operands : List Text}

/-- Whatever is asked of `cd` but its manual, it goes one of these ways. -/
theorem goes_carryOut (common : operands ≠ [Builtin.manualOperand]) (shell : Shell) :
    Goes operands shell (settle Builtin.cd.name (carryOut .cd operands shell)) := by
  -- Every failure but that of the announcement comes before anything has been changed.
  have noFailure := failure?_eq_none_iff_isReachable common shell
  cases fails : failure? shell.session shell.world (Builtin.cd.call operands) with
  | some failure =>
    have noManual : Builtin.cd.call operands ≠ .manual := by
      intro manual
      rw [manual] at fails
      cases fails
    rw [fails] at noFailure
    rw [carryOut_of_error noManual (body_of_failure fails .cd)]
    rcases settle_complain .cd failure shell with ⟨status, after, run, failed, idle⟩
    have failed : Session.exitStatus status ≠ 0 := by
      rcases failed with rfl | rfl
      · exact exitStatus_failure_ne_zero failure
      · decide
    rw [run]
    refine .nowhere failed idle fun reachable => ?_
    cases noFailure.mpr reachable
  | none =>
    rcases noFailure.mp fails with ⟨single, directory, place, denotes, located⟩
    by_cases back : operands.head? = some ['-']
    · have only : operands = [['-']] := by
        rcases operands with _ | ⟨target, _ | ⟨_, _⟩⟩
        · cases back
        · exact congrArg (fun target => [target]) (Option.some.inj back)
        · simp at single
      subst only
      exact goes_back denotes located
    · exact goes_there common single back denotes located

theorem goes_command (common : operands ≠ [Builtin.manualOperand]) (shell : Shell) :
    Goes operands shell (shell.command Builtin.cd.name operands) :=
  .behind_log (goes_carryOut common (shell.log (.builtin Builtin.cd.name operands)))

theorem goes_segment {segment : Segment}
    (calls : shell.dispatched segment = some (.cd, operands))
    (common : operands ≠ [Builtin.manualOperand]) :
    Goes operands shell (shell.segment segment) := by
  rw [segment_of_dispatched calls]
  exact .behind_log (.behind_log (goes_carryOut common _))

/-! ## All or nothing -/

/-- Whether a run of `cd` has succeeded and arrived, or failed and changed nothing. -/
structure Atomic (operands : List Text) (before : Shell) (run : Outcome × Shell) : Prop where
  arrived : run.1.recorded = 0 → Arrives operands.head? before run.2
  stayed : run.1.recorded ≠ 0 → run.2.whereabouts = before.whereabouts

/-- What can be said of every run of `cd`. -/
structure Settles (operands : List Text) (before : Shell) (run : Outcome × Shell) : Prop where
  ends : ∃ status, run.1 = .status status
  succeeds_iff : run.1.recorded = 0 ↔
    IsReachable operands before ∧ ¬Unannounced operands before
  arrives : IsReachable operands before → Arrives operands.head? before run.2
  stays : ¬IsReachable operands before → run.2.whereabouts = before.whereabouts
  unheard : Unannounced operands before → run.1.recorded = 1
  atomic_iff : Atomic operands before run ↔
    (Unannounced operands before → run.2.whereabouts = before.whereabouts)

theorem Goes.settles {run : Outcome × Shell} (goes : Goes operands shell run) :
    Settles operands shell run := by
  cases goes with
  | nowhere failed idle astray =>
    refine ⟨⟨_, rfl⟩, ?_, fun reachable => absurd reachable astray, fun _ => idle.same,
      fun unheard => absurd unheard.reachable astray, ?_⟩
    · exact ⟨fun succeeded => absurd succeeded failed, fun reached => absurd reached.1 astray⟩
    · exact ⟨fun _ _ => idle.same,
        fun _ => ⟨fun succeeded => absurd succeeded failed, fun _ => idle.same⟩⟩
  | there arrives _ reachable heard =>
    refine ⟨⟨0, rfl⟩, ⟨fun _ => ⟨reachable, heard⟩, fun _ => rfl⟩, fun _ => arrives,
      fun astray => absurd reachable astray, fun unheard => absurd unheard heard, ?_⟩
    exact ⟨fun _ unheard => absurd unheard heard,
      fun _ => ⟨fun _ => arrives, fun failed => absurd rfl failed⟩⟩
  | unannounced unheard arrives =>
    have failed : Outcome.recorded (.status 1) ≠ 0 := by decide
    refine ⟨⟨1, rfl⟩, ?_, fun _ => arrives, fun astray => absurd unheard.reachable astray,
      fun _ => rfl, ?_⟩
    · exact ⟨fun succeeded => absurd succeeded failed, fun reached => absurd unheard reached.2⟩
    · exact ⟨fun atomic _ => atomic.stayed failed,
        fun same => ⟨fun _ => arrives, fun _ => same unheard⟩⟩

end

/-- Whatever `cd` is asked but for its manual, and whatever can be written, it arrives or changes
nothing, as its status says. There is one exception: `cd -` that arrives and cannot say so. -/
theorem cd_settles (shell : Shell) (operands : List Text)
    (common : operands ≠ [Builtin.manualOperand]) :
    Settles operands shell (shell.command Builtin.cd.name operands) ∧
      ∀ segment, shell.dispatched segment = some (.cd, operands) →
        Settles operands shell (shell.segment segment) :=
  ⟨(goes_command common shell).settles, fun _ calls => (goes_segment calls common).settles⟩

/-- The target is a link in the working directory. -/
theorem cd_settles_behind_link :
    let shell : Shell :=
      { settings := { mode := .standardInput }
        session := .ofEnvironment .empty [] 7
        world :=
          (World.put { files := .empty } (Text.ofString "/a/b") .directory).put
            (Text.ofString "/way") (.link (Text.ofString "a/b")) }
    let segment : Segment := ⟨some .sequence, Text.ofString "cd way"⟩
    let operands := [Text.ofString "way"]
    let after := (shell.segment segment).2
    operands ≠ [Builtin.manualOperand] ∧ shell.dispatched segment = some (.cd, operands) ∧
      Arrives operands.head? shell after ∧
      after.world.directory? = some (Text.ofString "/a/b") := by
  intro shell segment operands after
  have common : operands ≠ [Builtin.manualOperand] := by decide
  have calls : shell.dispatched segment = some (.cd, operands) := by decide +kernel
  have settles := (cd_settles shell operands common).2 segment calls
  have reachable := (settles.succeeds_iff.mp (by decide +kernel)).1
  exact ⟨common, calls, settles.arrives reachable, by decide +kernel⟩

/-- The announcement fails, and everything has been changed. -/
theorem cd_not_atomic_unannounced :
    let broken : Sink := { writeFault := some (.custom (Text.ofString "sink broken")) }
    let shell : Shell :=
      { settings := { mode := .standardInput }
        session := .ofEnvironment (.ofList [(previousName, Text.ofString "/a")]) [] 7
        world := World.put { files := .empty } (Text.ofString "/a") .directory
        console := { output := broken } }
    let run := shell.command Builtin.cd.name [['-']]
    run.1 = .status 1 ∧
      shell.world.directory? = some ['/'] ∧
      run.2.world.directory? = some (Text.ofString "/a") ∧
      shell.session.previousDirectory = some (Text.ofString "/a") ∧
      run.2.session.previousDirectory = some ['/'] ∧
      ¬Atomic [['-']] shell run := by
  intro broken shell run
  have status : run.1 = .status 1 := by decide +kernel
  have split : ¬Atomic [['-']] shell run := by
    intro atomic
    have failed : run.1.recorded ≠ 0 := by rw [status]; decide
    have place := congrArg Whereabouts.place (atomic.stayed failed)
    exact absurd place (by decide +kernel)
  exact ⟨status, by decide +kernel, by decide +kernel, by decide +kernel, by decide +kernel, split⟩

end Shell

end CommandShell
