import CommandShell.Proofs.Requests
import CommandShell.Proofs.SavedHistory

namespace CommandShell

/-! What a line leaves as it was. Whatever a line has changed was asked for by a segment
of it that ran as the builtin for such a change, so that everything else is as before,
whatever the line holds and whatever fails in it. -/

/-! ## Frames -/

namespace Shell

variable {Cause : Call → Prop} {Kept : Shell → Shell → Prop}

/-- Something of sessions and the world is kept by every act, unless there was cause for
the act to change it. -/
structure Frame (Cause : Call → Prop) (Kept : Shell → Shell → Prop) : Prop where
  alike : ∀ {left right}, right.session = left.session → right.world = left.world →
    Kept left right
  trans : ∀ {one two three}, Kept one two → Kept two three → Kept one three
  act : ∀ {words call left right}, Act words call left right →
    Kept left right ∨ ∃ asked, call = some asked ∧ Cause asked

/-- It is kept by lines, too, since it depends neither on statuses nor on the history. -/
structure LineFrame (Cause : Call → Prop) (Kept : Shell → Shell → Prop) : Prop extends
    Frame Cause Kept where
  conclude : ∀ shell outcome, Kept shell (shell.conclude outcome)
  remember : ∀ shell line, Kept shell (shell.remember line)

namespace Frame

theorem acts (frame : Frame Cause Kept) {words : List Text} {call : Option Call}
    {left right : Shell} (acts : Acts words call left right) :
    Kept left right ∨ ∃ asked, call = some asked ∧ Cause asked := by
  induction acts with
  | refl => exact .inl (frame.alike rfl rfl)
  | tail _ act induction =>
    rcases induction with kept | cause
    · exact (frame.act act).imp_left (frame.trans kept)
    · exact .inr cause

theorem uncalled (frame : Frame Cause Kept) {words : List Text} {left right : Shell}
    (acts : Acts words none left right) : Kept left right := by
  rcases frame.acts acts with kept | ⟨_, impossible, _⟩
  · exact kept
  · cases impossible

/-- A step that was passed over keeps everything. -/
theorem passed (frame : Frame Cause Kept) {step : Step} (lawful : step.IsLawful)
    (passed : step.outcome = none) : Kept step.before step.after := by
  have same := lawful.of_passed passed
  have sessions := congrArg Shell.session same
  have worlds := congrArg Shell.world same
  exact frame.alike sessions worlds

end Frame

namespace LineFrame

theorem step (frame : LineFrame Cause Kept) {step : Step} (lawful : step.IsLawful) :
    Kept step.before step.after ∨ ∃ call, step.Asked call ∧ Cause call := by
  cases ran : step.outcome with
  | none => exact .inl (frame.toFrame.passed lawful ran)
  | some outcome =>
    rw [(lawful.of_outcome ran).2]
    rcases frame.acts (acts_segment step.before step.segment) with kept | ⟨call, called, cause⟩
    · exact .inl (frame.trans kept (frame.conclude _ outcome))
    · exact .inr ⟨call, ⟨by simp [Step.Ran, ran], called⟩, cause⟩

theorem linked (frame : LineFrame Cause Kept) {steps : List Step} {first last : Shell}
    (linked : Step.Linked first steps last) (lawful : ∀ step ∈ steps, step.IsLawful) :
    Kept first last ∨ ∃ step ∈ steps, ∃ call, step.Asked call ∧ Cause call := by
  induction steps generalizing first with
  | nil =>
    have same : first = last := linked
    exact .inl (same ▸ frame.alike rfl rfl)
  | cons step rest induction =>
    rcases linked with ⟨begins, onward⟩
    rcases List.forall_mem_cons.mp lawful with ⟨here, later⟩
    rcases frame.step here with kept | cause
    · rcases induction onward later with keptToo | ⟨other, member, cause⟩
      · exact .inl (frame.trans (begins ▸ kept) keptToo)
      · exact .inr ⟨other, List.mem_cons_of_mem _ member, cause⟩
    · exact .inr ⟨step, List.mem_cons_self, cause⟩

theorem begin (frame : LineFrame Cause Kept) (shell : Shell) (line : Text) (segments : Chain) :
    Kept shell (shell.begin line segments) := by
  have logged : Kept shell (shell.log (.split line segments.length)) := frame.alike rfl rfl
  exact frame.trans logged (frame.remember _ line)

/-- Where a line has not kept something, a step of it was asked for a change of that. -/
theorem submit (frame : LineFrame Cause Kept) (shell : Shell) (line : Text) :
    Kept shell (shell.submit line).2 ∨
      ∃ step ∈ shell.stepsOf line, ∃ call, step.Asked call ∧ Cause call := by
  cases split : Chain.ofLine line with
  | error operator =>
    have acts : Acts [] none shell
        ((shell.log (.trailingOperator operator.symbol)).reportOrWarn none
          (Failure.unexpected operator.symbol).message) :=
      (acts_log shell _).trans (acts_reportOrWarn _ _ _)
    simp only [Shell.submit, split]
    exact .inl (frame.trans (frame.uncalled acts) (frame.conclude _ (.status 2)))
  | ok segments =>
    by_cases inhabited : segments = []
    · subst inhabited
      have acts : Acts [] none shell (shell.log (.split line 0)) := acts_log shell _
      simp only [Shell.submit, split]
      exact .inl (frame.uncalled acts)
    · rw [submit_chain split inhabited, stepsOf, split]
      rcases frame.linked (linked_course segments (shell.begin line segments))
        (isLawful_of_mem_course _ _) with kept | cause
      · exact .inl (frame.trans (frame.begin shell line segments) kept)
      · exact .inr cause

end LineFrame

end Shell

/-! ## Variables -/

/-- Whether a call may give a variable another value, or take its value away. -/
def Call.MayChange (name : Text) : Call → Prop
  | .setVariable other _ => other = name
  | .unsetVariable other => other = name
  | .changeDirectory _ => name = Shell.directoryName ∨ name = Shell.previousName
  | _ => False

namespace Store

variable {κ ν : Type} [DecidableEq κ]

theorem keys_isPrefix_keys_set (store : Store κ ν) (key : κ) (value : ν) :
    store.keys <+: (store.set key value).keys := by
  rw [keys_set]
  split
  · exact List.prefix_rfl
  · exact List.prefix_append store.keys [key]

theorem sublist_keys_unset {store : Store κ ν} {keys : List κ} (among : keys.Sublist store.keys)
    {key : κ} (spared : key ∉ keys) : keys.Sublist (store.unset key).keys := by
  have kept : keys.filter (fun other => other ≠ key) = keys := by
    rw [List.filter_eq_self]
    intro other member
    have different : other ≠ key := fun same => spared (same ▸ member)
    simpa using different
  rw [keys_unset, ← kept]
  exact among.filter _

end Store

namespace Shell

theorem get?_arrive {name : Text} (noDirectory : name ≠ directoryName)
    (noPrevious : name ≠ previousName) (session : Session) (departure : Option Text)
    (arrival : Text) :
    (arrive session departure arrival).environment.get? name = session.environment.get? name := by
  unfold arrive
  cases departure with
  | none => exact Store.get?_set_of_ne _ _ noDirectory
  | some departed =>
    exact (Store.get?_set_of_ne _ _ noDirectory).trans (Store.get?_set_of_ne _ _ noPrevious)

theorem keys_isPrefix_keys_arrive (session : Session) (departure : Option Text) (arrival : Text) :
    session.environment.keys <+: (arrive session departure arrival).environment.keys := by
  unfold arrive
  cases departure with
  | none => exact Store.keys_isPrefix_keys_set _ _ _
  | some departed =>
    exact (Store.keys_isPrefix_keys_set _ _ _).trans (Store.keys_isPrefix_keys_set _ _ _)

theorem frame_variable (name : Text) :
    LineFrame (Call.MayChange name) fun left right =>
      right.session.environment.get? name = left.session.environment.get? name where
  alike := fun sessions _ => by rw [sessions]
  trans := fun first second => second.trans first
  conclude := fun shell outcome => by cases outcome <;> rfl
  remember := fun _ _ => rfl
  act := by
    intro words call left right act
    cases act with
    | record => exact .inl rfl
    | write => exact .inl rfl
    | complain => exact .inl rfl
    | @setVariable other value asked =>
      by_cases same : other = name
      · exact .inr ⟨_, asked, same⟩
      · exact .inl (Store.get?_set_of_ne _ _ (Ne.symm same))
    | @unsetVariable other asked =>
      by_cases same : other = name
      · exact .inr ⟨_, asked, same⟩
      · exact .inl (Store.get?_unset_of_ne _ (Ne.symm same))
    | defineAlias => exact .inl rfl
    | arrive asked =>
      by_cases noted : name = directoryName ∨ name = previousName
      · exact .inr ⟨_, asked, noted⟩
      · rcases not_or.mp noted with ⟨noDirectory, noPrevious⟩
        exact .inl (get?_arrive noDirectory noPrevious _ _ _)
    | start =>
      rw [recordRun_eq]
      exact .inl rfl

/-- Variables of which none is removed keep their order. -/
theorem frame_order (names : List Text) :
    LineFrame (fun call => ∃ name ∈ names, call = .unsetVariable name) fun left right =>
      names.Sublist left.session.environment.keys →
        names.Sublist right.session.environment.keys where
  alike := fun sessions _ among => sessions ▸ among
  trans := fun first second among => second (first among)
  conclude := fun shell outcome among => by cases outcome <;> exact among
  remember := fun _ _ among => among
  act := by
    intro words call left right act
    cases act with
    | record => exact .inl id
    | write => exact .inl id
    | complain => exact .inl id
    | setVariable =>
      exact .inl fun among => among.trans (Store.keys_isPrefix_keys_set _ _ _).sublist
    | @unsetVariable name asked =>
      by_cases member : name ∈ names
      · exact .inr ⟨_, asked, name, member, rfl⟩
      · exact .inl fun among => Store.sublist_keys_unset among member
    | defineAlias => exact .inl id
    | arrive => exact .inl fun among => among.trans (keys_isPrefix_keys_arrive _ _ _).sublist
    | start =>
      rw [recordRun_eq]
      exact .inl id

/-! ## Aliases -/

theorem aliases_arrive (session : Session) (departure : Option Text) (arrival : Text) :
    (arrive session departure arrival).aliases = session.aliases := by
  unfold arrive
  cases departure <;> rfl

theorem frame_alias (name : Text) :
    LineFrame
      (fun call => ∃ operands value, call = .aliases operands ∧
        .define name value ∈ Aliases.Operand.ofWords operands)
      fun left right =>
        right.session.aliases.get? name = left.session.aliases.get? name where
  alike := fun sessions _ => by rw [sessions]
  trans := fun first second => second.trans first
  conclude := fun shell outcome => by cases outcome <;> rfl
  remember := fun _ _ => rfl
  act := by
    intro words call left right act
    cases act with
    | @defineAlias operands other value asked among =>
      by_cases same : other = name
      · exact .inr ⟨_, asked, operands, value, rfl, same ▸ among⟩
      · exact .inl (Store.get?_set_of_ne _ _ (Ne.symm same))
    | arrive =>
      exact .inl (congrArg (fun aliases => aliases.get? name) (aliases_arrive _ _ _))
    | start =>
      rw [recordRun_eq]
      exact .inl rfl
    | _ => exact .inl rfl

/-- No alias is removed, and new ones come behind. -/
theorem frame_aliasNames :
    LineFrame (fun _ => False) fun left right =>
      left.session.aliases.keys <+: right.session.aliases.keys where
  alike := fun sessions _ => sessions ▸ List.prefix_rfl
  trans := fun first second => first.trans second
  conclude := fun shell outcome => by cases outcome <;> exact List.prefix_rfl
  remember := fun _ _ => List.prefix_rfl
  act := by
    intro words call left right act
    cases act with
    | defineAlias => exact .inl (Store.keys_isPrefix_keys_set _ _ _)
    | @arrive _ directory world =>
      have kept := aliases_arrive left.session left.world.directory?
        (world.directory?.getD directory)
      exact .inl (kept.symm ▸ List.prefix_rfl)
    | start =>
      rw [recordRun_eq]
      exact .inl List.prefix_rfl
    | _ => exact .inl List.prefix_rfl

/-! ## Directories -/

theorem frame_directory :
    LineFrame (fun call => ∃ target, call = .changeDirectory target) fun left right =>
      right.session.previousDirectory = left.session.previousDirectory ∧
        right.world.place = left.world.place where
  alike := fun sessions worlds => by rw [sessions, worlds]; exact ⟨rfl, rfl⟩
  trans := fun first second => ⟨second.1.trans first.1, second.2.trans first.2⟩
  conclude := fun shell outcome => by cases outcome <;> exact ⟨rfl, rfl⟩
  remember := fun _ _ => ⟨rfl, rfl⟩
  act := by
    intro words call left right act
    cases act with
    | arrive asked => exact .inr ⟨_, asked, _, rfl⟩
    | start asked arguments environment started =>
      rcases World.start_eq_ok started with ⟨_, _, _, _, _, _, rfl⟩
      rw [recordRun_eq]
      exact .inl ⟨rfl, rfl⟩
    | _ => exact .inl ⟨rfl, rfl⟩

/-! ## Programs -/

/-- A segment that is no builtin's, whatever becomes of it, changes nothing in the session
and takes nothing from the world but input. -/
theorem frame_program :
    Frame (fun _ => True) fun left right =>
      right.session = { left.session with complaints := right.session.complaints } ∧
        right.world = { left.world with input := right.world.input } where
  alike := fun sessions worlds => by rw [sessions, worlds]; exact ⟨rfl, rfl⟩
  trans := by
    intro one two three first second
    constructor
    · rw [second.1, first.1]
    · rw [second.2, first.2]
  act := by
    intro words call left right act
    cases act with
    | setVariable _ asked => exact .inr ⟨_, asked, trivial⟩
    | unsetVariable asked => exact .inr ⟨_, asked, trivial⟩
    | defineAlias asked => exact .inr ⟨_, asked, trivial⟩
    | arrive asked => exact .inr ⟨_, asked, trivial⟩
    | start asked arguments environment started =>
      rcases World.start_eq_ok started with ⟨_, _, _, _, _, _, rfl⟩
      rw [recordRun_eq]
      exact .inl ⟨rfl, rfl⟩
    | _ => exact .inl ⟨rfl, rfl⟩

theorem unchanged_of_uncalled {step : Step} (lawful : step.IsLawful)
    (uncalled : step.before.called step.segment = none) :
    step.after.session =
        { step.before.session with
          status := step.after.session.status
          complaints := step.after.session.complaints } ∧
      step.after.world = { step.before.world with input := step.after.world.input } := by
  cases ran : step.outcome with
  | none =>
    rcases frame_program.passed lawful ran with ⟨session, world⟩
    rw [session]
    exact ⟨rfl, world⟩
  | some outcome =>
    rcases lawful.of_outcome ran with ⟨ended, after⟩
    have acts := acts_segment step.before step.segment
    rw [uncalled] at acts
    rcases frame_program.uncalled acts with ⟨session, world⟩
    cases outcome with
    | status status =>
      rw [after, conclude, noteStatus, Session.noteStatus, session]
      exact ⟨rfl, world⟩
    | exit code =>
      rcases called_of_exit ended with ⟨operand, called⟩
      cases uncalled.symm.trans called

/-! ## Lines -/

/-- What no line changes. -/
theorem constants_submit (shell : Shell) (line : Text) :
    (shell.submit line).2.session.lineNumber = shell.session.lineNumber ∧
      (shell.submit line).2.session.arguments = shell.session.arguments ∧
      (shell.submit line).2.session.processId = shell.session.processId := by
  have frame : LineFrame (fun _ => False) fun left right =>
      right.session.lineNumber = left.session.lineNumber ∧
        right.session.arguments = left.session.arguments ∧
        right.session.processId = left.session.processId :=
    { alike := fun sessions _ => by rw [sessions]; exact ⟨rfl, rfl, rfl⟩
      trans := fun first second =>
        ⟨second.1.trans first.1, second.2.1.trans first.2.1, second.2.2.trans first.2.2⟩
      conclude := fun shell outcome => by cases outcome <;> exact ⟨rfl, rfl, rfl⟩
      remember := fun _ _ => ⟨rfl, rfl, rfl⟩
      act := fun act =>
        .inl ⟨congrArg Ground.lineNumber act.ground, congrArg Ground.arguments act.ground,
          congrArg Ground.processId act.ground⟩ }
  rcases frame.submit shell line with kept | ⟨_, _, _, _, impossible⟩
  · exact kept
  · exact impossible.elim

theorem entries_submit (shell : Shell) (line : Text) :
    (shell.submit line).2.session.history.entries =
      shell.session.history.entries ++
        if Chain.hasCommand line then [(shell.session.history.nextNumber, line)] else [] := by
  have texts := history_submit shell line
  have byTexts : ∀ one two : History, one.texts = two.texts → one.entries = two.entries := by
    intro one two same
    rw [History.entries, same, History.entries]
  cases command : Chain.hasCommand line with
  | true =>
    have pushed : (shell.session.history.push line).texts =
        (shell.submit line).2.session.history.texts := by
      rw [texts, History.texts_push]
      simp [command]
    rw [← byTexts _ _ pushed, History.entries_push]
    rfl
  | false =>
    have same : (shell.submit line).2.session.history.texts = shell.session.history.texts := by
      rw [texts]
      simp [command]
    simpa using byTexts _ _ same

/-- What lies between two shells of which a line in these steps has led from the one to
the other. -/
structure Footprint (before : Shell) (line : Text) (steps : List Step) (answer : Option Int)
    (after : Shell) : Prop where
  /-- A variable takes another value only by `setenv` or `unsetenv` of its name, or as one
  of the two that `cd` sets. -/
  values : ∀ name,
    after.session.environment.get? name ≠ before.session.environment.get? name →
      ∃ step ∈ steps, ∃ call, step.Asked call ∧ call.MayChange name
  /-- Variables that are not unset stay in their order. -/
  order : ∀ names : List Text,
    (∀ name ∈ names, ∀ step ∈ steps, ¬ step.Asked (.unsetVariable name)) →
      names.Sublist before.session.environment.keys →
        names.Sublist after.session.environment.keys
  aliases : ∀ name, after.session.aliases.get? name ≠ before.session.aliases.get? name →
    ∃ step ∈ steps, ∃ operands value, step.Asked (.aliases operands) ∧
      .define name value ∈ Aliases.Operand.ofWords operands
  aliasNames : before.session.aliases.keys <+: after.session.aliases.keys
  directory :
    after.session.previousDirectory ≠ before.session.previousDirectory ∨
        after.world.place ≠ before.world.place →
      ∃ step ∈ steps, ∃ target, step.Asked (.changeDirectory target)
  exitRequest : after.session.exitRequest ≠ before.session.exitRequest → answer ≠ none
  history : after.session.history.entries =
    before.session.history.entries ++
      if Chain.hasCommand line then [(before.session.history.nextNumber, line)] else []
  lineNumber : after.session.lineNumber = before.session.lineNumber
  arguments : after.session.arguments = before.session.arguments
  processId : after.session.processId = before.session.processId
  /-- What is no builtin's, be it a program that was started or a name that led to none,
  touches nothing of this: it leaves a status, diagnostics and less input. -/
  programs : ∀ step ∈ steps, step.before.called step.segment = none →
    step.after.session =
        { step.before.session with
          status := step.after.session.status
          complaints := step.after.session.complaints } ∧
      step.after.world = { step.before.world with input := step.after.world.input }

/-- No line changes more than the builtins are asked for that it has run. -/
theorem submit_footprint (shell : Shell) (line : Text) :
    Footprint shell line (shell.stepsOf line) (shell.submit line).1 (shell.submit line).2 where
  values := by
    intro name changed
    exact ((frame_variable name).submit shell line).resolve_left changed
  order := by
    intro names spared among
    rcases (frame_order names).submit shell line with kept | ⟨step, member, call, asked, cause⟩
    · exact kept among
    · rcases cause with ⟨name, named, rfl⟩
      exact absurd asked (spared name named step member)
  aliases := by
    intro name changed
    rcases ((frame_alias name).submit shell line).resolve_left changed with
      ⟨step, member, _, asked, operands, value, rfl, among⟩
    exact ⟨step, member, operands, value, asked, among⟩
  aliasNames := by
    rcases frame_aliasNames.submit shell line with kept | ⟨_, _, _, _, impossible⟩
    · exact kept
    · exact impossible.elim
  directory := by
    intro changed
    rcases frame_directory.submit shell line with kept | ⟨step, member, _, asked, target, rfl⟩
    · exact absurd changed (not_or.mpr ⟨not_not.mpr kept.1, not_not.mpr kept.2⟩)
    · exact ⟨step, member, target, asked⟩
  exitRequest := by
    intro changed unanswered
    apply changed
    rw [(exitRequest_submit shell line).1, unanswered, Option.none_or]
  history := entries_submit shell line
  lineNumber := (constants_submit shell line).1
  arguments := (constants_submit shell line).2.1
  processId := (constants_submit shell line).2.2
  programs := fun step member =>
    unchanged_of_uncalled (isLawful_of_mem_stepsOf step member)

end Shell

end CommandShell
