import CommandShell.Shell.Builtins

namespace CommandShell

/-! What writing does to a shell. Only the console changes: it takes what the stream has
room for, and the room becomes less. -/

/-! ## Streams -/

namespace Sink

@[simp] theorem fault?_nil (sink : Sink) : sink.fault? [] = none := by
  cases broken : sink.writeFault <;> simp [fault?, broken]

@[simp] theorem taken_nil (sink : Sink) : sink.taken [] = [] := by
  cases broken : sink.writeFault <;> simp [taken, broken]

@[simp] theorem after_nil (sink : Sink) : sink.after [] = sink := by
  unfold after
  split <;> rfl

theorem fault?_of_working {sink : Sink} (working : sink.writeFault = none) (text : Text) :
    sink.fault? text = none := by
  simp [fault?, working]

theorem taken_of_working {sink : Sink} (working : sink.writeFault = none) (text : Text) :
    sink.taken text = text := by
  simp [taken, working]

theorem after_of_working {sink : Sink} (working : sink.writeFault = none) (text : Text) :
    sink.after text = sink := by
  simp [after, working]

theorem fault?_of_full {sink : Sink} {fault : Fault} (broken : sink.writeFault = some fault)
    (full : sink.room = 0) {text : Text} (inhabited : text ≠ []) :
    sink.fault? text = some fault := by
  simp [fault?, broken, full, inhabited]

theorem taken_of_full {sink : Sink} {fault : Fault} (broken : sink.writeFault = some fault)
    (full : sink.room = 0) (text : Text) : sink.taken text = [] := by
  simp [taken, broken, full]

theorem after_of_full {sink : Sink} (full : sink.room = 0) (text : Text) :
    sink.after text = sink := by
  unfold after
  split
  · rfl
  · rw [full, Nat.zero_sub, ← full]

theorem fault?_eq_some_iff {sink : Sink} {text : Text} {fault : Fault} :
    sink.fault? text = some fault ↔ sink.writeFault = some fault ∧ sink.room < text.length := by
  unfold fault?
  split <;> simp_all [and_comm]

/-- Without a fault the whole text is taken. -/
theorem taken_of_fault?_eq_none {sink : Sink} {text : Text} (unfailing : sink.fault? text = none) :
    sink.taken text = text := by
  unfold taken
  split
  next => rfl
  next fault broken =>
    have fits : ¬sink.room < text.length := by
      intro long
      cases unfailing.symm.trans (fault?_eq_some_iff.mpr ⟨broken, long⟩)
    exact List.take_of_length_le (Nat.not_lt.mp fits)

/-- A fault cuts the text short. -/
theorem exists_of_fault?_eq_some {sink : Sink} {text : Text} {fault : Fault}
    (fails : sink.fault? text = some fault) :
    ∃ rest, rest ≠ [] ∧ sink.taken text ++ rest = text := by
  rcases fault?_eq_some_iff.mp fails with ⟨broken, long⟩
  refine ⟨text.drop sink.room, ?_, ?_⟩
  · simpa using long
  · rw [taken, broken]
    exact List.take_append_drop _ _

@[simp] theorem writeFault_after (sink : Sink) (text : Text) :
    (sink.after text).writeFault = sink.writeFault := by
  unfold after
  split <;> rfl

@[simp] theorem flushFault_after (sink : Sink) (text : Text) :
    (sink.after text).flushFault = sink.flushFault := by
  unfold after
  split <;> rfl

/-! A text may be written in pieces: what is taken of it is the same, and so are the fault
and what is left of the room. -/

theorem taken_append (sink : Sink) (first second : Text) :
    sink.taken (first ++ second) = sink.taken first ++ (sink.after first).taken second := by
  cases broken : sink.writeFault with
  | none => simp [taken, after, broken]
  | some fault => simp [taken, after, broken, List.take_append]

theorem fault?_append (sink : Sink) (first second : Text) :
    sink.fault? (first ++ second) =
      (sink.fault? first).or ((sink.after first).fault? second) := by
  cases broken : sink.writeFault with
  | none => simp [fault?, after, broken]
  | some fault =>
    simp only [fault?, after, broken, List.length_append]
    by_cases fits : first.length ≤ sink.room
    · have onward : second.length ≤ sink.room - first.length ↔
          first.length + second.length ≤ sink.room := by omega
      simp only [fits, onward, if_true, Option.none_or]
    · have long : ¬first.length + second.length ≤ sink.room := by omega
      simp only [fits, long, if_false, Option.some_or]

theorem after_append (sink : Sink) (first second : Text) :
    sink.after (first ++ second) = (sink.after first).after second := by
  cases broken : sink.writeFault with
  | none => simp [after, broken]
  | some fault => simp [after, broken, Nat.sub_sub]

/-- The first line fits, and of the second a part. -/
example :
    let sink : Sink := { writeFault := some (.custom (Text.ofString "full")), room := 3 }
    sink.fault? ['a', '\n'] = none ∧ (sink.after ['a', '\n']).taken ['b', '\n'] = ['b'] := by
  decide

/-- Neither writing to the stream fails nor flushing it. -/
def Works (sink : Sink) : Prop :=
  sink.writeFault = none ∧ sink.flushFault = none

/-- A stream whose writes fail always or never. -/
def IsSteady (sink : Sink) : Prop :=
  sink.writeFault = none ∨ sink.room = 0

theorem IsSteady.after {sink : Sink} (steady : sink.IsSteady) (text : Text) :
    (sink.after text).IsSteady := by
  rcases steady with working | full
  · exact .inl ((writeFault_after sink text).trans working)
  · rw [after_of_full full]
    exact .inr full

end Sink

/-! ## The console -/

namespace Console

@[simp] theorem setSink_sink (console : Console) (stream : Stream) :
    console.setSink stream (console.sink stream) = console := by
  cases stream <;> rfl

/-- Writing uses up a stream and leaves both with the faults they have. -/
theorem faults_write (console : Console) (stream other : Stream) (text : Text) :
    ((console.write stream text).2.sink other).writeFault = (console.sink other).writeFault ∧
      ((console.write stream text).2.sink other).flushFault =
        (console.sink other).flushFault := by
  have kept : ∀ (console : Console) taken,
      (console.recordWritten stream taken).sink other = console.sink other := by
    intro console taken
    unfold recordWritten
    split
    · rfl
    · cases other <;> rfl
  rw [write, kept]
  cases stream <;> cases other <;> simp [setSink, sink]

/-- Nothing but what has been written to the stream is recorded. -/
theorem transcript_write (console : Console) (stream : Stream) (text : Text) :
    ∃ events : List Event,
      (console.write stream text).2.transcript = console.transcript ++ events ∧
        ∀ event ∈ events, ∃ taken, event = .written stream taken := by
  have same : ∀ sink, (console.setSink stream sink).transcript = console.transcript := by
    cases stream <;> exact fun _ => rfl
  unfold write recordWritten
  dsimp only
  split
  · exact ⟨[], by rw [same, List.append_nil], by simp⟩
  · exact ⟨[_], by rw [transcript_record, same], by simp⟩

theorem write_of_working {console : Console} {stream : Stream}
    (working : (console.sink stream).writeFault = none) {text : Text} (inhabited : text ≠ []) :
    console.write stream text = (none, console.record (.written stream text)) := by
  simp [write, recordWritten, Sink.fault?_of_working working, Sink.taken_of_working working,
    Sink.after_of_working working, inhabited]

theorem write_of_full {console : Console} {stream : Stream} {fault : Fault}
    (broken : (console.sink stream).writeFault = some fault)
    (full : (console.sink stream).room = 0) {text : Text} (inhabited : text ≠ []) :
    console.write stream text = (some fault, console) := by
  simp [write, recordWritten, Sink.fault?_of_full broken full inhabited,
    Sink.taken_of_full broken full, Sink.after_of_full full]

/-- The console with these events behind it. -/
def behind (earlier : List Event) (console : Console) : Console :=
  { console with latest := console.latest ++ earlier }

theorem write_behind (earlier : List Event) (console : Console) (stream : Stream) (text : Text) :
    (console.behind earlier).write stream text =
      ((console.write stream text).1, (console.write stream text).2.behind earlier) := by
  have sinks : (console.behind earlier).sink stream = console.sink stream := by
    cases stream <;> rfl
  have replaced : ∀ sink, (console.behind earlier).setSink stream sink =
      (console.setSink stream sink).behind earlier := by
    cases stream <;> exact fun _ => rfl
  have noted : ∀ (console : Console) taken,
      (console.behind earlier).recordWritten stream taken =
        (console.recordWritten stream taken).behind earlier := by
    intro console taken
    unfold recordWritten
    split <;> rfl
  simp only [write, sinks, replaced, noted]

/-- What a diagnostic leaves in the console: as much of it as is taken, and a warning if
that is not the whole. -/
def diagnosed (console : Console) (text : Text) : Console :=
  match console.write .error text with
  | (none, after) => after
  | (some fault, after) =>
    after.record
      (.logged (.warning (Text.ofString "failed to write diagnostic: " ++ fault.message)))

theorem diagnosed_behind (earlier : List Event) (console : Console) (text : Text) :
    (console.behind earlier).diagnosed text = (console.diagnosed text).behind earlier := by
  rw [diagnosed, write_behind, diagnosed]
  rcases console.write .error text with ⟨_ | fault, after⟩ <;> rfl

/-- What a diagnostic leaves does not depend on what has been written before. -/
theorem diagnosed_eq (console : Console) (text : Text) :
    console.diagnosed text =
      (Console.diagnosed { console with latest := [] } text).behind console.latest :=
  diagnosed_behind console.latest { console with latest := [] } text

end Console

namespace Shell

/-! ## Text for a stream -/

/-- The shell after a text has used up its part of a stream. -/
def use (shell : Shell) (stream : Stream) (text : Text) : Shell :=
  { shell with
    console :=
      shell.console.setSink stream ((shell.console.sink stream).after text) }

def recordWritten (shell : Shell) (stream : Stream) (text : Text) : Shell :=
  { shell with console := shell.console.recordWritten stream text }

theorem write_eq (shell : Shell) (stream : Stream) (text : Text) :
    shell.write stream text =
      ((shell.console.sink stream).fault? text,
        (shell.use stream text).recordWritten stream
          ((shell.console.sink stream).taken text)) := rfl

theorem write_nil (shell : Shell) (stream : Stream) : shell.write stream [] = (none, shell) := by
  simp [write, Console.write, Console.recordWritten]

theorem write_of_full {shell : Shell} {stream : Stream} {fault : Fault}
    (broken : (shell.console.sink stream).writeFault = some fault)
    (full : (shell.console.sink stream).room = 0) {text : Text}
    (inhabited : text ≠ []) : shell.write stream text = (some fault, shell) := by
  simp [write, Console.write_of_full broken full inhabited]

theorem write_of_working {shell : Shell} {stream : Stream}
    (working : (shell.console.sink stream).writeFault = none) {text : Text}
    (inhabited : text ≠ []) :
    shell.write stream text = (none, shell.record (.written stream text)) := by
  simp [write, Console.write_of_working working inhabited, record]

theorem write_session (shell : Shell) (stream : Stream) (text : Text) :
    (shell.write stream text).2.session = shell.session := rfl

/-! ## Diagnostics -/

theorem diagnostic_ne_nil (session : Session) (command : Option Text) (message : Text) :
    diagnostic session command message ≠ [] := by
  cases command <;> simp [diagnostic]

def countComplaint (shell : Shell) : Shell :=
  { shell with session := { shell.session with complaints := shell.session.complaints + 1 } }

theorem report_of_full {shell : Shell} {fault : Fault}
    (broken : shell.console.error.writeFault = some fault) (full : shell.console.error.room = 0)
    (command : Option Text) (message : Text) :
    shell.report command message = (some fault, shell.countComplaint) := by
  have counted : (shell.countComplaint.console.sink .error).writeFault = some fault := broken
  exact write_of_full counted full (diagnostic_ne_nil shell.session command message)

theorem report_of_working {shell : Shell} (working : shell.console.error.writeFault = none)
    (command : Option Text) (message : Text) :
    shell.report command message =
      (none,
        shell.countComplaint.record
          (.written .error (diagnostic shell.session command message))) := by
  have counted : (shell.countComplaint.console.sink .error).writeFault = none := working
  exact write_of_working counted (diagnostic_ne_nil shell.session command message)

theorem reportOrWarn_of_working {shell : Shell} (working : shell.console.error.writeFault = none)
    (command : Option Text) (message : Text) :
    shell.reportOrWarn command message =
      shell.countComplaint.record
        (.written .error (diagnostic shell.session command message)) := by
  rw [reportOrWarn, report_of_working working]

theorem reportOrWarn_of_full {shell : Shell} {fault : Fault}
    (broken : shell.console.error.writeFault = some fault) (full : shell.console.error.room = 0)
    (command : Option Text) (message : Text) :
    shell.reportOrWarn command message =
      shell.countComplaint.warn
        (Text.ofString "failed to write diagnostic: " ++ fault.message) := by
  rw [reportOrWarn, report_of_full broken full]

theorem reportOrWarn_eq (shell : Shell) (command : Option Text) (message : Text) :
    shell.reportOrWarn command message =
      { shell.countComplaint with
        console := shell.console.diagnosed (diagnostic shell.session command message) } := by
  have written : shell.report command message =
      ((shell.console.write .error (diagnostic shell.session command message)).1,
        { shell.countComplaint with
          console :=
            (shell.console.write .error (diagnostic shell.session command message)).2 }) := rfl
  rw [reportOrWarn, written, Console.diagnosed]
  rcases shell.console.write .error (diagnostic shell.session command message) with
    ⟨_ | fault, after⟩ <;> rfl

/-- What counting, writing and warning keep, a diagnostic keeps. -/
theorem reportOrWarn_keeps {Holds : Shell → Prop} {shell : Shell}
    (counted : Holds shell.countComplaint)
    (write : ∀ {shell}, Holds shell → ∀ text, Holds (shell.write .error text).2)
    (warn : ∀ {shell}, Holds shell → ∀ message, Holds (shell.warn message))
    (command : Option Text) (message : Text) : Holds (shell.reportOrWarn command message) := by
  have reported : Holds (shell.report command message).2 := write counted _
  unfold reportOrWarn
  split
  next after same => simpa [same] using reported
  next fault after same =>
    rw [same] at reported
    exact warn reported _

/-! ## What depends on a write -/

/-- A command goes on after a write, unless the write has failed. -/
def afterWriting (next : Shell → Attempt) : Option Fault × Shell → Attempt
  | (none, shell) => next shell
  | (some fault, shell) => (.error (.output fault), shell)

@[simp] theorem afterWriting_none (next : Shell → Attempt) (shell : Shell) :
    afterWriting next (none, shell) = next shell := rfl

@[simp] theorem afterWriting_some (next : Shell → Attempt) (fault : Fault) (shell : Shell) :
    afterWriting next (some fault, shell) = (.error (.output fault), shell) := rfl

theorem print_eq (shell : Shell) (text : Text) :
    shell.print text =
      afterWriting (fun shell => (.ok (.status 0), shell)) (shell.write .output text) := rfl

theorem complain_eq (builtin : Builtin) (failure : Failure) (shell : Shell) :
    complain builtin failure shell =
      afterWriting (fun shell => (.ok (.status failure.status), shell))
        (shell.report (some builtin.name) failure.message) := rfl

theorem serveOperands_defined {shell : Shell} {name value : Text}
    (found : shell.session.aliases.get? name = some value) (status : Int)
    (rest : List Aliases.Operand) :
    serveOperands status (.display name :: rest) shell =
      afterWriting (serveOperands status rest)
        (shell.write .output (Aliases.describe name value ++ ['\n'])) := by
  simp only [serveOperands, found]
  rfl

/-- What `alias` says of a name that has no value. -/
def undefinedName (name : Text) : Text :=
  name ++ Text.ofString " not found"

theorem serveOperands_undefined {shell : Shell} {name : Text}
    (missing : shell.session.aliases.get? name = none) (status : Int)
    (rest : List Aliases.Operand) :
    serveOperands status (.display name :: rest) shell =
      afterWriting (serveOperands 1 rest)
        (shell.report (some Builtin.aliases.name) (undefinedName name)) := by
  simp only [serveOperands, missing]
  rfl

end Shell

/-! ## The details of the log -/

def Event.isDetail : Event → Bool
  | .logged (.detail _) => true
  | _ => false

namespace Shell

/-- The shell with the details of the log left out of its transcript. -/
def withoutDetails (shell : Shell) : Shell :=
  { shell with
    console :=
      { shell.console with latest := shell.console.latest.filter fun event => !event.isDetail } }

end Shell

end CommandShell
