import CommandShell.Proofs.Simulation
import Mathlib.Data.List.Forall2

namespace CommandShell

/-! Two lines joined by `;` do what the two lines do one after the other. The history
alone tells them apart: it holds the joined line in place of both, and so does what
the builtin `history` lists. -/

namespace Shell

/-! ## Chains in a row -/

theorem chain_append (first second : Chain) (shell : Shell) :
    chain (first ++ second) shell =
      match chain first shell with
      | (none, after) => chain second after
      | (some code, after) => (some code, after) := by
  induction first generalizing shell with
  | nil => rfl
  | cons segment rest induction =>
    rw [List.cons_append]
    cases runs : segment.runsAfter shell.session.status with
    | false =>
      rw [(chain_of_idle rest runs).1, (chain_of_idle (rest ++ second) runs).1]
      exact induction _
    | true =>
      rcases run : shell.segment segment with ⟨status | code, after⟩
      · rw [(chain_of_status rest runs run).1, (chain_of_status (rest ++ second) runs run).1]
        exact induction _
      · rw [(chain_of_exit rest runs run).1, (chain_of_exit (rest ++ second) runs run).1]

/-- After `;` the first command of a chain runs as if it stood alone. -/
theorem chain_joinedBy_sequence {first : Segment} {rest : Chain} (opening : first.operator = none)
    (shell : Shell) :
    chain (Chain.joinedBy .sequence (first :: rest)) shell = chain (first :: rest) shell := by
  have runs : first.runsAfter shell.session.status = true := by
    rw [Segment.runsAfter, opening]
  have runsToo : Segment.runsAfter { first with operator := some .sequence }
      shell.session.status = true := rfl
  have same : shell.segment { first with operator := some .sequence } = shell.segment first := rfl
  rw [Chain.joinedBy]
  rcases run : shell.segment first with ⟨status | code, after⟩
  · rw [(chain_of_status rest runs run).1, (chain_of_status rest runsToo (same.trans run)).1]
  · rw [(chain_of_exit rest runs run).1, (chain_of_exit rest runsToo (same.trans run)).1]

end Shell

/-! ## The same but for the history -/

/-- The same event, or two listings: on the left of one history, on the right of one
among several. -/
inductive Event.SameButListing (joined : History) (separate : List History) :
    Event → Event → Prop
  | same (event : Event) : SameButListing joined separate event event
  | listing (history : History) (among : history ∈ separate) :
    SameButListing joined separate (.written .output (Shell.historyListing joined))
      (.written .output (Shell.historyListing history))

namespace Shell

/-- All there is to a shell but its history and its transcript. -/
def frame (shell : Shell) : Shell :=
  { shell with
    session := { shell.session with history := {} }
    console := { shell.console with latest := [] } }

/-- The two shells have these histories, their transcripts differ, the details of the
log apart, at most in listings of the history, and there is no other difference. Of the
output they write to, listings of any length leave the same. -/
structure SameButHistory (joined current : History) (separate : List History)
    (left right : Shell) : Prop where
  frame : left.frame = right.frame
  leftHistory : left.session.history = joined
  rightHistory : right.session.history = current
  steady : right.console.output.IsSteady
  latest : List.Forall₂ (Event.SameButListing joined separate) left.withoutDetails.console.latest
    right.withoutDetails.console.latest

namespace SameButHistory

variable {joined current : History} {separate : List History} {left right : Shell}

theorem sink (same : SameButHistory joined current separate left right) (stream : Stream) :
    left.console.sink stream = right.console.sink stream := by
  have sinks := congrArg (fun shell => shell.console.sink stream) same.frame
  cases stream <;> exact sinks

theorem recorded (same : SameButHistory joined current separate left right)
    {leftEvent rightEvent : Event}
    (alike : Event.SameButListing joined separate leftEvent rightEvent) :
    SameButHistory joined current separate (left.record leftEvent) (right.record rightEvent) := by
  refine ⟨same.frame, same.leftHistory, same.rightHistory, same.steady, ?_⟩
  have latest := same.latest
  cases alike with
  | same =>
    cases detail : leftEvent.isDetail with
    | true => simpa [withoutDetails, record, Console.record, detail] using latest
    | false =>
      have longer := List.Forall₂.cons (Event.SameButListing.same leftEvent) latest
      simpa [withoutDetails, record, Console.record, detail] using longer
  | listing history among => exact .cons (.listing history among) latest

theorem used (same : SameButHistory joined current separate left right) (stream : Stream)
    (text : Text) :
    SameButHistory joined current separate (left.use stream text) (right.use stream text) := by
  have frames := congrArg (fun shell => shell.use stream text) same.frame
  cases stream with
  | output =>
    refine ⟨frames, same.leftHistory, same.rightHistory, ?_, same.latest⟩
    exact same.steady.after text
  | error => exact ⟨frames, same.leftHistory, same.rightHistory, same.steady, same.latest⟩

theorem written (same : SameButHistory joined current separate left right) (stream : Stream)
    (text : Text) :
    Agree (SameButHistory joined current separate) (left.write stream text)
      (right.write stream text) := by
  have used := same.used stream text
  rw [write_eq, write_eq, same.sink]
  refine ⟨rfl, ?_⟩
  unfold recordWritten Console.recordWritten
  split
  · exact used
  · exact used.recorded (.same _)

/-- Listings of different lengths leave the output the same, since they cannot fill it. -/
theorem listed (same : SameButHistory joined current separate left right) {history : History}
    (among : history ∈ separate) (inhabited : historyListing joined ≠ [])
    (inhabitedToo : historyListing history ≠ []) :
    Agree (SameButHistory joined current separate) (left.write .output (historyListing joined))
      (right.write .output (historyListing history)) := by
  have alike := same.sink .output
  cases broken : (right.console.sink .output).writeFault with
  | some fault =>
    have full : (right.console.sink .output).room = 0 :=
      same.steady.resolve_left fun works => Option.some_ne_none fault (broken.symm.trans works)
    have brokenToo := (congrArg Sink.writeFault alike).trans broken
    have fullToo := (congrArg Sink.room alike).trans full
    rw [write_of_full broken full inhabitedToo, write_of_full brokenToo fullToo inhabited]
    exact ⟨rfl, same⟩
  | none =>
    have worksToo := (congrArg Sink.writeFault alike).trans broken
    rw [write_of_working broken inhabitedToo, write_of_working worksToo inhabited]
    exact ⟨rfl, same.recorded (.listing history among)⟩

theorem counted (same : SameButHistory joined current separate left right) :
    SameButHistory joined current separate left.countComplaint right.countComplaint :=
  ⟨congrArg countComplaint same.frame, same.leftHistory, same.rightHistory, same.steady,
    same.latest⟩

theorem diagnostic (same : SameButHistory joined current separate left right)
    (command : Option Text) (message : Text) :
    diagnostic left.session command message = diagnostic right.session command message := by
  have texts := congrArg (fun shell => Shell.diagnostic shell.session command message) same.frame
  cases command <;> exact texts

theorem reported (same : SameButHistory joined current separate left right)
    (command : Option Text) (message : Text) :
    Agree (SameButHistory joined current separate) (left.report command message)
      (right.report command message) := by
  rw [report, report, same.diagnostic]
  exact same.counted.written .error _

end SameButHistory

theorem historyListing_push_ne_nil (history : History) (text : Text) :
    historyListing (history.push text) ≠ [] := by
  simp [historyListing, History.entries, List.zipIdx_append]

/-- Where both histories have been added to, commands do not tell the shells apart. -/
theorem simulation_sameButHistory (before history : History) (line text : Text)
    (separate : List History) (among : history.push text ∈ separate) :
    Simulation (SameButHistory (before.push line) (history.push text) separate) where
  seen := by
    intro left right same
    have seen : SeenAlike left.frame right.frame := by
      rw [same.frame]
      exact .refl right.frame
    exact ⟨seen.environment, seen.aliases, seen.previousDirectory, seen.processId, seen.world,
      seen.flushFault⟩
  record := fun same event => same.recorded (.same event)
  print := fun same text => same.written .output text
  listHistory := by
    intro left right same
    rw [same.leftHistory, same.rightHistory]
    exact same.listed among (historyListing_push_ne_nil before line)
      (historyListing_push_ne_nil history text)
  revise := fun same environment aliases previousDirectory world =>
    ⟨congrArg (fun shell => shell.revise environment aliases previousDirectory world) same.frame,
      same.leftHistory, same.rightHistory, same.steady, same.latest⟩
  reportOrWarn := fun same command message =>
    (same.reported command message).warned fun same event => same.recorded (.same event)
  status := by
    intro left right same
    have statuses := congrArg (fun shell => shell.session.status) same.frame
    exact statuses
  conclude := by
    intro left right same outcome
    have frame := congrArg (fun shell => shell.conclude outcome) same.frame
    cases outcome <;>
      exact ⟨frame, same.leftHistory, same.rightHistory, same.steady, same.latest⟩

theorem reportsAgree_sameButHistory (joined current : History) (separate : List History) :
    ReportsAgree (SameButHistory joined current separate) :=
  fun _ _ same command message => same.reported command message

/-! ## Lines in a row -/

/-- Submits two lines, the second unless the first has ended the session. -/
def submitBoth (shell : Shell) (one two : Text) : Option Int × Shell :=
  match shell.submit one with
  | (none, after) => after.submit two
  | (some code, after) => (some code, after)

def historiesAfter (history : History) (one two : Text) : List History :=
  [history.push one, (history.push one).push two]

/-- The last history after two lines of which the first had this answer. -/
def historyAfterBoth (history : History) (one two : Text) : Option Int → History
  | none => (history.push one).push two
  | some _ => history.push one

theorem sameButHistory_begin {shell : Shell} (steady : shell.console.output.IsSteady)
    (separate : List History) (line one : Text) (segments first : Chain) :
    SameButHistory (shell.session.history.push line) (shell.session.history.push one) separate
      (shell.begin line segments) (shell.begin one first) := by
  refine ⟨rfl, rfl, rfl, steady, ?_⟩
  exact List.forall₂_same.mpr fun event _ => .same event

theorem SameButHistory.begin {joined current : History} {separate : List History}
    {left right : Shell} (same : SameButHistory joined current separate left right) (two : Text)
    (second : Chain) :
    SameButHistory joined (current.push two) separate left (right.begin two second) :=
  ⟨same.frame, same.leftHistory, congrArg (·.push two) same.rightHistory, same.steady,
    same.latest⟩

/-- A `;` between two lines makes one line that does what they do one after the other,
provided that the first has no comment and the second does not open with an operator, and
that writing to the output fails always or never.
The answers are the same and so are all effects, but for the history: it holds the line
where it would hold the two, and is listed that way. -/
theorem submit_joinLines {shell : Shell} {one two : Text} {first second : Chain}
    (steady : shell.console.output.IsSteady)
    (splitOne : Chain.ofLine one = .ok first) (someFirst : first ≠ [])
    (splitTwo : Chain.ofLine two = .ok second) (someSecond : second ≠ [])
    (free : Chain.IsFree one) (opens : ¬Chain.OpensWithOperator two) :
    Agree
      (SameButHistory (shell.session.history.push (Chain.joinLines .sequence one two))
        (historyAfterBoth shell.session.history one two (shell.submit one).1)
        (historiesAfter shell.session.history one two))
      (shell.submit (Chain.joinLines .sequence one two)) (shell.submitBoth one two) := by
  have splitLine :=
    Chain.ofLine_joinLines .sequence splitOne someFirst splitTwo someSecond free opens
  have someLine : first ++ Chain.joinedBy .sequence second ≠ [] := by simp [someFirst]
  let line := Chain.joinLines .sequence one two
  let history := shell.session.history
  let separate := historiesAfter history one two
  unfold submitBoth
  rw [submit_chain splitLine someLine, submit_chain splitOne someFirst, chain_append]
  have begun := sameButHistory_begin steady separate line one
    (first ++ Chain.joinedBy .sequence second) first
  have simulationOne := simulation_sameButHistory history history line one separate
    (by simp [separate, historiesAfter])
  have ran := simulationOne.chain_of_reportsAgree (reportsAgree_sameButHistory _ _ _) first begun
  rcases leftRun : chain first (shell.begin line (first ++ Chain.joinedBy .sequence second))
    with ⟨answer, leftAfter⟩
  rcases rightRun : chain first (shell.begin one first) with ⟨other, rightAfter⟩
  rw [leftRun, rightRun] at ran
  rcases ran with ⟨⟨⟩, same⟩
  cases answer with
  | some code => exact ⟨rfl, same⟩
  | none =>
    cases second with
    | nil => exact absurd rfl someSecond
    | cons opening rest =>
      have operators := Chain.operators_of_ofLine splitTwo
      have simulationTwo := simulation_sameButHistory history (history.push one) line two separate
        (by simp [separate, historiesAfter])
      have begunTwo := same.begin two (opening :: rest)
      simp only [submit_chain splitTwo someSecond, chain_joinedBy_sequence operators.1]
      exact simulationTwo.chain_of_reportsAgree (reportsAgree_sameButHistory _ _ _)
        (opening :: rest) begunTwo

/-- The first line lists the history, the second asks for the end of the session. -/
theorem submit_joinLines_of_listing :
    let shell : Shell :=
      { settings := { mode := .standardInput }
        session := .ofEnvironment .empty [] 7
        world := { files := .empty } }
    let one := Text.ofString "history"
    let two := Text.ofString "exit 300 && history # over"
    let joined := shell.submit (Chain.joinLines .sequence one two)
    let separate := shell.submitBoth one two
    Chain.joinLines .sequence one two = Text.ofString "history ; exit 300 && history # over" ∧
      joined.1 = separate.1 ∧ separate.1 = some 44 ∧
      joined.2.session.history.texts = [Chain.joinLines .sequence one two] ∧
      separate.2.session.history.texts = [one, two] := by
  intro shell one two joined separate
  have agree := @submit_joinLines shell one two [⟨none, one⟩]
    [⟨none, Text.ofString "exit 300"⟩, ⟨some .and, Text.ofString "history"⟩]
    (.inl rfl) (by decide +kernel) (by decide) (by decide +kernel) (by decide)
    (by decide +kernel) (by decide +kernel)
  exact ⟨by decide +kernel, agree.answer, by decide +kernel, by decide +kernel, by decide +kernel⟩

end Shell

end CommandShell
