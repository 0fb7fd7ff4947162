import CommandShell.Proofs.Submissions

namespace CommandShell.Shell

/-! Two shells side by side over whole runs. A relation that the steps of a chain maintain
is maintained by runs, if what happens between two lines maintains it as well. -/

structure RunSimulation (Related : Shell → Shell → Prop) : Prop extends
    Simulation Related where
  reports : ReportsAgree Related
  settings : ∀ {left right}, Related left right → left.settings = right.settings
  remember : ∀ {left right}, Related left right → ∀ line,
    Related (left.remember line) (right.remember line)
  count : ∀ {left right}, Related left right → Related left.countLine right.countLine
  input : ∀ {left right}, Related left right → ∀ input,
    Related (left.withInput input) (right.withInput input)

namespace RunSimulation

variable {Related : Shell → Shell → Prop} {left right : Shell}

theorem submit (simulation : RunSimulation Related) (related : Related left right)
    (line : Text) : Agree Related (left.submit line) (right.submit line) := by
  cases split : Chain.ofLine line with
  | error operator =>
    have logged := simulation.log related (.trailingOperator operator.symbol)
    have reported := simulation.reportOrWarn logged none
      (Failure.unexpected operator.symbol).message
    simp only [Shell.submit, split]
    exact ⟨rfl, simulation.conclude reported (.status 2)⟩
  | ok segments =>
    have logged := simulation.log related (.split line segments.length)
    cases segments with
    | nil =>
      simp only [Shell.submit, split]
      exact ⟨rfl, logged⟩
    | cons first rest =>
      have begun : Related (left.begin line (first :: rest)) (right.begin line (first :: rest)) :=
        simulation.remember logged line
      have inhabited := List.cons_ne_nil first rest
      rw [submit_chain split inhabited, submit_chain split inhabited]
      exact simulation.chain_of_reportsAgree simulation.reports (first :: rest) begun

theorem flush (simulation : RunSimulation Related) (related : Related left right) :
    Related left.flush right.flush := by
  unfold Shell.flush
  rw [(simulation.seen related).flushFault]
  cases right.console.flushFault? with
  | none => exact related
  | some fault => exact simulation.record related _

theorem invite (simulation : RunSimulation Related) (related : Related left right) :
    Related left.invite right.invite := by
  unfold Shell.invite
  rw [simulation.settings related]
  exact simulation.record (simulation.flush related) _

theorem accept (simulation : RunSimulation Related) (related : Related left right)
    (line : Text) : Related (left.accept line) (right.accept line) := by
  unfold Shell.accept
  dsimp only
  split
  · exact simulation.count related
  · exact simulation.record (simulation.count related) _

theorem breakLine (simulation : RunSimulation Related) (related : Related left right) :
    Related left.breakLine right.breakLine := by
  unfold Shell.breakLine
  rw [simulation.settings related]
  split
  · have printed := simulation.print related ['\n']
    rcases leftWrite : left.write .output ['\n'] with ⟨answer, leftAfter⟩
    rcases rightWrite : right.write .output ['\n'] with ⟨other, rightAfter⟩
    rw [leftWrite, rightWrite] at printed
    rcases printed with ⟨⟨⟩, written⟩
    cases answer with
    | none => exact written
    | some fault => exact simulation.record written _
  · exact related

/-- A reading leads on alike, and ends both runs or none. -/
theorem take (simulation : RunSimulation Related) (related : Related left right)
    (reading : Reading) :
    left.endsWith reading = right.endsWith reading ∧
      Related (left.take reading).2 (right.take reading).2 := by
  cases reading with
  | line line =>
    have submitted := simulation.submit (simulation.accept related line) line
    rw [RunInvariant.take_line, RunInvariant.take_line]
    exact ⟨congrArg Option.isSome submitted.answer, submitted.related⟩
  | interrupt => exact ⟨rfl, simulation.breakLine related⟩
  | endOfInput => exact ⟨rfl, simulation.breakLine related⟩
  | failure message => exact ⟨rfl, simulation.breakLine (simulation.record related _)⟩

theorem takeAll (simulation : RunSimulation Related) (related : Related left right)
    (readings : List Reading) :
    Related (Shell.takeAll readings left) (Shell.takeAll readings right) := by
  induction readings generalizing left right with
  | nil => exact (simulation.take (simulation.invite related) .endOfInput).2
  | cons reading rest induction =>
    rcases simulation.take (simulation.invite related) reading with ⟨ends, taken⟩
    rw [takeAll_cons, takeAll_cons, ends]
    split
    · exact taken
    · exact induction taken

theorem hear (simulation : RunSimulation Related) (related : Related left right)
    (reader : LineReader) :
    (left.hear reader).isLast = (right.hear reader).isLast ∧
      (left.hear reader).onward = (right.hear reader).onward ∧
      Related (left.hear reader).after (right.hear reader).after := by
  have invited := simulation.invite related
  have readers : (left.hear reader).reader = (right.hear reader).reader := by
    unfold Shell.hear
    rw [(simulation.seen invited).world]
  have heard : Related (left.hear reader).shell (right.hear reader).shell := by
    unfold Shell.hear
    rw [(simulation.seen invited).world]
    exact simulation.input invited _
  have taken := simulation.take heard (left.hear reader).reading
  rw [Hearing.isLast, Hearing.isLast, Hearing.onward, Hearing.onward, Hearing.after,
    Hearing.after]
  rw [Hearing.reading, readers] at taken
  rw [Hearing.reading, Hearing.reading, readers]
  exact ⟨taken.1, rfl, taken.2⟩

theorem takeInput (simulation : RunSimulation Related) (related : Related left right)
    (limit : Nat) (reader : LineReader) :
    Related (Shell.takeInput limit reader left) (Shell.takeInput limit reader right) := by
  induction limit generalizing left right reader with
  | zero => exact related
  | succ limit induction =>
    rcases simulation.hear related reader with ⟨ends, onward, taken⟩
    rw [takeInput_succ, takeInput_succ, ends, onward]
    split
    · exact taken
    · exact induction taken _

/-- Runs lead on alike, wherever their lines come from. -/
theorem drain (simulation : RunSimulation Related) (related : Related left right)
    (source : Source) : Related (left.drain source) (right.drain source) := by
  cases source with
  | listed readings => exact simulation.takeAll related readings
  | standardInput decoding =>
    unfold Shell.drain
    rw [(simulation.seen related).world]
    exact simulation.takeInput related _ _

end RunSimulation

end CommandShell.Shell
