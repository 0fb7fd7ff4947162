import CommandShell.Proofs.Interruptions
import CommandShell.Proofs.Requests

namespace CommandShell

/-! The lines that a run hands over for execution, each with the shell that executes it. -/

namespace Shell

/-! ## The standard input -/

/-- A reading of the standard input that is about to be taken: the reader with all that the
input still holds, and the shell without what the reader fetches of it. -/
structure Hearing where
  reader : LineReader
  shell : Shell

namespace Hearing

def reading (hearing : Hearing) : Reading :=
  hearing.reader.next.1

def onward (hearing : Hearing) : LineReader :=
  hearing.reader.next.2

def after (hearing : Hearing) : Shell :=
  (hearing.shell.take hearing.reading).2

def isLast (hearing : Hearing) : Bool :=
  hearing.shell.endsWith hearing.reading

end Hearing

def hear (shell : Shell) (reader : LineReader) : Hearing :=
  let offered := { reader with deliveries := shell.invite.world.input }
  ⟨offered, shell.invite.withInput offered.next.2.deliveries⟩

/-- The readings that a run over the standard input takes. -/
def hearings : Nat → LineReader → Shell → List Hearing
  | 0, _, _ => []
  | limit + 1, reader, shell =>
    let hearing := shell.hear reader
    hearing :: if hearing.isLast then [] else hearings limit hearing.onward hearing.after

theorem takeInput_succ (limit : Nat) (reader : LineReader) (shell : Shell) :
    takeInput (limit + 1) reader shell =
      if (shell.hear reader).isLast then (shell.hear reader).after
      else takeInput limit (shell.hear reader).onward (shell.hear reader).after := by
  rw [takeInput]
  exact match_take (shell.hear reader).shell (shell.hear reader).reading
    (takeInput limit (shell.hear reader).onward)

/-! ## Submissions -/

end Shell

/-- A line that is executed, with the shell that has accepted it. -/
structure Submission where
  line : Text
  before : Shell

namespace Submission

def after (submission : Submission) : Shell :=
  (submission.before.submit submission.line).2

def answer (submission : Submission) : Option Int :=
  (submission.before.submit submission.line).1

def steps (submission : Submission) : List Step :=
  submission.before.stepsOf submission.line

/-- Whether a segment of the line has run as an `exit` that ended the session. -/
def Exits (submission : Submission) : Prop :=
  ∃ step ∈ submission.steps, ∃ code, step.request? = some code

theorem exits_iff (submission : Submission) :
    submission.Exits ↔ ∃ code, submission.answer = some code := by
  rw [Exits, answer, steps, Shell.answer_submit]
  simp only [← Option.isSome_iff_exists, List.findSome?_isSome_iff]

end Submission

namespace Shell

/-- What a reading hands over for execution. -/
def submission? (shell : Shell) : Reading → Option Submission
  | .line line => some ⟨line, shell.accept line⟩
  | .interrupt | .endOfInput | .failure _ => none

def Hearing.submission? (hearing : Hearing) : Option Submission :=
  hearing.shell.submission? hearing.reading

/-- What a run hands over for execution. -/
def submissions (shell : Shell) : Source → List Submission
  | .listed readings =>
    (takings readings shell).filterMap fun taking =>
      taking.before.invite.submission? taking.reading
  | .standardInput decoding =>
    (hearings (shell.world.input.flatten.length + 1) ⟨[], [], .finished, decoding⟩ shell).filterMap
      Hearing.submission?

end Shell

end CommandShell
