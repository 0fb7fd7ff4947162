import CommandShell.History
import CommandShell.World

namespace CommandShell.HistoryFile

/-! The history between two sessions: it is read in full when a session begins
and written in full when it ends. -/

/-- The history in a file, or `none` where there is no such file yet. -/
def load (world : World) (path : Text) : Except Fault (Option History) :=
  match world.read path with
  | .ok bytes => .ok (some (.ofContents bytes))
  | .error fault => if fault.isMissing then .ok none else .error fault

/-- Replaces the contents of the file by the newest entries. -/
def save (world : World) (path : Text) (history : History) (limit : Nat) :
    Except Fault World :=
  world.write path (history.contents limit)

end CommandShell.HistoryFile
