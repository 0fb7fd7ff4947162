import CommandShell.World

namespace CommandShell.CommandSearch

/-! The name of a command leads to a program: directly where it holds a slash,
and otherwise through the directories of the search path. -/

inductive Result where
  | program (path : Text)
  /-- Something is there which is not a program. -/
  | obstacle (path : Text)
  | nothing
  deriving DecidableEq, Repr

/-- The directories of a search path. An empty one means the working directory. -/
def directories (search : Text) : List Text :=
  (Cut.all ':' search).map fun directory => if directory.isEmpty then ['.'] else directory

def candidates (search name : Text) : List Text :=
  (directories search).map fun directory => FileTree.join directory name

def inDirectories (world : World) (search name : Text) : Option Text :=
  (candidates search name).find? world.isExecutable

def direct (world : World) (name : Text) : Result :=
  if world.isExecutable name then .program name
  else if world.holds name then .obstacle name
  else .nothing

/-- What a name leads to. Without a search path, only names with a slash lead
anywhere. -/
def find (world : World) (search : Option Text) (name : Text) : Result :=
  if name.isEmpty then .nothing
  else if name.contains '/' then direct world name
  else
    match search.bind fun search => inDirectories world search name with
    | some path => .program path
    | none => .nothing

end CommandShell.CommandSearch
