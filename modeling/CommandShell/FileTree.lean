import CommandShell.Cut
import CommandShell.Fault
import CommandShell.Program
import CommandShell.Store

namespace CommandShell

/-! The file tree holds directories, plain files, programs and symbolic links.
A path leads from the root to one of them through directories alone; the texts
with which commands name files may also go through links, `.` and `..`. -/

abbrev Path := List Text

inductive Node where
  | directory
  | file (contents : Bytes) (permissions : Nat)
  | program (program : Program)
  | link (target : Text)
  deriving DecidableEq, Repr

namespace Node

/-- The permissions of a file that the shell creates. -/
def newPermissions : Nat := 0o644

def programPermissions : Nat := 0o755

/-- The permissions count as those of the owner, under whose name the shell runs. -/
def permissions : Node → Nat
  | .file _ permissions => permissions
  | _ => programPermissions

def isReadable (node : Node) : Bool :=
  node.permissions &&& 0o400 ≠ 0

def isWritable (node : Node) : Bool :=
  node.permissions &&& 0o200 ≠ 0

def isExecutable (node : Node) : Bool :=
  match node with
  | .file _ _ | .program _ => node.permissions &&& 0o100 ≠ 0
  | .directory | .link _ => false

def contents : Node → Bytes
  | .file contents _ => contents
  | _ => []

/-- The file after its contents have been replaced. A program that is written to
becomes a plain file which may still be executed. -/
def withContents (contents : Bytes) : Node → Node
  | .program _ => .file contents programPermissions
  | .file _ permissions => .file contents permissions
  | _ => .file contents newPermissions

end Node

/-! The root is always there and has no entry of its own. -/

abbrev FileTree := Store Path Node

/-- A directory in which one can stand. It may have been removed, and so may
directories above it; `present` is the path of the nearest one that is left and
`removed` are the names that led on from there. -/
structure Place where
  present : Path := []
  removed : Path := []
  deriving DecidableEq, Repr

namespace Place

def root : Place := {}

/-- The directory above. The root is above itself. -/
def parent (place : Place) : Place :=
  if place.removed.isEmpty then { place with present := place.present.dropLast }
  else { place with removed := place.removed.dropLast }

/-- The path of the place as a text, unless it has been removed. -/
def text? (place : Place) : Option Text :=
  if place.removed.isEmpty then
    some (if place.present.isEmpty then ['/'] else place.present.flatMap ('/' :: ·))
  else none

/-- The same place after the entry at a path has been removed. -/
def afterRemoval (path : Path) (place : Place) : Place :=
  if path.isPrefixOf place.present && !path.isEmpty then
    { present := path.dropLast
      removed := place.present.drop (path.length - 1) ++ place.removed }
  else place

end Place

inductive Located where
  | directory (place : Place)
  | entry (path : Path) (node : Node)
  /-- Nothing, in a directory that is there. -/
  | vacant (path : Path)
  deriving DecidableEq, Repr

namespace FileTree

def node? (files : FileTree) (path : Path) : Option Node :=
  if path.isEmpty then some .directory else files.get? path

/-! ## Names in a text -/

/-- A name in a directory. No slash is added to one that the directory ends in. -/
def join (directory name : Text) : Text :=
  if directory.getLast? = some '/' then directory ++ name
  else directory ++ '/' :: name

/-- The names between the slashes. An empty name at the end stands for a slash at
the end, which asks for a directory. -/
def names (text : Text) : List Text :=
  (Cut.all '/' text).filter (fun name => !name.isEmpty) ++
    if text.getLast? = some '/' then [[]] else []

/-- Where the names of a text are counted from. -/
def origin (text : Text) (place : Place) : Place :=
  if text.head? = some '/' then .root else place

def nameLimit : Nat := 255

/-- The number of bytes that a whole path must stay below. -/
def pathLimit : Nat := 4096

/-- How many links may be followed on the way to one file. -/
def linkLimit : Nat := 40

/-! ## Walking -/

inductive Purpose where
  | existing
  /-- A file, or where one is to be created. -/
  | creation
  deriving DecidableEq, Repr

/-- Follows names from a place on. At a link `follow` takes over, with the place
and the names that are then to be followed. A name with a slash behind it cannot
be that of a new file, whatever it leads to. -/
def walk (files : FileTree) (purpose : Purpose)
    (follow : Place → List Text → Except Fault Located) :
    Place → List Text → Except Fault Located
  | place, [] => .ok (.directory place)
  | place, name :: rest =>
    if name = [] ∨ name = ['.'] then walk files purpose follow place rest
    else if name = ['.', '.'] then walk files purpose follow place.parent rest
    else if purpose = .creation ∧ rest = [[]] then .error .isDirectory
    else if !place.removed.isEmpty then .error .noSuchEntry
    else if Utf8.size name > nameLimit then .error .nameTooLong
    else
      let path := place.present ++ [name]
      match files.node? path with
      | none => if rest.isEmpty then .ok (.vacant path) else .error .noSuchEntry
      | some .directory => walk files purpose follow { present := path } rest
      | some (.link target) => follow (origin target place) (names target ++ rest)
      | some node => if rest.isEmpty then .ok (.entry path node) else .error .notDirectory

/-- Follows names through fewer links than so many. -/
def followLinks (files : FileTree) (purpose : Purpose) :
    Nat → Place → List Text → Except Fault Located
  | 0 => fun _ _ => .error .tooManyLinks
  | limit + 1 => walk files purpose (followLinks files purpose limit)

/-- What a text names, seen from a place. -/
def locate (files : FileTree) (place : Place) (text : Text) (purpose : Purpose := .existing) :
    Except Fault Located :=
  if text.contains '\x00' then .error .zeroInPath
  else if text.isEmpty then .error .noSuchEntry
  else if Utf8.size text ≥ pathLimit then .error .nameTooLong
  else followLinks files purpose (linkLimit + 1) (origin text place) (names text)

/-! ## Reading and writing -/

def read (files : FileTree) (place : Place) (text : Text) : Except Fault Bytes :=
  match files.locate place text with
  | .error fault => .error fault
  | .ok (.directory _) => .error .isDirectory
  | .ok (.entry _ node) => if node.isReadable then .ok node.contents else .error .accessDenied
  | .ok (.vacant _) => .error .noSuchEntry

def write (files : FileTree) (place : Place) (text : Text) (contents : Bytes) :
    Except Fault FileTree :=
  match files.locate place text .creation with
  | .error fault => .error fault
  | .ok (.directory _) => .error .isDirectory
  | .ok (.entry path node) =>
    if node.isWritable then .ok (files.set path (node.withContents contents))
    else .error .accessDenied
  | .ok (.vacant path) => .ok (files.set path (.file contents Node.newPermissions))

/-! ## Arranging -/

/-- Goes to an entry of a directory, which is made where nothing is there. -/
def enter (files : FileTree) (place : Place) (name : Text) : FileTree × Place :=
  match files.locate place name with
  | .ok (.directory inner) => (files, inner)
  | .ok (.vacant path) => (files.set path .directory, { present := path })
  | _ => (files, place)

def enterAll (files : FileTree) (place : Place) (names : List Text) : FileTree × Place :=
  names.foldl (fun (files, place) name => files.enter place name) (files, place)

/-- Puts something at the end of the names, with the directories on the way to
it. Files are put through links, and links themselves are not. -/
def put (files : FileTree) (names : List Text) (node : Node) : FileTree :=
  let (files, place) := files.enterAll .root names.dropLast
  match names.getLast? with
  | none => files
  | some name =>
    match node with
    | .directory => (files.enter place name).1
    | .link _ => files.set (place.present ++ [name]) node
    | _ =>
      match files.locate place name with
      | .ok (.vacant path) => files.set path node
      | .ok (.entry path _) => files.set path node
      | _ => files

/-- The path of the entry that the names lead to, a link at its end not
followed. -/
def entryPath? (files : FileTree) (names : List Text) : Option Path :=
  let names := names.filter fun name => !name.isEmpty
  match names.getLast?, followLinks files .existing (linkLimit + 1) .root names.dropLast with
  | some name, .ok (.directory place) => some (place.present ++ [name])
  | _, _ => none

def remove (files : FileTree) (path : Path) : FileTree :=
  files.restrict fun other => !path.isPrefixOf other

end FileTree

end CommandShell
