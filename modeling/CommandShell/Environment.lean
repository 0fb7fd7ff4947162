import CommandShell.Cut
import CommandShell.Store
import CommandShell.Text.Utf8

namespace CommandShell

/-! The environment names the values that commands and references see. Programs
receive it as strings `name=value`, which they cut at the first sign. -/

abbrev Environment := Store Text Text

namespace Environment

def strings (environment : Environment) : List Text :=
  environment.entries.map fun (name, value) => name ++ '=' :: value

/-! ## From a process

A process is started with strings of bytes. The sign that ends a name is looked
for after the first byte, so a name may begin with the sign, and a string without
one is passed over. Bytes that are not text are replaced. -/

def ofProcessString : Bytes → Option (Text × Text)
  | [] => none
  | first :: rest =>
    (Cut.once 0x3D rest).map fun (name, value) =>
      (Utf8.decodeLossy (first :: name), Utf8.decodeLossy value)

/-- Two names that read alike are one name, with the value of the later string. -/
def ofProcess (strings : List Bytes) : Environment :=
  Store.ofList (strings.filterMap ofProcessString)

/-- The bytes behind a name and the sign, in the first string that begins with
these. -/
def processValue? (name : Text) (strings : List Bytes) : Option Bytes :=
  strings.findSome? ((Utf8.encode name ++ [0x3D]).isPrefixOf? ·)

/-! ## For a program

A program that is started takes its strings apart, keeps the last value of each
name, and lists the names in increasing order. -/

/-- Whether one name comes no later than another, by code points. -/
def nameOrder : Text → Text → Bool
  | [], _ => true
  | _ :: _, [] => false
  | left :: lefts, right :: rights =>
    if left = right then nameOrder lefts rights else left.toNat < right.toNat

/-- Leaves out each pair that has the name of the pair before it. -/
def firstOfEach : List (Text × Text) → List (Text × Text)
  | one :: two :: rest =>
    if one.1 = two.1 then firstOfEach (one :: rest) else one :: firstOfEach (two :: rest)
  | pairs => pairs
termination_by pairs => pairs.length

/-- The pairs a program sees. Equal names keep their order when they are sorted,
so that with the list turned round the last value of a name comes first. -/
def received (strings : List Text) : List (Text × Text) :=
  firstOfEach <|
    (strings.filterMap (Cut.once '=')).reverse.mergeSort fun one two => nameOrder one.1 two.1

end Environment

end CommandShell
