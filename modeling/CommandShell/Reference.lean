import CommandShell.Text.Basic

namespace CommandShell

/-! A reference is a place in a text where a value is to stand: `$?`, `$$` or a
dollar sign with the longest name after it. Names are runs of ASCII letters,
digits and underscores. A dollar sign in front of anything else stands for
itself. -/

inductive Piece where
  | literal (character : Char)
  | status
  | processId
  | variable (name : Text)
  deriving DecidableEq, Repr

namespace Piece

def isNameCharacter (character : Char) : Bool :=
  character.isAlphanum || character = '_'

/-- How far the piece under way has come. The characters of a name stand in
reverse order. -/
inductive Progress where
  | plain
  | dollar
  | name (characters : Text)
  deriving DecidableEq, Repr

def fresh (character : Char) : List Piece × Progress :=
  if character = '$' then ([], .dollar) else ([.literal character], .plain)

def step (character : Char) : Progress → List Piece × Progress
  | .plain => fresh character
  | .dollar =>
    if character = '?' then ([.status], .plain)
    else if character = '$' then ([.processId], .plain)
    else if isNameCharacter character then ([], .name [character])
    else ([.literal '$', .literal character], .plain)
  | .name characters =>
    if isNameCharacter character then ([], .name (character :: characters))
    else
      let (pieces, next) := fresh character
      (.variable characters.reverse :: pieces, next)

def Progress.finish : Progress → List Piece
  | .plain => []
  | .dollar => [.literal '$']
  | .name characters => [.variable characters.reverse]

def ofTextFrom (progress : Progress) : Text → List Piece
  | [] => progress.finish
  | character :: rest =>
    let (pieces, next) := step character progress
    pieces ++ ofTextFrom next rest

def ofText (text : Text) : List Piece :=
  ofTextFrom .plain text

end Piece

end CommandShell
