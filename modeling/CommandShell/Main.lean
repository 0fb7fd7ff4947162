import CommandShell.CommandLine

/-! The shell as a program. It serves its session over a copy of the files that
it reads, the script and the history, and writes the history back. The copy holds
no programs, so every command that is no builtin is one that cannot be found. -/

namespace CommandShell.Main

/-- The variables that the session takes over. -/
def variableNames : List String :=
  ["HOME", "LANG", "LOGNAME", "NO_COLOR", "OLDPWD", "PATH", "PWD", "SHELL", "TERM", "USER"]

def environment : IO (List Bytes) := do
  let mut strings := []
  for name in variableNames do
    if let some value ← IO.getEnv name then
      strings := strings ++ [Utf8.encode (Text.ofString (name ++ "=" ++ value))]
  return strings

/-- The contents of a file, if it can be read. -/
def contents? (path : String) : IO (Option Bytes) := do
  try
    let bytes ← IO.FS.readBinFile path
    return some bytes.toList
  catch _ => return none

/-- Everything on the standard input, which may be long but ends. -/
partial def readAll (stream : IO.FS.Stream) (taken : ByteArray) : IO ByteArray := do
  let bytes ← stream.read 65536
  if bytes.isEmpty then return taken else readAll stream (taken ++ bytes)

/-- A world with the home directory and the working directory. -/
def startingWorld (environment : Environment) : World :=
  let directories := ["HOME", "PWD"].filterMap fun name => environment.get? (Text.ofString name)
  let world := directories.foldl (fun world path => world.put path .directory) { files := .empty }
  match environment.get? (Text.ofString "PWD") with
  | some path => ((world.changeDirectory path).toOption).getD world
  | none => world

def withFile (world : World) (path : Text) : IO World := do
  match ← contents? path.toString with
  | some bytes => return world.put path (.file bytes Node.newPermissions)
  | none => return world

/-- Writes back a file that the session has changed. -/
def keepFile (before after : World) (path : Text) : IO Unit := do
  if let .ok bytes := after.read path then
    if (before.read path).toOption ≠ some bytes then
      IO.FS.writeBinFile path.toString (ByteArray.mk bytes.toArray)

def perform (arguments : List String) : IO UInt32 := do
  let input ← IO.getStdin
  let terminal ← input.isTty
  let invocation : Invocation :=
    { arguments := arguments.map Text.ofString
      environment := ← environment
      terminal := terminal }
  let session := Environment.ofProcess invocation.environment
  let settings := Settings.ofEnvironment .standardInput session
  let scripts :=
    match CommandLine.parse invocation.arguments with
    | .ok request => request.script.toList
    | .error _ => []
  let home := settings.historyPath.toList
  let mut world := startingWorld session
  for path in scripts ++ home do
    world ← withFile world path
  let bytes ← if scripts.isEmpty then readAll input .empty else pure .empty
  let completion := CommandLine.run invocation bytes.toList world
  for path in home do
    keepFile world completion.world path
  let output ← IO.getStdout
  output.write (ByteArray.mk completion.output.toArray)
  output.flush
  let error ← IO.getStderr
  error.write (ByteArray.mk completion.error.toArray)
  error.flush
  return UInt32.ofNat completion.code.toNat

end CommandShell.Main

def main (arguments : List String) : IO UInt32 :=
  CommandShell.Main.perform arguments
