import CommandShell.Builtin.Manual
import CommandShell.Shell

namespace CommandShell.Shell

/-! What the builtins do. Each answers with an outcome or with the failure that
prevented one. -/

abbrev Attempt := Except Failure Outcome × Shell

/-- Writes to the output; the command succeeds if that does. -/
def print (shell : Shell) (text : Text) : Attempt :=
  match shell.write .output text with
  | (none, shell) => (.ok (.status 0), shell)
  | (some fault, shell) => (.error (.output fault), shell)

/-! ## Ending -/

def exit (shell : Shell) (operand : Option Text) : Attempt :=
  match operand with
  | none => (.ok (.exit shell.session.status), shell)
  | some operand =>
    match Builtin.exitCode? operand with
    | some code => (.ok (.exit (Session.exitStatus code)), shell)
    | none => (.error (.illegalNumber operand), shell)

/-! ## Directories -/

def homeName : Text := Text.ofString "HOME"
def directoryName : Text := Text.ofString "PWD"
def previousName : Text := Text.ofString "OLDPWD"

/-- The directory that the operand of `cd` denotes, and whether it is announced. -/
def destination (session : Session) (target : Option Text) : Except Failure (Text × Bool) :=
  match target with
  | none | some [] =>
    match session.environment.get? homeName with
    | some home => .ok (home, false)
    | none => .error (.missing (Text.ofString "HOME not set"))
  | some ['-'] =>
    match session.previousDirectory with
    | some directory => .ok (directory, true)
    | none => .error (.missing (Text.ofString "OLDPWD not set"))
  | some directory => .ok (directory, false)

/-- Notes where the session has been and where it has arrived. A directory that
had been removed cannot be returned to and is not noted. -/
def arrive (session : Session) (departure : Option Text) (arrival : Text) : Session :=
  let session :=
    match departure with
    | some directory =>
      { session with
        environment := session.environment.set previousName directory
        previousDirectory := some directory }
    | none => session
  { session with environment := session.environment.set directoryName arrival }

def changeDirectory (shell : Shell) (target : Option Text) : Attempt :=
  match destination shell.session target with
  | .error failure => (.error failure, shell)
  | .ok (directory, announced) =>
    match shell.world.changeDirectory directory with
    | .error fault => (.error (.changeDirectory directory fault), shell)
    | .ok world =>
      let arrival := world.directory?.getD directory
      let shell :=
        { shell with
          world := world
          session := arrive shell.session shell.world.directory? arrival }
      if announced then shell.print (arrival ++ ['\n']) else (.ok (.status 0), shell)

/-! ## Aliases -/

def aliasListing (aliases : Aliases) : Text :=
  aliases.entries.flatMap fun (name, value) => Aliases.describe name value ++ ['\n']

/-- Serves the operands in their order. An alias that is not defined fails the
command and does not end it; output that cannot be written does. -/
def serveOperands (status : Int) : List Aliases.Operand → Shell → Attempt
  | [], shell => (.ok (.status status), shell)
  | .define name value :: rest, shell =>
    serveOperands status rest
      { shell with
        session := { shell.session with aliases := shell.session.aliases.set name value } }
  | .display name :: rest, shell =>
    match shell.session.aliases.get? name with
    | some value =>
      match shell.write .output (Aliases.describe name value ++ ['\n']) with
      | (none, shell) => serveOperands status rest shell
      | (some fault, shell) => (.error (.output fault), shell)
    | none =>
      let failure := Failure.missing (name ++ Text.ofString " not found")
      match shell.report (some Builtin.aliases.name) failure.message with
      | (none, shell) => serveOperands failure.status rest shell
      | (some fault, shell) => (.error (.output fault), shell)

def defineAliases (shell : Shell) (operands : List Text) : Attempt :=
  if operands.isEmpty then shell.print (aliasListing shell.session.aliases)
  else serveOperands 0 (Aliases.Operand.ofWords operands) shell

/-! ## Listings -/

def historyListing (history : History) : Text :=
  history.entries.flatMap fun (number, text) => History.describe number text ++ ['\n']

def environmentListing (environment : Environment) : Text :=
  environment.strings.flatMap fun string => string ++ ['\n']

/-! ## Variables -/

/-- A name is not empty and holds no sign that would end it. -/
def isVariableName (name : Text) : Bool :=
  !name.isEmpty && !name.contains '='

def setVariable (shell : Shell) (name value : Text) : Attempt :=
  if isVariableName name then
    (.ok (.status 0),
      { shell with
        session := { shell.session with environment := shell.session.environment.set name value } })
  else (.error (.misuse (name ++ Text.ofString ": bad variable name")), shell)

def unsetVariable (shell : Shell) (name : Text) : Attempt :=
  (.ok (.status 0),
    { shell with
      session := { shell.session with environment := shell.session.environment.unset name } })

/-! ## All together -/

/-- What a call does, apart from diagnostics. The manual and a refusal come
before the command and have no body. -/
def body (builtin : Builtin) (shell : Shell) : Call → Attempt
  | .exit operand => shell.exit operand
  | .changeDirectory target => shell.changeDirectory target
  | .overview => shell.print Builtin.overview
  | .aliases operands => shell.defineAliases operands
  | .listHistory => shell.print (historyListing shell.session.history)
  | .listEnvironment => shell.print (environmentListing shell.session.environment)
  | .setVariable name value => shell.setVariable name value
  | .unsetVariable name => shell.unsetVariable name
  | .manual => shell.print builtin.manual
  | .misuse message => (.error (.misuse message), shell)

/-- Issues the diagnostic of a failure, whose status is the command's unless the
diagnostic cannot be written. -/
def complain (builtin : Builtin) (failure : Failure) (shell : Shell) : Attempt :=
  match shell.report (some builtin.name) failure.message with
  | (none, shell) => (.ok (.status failure.status), shell)
  | (some fault, shell) => (.error (.output fault), shell)

/-- Carries out a builtin. A manual page that cannot be written is a failure of
its own, for which the builtin issues no diagnostic. -/
def carryOut (builtin : Builtin) (operands : List Text) (shell : Shell) : Attempt :=
  match builtin.call operands with
  | .manual => shell.body builtin .manual
  | call =>
    match body builtin shell call with
    | (.ok outcome, shell) => (.ok outcome, shell)
    | (.error failure, shell) => complain builtin failure shell

end CommandShell.Shell
