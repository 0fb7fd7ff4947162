import CommandShell.Builtin

namespace CommandShell.Builtin

/-! What the builtins say about themselves. -/

/-- Lines of text, each with its end. -/
def page (lines : List String) : Text :=
  lines.flatMap fun line => Text.ofString line ++ ['\n']

/-- The overview that `help` prints. -/
def overview : Text :=
  page
    ["Built-in commands:",
      "  exit [n]               leave the shell with status n (default: last status)",
      "  cd [dir | -]           change directory (default: $HOME, -: previous)",
      "  help                   show this text",
      "  alias [name[=value]]   define or show aliases",
      "  history                list previously entered commands",
      "  env                    print the environment",
      "  setenv name [value]    set an environment variable",
      "  unsetenv name          remove an environment variable",
      "",
      "Commands can be chained with `;`, `&&` and `||`.",
      "Other commands are looked up in the directories listed in $PATH."]

/-! ## Manual pages -/

/-- The first line of a page: the name and the operands. -/
def synopsis : Builtin → String
  | .exit => "Usage: exit [args...]"
  | .cd => "Usage: cd [--] [<target>]"
  | .help => "Usage: help [topics...]"
  | .aliases => "Usage: alias [args...]"
  | .history => "Usage: history"
  | .env => "Usage: env"
  | .setenv => "Usage: setenv [--] <name> [<value>]"
  | .unsetenv => "Usage: unsetenv [--] <name>"

def purpose : Builtin → String
  | .exit => "Exit the shell with the given status, or with the last recorded status."
  | .cd => "Change the current working directory. If no target is provided, changes to the directory specified by the HOME environment variable."
  | .help => "Print usage of the builtin commands."
  | .aliases => "Define aliases with name=value, show them by name, or list all of them."
  | .history => "List the command history, oldest first."
  | .env => "Print the environment, one name=value per line."
  | .setenv => "Set an environment variable, overwriting any previous value."
  | .unsetenv => "Remove an environment variable. Removing an unset name succeeds."

/-- The description of the operands, where a page has one. -/
def operandSection : Builtin → List String
  | .cd =>
    ["Positional Arguments:",
      "  target            directory to switch to; `-` returns to the previous",
      "                    directory. Defaults to $HOME when omitted.",
      ""]
  | .setenv =>
    ["Positional Arguments:",
      "  name              variable name.",
      "  value             new value; empty when omitted.",
      ""]
  | .unsetenv =>
    ["Positional Arguments:",
      "  name              variable name.",
      ""]
  | _ => []

def manual (builtin : Builtin) : Text :=
  page <|
    [synopsis builtin, "", purpose builtin, ""] ++ operandSection builtin ++
      ["Options:", "  --help, help      display usage information"]

end CommandShell.Builtin
