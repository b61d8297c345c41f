import NodeLint.CommandLine.Arguments
import NodeLint.Text.Quoted

/-!
# Commands and their use

The commands, what they understand, how they are called, and what is said when they are called
wrongly.
-/

namespace NodeLint.CommandLine

/-- The tool itself and its commands. -/
inductive Command where
  | tool
  | config
  | explain
  | lint
deriving Repr, DecidableEq

namespace Command

/-- The command with a name. -/
def ofName? : String → Option Command
  | "config" => some .config
  | "explain" => some .explain
  | "lint" => some .lint
  | _ => none

/-- How a command is called, by the name of the program. -/
def call (program : String) : Command → String
  | .tool => program
  | .config => program ++ " config"
  | .explain => program ++ " explain"
  | .lint => program ++ " lint"

/-- The pattern of the arguments of a command. -/
def pattern : Command → String
  | .tool => "[OPTIONS] COMMAND [ARGS]..."
  | .config => "[OPTIONS]"
  | .explain => "[OPTIONS] [RULE_ID]"
  | .lint => "[OPTIONS] [PATHS]..."

/-- The options of a command. -/
def options : Command → List OptionForm
  | .tool => [⟨"--version", false⟩, ⟨"--config", true⟩, ⟨"--verbose", false⟩, ⟨"--debug", false⟩,
      ⟨"--help", false⟩]
  | .config => [⟨"--validate", false⟩, ⟨"--json", false⟩, ⟨"--help", false⟩]
  | .explain => [⟨"--all", false⟩, ⟨"--help", false⟩]
  | .lint => [⟨"--format", true⟩, ⟨"--color", true⟩, ⟨"--show-source", false⟩,
      ⟨"--no-show-source", false⟩, ⟨"--help", false⟩]

/-- The line that shows how to call a command. -/
def usageLine (program : String) (c : Command) : String :=
  "Usage: " ++ c.call program ++ " " ++ c.pattern

/-- What is told about a command on request, below its usage. -/
def description : Command → List String
  | .tool => [
    "  graphpc-lint - Catch undecorated methods on graphpc Node subclasses.",
    "",
    "Options:",
    "  --version      Show the version and exit.",
    "  --config FILE  Path to pyproject.toml (default: nearest one above the",
    "                 current directory)",
    "  --verbose      Log file counts and timing to stderr",
    "  --debug        Log per-file and per-rule detail to stderr",
    "  --help         Show this message and exit.",
    "",
    "Commands:",
    "  config   Show the resolved configuration, or just validate it.",
    "  explain  Show rule documentation and examples (by code or name).",
    "  lint     Check Python files for undecorated Node methods (default:..."]
  | .config => [
    "  Show the resolved configuration, or just validate it.",
    "",
    "Options:",
    "  --validate  Only check that the configuration loads",
    "  --json      Print the resolved configuration as JSON",
    "  --help      Show this message and exit."]
  | .explain => [
    "  Show rule documentation and examples (by code or name).",
    "",
    "Options:",
    "  --all   List all rules with configured severities",
    "  --help  Show this message and exit."]
  | .lint => [
    "  Check Python files for undecorated Node methods (default: current",
    "  directory).",
    "",
    "Options:",
    "  --format [text|json]            Output format (overrides config)",
    "  --color [auto|always|never]     Color output mode (overrides config)",
    "  --show-source / --no-show-source",
    "                                  Show source code snippets",
    "  --help                          Show this message and exit."]

/-- The help text of a command. -/
def help (program : String) (c : Command) : String :=
  Text.join "\n" (c.usageLine program :: "" :: c.description)

end Command

/-- A wrong call. -/
inductive UsageError where
  | badOption (fault : OptionFault)
  | missingCommand
  | unknownCommand (name : String)
  | extraArguments (words : List String)
  | notOneOf (option word : String) (allowed : List String)
  | missingPath (word : String)
  | directory (option word : String)
deriving Repr, DecidableEq

namespace UsageError

/-- The words for a wrong call. -/
def message : UsageError → String
  | .badOption (.unknown name) => "No such option " ++ Text.quoted name ++ "."
  | .badOption (.needsValue name) => "Option " ++ Text.quoted name ++ " requires an argument."
  | .badOption (.unwantedValue name) => "Option " ++ Text.quoted name ++ " does not take a value."
  | .missingCommand => "Missing command."
  | .unknownCommand name => "No such command " ++ Text.quoted name ++ "."
  | .extraArguments words =>
    "Got unexpected extra argument" ++ (if words.length = 1 then "" else "s") ++ " (" ++
      Text.join " " words ++ ")"
  | .notOneOf option word allowed =>
    "Invalid value for '" ++ option ++ "': " ++ Text.quoted word ++ " is not one of " ++
      Text.join ", " (allowed.map Text.quoted) ++ "."
  | .missingPath word =>
    "Invalid value for '[PATHS]...': Path " ++ Text.quoted word ++ " does not exist."
  | .directory option word =>
    "Invalid value for '" ++ option ++ "': File " ++ Text.quoted word ++ " is a directory."

/-- Whether the usage of the command is shown as well. An option that lacks a value, or has one
too many, is not a reason to. -/
def showsUsage : UsageError → Bool
  | .badOption (.needsValue _) => false
  | .badOption (.unwantedValue _) => false
  | _ => true

/-- What is said about a wrong call of a command. -/
def text (program : String) (c : Command) (e : UsageError) : String :=
  (if e.showsUsage then
    c.usageLine program ++ "\nTry '" ++ c.call program ++ " --help' for help.\n\n"
  else "") ++ "Error: " ++ e.message

end UsageError
end NodeLint.CommandLine
