import Turnstile.CommandLine.Arguments
import Turnstile.Config.Load
import Turnstile.Data.Print
import Turnstile.Policy
/-!
What the program prints: the result of a command on the configuration file that it names, help, and
what is wrong with the arguments.
-/
namespace Turnstile

def programName : String := "rpc-guard"

def programSummary : String :=
  "Rate limiting and circuit breaking policies for RPC services"

namespace CommandName

def summary : CommandName → String
  | .validate => "Validate a configuration file"
  | .resolve => "Show the policy and partition key a call would get"
  | .watch => "Watch a configuration file and apply changes as they land"
  | .help => "Print this message or the help of the given subcommand(s)"

def usage (n : CommandName) : String :=
  let arguments := match n with
    | .validate | .watch => "<CONFIG>"
    | .resolve => "[OPTIONS] <CONFIG> <METHOD>"
    | .help => "[COMMAND]..."
  s!"Usage: {programName} {n.text} {arguments}"

def details : CommandName → List String
  | .validate | .watch => ["", "Arguments:", "  <CONFIG>  ", "", "Options:", "  -h, --help  Print help"]
  | .resolve =>
    ["", "Arguments:", "  <CONFIG>  ",
     "  <METHOD>  Method identity, e.g. \x60billing.Ledger/Charge\x60", "", "Options:",
     "      --attr <ATTRIBUTES>  Context attribute as \x60name=value\x60 (repeatable)",
     "  -h, --help               Print help"]
  | .help => ["", "Arguments:", "  [COMMAND]...  Print help for the subcommand(s)"]

end CommandName

def unlines (lines : List String) : String := lines.foldr (fun line rest => line ++ "\n" ++ rest) ""

def padded (width : Nat) (text : String) : String :=
  text ++ String.ofList (List.replicate (width - text.length) ' ')

def helpText : Option CommandName → String
  | none => unlines <|
    [programSummary, "", s!"Usage: {programName} <COMMAND>", "", "Commands:"] ++
    (CommandName.all.map fun n => s!"  {padded 8 n.text}  {n.summary}") ++
    ["", "Options:", "  -h, --help  Print help"]
  | some n => unlines ([n.summary, "", n.usage] ++ n.details)

structure RunResult where
  exitCode : Nat
  output : String
  errors : String
  deriving DecidableEq, Inhabited

namespace RunResult

def success (output : String) : RunResult := ⟨0, output, ""⟩
def failure (errors : String) : RunResult := ⟨1, "", errors⟩

/-- The end of a run whose arguments make no command. What it says is meant to be read, so nothing
that cannot be seen is left in it. -/
def ofUsageError : UsageError → RunResult
  | .help topic => success (helpText topic)
  | .noCommand => ⟨2, "", helpText none⟩
  | e =>
    let hint := "For more information, try '" ++ Text.emphasized "--help" ++ "'."
    ⟨2, "", Text.visible (Text.emphasized "error:" ++ s!" {e.message}\n\n{hint}\n")⟩

def ofLoadError : LoadError → RunResult
  | .invalid violations => failure <| unlines <|
    s!"Error: configuration is invalid ({violations.length} problems)" ::
    violations.map fun v => s!"  - {v.message}"
  | e => failure s!"Error: {e.message}\n"

end RunResult

namespace Command

def file : Command → String
  | .validate config => config
  | .resolve config _ _ => config
  | .watch config => config

def resolution (c : Config) (method : String) (attributes : List (String × String)) : Data :=
  let (key, policy) :=
    (Snapshot.ofConfig 1 c).extract method (.request (.ofList attributes))
  .table [("key", .string key.text), ("method", .string (normalizeMethod method)),
    ("policy", policy.toData), ("tenant", .string key.tenant)]

/-- Runs the command on the file that it names. Watching is only started here, and says nothing when
the configuration is in order. -/
def run (c : Command) (content : FileContent) : RunResult :=
  match Config.load content with
  | .error e => .ofLoadError e
  | .ok config =>
    match c with
    | .validate file => .success s!"{file}: ok ({config.rules.length} policies)\n"
    | .resolve _ method attributes =>
      .success ((resolution config method attributes).print ++ "\n")
    | .watch _ => .success ""

end Command

def runProgram (read : String → FileContent) (arguments : List String) : RunResult :=
  match Command.ofArguments arguments with
  | .error e => .ofUsageError e
  | .ok c => c.run (read c.file)

end Turnstile
