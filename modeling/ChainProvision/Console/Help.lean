import ChainProvision.Console.Arguments

/-!
# Help

What the program says about itself, and about a command line that it does not understand.
-/

namespace ChainProvision.Console

/-- The name of the program. -/
def programName : String := "sandbox-deployer"

/-- The version of the program. -/
def versionLine : String := programName ++ " 0.1.0"

/-- The lines about the switches of every level. -/
def commonOptions : List String := [
  "  -v, --verbose  Enable debug logging",
  "  -q, --quiet    Print only final results",
  "      --json     Emit JSON lines",
  "  -h, --help     Print help"]

/-- The lines of the help for a command that takes a call. -/
def callHelp (about name : String) : List String := [
  about,
  "",
  "Usage: " ++ programName ++ " " ++ name ++ " [OPTIONS] <CALL_ID>",
  "",
  "Arguments:",
  "  <CALL_ID>  Call id from the job submission receipt",
  "",
  "Options:"] ++ commonOptions

/-- The lines of the help for a topic. -/
def Topic.lines : Topic → List String
  | .level .program => [
      "Track on-chain sandbox and instance deployments",
      "",
      "Usage: " ++ programName ++ " [OPTIONS] <COMMAND>",
      "",
      "Commands:",
      "  init    Initialize a new deployer.yml configuration file",
      "  status  Show the current provision status for a call",
      "  watch   Follow a provision until it is ready or has failed",
      "  help    Print this message or the help of the given subcommand(s)",
      "",
      "Options:"] ++ commonOptions ++ ["  -V, --version  Print version"]
  | .level .init => [
      "Initialize a new deployer.yml configuration file",
      "",
      "Usage: " ++ programName ++ " init [OPTIONS]",
      "",
      "Options:",
      "      --operator-api <OPERATOR_API>  Operator API base URL to write into the config",
      "  -v, --verbose                      Enable debug logging",
      "  -f, --force                        Overwrite an existing config file",
      "  -q, --quiet                        Print only final results",
      "      --json                         Emit JSON lines",
      "  -h, --help                         Print help"]
  | .level .status => callHelp "Show the current provision status for a call" "status"
  | .level .watch => callHelp "Follow a provision until it is ready or has failed" "watch"
  | .help => [
      "Print this message or the help of the given subcommand(s)",
      "",
      "Usage: " ++ programName ++ " help [COMMAND]...",
      "",
      "Arguments:",
      "  [COMMAND]...  Print help for the subcommand(s)"]

/-- The help for a topic. -/
def Topic.text (topic : Topic) : String := String.intercalate "\n" topic.lines

/-- The wording of what is wrong with a command line. -/
def Misuse.message : Misuse → String
  | .unknownWord word => "unexpected argument '" ++ word ++ "' found"
  | .unknownSwitch word => "unexpected argument '" ++ word ++ "' found"
  | .repeated name => "the argument '--" ++ name ++ "' cannot be used multiple times"
  | .missingValue name => "a value is required for '--" ++ name ++ "' but none was supplied"
  | .unexpectedValue name => "unexpected value for '--" ++ name ++ "' found; no more were expected"
  | .invalidCall word fault => "invalid value '" ++ word ++ "' for '<CALL_ID>': " ++ fault.message
  | .missingCall => "the following required arguments were not provided: <CALL_ID>"
  | .missingCommand => "'" ++ programName ++ "' requires a subcommand but one was not provided"
  | .conflict => "the argument '--quiet' cannot be used with '--json'"

end ChainProvision.Console
