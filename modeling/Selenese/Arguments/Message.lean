import Selenese.Arguments

/-!
# Selenese.Arguments.Message

What is told when a command line means no invocation.
-/

namespace Selenese.Arguments

/-- The name of the program. -/
def program : String := "replayer"

def versionText : String := "0.4.0"

def lines (l : List String) : String := String.join (l.map fun s => s ++ "\n")

/-- What a command is for, how it is called, and what it takes. -/
def helpText : Level → String
  | .top => lines [
    "Replay Selenium IDE suites and emit NUnit XML results",
    "",
    "Usage: replayer [OPTIONS] <COMMAND>",
    "",
    "Commands:",
    "  dry-run   Replay a suite without a browser and write the NUnit report",
    "  commands  List supported Selenium commands",
    "  help      Print this message or the help of the given subcommand(s)",
    "",
    "Options:",
    "  -v, --verbose...  Verbosity level (-v, -vv)",
    "  -q, --quiet       Quiet mode (errors only)",
    "  -h, --help        Print help",
    "  -V, --version     Print version"]
  | .dryRun => lines [
    "Replay a suite without a browser and write the NUnit report",
    "",
    "Usage: replayer dry-run [OPTIONS] --suite <SUITE>",
    "",
    "Options:",
    "  -s, --suite <SUITE>        Suite file (HTML table of script links)",
    "  -v, --verbose...           Verbosity level (-v, -vv)",
    "  -b, --base-url <BASE_URL>  Replace every script's recorded base URL",
    "  -q, --quiet                Quiet mode (errors only)",
    "  -c, --combo <COMBOS>       Fixture name; repeat for several combinations",
    "  -n, --name <NAME>          Report name",
    "  -o, --output <OUTPUT>      Report file (stdout when omitted)",
    "      --config <CONFIG>      YAML run configuration [env: REPLAYER_CONFIG=]",
    "  -h, --help                 Print help"]
  | .commands => lines [
    "List supported Selenium commands",
    "",
    "Usage: replayer commands [OPTIONS]",
    "",
    "Options:",
    "  -v, --verbose...  Verbosity level (-v, -vv)",
    "  -q, --quiet       Quiet mode (errors only)",
    "  -h, --help        Print help"]
  | .help => lines [
    "Print this message or the help of the given subcommand(s)",
    "",
    "Usage: replayer help [COMMAND]...",
    "",
    "Arguments:",
    "  [COMMAND]...  Print help for the subcommand(s)"]

def Setting.usage : Setting → String
  | suite => "--suite <SUITE>"
  | baseUrl => "--base-url <BASE_URL>"
  | combination => "--combo <COMBOS>"
  | name => "--name <NAME>"
  | output => "--output <OUTPUT>"
  | config => "--config <CONFIG>"

def Switch.usage : Switch → String
  | verbose => "--verbose..."
  | quiet => "--quiet"
  | help => "--help"
  | version => "--version"

def Choice.usage : Choice → String
  | switch s => s.usage
  | setting s => s.usage

/-- What was asked for, or what is wrong with a command line. -/
def Stop.message : Stop → String
  | help l => helpText l
  | version => program ++ " " ++ versionText ++ "\n"
  | nothing => helpText .top
  | noCommand => wrong (program ++ " requires a subcommand but one was not provided")
  | unknownCommand w => wrong ("unrecognized subcommand '" ++ w ++ "'")
  | unknownArgument w => wrong ("unexpected argument '" ++ w ++ "' found")
  | noValue s => wrong ("a value is required for '" ++ s.usage ++ "' but none was supplied")
  | unwantedValue v => wrong ("unexpected value '" ++ v ++ "' found; no more were expected")
  | repeated c => wrong ("the argument '" ++ c.usage ++ "' cannot be used multiple times")
  | noSuite => wrong "the following required arguments were not provided:\n  --suite <SUITE>"
where
  wrong (what : String) : String := lines ["error: " ++ what, "", "For more information, try '--help'."]

/-- Whether a command line asks for a text only, and is in order. -/
def Stop.isAnswer : Stop → Bool
  | help _ | version => true
  | _ => false

end Selenese.Arguments
