import ChainScenario.CommandLine.Request

/-!
# Help

The texts that explain the commands.
-/
namespace ChainScenario.CommandLine

def programName : String := "massa-scenario"

def versionNumber : String := "3.0.0"

def versionLine : String := s!"{programName} {versionNumber}\n"

def Topic.lines : Topic → List String
  | program =>
    ["Runs VM test scenarios",
      "",
      s!"Usage: {programName} <COMMAND>",
      "",
      "Commands:",
      "  run      Runs a scenario file, or every scenario file under a directory",
      "  version  Prints the version",
      "  help     Print this message or the help of the given subcommand(s)",
      "",
      "Options:",
      "  -h, --help     Print help",
      "  -V, --version  Print version"]
  | run =>
    ["Runs a scenario file, or every scenario file under a directory",
      "",
      s!"Usage: {programName} run [OPTIONS] <PATH>",
      "",
      "Arguments:",
      "  <PATH>  scenario file or directory",
      "",
      "Options:",
      "      --trace-gas  Print gas traces for every scenario",
      "  -h, --help       Print help"]
  | version =>
    ["Prints the version",
      "",
      s!"Usage: {programName} version",
      "",
      "Options:",
      "  -h, --help  Print help"]
  | help =>
    ["Print this message or the help of the given subcommand(s)",
      "",
      s!"Usage: {programName} help [COMMAND]...",
      "",
      "Arguments:",
      "  [COMMAND]...  Print help for the subcommand(s)"]

def Topic.text (topic : Topic) : String :=
  String.join (topic.lines.map (· ++ "\n"))

end ChainScenario.CommandLine
