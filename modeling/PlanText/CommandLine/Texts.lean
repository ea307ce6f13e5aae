/-!
The fixed texts of the command line, and texts as lines.
-/

namespace PlanText

/-- The lines without their ends. A line feed ends a line, and so does a carriage return with a
line feed after it; at the end of the text there may be neither. The first line of what follows a
character is the line that the character is on. -/
def Text.lines : List Char → List (List Char)
  | [] => []
  | '\n' :: rest => [] :: lines rest
  | '\r' :: '\n' :: rest => [] :: lines rest
  | c :: rest =>
    match lines rest with
    | [] => [[c]]
    | first :: others => (c :: first) :: others

namespace CommandLine

def programName : String := "pddl-reader"

def versionText : String := programName ++ " 0.1.0\n"

def helpLines : List String := [
  "Reads PDDL domain and problem files into nested lists",
  "",
  "Usage: pddl-reader [OPTIONS] [domain] [problem]",
  "",
  "Arguments:",
  "  [domain]   Path to the domain file",
  "  [problem]  Path to the problem file",
  "",
  "Options:",
  "  -f, --format <format>        Output format (sexpr, json, yaml, treeviz); " ++
    "defaults to the config value",
  "  -c, --config <config>        Path to a TOML configuration file",
  "      --max-depth <max-depth>  Reject lists nested deeper than this (0 disables the limit)",
  "      --tokens                 Print the token stream instead of the parsed structure",
  "      --list-formats           List available output formats",
  "  -h, --help                   Print help",
  "  -V, --version                Print version"]

/-- Lines as text, each with its end. -/
def unlines (lines : List String) : String := String.join (lines.map (· ++ "\n"))

def helpText : String := unlines helpLines

end CommandLine

end PlanText
