import WikiGraph.CommandLine.Arguments
/-!
# Help on the command line
-/
namespace WikiGraph.CommandLine

def Verb.summary : Verb → String
  | check => "Classify a query with the keyword classifier only"
  | query => "Run a user query under the read-only role"
  | save => "Synchronize a page from its JSON representation"
  | undelete => "Restore a previously deleted page"
  | delete => "Remove a page and the subjects only it owns"

/-- The name under which help shows what a command is about. -/
def Verb.operandName : Verb → String
  | check => "QUERY"
  | query => "QUERY"
  | save => "PAGE"
  | undelete => "PAGE"
  | delete => "PAGE_ID"

def programUsage : String := "Usage: pagegraph [OPTIONS] <COMMAND>\n"

/-- Help about the program. -/
def programHelp : String :=
  "Mirror wiki pages into Neo4j and query them read-only\n\n" ++ programUsage ++ "\nCommands:\n" ++
  String.join (Verb.all.map fun v =>
    "  " ++ v.name ++ "".pushn ' ' (10 - v.name.length) ++ v.summary ++ "\n") ++
  "  help      Print this message or the help of the given subcommand(s)\n\nOptions:\n" ++
  "  -c, --config <CONFIG>  Config file prefix (default: pagegraph) [default: pagegraph]\n" ++
  "  -h, --help             Print help\n"

/-- Help about a command. -/
def Verb.help (v : Verb) : String :=
  let operand := "<" ++ v.operandName ++ ">"
  if v.takesPage then
    v.summary ++ "\n\nUsage: pagegraph " ++ v.name ++ " --page " ++ operand ++ "\n\nOptions:\n" ++
      "      --page " ++ operand ++ "  \n  -h, --help         Print help\n"
  else
    v.summary ++ "\n\nUsage: pagegraph " ++ v.name ++ " " ++ operand ++ "\n\nArguments:\n  " ++
      operand ++ "  \n\nOptions:\n  -h, --help  Print help\n"

def helpText : Option Verb → String
  | none => programHelp
  | some v => v.help

end WikiGraph.CommandLine
