import WikiGraph.CommandLine.Program
/-!
# The program's contact with the world

Arguments, variables and files are read here, and the outcome is printed. No connection to a server
is part of this program: each is out of reach.
-/
namespace WikiGraph.CommandLine

def distantServer : Server.Endpoint Unit where
  outOfReach? _ := some "Connection refused (os error 111)"
  reply _ _ s := (.success, s)

def readFile (name : String) : IO (String × Except String String) := do
  try
    return (name, .ok (← IO.FS.readFile name))
  catch
    | .noFileOrDirectory .. => return (name, .error Files.missing)
    | e => return (name, .error (toString e))

def readEnvironment : IO (List (String × String)) :=
  Config.variableNames.filterMapM fun name => return (← IO.getEnv name).map (name, ·)

/-- The files that a request needs: first those in which its configuration may stand. -/
def gatherFiles (environment : List (String × String)) (request : Request) : IO Files := do
  let candidates := match request with
    | .run config _ => Config.candidates config
    | _ => []
  let first ← candidates.mapM readFile
  let more ← (filesNamed (Files.ofReadings first) environment request).mapM readFile
  return Files.ofReadings (first ++ more)

def report (outcome : Outcome) : IO UInt32 := do
  match outcome with
  | .done output => IO.print output
  | .failed why => IO.eprintln ("Error: " ++ why.message)
  | .misused => IO.eprint programUsage
  return outcome.code.toUInt32

end WikiGraph.CommandLine

open WikiGraph in
/-- Calls the program with the arguments of the command line. -/
def main (arguments : List String) : IO UInt32 := do
  let environment ← CommandLine.readEnvironment
  let files ← CommandLine.gatherFiles environment (CommandLine.ofArguments none arguments)
  let (outcome, _) :=
    (CommandLine.call CommandLine.distantServer files environment arguments).run { server := () }
  CommandLine.report outcome
