import WikiGraph.CommandLine.Help
import WikiGraph.Config.AppConfig
import WikiGraph.Document.PageReader
import WikiGraph.Document.ReportWriter
import WikiGraph.Document.SchemaReader
import WikiGraph.Json.Indented
import WikiGraph.Server.Address
import WikiGraph.Server.Reading
import WikiGraph.Server.Transaction
/-!
# The program

A query is classified without any configuration. Every other command first needs a configuration
that can be understood and an address that can lead to a server. The commands about pages then need
the schemas, and those that save a page need the page. The first of these that is not to be had
decides the outcome.
-/
namespace WikiGraph.CommandLine

/-- Why a command failed. -/
inductive Failure where
  | configuration
  | connection (e : GraphError)
  /-- The query is unsafe, or it failed. -/
  | gate (e : Query.GateError)
  | schemas (e : Document.SchemaFileError)
  | pageFile (path : String)
  | page (path : String)
  /-- The graph could not be changed; it is as it was. -/
  | graph (e : GraphError)

def Failure.message : Failure → String
  | configuration => "Configuration error"
  | connection e => e.message
  | gate e => e.message
  | schemas e => e.message
  | pageFile path => "Failed to read page file " ++ path
  | page path => "Invalid page JSON in " ++ path
  | graph e => "Graph error: " ++ e.message

/-- What becomes of a call of the program. -/
inductive Outcome where
  | done (output : String)
  | failed (why : Failure)
  | misused

def Outcome.code : Outcome → UInt8
  | done _ => 0
  | failed _ => 1
  | misused => 2

mutual
def cellJson : Server.Cell → Json
  | .null => .null
  | .boolean b => .bool b
  | .integer n => .number (.integer n.toInt)
  | .float x => .number (.float x)
  | .text s => .string s
  | .list cells => .array (cellsJson cells)
  | .map entries => .object (entriesJson entries)
  | .edge type properties =>
    .object [("type", .string type), ("properties", .object (entriesJson properties))]

def cellsJson : List Server.Cell → List Json
  | [] => []
  | c :: rest => cellJson c :: cellsJson rest

def entriesJson : List (String × Server.Cell) → List (String × Json)
  | [] => []
  | (name, c) :: rest => (name, cellJson c) :: entriesJson rest
end

def rowLines (rows : List Server.Row) : String :=
  String.ofList (rows.flatMap fun r => (Json.object (entriesJson r)).render ++ ['\n'])

/-- The page of a file (`load_page`). -/
def readPage (files : Files) (path : String) : Except Failure Page :=
  match files.text? path with
  | none => .error (.pageFile path)
  | some text =>
    match (Json.parse? text.toList).bind Document.page? with
    | some page => .ok page
    | none => .error (.page path)

/-- The projector under a configuration; without a file of schemas it knows none
(`build_lifecycle`). -/
def projector (files : Files) (config : Config.AppConfig) : Except Failure Projector :=
  match config.schemasPath with
  | none => .ok ⟨ValueBuilderRegistry.standard, PropertyTypeRegistry.standard, ∅⟩
  | some path =>
    match Document.readSchemas files path with
    | .error e => .error (.schemas e)
    | .ok schemas => .ok ⟨ValueBuilderRegistry.standard, PropertyTypeRegistry.standard, schemas⟩

/-- What is done once configuration and files are read. -/
inductive Task where
  | classify (query : String)
  | query (trial : Bool) (query : String)
  | save (projector : Projector) (page : Page)
  | delete (page : PageId)

/-- The configuration of a call, if its address can lead to a server. -/
def connected (files : Files) (environment : List (String × String)) (config : String) :
    Except Failure Config.AppConfig :=
  match Config.load? files config environment with
  | none => .error .configuration
  | some c =>
    match Server.connect c.server.uri with
    | .error e => .error (.connection e)
    | .ok () => .ok c

/-- The task of a command. -/
def task (files : Files) (environment : List (String × String)) (config : String) :
    Command → Except Failure Task
  | .check query => .ok (.classify query)
  | .query query => do
    let c ← connected files environment config
    return .query c.triesQueries query
  | .save path | .undelete path => do
    let c ← connected files environment config
    let p ← projector files c
    return .save p (← readPage files path)
  | .delete page => do
    let c ← connected files environment config
    let _ ← projector files c
    return .delete ⟨page⟩

variable {τ : Type}

def Task.perform (s : Server.Endpoint τ) : Task → StateM (Server.Client τ) Outcome
  | classify q =>
    match Query.check q with
    | .ok () => return .done "read-only\n"
    | .error e => return .failed (.gate e)
  | query trial q => do
    match ← Server.gatedRead s trial q with
    | .ok rows => return .done (rowLines rows)
    | .error e => return .failed (.gate e)
  | save p page => do
    match ← (p.savePage (Server.store s) page).run with
    | .ok report =>
      return .done (String.ofList ((Document.reportJson report).renderIndented 0) ++ "\n")
    | .error e => return .failed (.graph e)
  | delete page => do
    match ← (deletePage (Server.store s) page).run with
    | .ok removed => return .done (toString removed ++ " subject(s) removed\n")
    | .error e => return .failed (.graph e)

/-- The outcome of a call of the program (`main`). -/
def call (s : Server.Endpoint τ) (files : Files) (environment : List (String × String))
    (arguments : List String) : StateM (Server.Client τ) Outcome :=
  match ofArguments none arguments with
  | .misuse => return .misused
  | .help topic => return .done (helpText topic)
  | .run config command =>
    match task files environment config command with
    | .error why => return .failed why
    | .ok task => task.perform s

/-- The files that a call reads besides that of its configuration. -/
def filesNamed (files : Files) (environment : List (String × String)) :
    Request → List String
  | .run config command =>
    let schemas := (Config.load? files config environment).bind (·.schemasPath)
    let page := match command with
      | .save path | .undelete path => [path]
      | _ => []
    schemas.toList ++ page
  | _ => []

end WikiGraph.CommandLine
