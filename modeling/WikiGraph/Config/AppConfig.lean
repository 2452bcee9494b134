import WikiGraph.Config.Environment
import WikiGraph.Config.File
import WikiGraph.Server.Settings
/-!
# The program's configuration

Connection settings, whether queries are tried before they are run, and where schemas are found.
Every setting has a value of its own when it is not given. A group of settings may be given as a
list of its settings in their order.
-/
namespace WikiGraph.Config

/-- The configuration of the program (`AppConfig`). -/
structure AppConfig where
  server : Server.Settings := {}
  /-- Whether queries are tried in the reading role before they are run. -/
  triesQueries : Bool := true
  /-- The file of schema definitions. -/
  schemasPath : Option String := none
deriving DecidableEq, Repr

/-- The settings of a group in the order of `names`, where they are given. -/
def group? (names : List String) : Setting → Option (List (Option Setting))
  | .table entries => some (names.map fun name => settingAt? name entries)
  | .list items => some ((names.zipIdx).map fun n => items[n.2]?)
  | _ => none

variable {α : Type}

/-- A setting with a value of its own when it is not given. -/
def orElse? (read : Setting → Option α) (usual : α) : Option Setting → Option α
  | none => some usual
  | some s => read s

/-- The connection settings of a group. -/
def serverSettings? (s : Setting) : Option Server.Settings :=
  let usual : Server.Settings := {}
  match group? ["uri", "user", "password", "read_user", "read_password", "max_connections",
      "fetch_size"] s with
  | some [uri, user, password, readUser, readPassword, maxConnections, fetchSize] => do
    return {
      uri := ← orElse? Setting.toText? usual.uri uri
      user := ← orElse? Setting.toText? usual.user user
      password := ← orElse? Setting.toText? usual.password password
      readUser := ← orElse? Setting.toText? usual.readUser readUser
      readPassword := ← orElse? Setting.toText? usual.readPassword readPassword
      maxConnections := ← orElse? (Setting.toCountBelow? 0x100000000) usual.maxConnections
        maxConnections
      fetchSize := ← orElse? Setting.toCount? usual.fetchSize fetchSize }
  | _ => none

/-- Whether queries are tried, in the group about queries. -/
def triesQueries? (s : Setting) : Option Bool :=
  match group? ["explain_check"] s with
  | some [explain] => orElse? Setting.toBool? true explain
  | _ => none

def optionalText? : Setting → Option (Option String)
  | .absent => some none
  | s => s.toText?.map some

def schemasPath? (s : Setting) : Option (Option String) :=
  match group? ["path"] s with
  | some [path] => orElse? optionalText? none path
  | _ => none

/-- The configuration that a tree of settings describes. -/
def ofEntries? (entries : Entries) : Option AppConfig := do
  return {
    server := ← orElse? serverSettings? {} (settingAt? "neo4j" entries)
    triesQueries := ← orElse? triesQueries? true (settingAt? "query" entries)
    schemasPath := ← orElse? schemasPath? none (settingAt? "schemas" entries) }

/-- The configuration of the file of a given name under the variables of an environment
(`AppConfig::load`). -/
def load? (files : Files) (name : String) (environment : List (String × String)) :
    Option AppConfig :=
  (readFile? files name).bind fun entries => ofEntries? (applyEnvironment entries environment)

end WikiGraph.Config
