import WikiGraph.Config.Path
import WikiGraph.Files
import WikiGraph.Json.Reader
import WikiGraph.Toml.Reader
/-!
# Configuration files

A configuration file is a TOML document or a JSON object, and each key of its outermost table is a
path. A file that does not exist sets nothing; one that cannot be understood is an error.
-/
namespace WikiGraph.Config

mutual
/-- The setting that a TOML value is. -/
def ofToml : Toml → Setting
  | .string s => .text s
  | .integer n => .integer n
  | .float x => .float x
  | .boolean b => .boolean b
  | .moment s => .text s
  | .list items => .list (ofTomlItems items)
  | .table _ members => .table (ofTomlMembers [] members)
  | .tables items => .list (ofTomlTables [] items)

def ofTomlItems : List Toml → List Setting
  | [] => []
  | v :: rest => ofToml v :: ofTomlItems rest

/-- The entries that the members of a TOML table are, after those before them. -/
def ofTomlMembers (before : Entries) : List (String × Toml) → Entries
  | [] => before
  | (name, v) :: rest => ofTomlMembers (putEntry name (ofToml v) before) rest

/-- The settings that tables are, the last one first, before those after them. -/
def ofTomlTables (after : List Setting) : List (List (String × Toml)) → List Setting
  | [] => after
  | members :: rest => ofTomlTables (.table (ofTomlMembers [] members) :: after) rest
end

mutual
/-- The setting that a JSON value is; an integer beyond 64 bits with a sign is a number. -/
def ofJson? : Json → Option Setting
  | .null => some .absent
  | .bool b => some (.boolean b)
  | .number (.integer n) =>
    some (if Word.fitsSigned n then .integer n else .float (Binary64.ofDecimal false n.toNat 0))
  | .number (.float x) => some (.float x)
  | .string s => some (.text s)
  | .array items => (ofJsonItems? items).map .list
  | .object members => (ofJsonMembers? [] members).map .table
  | .unreadable => none

def ofJsonItems? : List Json → Option (List Setting)
  | [] => some []
  | j :: rest => do return (← ofJson? j) :: (← ofJsonItems? rest)

/-- The entries that the members of a JSON object are, after those before them. -/
def ofJsonMembers? (before : Entries) : List (String × Json) → Option Entries
  | [] => some before
  | (name, j) :: rest => do ofJsonMembers? (putEntry name (← ofJson? j) before) rest
end

/-- The form of a configuration file. -/
inductive Format where
  | toml | json
deriving DecidableEq, Repr

def Format.ending : Format → String
  | .toml => ".toml"
  | .json => ".json"

def Format.read? : Format → List Char → Option Entries
  | .toml, text => (Toml.parse? text).map (ofTomlMembers [])
  | .json, text =>
    match Json.parse? text with
    | some (.object members) => ofJsonMembers? [] members
    | _ => none

/-- The entries with each key of the outermost table taken as a path. -/
def spread (entries : Entries) : Entries :=
  entries.foldl (fun done e => putAt (pathOf e.1) e.2 done) []

def Format.ofName? (name : String) : Option Format :=
  [toml, json].find? fun f => name.endsWith f.ending

/-- The names of the files in which a configuration of a given name may stand. The first that exists
counts. -/
def candidates (name : String) : List String := [name, name ++ ".toml", name ++ ".json"]

/-- The entries of the configuration file of a given name. A file whose name shows no form sets
nothing. -/
def readFile? (files : Files) (name : String) : Option Entries :=
  match (candidates name).find? fun c => (files.text? c).isSome with
  | none => some []
  | some found =>
    match Format.ofName? found with
    | none => some []
    | some form => (form.read? ((files.text? found).getD "").toList).map spread

end WikiGraph.Config
