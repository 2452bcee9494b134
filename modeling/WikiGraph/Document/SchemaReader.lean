import WikiGraph.Document.Fields
import WikiGraph.Files
import WikiGraph.Json.Reader
import WikiGraph.Schema
/-!
# Reading schemas from documents

A schema document is a list of schemas in JSON form; the last schema of a name counts.
-/
namespace WikiGraph.Document

def propertyDefinition? (j : Json) : Option PropertyDefinition :=
  match fields? ["name", "type", "required"] j with
  | some [name, type, isRequired] => do
    return {
      name := ← required text? name
      typeName := ← required text? type
      required := ← defaulted bool? false isRequired }
  | _ => none

def schema? (j : Json) : Option Schema :=
  match fields? ["name", "description", "properties"] j with
  | some [name, description, properties] => do
    return {
      name := ⟨← required text? name⟩
      description := ← defaulted text? "" description
      properties := ← defaulted (listOf? propertyDefinition?) [] properties }
  | _ => none

/-- The registry that a schema document describes (`SchemaRegistry::from_json`). -/
def schemaRegistry? (document : List Char) : Option SchemaRegistry := do
  let schemas ← listOf? schema? (← Json.parse? document)
  return SchemaRegistry.ofSchemas schemas

/-- Why a file gives no schemas (`CoreError`). -/
inductive SchemaFileError where
  | unreadable (path reason : String)
  | malformed
deriving DecidableEq, Repr

def SchemaFileError.message : SchemaFileError → String
  | .unreadable path reason => "Failed to read schema file " ++ path ++ ": " ++ reason
  | .malformed => "Serialization error"

/-- The registry that a file describes (`SchemaRegistry::from_json_file`). -/
def readSchemas (files : Files) (path : String) : Except SchemaFileError SchemaRegistry :=
  match files path with
  | .error reason => .error (.unreadable path reason)
  | .ok text =>
    match schemaRegistry? text.toList with
    | some r => .ok r
    | none => .error .malformed

end WikiGraph.Document
