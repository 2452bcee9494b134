import WikiGraph.Value
import WikiGraph.Calendar.Format
import WikiGraph.Text.Quoted
import WikiGraph.Text.CaseForm
/-!
# Property types

A property type has a name, stores values of one kind and may ask for a format. Types are looked up
by name in a registry.
-/
namespace WikiGraph

open WikiGraph.Text

/-- What a property type asks of the values of its kind. -/
inductive Format where
  | any
  | url
  | email
  | date
  | finiteNumber
deriving DecidableEq, Repr

/-- A kind of property. -/
structure PropertyType where
  name : String
  kind : ValueKind
  format : Format := .any
deriving DecidableEq, Repr

/-- Why a value does not suit a property type. -/
inductive Unsuitable where
  | wrongKind (expected found : ValueKind)
  | malformedPart (part : String)
  | notFinite
deriving DecidableEq, Repr

def Unsuitable.reason : Unsuitable → String
  | .wrongKind expected found => "expected " ++ expected.title ++ " value, got " ++ found.title
  | .malformedPart part => "malformed part " ++ String.ofList (quoted part.toList)
  | .notFinite => "number is not finite"

/-- The message about a value that does not suit the property type of a given name. -/
def Unsuitable.message (typeName : String) (u : Unsuitable) : String :=
  "Invalid value for property type " ++ typeName ++ ": " ++ u.reason

namespace Format

/-- Whether a text names a web address: one of two schemes and something after it. -/
def isUrl (text : List Char) : Bool :=
  match "https://".toList.isPrefixOf? text <|> "http://".toList.isPrefixOf? text with
  | some rest => !rest.isEmpty
  | none => false

/-- Whether a text names a mailbox: something before the first `@` and a point after it. -/
def isEmail (text : List Char) : Bool :=
  match text.dropWhile (· ≠ '@') with
  | '@' :: domain => !(text.takeWhile (· ≠ '@')).isEmpty && domain.contains '.'
  | _ => false

/-- Whether one part of a text value has the format. -/
def acceptsPart (f : Format) (part : List Char) : Bool :=
  match f with
  | .url => isUrl part
  | .email => isEmail part
  | .date => Calendar.isDate part
  | .any | .finiteNumber => true

end Format

namespace PropertyType

/-- Whether values of the type become edges instead of node properties (`is_relation`). -/
def isRelation (t : PropertyType) : Bool := t.kind = .relation

/-- Checks a value: first its kind, then every part of it in order (`PropertyType::validate`). -/
def validate (t : PropertyType) (v : Value) : Except Unsuitable Unit :=
  if v.kind ≠ t.kind then .error (.wrongKind t.kind v.kind)
  else match v with
    | .texts parts =>
      match parts.find? fun p => !t.format.acceptsPart p.toList with
      | some bad => .error (.malformedPart bad)
      | none => .ok ()
    | .number x => if t.format = .finiteNumber ∧ !x.isFinite then .error .notFinite else .ok ()
    | _ => .ok ()

/-- The value a new statement of the type starts with (`default_value`). -/
def default (t : PropertyType) : Value := Value.default t.kind

/-- The property types every site knows. -/
def standard : List PropertyType := [
  ⟨"text", .string, .any⟩, ⟨"url", .string, .url⟩, ⟨"email", .string, .email⟩,
  ⟨"number", .number, .finiteNumber⟩, ⟨"boolean", .boolean, .any⟩, ⟨"date", .string, .date⟩,
  ⟨"select", .string, .any⟩, ⟨"relation", .relation, .any⟩]

end PropertyType

abbrev PropertyTypeRegistry := Std.ExtTreeMap String PropertyType

namespace PropertyTypeRegistry

/-- The registry with one more type, which replaces an earlier one of its name. -/
def register (r : PropertyTypeRegistry) (t : PropertyType) : PropertyTypeRegistry :=
  r.insert t.name t

def ofTypes (types : List PropertyType) : PropertyTypeRegistry := types.foldl register ∅

/-- The registry of the standard types. -/
def standard : PropertyTypeRegistry := ofTypes PropertyType.standard

end PropertyTypeRegistry
end WikiGraph
