import WikiGraph.Json.Basic
import WikiGraph.Page
import WikiGraph.Schema
/-!
# Writing pages to documents

The JSON form of pages and schemas, with every field written, in the order in which a page
declares them, and properties in the order of their names.
-/
namespace WikiGraph.Document

def ofScalar : Scalar → Json
  | .boolean b => .bool b
  | .integer n => .number (.integer n.toInt)
  | .float x => .number (.float x)
  | .text s => .string s

def ofIdentifier {kind : IdentifierKind} (id : Identifier kind) : Json := .string id.text

def ofRelation (r : Relation) : Json := .object [
  ("id", ofIdentifier r.id), ("type", ofIdentifier r.type), ("target", ofIdentifier r.target),
  ("properties", .object (r.properties.toList.map fun (name, s) => (name, ofScalar s)))]

def ofValueKind (k : ValueKind) : Json := .string k.label

def ofContent : Value → Json
  | .texts parts => .array (parts.map .string)
  | .number x => .number (.float x)
  | .boolean b => .bool b
  | .relations rs => .array (rs.map ofRelation)

def ofValue (v : Value) : Json := .object [("type", ofValueKind v.kind), ("value", ofContent v)]

def ofStatement (s : Statement) : Json := .object [
  ("property", .string s.property), ("property_type", .string s.propertyType),
  ("value", s.value.elim .null ofValue)]

def ofStatementList (l : StatementList) : Json := .array (l.toList.map ofStatement)

def ofSubject (s : Subject) : Json := .object [
  ("id", ofIdentifier s.id), ("label", .string s.label), ("schema", ofIdentifier s.schema),
  ("statements", ofStatementList s.statements)]

def ofPageProperties (p : PageProperties) : Json := .object [
  ("title", .string p.title), ("creation_time", .string p.creationTime),
  ("modification_time", .string p.modificationTime), ("last_editor", .string p.lastEditor)]

def ofPageSubjects (s : PageSubjects) : Json := .object [
  ("main", s.main.elim .null ofSubject), ("children", .array (s.children.map ofSubject))]

def ofPage (p : Page) : Json := .object [
  ("id", ofIdentifier p.id), ("properties", ofPageProperties p.properties),
  ("subjects", ofPageSubjects p.subjects)]

def ofPropertyDefinition (p : PropertyDefinition) : Json := .object [
  ("name", .string p.name), ("type", .string p.typeName), ("required", .bool p.required)]

def ofSchema (s : Schema) : Json := .object [
  ("name", ofIdentifier s.name), ("description", .string s.description),
  ("properties", .array (s.properties.map ofPropertyDefinition))]

end WikiGraph.Document
