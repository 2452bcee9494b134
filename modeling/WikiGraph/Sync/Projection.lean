import WikiGraph.Graph.Store
import WikiGraph.Page
import WikiGraph.PropertyType
import WikiGraph.Schema
import WikiGraph.ValueBuilder
/-!
# Statements as node properties

A statement becomes a property of its subject's node when its value can be stored under its type:
the type is known and is not a relation, the value is of the type's kind, and the type's builder
makes at least one scalar of it. All other statements are passed over in silence. Of two types that
could govern a statement, the one that the schema gives to its property comes first.
-/
namespace WikiGraph

/-- What is needed to store subjects (`NodePropertyProjector`). -/
structure Projector where
  builders : ValueBuilderRegistry
  types : PropertyTypeRegistry
  schemas : SchemaRegistry

namespace Projector

/-- The name of the type that governs a statement. -/
def typeNameOf (schema : Option Schema) (s : Statement) : String :=
  match schema.bind (·.property? s.property) with
  | some definition => definition.typeName
  | none => s.propertyType

/-- Whether a value can be stored under a type (`representable`). -/
def representable (t : PropertyType) (v : Value) : Bool := !t.isRelation && v.kind = t.kind

/-- The scalars that a statement puts under its property, if any. -/
def scalarsOf (p : Projector) (schema : Option Schema) (s : Statement) : Option (List Scalar) := do
  let v ← s.value
  let name := typeNameOf schema s
  let t ← p.types[name]?
  if representable t v then
    let scalars ← p.builders.build? name v
    if scalars.isEmpty then none else some scalars
  else none

/-- The properties with those of one more statement. -/
def put (p : Projector) (schema : Option Schema) (properties : PropertyLists) (s : Statement) :
    PropertyLists :=
  match p.scalarsOf schema s with
  | some scalars => properties.insert s.property scalars
  | none => properties

/-- The node properties that a subject's statements amount to (`project_with_schema`). -/
def project (p : Projector) (schema : Option Schema) (statements : StatementList) :
    PropertyLists :=
  statements.toList.foldl (p.put schema) ∅

/-- The node of a subject under its schema. -/
def nodeOf (p : Projector) (schema : Schema) (s : Subject) : SubjectNode where
  id := s.id
  name := s.label
  schema := schema.name
  properties := p.project (some schema) s.statements

/-- Writes a subject's node and its membership, and answers whether the subject's schema is known;
nothing is written for a subject of an unknown schema (`update_subject`). -/
def updateSubject {σ : Type} (p : Projector) (store : Store σ) (page : PageId) (s : Subject)
    (main : Bool) : StoreM σ Bool :=
  match p.schemas[s.schema]? with
  | none => pure false
  | some schema => do
    store.upsertSubject (p.nodeOf schema s)
    store.linkSubject page s.id main
    return true

end Projector
end WikiGraph
