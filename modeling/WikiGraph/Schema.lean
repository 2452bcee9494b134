import WikiGraph.Identifier
/-!
# Schemas

A schema says which properties a subject may carry. A registry finds a schema by its name; of
several with one name it holds the last.
-/
namespace WikiGraph

/-- A property that a schema allows. -/
structure PropertyDefinition where
  name : String
  typeName : String
  required : Bool := false
deriving DecidableEq, Repr

/-- The definition of a kind of subject. -/
structure Schema where
  name : SchemaName
  description : String := ""
  properties : List PropertyDefinition := []
deriving DecidableEq, Repr

def Schema.property? (s : Schema) (name : String) : Option PropertyDefinition :=
  s.properties.find? (·.name = name)

abbrev SchemaRegistry := Std.ExtTreeMap SchemaName Schema

namespace SchemaRegistry

def register (r : SchemaRegistry) (s : Schema) : SchemaRegistry := r.insert s.name s

def ofSchemas (schemas : List Schema) : SchemaRegistry := schemas.foldl register ∅

end SchemaRegistry
end WikiGraph
