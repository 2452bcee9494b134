import WikiGraph.Identifier
import WikiGraph.Scalar
import WikiGraph.Distinct
/-!
# Relations

A relation is a typed edge from one subject to another with an identifier of its own. A subject's
relations form a `RelationList`: no identifier occurs twice, and no relation has a property under
the key that the graph uses for the identifier.
-/
namespace WikiGraph

/-- An edge to another subject. -/
structure Relation where
  id : RelationId
  type : RelationType
  target : SubjectId
  properties : Properties
deriving DecidableEq

/-- The key under which an edge of the graph carries its relation identifier (`RELATION_ID_KEY`). -/
def relationIdKey : String := "id"

/-- Whether two relations are the same edge with the same properties. -/
def Relation.same (a b : Relation) : Bool :=
  a.id = b.id && a.type = b.type && a.target = b.target && a.properties.same b.properties

/-- A relation without a property under the reserved key. -/
def Relation.withoutIdKey (r : Relation) : Relation :=
  { r with properties := r.properties.erase relationIdKey }

/-- The outgoing relations of one subject (`TypedRelationList`). -/
structure RelationList where
  toList : List Relation
  distinct : (toList.map Relation.id).Nodup
  unreserved : ∀ r ∈ toList, relationIdKey ∉ r.properties

namespace RelationList

@[simp] theorem map_id_withoutIdKey (relations : List Relation) :
    (relations.map Relation.withoutIdKey).map Relation.id = relations.map Relation.id := by
  simp [Function.comp_def, Relation.withoutIdKey]

theorem not_mem_withoutIdKey (r : Relation) : relationIdKey ∉ r.withoutIdKey.properties := by
  simp [Relation.withoutIdKey]

/-- The first relation of each identifier, without reserved properties
(`TypedRelationList::new`). -/
def ofList (relations : List Relation) : RelationList where
  toList := (firstBy Relation.id relations).map Relation.withoutIdKey
  distinct := by
    rw [map_id_withoutIdKey]
    exact nodup_map_firstBy Relation.id relations
  unreserved := by
    simp only [List.mem_map]
    rintro r ⟨s, _, rfl⟩
    exact not_mem_withoutIdKey s

def size (l : RelationList) : Nat := l.toList.length

def isEmpty (l : RelationList) : Bool := l.toList.isEmpty

end RelationList
end WikiGraph
