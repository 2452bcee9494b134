import WikiGraph.Relation
/-!
# Plans for the edges of a subject

A plan says how to turn the edges that a subject has into the relations it declares, with
identifiers as the only key. Edges that nothing declares are deleted first. Then, in the order of
the declarations, a relation without an edge is created, one whose edge differs in type or target
is replaced, one whose edge differs in properties alone is updated, and any other is left alone.
-/
namespace WikiGraph

/-- One step of a plan (`RelationAction`). -/
inductive RelationAction where
  | create (relation : Relation)
  /-- The edge keeps its type and target and takes new properties. -/
  | update (relation : Relation)
  /-- The edge is deleted and created anew. -/
  | replace (relation : Relation)
  | delete (id : RelationId)
deriving DecidableEq

/-- The steps to take and the number of edges that need none (`RelationPlan`). -/
structure RelationPlan where
  actions : List RelationAction
  unchanged : Nat
deriving DecidableEq

namespace RelationPlan

/-- The step that a declared relation needs, given the edges there are. Of several edges with its
identifier the first counts. -/
def actionFor (existing : List Relation) (wanted : Relation) : Option RelationAction :=
  match existing.find? (·.id = wanted.id) with
  | none => some (.create wanted)
  | some edge =>
    if edge.type ≠ wanted.type ∨ edge.target ≠ wanted.target then some (.replace wanted)
    else if edge.properties.same wanted.properties then none
    else some (.update wanted)

/-- The identifiers of edges that no relation declares, each once. -/
def undeclared (existing : List Relation) (target : RelationList) : List RelationId :=
  firstBy id <| (existing.map Relation.id).filter (· ∉ target.toList.map Relation.id)

/-- The plan that turns `existing` into `target` (`RelationPlan::diff`). -/
def between (existing : List Relation) (target : RelationList) : RelationPlan where
  actions := (undeclared existing target).map .delete ++
    target.toList.filterMap (actionFor existing)
  unchanged := target.toList.countP fun r => (actionFor existing r).isNone

def isEmpty (p : RelationPlan) : Bool := p.actions.isEmpty

end RelationPlan
end WikiGraph
