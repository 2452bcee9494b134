import WikiGraph.Graph.Node
import WikiGraph.Graph.Error
/-!
# Stores

A graph is changed through calls: a transaction is started, operations are performed in it, and it
is committed or rolled back. A store is anything that answers such calls, with a value of the
call's kind or with an error, and may be in another state afterwards.
-/
namespace WikiGraph

/-- What can be done inside a transaction, one constructor for each method of `GraphTransaction`. -/
inductive Operation where
  /-- Creates or updates a page node. -/
  | upsertPage (page : PageNode)
  /-- Creates or updates a subject node, replacing its properties and its schema label. -/
  | upsertSubject (subject : SubjectNode)
  /-- Creates or updates a membership; does nothing when the page or the subject is missing. -/
  | linkSubject (page : PageId) (subject : SubjectId) (main : Bool)
  /-- Marks an existing membership; never creates one. -/
  | setMain (page : PageId) (subject : SubjectId) (main : Bool)
  /-- Ends the page's memberships of all subjects but some; a subject left without a page is
  deleted with its edges. Answers the number of memberships ended. -/
  | detachExcept (page : PageId) (keep : List SubjectId)
  /-- Answers the outgoing relations of a subject. -/
  | outgoing (source : SubjectId)
  /-- Creates an edge; answers false, and creates nothing, when one of its ends is missing. -/
  | createRelation (source : SubjectId) (relation : Relation)
  /-- Replaces the properties of an existing edge. -/
  | updateRelation (source : SubjectId) (relation : Relation)
  | deleteRelation (source : SubjectId) (relation : RelationId)
  /-- Deletes a page and every subject that is on no other page; answers the number of those. -/
  | deletePage (page : PageId)
deriving DecidableEq

def Operation.Answer : Operation → Type
  | .upsertPage _ => Unit
  | .upsertSubject _ => Unit
  | .linkSubject _ _ _ => Unit
  | .setMain _ _ _ => Unit
  | .detachExcept _ _ => Nat
  | .outgoing _ => List Relation
  | .createRelation _ _ => Bool
  | .updateRelation _ _ => Unit
  | .deleteRelation _ _ => Unit
  | .deletePage _ => Nat

/-- Whether the operation writes an edge. -/
def Operation.writesRelation : Operation → Bool
  | .createRelation _ _ => true
  | .updateRelation _ _ => true
  | .deleteRelation _ _ => true
  | _ => false

/-- A call on a store. -/
inductive Call where
  | start
  | perform (op : Operation)
  | commit
  | rollback
deriving DecidableEq

def Call.Answer : Call → Type
  | .start => Unit
  | .perform op => op.Answer
  | .commit => Unit
  | .rollback => Unit

/-- Computations that use a store with states of a given type. -/
abbrev StoreM (σ : Type) := ExceptT GraphError (StateM σ)

/-- A store: its answer to every call (`GraphStore`). -/
abbrev Store (σ : Type) := (c : Call) → StoreM σ c.Answer

namespace Store

variable {σ : Type} (store : Store σ)

def start : StoreM σ Unit := store .start

def commit : StoreM σ Unit := store .commit

def rollback : StoreM σ Unit := store .rollback

def upsertPage (page : PageNode) : StoreM σ Unit := store (.perform (.upsertPage page))

def upsertSubject (subject : SubjectNode) : StoreM σ Unit :=
  store (.perform (.upsertSubject subject))

def linkSubject (page : PageId) (subject : SubjectId) (main : Bool) : StoreM σ Unit :=
  store (.perform (.linkSubject page subject main))

def setMain (page : PageId) (subject : SubjectId) (main : Bool) : StoreM σ Unit :=
  store (.perform (.setMain page subject main))

def detachExcept (page : PageId) (keep : List SubjectId) : StoreM σ Nat :=
  store (.perform (.detachExcept page keep))

def outgoing (source : SubjectId) : StoreM σ (List Relation) :=
  store (.perform (.outgoing source))

def createRelation (source : SubjectId) (relation : Relation) : StoreM σ Bool :=
  store (.perform (.createRelation source relation))

def updateRelation (source : SubjectId) (relation : Relation) : StoreM σ Unit :=
  store (.perform (.updateRelation source relation))

def deleteRelation (source : SubjectId) (relation : RelationId) : StoreM σ Unit :=
  store (.perform (.deleteRelation source relation))

def deletePage (page : PageId) : StoreM σ Nat := store (.perform (.deletePage page))

/-- Runs a computation in a transaction of its own: it is committed when the computation succeeds
and rolled back when it fails (`abort`). The failure is then the one reported, whatever becomes of
the rollback. -/
def transact {α : Type} (body : StoreM σ α) : StoreM σ α := do
  store.start
  let answer ← tryCatch body fun e => do
    tryCatch store.rollback fun _ => pure ()
    throw e
  store.commit
  return answer

end Store
end WikiGraph
