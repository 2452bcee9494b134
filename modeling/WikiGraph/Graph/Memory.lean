import WikiGraph.Graph.State
/-!
# The store in memory

A graph held in memory. A transaction works on a copy of the contents, which takes the place of the
committed contents when it is committed and is forgotten otherwise. A finished transaction answers
every further call with an error. For trials, writes of relations can be made to fail; a
transaction takes up that setting when it starts.
-/
namespace WikiGraph

/-- A transaction of the store in memory. -/
structure MemoryTransaction where
  /-- The working copy, until the transaction is finished. -/
  working : Option Graph
  failsRelationWrites : Bool

/-- A graph in memory with the transaction started last (`MemoryGraph`). -/
structure Memory where
  committed : Graph := .empty
  transaction : Option MemoryTransaction := none
  failsRelationWrites : Bool := false

namespace Memory

def injectedFailure : GraphError := .connection "injected relation write failure"

/-- The effect of an operation within the transaction. -/
def perform (op : Operation) (m : Memory) : Except GraphError op.Answer × Memory :=
  match m.transaction with
  | none => (.error .transactionClosed, m)
  | some t =>
    if t.failsRelationWrites ∧ op.writesRelation then (.error injectedFailure, m)
    else match t.working with
      | none => (.error .transactionClosed, m)
      | some g =>
        let (answer, g') := g.apply op
        (.ok answer, { m with transaction := some { t with working := some g' } })

/-- Ends the transaction, if it is open, with the given effect of its working copy on the committed
contents. -/
def finish (effect : Graph → Graph → Graph) (m : Memory) : Except GraphError Unit × Memory :=
  match m.transaction with
  | some { working := some g, failsRelationWrites } =>
    (.ok (), { m with
      committed := effect m.committed g
      transaction := some ⟨none, failsRelationWrites⟩ })
  | _ => (.error .transactionClosed, m)

/-- Starts a transaction (`begin`). One that is still open is dropped. -/
def start (m : Memory) : Memory :=
  { m with transaction := some ⟨some m.committed, m.failsRelationWrites⟩ }

def drop (m : Memory) : Memory := { m with transaction := none }

/-- The answer to a call and the store after it. -/
def answer (m : Memory) : (c : Call) → Except GraphError c.Answer × Memory
  | .start => (.ok (), m.start)
  | .perform op => m.perform op
  | .commit => m.finish fun _ working => working
  | .rollback => m.finish fun committed _ => committed

/-- The store in memory. -/
def store : Store Memory := fun c m => m.answer c

/-- Runs a computation that has transactions of its own, beside a transaction that is held and
already finished: the held one is the same afterwards. -/
def beside {α : Type} (body : StoreM Memory α) : StoreM Memory α := fun m =>
  let (result, m') := body m
  (result, { m' with transaction := m.transaction })

end Memory
end WikiGraph
