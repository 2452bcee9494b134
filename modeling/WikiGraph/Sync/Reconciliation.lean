import WikiGraph.Graph.Store
import WikiGraph.Sync.RelationPlan
/-!
# Reconciling the edges of a subject

A plan is carried out step by step inside a transaction, and what each step did is counted. An edge
whose source or target is missing is not created; when it was to replace another edge, that one is
gone nevertheless.
-/
namespace WikiGraph

/-- What a reconciliation did (`RelationChanges`). -/
structure RelationChanges where
  created : Nat := 0
  updated : Nat := 0
  replaced : Nat := 0
  deleted : Nat := 0
  unchanged : Nat := 0
  /-- Edges not created because one of their ends is missing. -/
  skipped : Nat := 0
deriving DecidableEq, Repr

namespace RelationChanges

/-- The number of edge writes (`RelationChanges::churn`). -/
def churn (c : RelationChanges) : Nat := c.created + c.updated + c.replaced + c.deleted

instance : Add RelationChanges where
  add a b :=
    { created := a.created + b.created
      updated := a.updated + b.updated
      replaced := a.replaced + b.replaced
      deleted := a.deleted + b.deleted
      unchanged := a.unchanged + b.unchanged
      skipped := a.skipped + b.skipped }

variable (a b : RelationChanges)

@[simp] theorem created_add : (a + b).created = a.created + b.created := rfl

@[simp] theorem updated_add : (a + b).updated = a.updated + b.updated := rfl

@[simp] theorem replaced_add : (a + b).replaced = a.replaced + b.replaced := rfl

@[simp] theorem deleted_add : (a + b).deleted = a.deleted + b.deleted := rfl

@[simp] theorem unchanged_add : (a + b).unchanged = a.unchanged + b.unchanged := rfl

@[simp] theorem skipped_add : (a + b).skipped = a.skipped + b.skipped := rfl

@[simp] theorem churn_add : (a + b).churn = a.churn + b.churn := by
  simp only [churn, created_add, updated_add, replaced_add, deleted_add]
  omega

end RelationChanges

variable {σ : Type}

/-- Takes one step for the edges of `source` and answers what it did. -/
def RelationAction.carryOut (store : Store σ) (source : SubjectId) :
    RelationAction → StoreM σ RelationChanges
  | .create r => do
    if ← store.createRelation source r then return { created := 1 } else return { skipped := 1 }
  | .update r => do
    store.updateRelation source r
    return { updated := 1 }
  | .replace r => do
    store.deleteRelation source r.id
    if ← store.createRelation source r then return { replaced := 1 }
    else return { deleted := 1, skipped := 1 }
  | .delete id => do
    store.deleteRelation source id
    return { deleted := 1 }

/-- Takes steps one after the other, adding to what was done before. -/
def carryOutAll (store : Store σ) (source : SubjectId) (before : RelationChanges) :
    List RelationAction → StoreM σ RelationChanges
  | [] => return before
  | a :: rest => do
    let changes ← a.carryOut store source
    carryOutAll store source (before + changes) rest

/-- Brings the outgoing edges of `source` in line with its declared relations, in the current
transaction (`RelationReconciler::reconcile`). -/
def reconcileRelations (store : Store σ) (source : SubjectId) (target : RelationList) :
    StoreM σ RelationChanges := do
  let existing ← store.outgoing source
  let plan := RelationPlan.between existing target
  carryOutAll store source { unchanged := plan.unchanged } plan.actions

end WikiGraph
