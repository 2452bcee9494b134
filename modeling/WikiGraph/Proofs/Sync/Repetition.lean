import WikiGraph.Proofs.Sync.Idempotence
import WikiGraph.Proofs.Sync.Surplus
/-!
# Reconciling again

Whatever edges a subject has, a reconciliation leaves them at rest: the first edge of a declared
identifier compares equal to its relation, surplus edges behind it are not looked at, and a relation
without an edge lacks one of its ends (`SettledBy.of_actionFor`). So a second one does nothing, and the
first touches nothing but the edges of its subject, whatever operations came before
(`Memory.reconcile_settles_in_one_pass`).
-/
namespace WikiGraph

namespace SettledBy

variable {joinable : Relation → Prop} [DecidablePred joinable] {target : RelationList}
  {before after : List Relation} {r : Relation}

/-- Edges that were settled need no step but the creation of relations that lack an end. -/
theorem of_actionFor (h : SettledBy joinable target before after) (hr : r ∈ target.toList)
    (hc : r.properties.IsComparable)
    (hj : ∀ e ∈ slot r.id before, e.target = r.target → joinable r) {a : RelationAction}
    (ha : RelationPlan.actionFor after r = some a) : a = .create r ∧ ¬joinable r := by
  unfold RelationPlan.actionFor at ha
  rw [find?_eq_head?_slot, h.settled r hr] at ha
  cases hhead : (r.settledEdges (joinable r) (slot r.id before)).head? with
  | none =>
    rw [hhead] at ha
    have hnil := List.head?_eq_none_iff.1 hhead
    exact ⟨(Option.some.inj ha).symm, fun hends => settledEdges_ne_nil hends hnil⟩
  | some e =>
    have hsame := Relation.same_iff.1 (head_settledEdges hc hj hhead).1
    simp [hhead, hsame] at ha

/-- Every edge that is left is declared. -/
theorem undeclared_eq_nil (h : SettledBy joinable target before after) :
    RelationPlan.undeclared after target = [] := by
  refine List.eq_nil_iff_forall_not_mem.2 fun id hid => ?_
  obtain ⟨hm, hn⟩ := RelationPlan.mem_undeclared.1 hid
  obtain ⟨e, he, rfl⟩ := List.mem_map.1 hm
  exact hn (h.id_mem he)

end SettledBy

namespace Graph

variable {g : Graph} {target : RelationList}

/-- **A reconciliation leaves the edges of its source at rest.** -/
theorem Intact.atRest_reconcile (hg : g.Intact) (source : SubjectId)
    (hc : ∀ r ∈ target.toList, r.properties.IsComparable) :
    AtRest (g.reconcile source target).2 source target where
  declared := (slots_reconcile g source target).2.undeclared_eq_nil
  steps r hr _ ha := by
    rw [(slots_reconcile g source target).1.subjects]
    exact (slots_reconcile g source target).2.of_actionFor hr (hc r hr)
      (fun _ he ht => hg.joinable_of_mem_slot he ht) ha

/-- A second reconciliation changes nothing, and counts every relation as unchanged or as skipped. -/
theorem Intact.reconcile_reconcile (hg : g.Intact) (source : SubjectId)
    (hc : ∀ r ∈ target.toList, r.properties.IsComparable) :
    ∃ d : RelationChanges,
      (g.reconcile source target).2.reconcile source target = (d, (g.reconcile source target).2) ∧
        d.Quiet target.size :=
  (hg.atRest_reconcile source hc).reconcile

end Graph

namespace Memory

open WikiGraph.Graph

/-- **One pass settles the edges of a subject, and touches nothing else.** In whatever state operations
have brought a store in memory, and whatever edges the subject has there, a reconciliation succeeds when
no relation write is made to fail, changes nothing but the edges of its subject, and a second one with
the same relations leaves the whole store as it is, the counter included; it counts no change, and every
relation as unchanged or as skipped. So it is for a reconciliation in a transaction of its own, and for
one in a transaction that is open. -/
theorem reconcile_settles_in_one_pass (actions : List Action) (source : SubjectId)
    (target : RelationList) (hc : ∀ r ∈ target.toList, r.properties.IsComparable) :
    ((run {} actions).failsRelationWrites = false →
      ∃ changes again after,
        reconcile store source target (run {} actions) = (.ok changes, after) ∧
        SameBeside (run {} actions).committed source after.committed ∧
        reconcile store source target after = (.ok again, after) ∧
        again.churn = 0 ∧ again.unchanged + again.skipped = target.size) ∧
    ∀ g, (run {} actions).transaction = some ⟨some g, false⟩ →
      ∃ changes again h,
        reconcileRelations store source target (run {} actions) =
          (.ok changes, (run {} actions).holding h false) ∧
        SameBeside g source h ∧
        reconcileRelations store source target ((run {} actions).holding h false) =
          (.ok again, (run {} actions).holding h false) ∧
        again.churn = 0 ∧ again.unchanged + again.skipped = target.size := by
  have hintact : Intact (run {} actions) := intact_new.run actions
  constructor
  · intro hf
    obtain ⟨d, hd, hchurn, hcount⟩ := hintact.committed.reconcile_reconcile source hc
    refine ⟨_, d, _, reconcile_of_not_failing hf source target,
      (slots_reconcile _ source target).1, ?_, hchurn, hcount⟩
    have hagain := reconcile_of_not_failing (m := (run {} actions).finished
      ((run {} actions).committed.reconcile source target).2) hf source target
    rw [hagain]
    simp only [finished, hd]
  · intro g hopen
    have hheld : run {} actions = (run {} actions).holding g false := by
      rw [holding, ← hopen]
    have hg : g.Intact := hintact.working g (by rw [working?, hopen]; rfl)
    obtain ⟨d, hd, hchurn, hcount⟩ := hg.reconcile_reconcile source hc
    have hfirst := (follows_reconcileRelations source target).of_not_failing (run {} actions) g
    have hagain := (follows_reconcileRelations source target).of_not_failing (run {} actions)
      (g.reconcile source target).2
    rw [← hheld] at hfirst
    rw [hd] at hagain
    exact ⟨_, d, _, hfirst, (slots_reconcile g source target).1, hagain, hchurn, hcount⟩

/-- Ann's relations: Bob is her friend, and so is Carol, who has no node. -/
def bondAndMissing : RelationList := .ofList [bond "FRIEND", ⟨⟨"q"⟩, ⟨"FRIEND"⟩, ⟨"carol"⟩, ∅⟩]

/-- An enemy and a friend under one identifier are replaced by the friend at the first pass, and the edge
to Carol is skipped at either pass. -/
theorem bondAndMissing_settled :
    (∃ again after,
      reconcile store ⟨"ann"⟩ bondAndMissing (run {} (bonding ["ENEMY", "FRIEND"])) =
        (.ok { replaced := 1, skipped := 1 }, after) ∧
      reconcile store ⟨"ann"⟩ bondAndMissing after = (.ok again, after) ∧
      again.churn = 0 ∧ again.unchanged + again.skipped = 2) ∧
    ∃ again h,
      reconcileRelations store ⟨"ann"⟩ bondAndMissing
          (run {} (bonding ["ENEMY", "FRIEND"] ++ [.call .start])) =
        (.ok { replaced := 1, skipped := 1 },
          (run {} (bonding ["ENEMY", "FRIEND"] ++ [.call .start])).holding h false) ∧
      reconcileRelations store ⟨"ann"⟩ bondAndMissing
          ((run {} (bonding ["ENEMY", "FRIEND"] ++ [.call .start])).holding h false) =
        (.ok again, (run {} (bonding ["ENEMY", "FRIEND"] ++ [.call .start])).holding h false) ∧
      again.churn = 0 ∧ again.unchanged + again.skipped = 2 := by
  have hnone : ∀ r ∈ bondAndMissing.toList, r.properties.toList = [] := by decide +kernel
  have hc : ∀ r ∈ bondAndMissing.toList, r.properties.IsComparable := fun r hr =>
    Properties.isComparable_of_toList_nil (hnone r hr)
  constructor
  · obtain ⟨changes, again, after, hfirst, -, hagain, hchurn, hcount⟩ :=
      (reconcile_settles_in_one_pass (bonding ["ENEMY", "FRIEND"]) ⟨"ann"⟩ bondAndMissing hc).1 rfl
    have hrun : reconcile store ⟨"ann"⟩ bondAndMissing (run {} (bonding ["ENEMY", "FRIEND"])) =
        (.ok { replaced := 1, skipped := 1 }, _) := rfl
    obtain rfl : { replaced := 1, skipped := 1 } = changes :=
      Except.ok.inj (Prod.mk.inj (hrun.symm.trans hfirst)).1
    exact ⟨again, after, hfirst, hagain, hchurn, hcount⟩
  · obtain ⟨changes, again, h, hfirst, -, hagain, hchurn, hcount⟩ :=
      (reconcile_settles_in_one_pass (bonding ["ENEMY", "FRIEND"] ++ [.call .start]) ⟨"ann"⟩
        bondAndMissing hc).2 _ rfl
    have hrun : reconcileRelations store ⟨"ann"⟩ bondAndMissing
        (run {} (bonding ["ENEMY", "FRIEND"] ++ [.call .start])) =
        (.ok { replaced := 1, skipped := 1 }, _) := rfl
    obtain rfl : { replaced := 1, skipped := 1 } = changes :=
      Except.ok.inj (Prod.mk.inj (hrun.symm.trans hfirst)).1
    exact ⟨again, h, hfirst, hagain, hchurn, hcount⟩

end Memory
end WikiGraph
