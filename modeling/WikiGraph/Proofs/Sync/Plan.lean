import Mathlib.Data.Finset.Dedup
import Mathlib.Data.Finset.Card
import Mathlib.Data.List.Perm.Basic
import WikiGraph.Proofs.KeyedList
import WikiGraph.Proofs.Sync.Surplus
/-!
# What a plan makes of a list of edges

A plan is a list of steps, and what it comes to is the effect of its steps one after the other
(`RelationPlan.applied`): an edge is deleted by its identifier and created at the end of the list, its
properties are replaced in place, and a replacement deletes it and creates it anew.

Edges with distinct identifiers thereby become the declared relations, with no step that could be spared
(`RelationPlan.turns_edges_into_target`). In a graph in which no declared relation lacks an end, the
edges of a subject become the same ones (`Graph.relationsFrom_reconcile_perm_applied`).
-/
namespace WikiGraph

/-! ## Steps on a list -/

namespace RelationAction

/-- The edges after a step. -/
def applyTo (edges : List Relation) : RelationAction → List Relation
  | .create r => edges ++ [r]
  | .update r => Graph.withProperties r.id r.properties edges
  | .replace r => edges.filter (·.id ≠ r.id) ++ [r]
  | .delete id => edges.filter (·.id ≠ id)

def relation? : RelationAction → Option Relation
  | .create r => some r
  | .update r => some r
  | .replace r => some r
  | .delete _ => none

end RelationAction

/-- On a list, a step makes of the edges what it should; every relation can be added. -/
theorem stepsOn_applyTo :
    StepsOn RelationAction.applyTo (fun edges => edges) (fun _ => True) (fun _ => True) where
  keeps _ _ _ := trivial
  other edges a id hid := by
    cases a with
    | create r => rw [RelationAction.applyTo, slot_append, slot_singleton_of_ne hid, List.append_nil]
    | update r => exact slot_withProperties_of_ne hid r.properties edges
    | replace r =>
      rw [RelationAction.applyTo, slot_append, slot_singleton_of_ne hid, List.append_nil]
      exact slot_filter_of_ne hid edges
    | delete other => exact slot_filter_of_ne hid edges
  create _ r _ hnil := by
    rw [RelationAction.applyTo, slot_append, hnil, slot_singleton_self, List.nil_append,
      if_pos trivial]
  update _ r e rest hslot _ := by
    have hid : e.id = r.id := (mem_slot.1 (hslot ▸ List.mem_cons_self)).2
    rw [RelationAction.applyTo, slot_withProperties_self, hslot, Graph.withProperties, if_pos hid]
  replace edges r _ := by
    rw [RelationAction.applyTo, slot_append, slot_filter_self, slot_singleton_self, List.nil_append,
      if_pos trivial]
  delete edges id := slot_filter_self id edges

/-! ## The steps of a plan -/

namespace RelationPlan

variable {existing existing' : List Relation} {target : RelationList} {r : Relation}

def applied (p : RelationPlan) (edges : List Relation) : List Relation :=
  p.actions.foldl RelationAction.applyTo edges

/-- The edge and the declared relation of an identifier differ, or there is only one of them. -/
def OutOfLine (existing declared : List Relation) (id : RelationId) : Prop :=
  match existing.find? (·.id = id), declared.find? (·.id = id) with
  | some e, some r => ¬e.same r
  | none, none => False
  | _, _ => True

/-- **A plan settles the edges it was made for.** -/
theorem settledBy_applied (existing : List Relation) (target : RelationList) :
    SettledBy (fun _ => True) target existing ((between existing target).applied existing) :=
  (stepsOn_applyTo.settledBy trivial target).2

/-- Edges with distinct identifiers have no surplus. -/
theorem not_hasSurplus_of_nodup (hn : (existing.map Relation.id).Nodup) :
    ¬r.HasSurplus existing := by
  rintro ⟨e, rest, hslot, hne, -⟩
  have hl := length_slot_le_one hn r.id
  rw [hslot, List.length_cons] at hl
  exact hne (List.length_eq_zero_iff.1 (by omega))

/-- A declared relation needs no step exactly when the edge of its identifier compares equal to it. -/
theorem actionFor_eq_none_iff :
    actionFor existing r = none ↔ ∃ e, existing.find? (·.id = r.id) = some e ∧ e.same r := by
  unfold actionFor
  cases hf : existing.find? (·.id = r.id) with
  | none => simp
  | some e =>
    have hid : e.id = r.id := by simpa using List.find?_some hf
    simp only [Option.some.injEq, exists_eq_left', Relation.same_iff, hid, true_and]
    by_cases hends : e.type ≠ r.type ∨ e.target ≠ r.target
    · rw [if_pos hends]
      refine iff_of_false (by simp) fun h => ?_
      rcases hends with htype | htarget
      · exact htype h.1
      · exact htarget h.2.1
    · rw [if_neg hends]
      obtain ⟨htype, htarget⟩ : e.type = r.type ∧ e.target = r.target := by
        simpa [not_or] using hends
      by_cases hp : e.properties.same r.properties <;> simp [htype, htarget, hp]

theorem relation?_of_actionFor {a : RelationAction} (h : actionFor existing r = some a) :
    a.relation? = some r := by
  unfold actionFor at h
  split at h
  · cases h
    rfl
  · split at h
    · cases h
      rfl
    · split at h
      · cases h
      · cases h
        rfl

/-- The steps of declared relations declare some of them, in their order. -/
theorem map_relation?_filterMap (relations : List Relation) :
    (relations.filterMap (actionFor existing)).map RelationAction.relation? =
      (relations.filter fun r => (actionFor existing r).isSome).map some := by
  induction relations with
  | nil => rfl
  | cons r rest ih =>
    cases ha : actionFor existing r with
    | none =>
      rw [List.filterMap_cons_none ha, List.filter_cons_of_neg (by simp [ha]), ih]
    | some a =>
      rw [List.filterMap_cons_some ha, List.filter_cons_of_pos (by simp [ha]), List.map_cons,
        List.map_cons, relation?_of_actionFor ha, ih]

/-- The identifiers of the steps of declared relations. -/
theorem map_id_filterMap (relations : List Relation) :
    (relations.filterMap (actionFor existing)).map RelationAction.id =
      (relations.filter fun r => (actionFor existing r).isSome).map Relation.id := by
  induction relations with
  | nil => rfl
  | cons r rest ih =>
    cases ha : actionFor existing r with
    | none =>
      rw [List.filterMap_cons_none ha, List.filter_cons_of_neg (by simp [ha]), ih]
    | some a =>
      rw [List.filterMap_cons_some ha, List.filter_cons_of_pos (by simp [ha]), List.map_cons,
        List.map_cons, actionFor_id ha, ih]

/-- The identifiers of the steps of a plan: the undeclared ones, and those of the relations that need
a step. -/
theorem map_id_actions (existing : List Relation) (target : RelationList) :
    (between existing target).actions.map RelationAction.id =
      undeclared existing target ++
        (target.toList.filter fun r => (actionFor existing r).isSome).map Relation.id := by
  have hid : (RelationAction.id ∘ RelationAction.delete) = id := rfl
  rw [between, List.map_append, List.map_map, hid, List.map_id, map_id_filterMap]

/-- No identifier has two steps. -/
theorem nodup_actions (existing : List Relation) (target : RelationList) :
    ((between existing target).actions.map RelationAction.id).Nodup := by
  rw [map_id_actions]
  have hsub : ((target.toList.filter fun r => (actionFor existing r).isSome).map Relation.id).Sublist
      (target.toList.map Relation.id) := List.filter_sublist.map Relation.id
  refine List.nodup_append.2 ⟨nodup_undeclared existing target, target.distinct.sublist hsub,
    fun id hid other hother heq => ?_⟩
  exact (mem_undeclared.1 hid).2 (heq ▸ hsub.subset hother)

/-- A declared identifier has the relation it was declared with. -/
theorem find?_of_mem (hr : r ∈ target.toList) :
    target.toList.find? (·.id = r.id) = some r :=
  (find?_key_eq_some_iff target.distinct).2 ⟨hr, rfl⟩

/-- **An identifier has a step exactly when its edge and its relation are not in line.** -/
theorem mem_map_id_actions_iff {id : RelationId} :
    id ∈ (between existing target).actions.map RelationAction.id ↔
      OutOfLine existing target.toList id := by
  rw [map_id_actions, List.mem_append, mem_undeclared]
  by_cases hid : id ∈ target.toList.map Relation.id
  · obtain ⟨r, hr, rfl⟩ := List.mem_map.1 hid
    have hneeds : r.id ∈ (target.toList.filter fun r => (actionFor existing r).isSome).map Relation.id ↔
        actionFor existing r ≠ none := by
      constructor
      · intro h
        obtain ⟨q, hq, hqr⟩ := List.mem_map.1 h
        obtain ⟨hqm, hqs⟩ := List.mem_filter.1 hq
        have hfind := find?_of_mem hqm
        rw [hqr, find?_of_mem hr] at hfind
        rw [Option.some.inj hfind]
        exact Option.isSome_iff_ne_none.1 hqs
      · intro h
        exact List.mem_map_of_mem (List.mem_filter.2 ⟨hr, Option.isSome_iff_ne_none.2 h⟩)
    rw [hneeds, ne_eq, actionFor_eq_none_iff, OutOfLine, find?_of_mem hr]
    cases existing.find? (·.id = r.id) <;> simp [hid]
  · have hnone : target.toList.find? (·.id = id) = none :=
      List.find?_eq_none.2 fun r hr h => hid (of_decide_eq_true h ▸ List.mem_map_of_mem hr)
    have hsub : ((target.toList.filter fun r => (actionFor existing r).isSome).map Relation.id) ⊆
        target.toList.map Relation.id := (List.filter_sublist.map Relation.id).subset
    have hnot : id ∉ (target.toList.filter fun r => (actionFor existing r).isSome).map Relation.id :=
      fun h => hid (hsub h)
    rw [OutOfLine, hnone]
    cases hf : existing.find? (·.id = id) with
    | none =>
      have he : id ∉ existing.map Relation.id := fun h => by
        obtain ⟨e, he, rfl⟩ := List.mem_map.1 h
        exact List.find?_eq_none.1 hf e he (by simp)
      exact iff_of_false (not_or.2 ⟨fun h => he h.1, hnot⟩) not_false
    | some e =>
      have he : e.id = id := by simpa using List.find?_some hf
      have hm : id ∈ existing.map Relation.id :=
        he ▸ List.mem_map_of_mem (List.mem_of_find?_eq_some hf)
      simp [hid, hm]

/-- **Every identifier is counted once**, as a step or as unchanged. -/
theorem length_actions_add_unchanged (existing : List Relation) (target : RelationList) :
    (between existing target).actions.length + (between existing target).unchanged =
      ((existing ++ target.toList).map Relation.id).toFinset.card := by
  have hsplit := List.length_eq_countP_add_countP (l := target.toList)
    fun r => (actionFor existing r).isNone
  have hneeds : (target.toList.filterMap (actionFor existing)).length =
      target.toList.countP fun r => ¬(actionFor existing r).isNone := by
    rw [List.length_filterMap_eq_countP]
    congr 1
    funext r
    cases actionFor existing r <;> rfl
  -- The undeclared and the declared identifiers are those of either list, each once.
  have hids : ((existing ++ target.toList).map Relation.id).toFinset =
      (undeclared existing target ++ target.toList.map Relation.id).toFinset := by
    ext id
    simp only [List.map_append, List.toFinset_append, Finset.mem_union, List.mem_toFinset,
      mem_undeclared]
    tauto
  have hnodup : (undeclared existing target ++ target.toList.map Relation.id).Nodup :=
    List.nodup_append.2 ⟨nodup_undeclared existing target, target.distinct,
      fun id hid other hother heq => (mem_undeclared.1 hid).2 (heq ▸ hother)⟩
  have hunchanged : (between existing target).unchanged =
      target.toList.countP fun r => (actionFor existing r).isNone := rfl
  rw [hids, List.toFinset_card_of_nodup hnodup, hunchanged, between, List.length_append,
    List.length_append, List.length_map, List.length_map, hneeds]
  omega

/-! ## Edges in another order -/

theorem actionFor_of_perm (hn : (existing.map Relation.id).Nodup) (h : existing'.Perm existing) :
    actionFor existing' = actionFor existing := by
  funext r
  unfold actionFor
  rw [find?_key_of_perm hn h]

theorem undeclared_perm (h : existing'.Perm existing) :
    (undeclared existing' target).Perm (undeclared existing target) :=
  (List.perm_ext_iff_of_nodup (nodup_undeclared _ _) (nodup_undeclared _ _)).2 fun id => by
    rw [mem_undeclared, mem_undeclared, (h.map Relation.id).mem_iff]

/-! ## A plan is right, and spares no step -/

/-- **A plan turns edges with distinct identifiers into the declared relations, and has no step that
could be spared.** Its steps, one after the other, leave the declared relations and nothing else. No
identifier has two steps, and one has a step exactly when its edge and its relation differ or only one of
the two is there; every other identifier is counted as unchanged. The deletions come first, then the
steps of declared relations in their order. In another order of the edges, the same plan results but for
the order of its deletions. -/
theorem turns_edges_into_target {existing : List Relation} {target : RelationList}
    (hn : (existing.map Relation.id).Nodup)
    (hc : ∀ r ∈ target.toList, r.properties.IsComparable) :
    ShowsRelations (fun _ => True) target.toList ((between existing target).applied existing) ∧
      ((between existing target).actions.map RelationAction.id).Nodup ∧
      (∀ id, id ∈ (between existing target).actions.map RelationAction.id ↔
        OutOfLine existing target.toList id) ∧
      (between existing target).actions.length + (between existing target).unchanged =
        ((existing ++ target.toList).map Relation.id).toFinset.card ∧
      ∃ (deleted : List RelationId) (steps : List RelationAction) (declared : List Relation),
        (between existing target).actions = deleted.map RelationAction.delete ++ steps ∧
        steps.map RelationAction.relation? = declared.map some ∧ declared.Sublist target.toList ∧
        ∀ existing' : List Relation, existing'.Perm existing →
          ∃ deleted' : List RelationId, deleted'.Perm deleted ∧
            (between existing' target).actions = deleted'.map RelationAction.delete ++ steps ∧
            (between existing' target).unchanged = (between existing target).unchanged := by
  refine ⟨?_, nodup_actions existing target, fun _ => mem_map_id_actions_iff,
    length_actions_add_unchanged existing target, undeclared existing target,
    target.toList.filterMap (actionFor existing),
    target.toList.filter fun r => (actionFor existing r).isSome, rfl,
    map_relation?_filterMap target.toList, List.filter_sublist, fun existing' h => ?_⟩
  · exact (settledBy_applied existing target).showsRelations hc (fun _ _ _ _ _ => trivial)
      (fun _ _ => not_hasSurplus_of_nodup hn) fun _ _ => Iff.rfl
  · refine ⟨undeclared existing' target, undeclared_perm h, ?_, ?_⟩
    · rw [between, actionFor_of_perm hn h]
    · rw [between, between, actionFor_of_perm hn h]

def threeEdges : List Relation :=
  [⟨⟨"a"⟩, ⟨"KNOWS"⟩, ⟨"bob"⟩, ∅⟩, ⟨⟨"b"⟩, ⟨"KNOWS"⟩, ⟨"bob"⟩, ∅⟩, ⟨⟨"c"⟩, ⟨"KNOWS"⟩, ⟨"bob"⟩, ∅⟩]

/-- Of the three edges one takes a property and one another target, and there is a new one. -/
def threeWishes : RelationList :=
  .ofList [⟨⟨"c"⟩, ⟨"KNOWS"⟩, ⟨"bob"⟩, ({} : Properties).insert "since" (.float .zero)⟩,
    ⟨⟨"b"⟩, ⟨"KNOWS"⟩, ⟨"cid"⟩, ∅⟩, ⟨⟨"d"⟩, ⟨"LIKES"⟩, ⟨"bob"⟩, ∅⟩]

/-- One edge goes, one takes other properties, one is replaced, and one is created. -/
theorem threeEdges_turned :
    (between threeEdges threeWishes).actions.map RelationAction.id = [⟨"a"⟩, ⟨"c"⟩, ⟨"b"⟩, ⟨"d"⟩] ∧
      ShowsRelations (fun _ => True) threeWishes.toList
        ((between threeEdges threeWishes).applied threeEdges) := by
  have hc : ∀ r ∈ threeWishes.toList, ∀ entry ∈ r.properties.toList, entry.2.isComparable := by
    decide +kernel
  have hn : (threeEdges.map Relation.id).Nodup := by decide +kernel
  have hturned := turns_edges_into_target hn fun r hr => Properties.isComparable_of_toList (hc r hr)
  exact ⟨by decide +kernel, hturned.1⟩

end RelationPlan

/-! ## On a graph -/

/-- Lists with the same edges under every identifier have the same edges. -/
theorem perm_of_slots {a b : List Relation} (h : ∀ id, slot id a = slot id b) : a.Perm b := by
  refine List.perm_iff_count.2 fun e => ?_
  have hcount : ∀ edges : List Relation, edges.count e = (slot e.id edges).count e := fun edges =>
    (List.count_filter (p := fun x : Relation => decide (x.id = e.id)) (decide_eq_true rfl)).symm
  rw [hcount a, hcount b, h e.id]

/-- Edges that were settled in the same way are the same edges. -/
theorem SettledBy.perm {joinable joinable' : Relation → Prop} [DecidablePred joinable]
    [DecidablePred joinable'] {target : RelationList} {before after after' : List Relation}
    (h : SettledBy joinable target before after) (h' : SettledBy joinable' target before after')
    (hj : ∀ r ∈ target.toList, joinable r ↔ joinable' r) : after.Perm after' := by
  refine perm_of_slots fun id => ?_
  by_cases hid : id ∈ target.toList.map Relation.id
  · obtain ⟨r, hr, rfl⟩ := List.mem_map.1 hid
    rw [h.settled r hr, h'.settled r hr]
    simp only [hj r hr]
  · rw [h.gone id hid, h'.gone id hid]

/-- **A graph in which no declared relation lacks an end** has the edges that the plan makes of the list
of its edges. -/
theorem Graph.relationsFrom_reconcile_perm_applied {g : Graph} {source : SubjectId}
    {target : RelationList} (hs : source ∈ g.subjects)
    (ht : ∀ r ∈ target.toList, r.target ∈ g.subjects) :
    ((g.reconcile source target).2.relationsFrom source).Perm
      ((RelationPlan.between (g.relationsFrom source) target).applied (g.relationsFrom source)) :=
  (Graph.slots_reconcile g source target).2.perm (RelationPlan.settledBy_applied _ target)
    fun r hr => iff_true_intro ⟨hs, ht r hr⟩

end WikiGraph
