import WikiGraph.Proofs.Graph.EdgeCount
import WikiGraph.Proofs.Sync.Plan
/-!
# What a plan does and what it reports

A plan reports its steps, and the graph counts changes and holds edges; the two agree because no step
misses. Where edges have distinct identifiers, each deletion and each replacement finds exactly one edge
and each update one whose properties differ (`RelationAction.Hits`), also after the steps before it, which
touch other identifiers. So one step moves the counter and the number of edges by what it reports
(`accounted_act`), and so does a plan (`accounted_reconcile`) and a pass over all subjects of a page.
-/
namespace WikiGraph

/-! ## One step -/

/-- What a step finds under its identifier: nothing is asked of a creation, an update finds an edge with
other properties first, and a replacement and a deletion find one edge. -/
def RelationAction.Hits (held : List Relation) : RelationAction → Prop
  | .create _ => True
  | .update r => ∃ e ∈ held.head?, ¬e.properties.same r.properties
  | .replace _ => held.length = 1
  | .delete _ => held.length = 1

namespace Graph

variable {g h k : Graph} {source : SubjectId} {c d : RelationChanges}

/-- Counter and edges have moved by what the changes to edges say. -/
structure Accounted (c : RelationChanges) (g h : Graph) : Prop where
  counter : h.mutations = g.mutations + c.created + c.updated + 2 * c.replaced + c.deleted
  edges : h.relationCount + c.deleted = g.relationCount + c.created

theorem Accounted.trans (hc : Accounted c g h) (hd : Accounted d h k) : Accounted (c + d) g k := by
  obtain ⟨hcounter, hedges⟩ := hc
  obtain ⟨hcounter', hedges'⟩ := hd
  constructor
  · simp only [RelationChanges.created_add, RelationChanges.updated_add,
      RelationChanges.replaced_add, RelationChanges.deleted_add]
    omega
  · rw [RelationChanges.created_add, RelationChanges.deleted_add]
    omega

theorem accounted_unchanged (n : Nat) (g : Graph) : Accounted { unchanged := n } g g := ⟨rfl, rfl⟩

/-- A creation adds an edge and counts, or does nothing. -/
theorem createRelation_cases (source : SubjectId) (r : Relation) (g : Graph) :
    (g.createRelation source r = (false, g)) ∨
      (g.createRelation source r).1 = true ∧
        (g.createRelation source r).2.mutations = g.mutations + 1 ∧
        (g.createRelation source r).2.relationCount = g.relationCount + 1 := by
  by_cases hends : source ∈ g.subjects ∧ r.target ∈ g.subjects
  · refine .inr ?_
    have hcount := relationCount_of_others (g := g) (h := (g.createRelation source r).2) fun t ht =>
      relationsFrom_act_of_ne ht g (.create r)
    have hlist := relationsFrom_createRelation source r g source
    rw [if_pos ⟨rfl, hends⟩] at hlist
    rw [hlist, List.length_append, List.length_singleton] at hcount
    refine ⟨?_, ?_, by omega⟩
    · simp [createRelation, hends]
    · simp [createRelation, hends, counted]
  · exact .inl (if_neg hends)

/-- A deletion that finds one edge takes it away and counts. -/
theorem deleteRelation_of_slot {id : RelationId}
    (hs : (slot id (g.relationsFrom source)).length = 1) :
    (g.deleteRelation source id).mutations = g.mutations + 1 ∧
      (g.deleteRelation source id).relationCount + 1 = g.relationCount := by
  have hlength : ((g.relationsFrom source).filter (·.id ≠ id)).length + 1 =
      (g.relationsFrom source).length := by
    have hsplit := List.length_eq_countP_add_countP (l := g.relationsFrom source) fun e => e.id = id
    rw [slot, ← List.countP_eq_length_filter] at hs
    rw [← List.countP_eq_length_filter]
    simp only [ne_eq, decide_eq_true_eq] at hsplit ⊢
    omega
  constructor
  · have hne : ¬((g.relationsFrom source).filter (·.id ≠ id)).length =
        (g.relationsFrom source).length := by omega
    simp only [deleteRelation, if_neg hne]
    split <;> rfl
  · have hcount := relationCount_of_others (g := g) (h := g.deleteRelation source id) fun t ht =>
      relationsFrom_act_of_ne ht g (.delete id)
    have hlist := relationsFrom_deleteRelation source id g source
    rw [if_pos rfl] at hlist
    rw [hlist] at hcount
    omega

/-- An update that finds other properties counts, and leaves as many edges. -/
theorem updateRelation_of_head? {r e : Relation}
    (hs : (slot r.id (g.relationsFrom source)).head? = some e)
    (hp : ¬e.properties.same r.properties) :
    (g.updateRelation source r).mutations = g.mutations + 1 ∧
      (g.updateRelation source r).relationCount = g.relationCount := by
  have hfind : (g.relationsFrom source).find? (·.id = r.id) = some e :=
    (find?_eq_head?_slot r.id _).trans hs
  constructor
  · simp [updateRelation, hfind, hp, counted]
  · have hcount := relationCount_of_others (g := g) (h := g.updateRelation source r) fun t ht =>
      relationsFrom_act_of_ne ht g (.update r)
    have hlist := relationsFrom_updateRelation source r g source
    rw [if_pos rfl, updatedEdges, hfind] at hlist
    simp only [if_neg hp] at hlist
    have hlength : (withProperties r.id r.properties (g.relationsFrom source)).length =
        (g.relationsFrom source).length := by
      simpa using congrArg List.length
        (map_target_withProperties r.id r.properties (g.relationsFrom source))
    rw [hlist] at hcount
    omega

/-- **One step** that finds what it expects does what it reports. -/
theorem accounted_act {a : RelationAction} (ha : a.Hits (slot a.id (g.relationsFrom source))) :
    Accounted (a.act source g).1 g (a.act source g).2 := by
  cases a with
  | create r =>
    rcases createRelation_cases source r g with hc | ⟨hc, hcounter, hedges⟩
    · simp only [RelationAction.act, hc]
      exact ⟨rfl, rfl⟩
    · simp only [RelationAction.act, hc]
      exact ⟨hcounter, hedges⟩
  | update r =>
    obtain ⟨e, he, hp⟩ := ha
    obtain ⟨hcounter, hedges⟩ := updateRelation_of_head? he hp
    exact ⟨hcounter, hedges⟩
  | replace r =>
    obtain ⟨hcounter, hedges⟩ : (g.deleteRelation source r.id).mutations = g.mutations + 1 ∧
        (g.deleteRelation source r.id).relationCount + 1 = g.relationCount :=
      deleteRelation_of_slot ha
    rcases createRelation_cases source r (g.deleteRelation source r.id) with
      hc | ⟨hc, hcounter', hedges'⟩
    · simp only [RelationAction.act, hc]
      exact ⟨hcounter, hedges⟩
    · simp only [RelationAction.act, hc]
      constructor
      · simpa using hcounter'.trans (congrArg (· + 1) hcounter)
      · exact hedges'.trans hedges
  | delete id =>
    obtain ⟨hcounter, hedges⟩ := deleteRelation_of_slot ha
    exact ⟨hcounter, hedges⟩

/-! ## A plan, and the subjects of a page -/

/-- Steps that find what they expect, each under an identifier of its own, do what they report: none of
them touches what another one finds. -/
theorem accounted_foldl {actions : List RelationAction}
    (hn : (actions.map RelationAction.id).Nodup)
    (ha : ∀ a ∈ actions, a.Hits (slot a.id (h.relationsFrom source))) (hc : Accounted c g h) :
    Accounted (actions.foldl (RelationAction.actAfter source) (c, h)).1 g
      (actions.foldl (RelationAction.actAfter source) (c, h)).2 := by
  induction actions generalizing c h with
  | nil => exact hc
  | cons a rest ih =>
    obtain ⟨hid, hrest⟩ := List.nodup_cons.1 hn
    rw [List.foldl_cons]
    refine ih hrest (fun b hb => ?_) (hc.trans (accounted_act (ha a List.mem_cons_self)))
    have hne : b.id ≠ a.id := fun e => hid (e ▸ List.mem_map_of_mem hb)
    show b.Hits (slot b.id ((a.act source h).2.relationsFrom source))
    rw [slot_act_of_ne hne]
    exact ha b (List.mem_cons_of_mem a hb)

end Graph

/-- **No step of a plan misses** on the edges that it was made for, if their identifiers are distinct. -/
theorem RelationPlan.hits_of_mem_actions {existing : List Relation} {target : RelationList}
    {a : RelationAction} (hn : (existing.map Relation.id).Nodup)
    (ha : a ∈ (between existing target).actions) : a.Hits (slot a.id existing) := by
  rcases List.mem_append.1 ha with hdelete | hstep
  · obtain ⟨id, hid, rfl⟩ := List.mem_map.1 hdelete
    obtain ⟨e, he, rfl⟩ := List.mem_map.1 (mem_undeclared.1 hid).1
    have hpos : 0 < (slot e.id existing).length := List.length_pos_of_mem (mem_slot_self he)
    have hle : (slot e.id existing).length ≤ 1 := length_slot_le_one hn e.id
    show (slot e.id existing).length = 1
    omega
  · obtain ⟨r, -, hr⟩ := List.mem_filterMap.1 hstep
    rw [actionFor_id hr]
    unfold actionFor at hr
    cases hf : existing.find? (·.id = r.id) with
    | none =>
      rw [hf] at hr
      obtain rfl := Option.some.inj hr
      trivial
    | some e =>
      have hslot : slot r.id existing = [e] := slot_of_find? hn hf
      simp only [hf] at hr
      split at hr
      · obtain rfl := Option.some.inj hr
        simp [RelationAction.Hits, hslot]
      · split at hr
        · cases hr
        · rename_i hp
          obtain rfl := Option.some.inj hr
          exact ⟨e, by simp [hslot], hp⟩

namespace Graph

variable {g h : Graph} {c : RelationChanges}

/-- **A reconciliation** does what it reports. -/
theorem accounted_reconcile (hg : g.Sound) (source : SubjectId) (target : RelationList) :
    Accounted (g.reconcile source target).1 g (g.reconcile source target).2 :=
  accounted_foldl (RelationPlan.nodup_actions _ target)
    (fun _ ha => RelationPlan.hits_of_mem_actions (hg.distinct source) ha)
    (accounted_unchanged _ g)

/-- Reconciliations of subjects, one after the other, do what they report together. -/
theorem accounted_reconcileAfter_foldl (subjects : List Subject) (hh : h.Sound)
    (hc : Accounted c g h) :
    Accounted (subjects.foldl Subject.reconcileAfter (c, h)).1 g
      (subjects.foldl Subject.reconcileAfter (c, h)).2 := by
  induction subjects generalizing c h with
  | nil => exact hc
  | cons s rest ih =>
    rw [List.foldl_cons]
    exact ih (sound_reconcile hh s.id s.relations)
      (hc.trans (accounted_reconcile hh s.id s.relations))

end Graph
end WikiGraph
