import Mathlib.Data.List.Basic
import Mathlib.Data.List.Nodup
import WikiGraph.Proofs.KeyedList
import WikiGraph.Proofs.Sync.Edges
/-!
# The edges of a subject in their order

A reconciliation leaves the edges of a subject in a definite order: those that stay come first, in
the order they had, and then the relations that no edge was for, in the order of their declaration
(`inLine`). An edge that is replaced thereby moves to the end, as if it had not been there before.
So the list depends on the earlier edges only through those that join the same ends as a declared
relation (`inLine_filter`), and `relationsFrom_reconcile` says that it is what the plan comes to, step
by step.
-/
namespace WikiGraph

/-! ## The list in line with declarations -/

/-- What a declared relation makes of an edge. One with another identifier is left alone. One with its
own stays if it joins as declared, with the properties declared, and goes otherwise. -/
def Relation.adjust (r e : Relation) : Option Relation :=
  if e.id ≠ r.id then some e
  else if e.type ≠ r.type ∨ e.target ≠ r.target then none
  else some (if e.properties.same r.properties then e else r)

/-- No edge joins as the relation declares. -/
def Relation.isNewTo (edges : List Relation) (r : Relation) : Bool :=
  edges.all fun e => e.id ≠ r.id ∨ e.type ≠ r.type ∨ e.target ≠ r.target

/-- What declared relations make of an edge: the one with its identifier, if any, adjusts it. -/
def adjustBy (relations : List Relation) (e : Relation) : Option Relation :=
  match relations.find? (·.id = e.id) with
  | some r => r.adjust e
  | none => some e

def declares (relations : List Relation) (id : RelationId) : Bool := relations.any (·.id = id)

/-- The edges that are in line with declared relations, given the edges there were: those with a
declared identifier, adjusted, and then the new ones. -/
def inLine (relations edges : List Relation) : List Relation :=
  (edges.filter (declares relations ·.id)).filterMap (adjustBy relations) ++
    relations.filter (Relation.isNewTo edges)

variable {r e : Relation} {relations edges : List Relation}

theorem declares_iff {id : RelationId} :
    declares relations id ↔ id ∈ relations.map Relation.id := by
  simp [declares]

theorem Relation.adjust_of_ne (h : e.id ≠ r.id) : r.adjust e = some e := if_pos h

/-- What comes of an edge has its identifier, and the target that is declared. -/
theorem Relation.of_adjust {e' : Relation} (hid : e.id = r.id) (h : r.adjust e = some e') :
    e'.id = r.id ∧ e.target = r.target ∧ e'.target = r.target := by
  unfold adjust at h
  rw [if_neg (not_not.2 hid)] at h
  split at h
  · cases h
  · rename_i hends
    rw [not_or, not_not, not_not] at hends
    cases h
    split <;> simp [hid, hends.2]

theorem adjustBy_cons :
    adjustBy (r :: relations) e = if e.id = r.id then r.adjust e else adjustBy relations e := by
  unfold adjustBy
  by_cases h : e.id = r.id
  · rw [List.find?_cons_of_pos (by simp [h]), if_pos h]
  · rw [List.find?_cons_of_neg (by simpa using fun hr => h hr.symm), if_neg h]

theorem adjustBy_of_not_mem (h : e.id ∉ relations.map Relation.id) :
    adjustBy relations e = some e := by
  have hf : relations.find? (·.id = e.id) = none := by
    refine List.find?_eq_none.2 fun r hr hid => h ?_
    exact of_decide_eq_true hid ▸ List.mem_map_of_mem hr
  rw [adjustBy, hf]

/-- An edge of a declared identifier comes from an edge to the declared target. -/
theorem of_adjustBy {e' : Relation} (hm : e.id ∈ relations.map Relation.id)
    (h : adjustBy relations e = some e') :
    ∃ r ∈ relations, e'.id = r.id ∧ e.target = r.target ∧ e'.target = r.target := by
  unfold adjustBy at h
  cases hf : relations.find? (·.id = e.id) with
  | none =>
    obtain ⟨r, hr, hid⟩ := List.mem_map.1 hm
    exact absurd (decide_eq_true hid) (List.find?_eq_none.1 hf r hr)
  | some r =>
    rw [hf] at h
    have hid : r.id = e.id := by simpa using List.find?_some hf
    exact ⟨r, List.mem_of_find?_eq_some hf, Relation.of_adjust hid.symm h⟩

/-- An edge that is in line joins what a declared relation joins. -/
theorem declared_of_mem_inLine (h : e ∈ inLine relations edges) :
    ∃ r ∈ relations, e.id = r.id ∧ e.target = r.target := by
  rcases List.mem_append.1 h with h | h
  · obtain ⟨old, hold, he⟩ := List.mem_filterMap.1 h
    obtain ⟨r, hr, hid, -, ht⟩ := of_adjustBy (declares_iff.1 (List.mem_filter.1 hold).2) he
    exact ⟨r, hr, hid, ht⟩
  · exact ⟨e, (List.mem_filter.1 h).1, rfl, rfl⟩

/-- **Edges that join no declared ends do not matter**: without them the same list is in line. -/
theorem inLine_filter (keep : Relation → Bool)
    (hk : ∀ e ∈ edges, ∀ r ∈ relations, e.target = r.target → keep e) :
    inLine relations (edges.filter keep) = inLine relations edges := by
  unfold inLine
  congr 1
  · rw [List.filter_filter, List.filterMap_filter, List.filterMap_filter]
    refine List.filterMap_congr fun e he => ?_
    by_cases hd : declares relations e.id
    · cases ha : adjustBy relations e with
      | none => simp
      | some e' =>
        obtain ⟨r, hr, -, ht, -⟩ := of_adjustBy (declares_iff.1 hd) ha
        simp [hk e he r hr ht]
    · simp [hd]
  · refine List.filter_congr fun r hr => ?_
    rw [Relation.isNewTo, Relation.isNewTo, List.all_filter, Bool.eq_iff_iff, List.all_eq_true,
      List.all_eq_true]
    refine forall_congr' fun e => forall_congr' fun he => ?_
    by_cases ht : e.target = r.target
    · simp [hk e he r hr ht]
    · simp [ht]

/-- Edges that are declared relations stay as they are. -/
theorem filterMap_adjustBy_of_declared (hr : (relations.map Relation.id).Nodup)
    (hd : ∀ e ∈ edges, e ∈ relations) :
    (edges.filter (declares relations ·.id)).filterMap (adjustBy relations) = edges := by
  rw [List.filter_eq_self.2 fun e hm => declares_iff.2 (List.mem_map_of_mem (hd e hm))]
  refine (List.filterMap_congr fun e hm => ?_).trans List.filterMap_some
  have hf : relations.find? (·.id = e.id) = some e := (find?_key_eq_some_iff hr).2 ⟨hd e hm, rfl⟩
  simp [adjustBy, hf, Relation.adjust]

/-- A declared relation is new to them if it is none of them. -/
theorem isNewTo_iff_of_declared (hr : (relations.map Relation.id).Nodup)
    (hd : ∀ e ∈ edges, e ∈ relations) (hm : r ∈ relations) :
    Relation.isNewTo edges r ↔ r ∉ edges := by
  rw [Relation.isNewTo, List.all_eq_true]
  constructor
  · intro h hin
    simpa using h r hin
  · intro h e hin
    by_cases hid : e.id = r.id
    · exact absurd (List.inj_on_of_nodup_map hr (hd e hin) hm hid ▸ hin) h
    · simp [hid]

/-- When the edges are declared relations, being in line only adds the others. -/
theorem inLine_perm (hr : (relations.map Relation.id).Nodup) (he : (edges.map Relation.id).Nodup)
    (hd : ∀ e ∈ edges, e ∈ relations) : (inLine relations edges).Perm relations := by
  rw [inLine, filterMap_adjustBy_of_declared hr hd]
  refine (List.perm_ext_iff_of_nodup ?_ hr.of_map).2 fun x => ?_
  · refine List.nodup_append.2 ⟨he.of_map, hr.of_map.filter _, fun a ha b hb hab => ?_⟩
    obtain ⟨hm, hnew⟩ := List.mem_filter.1 hb
    exact (isNewTo_iff_of_declared hr hd hm).1 hnew (hab ▸ ha)
  · rw [List.mem_append, List.mem_filter]
    constructor
    · rintro (h | ⟨h, -⟩)
      · exact hd x h
      · exact h
    · intro h
      by_cases hx : x ∈ edges
      · exact .inl hx
      · exact .inr ⟨h, (isNewTo_iff_of_declared hr hd h).2 hx⟩

/-! ## One declared relation -/

theorem ne_of_slot_nil {id : RelationId} (h : slot id edges = []) (he : e ∈ edges) :
    e.id ≠ id := by
  intro hid
  have hm := mem_slot.2 ⟨he, hid⟩
  rw [h] at hm
  cases hm

theorem filterMap_adjust_of_slot_nil (h : slot r.id edges = []) :
    edges.filterMap r.adjust = edges :=
  (List.filterMap_congr fun _ he => Relation.adjust_of_ne (ne_of_slot_nil h he)).trans
    List.filterMap_some

theorem eq_of_slot {id : RelationId} {edge : Relation} (h : slot id edges = [edge]) (he : e ∈ edges)
    (hid : e.id = id) : e = edge := by
  have hm := mem_slot.2 ⟨he, hid⟩
  rw [h] at hm
  exact List.mem_singleton.1 hm

theorem isNewTo_of_slot_nil (h : slot r.id edges = []) : r.isNewTo edges :=
  List.all_eq_true.2 fun _ he => decide_eq_true (.inl (ne_of_slot_nil h he))

/-- A relation is new to edges if the one with its identifier joins other ends. -/
theorem isNewTo_iff_of_slot {edge : Relation} (h : slot r.id edges = [edge]) :
    r.isNewTo edges ↔ edge.type ≠ r.type ∨ edge.target ≠ r.target := by
  have hedge : edge ∈ edges ∧ edge.id = r.id := mem_slot.1 (h ▸ List.mem_singleton_self edge)
  rw [Relation.isNewTo, List.all_eq_true]
  constructor
  · intro hnew
    exact (of_decide_eq_true (hnew edge hedge.1)).resolve_left fun hn => hn hedge.2
  · intro hends e he
    refine decide_eq_true ?_
    by_cases hid : e.id = r.id
    · exact .inr (eq_of_slot h he hid ▸ hends)
    · exact .inl hid

/-- An edge that joins other ends goes. -/
theorem filterMap_adjust_of_none {edge : Relation} (h : slot r.id edges = [edge])
    (ha : r.adjust edge = none) : edges.filterMap r.adjust = edges.filter (·.id ≠ r.id) := by
  have hp : edges.filterMap (Option.guard fun x => decide (x.id ≠ r.id)) =
      edges.filter (·.id ≠ r.id) := by rw [List.filterMap_eq_filter]
  refine (List.filterMap_congr fun e he => ?_).trans hp
  by_cases hid : e.id = r.id
  · rw [eq_of_slot h he hid, ha]
    have hedge : edge.id = r.id := eq_of_slot h he hid ▸ hid
    simp [Option.guard, hedge]
  · simp [Relation.adjust_of_ne hid, Option.guard, hid]

/-- An edge that is as declared stays. -/
theorem filterMap_adjust_of_self {edge : Relation} (h : slot r.id edges = [edge])
    (ha : r.adjust edge = some edge) : edges.filterMap r.adjust = edges := by
  refine (List.filterMap_congr fun e he => ?_).trans List.filterMap_some
  by_cases hid : e.id = r.id
  · rw [eq_of_slot h he hid, ha]
  · exact Relation.adjust_of_ne hid

/-- An edge with other properties takes those of the declaration in its place. -/
theorem filterMap_adjust_of_update {edge : Relation} (h : slot r.id edges = [edge])
    (ha : r.adjust edge = some r) (hr : { edge with properties := r.properties } = r) :
    edges.filterMap r.adjust = Graph.withProperties r.id r.properties edges := by
  induction edges with
  | nil => rfl
  | cons e rest ih =>
    rw [slot_cons] at h
    unfold Graph.withProperties
    by_cases hid : e.id = r.id
    · rw [if_pos hid] at h ⊢
      obtain ⟨rfl, hrest⟩ := List.cons.inj h
      rw [List.filterMap_cons_some ha, filterMap_adjust_of_slot_nil hrest, hr]
    · rw [if_neg hid] at h ⊢
      rw [List.filterMap_cons_some (Relation.adjust_of_ne hid), ih h]

namespace Graph

variable {g : Graph} {source : SubjectId} {s : RelationChanges × Graph}

/-- The edges of a subject that is there after a creation. -/
theorem relationsFrom_createRelation_self {h : Graph} (hn : SameNodes g h)
    (hs : source ∈ g.subjects) (r : Relation) :
    (h.createRelation source r).2.relationsFrom source =
      h.relationsFrom source ++ if r.target ∈ g.subjects then [r] else [] := by
  rw [relationsFrom_createRelation, hn.subjects]
  by_cases ht : r.target ∈ g.subjects <;> simp [hs, ht]

/-- **The step of a declared relation adjusts the edge of its identifier**, or adds one at the end if
no edge joins as declared. -/
theorem relationsFrom_settle (hg : g.Sound) (hs : source ∈ g.subjects) (hn : SameNodes g s.2)
    (hslot : slot r.id (s.2.relationsFrom source) = slot r.id (g.relationsFrom source)) :
    (RelationPlan.settle (RelationAction.actAfter source) (g.relationsFrom source) s
        r).2.relationsFrom source =
      (s.2.relationsFrom source).filterMap r.adjust ++
        if r.isNewTo (g.relationsFrom source) ∧ r.target ∈ g.subjects then [r] else [] := by
  unfold RelationPlan.settle RelationPlan.actionFor
  cases hf : (g.relationsFrom source).find? (·.id = r.id) with
  | none =>
    have hnil := slot_of_find?_eq_none hf
    simp only [isNewTo_of_slot_nil hnil, true_and,
      filterMap_adjust_of_slot_nil (hslot.trans hnil)]
    exact relationsFrom_createRelation_self hn hs r
  | some edge =>
    have hid : edge.id = r.id := by simpa using List.find?_some hf
    have hold := slot_of_find? (hg.distinct source) hf
    have hedge := hslot.trans hold
    simp only
    by_cases hr : edge.type ≠ r.type ∨ edge.target ≠ r.target
    · have ha : r.adjust edge = none := by simp only [Relation.adjust, hid, ne_eq, not_true,
        if_false, if_pos hr]
      rw [if_pos hr]
      simp only [(isNewTo_iff_of_slot hold).2 hr, true_and, filterMap_adjust_of_none hedge ha]
      refine (relationsFrom_createRelation_self
        (hn.trans (sameNodes_deleteRelation source r.id s.2)) hs r).trans ?_
      rw [relationsFrom_deleteRelation, if_pos rfl]
    · have hnot : ¬(r.isNewTo (g.relationsFrom source) ∧ r.target ∈ g.subjects) := fun h =>
        hr ((isNewTo_iff_of_slot hold).1 h.1)
      rw [if_neg hr, if_neg hnot, List.append_nil]
      obtain ⟨htype, htarget⟩ : edge.type = r.type ∧ edge.target = r.target := by
        simpa [not_or] using hr
      by_cases hp : edge.properties.same r.properties
      · rw [if_pos hp, filterMap_adjust_of_self hedge (by simp [Relation.adjust, hid, htype,
          htarget, hp])]
      · have hfind : (s.2.relationsFrom source).find? (·.id = r.id) = some edge := by
          rw [find?_eq_head?_slot, hedge, List.head?_cons]
        have hprops : { edge with properties := r.properties } = r := by
          cases edge
          cases r
          simp_all
        rw [if_neg hp, filterMap_adjust_of_update hedge (by simp [Relation.adjust, hid, htype,
          htarget, hp]) hprops]
        simp only [RelationAction.actAfter, RelationAction.act]
        rw [relationsFrom_updateRelation, if_pos rfl, updatedEdges, hfind]
        exact if_neg hp

/-! ## A whole plan -/

/-- The deletions of a plan leave the edges of all other identifiers, in their order. -/
theorem relationsFrom_delete_foldl (ids : List RelationId) :
    (ids.foldl (fun s id => (RelationAction.delete id).actAfter source s) s).2.relationsFrom source =
      (s.2.relationsFrom source).filter (·.id ∉ ids) := by
  induction ids generalizing s with
  | nil => simp
  | cons id rest ih =>
    rw [List.foldl_cons, ih]
    simp only [RelationAction.actAfter, RelationAction.act]
    rw [relationsFrom_deleteRelation, if_pos rfl, List.filter_filter]
    refine List.filter_congr fun e _ => ?_
    simp [not_or, Bool.and_comm]

/-- The steps of declared relations, one after the other. Each finds the edges of its identifier as the
plan was made for, since the steps before it touched other identifiers. -/
theorem relationsFrom_settle_foldl (hg : g.Sound) (hs : source ∈ g.subjects)
    {relations : List Relation} (hd : (relations.map Relation.id).Nodup)
    (hb : SameBeside g source s.2)
    (hslot : ∀ r ∈ relations,
      slot r.id (s.2.relationsFrom source) = slot r.id (g.relationsFrom source)) :
    (relations.foldl (RelationPlan.settle (RelationAction.actAfter source)
        (g.relationsFrom source)) s).2.relationsFrom source =
      (s.2.relationsFrom source).filterMap (adjustBy relations) ++
        relations.filter fun r => r.isNewTo (g.relationsFrom source) ∧ r.target ∈ g.subjects := by
  induction relations generalizing s with
  | nil =>
    have hnone : adjustBy [] = some := rfl
    simp [hnone]
  | cons r rest ih =>
    rw [List.map_cons, List.nodup_cons] at hd
    have hstep := (stepsOn_actAfter g source).keyedStep_settle (g.relationsFrom source) (r :: rest)
    have hslots : ∀ q ∈ rest,
        slot q.id ((RelationPlan.settle (RelationAction.actAfter source) (g.relationsFrom source) s
          r).2.relationsFrom source) = slot q.id (g.relationsFrom source) := by
      intro q hq
      have hne : q.id ≠ r.id := fun e => hd.1 (e ▸ List.mem_map_of_mem hq)
      rw [hstep.other s r List.mem_cons_self hb q.id hne, hslot q (List.mem_cons_of_mem r hq)]
    have hfirst := relationsFrom_settle hg hs hb.toSameNodes (hslot r List.mem_cons_self)
    have hadjust : ∀ e : Relation,
        (r.adjust e).bind (adjustBy rest) = adjustBy (r :: rest) e := by
      intro e
      rw [adjustBy_cons]
      by_cases hid : e.id = r.id
      · rw [if_pos hid]
        cases ha : r.adjust e with
        | none => rfl
        | some e' =>
          have hn : e'.id ∉ rest.map Relation.id := (Relation.of_adjust hid ha).1 ▸ hd.1
          exact adjustBy_of_not_mem hn
      · rw [if_neg hid, Relation.adjust_of_ne hid]
        rfl
    rw [List.foldl_cons, ih hd.2 (hstep.keeps s r List.mem_cons_self hb) hslots, hfirst, List.filterMap_append,
      List.filterMap_filterMap, List.append_assoc]
    congr 1
    · exact List.filterMap_congr fun e _ => hadjust e
    · rw [List.filter_cons]
      by_cases hnew : r.isNewTo (g.relationsFrom source) ∧ r.target ∈ g.subjects
      · simp [hnew, adjustBy_of_not_mem hd.1]
      · simp [hnew]

/-- **The edges of a subject after a reconciliation**, in their order. -/
theorem relationsFrom_reconcile (hg : g.Sound) (hs : source ∈ g.subjects) (target : RelationList) :
    (g.reconcile source target).2.relationsFrom source =
      (inLine target.toList (g.relationsFrom source)).filter (·.target ∈ g.subjects) := by
  obtain ⟨hb, -, hkept⟩ := ((stepsOn_actAfter g source).keyedStep_delete _).foldl
    (by rw [List.map_id']; exact RelationPlan.nodup_undeclared (g.relationsFrom source) target)
    (s := ({ unchanged := (RelationPlan.between (g.relationsFrom source) target).unchanged }, g))
    (SameBeside.refl g source)
  rw [List.map_id'] at hkept
  have hdeclared : (g.relationsFrom source).filter
        (·.id ∉ RelationPlan.undeclared (g.relationsFrom source) target) =
      (g.relationsFrom source).filter (declares target.toList ·.id) := by
    refine List.filter_congr fun e he => ?_
    have hm : e.id ∈ (g.relationsFrom source).map Relation.id := List.mem_map_of_mem he
    rw [Bool.eq_iff_iff, declares_iff, decide_eq_true_iff, RelationPlan.mem_undeclared, not_and,
      not_not]
    exact forall_prop_of_true hm
  rw [reconcile, RelationPlan.foldl_actions,
    relationsFrom_settle_foldl hg hs target.distinct hb fun r hr =>
      hkept r.id fun hu => (RelationPlan.mem_undeclared.1 hu).2 (List.mem_map_of_mem hr),
    relationsFrom_delete_foldl, hdeclared, inLine, List.filter_append, List.filter_filter]
  congr 1
  · refine (List.filter_eq_self.2 fun e he => decide_eq_true ?_).symm
    obtain ⟨old, hold, ha⟩ := List.mem_filterMap.1 he
    obtain ⟨hm, hid⟩ := List.mem_filter.1 hold
    obtain ⟨r, -, -, ht, ht'⟩ := of_adjustBy (declares_iff.1 hid) ha
    rw [ht', ← ht]
    exact hg.target_mem source old hm
  · refine List.filter_congr fun r _ => ?_
    simp [and_comm]

/-- Reconciling subjects one after the other brings the edges of each in line, and leaves the edges of
every other subject as they were. -/
theorem relationsFrom_reconcileAfter_foldl (hg : g.Sound) {subjects : List Subject}
    (hn : (subjects.map Subject.id).Nodup) (hs : ∀ s ∈ subjects, s.id ∈ g.subjects)
    (before : RelationChanges) :
    (∀ s ∈ subjects, (subjects.foldl Subject.reconcileAfter (before, g)).2.relationsFrom s.id =
      (inLine s.relations.toList (g.relationsFrom s.id)).filter (·.target ∈ g.subjects)) ∧
    ∀ t ∉ subjects.map Subject.id,
      (subjects.foldl Subject.reconcileAfter (before, g)).2.relationsFrom t = g.relationsFrom t := by
  have hstep : KeyedStep Subject.reconcileAfter Subject.id
      (fun (s : RelationChanges × Graph) id => s.2.relationsFrom id)
      (fun s before after =>
        after = (inLine s.relations.toList before).filter (·.target ∈ g.subjects))
      (fun s => SameNodes g s.2 ∧ s.2.Sound) subjects := by
    constructor
    · rintro s x - ⟨hsame, hsound⟩
      exact ⟨hsame.trans (reconcile_spec hsound x.id x.relations).1.toSameNodes,
        sound_reconcile hsound x.id x.relations⟩
    · rintro s x hx ⟨hsame, hsound⟩
      have hm : x.id ∈ s.2.subjects := hsame.subjects ▸ hs x hx
      rw [← hsame.subjects]
      exact relationsFrom_reconcile hsound hm x.relations
    · rintro s x - ⟨-, hsound⟩ t ht
      exact (reconcile_spec hsound x.id x.relations).1.others t ht
  exact (hstep.foldl hn (s := (before, g)) ⟨.refl g, hg⟩).2

end Graph
end WikiGraph
