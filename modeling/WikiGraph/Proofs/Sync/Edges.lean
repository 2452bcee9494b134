import WikiGraph.Proofs.Graph.Detach
import WikiGraph.Proofs.Sync.Steps
/-!
# The edges of a subject after a reconciliation

Every step of a plan touches the edges of one identifier alone (`slot_act_of_ne`), and no identifier
has two steps. So the edges of each declared identifier are what its own step makes of them, and the
edges of any other are gone, whatever the graph holds: `slots_reconcile`.

In a sound graph that means that a declared relation has one edge if its source and its target are
there, and none otherwise (`Realised`): `reconcile_spec`.
-/
namespace WikiGraph

/-! ## One step -/

namespace Graph

theorem sameNodes_act (source : SubjectId) (g : Graph) (a : RelationAction) :
    SameNodes g (a.act source g).2 := by
  cases a with
  | create r => exact sameNodes_createRelation source r g
  | update r => exact sameNodes_updateRelation source r g
  | replace r =>
    exact (sameNodes_deleteRelation source r.id g).trans (sameNodes_createRelation source r _)
  | delete id => exact sameNodes_deleteRelation source id g

theorem relationsFrom_act_of_ne {source t : SubjectId} (h : t ≠ source) (g : Graph)
    (a : RelationAction) : (a.act source g).2.relationsFrom t = g.relationsFrom t := by
  have hc : ∀ (r : Relation) (g : Graph),
      (g.createRelation source r).2.relationsFrom t = g.relationsFrom t := fun r g => by
    rw [relationsFrom_createRelation, if_neg fun hs => h hs.1]
  have hd : ∀ id, (g.deleteRelation source id).relationsFrom t = g.relationsFrom t := fun id => by
    rw [relationsFrom_deleteRelation, if_neg h]
  cases a with
  | create r => exact hc r g
  | update r => exact (relationsFrom_updateRelation source r g t).trans (if_neg h)
  | replace r => exact (hc r _).trans (hd r.id)
  | delete id => exact hd id

/-- The edges of `source` after a creation, by identifier. -/
theorem slot_createRelation (source : SubjectId) (r : Relation) (g : Graph) (id : RelationId) :
    slot id ((g.createRelation source r).2.relationsFrom source) =
      slot id (g.relationsFrom source) ++
        if source ∈ g.subjects ∧ r.target ∈ g.subjects then slot id [r] else [] := by
  rw [relationsFrom_createRelation]
  by_cases h : source ∈ g.subjects ∧ r.target ∈ g.subjects
  · rw [if_pos ⟨rfl, h⟩, if_pos h, slot_append]
  · rw [if_neg fun hs => h hs.2, if_neg h, List.append_nil]

theorem slot_deleteRelation_self (source : SubjectId) (id : RelationId) (g : Graph) :
    slot id ((g.deleteRelation source id).relationsFrom source) = [] := by
  rw [relationsFrom_deleteRelation, if_pos rfl, slot_filter_self]

theorem slot_deleteRelation_of_ne {id other : RelationId} (h : id ≠ other) (source : SubjectId)
    (g : Graph) : slot id ((g.deleteRelation source other).relationsFrom source) =
      slot id (g.relationsFrom source) := by
  rw [relationsFrom_deleteRelation, if_pos rfl, slot_filter_of_ne h]

/-- **A step touches the edges of its identifier alone.** -/
theorem slot_act_of_ne {id : RelationId} {a : RelationAction} (h : id ≠ a.id) (source : SubjectId)
    (g : Graph) : slot id ((a.act source g).2.relationsFrom source) =
      slot id (g.relationsFrom source) := by
  have hc : ∀ (r : Relation) (g : Graph), id ≠ r.id →
      slot id ((g.createRelation source r).2.relationsFrom source) =
        slot id (g.relationsFrom source) := fun r g hr => by
    rw [slot_createRelation, slot_singleton_of_ne hr, ite_self, List.append_nil]
  cases a with
  | create r => exact hc r g h
  | update r =>
    rw [RelationAction.act, relationsFrom_updateRelation, if_pos rfl, updatedEdges]
    split
    · split
      · rfl
      · exact slot_withProperties_of_ne h _ _
    · rfl
  | replace r => exact (hc r _ h).trans (slot_deleteRelation_of_ne h source g)
  | delete other => exact slot_deleteRelation_of_ne h source g

end Graph

/-! ## Declared relations -/

/-- What becomes of the edges of a declared identifier: one edge, the relation itself or one that
compares equal to it, when both its ends are there, and none otherwise. -/
def Realised (g : Graph) (source : SubjectId) (r : Relation) (edges : List Relation) : Prop :=
  if source ∈ g.subjects ∧ r.target ∈ g.subjects then ∃ e, edges = [e] ∧ (e = r ∨ e.same r)
  else edges = []

namespace Graph

variable {g h : Graph} {source : SubjectId} {r : Relation}

/-- A relation created where no edge has its identifier is the only one. -/
theorem slot_createRelation_of_nil (hn : SameNodes g h)
    (hs : slot r.id (h.relationsFrom source) = []) :
    slot r.id ((h.createRelation source r).2.relationsFrom source) =
      if source ∈ g.subjects ∧ r.target ∈ g.subjects then [r] else [] := by
  rw [slot_createRelation, hs, hn.subjects, slot_singleton_self, List.nil_append]

/-- In a sound graph an identifier has one edge at most, so to settle it is to realise the relation. -/
theorem realised_settledEdges (hg : g.Sound) :
    Realised g source r (r.settledEdges (source ∈ g.subjects ∧ r.target ∈ g.subjects)
      (slot r.id (g.relationsFrom source))) := by
  cases hf : (g.relationsFrom source).find? (·.id = r.id) with
  | none =>
    rw [slot_of_find?_eq_none hf, Relation.settledEdges, Realised]
    split
    · exact ⟨r, rfl, .inl rfl⟩
    · rfl
  | some edge =>
    have hm : edge ∈ g.relationsFrom source := List.mem_of_find?_eq_some hf
    have hid : edge.id = r.id := by simpa using List.find?_some hf
    rw [slot_of_find? (hg.distinct source) hf, Relation.settledEdges, Realised]
    by_cases hr : edge.type ≠ r.type ∨ edge.target ≠ r.target
    · rw [if_pos hr]
      split
      · exact ⟨r, rfl, .inl rfl⟩
      · rfl
    · rw [if_neg hr]
      obtain ⟨htype, htarget⟩ : edge.type = r.type ∧ edge.target = r.target := by
        simpa [not_or] using hr
      have hsource : source ∈ g.subjects := hg.source_mem source (List.ne_nil_of_mem hm)
      rw [if_pos ⟨hsource, htarget ▸ hg.target_mem source edge hm⟩]
      by_cases hp : edge.properties.same r.properties
      · rw [if_pos hp]
        exact ⟨edge, rfl, .inr (Relation.same_iff.2 ⟨hid, htype, htarget, hp⟩)⟩
      · rw [if_neg hp]
        refine ⟨r, ?_, .inl rfl⟩
        cases edge
        cases r
        simp_all

/-! ## A whole plan -/

/-- `h` differs from `g` in the edges of `source` at most. -/
structure SameBeside (g : Graph) (source : SubjectId) (h : Graph) : Prop extends SameNodes g h where
  others : ∀ t, t ≠ source → h.relationsFrom t = g.relationsFrom t

theorem SameBeside.refl (g : Graph) (source : SubjectId) : SameBeside g source g :=
  ⟨.refl g, fun _ _ => rfl⟩

theorem SameBeside.actAfter {s : RelationChanges × Graph} (hs : SameBeside g source s.2)
    (a : RelationAction) : SameBeside g source (a.actAfter source s).2 :=
  ⟨hs.toSameNodes.trans (sameNodes_act source s.2 a), fun t ht =>
    (relationsFrom_act_of_ne ht s.2 a).trans (hs.others t ht)⟩

/-- Carrying out a plan on a graph, a step makes of the edges of its source what it should. -/
theorem stepsOn_actAfter (g : Graph) (source : SubjectId) :
    StepsOn (RelationAction.actAfter source) (fun s => s.2.relationsFrom source)
      (fun r => source ∈ g.subjects ∧ r.target ∈ g.subjects) (fun s => SameBeside g source s.2) where
  keeps s a hs := hs.actAfter a
  other s _ _ hid := slot_act_of_ne hid source s.2
  create s _ hs hnil := slot_createRelation_of_nil hs.toSameNodes hnil
  update s r e rest hslot hp := by
    have hfind : (s.2.relationsFrom source).find? (·.id = r.id) = some e := by
      rw [find?_eq_head?_slot, hslot, List.head?_cons]
    have hid : e.id = r.id := (mem_slot.1 (hslot ▸ List.mem_cons_self)).2
    simp only [RelationAction.actAfter, RelationAction.act]
    rw [relationsFrom_updateRelation, if_pos rfl, updatedEdges, hfind]
    simp only
    rw [if_neg hp, slot_withProperties_self, hslot, withProperties, if_pos hid]
  replace s r hs :=
    slot_createRelation_of_nil (hs.toSameNodes.trans (sameNodes_deleteRelation source r.id s.2))
      (slot_deleteRelation_self source r.id s.2)
  delete s id := slot_deleteRelation_self source id s.2

/-- **What a reconciliation makes of any graph.** Nothing changes but the edges of `source`; those of
every declared identifier are settled, and no edge of another identifier is left. -/
theorem slots_reconcile (g : Graph) (source : SubjectId) (target : RelationList) :
    SameBeside g source (g.reconcile source target).2 ∧
      SettledBy (fun r => source ∈ g.subjects ∧ r.target ∈ g.subjects) target
        (g.relationsFrom source) ((g.reconcile source target).2.relationsFrom source) :=
  (stepsOn_actAfter g source).settledBy (s := (_, g)) (SameBeside.refl g source) target

/-- **What a reconciliation leaves behind in a sound graph.** Every declared relation is realised. -/
theorem reconcile_spec (hg : g.Sound) (source : SubjectId) (target : RelationList) :
    SameBeside g source (g.reconcile source target).2 ∧
      (∀ r ∈ target.toList,
        Realised g source r (slot r.id ((g.reconcile source target).2.relationsFrom source))) ∧
      ∀ id ∉ target.toList.map Relation.id,
        slot id ((g.reconcile source target).2.relationsFrom source) = [] := by
  obtain ⟨hb, hsettled, hrest⟩ := slots_reconcile g source target
  refine ⟨hb, fun r hr => ?_, hrest⟩
  rw [hsettled r hr]
  exact realised_settledEdges hg

/-! ## Edges in line with declarations -/

/-- An edge that is left has the identifier of a declared relation and joins its ends. -/
theorem declared_of_mem_reconcile (hg : g.Sound) {target : RelationList} {e : Relation}
    (he : e ∈ (g.reconcile source target).2.relationsFrom source) :
    ∃ r ∈ target.toList, (source ∈ g.subjects ∧ r.target ∈ g.subjects) ∧ (e = r ∨ e.same r) := by
  obtain ⟨-, hdone, hrest⟩ := reconcile_spec hg source target
  have hm := mem_slot_self he
  by_cases hid : e.id ∈ target.toList.map Relation.id
  · obtain ⟨r, hr, hre⟩ := List.mem_map.1 hid
    have hd := hdone r hr
    rw [hre, Realised] at hd
    split at hd
    · rename_i hends
      obtain ⟨e', hs, hsame⟩ := hd
      rw [hs, List.mem_singleton] at hm
      exact ⟨r, hr, hends, hm ▸ hsame⟩
    · rw [hd] at hm
      cases hm
  · rw [hrest e.id hid] at hm
    cases hm

theorem target_eq_of_shown {e : Relation} (h : e = r ∨ e.same r) : e.target = r.target := by
  rcases h with rfl | h
  · rfl
  · exact (Relation.same_iff.1 h).2.2.1

theorem distinct_reconcile (hg : g.Sound) (source : SubjectId) (target : RelationList) :
    (((g.reconcile source target).2.relationsFrom source).map Relation.id).Nodup := by
  obtain ⟨-, hdone, hrest⟩ := reconcile_spec hg source target
  refine nodup_of_slots fun i => ?_
  by_cases hi : i ∈ target.toList.map Relation.id
  · obtain ⟨r, hr, rfl⟩ := List.mem_map.1 hi
    have hd := hdone r hr
    unfold Realised at hd
    split at hd
    · obtain ⟨e, hs, -⟩ := hd
      rw [hs]
      exact Nat.le_refl 1
    · rw [hd]
      exact Nat.zero_le 1
  · rw [hrest i hi]
    exact Nat.zero_le 1

theorem sound_reconcile (hg : g.Sound) (source : SubjectId) (target : RelationList) :
    (g.reconcile source target).2.Sound := by
  have hb := (reconcile_spec hg source target).1
  constructor
  · intro t ht
    rw [hb.subjects]
    by_cases hs : t = source
    · obtain ⟨e, he⟩ := List.exists_mem_of_ne_nil _ ht
      rw [hs] at he ⊢
      obtain ⟨r, -, hends, -⟩ := declared_of_mem_reconcile hg he
      exact hends.1
    · rw [hb.others t hs] at ht
      exact hg.source_mem t ht
  · intro t e he
    rw [hb.subjects]
    by_cases hs : t = source
    · rw [hs] at he
      obtain ⟨r, -, hends, hsame⟩ := declared_of_mem_reconcile hg he
      rw [target_eq_of_shown hsame]
      exact hends.2
    · rw [hb.others t hs] at he
      exact hg.target_mem t e he
  · intro t
    by_cases hs : t = source
    · rw [hs]
      exact distinct_reconcile hg source target
    · rw [hb.others t hs]
      exact hg.distinct t

end Graph

/-- The edges are the relations whose target is known, each once: they compare equal to them, and no
two share an identifier. -/
structure ShowsRelations (known : SubjectId → Prop) (relations edges : List Relation) : Prop where
  distinct : (edges.map Relation.id).Nodup
  declared : ∀ e ∈ edges, ∃ r ∈ relations, e.same r ∧ known r.target
  present : ∀ r ∈ relations, known r.target → ∃ e ∈ edges, e.same r

/-- Edges still show the relations when those to subjects that are no longer known are taken out. -/
theorem ShowsRelations.filter {known known' : SubjectId → Prop} {relations edges : List Relation}
    (h : ShowsRelations known relations edges) (hk : ∀ t, known' t → known t)
    (keep : Relation → Bool) (hkeep : ∀ e, keep e ↔ known' e.target) :
    ShowsRelations known' relations (edges.filter keep) where
  distinct := h.distinct.sublist (List.filter_sublist.map Relation.id)
  declared e he := by
    obtain ⟨hm, ht⟩ := List.mem_filter.1 he
    obtain ⟨r, hr, hs, -⟩ := h.declared e hm
    refine ⟨r, hr, hs, ?_⟩
    rw [← (Relation.same_iff.1 hs).2.2.1]
    exact (hkeep e).1 ht
  present r hr ht := by
    obtain ⟨e, he, hs⟩ := h.present r hr (hk _ ht)
    refine ⟨e, List.mem_filter.2 ⟨he, (hkeep e).2 ?_⟩, hs⟩
    rw [(Relation.same_iff.1 hs).2.2.1]
    exact ht

namespace Graph

variable {g : Graph} {source : SubjectId}

theorem showsRelations_reconcile (hg : g.Sound) (hs : source ∈ g.subjects) {target : RelationList}
    (hc : ∀ r ∈ target.toList, r.properties.IsComparable) :
    ShowsRelations (· ∈ g.subjects) target.toList
      ((g.reconcile source target).2.relationsFrom source) where
  distinct := distinct_reconcile hg source target
  declared e he := by
    obtain ⟨r, hr, hends, hsame⟩ := declared_of_mem_reconcile hg he
    refine ⟨r, hr, ?_, hends.2⟩
    rcases hsame with rfl | hsame
    · exact Relation.same_self (hc e hr)
    · exact hsame
  present r hr ht := by
    have hd := (reconcile_spec hg source target).2.1 r hr
    rw [Realised, if_pos ⟨hs, ht⟩] at hd
    obtain ⟨e, hslot, hsame⟩ := hd
    have he : e ∈ slot r.id ((g.reconcile source target).2.relationsFrom source) := by
      rw [hslot]
      exact List.mem_singleton_self e
    refine ⟨e, (mem_slot.1 he).1, ?_⟩
    rcases hsame with rfl | hsame
    · exact Relation.same_self (hc e hr)
    · exact hsame

/-- Reconciling subjects one after the other brings the edges of each in line with its declarations:
no reconciliation undoes an earlier one. -/
theorem reconcileAfter_foldl (hg : g.Sound) {subjects : List Subject}
    (hn : (subjects.map Subject.id).Nodup) (before : RelationChanges) :
    (SameNodes g (subjects.foldl Subject.reconcileAfter (before, g)).2 ∧
      (subjects.foldl Subject.reconcileAfter (before, g)).2.Sound) ∧
    ∀ s ∈ subjects, s.id ∈ g.subjects → (∀ r ∈ s.relations.toList, r.properties.IsComparable) →
      ShowsRelations (· ∈ g.subjects) s.relations.toList
        ((subjects.foldl Subject.reconcileAfter (before, g)).2.relationsFrom s.id) := by
  have hstep : KeyedStep Subject.reconcileAfter Subject.id
      (fun (s : RelationChanges × Graph) id => s.2.relationsFrom id)
      (fun s _ after => s.id ∈ g.subjects →
        (∀ r ∈ s.relations.toList, r.properties.IsComparable) →
          ShowsRelations (· ∈ g.subjects) s.relations.toList after)
      (fun s => SameNodes g s.2 ∧ s.2.Sound) subjects := by
    constructor
    · rintro s x - ⟨hsame, hs⟩
      exact ⟨hsame.trans (reconcile_spec hs x.id x.relations).1.toSameNodes,
        sound_reconcile hs x.id x.relations⟩
    · rintro s x - ⟨hsame, hs⟩ hm hc
      rw [← hsame.subjects] at hm ⊢
      exact showsRelations_reconcile hs hm hc
    · rintro s x - ⟨-, hs⟩ t ht
      exact (reconcile_spec hs x.id x.relations).1.others t ht
  obtain ⟨hi, hown, -⟩ := hstep.foldl hn (s := (before, g)) ⟨.refl g, hg⟩
  exact ⟨hi, hown⟩

end Graph
end WikiGraph
