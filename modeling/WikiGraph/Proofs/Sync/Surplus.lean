import Mathlib.Tactic.ByContra
import WikiGraph.Proofs.Graph.Integrity
import WikiGraph.Proofs.Sync.Edges
/-!
# Surplus edges

A synchroniser never gives two edges of a subject one identifier, but operations on a graph can. A
plan looks at the first edge of each identifier alone. If that one goes, all edges of the identifier
go with it, and the relation is created once. If it stays, the others stay as they are
(`Relation.HasSurplus`).

So a reconciliation brings the edges of a subject in line with the declared relations exactly when no
declared relation has surplus edges, whatever the graph holds besides
(`Memory.reconcile_heals_unless_surplus`).
-/
namespace WikiGraph

/-- The first edge of the identifier joins as the relation declares, and others follow it. -/
def Relation.HasSurplus (r : Relation) (edges : List Relation) : Prop :=
  ∃ e rest, slot r.id edges = e :: rest ∧ rest ≠ [] ∧ e.type = r.type ∧ e.target = r.target

variable {r e : Relation} {edges : List Relation} {joinable : Prop} [Decidable joinable]

/-! ## Settled edges -/

theorem length_slot_le_one (h : (edges.map Relation.id).Nodup) (id : RelationId) :
    (slot id edges).length ≤ 1 := by
  cases hf : edges.find? (·.id = id) with
  | none => simp [slot_of_find?_eq_none hf]
  | some e => simp [slot_of_find? h hf]

/-- Of surplus edges all but the first stay as they are. -/
theorem tail_settledEdges (hs : r.HasSurplus edges) :
    (r.settledEdges joinable (slot r.id edges)).tail = (slot r.id edges).tail := by
  obtain ⟨e, rest, hslot, -, htype, htarget⟩ := hs
  have hends : ¬(e.type ≠ r.type ∨ e.target ≠ r.target) := by simp [htype, htarget]
  rw [hslot, Relation.settledEdges, if_neg hends]
  split <;> rfl

/-- Without surplus edges one edge is left at most. -/
theorem length_settledEdges_le_one (hs : ¬r.HasSurplus edges) :
    (r.settledEdges joinable (slot r.id edges)).length ≤ 1 := by
  have hadded : (if joinable then [r] else []).length ≤ 1 := by split <;> simp
  cases hslot : slot r.id edges with
  | nil => exact hadded
  | cons e rest =>
    rw [Relation.settledEdges]
    by_cases hends : e.type ≠ r.type ∨ e.target ≠ r.target
    · rw [if_pos hends]
      exact hadded
    · rw [if_neg hends]
      have hrest : rest = [] := by
        by_contra hne
        obtain ⟨htype, htarget⟩ : e.type = r.type ∧ e.target = r.target := by
          simpa [not_or] using hends
        exact hs ⟨e, rest, hslot, hne, htype, htarget⟩
      split <;> simp [hrest]

/-- The first of the edges that are left compares equal to the relation, and its ends are there. -/
theorem head_settledEdges (hc : r.properties.IsComparable)
    (hj : ∀ e ∈ slot r.id edges, e.target = r.target → joinable)
    (he : (r.settledEdges joinable (slot r.id edges)).head? = some e) : e.same r ∧ joinable := by
  have hadded : (if joinable then [r] else []).head? = some e → e.same r ∧ joinable := by
    intro h
    split at h
    · rename_i hjoin
      obtain rfl : r = e := by simpa using h
      exact ⟨Relation.same_self hc, hjoin⟩
    · cases h
  cases hslot : slot r.id edges with
  | nil =>
    rw [hslot] at he
    exact hadded he
  | cons edge rest =>
    rw [hslot, Relation.settledEdges] at he
    have hm : edge ∈ slot r.id edges := hslot ▸ List.mem_cons_self
    by_cases hends : edge.type ≠ r.type ∨ edge.target ≠ r.target
    · rw [if_pos hends] at he
      exact hadded he
    · rw [if_neg hends] at he
      obtain ⟨htype, htarget⟩ : edge.type = r.type ∧ edge.target = r.target := by
        simpa [not_or] using hends
      refine ⟨?_, hj edge hm htarget⟩
      by_cases hp : edge.properties.same r.properties
      · rw [if_pos hp] at he
        obtain rfl : edge = e := by simpa using he
        exact Relation.same_iff.2 ⟨(mem_slot.1 hm).2, htype, htarget, hp⟩
      · rw [if_neg hp] at he
        obtain rfl : { edge with properties := r.properties } = e := by simpa using he
        exact Relation.same_iff.2 ⟨(mem_slot.1 hm).2, htype, htarget, hc.same_self⟩

/-- An edge is left when both ends of the relation are there. -/
theorem settledEdges_ne_nil (hj : joinable) : r.settledEdges joinable edges ≠ [] := by
  have hadded : (if joinable then [r] else []) ≠ [] := by simp [hj]
  cases edges with
  | nil => exact hadded
  | cons e rest =>
    rw [Relation.settledEdges]
    by_cases hends : e.type ≠ r.type ∨ e.target ≠ r.target
    · rw [if_pos hends]
      exact hadded
    · rw [if_neg hends]
      split <;> exact List.cons_ne_nil _ _

/-! ## Edges that were settled -/

namespace SettledBy

variable {joinable : Relation → Prop} [DecidablePred joinable] {target : RelationList}
  {before after : List Relation}

/-- Every edge that is left has a declared identifier. -/
theorem id_mem (h : SettledBy joinable target before after) (he : e ∈ after) :
    e.id ∈ target.toList.map Relation.id := by
  by_contra hid
  have hm := mem_slot_self he
  rw [h.gone e.id hid] at hm
  cases hm

/-- Every declared relation with both its ends has an edge. -/
theorem exists_same (h : SettledBy joinable target before after) (hr : r ∈ target.toList)
    (hc : r.properties.IsComparable) (hj : joinable r) : ∃ e ∈ after, e.same r := by
  obtain ⟨e, rest, hsettled⟩ := List.exists_cons_of_ne_nil
    (settledEdges_ne_nil hj : r.settledEdges _ (slot r.id before) ≠ [])
  have hm : e ∈ slot r.id after := by
    rw [h.settled r hr, hsettled]
    exact List.mem_cons_self
  refine ⟨e, (mem_slot.1 hm).1, ?_⟩
  exact (head_settledEdges hc (fun _ _ _ => hj) (congrArg List.head? hsettled)).1

/-- **Without surplus edges** what is declared is left, and nothing else. -/
theorem showsRelations (h : SettledBy joinable target before after)
    (hc : ∀ r ∈ target.toList, r.properties.IsComparable)
    (hj : ∀ r ∈ target.toList, ∀ e ∈ slot r.id before, e.target = r.target → joinable r)
    (hn : ∀ r ∈ target.toList, ¬r.HasSurplus before) {known : SubjectId → Prop}
    (hk : ∀ r ∈ target.toList, joinable r ↔ known r.target) :
    ShowsRelations known target.toList after where
  distinct := by
    refine nodup_of_slots fun id => ?_
    by_cases hid : id ∈ target.toList.map Relation.id
    · obtain ⟨r, hr, rfl⟩ := List.mem_map.1 hid
      rw [h.settled r hr]
      exact length_settledEdges_le_one (hn r hr)
    · simp [h.gone id hid]
  declared e he := by
    obtain ⟨r, hr, hre⟩ := List.mem_map.1 (h.id_mem he)
    have hm := mem_slot_self he
    rw [← hre, h.settled r hr] at hm
    -- With one edge at most, the edge at hand is the first.
    have hhead : (r.settledEdges (joinable r) (slot r.id before)).head? = some e := by
      have hl : (r.settledEdges (joinable r) (slot r.id before)).length ≤ 1 :=
        length_settledEdges_le_one (hn r hr)
      cases hsettle : r.settledEdges (joinable r) (slot r.id before) with
      | nil => simp [hsettle] at hm
      | cons a rest =>
        have hrest : rest = [] := by simpa [hsettle] using hl
        simp_all
    obtain ⟨hsame, hjoin⟩ := head_settledEdges (hc r hr) (hj r hr) hhead
    exact ⟨r, hr, hsame, (hk r hr).1 hjoin⟩
  present r hr ht := h.exists_same hr (hc r hr) ((hk r hr).2 ht)

end SettledBy

namespace Graph

variable {g : Graph} {source : SubjectId} {target : RelationList}

/-- Every edge that is left has a declared identifier. -/
theorem id_mem_of_mem_reconcile (he : e ∈ (g.reconcile source target).2.relationsFrom source) :
    e.id ∈ target.toList.map Relation.id :=
  (slots_reconcile g source target).2.id_mem he

/-- Every declared relation to a subject that is there has an edge. -/
theorem exists_same_reconcile (hs : source ∈ g.subjects) (hr : r ∈ target.toList)
    (hc : r.properties.IsComparable) (ht : r.target ∈ g.subjects) :
    ∃ e ∈ (g.reconcile source target).2.relationsFrom source, e.same r :=
  (slots_reconcile g source target).2.exists_same hr hc ⟨hs, ht⟩

/-- An edge in an intact graph has both its ends. -/
theorem Intact.joinable_of_mem_slot (hg : g.Intact) (hm : e ∈ slot r.id (g.relationsFrom source))
    (ht : e.target = r.target) : source ∈ g.subjects ∧ r.target ∈ g.subjects :=
  ht ▸ hg.ends_mem (mem_slot.1 hm).1

/-- **Without surplus edges** a reconciliation leaves what is declared and nothing else. -/
theorem Intact.showsRelations_reconcile (hg : g.Intact) (hs : source ∈ g.subjects)
    (hc : ∀ r ∈ target.toList, r.properties.IsComparable)
    (hn : ∀ r ∈ target.toList, ¬r.HasSurplus (g.relationsFrom source)) :
    ShowsRelations (· ∈ g.subjects) target.toList
      ((g.reconcile source target).2.relationsFrom source) :=
  (slots_reconcile g source target).2.showsRelations hc
    (fun _ _ _ he ht => hg.joinable_of_mem_slot he ht) hn fun _ _ => and_iff_right hs

/-- The identifier of surplus edges still has several edges. -/
theorem not_nodup_reconcile_of_surplus (hr : r ∈ target.toList)
    (hs : r.HasSurplus (g.relationsFrom source)) :
    ¬(((g.reconcile source target).2.relationsFrom source).map Relation.id).Nodup := by
  intro hd
  have hl := length_slot_le_one hd r.id
  have htail : (r.settledEdges (source ∈ g.subjects ∧ r.target ∈ g.subjects)
      (slot r.id (g.relationsFrom source))).tail = (slot r.id (g.relationsFrom source)).tail :=
    tail_settledEdges hs
  obtain ⟨e, rest, hslot, hne, -, -⟩ := hs
  rw [← (slots_reconcile g source target).2.1 r hr, hslot, List.tail_cons] at htail
  have hpos : 0 < rest.length := List.length_pos_iff.2 hne
  have hlen := congrArg List.length htail
  rw [List.length_tail] at hlen
  omega

end Graph

namespace Memory

open WikiGraph.Graph

/-- **A reconciliation heals the edges of a subject unless surplus edges follow one that stays.** In
whatever state operations have brought the store, the edges of a subject that is there are the declared
relations to subjects that are there, each once, exactly when no declared relation has surplus edges.
Those that one has are left as they are. Otherwise nothing is amiss: each declared relation to a subject
that is there has an edge, and every edge has the identifier of a declared relation. -/
theorem reconcile_heals_unless_surplus {actions : List Action} {source : SubjectId}
    {target : RelationList} {changes : RelationChanges} {after : Memory}
    (hs : source ∈ (run {} actions).committed.subjects)
    (hc : ∀ r ∈ target.toList, r.properties.IsComparable)
    (h : reconcile store source target (run {} actions) = (.ok changes, after)) :
    (ShowsRelations (· ∈ after.committed.subjects) target.toList
        (after.committed.relationsFrom source) ↔
      ∀ r ∈ target.toList, ¬r.HasSurplus ((run {} actions).committed.relationsFrom source)) ∧
    (∀ r ∈ target.toList, r.HasSurplus ((run {} actions).committed.relationsFrom source) →
      (slot r.id (after.committed.relationsFrom source)).tail =
        (slot r.id ((run {} actions).committed.relationsFrom source)).tail) ∧
    (∀ r ∈ target.toList, r.target ∈ after.committed.subjects →
      ∃ e ∈ after.committed.relationsFrom source, e.same r) ∧
    ∀ e ∈ after.committed.relationsFrom source, e.id ∈ target.toList.map Relation.id := by
  have hg : (run {} actions).committed.Intact := (intact_new.run actions).committed
  obtain ⟨hb, hsettled, -⟩ := slots_reconcile (run {} actions).committed source target
  rw [committed_of_reconcile h, hb.subjects]
  refine ⟨⟨fun hshown r hr hsurplus => ?_, fun hn => hg.showsRelations_reconcile hs hc hn⟩,
    fun r hr hsurplus => ?_, fun r hr ht => exists_same_reconcile hs hr (hc r hr) ht,
    fun e he => id_mem_of_mem_reconcile he⟩
  · exact not_nodup_reconcile_of_surplus hr hsurplus hshown.distinct
  · rw [hsettled r hr]
    exact tail_settledEdges hsurplus

def bond (type : String) : Relation := ⟨⟨"r"⟩, ⟨type⟩, ⟨"bob"⟩, ∅⟩

/-- Ann and Bob are written, and edges from her to him, all in one transaction. -/
def bonding (types : List String) : List Action :=
  .call .start ::
    (["ann", "bob"].map (fun name =>
        .call (.perform (.upsertSubject ⟨⟨name⟩, name, ⟨"Person"⟩, ∅⟩))) ++
      types.map (fun type => .call (.perform (.createRelation ⟨"ann"⟩ (bond type)))) ++
      [.call .commit])

theorem isComparable_bond : ∀ r ∈ (RelationList.ofList [bond "FRIEND"]).toList,
    r.properties.IsComparable := by
  intro r hr
  have hnone : ∀ r ∈ (RelationList.ofList [bond "FRIEND"]).toList, r.properties.toList = [] := by
    decide +kernel
  exact Properties.isComparable_of_toList_nil (hnone r hr)

/-- Of a friend and an enemy under one identifier, the one that comes first decides. -/
theorem enemyFirst_healed_friendFirst_not :
    (∃ changes after, reconcile store ⟨"ann"⟩ (.ofList [bond "FRIEND"])
        (run {} (bonding ["ENEMY", "FRIEND"])) = (.ok changes, after) ∧
      ShowsRelations (· ∈ after.committed.subjects) (RelationList.ofList [bond "FRIEND"]).toList
        (after.committed.relationsFrom ⟨"ann"⟩)) ∧
    ∃ changes after, reconcile store ⟨"ann"⟩ (.ofList [bond "FRIEND"])
        (run {} (bonding ["FRIEND", "ENEMY"])) = (.ok changes, after) ∧
      (slot ⟨"r"⟩ (after.committed.relationsFrom ⟨"ann"⟩)).tail = [bond "ENEMY"] := by
  constructor
  · have h : reconcile store ⟨"ann"⟩ (.ofList [bond "FRIEND"])
        (run {} (bonding ["ENEMY", "FRIEND"])) = (.ok { replaced := 1 }, _) := rfl
    refine ⟨_, _, h, ?_⟩
    have hheals := reconcile_heals_unless_surplus (by decide +kernel) isComparable_bond h
    refine hheals.1.2 fun r hr hsurplus => ?_
    obtain ⟨e, rest, hslot, -, htype, -⟩ := hsurplus
    have hfirst : ∀ r ∈ (RelationList.ofList [bond "FRIEND"]).toList,
        ((slot r.id ((run {} (bonding ["ENEMY", "FRIEND"])).committed.relationsFrom
          ⟨"ann"⟩)).head?.map Relation.type) ≠ some r.type := by decide +kernel
    exact hfirst r hr (by rw [hslot, List.head?_cons, Option.map_some, htype])
  · have h : reconcile store ⟨"ann"⟩ (.ofList [bond "FRIEND"])
        (run {} (bonding ["FRIEND", "ENEMY"])) = (.ok { unchanged := 1 }, _) := rfl
    refine ⟨_, _, h, ?_⟩
    have hheals := reconcile_heals_unless_surplus (by decide +kernel) isComparable_bond h
    have hr : bond "FRIEND" ∈ (RelationList.ofList [bond "FRIEND"]).toList := by decide +kernel
    have hslot : slot ⟨"r"⟩ ((run {} (bonding ["FRIEND", "ENEMY"])).committed.relationsFrom
        ⟨"ann"⟩) = [bond "FRIEND", bond "ENEMY"] := by decide +kernel
    have htail := hheals.2.1 _ hr ⟨_, _, hslot, by simp, rfl, rfl⟩
    exact htail.trans (congrArg List.tail hslot)

/-- An enemy behind a friend under the same identifier is still there after a reconciliation with the
friend alone. -/
theorem enemyBehindFriend_stays :
    ¬∀ (actions : List Action) (source : SubjectId) (target : RelationList)
        (changes : RelationChanges) (after : Memory),
      source ∈ (run {} actions).committed.subjects →
      (∀ r ∈ target.toList, r.properties.IsComparable) →
      reconcile store source target (run {} actions) = (.ok changes, after) →
      ShowsRelations (· ∈ after.committed.subjects) target.toList
        (after.committed.relationsFrom source) := by
  intro h
  have hshown := h (bonding ["FRIEND", "ENEMY"]) ⟨"ann"⟩ (.ofList [bond "FRIEND"])
    { unchanged := 1 } _ (by decide +kernel) isComparable_bond rfl
  revert hshown
  refine fun hshown => absurd hshown.distinct ?_
  decide +kernel

end Memory
end WikiGraph
