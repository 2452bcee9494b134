import Mathlib.Tactic.SplitIfs
import WikiGraph.Graph.State
/-!
# What operations do to the views of a graph

A write that would change nothing leaves the whole graph as it is, the counter included, and any
other write changes one of the four maps. Each operation is described here once, by what it does to
the entries of the map it writes and by the maps it leaves alone; later proofs do not look inside.
-/
namespace WikiGraph

/-! ## Entries of maps -/

section Map

variable {κ β : Type} [Ord κ] [Std.TransOrd κ] [Std.LawfulEqOrd κ] [DecidableEq κ]

theorem getElem?_insert_eq (t : Std.ExtTreeMap κ β) (k a : κ) (v : β) :
    (t.insert k v)[a]? = if a = k then some v else t[a]? := by
  rw [Std.ExtTreeMap.getElem?_insert]
  by_cases h : a = k
  · simp [h]
  · have h' : k ≠ a := fun e => h e.symm
    simp [h, h']

theorem getElem?_erase_eq (t : Std.ExtTreeMap κ β) (k a : κ) :
    (t.erase k)[a]? = if a = k then none else t[a]? := by
  rw [Std.ExtTreeMap.getElem?_erase]
  by_cases h : a = k
  · simp [h]
  · have h' : k ≠ a := fun e => h e.symm
    simp [h, h']

theorem mem_erase_iff_ne {t : Std.ExtTreeMap κ β} {k a : κ} : a ∈ t.erase k ↔ a ≠ k ∧ a ∈ t := by
  rw [Std.ExtTreeMap.mem_iff_isSome_getElem?, getElem?_erase_eq]
  by_cases h : a = k <;> simp [h]

/-- Inserting the entry that is there changes nothing. -/
theorem insert_of_getElem? {t : Std.ExtTreeMap κ β} {k : κ} {v : β} (h : t[k]? = some v) :
    t.insert k v = t := by
  refine Std.ExtTreeMap.ext_getElem? fun a => ?_
  rw [getElem?_insert_eq]
  by_cases ha : a = k
  · rw [if_pos ha, ha, h]
  · rw [if_neg ha]

end Map

namespace Graph

/-! ## Pages, subjects and memberships -/

theorem pages_upsertPage (page : PageNode) (g : Graph) :
    (g.upsertPage page).pages = g.pages.insert page.id page := by
  unfold upsertPage
  split
  · rename_i h
    rw [insert_of_getElem? h]
  · rfl

theorem upsertPage_frame (page : PageNode) (g : Graph) :
    (g.upsertPage page).subjects = g.subjects ∧
      (g.upsertPage page).memberships = g.memberships ∧
      (g.upsertPage page).relations = g.relations := by
  unfold upsertPage
  split <;> exact ⟨rfl, rfl, rfl⟩

theorem upsertSubject_frame (subject : SubjectNode) (g : Graph) :
    (g.upsertSubject subject).pages = g.pages ∧
      (g.upsertSubject subject).memberships = g.memberships ∧
      (g.upsertSubject subject).relations = g.relations := by
  unfold upsertSubject
  split <;> exact ⟨rfl, rfl, rfl⟩

theorem subjects_upsertSubject_of_ne {subject : SubjectNode} {id : SubjectId}
    (h : id ≠ subject.id) (g : Graph) :
    (g.upsertSubject subject).subjects[id]? = g.subjects[id]? := by
  unfold upsertSubject
  split
  · rfl
  · exact (getElem?_insert_eq _ _ _ _).trans (if_neg h)

/-- The node written, or one that was there and holds the same. -/
theorem subjects_upsertSubject_self (subject : SubjectNode) (g : Graph) :
    ∃ node, (g.upsertSubject subject).subjects[subject.id]? = some node ∧
      (node = subject ∨ node.same subject) := by
  unfold upsertSubject
  split
  · rename_i h
    obtain ⟨node, hn, hs⟩ := (Option.any_eq_true _ _).1 h
    exact ⟨node, hn, .inr hs⟩
  · exact ⟨subject, (getElem?_insert_eq _ _ _ _).trans (if_pos rfl), .inl rfl⟩

theorem memberships_markMembership (m : Membership) (main : Bool) (g : Graph) :
    (g.markMembership m main).memberships = g.memberships.insert m main := by
  unfold markMembership
  split
  · rename_i h
    rw [insert_of_getElem? h]
  · rfl

theorem markMembership_frame (m : Membership) (main : Bool) (g : Graph) :
    (g.markMembership m main).pages = g.pages ∧ (g.markMembership m main).subjects = g.subjects ∧
      (g.markMembership m main).relations = g.relations := by
  unfold markMembership
  split <;> exact ⟨rfl, rfl, rfl⟩

theorem linkSubject_eq {page : PageId} {subject : SubjectId} {g : Graph} (hp : page ∈ g.pages)
    (hs : subject ∈ g.subjects) (main : Bool) :
    g.linkSubject page subject main = g.markMembership ⟨page, subject⟩ main := if_pos ⟨hp, hs⟩

/-! ## Edges -/

theorem relationsFrom_counted (g : Graph) (source : SubjectId) :
    g.counted.relationsFrom source = g.relationsFrom source := rfl

theorem relationsFrom_of_relations_eq {g h : Graph} (e : g.relations = h.relations) :
    g.relationsFrom = h.relationsFrom := by
  funext source
  rw [relationsFrom, e, relationsFrom]

theorem relationsFrom_insert (g : Graph) (s t : SubjectId) (edges : List Relation) :
    ({ g with relations := g.relations.insert s edges } : Graph).relationsFrom t =
      if t = s then edges else g.relationsFrom t := by
  unfold relationsFrom
  rw [getElem?_insert_eq]
  split <;> rfl

theorem relationsFrom_erase (g : Graph) (s t : SubjectId) :
    ({ g with relations := g.relations.erase s } : Graph).relationsFrom t =
      if t = s then [] else g.relationsFrom t := by
  unfold relationsFrom
  rw [getElem?_erase_eq]
  split <;> rfl

/-- The nodes and memberships of two graphs are the same. -/
structure SameNodes (g h : Graph) : Prop where
  pages : h.pages = g.pages
  subjects : h.subjects = g.subjects
  memberships : h.memberships = g.memberships

theorem SameNodes.refl (g : Graph) : SameNodes g g := ⟨rfl, rfl, rfl⟩

theorem SameNodes.trans {g h k : Graph} (a : SameNodes g h) (b : SameNodes h k) : SameNodes g k :=
  ⟨b.pages.trans a.pages, b.subjects.trans a.subjects, b.memberships.trans a.memberships⟩

theorem sameNodes_createRelation (source : SubjectId) (r : Relation) (g : Graph) :
    SameNodes g (g.createRelation source r).2 := by
  unfold createRelation
  split <;> exact ⟨rfl, rfl, rfl⟩

theorem sameNodes_updateRelation (source : SubjectId) (r : Relation) (g : Graph) :
    SameNodes g (g.updateRelation source r) := by
  unfold updateRelation
  split
  · split <;> exact ⟨rfl, rfl, rfl⟩
  · exact .refl g

theorem sameNodes_deleteRelation (source : SubjectId) (id : RelationId) (g : Graph) :
    SameNodes g (g.deleteRelation source id) := by
  simp only [deleteRelation]
  split
  · exact .refl g
  · split <;> exact ⟨rfl, rfl, rfl⟩

theorem relationsFrom_createRelation (source : SubjectId) (r : Relation) (g : Graph)
    (t : SubjectId) :
    (g.createRelation source r).2.relationsFrom t =
      if t = source ∧ source ∈ g.subjects ∧ r.target ∈ g.subjects then g.relationsFrom t ++ [r]
      else g.relationsFrom t := by
  unfold createRelation
  split
  · rename_i h
    rw [relationsFrom_counted, relationsFrom_insert]
    by_cases ht : t = source
    · rw [if_pos ht, if_pos ⟨ht, h⟩, ht]
    · rw [if_neg ht, if_neg fun hs => ht hs.1]
  · rename_i h
    rw [if_neg fun hs => h hs.2]

/-- Edges after an update: the first edge of the identifier takes the properties, unless it has
them. -/
def updatedEdges (r : Relation) (edges : List Relation) : List Relation :=
  match edges.find? (·.id = r.id) with
  | some edge =>
    if edge.properties.same r.properties then edges else withProperties r.id r.properties edges
  | none => edges

theorem relationsFrom_updateRelation (source : SubjectId) (r : Relation) (g : Graph)
    (t : SubjectId) :
    (g.updateRelation source r).relationsFrom t =
      if t = source then updatedEdges r (g.relationsFrom t) else g.relationsFrom t := by
  by_cases ht : t = source
  · subst ht
    rw [if_pos rfl]
    cases hf : (g.relationsFrom t).find? (·.id = r.id) with
    | none => simp only [updateRelation, updatedEdges, hf]
    | some edge =>
      simp only [updateRelation, updatedEdges, hf]
      by_cases hs : edge.properties.same r.properties
      · rw [if_pos hs, if_pos hs]
      · rw [if_neg hs, if_neg hs, relationsFrom_counted, relationsFrom_insert, if_pos rfl]
  · rw [if_neg ht]
    unfold updateRelation
    split
    · split
      · rfl
      · rw [relationsFrom_counted, relationsFrom_insert, if_neg ht]
    · rfl

theorem relationsFrom_deleteRelation (source : SubjectId) (id : RelationId) (g : Graph)
    (t : SubjectId) :
    (g.deleteRelation source id).relationsFrom t =
      if t = source then (g.relationsFrom t).filter (·.id ≠ id) else g.relationsFrom t := by
  simp only [deleteRelation]
  by_cases ht : t = source
  · subst ht
    rw [if_pos rfl]
    split
    · rename_i h
      exact (List.filter_eq_self.2 (List.length_filter_eq_length_iff.1 h)).symm
    · split
      · rename_i he
        rw [relationsFrom_counted, relationsFrom_erase, if_pos rfl]
        exact (List.isEmpty_iff.1 he).symm
      · rw [relationsFrom_counted, relationsFrom_insert, if_pos rfl]
  · rw [if_neg ht]
    split
    · rfl
    · split
      · rw [relationsFrom_counted, relationsFrom_erase, if_neg ht]
      · rw [relationsFrom_counted, relationsFrom_insert, if_neg ht]

end Graph
end WikiGraph
