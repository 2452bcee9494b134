import WikiGraph.Graph.Memory
import WikiGraph.Proofs.Graph.Population
/-!
# Referential integrity

Nodes stand under their own identifiers, memberships and edges join nodes that are there, and no empty
list of edges is kept (`Intact`). Every operation keeps this, whatever its arguments: an edge or a
membership is written only between nodes that are there, and a node is deleted together with everything
that refers to it. So it holds of everything that the store in memory ever holds, the working copy of
an open transaction included (`Memory.intact_after`).
-/
namespace WikiGraph
namespace Graph

/-- No reference of the graph leads nowhere. -/
structure Intact (g : Graph) : Prop where
  page_id : ∀ (id : PageId) (node : PageNode), g.pages[id]? = some node → node.id = id
  subject_id : ∀ (id : SubjectId) (node : SubjectNode), g.subjects[id]? = some node → node.id = id
  joins : ∀ m ∈ g.memberships, m.page ∈ g.pages ∧ m.subject ∈ g.subjects
  edges : ∀ (source : SubjectId) (edges : List Relation), g.relations[source]? = some edges →
    source ∈ g.subjects ∧ edges ≠ [] ∧ ∀ e ∈ edges, e.target ∈ g.subjects

variable {g : Graph}

theorem intact_empty : Graph.empty.Intact where
  page_id _ _ h := by simp [Graph.empty] at h
  subject_id _ _ h := by simp [Graph.empty] at h
  joins _ h := by simp [Graph.empty] at h
  edges _ _ h := by simp [Graph.empty] at h

theorem Intact.counted (hg : g.Intact) : g.counted.Intact :=
  ⟨hg.page_id, hg.subject_id, hg.joins, hg.edges⟩

/-- Both ends of an edge are there. -/
theorem Intact.ends_mem (hg : g.Intact) {s : SubjectId} {e : Relation}
    (he : e ∈ g.relationsFrom s) : s ∈ g.subjects ∧ e.target ∈ g.subjects := by
  unfold relationsFrom at he
  cases hs : g.relations[s]? with
  | none => simp [hs] at he
  | some edges =>
    obtain ⟨hsource, -, htarget⟩ := hg.edges s edges hs
    exact ⟨hsource, htarget e (by simpa [hs] using he)⟩

/-- The lists of edges are given by the edges of each subject, as no empty list is kept. -/
theorem Intact.getElem?_relations (hg : g.Intact) (s : SubjectId) :
    g.relations[s]? = if g.relationsFrom s = [] then none else some (g.relationsFrom s) := by
  unfold relationsFrom
  cases hs : g.relations[s]? with
  | none => simp
  | some edges => simp [(hg.edges s edges hs).2.1]

/-! ## Single entries -/

section Map

variable {κ β : Type} [Ord κ] [Std.TransOrd κ]

theorem mem_insert_of_mem {t : Std.ExtTreeMap κ β} {a : κ} (h : a ∈ t) (k : κ) (v : β) :
    a ∈ t.insert k v := Std.ExtTreeMap.mem_insert.2 (.inr h)

variable [Std.LawfulEqOrd κ] [DecidableEq κ]

/-- Values under their own keys stay so when one more is inserted under its own key. -/
theorem key_of_insert {t : Std.ExtTreeMap κ β} {key : β → κ}
    (h : ∀ k v, t[k]? = some v → key v = k) (v : β) (k : κ) (w : β)
    (hw : (t.insert (key v) v)[k]? = some w) : key w = k := by
  rw [getElem?_insert_eq] at hw
  split at hw
  · rename_i hk
    obtain rfl := Option.some.inj hw
    exact hk.symm
  · exact h k w hw

theorem key_of_erase {t : Std.ExtTreeMap κ β} {key : β → κ}
    (h : ∀ k v, t[k]? = some v → key v = k) (gone k : κ) (w : β)
    (hw : (t.erase gone)[k]? = some w) : key w = k := by
  rw [getElem?_erase_eq] at hw
  split at hw
  · cases hw
  · exact h k w hw

end Map

theorem Intact.insertPage (hg : g.Intact) (page : PageNode) :
    Intact { g with pages := g.pages.insert page.id page } where
  page_id := key_of_insert hg.page_id page
  subject_id := hg.subject_id
  joins m hm := ⟨mem_insert_of_mem (hg.joins m hm).1 _ _, (hg.joins m hm).2⟩
  edges := hg.edges

theorem Intact.insertSubject (hg : g.Intact) (subject : SubjectNode) :
    Intact { g with subjects := g.subjects.insert subject.id subject } where
  page_id := hg.page_id
  subject_id := key_of_insert hg.subject_id subject
  joins m hm := ⟨(hg.joins m hm).1, mem_insert_of_mem (hg.joins m hm).2 _ _⟩
  edges s edges hs := by
    obtain ⟨hsource, hne, htarget⟩ := hg.edges s edges hs
    exact ⟨mem_insert_of_mem hsource _ _, hne, fun e he => mem_insert_of_mem (htarget e he) _ _⟩

theorem Intact.insertMembership (hg : g.Intact) {m : Membership} (hp : m.page ∈ g.pages)
    (hs : m.subject ∈ g.subjects) (main : Bool) :
    Intact { g with memberships := g.memberships.insert m main } where
  page_id := hg.page_id
  subject_id := hg.subject_id
  joins n hn := by
    rw [Std.ExtTreeMap.mem_insert, Std.LawfulEqCmp.compare_eq_iff_eq] at hn
    rcases hn with rfl | hn
    · exact ⟨hp, hs⟩
    · exact hg.joins n hn
  edges := hg.edges

theorem Intact.eraseMembership (hg : g.Intact) (m : Membership) :
    Intact { g with memberships := g.memberships.erase m } where
  page_id := hg.page_id
  subject_id := hg.subject_id
  joins n hn := hg.joins n (mem_erase_iff_ne.1 hn).2
  edges := hg.edges

theorem Intact.insertEdges (hg : g.Intact) {source : SubjectId} {edges : List Relation}
    (hs : source ∈ g.subjects) (hne : edges ≠ []) (ht : ∀ e ∈ edges, e.target ∈ g.subjects) :
    Intact { g with relations := g.relations.insert source edges } where
  page_id := hg.page_id
  subject_id := hg.subject_id
  joins := hg.joins
  edges t list hl := by
    rw [getElem?_insert_eq] at hl
    split at hl
    · rename_i e
      obtain rfl := Option.some.inj hl
      exact ⟨e ▸ hs, hne, ht⟩
    · exact hg.edges t list hl

theorem Intact.eraseEdges (hg : g.Intact) (source : SubjectId) :
    Intact { g with relations := g.relations.erase source } where
  page_id := hg.page_id
  subject_id := hg.subject_id
  joins := hg.joins
  edges t list hl := by
    rw [getElem?_erase_eq] at hl
    split at hl
    · cases hl
    · exact hg.edges t list hl

/-! ## Operations -/

theorem Intact.upsertPage (hg : g.Intact) (page : PageNode) : (g.upsertPage page).Intact := by
  unfold Graph.upsertPage
  split
  · exact hg
  · exact (hg.insertPage page).counted

theorem Intact.upsertSubject (hg : g.Intact) (subject : SubjectNode) :
    (g.upsertSubject subject).Intact := by
  unfold Graph.upsertSubject
  split
  · exact hg
  · exact (hg.insertSubject subject).counted

theorem Intact.markMembership (hg : g.Intact) {m : Membership} (hp : m.page ∈ g.pages)
    (hs : m.subject ∈ g.subjects) (main : Bool) : (g.markMembership m main).Intact := by
  unfold Graph.markMembership
  split
  · exact hg
  · exact (hg.insertMembership hp hs main).counted

theorem Intact.linkSubject (hg : g.Intact) (page : PageId) (subject : SubjectId) (main : Bool) :
    (g.linkSubject page subject main).Intact := by
  unfold Graph.linkSubject
  split
  · rename_i h
    exact hg.markMembership h.1 h.2 main
  · exact hg

theorem Intact.setMain (hg : g.Intact) (page : PageId) (subject : SubjectId) (main : Bool) :
    (g.setMain page subject main).Intact := by
  unfold Graph.setMain
  split
  · rename_i h
    exact hg.markMembership (hg.joins _ h).1 (hg.joins _ h).2 main
  · exact hg

theorem Intact.createRelation (hg : g.Intact) (source : SubjectId) (r : Relation) :
    (g.createRelation source r).2.Intact := by
  unfold Graph.createRelation
  split
  · rename_i h
    refine (hg.insertEdges h.1 (by simp) fun e he => ?_).counted
    rcases List.mem_append.1 he with he | he
    · exact (hg.ends_mem he).2
    · rw [List.mem_singleton.1 he]
      exact h.2
  · exact hg

/-- New properties leave the ends of the edges as they are. -/
theorem map_target_withProperties (id : RelationId) (properties : Properties)
    (edges : List Relation) :
    (withProperties id properties edges).map Relation.target = edges.map Relation.target := by
  induction edges with
  | nil => rfl
  | cons r rest ih =>
    unfold withProperties
    split
    · rfl
    · rw [List.map_cons, ih, List.map_cons]

theorem Intact.updateRelation (hg : g.Intact) (source : SubjectId) (r : Relation) :
    (g.updateRelation source r).Intact := by
  unfold Graph.updateRelation
  split
  · rename_i edge hf
    split
    · exact hg
    · have hedge := List.mem_of_find?_eq_some hf
      have htargets := map_target_withProperties r.id r.properties (g.relationsFrom source)
      refine (hg.insertEdges (hg.ends_mem hedge).1 (fun h0 => ?_) fun e he => ?_).counted
      · rw [h0] at htargets
        exact List.ne_nil_of_mem hedge (List.map_eq_nil_iff.1 htargets.symm)
      · have hm : e.target ∈ (g.relationsFrom source).map Relation.target := by
          rw [← htargets]
          exact List.mem_map_of_mem he
        obtain ⟨old, hold, heq⟩ := List.mem_map.1 hm
        rw [← heq]
        exact (hg.ends_mem hold).2
  · exact hg

theorem Intact.deleteRelation (hg : g.Intact) (source : SubjectId) (id : RelationId) :
    (g.deleteRelation source id).Intact := by
  simp only [Graph.deleteRelation]
  split
  · exact hg
  · split
    · exact (hg.eraseEdges source).counted
    · rename_i hne
      rw [List.isEmpty_iff] at hne
      obtain ⟨e, he⟩ := List.exists_mem_of_ne_nil _ hne
      refine (hg.insertEdges (hg.ends_mem (List.mem_filter.1 he).1).1 hne fun e he => ?_).counted
      exact (hg.ends_mem (List.mem_filter.1 he).1).2

/-- **A subject goes with everything that refers to it**: its memberships, its edges and the edges that
lead to it; a list that this leaves empty goes too. -/
theorem Intact.deleteSubject (hg : g.Intact) (s : SubjectId) : (g.deleteSubject s).Intact where
  page_id := hg.page_id
  subject_id := key_of_erase hg.subject_id s
  joins m hm := by
    rw [Std.ExtTreeMap.mem_iff_isSome_getElem?, memberships_deleteSubject] at hm
    split at hm
    · cases hm
    · rename_i hne
      obtain ⟨hp, hs⟩ := hg.joins m (Std.ExtTreeMap.mem_iff_isSome_getElem?.2 hm)
      exact ⟨hp, mem_subjects_deleteSubject.2 ⟨hne, hs⟩⟩
  edges t list hl := by
    simp only [Graph.deleteSubject] at hl
    rw [Std.ExtTreeMap.getElem?_filterMap', getElem?_erase_eq] at hl
    split at hl
    · cases hl
    · rename_i hts
      obtain ⟨edges, hedges, hrest⟩ := Option.bind_eq_some_iff.1 hl
      obtain ⟨hsource, -, htarget⟩ := hg.edges t edges hedges
      split at hrest
      · cases hrest
      · rename_i hne
        obtain rfl := Option.some.inj hrest
        refine ⟨mem_subjects_deleteSubject.2 ⟨hts, hsource⟩, by simpa using hne, fun e he => ?_⟩
        obtain ⟨hmem, hes⟩ := List.mem_filter.1 he
        exact mem_subjects_deleteSubject.2 ⟨of_decide_eq_true hes, htarget e hmem⟩

theorem Intact.deleteIfOrphan (hg : g.Intact) (s : SubjectId) : (g.deleteIfOrphan s).Intact := by
  unfold Graph.deleteIfOrphan
  split
  · exact hg
  · exact hg.deleteSubject s

theorem Intact.detachExcept (hg : g.Intact) (page : PageId) (keep : List SubjectId) :
    (g.detachExcept page keep).2.Intact :=
  List.foldlRecOn _ _ hg fun _ hh s _ => ((hh.eraseMembership ⟨page, s⟩).deleteIfOrphan s).counted

theorem Intact.withoutPage (hg : g.Intact) (page : PageId) : (g.withoutPage page).Intact where
  page_id := key_of_erase hg.page_id page
  subject_id := hg.subject_id
  joins m hm := by
    obtain ⟨hne, hm⟩ := mem_memberships_withoutPage.1 hm
    exact ⟨mem_erase_iff_ne.2 ⟨hne, (hg.joins m hm).1⟩, (hg.joins m hm).2⟩
  edges := hg.edges

theorem Intact.deletePage (hg : g.Intact) (page : PageId) : (g.deletePage page).2.Intact := by
  by_cases hp : page ∈ g.pages
  · rw [deletePage_snd hp]
    exact List.foldlRecOn _ _ (hg.withoutPage page) fun _ hh s _ => hh.deleteIfOrphan s
  · rw [deletePage_of_not_mem hp]
    exact hg

/-- **Every operation keeps integrity**, whatever its arguments. -/
theorem Intact.apply (hg : g.Intact) (op : Operation) : (g.apply op).2.Intact := by
  cases op with
  | upsertPage page => exact hg.upsertPage page
  | upsertSubject subject => exact hg.upsertSubject subject
  | linkSubject page subject main => exact hg.linkSubject page subject main
  | setMain page subject main => exact hg.setMain page subject main
  | detachExcept page keep => exact hg.detachExcept page keep
  | outgoing source => exact hg
  | createRelation source r => exact hg.createRelation source r
  | updateRelation source r => exact hg.updateRelation source r
  | deleteRelation source id => exact hg.deleteRelation source id
  | deletePage page => exact hg.deletePage page

end Graph

/-! ## Runs of the store in memory -/

namespace Memory

/-- What can be done with the store in memory. -/
inductive Action where
  | call (c : Call)
  /-- The transaction is forgotten, finished or not. -/
  | drop
  | failRelationWrites (fails : Bool)

def act (m : Memory) : Action → Memory
  | .call c => (m.answer c).2
  | .drop => m.drop
  | .failRelationWrites fails => { m with failsRelationWrites := fails }

def run (m : Memory) (actions : List Action) : Memory := actions.foldl act m

def working? (m : Memory) : Option Graph := m.transaction.bind MemoryTransaction.working

/-- The committed contents and the working copy of an open transaction are intact. -/
structure Intact (m : Memory) : Prop where
  committed : m.committed.Intact
  working : ∀ g, m.working? = some g → g.Intact

variable {m : Memory}

theorem Intact.perform (h : m.Intact) (op : Operation) : (m.perform op).2.Intact := by
  unfold Memory.perform
  split
  · exact h
  · rename_i t ht
    split
    · exact h
    · split
      · exact h
      · rename_i g hw
        refine ⟨h.committed, fun g' hg' => ?_⟩
        obtain rfl : (g.apply op).2 = g' := Option.some.inj hg'
        exact (h.working g (by simp [working?, ht, hw])).apply op

theorem Intact.finish (h : m.Intact) {effect : Graph → Graph → Graph}
    (he : ∀ a b : Graph, a.Intact → b.Intact → (effect a b).Intact) :
    (m.finish effect).2.Intact := by
  unfold Memory.finish
  split
  · rename_i g fails ht
    refine ⟨he _ _ h.committed (h.working g (by simp [working?, ht])), fun g' hg' => ?_⟩
    simp [working?] at hg'
  · exact h

theorem Intact.answer (h : m.Intact) (c : Call) : (m.answer c).2.Intact := by
  cases c with
  | start =>
    refine ⟨h.committed, fun g hg => ?_⟩
    obtain rfl : m.committed = g := Option.some.inj hg
    exact h.committed
  | perform op => exact h.perform op
  | commit => exact h.finish fun _ _ _ hw => hw
  | rollback => exact h.finish fun _ _ hc _ => hc

theorem Intact.act (h : m.Intact) (action : Action) : (m.act action).Intact := by
  cases action with
  | call c => exact h.answer c
  | drop => exact ⟨h.committed, fun g hg => by simp [Memory.act, Memory.drop, working?] at hg⟩
  | failRelationWrites fails => exact ⟨h.committed, h.working⟩

theorem Intact.run (h : m.Intact) (actions : List Action) : (m.run actions).Intact :=
  List.foldlRecOn _ _ h fun _ hm action _ => hm.act action

theorem intact_new : Intact {} := ⟨Graph.intact_empty, fun g hg => by simp [working?] at hg⟩

/-- **No reference ever leads nowhere.** Whatever is done with a store in memory that starts empty, in
its committed contents and in the working copy of an open transaction each page and each subject stands
under its own identifier, each membership joins a page and a subject that are there, and each list of
edges belongs to a subject that is there and holds at least one edge, and only edges to subjects that are
there. -/
theorem intact_after (actions : List Action) :
    (run {} actions).committed.Intact ∧ ∀ g, (run {} actions).working? = some g → g.Intact := by
  have h := intact_new.run actions
  exact ⟨h.committed, h.working⟩

end Memory
end WikiGraph
