import WikiGraph.Proofs.Sync.Edges
import WikiGraph.Proofs.Sync.NodeProperties
import WikiGraph.Proofs.Sync.Placement
/-!
# What a save leaves behind

A save writes the page node, places the subjects, reconciles the edges of those it placed and then
ends the memberships of subjects that have left the page, which may delete subjects and the edges at
them. `writeOn_spec` puts these four passes together for any sound graph, and every graph that a
synchroniser reaches is sound (`Reachable.sound`).
-/
namespace WikiGraph

/-! ## A page written on a sound graph -/

theorem PageSubjects.nodup_all (s : PageSubjects) : (s.all.map (·.1.id)).Nodup := s.nodup_ids

namespace Projector

open WikiGraph.Graph

variable {p : Projector} {page : Page} {g : Graph}

theorem mem_resolved {subjects : List (Subject × Bool)} {s : Subject} :
    s ∈ p.resolved subjects ↔ s ∈ subjects.map (·.1) ∧ p.resolves s := List.mem_filter

theorem nodup_resolved (page : Page) : ((p.resolved page.subjects.all).map Subject.id).Nodup := by
  have h : ((page.subjects.all.map (·.1)).map Subject.id).Nodup := by
    rw [List.map_map]
    exact page.subjects.nodup_all
  exact h.sublist (List.filter_sublist.map Subject.id)

theorem mem_ids_of_mem_resolved {s : Subject} (hs : s ∈ p.resolved page.subjects.all) :
    s.id ∈ page.subjects.ids := by
  obtain ⟨x, hx, rfl⟩ := List.mem_map.1 (mem_resolved.1 hs).1
  exact List.mem_map_of_mem hx

theorem not_mem_resolved_of_not_mem_ids {t : SubjectId} (ht : t ∉ page.subjects.ids) :
    t ∉ (p.resolved page.subjects.all).map Subject.id := by
  intro hm
  obtain ⟨s, hs, rfl⟩ := List.mem_map.1 hm
  exact ht (mem_ids_of_mem_resolved hs)

/-- The graph with the page node written and the page's subjects placed. -/
def placedOn (p : Projector) (page : Page) (g : Graph) : Graph :=
  page.subjects.all.foldl (p.place page.id) (g.upsertPage page.node)

theorem mem_pages_upsertPage (page : Page) (g : Graph) :
    page.id ∈ (g.upsertPage page.node).pages := by
  rw [pages_upsertPage]
  exact Std.ExtTreeMap.mem_insert_self

theorem extends_placedOn (p : Projector) (page : Page) (g : Graph) :
    Extends (g.upsertPage page.node) (p.placedOn page g) :=
  (place_foldl p (mem_pages_upsertPage page g) page.subjects.nodup_all).1

theorem placed_placedOn (p : Projector) (g : Graph) {x : Subject × Bool}
    (hx : x ∈ page.subjects.all) :
    p.Placed x (entryOn page.id g x.1.id) (entryOn page.id (p.placedOn page g) x.1.id) := by
  have h := (place_foldl p (mem_pages_upsertPage page g) page.subjects.nodup_all).2.1 x hx
  have he : entryOn page.id (g.upsertPage page.node) x.1.id = entryOn page.id g x.1.id := by
    unfold entryOn
    rw [(upsertPage_frame page.node g).1, (upsertPage_frame page.node g).2.1]
  rwa [he] at h

/-- A placed subject of a known schema is in the graph. -/
theorem Placed.mem_subjects {x : Subject × Bool} {before : Option SubjectNode × Option Bool}
    {h : Graph} {pid : PageId} (hx : p.Placed x before (entryOn pid h x.1.id))
    (hr : p.resolves x.1) : x.1.id ∈ h.subjects := by
  obtain ⟨schema, hs⟩ := Option.isSome_iff_exists.1 hr
  rw [Placed, hs] at hx
  obtain ⟨⟨node, hn, -⟩, -⟩ := hx
  rw [Std.ExtTreeMap.mem_iff_isSome_getElem?]
  exact Option.isSome_of_eq_some hn

theorem sound_placedOn (hg : g.Sound) (p : Projector) (page : Page) : (p.placedOn page g).Sound :=
  (sound_upsertPage hg page.node).mono (extends_placedOn p page g).relations
    (extends_placedOn p page g).subjects

/-- The page shows no pattern that is no number, neither in a property of a relation nor in what the
builders make of a statement. -/
structure Comparable (p : Projector) (page : Page) : Prop where
  relations : ∀ x ∈ page.subjects.all, ∀ r ∈ x.1.relations.toList, r.properties.IsComparable
  scalars : ∀ x ∈ page.subjects.all, ∀ schema, p.schemas[x.1.schema]? = some schema →
    ∀ s ∈ x.1.statements.toList, ∀ scalars, p.scalarsOf (some schema) s = some scalars →
      ∀ scalar ∈ scalars, scalar.isComparable

theorem spread_spec (hg : g.Sound) (p : Projector) (page : Page) :
    (SameNodes (p.placedOn page g) (p.spread page g).2 ∧ (p.spread page g).2.Sound) ∧
      ∀ s ∈ p.resolved page.subjects.all, s.id ∈ (p.placedOn page g).subjects →
        (∀ r ∈ s.relations.toList, r.properties.IsComparable) →
        ShowsRelations (· ∈ (p.placedOn page g).subjects) s.relations.toList
          ((p.spread page g).2.relationsFrom s.id) :=
  reconcileAfter_foldl (sound_placedOn hg p page) (nodup_resolved page) {}

/-- What the four passes of a save leave: a sound graph with the node of the page; each subject of
the page has what its placing gave it, and no other subject is on the page; and the edges of each
placed subject are its relations to subjects that are there in the end. -/
structure Written (p : Projector) (page : Page) (g h : Graph) : Prop where
  sound : h.Sound
  node : h.pages[page.id]? = some page.node
  placed : ∀ x ∈ page.subjects.all,
    p.Placed x (entryOn page.id g x.1.id) (entryOn page.id h x.1.id)
  only : ∀ t, (⟨page.id, t⟩ : Membership) ∈ h.memberships → t ∈ page.subjects.ids
  edges : ∀ x ∈ page.subjects.all, p.resolves x.1 →
    (∀ r ∈ x.1.relations.toList, r.properties.IsComparable) →
    ShowsRelations (· ∈ h.subjects) x.1.relations.toList (h.relationsFrom x.1.id)

/-- The detach pass leaves the entries of the page's own subjects alone. -/
theorem entryOn_writeOn (hg : g.Sound) {x : Subject × Bool} (hx : x ∈ page.subjects.all) :
    entryOn page.id (p.writeOn page g).2 x.1.id = entryOn page.id (p.placedOn page g) x.1.id := by
  obtain ⟨⟨hsame, hsound⟩, -⟩ := spread_spec hg p page
  have hd := (detachExcept_spec page.id page.subjects.ids hsound.joined).2
  have hs : x.1.id ∉ (p.spread page g).2.stale page.id page.subjects.ids := fun h =>
    (mem_stale.1 h).2 (List.mem_map_of_mem hx)
  unfold entryOn
  rw [← hsame.subjects, ← hsame.memberships, ← hd.kept _ hs, ← hd.held _ fun _ => hs]
  rfl

/-- **What a page written on a sound graph leaves.** -/
theorem writeOn_spec (hg : g.Sound) (p : Projector) (page : Page) :
    Written p page g (p.writeOn page g).2 := by
  obtain ⟨⟨hsame, hsound⟩, hedges⟩ := spread_spec hg p page
  obtain ⟨hr, hd⟩ := detachExcept_spec page.id page.subjects.ids hsound.joined
  have hw : (p.writeOn page g).2 =
      ((p.spread page g).2.detachExcept page.id page.subjects.ids).2 := rfl
  have hplaced : ∀ x ∈ page.subjects.all, p.Placed x (entryOn page.id g x.1.id)
      (entryOn page.id (p.writeOn page g).2 x.1.id) := by
    intro x hx
    rw [entryOn_writeOn hg hx]
    exact placed_placedOn p g hx
  rw [← hw] at hr hd
  refine ⟨hr.sound hsound, ?_, hplaced, fun t ht => mem_keep_of_detachExcept ht,
    fun x hx hres hc => ?_⟩
  · rw [hd.pages, hsame.pages, (extends_placedOn p page g).pages, pages_upsertPage]
    exact Std.ExtTreeMap.getElem?_insert_self
  · have hmem : x.1.id ∈ (p.writeOn page g).2.subjects := (hplaced x hx).mem_subjects hres
    have hs := hedges x.1 (mem_resolved.2 ⟨List.mem_map_of_mem hx, hres⟩)
      ((placed_placedOn p g hx).mem_subjects hres) hc
    rw [hr.edges, if_pos hmem]
    refine hs.filter (fun t ht => ?_) _ fun e => decide_eq_true_iff
    rw [← hsame.subjects]
    exact hr.mem ht

end Projector

/-! ## Reachable stores -/

namespace Memory

/-- The stores that calls of synchronisers reach from the empty one. Each call may be made with a
projector of its own, and any call may come to nothing because relation writes are made to fail. -/
inductive Reachable : Memory → Prop
  | empty : Reachable {}
  | failRelationWrites {m : Memory} (h : Reachable m) (fails : Bool) :
      Reachable { m with failsRelationWrites := fails }
  | save {m : Memory} (h : Reachable m) (p : Projector) (page : Page) :
      Reachable (p.savePage store page m).2
  | delete {m : Memory} (h : Reachable m) (page : PageId) : Reachable (deletePage store page m).2
  | reconcile {m : Memory} (h : Reachable m) (source : SubjectId) (target : RelationList) :
      Reachable (WikiGraph.reconcile store source target m).2

theorem sound_empty : Graph.empty.Sound := by
  have he : ∀ s, Graph.empty.relationsFrom s = [] := fun s => by
    simp [Graph.relationsFrom, Graph.empty]
  constructor
  · intro s hs
    exact absurd (he s) hs
  · intro s e hm
    rw [he] at hm
    cases hm
  · intro s
    rw [he]
    exact List.nodup_nil

/-- What the empty graph has, and every page written, page deleted and reconciliation keeps, holds of
what is committed, whatever calls were made and whichever failed. -/
theorem Reachable.invariant {P : Graph → Prop} (hempty : P .empty)
    (hsave : ∀ (p : Projector) (page : Page) (g : Graph), P g → P (p.writeOn page g).2)
    (hdelete : ∀ (page : PageId) (g : Graph), P g → P (g.deletePage page).2)
    (hreconcile : ∀ (source : SubjectId) (target : RelationList) (g : Graph), P g →
      P (g.reconcile source target).2)
    {m : Memory} (h : m.Reachable) : P m.committed := by
  induction h with
  | empty => exact hempty
  | failRelationWrites _ _ ih => exact ih
  | @save m _ p page ih =>
    rcases p.savePage_eq page m with hs | ⟨-, e, hs⟩
    · rw [hs]
      exact hsave p page _ ih
    · rw [hs]
      exact ih
  | @delete m _ page ih =>
    rw [deletePage_eq]
    exact hdelete page _ ih
  | @reconcile m _ source target ih =>
    rcases reconcile_eq source target m with hr | ⟨-, e, hr⟩
    · rw [hr]
      exact hreconcile source target _ ih
    · rw [hr]
      exact ih

/-- **What is committed is sound.** -/
theorem Reachable.sound {m : Memory} (h : m.Reachable) : m.committed.Sound :=
  h.invariant sound_empty (fun p page _ hg => (p.writeOn_spec hg page).sound)
    (fun page _ hg => (Graph.restricts_deletePage page hg.joined).sound hg)
    (fun source target _ hg => Graph.sound_reconcile hg source target)

end Memory

/-! ## The page in the graph -/

/-- The mark of a subject says whether it is the page's main one. -/
theorem PageSubjects.mark_of_mem_all {subjects : PageSubjects} {x : Subject × Bool}
    (h : x ∈ subjects.all) : x.2 = decide (subjects.main.map Subject.id = some x.1.id) := by
  unfold PageSubjects.all at h
  cases hm : subjects.main with
  | none =>
    rw [hm] at h
    obtain ⟨s, -, rfl⟩ := List.mem_map.1 (mem_of_mem_firstBy h)
    simp
  | some main =>
    rw [hm] at h
    rcases List.mem_cons.1 h with rfl | h
    · simp
    · have hk := key_not_mem_of_mem_firstByAfter h
      obtain ⟨s, -, rfl⟩ := List.mem_map.1 (mem_of_mem_firstByAfter h)
      have hne : main.id ≠ s.id := fun e => hk (by simp [e])
      simp [hne]

namespace Projector

variable {p : Projector} {page : Page}

theorem isComparable_project {schema : Option Schema} {statements : StatementList}
    (h : ∀ s ∈ statements.toList, ∀ scalars, p.scalarsOf schema s = some scalars →
      ∀ scalar ∈ scalars, scalar.isComparable) :
    (p.project schema statements).IsComparable := by
  intro property scalars hs
  rw [getElem?_project, Option.bind_eq_some_iff] at hs
  obtain ⟨s, hget, hscalars⟩ := hs
  exact h s ((find?_key_eq_some_iff statements.distinct).1 hget).1 scalars hscalars

/-- The node of a subject of the page holds no pattern that is no number. -/
theorem Comparable.same_nodeOf (hc : p.Comparable page) {x : Subject × Bool}
    (hx : x ∈ page.subjects.all) {schema : Schema} (hs : p.schemas[x.1.schema]? = some schema) :
    (p.nodeOf schema x.1).same (p.nodeOf schema x.1) :=
  SubjectNode.same_self (isComparable_project (hc.scalars x hx schema hs))

/-- The roles on the page: a subject of a known schema is a member, any other one if it was. -/
theorem Placed.member_iff {x : Subject × Bool} {before after : Option SubjectNode × Option Bool}
    (hx : p.Placed x before after) {main : Bool} :
    after.2 = some main ↔ main = x.2 ∧ (p.resolves x.1 ∨ before.2.isSome) := by
  unfold Placed at hx
  cases hs : p.schemas[x.1.schema]? with
  | none =>
    rw [hs] at hx
    rw [hx, resolves, hs]
    cases before.2 with
    | none => simp
    | some role =>
      constructor
      · intro h
        exact ⟨(Option.some.inj h).symm, .inr rfl⟩
      · rintro ⟨rfl, -⟩
        rfl
  | some schema =>
    rw [hs] at hx
    rw [hx.2, resolves, hs]
    constructor
    · intro h
      exact ⟨(Option.some.inj h).symm, .inl rfl⟩
    · rintro ⟨rfl, -⟩
      rfl

end Projector

/-- What a graph `h` holds when a page was saved over the graph `g`. -/
structure SavedOver (p : Projector) (page : Page) (g h : Graph) : Prop where
  node : h.pages[page.id]? = some {
    id := page.id
    title := page.properties.title
    createdAt := Calendar.storedTime page.properties.creationTime
    updatedAt := Calendar.storedTime page.properties.modificationTime
    lastEditor := page.properties.lastEditor }
  /-- The members are the page's subjects of known schemas, and those of unknown schemas that were
  members before; the main one is marked. -/
  members : ∀ t main, h.memberships[(⟨page.id, t⟩ : Membership)]? = some main ↔
    main = decide (page.subjects.main.map Subject.id = some t) ∧
      ∃ s ∈ page.subjects.all.map (·.1), s.id = t ∧
        (p.resolves s ∨ (⟨page.id, t⟩ : Membership) ∈ g.memberships)
  subjects : ∀ s ∈ page.subjects.all.map (·.1), ∀ schema, p.schemas[s.schema]? = some schema →
    ∃ node, h.subjects[s.id]? = some node ∧ node.id = s.id ∧ node.name = s.label ∧
      node.schema = schema.name ∧ node.properties.same (p.project (some schema) s.statements)
  edges : ∀ s ∈ page.subjects.all.map (·.1), p.resolves s →
    ShowsRelations (· ∈ h.subjects) s.relations.toList (h.relationsFrom s.id)

namespace Projector

open WikiGraph.Graph

variable {p : Projector} {page : Page} {g : Graph}

/-- The node of a subject of a known schema compares equal to what the page declares. -/
theorem Written.same_node {h : Graph} (hw : Written p page g h) (hc : p.Comparable page)
    {x : Subject × Bool} (hx : x ∈ page.subjects.all) {schema : Schema}
    (hs : p.schemas[x.1.schema]? = some schema) :
    ∃ node, h.subjects[x.1.id]? = some node ∧ node.same (p.nodeOf schema x.1) := by
  have hp := hw.placed x hx
  rw [Placed, hs] at hp
  obtain ⟨⟨node, hn, hsame⟩, -⟩ := hp
  refine ⟨node, hn, ?_⟩
  rcases hsame with rfl | hsame
  · exact hc.same_nodeOf hx hs
  · exact hsame

theorem savedOver_writeOn (hg : g.Sound) (hc : p.Comparable page) :
    SavedOver p page g (p.writeOn page g).2 := by
  have hw := writeOn_spec hg p page
  refine ⟨hw.node, fun t main => ?_, fun s hs schema hschema => ?_, fun s hs hres => ?_⟩
  · constructor
    · intro ht
      have hm : (⟨page.id, t⟩ : Membership) ∈ (p.writeOn page g).2.memberships := by
        rw [Std.ExtTreeMap.mem_iff_isSome_getElem?, ht]
        rfl
      obtain ⟨x, hx, rfl⟩ := List.mem_map.1 (hw.only t hm)
      obtain ⟨rfl, hr⟩ := (hw.placed x hx).member_iff.1 ht
      refine ⟨PageSubjects.mark_of_mem_all hx, x.1, List.mem_map_of_mem hx, rfl, ?_⟩
      rw [Std.ExtTreeMap.mem_iff_isSome_getElem?]
      exact hr
    · rintro ⟨rfl, s, hs, rfl, hr⟩
      obtain ⟨x, hx, rfl⟩ := List.mem_map.1 hs
      rw [Std.ExtTreeMap.mem_iff_isSome_getElem?] at hr
      exact (hw.placed x hx).member_iff.2 ⟨(PageSubjects.mark_of_mem_all hx).symm, hr⟩
  · obtain ⟨x, hx, rfl⟩ := List.mem_map.1 hs
    obtain ⟨node, hn, hsame⟩ := hw.same_node hc hx hschema
    exact ⟨node, hn, SubjectNode.same_iff.1 hsame⟩
  · obtain ⟨x, hx, rfl⟩ := List.mem_map.1 hs
    exact hw.edges x hx hres (hc.relations x hx)

/-- **What a successful save leaves behind**, in whatever reachable store it is made. -/
theorem savePage_leaves {m m' : Memory} {report : SyncReport} (h : m.Reachable)
    (hc : p.Comparable page) (hs : p.savePage Memory.store page m = (.ok report, m')) :
    SavedOver p page m.committed m'.committed := by
  rw [p.committed_of_savePage hs]
  exact savedOver_writeOn h.sound hc

end Projector

/-- A site that knows one schema and stores texts. -/
def textProjector : Projector where
  builders := (∅ : ValueBuilderRegistry).insert "text" ValueBuilder.texts
  types := (∅ : PropertyTypeRegistry).insert "text" ⟨"text", .string, .any⟩
  schemas := (∅ : SchemaRegistry).insert ⟨"Person"⟩ { name := ⟨"Person"⟩ }

/-- A page with a main subject that names another subject of the page and one that is nowhere, and
with a subject whose schema is unknown. -/
def annPage : Page where
  id := ⟨"Ann"⟩
  properties := { title := "Ann" }
  subjects := {
    main := some {
      id := ⟨"ann"⟩
      label := "Ann"
      schema := ⟨"Person"⟩
      statements := .ofList [
        ⟨"name", "text", some (.texts ["Ann"])⟩,
        ⟨"friend", "relation", some (.relations [
          ⟨⟨"r1"⟩, ⟨"FRIEND"⟩, ⟨"bob"⟩, ∅⟩, ⟨⟨"r2"⟩, ⟨"FRIEND"⟩, ⟨"eve"⟩, ∅⟩])⟩] }
    children := [
      { id := ⟨"bob"⟩, label := "Bob", schema := ⟨"Person"⟩, statements := .empty },
      { id := ⟨"spook"⟩, label := "Spook", schema := ⟨"Ghost"⟩, statements := .empty }] }

/-- A page with one person, who names at most one friend. -/
def personPage (name : String) (friend : Option String) : Page where
  id := ⟨name⟩
  properties := { title := name }
  subjects := {
    main := some {
      id := ⟨name⟩
      label := name
      schema := ⟨"Person"⟩
      statements := .ofList [⟨"friend", "relation", some (.relations
        (friend.toList.map fun other => ⟨⟨"r"⟩, ⟨"FRIEND"⟩, ⟨other⟩, ∅⟩))⟩] } }

theorem scalarsOf_textProjector {schema : Option Schema} {s : Statement} {scalars : List Scalar}
    (h : textProjector.scalarsOf schema s = some scalars) :
    ∀ scalar ∈ scalars, scalar.isComparable := by
  obtain ⟨v, _, _, builder, -, -, -, -, -, hn, rfl, -⟩ := Projector.scalarsOf_eq_some_iff.1 h
  simp only [textProjector] at hn
  rw [getElem?_insert_eq] at hn
  split at hn
  · obtain rfl := Option.some.inj hn
    cases v <;> simp [ValueBuilder.texts, Scalar.isComparable]
  · simp at hn

/-- Texts are no numbers, so only properties of relations could hold a pattern that is no number. -/
theorem comparable_of_no_properties {page : Page}
    (hp : ∀ x ∈ page.subjects.all, ∀ r ∈ x.1.relations.toList, r.properties.toList = []) :
    textProjector.Comparable page where
  relations x hx r hr := Properties.isComparable_of_toList_nil (hp x hx r hr)
  scalars _ _ _ _ _ _ _ h := scalarsOf_textProjector h

theorem comparable_annPage : textProjector.Comparable annPage :=
  comparable_of_no_properties (by decide +kernel)

theorem annPage_saved :
    ∃ report m', textProjector.savePage Memory.store annPage {} = (.ok report, m') ∧
      SavedOver textProjector annPage .empty m'.committed ∧
      m'.committed.memberships[(⟨⟨"Ann"⟩, ⟨"ann"⟩⟩ : Membership)]? = some true := by
  have hf : ({} : Memory).failsRelationWrites = false := rfl
  have hs := textProjector.savePage_of_not_failing hf annPage
  have h := Projector.savePage_leaves .empty comparable_annPage hs
  refine ⟨_, _, hs, h, (h.members _ _).2 ⟨by decide, ?_⟩⟩
  have hm : ∃ s ∈ annPage.subjects.all.map (·.1), s.id = ⟨"ann"⟩ ∧ textProjector.resolves s := by
    decide +kernel
  obtain ⟨s, hmem, hid, hres⟩ := hm
  exact ⟨s, hmem, hid, .inl hres⟩

end WikiGraph
