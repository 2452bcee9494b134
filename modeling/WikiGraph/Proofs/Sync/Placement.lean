import WikiGraph.Proofs.Graph.Detach
import WikiGraph.Proofs.KeyedFold
import WikiGraph.Proofs.Sync.Transaction
/-!
# The subjects of a page in the graph

A page's subjects are placed one after the other: a subject of a known schema gets its node and its
membership, and of any other subject only the role on the page follows, if it has one. No placing
touches what another subject has, so after all of them each subject has what its own placing gave it
(`place_foldl`). Edges stay as they are, and no subject is lost.
-/
namespace WikiGraph

namespace Graph

/-- `h` has the pages and edges of `g`, and at least its subjects. -/
structure Extends (g h : Graph) : Prop where
  pages : h.pages = g.pages
  relations : h.relations = g.relations
  subjects : ∀ t ∈ g.subjects, t ∈ h.subjects

variable {g h : Graph}

theorem Extends.refl (g : Graph) : Extends g g := ⟨rfl, rfl, fun _ ht => ht⟩

theorem Extends.trans {k : Graph} (a : Extends g h) (b : Extends h k) : Extends g k :=
  ⟨b.pages.trans a.pages, b.relations.trans a.relations, fun t ht => b.subjects t (a.subjects t ht)⟩

theorem Sound.mono (hg : g.Sound) (hr : h.relations = g.relations)
    (hs : ∀ t ∈ g.subjects, t ∈ h.subjects) : h.Sound := by
  have he : h.relationsFrom = g.relationsFrom := relationsFrom_of_relations_eq hr
  constructor
  · intro s hne
    rw [he] at hne
    exact hs s (hg.source_mem s hne)
  · intro s e hm
    rw [he] at hm
    exact hs _ (hg.target_mem s e hm)
  · intro s
    rw [he]
    exact hg.distinct s

theorem sound_upsertPage (hg : g.Sound) (page : PageNode) : (g.upsertPage page).Sound :=
  hg.mono (upsertPage_frame page g).2.2 fun t ht => by rwa [(upsertPage_frame page g).1]

theorem extends_upsertSubject (node : SubjectNode) (g : Graph) :
    Extends g (g.upsertSubject node) where
  pages := (upsertSubject_frame node g).1
  relations := (upsertSubject_frame node g).2.2
  subjects t ht := by
    rw [Std.ExtTreeMap.mem_iff_isSome_getElem?] at ht ⊢
    by_cases h : t = node.id
    · obtain ⟨held, hh, -⟩ := subjects_upsertSubject_self node g
      rw [h, hh]
      rfl
    · rwa [subjects_upsertSubject_of_ne h]

theorem extends_markMembership (m : Membership) (main : Bool) (g : Graph) :
    Extends g (g.markMembership m main) where
  pages := (markMembership_frame m main g).1
  relations := (markMembership_frame m main g).2.2
  subjects t ht := by rwa [(markMembership_frame m main g).2.1]

theorem memberships_setMain (page : PageId) (s : SubjectId) (main : Bool) (m : Membership)
    (g : Graph) :
    (g.setMain page s main).memberships[m]? =
      if m = ⟨page, s⟩ then g.memberships[m]?.map fun _ => main else g.memberships[m]? := by
  unfold setMain
  by_cases hm : m = ⟨page, s⟩
  · rw [if_pos hm, hm]
    split
    · rename_i h
      obtain ⟨role, hr⟩ := Option.isSome_iff_exists.1 (Std.ExtTreeMap.mem_iff_isSome_getElem?.1 h)
      rw [memberships_markMembership, getElem?_insert_eq, if_pos rfl, hr]
      rfl
    · rename_i h
      rw [Std.ExtTreeMap.getElem?_eq_none h]
      rfl
  · rw [if_neg hm]
    split
    · rw [memberships_markMembership, getElem?_insert_eq, if_neg hm]
    · rfl

theorem setMain_frame (page : PageId) (s : SubjectId) (main : Bool) (g : Graph) :
    Extends g (g.setMain page s main) ∧ (g.setMain page s main).subjects = g.subjects := by
  unfold setMain
  split
  · exact ⟨extends_markMembership _ main g, (markMembership_frame _ main g).2.1⟩
  · exact ⟨.refl g, rfl⟩

end Graph

namespace Projector

open WikiGraph.Graph

variable {p : Projector} {page : PageId} {g : Graph} {x : Subject × Bool}

/-- What a subject has in the graph: its node, and its role on a page. -/
def entryOn (page : PageId) (g : Graph) (id : SubjectId) : Option SubjectNode × Option Bool :=
  (g.subjects[id]?, g.memberships[(⟨page, id⟩ : Membership)]?)

/-- What placing a subject makes of what it had. -/
def Placed (p : Projector) (x : Subject × Bool) (before after : Option SubjectNode × Option Bool) :
    Prop :=
  match p.schemas[x.1.schema]? with
  | some schema =>
    (∃ node, after.1 = some node ∧ (node = p.nodeOf schema x.1 ∨ node.same (p.nodeOf schema x.1))) ∧
      after.2 = some x.2
  | none => after = (before.1, before.2.map fun _ => x.2)

theorem place_of_resolved {schema : Schema} (hs : p.schemas[x.1.schema]? = some schema)
    (hp : page ∈ g.pages) :
    p.place page g x =
      (g.upsertSubject (p.nodeOf schema x.1)).markMembership ⟨page, x.1.id⟩ x.2 := by
  have hm : x.1.id ∈ (g.upsertSubject (p.nodeOf schema x.1)).subjects := by
    obtain ⟨held, hh, -⟩ := subjects_upsertSubject_self (p.nodeOf schema x.1) g
    rw [Std.ExtTreeMap.mem_iff_isSome_getElem?]
    exact Option.isSome_of_eq_some hh
  have hp' : page ∈ (g.upsertSubject (p.nodeOf schema x.1)).pages := by
    rwa [(upsertSubject_frame _ g).1]
  rw [place, hs]
  exact linkSubject_eq hp' hm x.2

theorem place_of_unresolved (hs : p.schemas[x.1.schema]? = none) :
    p.place page g x = g.setMain page x.1.id x.2 := by
  rw [place, hs]

theorem extends_place (hp : page ∈ g.pages) (x : Subject × Bool) : Extends g (p.place page g x) := by
  cases hs : p.schemas[x.1.schema]? with
  | none =>
    rw [place_of_unresolved hs]
    exact (setMain_frame page x.1.id x.2 g).1
  | some schema =>
    rw [place_of_resolved hs hp]
    exact (extends_upsertSubject _ g).trans (extends_markMembership _ x.2 _)

theorem placed_place (hp : page ∈ g.pages) (x : Subject × Bool) :
    p.Placed x (entryOn page g x.1.id) (entryOn page (p.place page g x) x.1.id) := by
  unfold Placed
  cases hs : p.schemas[x.1.schema]? with
  | none =>
    rw [place_of_unresolved hs]
    simp only [entryOn]
    rw [(setMain_frame page x.1.id x.2 g).2, memberships_setMain, if_pos rfl]
  | some schema =>
    rw [place_of_resolved hs hp]
    simp only [entryOn]
    rw [(markMembership_frame _ x.2 _).2.1, memberships_markMembership, getElem?_insert_eq,
      if_pos rfl]
    exact ⟨subjects_upsertSubject_self (p.nodeOf schema x.1) g, rfl⟩

theorem entryOn_place_of_ne (hp : page ∈ g.pages) {id : SubjectId} (h : id ≠ x.1.id) :
    entryOn page (p.place page g x) id = entryOn page g id := by
  have hm : (⟨page, id⟩ : Membership) ≠ ⟨page, x.1.id⟩ := fun e => h (Membership.mk.inj e).2
  unfold entryOn
  cases hs : p.schemas[x.1.schema]? with
  | none =>
    rw [place_of_unresolved hs, (setMain_frame page x.1.id x.2 g).2, memberships_setMain, if_neg hm]
  | some schema =>
    rw [place_of_resolved hs hp, (markMembership_frame _ x.2 _).2.1, memberships_markMembership,
      getElem?_insert_eq, if_neg hm, subjects_upsertSubject_of_ne h, (upsertSubject_frame _ g).2.1]

/-- **Placing a page's subjects.** Each has what its own placing makes of what it had, every other
subject has what it had, and the edges are as before. -/
theorem place_foldl (p : Projector) (hp : page ∈ g.pages) {subjects : List (Subject × Bool)}
    (hn : (subjects.map (·.1.id)).Nodup) :
    Extends g (subjects.foldl (p.place page) g) ∧
      (∀ x ∈ subjects,
        p.Placed x (entryOn page g x.1.id) (entryOn page (subjects.foldl (p.place page) g) x.1.id)) ∧
      ∀ id ∉ subjects.map (·.1.id),
        entryOn page (subjects.foldl (p.place page) g) id = entryOn page g id := by
  have hpages : ∀ {h : Graph}, Extends g h → page ∈ h.pages := fun he => he.pages ▸ hp
  have hstep : KeyedStep (p.place page) (·.1.id) (entryOn page) p.Placed (Extends g) subjects := by
    constructor
    · intro h x _ he
      exact he.trans (extends_place (hpages he) x)
    · intro h x _ he
      exact placed_place (hpages he) x
    · intro h x _ he id hid
      exact entryOn_place_of_ne (hpages he) hid
  exact hstep.foldl hn (.refl g)

end Projector
end WikiGraph
