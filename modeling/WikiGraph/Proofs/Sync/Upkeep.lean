import WikiGraph.Proofs.Graph.Population
import WikiGraph.Proofs.Sync.Save
/-!
# What synchronisers keep up

No single operation on a graph keeps these four: a page has at most one main subject, every subject
is on a page that is there, the edges of a subject have distinct identifiers, and no edge has a
property under the reserved key. Saves, deletions and reconciliations keep them together (`Tended`),
so that they hold of everything committed, and deleting the pages one after the other leaves nothing
(`Reachable.tended_and_cleared`).
-/
namespace WikiGraph

namespace Graph

variable {g h : Graph}

/-! ## Reserved properties -/

/-- No edge has a property under the key that holds its identifier. -/
def Unreserved (g : Graph) : Prop := ∀ s, ∀ e ∈ g.relationsFrom s, relationIdKey ∉ e.properties

theorem Unreserved.congr (hu : g.Unreserved) (hr : h.relations = g.relations) : h.Unreserved := by
  intro s e he
  rw [relationsFrom_of_relations_eq hr] at he
  exact hu s e he

theorem Unreserved.restricts (hu : g.Unreserved) (hr : Restricts g h) : h.Unreserved := by
  intro s e he
  rw [hr.edges] at he
  split at he
  · exact hu s e (List.mem_filter.1 he).1
  · cases he

theorem Unreserved.reconcile (hu : g.Unreserved) (hg : g.Sound) (source : SubjectId)
    (target : RelationList) : (g.reconcile source target).2.Unreserved := by
  intro s e he
  by_cases hs : s = source
  · rw [hs] at he
    obtain ⟨r, hr, -, hsame⟩ := declared_of_mem_reconcile hg he
    have hfree := target.unreserved r hr
    rcases hsame with rfl | hsame
    · exact hfree
    · rwa [Properties.mem_iff_of_same (Relation.same_iff.1 hsame).2.2.2]
  · rw [(reconcile_spec hg source target).1.others s hs] at he
    exact hu s e he

/-! ## Main subjects -/

def OneMain (g : Graph) : Prop :=
  ∀ page s t, g.memberships[(⟨page, s⟩ : Membership)]? = some true →
    g.memberships[(⟨page, t⟩ : Membership)]? = some true → s = t

theorem OneMain.congr (ho : g.OneMain) (hm : h.memberships = g.memberships) : h.OneMain := by
  intro page s t hs ht
  rw [hm] at hs ht
  exact ho page s t hs ht

theorem OneMain.deletePage (ho : g.OneMain) (page : PageId) : (g.deletePage page).2.OneMain :=
  fun other s t hs ht =>
    ho other s t (memberships_of_deletePage hs) (memberships_of_deletePage ht)

/-- Pages, memberships and edges are as synchronisers keep them. -/
structure Tended (g : Graph) : Prop where
  sound : g.Sound
  populated : g.Populated
  oneMain : g.OneMain
  unreserved : g.Unreserved

theorem tended_empty : Graph.empty.Tended where
  sound := Memory.sound_empty
  populated := ⟨fun _ hm => by simp [Graph.empty] at hm, fun _ hs => by simp [Graph.empty] at hs⟩
  oneMain _ _ _ hs := by simp [Graph.empty] at hs
  unreserved _ _ he := by simp [Graph.relationsFrom, Graph.empty] at he

theorem Tended.deletePage (ht : g.Tended) (page : PageId) : (g.deletePage page).2.Tended where
  sound := (restricts_deletePage page ht.sound.joined).sound ht.sound
  populated := ht.populated.deletePage page
  oneMain := ht.oneMain.deletePage page
  unreserved := ht.unreserved.restricts (restricts_deletePage page ht.sound.joined)

theorem Tended.reconcile (ht : g.Tended) (source : SubjectId) (target : RelationList) :
    (g.reconcile source target).2.Tended := by
  have hsame := (reconcile_spec ht.sound source target).1.toSameNodes
  refine ⟨sound_reconcile ht.sound source target, ?_, ht.oneMain.congr hsame.memberships,
    ht.unreserved.reconcile ht.sound source target⟩
  exact ht.populated.mono (fun page hp => hsame.pages ▸ hp) hsame.subjects hsame.memberships

end Graph

/-! ## Writing a page -/

namespace Projector

open WikiGraph.Graph

variable {p : Projector} {page : Page} {g : Graph} {x : Subject × Bool}

theorem populated_place {page : PageId} (hp : page ∈ g.pages) (hg : g.Populated)
    (x : Subject × Bool) : (p.place page g x).Populated := by
  have hext := extends_place (p := p) hp x
  cases hs : p.schemas[x.1.schema]? with
  | none =>
    have hkeys : ∀ m, m ∈ (p.place page g x).memberships ↔ m ∈ g.memberships := by
      intro m
      rw [place_of_unresolved hs, Std.ExtTreeMap.mem_iff_isSome_getElem?, memberships_setMain,
        Std.ExtTreeMap.mem_iff_isSome_getElem?]
      split <;> simp
    have hsubjects : (p.place page g x).subjects = g.subjects := by
      rw [place_of_unresolved hs]
      exact (setMain_frame page x.1.id x.2 g).2
    refine ⟨fun m hm => ?_, fun s hmem => .inl (isOwned_iff.2 ?_)⟩
    · rw [hext.pages, hsubjects]
      exact hg.joins m ((hkeys m).1 hm)
    · rw [hsubjects] at hmem
      obtain ⟨other, hm⟩ := isOwned_iff.1 (hg.isOwned hmem)
      exact ⟨other, (hkeys _).2 hm⟩
  | some schema =>
    have hmemberships : (p.place page g x).memberships =
        g.memberships.insert ⟨page, x.1.id⟩ x.2 := by
      rw [place_of_resolved hs hp, memberships_markMembership, (upsertSubject_frame _ g).2.1]
    have hself : x.1.id ∈ (p.place page g x).subjects :=
      (placed_place hp x).mem_subjects (by rw [resolves, hs]; rfl)
    refine ⟨fun m hm => ?_, fun s hmem => .inl (isOwned_iff.2 ?_)⟩
    · rw [hmemberships, Std.ExtTreeMap.mem_insert, Std.LawfulEqCmp.compare_eq_iff_eq] at hm
      rw [hext.pages]
      rcases hm with rfl | hm
      · exact ⟨hp, hself⟩
      · exact ⟨(hg.joins m hm).1, hext.subjects _ (hg.joins m hm).2⟩
    · rw [hmemberships]
      by_cases e : s = x.1.id
      · exact ⟨page, e ▸ Std.ExtTreeMap.mem_insert_self⟩
      · have hold : s ∈ g.subjects := by
          have h := congrArg Prod.fst (entryOn_place_of_ne (p := p) (x := x) hp e)
          rw [Std.ExtTreeMap.mem_iff_isSome_getElem?] at hmem ⊢
          rwa [← show (p.place page g x).subjects[s]? = g.subjects[s]? from h]
        obtain ⟨other, hm⟩ := isOwned_iff.1 (hg.isOwned hold)
        exact ⟨other, Std.ExtTreeMap.mem_insert.2 (.inr hm)⟩

theorem populated_placedOn (hg : g.Populated) (p : Projector) (page : Page) :
    (p.placedOn page g).Populated := by
  have hstart : (g.upsertPage page.node).Populated := by
    obtain ⟨hs, hm, -⟩ := upsertPage_frame page.node g
    refine hg.mono (fun other ho => ?_) hs hm
    rw [pages_upsertPage]
    exact Std.ExtTreeMap.mem_insert.2 (.inr ho)
  have hfold : page.id ∈ (p.placedOn page g).pages ∧ (p.placedOn page g).Populated := by
    refine List.foldlRecOn (motive := fun h : Graph => page.id ∈ h.pages ∧ h.Populated) _ _
      ⟨mem_pages_upsertPage page g, hstart⟩ fun h ih x _ => ?_
    rw [(extends_place (p := p) ih.1 x).pages]
    exact ⟨ih.1, populated_place ih.1 ih.2 x⟩
  exact hfold.2

theorem populated_writeOn (hs : g.Sound) (hg : g.Populated) (p : Projector) (page : Page) :
    (p.writeOn page g).2.Populated := by
  have hsame := (spread_spec hs p page).1.1
  have hspread : (p.spread page g).2.Populated := (populated_placedOn hg p page).mono
    (fun _ hp => hsame.pages ▸ hp) hsame.subjects hsame.memberships
  exact hspread.detachExcept page.id page.subjects.ids

theorem unreserved_writeOn (hs : g.Sound) (hu : g.Unreserved) (p : Projector) (page : Page) :
    (p.writeOn page g).2.Unreserved := by
  have hplaced : (p.placedOn page g).Unreserved := by
    refine hu.congr ?_
    rw [(extends_placedOn p page g).relations, (upsertPage_frame page.node g).2.2]
  have hspread : (p.spread page g).2.Sound ∧ (p.spread page g).2.Unreserved := by
    refine List.foldlRecOn (motive := fun s : RelationChanges × Graph =>
      s.2.Sound ∧ s.2.Unreserved) _ _ ⟨sound_placedOn hs p page, hplaced⟩ fun s ih x _ => ?_
    exact ⟨sound_reconcile ih.1 x.id x.relations, ih.2.reconcile ih.1 x.id x.relations⟩
  exact hspread.2.restricts (detachExcept_spec page.id page.subjects.ids hspread.1.joined).1

/-- Placing subjects on a page leaves the memberships of other pages alone. -/
theorem memberships_place_of_ne {page : PageId} (hp : page ∈ g.pages) (x : Subject × Bool)
    {m : Membership} (hm : m.page ≠ page) :
    (p.place page g x).memberships[m]? = g.memberships[m]? := by
  have hne : m ≠ ⟨page, x.1.id⟩ := fun e => hm (congrArg Membership.page e)
  cases hs : p.schemas[x.1.schema]? with
  | none => rw [place_of_unresolved hs, memberships_setMain, if_neg hne]
  | some schema =>
    rw [place_of_resolved hs hp, memberships_markMembership, getElem?_insert_eq, if_neg hne,
      (upsertSubject_frame _ g).2.1]

theorem memberships_placedOn_of_ne (p : Projector) {page : Page} {m : Membership}
    (hm : m.page ≠ page.id) : (p.placedOn page g).memberships[m]? = g.memberships[m]? := by
  have hplaced : page.id ∈ (p.placedOn page g).pages ∧
      (p.placedOn page g).memberships[m]? = g.memberships[m]? := by
    refine List.foldlRecOn (motive := fun h : Graph =>
      page.id ∈ h.pages ∧ h.memberships[m]? = g.memberships[m]?) _ _
      ⟨mem_pages_upsertPage page g, ?_⟩ fun h ih x _ => ?_
    · rw [(upsertPage_frame page.node g).2.1]
    · rw [(extends_place (p := p) ih.1 x).pages, memberships_place_of_ne ih.1 x hm]
      exact ih
  exact hplaced.2

theorem memberships_writeOn_of_ne (hs : g.Sound) (p : Projector) {page : Page} {m : Membership}
    (hm : m.page ≠ page.id) : (p.writeOn page g).2.memberships[m]? = g.memberships[m]? := by
  obtain ⟨hsame, hsound⟩ := (spread_spec hs p page).1
  have hd := (detachExcept_spec page.id page.subjects.ids hsound.joined).2
  rw [← memberships_placedOn_of_ne (g := g) p hm, ← hsame.memberships]
  exact hd.held m fun e => absurd e hm

/-- After a save the main subject of the page is the one that the page declares as such. -/
theorem main_of_writeOn (hs : g.Sound) {t : SubjectId}
    (ht : (p.writeOn page g).2.memberships[(⟨page.id, t⟩ : Membership)]? = some true) :
    page.subjects.main.map Subject.id = some t := by
  have hw := writeOn_spec hs p page
  have hm : (⟨page.id, t⟩ : Membership) ∈ (p.writeOn page g).2.memberships := by
    rw [Std.ExtTreeMap.mem_iff_isSome_getElem?, ht]
    rfl
  obtain ⟨x, hx, rfl⟩ := List.mem_map.1 (hw.only t hm)
  have hmark : true = x.2 := ((hw.placed x hx).member_iff.1 ht).1
  rw [PageSubjects.mark_of_mem_all hx] at hmark
  exact of_decide_eq_true hmark.symm

theorem tended_writeOn (hg : g.Tended) (p : Projector) (page : Page) :
    (p.writeOn page g).2.Tended where
  sound := (writeOn_spec hg.sound p page).sound
  populated := populated_writeOn hg.sound hg.populated p page
  oneMain other s t hs ht := by
    by_cases e : other = page.id
    · rw [e] at hs ht
      exact Option.some.inj ((main_of_writeOn hg.sound hs).symm.trans (main_of_writeOn hg.sound ht))
    · rw [memberships_writeOn_of_ne hg.sound p e] at hs ht
      exact hg.oneMain other s t hs ht
  unreserved := unreserved_writeOn hg.sound hg.unreserved p page

end Projector

/-! ## Reachable stores -/

namespace Memory

theorem Reachable.tended {m : Memory} (h : m.Reachable) : m.committed.Tended :=
  h.invariant Graph.tended_empty (fun p page _ hg => Projector.tended_writeOn hg p page)
    (fun page _ hg => hg.deletePage page) (fun source target _ hg => hg.reconcile source target)

/-- Deleting pages one after the other succeeds and leaves only the pages that were not among
them. -/
theorem deletePages_spec (order : List PageId) {m : Memory} (h : m.committed.Tended) :
    ∃ removed m', order.mapM (deletePage store) m = (.ok removed, m') ∧ m'.committed.Tended ∧
      ∀ page, page ∈ m'.committed.pages ↔ page ∉ order ∧ page ∈ m.committed.pages := by
  induction order generalizing m with
  | nil => exact ⟨[], m, rfl, h, fun page => by simp⟩
  | cons first rest ih =>
    obtain ⟨removed, m', hrest, htended, hpages⟩ :=
      ih (m := m.finished (m.committed.deletePage first).2) (h.deletePage first)
    refine ⟨(m.committed.deletePage first).1 :: removed, m', ?_, htended, fun page => ?_⟩
    · rw [List.mapM_cons, StoreM.bind_of_ok _ (deletePage_eq first m), StoreM.bind_of_ok _ hrest]
      rfl
    · rw [hpages, finished, Graph.mem_pages_deletePage, List.mem_cons, not_or, and_assoc,
        and_left_comm]

/-- **What synchronisers keep up, and that they leave no trace.** In every store that they reach, each
page has at most one main subject, each subject is on a page that is there, the edges of a subject
have distinct identifiers and none has a property under the reserved key. Deleting every page, in
whatever order, succeeds and leaves no page, subject, membership or edge. -/
theorem Reachable.tended_and_cleared {m : Memory} (h : m.Reachable) :
    (∀ page s t, m.committed.memberships[(⟨page, s⟩ : Membership)]? = some true →
      m.committed.memberships[(⟨page, t⟩ : Membership)]? = some true → s = t) ∧
    (∀ s ∈ m.committed.subjects,
      ∃ page ∈ m.committed.pages, (⟨page, s⟩ : Membership) ∈ m.committed.memberships) ∧
    (∀ s, ((m.committed.relationsFrom s).map Relation.id).Nodup) ∧
    (∀ s, ∀ e ∈ m.committed.relationsFrom s, relationIdKey ∉ e.properties) ∧
    ∀ order : List PageId, (∀ page ∈ m.committed.pages, page ∈ order) →
      ∃ removed m', order.mapM (deletePage store) m = (.ok removed, m') ∧
        m'.committed.isEmpty := by
  have ht := h.tended
  refine ⟨ht.oneMain, fun s hs => ?_, ht.sound.distinct, ht.unreserved, fun order horder => ?_⟩
  · obtain ⟨page, hm⟩ := Graph.isOwned_iff.1 (ht.populated.isOwned hs)
    exact ⟨page, (ht.populated.joins _ hm).1, hm⟩
  · obtain ⟨removed, m', hrun, ht', hpages⟩ := deletePages_spec order ht
    refine ⟨removed, m', hrun, ht'.populated.isEmpty ht'.sound fun page hp => ?_⟩
    obtain ⟨hout, hin⟩ := (hpages page).1 hp
    exact hout (horder page hin)

def sharing : Memory :=
  (textProjector.savePage store { annPage with id := ⟨"Copy"⟩ }
    (textProjector.savePage store annPage {}).2).2

theorem sharing_cleared :
    ∃ m', [⟨"Copy"⟩, ⟨"Ann"⟩].mapM (deletePage store) sharing = (.ok [0, 2], m') ∧
      m'.committed.isEmpty := by
  have hr : sharing.Reachable := .save (.save .empty textProjector annPage) textProjector _
  have horder : ∀ page ∈ sharing.committed.pages, page ∈ [⟨"Copy"⟩, ⟨"Ann"⟩] := by
    have hkeys : sharing.committed.pages.keys = [⟨"Ann"⟩, ⟨"Copy"⟩] := by decide +kernel
    intro page hp
    rw [← Std.ExtTreeMap.mem_keys, hkeys] at hp
    simpa [or_comm] using hp
  obtain ⟨removed, m', hrun, hempty⟩ := hr.tended_and_cleared.2.2.2.2 _ horder
  have hremoved : ([⟨"Copy"⟩, ⟨"Ann"⟩].mapM (deletePage store) sharing).1.toOption =
      some [0, 2] := by
    decide +kernel
  rw [hrun] at hremoved
  obtain rfl := Option.some.inj hremoved
  exact ⟨m', hrun, hempty⟩

end Memory
end WikiGraph
