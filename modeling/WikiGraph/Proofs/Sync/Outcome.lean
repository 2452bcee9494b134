import WikiGraph.Proofs.Graph.Departure
import WikiGraph.Proofs.Sync.Alignment
import WikiGraph.Proofs.Sync.Upkeep
/-!
# A save entry by entry

What a graph holds after a save, as a function of what it held before: the page node, the node and the
role of each subject of the page, the subjects that go, and the edges of every subject in their order
(`Outcome`, `outcome_writeOn`). Unlike the description of what a save leaves behind, it says of each
entry what it is, not only what it compares equal to, and covers the subjects of other pages.

A deletion is described in the same way (`givenUp_deletePage`). From the two follows the frame of both:
one page is saved or deleted, and the others are left alone (`others_left_alone`).
-/
namespace WikiGraph

/-- The node that is there after writing `node` where `held` was: one that holds the same stays. -/
def SubjectNode.over (node : SubjectNode) (held : Option SubjectNode) : SubjectNode :=
  match held with
  | some old => if old.same node then old else node
  | none => node

theorem Graph.subjects_upsertSubject (node : SubjectNode) (g : Graph) :
    (g.upsertSubject node).subjects[node.id]? = some (node.over g.subjects[node.id]?) := by
  unfold Graph.upsertSubject SubjectNode.over
  cases hh : g.subjects[node.id]? with
  | none => exact (getElem?_insert_eq _ _ _ _).trans (if_pos rfl)
  | some held =>
    rw [Option.any_some]
    by_cases hs : held.same node
    · simp only [if_pos hs, hh]
    · simp only [if_neg hs]
      exact (getElem?_insert_eq _ _ _ _).trans (if_pos rfl)

namespace Projector

open WikiGraph.Graph

variable {p : Projector} {page : Page} {g h : Graph} {x : Subject × Bool}

/-- What a subject has after it is placed, given what it had. -/
def entryAfter (p : Projector) (x : Subject × Bool) (before : Option SubjectNode × Option Bool) :
    Option SubjectNode × Option Bool :=
  match p.schemas[x.1.schema]? with
  | some schema => (some ((p.nodeOf schema x.1).over before.1), some x.2)
  | none => (before.1, before.2.map fun _ => x.2)

theorem placed_entryAfter (x : Subject × Bool) (before : Option SubjectNode × Option Bool) :
    p.Placed x before (p.entryAfter x before) := by
  unfold Placed entryAfter
  cases p.schemas[x.1.schema]? with
  | none => rfl
  | some schema =>
    refine ⟨⟨_, rfl, ?_⟩, rfl⟩
    unfold SubjectNode.over
    split
    · rename_i old _
      by_cases hs : old.same (p.nodeOf schema x.1)
      · exact .inr (by rwa [if_pos hs])
      · exact .inl (if_neg hs)
    · exact .inl rfl

theorem entryOn_place {page : PageId} (hp : page ∈ g.pages) (x : Subject × Bool) :
    entryOn page (p.place page g x) x.1.id = p.entryAfter x (entryOn page g x.1.id) := by
  unfold entryAfter
  cases hs : p.schemas[x.1.schema]? with
  | none =>
    rw [place_of_unresolved hs]
    simp only [entryOn]
    rw [(setMain_frame page x.1.id x.2 g).2, memberships_setMain, if_pos rfl]
  | some schema =>
    rw [place_of_resolved hs hp]
    simp only [entryOn]
    rw [(markMembership_frame _ x.2 _).2.1, memberships_markMembership, getElem?_insert_eq,
      if_pos rfl]
    exact congrArg (·, some x.2) (subjects_upsertSubject (p.nodeOf schema x.1) g)

/-- Each subject of the page has what its own placing makes of what it had, and every other one what
it had. -/
theorem entryOn_placedOn (p : Projector) (page : Page) (g : Graph) :
    (∀ x ∈ page.subjects.all, entryOn page.id (p.placedOn page g) x.1.id =
      p.entryAfter x (entryOn page.id g x.1.id)) ∧
    ∀ t ∉ page.subjects.ids, entryOn page.id (p.placedOn page g) t = entryOn page.id g t := by
  have hstart : ∀ t, entryOn page.id (g.upsertPage page.node) t = entryOn page.id g t := by
    intro t
    simp only [entryOn, (upsertPage_frame page.node g).1, (upsertPage_frame page.node g).2.1]
  have hpages : ∀ {h : Graph}, Extends (g.upsertPage page.node) h → page.id ∈ h.pages :=
    fun he => he.pages ▸ mem_pages_upsertPage page g
  have hstep : KeyedStep (p.place page.id) (·.1.id) (entryOn page.id)
      (fun x before after => after = p.entryAfter x before) (Extends (g.upsertPage page.node))
      page.subjects.all := by
    constructor
    · intro h x _ he
      exact he.trans (extends_place (hpages he) x)
    · intro h x _ he
      exact entryOn_place (hpages he) x
    · intro h x _ he id hid
      exact entryOn_place_of_ne (hpages he) hid
  obtain ⟨-, hown, hother⟩ := hstep.foldl page.subjects.nodup_all (.refl _)
  refine ⟨fun x hx => ?_, fun t ht => ?_⟩
  · rw [← hstart]
    exact hown x hx
  · rw [← hstart]
    exact hother t ht

/-- What a page written over the graph `g` leaves, entry by entry. -/
structure Outcome (p : Projector) (page : Page) (g h : Graph) : Prop where
  pages : h.pages = g.pages.insert page.id page.node
  own : ∀ x ∈ page.subjects.all,
    entryOn page.id h x.1.id = p.entryAfter x (entryOn page.id g x.1.id)
  /-- Only the page's own subjects stay on it. -/
  ended : ∀ t, t ∉ page.subjects.ids → (⟨page.id, t⟩ : Membership) ∉ h.memberships
  held : ∀ m : Membership, m.page ≠ page.id → h.memberships[m]? = g.memberships[m]?
  departed : ∀ t, g.Departs page.id page.subjects.ids t → t ∉ h.subjects
  stayed : ∀ t, t ∉ page.subjects.ids → ¬g.Departs page.id page.subjects.ids t →
    h.subjects[t]? = g.subjects[t]?
  /-- The edges of the page's subjects of known schemas are those in line with their declarations. -/
  aligned : ∀ s ∈ p.resolved page.subjects.all, h.relationsFrom s.id =
    (inLine s.relations.toList (g.relationsFrom s.id)).filter (·.target ∈ h.subjects)
  edges : ∀ t, t ∉ (p.resolved page.subjects.all).map Subject.id → h.relationsFrom t =
    if t ∈ h.subjects then (g.relationsFrom t).filter (·.target ∈ h.subjects) else []

/-! ### Before subjects are given up -/

/-- Memberships that the page does not declare are untouched. -/
theorem memberships_spread (hg : g.Sound) (p : Projector) (page : Page) {m : Membership}
    (hm : m.page = page.id → m.subject ∉ page.subjects.ids) :
    (p.spread page g).2.memberships[m]? = g.memberships[m]? := by
  rw [(spread_spec hg p page).1.1.memberships]
  by_cases e : m.page = page.id
  · have h := congrArg Prod.snd ((entryOn_placedOn p page g).2 m.subject (hm e))
    rwa [show m = ⟨page.id, m.subject⟩ from e ▸ rfl]
  · exact memberships_placedOn_of_ne p e

/-- The subjects that the page is about to give up are those that it gives up by its declarations. -/
theorem departs_spread (hg : g.Sound) (p : Projector) (page : Page) {t : SubjectId} :
    (p.spread page g).2.Departs page.id page.subjects.ids t ↔
      g.Departs page.id page.subjects.ids t := by
  have hm : t ∉ page.subjects.ids → ∀ other,
      ((⟨other, t⟩ : Membership) ∈ (p.spread page g).2.memberships ↔
        (⟨other, t⟩ : Membership) ∈ g.memberships) := fun hk _ =>
    mem_memberships_congr (memberships_spread hg p page fun _ => hk)
  constructor
  · rintro ⟨hmem, hk, ho⟩
    exact ⟨(hm hk _).1 hmem, hk, (onlyOn_congr fun other _ => hm hk other).1 ho⟩
  · rintro ⟨hmem, hk, ho⟩
    exact ⟨(hm hk _).2 hmem, hk, (onlyOn_congr fun other _ => hm hk other).2 ho⟩

/-- The page's subjects of known schemas have their edges in line, and all others their old ones. -/
theorem relationsFrom_spread (hg : g.Sound) (p : Projector) (page : Page) :
    (∀ s ∈ p.resolved page.subjects.all, (p.spread page g).2.relationsFrom s.id =
      (inLine s.relations.toList (g.relationsFrom s.id)).filter
        (·.target ∈ (p.placedOn page g).subjects)) ∧
    ∀ t ∉ (p.resolved page.subjects.all).map Subject.id,
      (p.spread page g).2.relationsFrom t = g.relationsFrom t := by
  have hplaced : ∀ s ∈ p.resolved page.subjects.all, s.id ∈ (p.placedOn page g).subjects := by
    intro s hs
    obtain ⟨hm, hr⟩ := mem_resolved.1 hs
    obtain ⟨x, hx, rfl⟩ := List.mem_map.1 hm
    exact (placed_placedOn p g hx).mem_subjects hr
  have hrelations : (p.placedOn page g).relationsFrom = g.relationsFrom :=
    relationsFrom_of_relations_eq ((extends_placedOn p page g).relations.trans
      (upsertPage_frame page.node g).2.2)
  rw [← hrelations]
  exact relationsFrom_reconcileAfter_foldl (sound_placedOn hg p page) (nodup_resolved page)
    hplaced {}

/-! ### The whole save -/

/-- **A save entry by entry.** The four passes, put together: nodes and roles are placed, edges are
brought in line, and the subjects that have left the page are given up. -/
theorem outcome_writeOn (hg : g.Sound) (p : Projector) (page : Page) :
    Outcome p page g (p.writeOn page g).2 := by
  obtain ⟨⟨hsame, hsound⟩, -⟩ := spread_spec hg p page
  obtain ⟨hown, hother⟩ := entryOn_placedOn p page g
  obtain ⟨haligned, hothers⟩ := relationsFrom_spread hg p page
  have hw : (p.writeOn page g).2 =
      ((p.spread page g).2.detachExcept page.id page.subjects.ids).2 := rfl
  obtain ⟨hr, hd⟩ := detachExcept_spec page.id page.subjects.ids hsound.joined
  have hgiven := givenUp_detachExcept hsound.joined page.id page.subjects.ids
  rw [← hw] at hr hd hgiven
  refine ⟨?_, fun x hx => ?_, hgiven.ended, fun m hm => memberships_writeOn_of_ne hg p hm,
    fun t ht => hgiven.departed t ((departs_spread hg p page).2 ht), fun t ht hd => ?_,
    fun s hs => ?_, fun t ht => ?_⟩
  · rw [hd.pages, hsame.pages, (extends_placedOn p page g).pages, pages_upsertPage]
    rfl
  · rw [entryOn_writeOn hg hx, hown x hx]
  · rw [hgiven.stayed t fun h => hd ((departs_spread hg p page).1 h), hsame.subjects]
    exact congrArg Prod.fst (hother t ht)
  · have hmem : s.id ∈ (p.writeOn page g).2.subjects := by
      obtain ⟨hm, hr⟩ := mem_resolved.1 hs
      obtain ⟨x, hx, rfl⟩ := List.mem_map.1 hm
      exact ((writeOn_spec hg p page).placed x hx).mem_subjects hr
    rw [hgiven.edges, if_pos hmem, haligned s hs, List.filter_filter]
    -- What is left after subjects are given up was there before.
    refine List.filter_congr fun e _ => ?_
    by_cases ht : e.target ∈ (p.writeOn page g).2.subjects
    · simp [ht, hsame.subjects ▸ hr.mem ht]
    · simp [ht]
  · rw [hgiven.edges, hothers t ht]

theorem resolved_of_resolves (hx : x ∈ page.subjects.all) (hr : p.resolves x.1) :
    x.1 ∈ p.resolved page.subjects.all := mem_resolved.2 ⟨List.mem_map_of_mem hx, hr⟩

/-- A subject of the page is in the graph after the save if its schema is known. -/
theorem Outcome.resolved_mem (ho : Outcome p page g h) {s : Subject}
    (hs : s ∈ p.resolved page.subjects.all) : s.id ∈ h.subjects := by
  obtain ⟨hm, hr⟩ := mem_resolved.1 hs
  obtain ⟨x, hx, rfl⟩ := List.mem_map.1 hm
  obtain ⟨schema, hschema⟩ := Option.isSome_iff_exists.1 hr
  have hown := congrArg Prod.fst (ho.own x hx)
  simp only [entryAfter, hschema] at hown
  rw [Std.ExtTreeMap.mem_iff_isSome_getElem?]
  exact Option.isSome_of_eq_some hown

/-- A subject of a known schema has its role on the page after a save. -/
theorem Outcome.role (ho : Outcome p page g h) {x : Subject × Bool} (hx : x ∈ page.subjects.all)
    (hr : p.resolves x.1) : h.memberships[(⟨page.id, x.1.id⟩ : Membership)]? = some x.2 := by
  obtain ⟨schema, hs⟩ := Option.isSome_iff_exists.1 hr
  have hown := congrArg Prod.snd (ho.own x hx)
  simp only [entryAfter, hs] at hown
  exact hown

/-- A subject of the page that was in the graph stays there, and keeps its node if its schema is
unknown. -/
theorem Outcome.of_mem_ids (ho : Outcome p page g h) {t : SubjectId} (ht : t ∈ page.subjects.ids) :
    (t ∈ (p.resolved page.subjects.all).map Subject.id ∧ t ∈ h.subjects) ∨
      h.subjects[t]? = g.subjects[t]? := by
  obtain ⟨x, hx, rfl⟩ := List.mem_map.1 ht
  cases hs : p.schemas[x.1.schema]? with
  | none =>
    have hown := congrArg Prod.fst (ho.own x hx)
    simp only [entryAfter, hs] at hown
    exact .inr hown
  | some schema =>
    have hr : x.1 ∈ p.resolved page.subjects.all := resolved_of_resolves hx (by simp [resolves, hs])
    exact .inl ⟨List.mem_map_of_mem hr, ho.resolved_mem hr⟩

end Projector

/-! ## The frame of a save and of a deletion -/

namespace Graph

variable {g h : Graph} {s t : SubjectId}

/-- One page of a graph was changed, and keeps some subjects, of which some were written. Every other
page has its node and its memberships; the subjects lost are those that the page gave up and no other
page has; every other subject that was not written has its node and, in the order they had, its
edges, but for those at lost subjects. -/
structure ChangedOn (page : PageId) (keep written : List SubjectId) (g h : Graph) : Prop where
  pages : ∀ other, other ≠ page → h.pages[other]? = g.pages[other]?
  memberships : ∀ m : Membership, m.page ≠ page → h.memberships[m]? = g.memberships[m]?
  lost_iff : ∀ t, Lost g h t ↔ (⟨page, t⟩ : Membership) ∈ g.memberships ∧ t ∉ keep ∧
    ∀ other, other ≠ page → (⟨other, t⟩ : Membership) ∉ g.memberships
  kept : ∀ t, t ∉ written → ¬Lost g h t → h.subjects[t]? = g.subjects[t]?
  edges : ∀ s, s ∉ written → h.relationsFrom s =
    (g.relationsFrom s).filter fun e => ¬Lost g h s ∧ ¬Lost g h e.target

theorem changedOn_deletePage (hg : g.Sound) (hp : g.Populated) (page : PageId) :
    ChangedOn page [] [] g (g.deletePage page).2 := by
  have hgiven := givenUp_deletePage hg.joined (fun m hm => (hp.joins m hm).1) page
  have hlost := hgiven.lost_iff fun m hm => (hp.joins m hm).2
  refine ⟨fun other ho => getElem?_pages_deletePage ho,
    fun m hm => hgiven.held m fun e => absurd e hm, fun t => (hlost t).trans departs_iff,
    fun t _ hl => hgiven.stayed t fun hd => hl ((hlost t).2 hd),
    fun s _ => relationsFrom_eq_filter_lost hg.joined (hgiven.edges s)⟩

end Graph

namespace Projector

open WikiGraph.Graph

variable {p : Projector} {page : Page} {g : Graph}

theorem changedOn_writeOn (hg : g.Sound) (hp : g.Populated) (p : Projector) (page : Page) :
    ChangedOn page.id page.subjects.ids ((p.resolved page.subjects.all).map Subject.id) g
      (p.writeOn page g).2 := by
  have ho := outcome_writeOn hg p page
  have hlost : ∀ t, Lost g (p.writeOn page g).2 t ↔
      g.Departs page.id page.subjects.ids t := by
    intro t
    constructor
    · intro hl
      by_cases ht : t ∈ page.subjects.ids
      · rcases ho.of_mem_ids ht with ⟨-, hm⟩ | he
        · exact absurd hm hl.2
        · exact absurd hl (not_lost_of_eq he)
      · exact Classical.byContradiction fun hd => not_lost_of_eq (ho.stayed t ht hd) hl
    · intro hd
      exact ⟨(hp.joins _ hd.member).2, ho.departed t hd⟩
  refine ⟨fun other hne => ?_, ho.held, fun t => (hlost t).trans departs_iff,
    fun t hw hl => ?_, fun s hw => relationsFrom_eq_filter_lost hg.joined (ho.edges s hw)⟩
  · rw [ho.pages]
    exact (getElem?_insert_eq _ _ _ _).trans (if_neg hne)
  · by_cases ht : t ∈ page.subjects.ids
    · rcases ho.of_mem_ids ht with ⟨hr, -⟩ | he
      · exact absurd hr hw
      · exact he
    · exact ho.stayed t ht fun hd => hl ((hlost t).2 hd)

end Projector

namespace Memory

open WikiGraph.Graph

/-- **Saving or deleting one page leaves the others alone**, in whatever reachable store it is done:
their nodes, their memberships with the marks, the subjects that they have, and the edges of every
subject that the save did not write, but for those at subjects that go with the page. -/
theorem Reachable.others_left_alone {m : Memory} (h : m.Reachable) (p : Projector) (page : Page) :
    (∀ report m', p.savePage store page m = (.ok report, m') →
      ChangedOn page.id page.subjects.ids ((p.resolved page.subjects.all).map Subject.id)
        m.committed m'.committed) ∧
    ∀ removed m', deletePage store page.id m = (.ok removed, m') →
      ChangedOn page.id [] [] m.committed m'.committed := by
  constructor
  · intro report m' hs
    obtain rfl := p.committed_of_savePage hs
    exact Projector.changedOn_writeOn h.sound h.tended.populated p page
  · intro removed m' hd
    rw [deletePage_eq] at hd
    obtain ⟨-, rfl⟩ := Prod.mk.inj hd
    exact changedOn_deletePage h.sound h.tended.populated page.id

def annAlone : Page := { annPage with subjects := { main := annPage.subjects.main } }

/-- Bob leaves Ann's page and stays on the copy. When the copy is deleted he goes, and no edge of
another subject leads to him. -/
theorem bob_left_alone_until_deleted :
    ∃ report m₁ removed m₂, textProjector.savePage store annAlone sharing = (.ok report, m₁) ∧
      deletePage store ⟨"Copy"⟩ m₁ = (.ok removed, m₂) ∧
      ¬Lost sharing.committed m₁.committed ⟨"bob"⟩ ∧ Lost m₁.committed m₂.committed ⟨"bob"⟩ ∧
      ∀ s, m₂.committed.relationsFrom s = (m₁.committed.relationsFrom s).filter fun e =>
        ¬Lost m₁.committed m₂.committed s ∧ ¬Lost m₁.committed m₂.committed e.target := by
  have hr : sharing.Reachable := .save (.save .empty textProjector annPage) textProjector _
  have hs := textProjector.savePage_of_not_failing (m := sharing) (by decide +kernel) annAlone
  have hsaved := (hr.others_left_alone textProjector annAlone).1 _ _ hs
  have hr' := Reachable.save hr textProjector annAlone
  rw [hs] at hr'
  have hdeleted := (hr'.others_left_alone textProjector { annPage with id := ⟨"Copy"⟩ }).2 _ _
    (deletePage_eq _ _)
  refine ⟨_, _, _, _, hs, deletePage_eq _ _, fun hl => ?_, ?_, fun s => hdeleted.edges s (by simp)⟩
  · exact ((hsaved.lost_iff _).1 hl).2.2 ⟨"Copy"⟩ (by decide) (by decide +kernel)
  · refine (hdeleted.lost_iff _).2 ⟨by decide +kernel, by simp, fun other ho hm => ?_⟩
    have hkeys : ∀ m ∈ (textProjector.writeOn annAlone sharing.committed).2.memberships.keys,
        m.subject = ⟨"bob"⟩ → m.page = ⟨"Copy"⟩ := by
      decide +kernel
    exact ho (hkeys _ (Std.ExtTreeMap.mem_keys.2 hm) rfl)

end Memory
end WikiGraph
