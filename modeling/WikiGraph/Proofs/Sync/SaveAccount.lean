import WikiGraph.Proofs.Graph.Counter
import WikiGraph.Proofs.Sync.EdgeAccount
import WikiGraph.Proofs.Sync.Outcome
import WikiGraph.Proofs.Sync.Report
/-!
# What a save does and what it reports

A save counts one change for the page node, for each subject node and for each membership whose entry
becomes another one (`renewed`), since no entry is written twice; then what the plans for edges report,
and one for each membership that ends. Edges are created and deleted as reported, and those at subjects
that leave with the page go besides (`Projector.accounts_writeOn`).

Together with what holds whatever a store answers, that is what a report adds up to
(`Projector.report_adds_up`).
-/
namespace WikiGraph

/-! ## Entries that become others -/

/-- One change, if an entry became another one. -/
def changes {β : Type} [DecidableEq β] (before after : Option β) : Nat :=
  if before = after then 0 else 1

theorem changes_self {β : Type} [DecidableEq β] (entry : Option β) : changes entry entry = 0 :=
  if_pos rfl

theorem changes_of_ne {β : Type} [DecidableEq β] {before after : Option β} (h : before ≠ after) :
    changes before after = 1 := if_neg h

theorem sum_changes {α β : Type} [DecidableEq β] (before after : α → Option β) (items : List α) :
    (items.map fun a => changes (before a) (after a)).sum =
      (items.filter fun a => before a ≠ after a).length := by
  induction items with
  | nil => rfl
  | cons a rest ih =>
    rw [List.map_cons, List.sum_cons, ih]
    by_cases h : before a = after a
    · simp [h, changes_self]
    · simp [h, changes_of_ne, Nat.add_comm]

section Map

variable {κ β : Type} [Ord κ] [Std.TransOrd κ] [Std.LawfulEqOrd κ] [DecidableEq β]

/-- The keys under which there is an entry that was not there. -/
def renewed (before after : Std.ExtTreeMap κ β) : List κ :=
  after.keys.filter fun k => before[k]? ≠ after[k]?

/-- When only certain keys have a new entry, and none of them loses its entry, each change of these is
one renewed key. -/
theorem length_renewed {before after : Std.ExtTreeMap κ β} {keys : List κ} (hn : keys.Nodup)
    (hold : ∀ k ∈ after, k ∉ keys → after[k]? = before[k]?)
    (hkept : ∀ k ∈ keys, k ∉ after → after[k]? = before[k]?) :
    (renewed before after).length = (keys.map fun k => changes before[k]? after[k]?).sum := by
  rw [sum_changes]
  apply List.Perm.length_eq
  refine (List.perm_ext_iff_of_nodup (Std.ExtTreeMap.nodup_keys.filter _) (hn.filter _)).2 fun k => ?_
  simp only [List.mem_filter, Std.ExtTreeMap.mem_keys, decide_eq_true_eq]
  constructor
  · rintro ⟨hk, hne⟩
    exact ⟨Classical.byContradiction fun hout => hne (hold k hk hout).symm, hne⟩
  · rintro ⟨hk, hne⟩
    exact ⟨Classical.byContradiction fun hout => hne (hkept k hk hout).symm, hne⟩

end Map

namespace Graph

variable {g : Graph}

theorem mutations_upsertPage (page : PageNode) (g : Graph) : (g.upsertPage page).mutations =
    g.mutations + changes g.pages[page.id]? (g.upsertPage page).pages[page.id]? := by
  unfold upsertPage
  by_cases hp : g.pages[page.id]? = some page
  · simp [hp, changes_self]
  · simp [hp, counted, changes_of_ne]

/-- A node that compares equal to itself is counted when it is not there already. -/
theorem mutations_upsertSubject {node : SubjectNode} (hn : node.same node) (g : Graph) :
    (g.upsertSubject node).mutations =
      g.mutations + changes g.subjects[node.id]? (g.upsertSubject node).subjects[node.id]? := by
  unfold upsertSubject
  by_cases hs : g.subjects[node.id]?.any (·.same node)
  · simp [hs, changes_self]
  · have hne : g.subjects[node.id]? ≠ some node := by
      intro e
      simp [e, hn] at hs
    simp [hs, counted, changes_of_ne hne]

theorem mutations_markMembership (m : Membership) (main : Bool) (g : Graph) :
    (g.markMembership m main).mutations =
      g.mutations + changes g.memberships[m]? (g.markMembership m main).memberships[m]? := by
  unfold markMembership
  by_cases hm : g.memberships[m]? = some main
  · simp [hm, changes_self]
  · simp [hm, counted, changes_of_ne]

theorem mutations_setMain (page : PageId) (s : SubjectId) (main : Bool) (g : Graph) :
    (g.setMain page s main).mutations = g.mutations +
      changes g.memberships[(⟨page, s⟩ : Membership)]?
        (g.setMain page s main).memberships[(⟨page, s⟩ : Membership)]? := by
  unfold setMain
  split
  · exact mutations_markMembership _ main g
  · simp [changes_self]

end Graph

/-- What a save changed, when the graph `g` became `h` and `k` is what it was before subjects left the
page: one change for each entry that became another one and for each step, and the edges that were
created and deleted, besides those at subjects that were lost at the end. -/
structure SyncReport.Accounts (report : SyncReport) (g k h : Graph) : Prop where
  counter : h.mutations = g.mutations + (renewed g.pages h.pages).length +
    (renewed g.subjects h.subjects).length + (renewed g.memberships h.memberships).length +
    report.relations.created + report.relations.updated + 2 * report.relations.replaced +
    report.relations.deleted + report.subjectsDetached
  edges : h.relationCount + report.relations.deleted +
      (k.edges.countP fun e => Graph.Lost k h e.1 ∨ Graph.Lost k h e.2.target) =
    g.relationCount + report.relations.created

namespace Projector

open WikiGraph.Graph

variable {p : Projector} {page : Page} {g h : Graph}

/-- The changes to what a subject has: to its node, and to its role on a page. -/
def entryChanges (before after : Option SubjectNode × Option Bool) : Nat :=
  changes before.1 after.1 + changes before.2 after.2

/-- **Placing a subject** counts one change for its node and one for its role, if they become others. -/
theorem mutations_place {pid : PageId} (hp : pid ∈ g.pages) {x : Subject × Bool}
    (hc : ∀ schema, p.schemas[x.1.schema]? = some schema →
      (p.nodeOf schema x.1).same (p.nodeOf schema x.1)) :
    (p.place pid g x).mutations =
      g.mutations + entryChanges (entryOn pid g x.1.id) (entryOn pid (p.place pid g x) x.1.id) := by
  cases hs : p.schemas[x.1.schema]? with
  | none =>
    rw [place_of_unresolved hs, mutations_setMain]
    simp only [entryChanges, entryOn]
    rw [(setMain_frame pid x.1.id x.2 g).2, changes_self, Nat.zero_add]
  | some schema =>
    rw [place_of_resolved hs hp, mutations_markMembership, mutations_upsertSubject (hc schema hs)]
    simp only [entryChanges, entryOn]
    rw [(markMembership_frame _ x.2 _).2.1, (upsertSubject_frame _ g).2.1, ← Nat.add_assoc]
    rfl

/-- **Placing subjects one after the other** counts the changes to what each of them has: no placing
undoes or repeats what an earlier one did. -/
theorem mutations_place_foldl {pid : PageId} {subjects : List (Subject × Bool)}
    (hp : pid ∈ g.pages) (hn : (subjects.map (·.1.id)).Nodup)
    (hc : ∀ x ∈ subjects, ∀ schema, p.schemas[x.1.schema]? = some schema →
      (p.nodeOf schema x.1).same (p.nodeOf schema x.1)) :
    (subjects.foldl (p.place pid) g).mutations = g.mutations +
      ((subjects.map (·.1.id)).map fun id => entryChanges (entryOn pid g id)
        (entryOn pid (subjects.foldl (p.place pid) g) id)).sum := by
  induction subjects generalizing g with
  | nil => rfl
  | cons x rest ih =>
    obtain ⟨hid, hrest⟩ := List.nodup_cons.1 hn
    have hp' : pid ∈ (p.place pid g x).pages := (extends_place hp x).pages ▸ hp
    have htail := ih hp' hrest fun y hy => hc y (List.mem_cons_of_mem x hy)
    -- The first subject keeps what its placing gave it, and the others still have what they had.
    have hfirst : entryOn pid (rest.foldl (p.place pid) (p.place pid g x)) x.1.id =
        entryOn pid (p.place pid g x) x.1.id := (place_foldl p hp' hrest).2.2 x.1.id hid
    have hothers : ((rest.map (·.1.id)).map fun id => entryChanges (entryOn pid (p.place pid g x) id)
        (entryOn pid (rest.foldl (p.place pid) (p.place pid g x)) id)) =
        (rest.map (·.1.id)).map fun id => entryChanges (entryOn pid g id)
          (entryOn pid (rest.foldl (p.place pid) (p.place pid g x)) id) := by
      refine List.map_congr_left fun id hm => ?_
      rw [entryOn_place_of_ne hp (ne_of_mem_of_not_mem hm hid)]
    rw [hothers, mutations_place hp (hc x List.mem_cons_self)] at htail
    rw [List.foldl_cons, List.map_cons, List.map_cons, List.sum_cons, hfirst, htail, Nat.add_assoc]

/-! ## The whole save -/

theorem Outcome.length_renewed_pages (ho : Outcome p page g h) :
    (renewed g.pages h.pages).length = changes g.pages[page.id]? h.pages[page.id]? := by
  have hn : [page.id].Nodup := List.nodup_singleton page.id
  rw [length_renewed hn]
  · simp
  · intro other _ hout
    rw [ho.pages]
    exact (getElem?_insert_eq _ _ _ _).trans (if_neg fun e => hout (List.mem_singleton.2 e))
  · intro other hin hout
    rw [List.mem_singleton.1 hin, ho.pages] at hout
    exact absurd Std.ExtTreeMap.mem_insert_self hout

theorem Outcome.length_renewed_subjects (ho : Outcome p page g h) :
    (renewed g.subjects h.subjects).length =
      (page.subjects.ids.map fun id => changes g.subjects[id]? h.subjects[id]?).sum := by
  apply length_renewed page.subjects.nodup_ids
  · intro t ht hout
    apply ho.stayed t hout
    intro hd
    exact ho.departed t hd ht
  · intro t ht hout
    rcases ho.of_mem_ids ht with ⟨-, hm⟩ | he
    · exact absurd hm hout
    · exact he

theorem Outcome.length_renewed_memberships (ho : Outcome p page g h) :
    (renewed g.memberships h.memberships).length =
      (page.subjects.ids.map fun id => changes g.memberships[(⟨page.id, id⟩ : Membership)]?
        h.memberships[(⟨page.id, id⟩ : Membership)]?).sum := by
  have hn : (page.subjects.ids.map fun id => (⟨page.id, id⟩ : Membership)).Nodup := by
    apply page.subjects.nodup_ids.map
    intro s t e
    exact (Membership.mk.inj e).2
  rw [length_renewed hn, List.map_map]
  · rfl
  · intro m hm hout
    apply ho.held
    intro e
    apply ho.ended m.subject (fun ht => hout ?_) (e ▸ hm)
    exact List.mem_map.2 ⟨m.subject, ht, e ▸ rfl⟩
  · intro m hm hout
    obtain ⟨t, ht, rfl⟩ := List.mem_map.1 hm
    obtain ⟨x, hx, rfl⟩ := List.mem_map.1 ht
    cases hs : p.schemas[x.1.schema]? with
    | some schema =>
      have hrole := ho.role hx (by simp [resolves, hs])
      rw [Std.ExtTreeMap.mem_iff_isSome_getElem?, hrole] at hout
      exact absurd rfl hout
    | none =>
      -- A role without a node is kept as it is, or only marked otherwise.
      have hown := congrArg Prod.snd (ho.own x hx)
      simp only [entryAfter, hs, entryOn] at hown
      have hnone := Std.ExtTreeMap.getElem?_eq_none hout
      rw [hnone, eq_comm, Option.map_eq_none_iff] at hown
      rw [hnone, hown]

/-- What each subject of the page has does not change after it was placed. -/
theorem sum_entryChanges_writeOn (hg : g.Sound) (p : Projector) (page : Page) :
    (page.subjects.ids.map fun id => entryChanges (entryOn page.id (g.upsertPage page.node) id)
        (entryOn page.id (p.placedOn page g) id)).sum =
      (renewed g.subjects (p.writeOn page g).2.subjects).length +
        (renewed g.memberships (p.writeOn page g).2.memberships).length := by
  have ho := outcome_writeOn hg p page
  rw [ho.length_renewed_subjects, ho.length_renewed_memberships, ← List.sum_map_add]
  congr 1
  refine List.map_congr_left fun id hid => ?_
  obtain ⟨x, hx, rfl⟩ := List.mem_map.1 hid
  rw [← entryOn_writeOn hg hx]
  simp only [entryChanges, entryOn]
  rw [(upsertPage_frame page.node g).1, (upsertPage_frame page.node g).2.1]

/-- Edges at subjects that are lost go when subjects leave the page, and no other ones. -/
theorem relationCount_detachExcept (hg : g.Sound) (pid : PageId) (keep : List SubjectId) :
    (g.detachExcept pid keep).2.relationCount + (g.edges.countP fun e =>
        Lost g (g.detachExcept pid keep).2 e.1 ∨ Lost g (g.detachExcept pid keep).2 e.2.target) =
      g.relationCount := by
  have hgiven := givenUp_detachExcept hg.joined pid keep
  refine relationCount_of_filter fun s => ?_
  rw [relationsFrom_eq_filter_lost hg.joined (hgiven.edges s)]
  refine List.filter_congr fun e _ => ?_
  simp

/-- **A save does what it reports.** -/
theorem accounts_writeOn (hg : g.Sound) (hc : p.Comparable page) :
    (p.writeOn page g).1.Accounts g (p.spread page g).2 (p.writeOn page g).2 := by
  have hsound := (spread_spec hg p page).1.2
  have hwritten : (p.writeOn page g).2 =
      ((p.spread page g).2.detachExcept page.id page.subjects.ids).2 := rfl
  have hrelations : (p.writeOn page g).1.relations = (p.spread page g).1 := rfl
  -- The edges are accounted for from where the subjects were placed.
  have hedges : Accounted (p.spread page g).1 (p.placedOn page g) (p.spread page g).2 :=
    accounted_reconcileAfter_foldl _ (sound_placedOn hg p page) (accounted_unchanged 0 _)
  constructor
  · have hpage : (g.upsertPage page.node).mutations =
        g.mutations + (renewed g.pages (p.writeOn page g).2.pages).length := by
      have ho := outcome_writeOn hg p page
      have hsame : (p.writeOn page g).2.pages = (g.upsertPage page.node).pages :=
        ho.pages.trans (pages_upsertPage page.node g).symm
      rw [ho.length_renewed_pages, hsame]
      exact mutations_upsertPage page.node g
    have hsubjects : (p.placedOn page g).mutations = (g.upsertPage page.node).mutations +
        (page.subjects.ids.map fun id => entryChanges (entryOn page.id (g.upsertPage page.node) id)
          (entryOn page.id (p.placedOn page g) id)).sum :=
      mutations_place_foldl (mem_pages_upsertPage page g) page.subjects.nodup_all
        fun x hx schema hs => hc.same_nodeOf hx hs
    have hdetached : (p.writeOn page g).2.mutations =
        (p.spread page g).2.mutations + (p.writeOn page g).1.subjectsDetached :=
      mutations_detach_foldl page.id _ _
    have hcounter := hedges.counter
    rw [sum_entryChanges_writeOn hg] at hsubjects
    rw [hrelations]
    omega
  · have hplaced : (p.placedOn page g).relationCount = g.relationCount :=
      relationCount_of_relations_eq
        ((extends_placedOn p page g).relations.trans (upsertPage_frame page.node g).2.2)
    have hcount := hedges.edges
    have hlost := relationCount_detachExcept hsound page.id page.subjects.ids
    rw [← hwritten] at hlost
    rw [hplaced] at hcount
    rw [hrelations]
    omega

/-- **Save reports add up.** Whatever a store answers, a report on a page counts each of its subjects
once, as synced or as skipped, and once each relation that a synced subject declares; and there is a
report if the store never fails. In memory, from whatever synchronisers have reached, the counter grows by
the entries that became others, the writes of edges, where a replacement is two, and the memberships that
ended; the edges are more by those created and fewer by those deleted, and by those at the subjects that
were lost when their memberships ended. -/
theorem report_adds_up (p : Projector) (page : Page) :
    (∀ (σ : Type) (store : Store σ) (s : σ),
      (∀ report s', p.savePage store page s = (.ok report, s') → p.AddsUp page report) ∧
      (¬store.Fails → ∃ report s', p.savePage store page s = (.ok report, s'))) ∧
    ∀ m : Memory, m.Reachable →
      (m.failsRelationWrites = false →
        ∃ report m', p.savePage Memory.store page m = (.ok report, m')) ∧
      (p.Comparable page → ∀ report m', p.savePage Memory.store page m = (.ok report, m') →
        m'.committed = ((p.spread page m.committed).2.detachExcept page.id page.subjects.ids).2 ∧
        report.Accounts m.committed (p.spread page m.committed).2 m'.committed) := by
  refine ⟨fun σ store s => ?_, fun m hm => ⟨fun hf => ?_, fun hc report m' hs => ?_⟩⟩
  · have hyields : Yields store (p.savePage store page) (p.AddsUp page) := p.yields_savePage page
    exact ⟨fun report s' hs => hyields.of_ok hs, fun hf => hyields.exists_ok hf s⟩
  · exact ⟨_, _, p.savePage_of_not_failing hf page⟩
  · obtain ⟨rfl, rfl⟩ := p.writeOn_of_savePage hs
    exact ⟨rfl, accounts_writeOn hm.sound hc⟩

end Projector

namespace Memory

open WikiGraph.Graph

def annSaved : Memory := (textProjector.savePage store annPage {}).2

/-- Bob leaves the page, which was the only one that had him, and Ann's edge to him goes with him: one
change is counted, for his membership, and no edge is reported as deleted. -/
theorem bob_accounted_for :
    ∃ report m', textProjector.savePage store annAlone annSaved = (.ok report, m') ∧
      report.subjectsSynced + report.subjectsSkipped = 1 ∧
      report.relations = { unchanged := 1, skipped := 1 } ∧ report.subjectsDetached = 1 ∧
      m'.committed.mutations = annSaved.committed.mutations + 1 ∧
      m'.committed.relationCount + 1 = annSaved.committed.relationCount := by
  have hr : annSaved.Reachable := .save .empty textProjector annPage
  have hc : textProjector.Comparable annAlone := comparable_of_no_properties (by decide +kernel)
  obtain ⟨hanswers, hmemory⟩ := textProjector.report_adds_up annAlone
  have hs := textProjector.savePage_of_not_failing (m := annSaved) (by decide +kernel) annAlone
  have haccounts : (textProjector.writeOn annAlone annSaved.committed).1.Accounts annSaved.committed
      (textProjector.spread annAlone annSaved.committed).2
      (textProjector.writeOn annAlone annSaved.committed).2 :=
    ((hmemory annSaved hr).2 hc _ _ hs).2
  have hsubjects := ((hanswers Memory store annSaved).1 _ _ hs).subjects
  have hrelations : (textProjector.writeOn annAlone annSaved.committed).1.relations =
      { unchanged := 1, skipped := 1 } := by decide +kernel
  have hdetached : (textProjector.writeOn annAlone annSaved.committed).1.subjectsDetached = 1 := by
    decide +kernel
  have hrenewed : (renewed annSaved.committed.pages
        (textProjector.writeOn annAlone annSaved.committed).2.pages).length +
      (renewed annSaved.committed.subjects
        (textProjector.writeOn annAlone annSaved.committed).2.subjects).length +
      (renewed annSaved.committed.memberships
        (textProjector.writeOn annAlone annSaved.committed).2.memberships).length = 0 := by
    decide +kernel
  have hlost : ((textProjector.spread annAlone annSaved.committed).2.edges.countP fun e =>
      Lost (textProjector.spread annAlone annSaved.committed).2
        (textProjector.writeOn annAlone annSaved.committed).2 e.1 ∨
      Lost (textProjector.spread annAlone annSaved.committed).2
        (textProjector.writeOn annAlone annSaved.committed).2 e.2.target) = 1 := by
    decide +kernel
  obtain ⟨hcounter, hedges⟩ := haccounts
  rw [hrelations, hdetached] at hcounter
  rw [hrelations, hlost] at hedges
  refine ⟨_, _, hs, hsubjects.trans (by decide +kernel), hrelations, hdetached, ?_, hedges⟩
  dsimp only [finished] at hcounter ⊢
  omega

end Memory
end WikiGraph
