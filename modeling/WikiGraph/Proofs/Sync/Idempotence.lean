import Mathlib.Algebra.GroupWithZero.Nat
import Mathlib.Data.List.Nodup
import WikiGraph.Proofs.Sync.Save
/-!
# Saving again

A graph that shows a page is a fixed point of saving it. Every write finds what it would write, the
plan of each subject holds nothing but edges to subjects that are missing and are skipped, and no
membership is left to end. So the second of two saves changes nothing, not even the counter, and
reports no change.
-/
namespace WikiGraph

theorem foldl_eq_self {α σ : Type} {step : σ → α → σ} {s : σ} {items : List α}
    (h : ∀ a ∈ items, step s a = s) : items.foldl step s = s := by
  induction items with
  | nil => rfl
  | cons a rest ih =>
    rw [List.foldl_cons, h a List.mem_cons_self]
    exact ih fun b hb => h b (List.mem_cons_of_mem a hb)

/-! ## Counts of a quiet run -/

namespace RelationChanges

/-- Nothing was written for `n` relations: each has its edge already or is skipped. -/
def Quiet (c : RelationChanges) (n : Nat) : Prop := c.churn = 0 ∧ c.unchanged + c.skipped = n

theorem quiet_zero : Quiet {} 0 := ⟨rfl, rfl⟩

theorem quiet_unchanged (n : Nat) : Quiet { unchanged := n } n := ⟨rfl, rfl⟩

theorem quiet_skipped (n : Nat) : Quiet { skipped := n } n := ⟨rfl, Nat.zero_add n⟩

theorem Quiet.add {a b : RelationChanges} {m n : Nat} (ha : a.Quiet m) (hb : b.Quiet n) :
    (a + b).Quiet (m + n) := by
  obtain ⟨hac, hau⟩ := ha
  obtain ⟨hbc, hbu⟩ := hb
  constructor
  · rw [churn_add, hac, hbc]
  · rw [unchanged_add, skipped_add]
    omega

end RelationChanges

/-! ## Edges that are in line -/

namespace Graph

variable {g : Graph} {source : SubjectId} {target : RelationList}

theorem undeclared_eq_nil {known : SubjectId → Prop} {edges : List Relation}
    (h : ShowsRelations known target.toList edges) :
    RelationPlan.undeclared edges target = [] := by
  refine List.eq_nil_iff_forall_not_mem.2 fun i hi => ?_
  obtain ⟨he, hn⟩ := RelationPlan.mem_undeclared.1 hi
  obtain ⟨e, hm, rfl⟩ := List.mem_map.1 he
  obtain ⟨r, hr, hs, -⟩ := h.declared e hm
  rw [(Relation.same_iff.1 hs).1] at hn
  exact hn (List.mem_map_of_mem hr)

/-- A relation whose target is known has its edge, and any other has none. -/
theorem actionFor_of_shows {known : SubjectId → Prop} [DecidablePred known] {edges : List Relation}
    (h : ShowsRelations known target.toList edges) {r : Relation} (hr : r ∈ target.toList) :
    RelationPlan.actionFor edges r = if known r.target then none else some (.create r) := by
  unfold RelationPlan.actionFor
  by_cases ht : known r.target
  · rw [if_pos ht]
    obtain ⟨e, he, hs⟩ := h.present r hr ht
    obtain ⟨hid, htype, htarget, hprops⟩ := Relation.same_iff.1 hs
    have hf : edges.find? (·.id = r.id) = some e := (find?_key_eq_some_iff h.distinct).2 ⟨he, hid⟩
    simp [hf, htype, htarget, hprops]
  · rw [if_neg ht]
    have hf : edges.find? (·.id = r.id) = none := by
      refine List.find?_eq_none.2 fun e he hid => ht ?_
      obtain ⟨s, hm, hs, hk⟩ := h.declared e he
      have hsr : s.id = r.id := (Relation.same_iff.1 hs).1.symm.trans (of_decide_eq_true hid)
      rw [← List.inj_on_of_nodup_map target.distinct hm hr hsr]
      exact hk
    rw [hf]

/-- The edges of a subject need no step but the creation of relations that lack an end. -/
structure AtRest (g : Graph) (source : SubjectId) (target : RelationList) : Prop where
  declared : RelationPlan.undeclared (g.relationsFrom source) target = []
  steps : ∀ r ∈ target.toList, ∀ a, RelationPlan.actionFor (g.relationsFrom source) r = some a →
    a = .create r ∧ ¬(source ∈ g.subjects ∧ r.target ∈ g.subjects)

theorem atRest_of_shows
    (h : ShowsRelations (· ∈ g.subjects) target.toList (g.relationsFrom source)) :
    AtRest g source target where
  declared := undeclared_eq_nil h
  steps r hr a ha := by
    rw [actionFor_of_shows h hr] at ha
    split at ha
    · cases ha
    · rename_i ht
      exact ⟨(Option.some.inj ha).symm, fun hends => ht hends.2⟩

/-- Carried out for edges at rest, the steps of declared relations change nothing and are counted as
skipped. -/
theorem AtRest.settle_foldl (h : AtRest g source target) {relations : List Relation}
    (hl : ∀ r ∈ relations, r ∈ target.toList) {c : RelationChanges} {n : Nat} (hc : c.Quiet n) :
    ∃ d : RelationChanges,
      relations.foldl (RelationPlan.settle (RelationAction.actAfter source) (g.relationsFrom source))
        (c, g) = (d, g) ∧
        d.Quiet (n + relations.countP fun r =>
          ¬(RelationPlan.actionFor (g.relationsFrom source) r).isNone) := by
  induction relations generalizing c n with
  | nil => exact ⟨c, rfl, hc⟩
  | cons r rest ih =>
    have hr : ∀ t ∈ rest, t ∈ target.toList := fun t ht => hl t (List.mem_cons_of_mem r ht)
    rw [List.foldl_cons, RelationPlan.settle]
    cases ha : RelationPlan.actionFor (g.relationsFrom source) r with
    | none =>
      rw [List.countP_cons_of_neg (by simp [ha])]
      exact ih hr hc
    | some a =>
      rw [List.countP_cons_of_pos (by simp [ha])]
      obtain ⟨rfl, hends⟩ := h.steps r (hl r List.mem_cons_self) a ha
      have hskip : g.createRelation source r = (false, g) := if_neg hends
      have hs : (RelationAction.create r).actAfter source (c, g) = (c + { skipped := 1 }, g) := by
        simp only [RelationAction.actAfter, RelationAction.act, hskip]
        rfl
      simp only [hs]
      obtain ⟨d, hd, hq⟩ := ih hr (hc.add (RelationChanges.quiet_skipped 1))
      refine ⟨d, hd, ?_⟩
      rwa [Nat.add_assoc, Nat.add_comm 1] at hq

/-- **A reconciliation of edges at rest** changes nothing, and counts every relation as unchanged or as
skipped. -/
theorem AtRest.reconcile (h : AtRest g source target) :
    ∃ d : RelationChanges, g.reconcile source target = (d, g) ∧ d.Quiet target.size := by
  have hsize := List.length_eq_countP_add_countP (l := target.toList)
    fun r => (RelationPlan.actionFor (g.relationsFrom source) r).isNone
  rw [Graph.reconcile, RelationPlan.foldl_actions, h.declared, List.foldl_nil, RelationList.size,
    hsize]
  exact h.settle_foldl (fun _ hr => hr) (RelationChanges.quiet_unchanged _)

theorem reconcile_of_shows
    (h : ShowsRelations (· ∈ g.subjects) target.toList (g.relationsFrom source)) :
    ∃ d : RelationChanges, g.reconcile source target = (d, g) ∧ d.Quiet target.size :=
  (atRest_of_shows h).reconcile

/-- Reconciling one subject after the other, when the edges of each are in line. -/
theorem reconcileAfter_of_shows {subjects : List Subject}
    (h : ∀ s ∈ subjects,
      ShowsRelations (· ∈ g.subjects) s.relations.toList (g.relationsFrom s.id))
    {c : RelationChanges} {n : Nat} (hc : c.Quiet n) :
    ∃ d : RelationChanges, subjects.foldl Subject.reconcileAfter (c, g) = (d, g) ∧
      d.Quiet (n + (subjects.map (·.relations.size)).sum) := by
  induction subjects generalizing c n with
  | nil => exact ⟨c, rfl, hc⟩
  | cons s rest ih =>
    obtain ⟨d, hd, hq⟩ := reconcile_of_shows (h s List.mem_cons_self)
    have hs : Subject.reconcileAfter (c, g) s = (c + d, g) := by
      simp only [Subject.reconcileAfter, hd]
    rw [List.foldl_cons, hs, List.map_cons, List.sum_cons, ← Nat.add_assoc]
    exact ih (fun t ht => h t (List.mem_cons_of_mem s ht)) (hc.add hq)

end Graph

/-! ## The page again -/

namespace Projector

open WikiGraph.Graph

variable {p : Projector} {page : Page} {g : Graph}

theorem upsertPage_of_getElem? {node : PageNode} (h : g.pages[node.id]? = some node) :
    g.upsertPage node = g := if_pos h

theorem upsertSubject_of_same {node held : SubjectNode} (h : g.subjects[node.id]? = some held)
    (hs : held.same node) : g.upsertSubject node = g := by
  unfold upsertSubject
  rw [h]
  exact if_pos hs

theorem markMembership_of_getElem? {m : Membership} {main : Bool}
    (h : g.memberships[m]? = some main) : g.markMembership m main = g := if_pos h

/-- A subject that has what its placing gives is not changed by it. -/
theorem place_of_placed (hp : page.id ∈ g.pages) {x : Subject × Bool}
    {before : Option SubjectNode × Option Bool} (hx : p.Placed x before (entryOn page.id g x.1.id))
    (hc : ∀ schema, p.schemas[x.1.schema]? = some schema →
      (p.nodeOf schema x.1).same (p.nodeOf schema x.1)) :
    p.place page.id g x = g := by
  unfold Placed at hx
  cases hs : p.schemas[x.1.schema]? with
  | none =>
    rw [hs] at hx
    rw [place_of_unresolved hs, setMain]
    have hm : g.memberships[(⟨page.id, x.1.id⟩ : Membership)]? = before.2.map fun _ => x.2 :=
      (Prod.mk.inj hx).2
    split
    · rename_i hmem
      rw [Std.ExtTreeMap.mem_iff_isSome_getElem?, hm] at hmem
      obtain ⟨role, hr⟩ := Option.isSome_iff_exists.1 (by simpa using hmem)
      rw [hr] at hm
      exact markMembership_of_getElem? hm
    · rfl
  | some schema =>
    rw [hs] at hx
    obtain ⟨⟨node, hn, hsame⟩, hm⟩ := hx
    have hnode : node.same (p.nodeOf schema x.1) := by
      rcases hsame with rfl | hsame
      · exact hc schema hs
      · exact hsame
    have hn : g.subjects[(p.nodeOf schema x.1).id]? = some node := hn
    rw [place_of_resolved hs hp, upsertSubject_of_same hn hnode]
    exact markMembership_of_getElem? hm

/-- Nothing is left to write for a page: its node is there, each of its subjects is placed and no
other one is on the page, and the edges of those of known schemas are in line. -/
structure Shown (p : Projector) (page : Page) (h : Graph) : Prop where
  node : h.pages[page.id]? = some page.node
  placed : ∀ x ∈ page.subjects.all, ∃ before, p.Placed x before (entryOn page.id h x.1.id)
  only : ∀ t, (⟨page.id, t⟩ : Membership) ∈ h.memberships → t ∈ page.subjects.ids
  edges : ∀ s ∈ p.resolved page.subjects.all,
    ShowsRelations (· ∈ h.subjects) s.relations.toList (h.relationsFrom s.id)

theorem Written.shown {h : Graph} (hw : Written p page g h) (hc : p.Comparable page) :
    Shown p page h where
  node := hw.node
  placed x hx := ⟨_, hw.placed x hx⟩
  only := hw.only
  edges s hs := by
    obtain ⟨hm, hr⟩ := mem_resolved.1 hs
    obtain ⟨x, hx, rfl⟩ := List.mem_map.1 hm
    exact hw.edges x hx hr (hc.relations x hx)

/-- **A graph that shows a page** is not changed when the page is written on it. -/
theorem Shown.writeOn {h : Graph} (hh : Shown p page h) (hc : p.Comparable page) :
    ∃ d : RelationChanges,
      p.writeOn page h = (reportOf page (p.resolved page.subjects.all) d 0, h) ∧
      d.Quiet ((p.resolved page.subjects.all).map (·.relations.size)).sum := by
  have hp : page.id ∈ h.pages := by
    rw [Std.ExtTreeMap.mem_iff_isSome_getElem?, hh.node]
    rfl
  have hplace : page.subjects.all.foldl (p.place page.id) h = h := by
    refine foldl_eq_self fun x hx => ?_
    obtain ⟨before, hx'⟩ := hh.placed x hx
    exact place_of_placed hp hx' fun _ hs => hc.same_nodeOf hx hs
  obtain ⟨d, hd, hq⟩ := reconcileAfter_of_shows hh.edges RelationChanges.quiet_zero
  rw [Nat.zero_add] at hq
  refine ⟨d, ?_, hq⟩
  rw [Projector.writeOn, spread, upsertPage_of_getElem? hh.node, hplace, hd,
    detachExcept_of_forall_mem hh.only]

/-- **A page that is shown is a fixed point.** Written once more on the graph that a first writing
left, a page changes nothing. -/
theorem writeOn_writeOn (hg : g.Sound) (hc : p.Comparable page) :
    ∃ d : RelationChanges,
      p.writeOn page (p.writeOn page g).2 =
        (reportOf page (p.resolved page.subjects.all) d 0, (p.writeOn page g).2) ∧
      d.Quiet ((p.resolved page.subjects.all).map (·.relations.size)).sum :=
  ((writeOn_spec hg p page).shown hc).writeOn hc

/-- **Saving is idempotent.** When no relation write is made to fail, a save succeeds, and so does
the same save after it, which leaves the store as it is, the counter included. The second report
counts the same subjects, no change and no membership ended, and every relation of a synced subject
as unchanged or as skipped. -/
theorem savePage_idempotent {m : Memory} (h : m.Reachable) (hf : m.failsRelationWrites = false)
    (hc : p.Comparable page) :
    ∃ (report again : SyncReport) (m' : Memory),
      p.savePage Memory.store page m = (.ok report, m') ∧
      p.savePage Memory.store page m' = (.ok again, m') ∧
      again.relations.churn = 0 ∧ again.subjectsDetached = 0 ∧
      again.subjectsSynced = report.subjectsSynced ∧
      again.subjectsSkipped = report.subjectsSkipped ∧
      again.relations.unchanged + again.relations.skipped =
        ((p.resolved page.subjects.all).map (·.relations.size)).sum := by
  obtain ⟨d, hd, hchurn, hcount⟩ := writeOn_writeOn h.sound hc
  have hsaved : (m.finished (p.writeOn page m.committed).2).failsRelationWrites = false := hf
  have hagain := p.savePage_of_not_failing hsaved page
  have hcommitted : (m.finished (p.writeOn page m.committed).2).committed =
    (p.writeOn page m.committed).2 := rfl
  rw [hcommitted, hd] at hagain
  exact ⟨_, _, _, p.savePage_of_not_failing hf page, hagain, hchurn, rfl, rfl, rfl, hcount⟩

end Projector

theorem annPage_saved_again :
    ∃ (report again : SyncReport) (m' : Memory),
      textProjector.savePage Memory.store annPage {} = (.ok report, m') ∧
      textProjector.savePage Memory.store annPage m' = (.ok again, m') ∧
      again.relations.churn = 0 ∧ again.relations.unchanged + again.relations.skipped = 2 := by
  obtain ⟨report, again, m', hs, ha, hchurn, -, -, -, hcount⟩ :=
    Projector.savePage_idempotent .empty rfl comparable_annPage
  have hsum : ((textProjector.resolved annPage.subjects.all).map (·.relations.size)).sum = 2 := by
    decide +kernel
  exact ⟨report, again, m', hs, ha, hchurn, hcount.trans hsum⟩

end WikiGraph
