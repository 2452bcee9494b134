import Mathlib.Data.List.Pairwise
import WikiGraph.Proofs.Sync.Idempotence
import WikiGraph.Proofs.Sync.Outcome
/-!
# Rounds of saves

A relation to a subject that is not there is skipped, so which edges a round of saves leaves depends on
the order of the pages. What does not depend on it is said by `Gathering`: the nodes and the roles are
those of the pages written so far, and every edge is a declared relation. Each save keeps this up
(`Gathering.writeOn`), and it leaves the edges of all other pages alone. Once every page has been
written, a save therefore finds every target that it will ever find, and the edges of its page are settled
for good. So a second round settles all of them, in whatever order (`rounds_converge`), and there
is nothing left to do for a third.
-/
namespace WikiGraph

namespace Projector

open WikiGraph.Graph

def known (p : Projector) (pages : List Page) : List SubjectId :=
  pages.flatMap fun P => (p.resolved P.subjects.all).map Subject.id

/-- No two pages have the same identifier or a subject in common. -/
def Apart (pages : List Page) : Prop :=
  ∀ P ∈ pages, ∀ Q ∈ pages,
    (P.id = Q.id → P = Q) ∧ ∀ t ∈ P.subjects.ids, t ∈ Q.subjects.ids → P = Q

/-- What a graph holds while `pages` are gathered in it, those in `written` so far. -/
structure Gathering (p : Projector) (pages written : List Page) (g : Graph) : Prop where
  sound : g.Sound
  within : ∀ P ∈ written, P ∈ pages
  nodes : ∀ id node, g.pages[id]? = some node ↔ ∃ P ∈ written, P.id = id ∧ P.node = node
  entries : ∀ P ∈ written, ∀ x ∈ P.subjects.all,
    entryOn P.id g x.1.id = p.entryAfter x (none, none)
  subjects : ∀ t ∈ g.subjects, t ∈ p.known written
  memberships : ∀ m ∈ g.memberships, ∃ P ∈ written, P.id = m.page ∧ m.subject ∈ P.subjects.ids
  declared : ∀ P ∈ written, ∀ s ∈ p.resolved P.subjects.all,
    ∀ e ∈ g.relationsFrom s.id, e ∈ s.relations.toList

/-- The edges of a page's subjects are all those to subjects on the pages that are gathered. -/
structure Settled (p : Projector) (pages : List Page) (P : Page) (g : Graph) : Prop where
  edges : ∀ s ∈ p.resolved P.subjects.all,
    (g.relationsFrom s.id).Perm (s.relations.toList.filter (·.target ∈ p.known pages))

variable {p : Projector} {g h : Graph} {P Q : Page} {pages written : List Page} {t : SubjectId}

theorem Apart.of_pairwise (hids : (pages.map Page.id).Nodup)
    (hsubjects : pages.Pairwise fun P Q => ∀ t ∈ P.subjects.ids, t ∉ Q.subjects.ids) :
    Apart pages := by
  intro P hP Q hQ
  refine ⟨List.inj_on_of_nodup_map hids hP hQ, fun t ht ht' => ?_⟩
  have hsymm : Std.Symm fun P Q : Page => ∀ t ∈ P.subjects.ids, t ∉ Q.subjects.ids :=
    ⟨fun _ _ h t hq hp => h t hp hq⟩
  exact Classical.byContradiction fun hne => hsubjects.forall hP hQ hne t ht ht'

theorem Apart.of_ne (ha : Apart pages) (hQ : Q ∈ pages) (hP : P ∈ pages) (hne : Q ≠ P) :
    Q.id ≠ P.id ∧ ∀ t ∈ Q.subjects.ids, t ∉ P.subjects.ids :=
  ⟨fun e => hne ((ha Q hQ P hP).1 e), fun t ht ht' => hne ((ha Q hQ P hP).2 t ht ht')⟩

theorem mem_known : t ∈ p.known pages ↔
    ∃ P ∈ pages, ∃ x ∈ P.subjects.all, p.resolves x.1 ∧ x.1.id = t := by
  unfold known
  rw [List.mem_flatMap]
  refine exists_congr fun P => and_congr_right fun _ => ⟨fun hm => ?_, ?_⟩
  · obtain ⟨s, hs, rfl⟩ := List.mem_map.1 hm
    obtain ⟨hm, hr⟩ := mem_resolved.1 hs
    obtain ⟨x, hx, rfl⟩ := List.mem_map.1 hm
    exact ⟨x, hx, hr, rfl⟩
  · rintro ⟨x, hx, hr, rfl⟩
    exact List.mem_map_of_mem (resolved_of_resolves hx hr)

/-- What placing a subject gives does not change when it is placed again. -/
theorem entryAfter_of_placed {x : Subject × Bool} {before : Option SubjectNode × Option Bool}
    (hb : before = p.entryAfter x (none, none) ∨ before = (none, none)) :
    p.entryAfter x before = p.entryAfter x (none, none) := by
  rcases hb with rfl | rfl
  · cases hs : p.schemas[x.1.schema]? with
    | none => simp [entryAfter, hs]
    | some schema => simp [entryAfter, hs, SubjectNode.over]
  · rfl

/-- A subject that is placed for the first time gets its node if its schema is known. -/
theorem fst_entryAfter_eq_some {x : Subject × Bool} {node : SubjectNode} :
    (p.entryAfter x (none, none)).1 = some node ↔
      ∃ schema, p.schemas[x.1.schema]? = some schema ∧ p.nodeOf schema x.1 = node := by
  cases hs : p.schemas[x.1.schema]? <;> simp [entryAfter, hs, SubjectNode.over]

theorem isSome_fst_entryAfter (x : Subject × Bool) :
    (p.entryAfter x (none, none)).1.isSome = p.resolves x.1 := by
  cases hs : p.schemas[x.1.schema]? <;> simp [entryAfter, resolves, hs]

theorem snd_entryAfter_eq_some {x : Subject × Bool} {main : Bool} :
    (p.entryAfter x (none, none)).2 = some main ↔ p.resolves x.1 ∧ x.2 = main := by
  cases hs : p.schemas[x.1.schema]? <;> simp [entryAfter, resolves, hs]

namespace Gathering

theorem mem_subjects_iff (hg : Gathering p pages written g) :
    t ∈ g.subjects ↔ t ∈ p.known written := by
  refine ⟨hg.subjects t, fun ht => ?_⟩
  obtain ⟨P, hP, x, hx, hr, rfl⟩ := mem_known.1 ht
  have he : g.subjects[x.1.id]? = (p.entryAfter x (none, none)).1 :=
    congrArg Prod.fst (hg.entries P hP x hx)
  rw [Std.ExtTreeMap.mem_iff_isSome_getElem?, he, isSome_fst_entryAfter]
  exact hr

/-! ### One more page -/

section Next

variable (hg : Gathering p pages written g) (ha : Apart pages) (hP : P ∈ pages)

include hg ha hP

/-- A page that is not written yet has nothing in the graph. -/
theorem entryOn_of_not_mem (hn : P ∉ written) (ht : t ∈ P.subjects.ids) :
    entryOn P.id g t = (none, none) := by
  have hsubject : t ∉ g.subjects := by
    intro hm
    obtain ⟨Q, hQ, x, hx, -, rfl⟩ := mem_known.1 (hg.subjects t hm)
    exact hn ((ha P hP Q (hg.within Q hQ)).2 x.1.id ht (List.mem_map_of_mem hx) ▸ hQ)
  have hmember : (⟨P.id, t⟩ : Membership) ∉ g.memberships := by
    intro hm
    obtain ⟨Q, hQ, hid, -⟩ := hg.memberships _ hm
    exact hn ((ha Q (hg.within Q hQ) P hP).1 hid ▸ hQ)
  exact Prod.ext (Std.ExtTreeMap.getElem?_eq_none hsubject)
    (Std.ExtTreeMap.getElem?_eq_none hmember)

/-- No save gives a subject up. -/
theorem not_departs : ¬g.Departs P.id P.subjects.ids t := by
  intro hd
  obtain ⟨Q, hQ, hid, hm⟩ := hg.memberships _ hd.member
  obtain rfl := (ha Q (hg.within Q hQ) P hP).1 hid
  exact hd.dropped hm

variable (ho : Outcome p P g h)

include ho

/-- The page's subjects get what they have on the page. -/
theorem entryOn_own {x : Subject × Bool} (hx : x ∈ P.subjects.all) :
    entryOn P.id h x.1.id = p.entryAfter x (none, none) := by
  rw [ho.own x hx]
  refine entryAfter_of_placed ?_
  by_cases hm : P ∈ written
  · exact .inl (hg.entries P hm x hx)
  · exact .inr (hg.entryOn_of_not_mem ha hP hm (List.mem_map_of_mem hx))

/-- All other subjects keep what they have. -/
theorem subjects_other (ht : t ∉ P.subjects.ids) : h.subjects[t]? = g.subjects[t]? :=
  ho.stayed t ht (hg.not_departs ha hP)

/-- The edges of all other subjects are left alone. -/
theorem relationsFrom_other (ht : t ∉ (p.resolved P.subjects.all).map Subject.id) :
    h.relationsFrom t = g.relationsFrom t := by
  have hstays : ∀ {u}, u ∈ g.subjects → u ∈ h.subjects := by
    intro u hu
    by_cases hm : u ∈ P.subjects.ids
    · rcases ho.of_mem_ids hm with ⟨-, hin⟩ | he
      · exact hin
      · exact (mem_subjects_congr he).2 hu
    · exact (mem_subjects_congr (hg.subjects_other ha hP ho hm)).2 hu
  rw [hg.sound.relationsFrom_of_stays (ho.edges t ht) hstays]
  exact List.filter_eq_self.2 fun e he => decide_eq_true (hstays (hg.sound.target_mem t e he))

/-- The edges of the page's subjects are their relations to subjects that are there. -/
theorem relationsFrom_own {s : Subject} (hs : s ∈ p.resolved P.subjects.all) :
    (h.relationsFrom s.id).Perm (s.relations.toList.filter (·.target ∈ h.subjects)) := by
  have hdeclared : ∀ e ∈ g.relationsFrom s.id, e ∈ s.relations.toList := by
    intro e he
    by_cases hm : P ∈ written
    · exact hg.declared P hm s hs e he
    · have hnone : g.subjects[s.id]? = none := congrArg Prod.fst
        (hg.entryOn_of_not_mem ha hP hm (mem_ids_of_mem_resolved hs))
      have hmem := hg.sound.source_mem s.id (List.ne_nil_of_mem he)
      rw [Std.ExtTreeMap.mem_iff_isSome_getElem?, hnone] at hmem
      cases hmem
  rw [ho.aligned s hs]
  exact (inLine_perm s.relations.distinct (hg.sound.distinct s.id) hdeclared).filter _

theorem nodes_next (id : PageId) (node : PageNode) :
    h.pages[id]? = some node ↔ ∃ Q ∈ written ++ [P], Q.id = id ∧ Q.node = node := by
  rw [ho.pages, getElem?_insert_eq]
  by_cases e : id = P.id
  · rw [if_pos e]
    constructor
    · intro h
      exact ⟨P, by simp, e.symm, Option.some.inj h⟩
    · rintro ⟨Q, hQ, hid, rfl⟩
      rcases List.mem_append.1 hQ with hQ | hQ
      · rw [(ha Q (hg.within Q hQ) P hP).1 (hid.trans e)]
      · rw [List.mem_singleton.1 hQ]
  · rw [if_neg e, hg.nodes]
    constructor
    · rintro ⟨Q, hQ, hid⟩
      exact ⟨Q, List.mem_append_left _ hQ, hid⟩
    · rintro ⟨Q, hQ, hid, hn⟩
      rcases List.mem_append.1 hQ with hQ | hQ
      · exact ⟨Q, hQ, hid, hn⟩
      · exact absurd (List.mem_singleton.1 hQ ▸ hid).symm e

theorem entries_next (hQ : Q ∈ written ++ [P]) {x : Subject × Bool} (hx : x ∈ Q.subjects.all) :
    entryOn Q.id h x.1.id = p.entryAfter x (none, none) := by
  by_cases hne : Q = P
  · subst hne
    exact hg.entryOn_own ha hP ho hx
  · have hin : Q ∈ written := by simpa [hne] using hQ
    obtain ⟨hid, hids⟩ := ha.of_ne (hg.within Q hin) hP hne
    rw [← hg.entries Q hin x hx]
    exact Prod.ext (hg.subjects_other ha hP ho (hids _ (List.mem_map_of_mem hx)))
      (ho.held ⟨Q.id, x.1.id⟩ hid)

theorem subjects_next (ht : t ∈ h.subjects) : t ∈ p.known (written ++ [P]) := by
  by_cases hm : t ∈ P.subjects.ids
  · obtain ⟨x, hx, rfl⟩ := List.mem_map.1 hm
    have hown : h.subjects[x.1.id]? = (p.entryAfter x (none, none)).1 :=
      congrArg Prod.fst (hg.entryOn_own ha hP ho hx)
    rw [Std.ExtTreeMap.mem_iff_isSome_getElem?, hown, isSome_fst_entryAfter] at ht
    exact mem_known.2 ⟨P, by simp, x, hx, ht, rfl⟩
  · rw [mem_subjects_congr (hg.subjects_other ha hP ho hm)] at ht
    obtain ⟨Q, hQ, hk⟩ := mem_known.1 (hg.subjects t ht)
    exact mem_known.2 ⟨Q, List.mem_append_left _ hQ, hk⟩

theorem declared_next (hQ : Q ∈ written ++ [P]) {s : Subject}
    (hs : s ∈ p.resolved Q.subjects.all) {e : Relation} (he : e ∈ h.relationsFrom s.id) :
    e ∈ s.relations.toList := by
  by_cases hne : Q = P
  · subst hne
    exact (List.mem_filter.1 ((hg.relationsFrom_own ha hP ho hs).mem_iff.1 he)).1
  · have hin : Q ∈ written := by simpa [hne] using hQ
    refine hg.declared Q hin s hs e ?_
    rwa [hg.relationsFrom_other ha hP ho (not_mem_resolved_of_not_mem_ids
      ((ha.of_ne (hg.within Q hin) hP hne).2 _ (mem_ids_of_mem_resolved hs)))] at he

end Next

/-- **One more page is gathered.** -/
theorem writeOn (hg : Gathering p pages written g) (ha : Apart pages) (hP : P ∈ pages) :
    Gathering p pages (written ++ [P]) (p.writeOn P g).2 := by
  have ho := outcome_writeOn hg.sound p P
  refine ⟨(writeOn_spec hg.sound p P).sound, fun Q hQ => ?_, hg.nodes_next ha hP ho,
    fun Q hQ x hx => hg.entries_next ha hP ho hQ hx, fun t ht => hg.subjects_next ha hP ho ht,
    fun m hm => ?_, fun Q hQ s hs e he => hg.declared_next ha hP ho hQ hs he⟩
  · rcases List.mem_append.1 hQ with hQ | hQ
    · exact hg.within Q hQ
    · exact List.mem_singleton.1 hQ ▸ hP
  · by_cases e : m.page = P.id
    · refine ⟨P, by simp, e.symm, Classical.byContradiction fun hn => ho.ended m.subject hn ?_⟩
      rwa [← e]
    · obtain ⟨Q, hQ, hQ'⟩ := hg.memberships m ((mem_memberships_congr (ho.held m e)).1 hm)
      exact ⟨Q, List.mem_append_left _ hQ, hQ'⟩

/-- **More pages are gathered**, one after the other. -/
theorem writeAll (hg : Gathering p pages written g) (ha : Apart pages) {next : List Page}
    (hn : ∀ P ∈ next, P ∈ pages) : Gathering p pages (written ++ next) (p.writeAll next g) := by
  induction next generalizing written g with
  | nil => rwa [List.append_nil]
  | cons P rest ih =>
    have hstep := hg.writeOn ha (hn P List.mem_cons_self)
    have hrest := ih hstep fun Q hQ => hn Q (List.mem_cons_of_mem P hQ)
    rwa [List.append_assoc] at hrest

/-! ### When all pages were written -/

section All

variable (hg : Gathering p pages written g) (hall : ∀ P ∈ pages, P ∈ written)

include hg hall

theorem mem_subjects_iff_known : t ∈ g.subjects ↔ t ∈ p.known pages := by
  rw [hg.mem_subjects_iff, mem_known, mem_known]
  constructor
  · rintro ⟨P, hP, hm⟩
    exact ⟨P, hg.within P hP, hm⟩
  · rintro ⟨P, hP, hm⟩
    exact ⟨P, hall P hP, hm⟩

/-- The page that is saved is settled. -/
theorem settled_own (ha : Apart pages) (hP : P ∈ pages) :
    Settled p pages P (p.writeOn P g).2 := by
  refine ⟨fun s hs => ?_⟩
  have hk : ∀ t, t ∈ (p.writeOn P g).2.subjects ↔ t ∈ p.known pages := fun t =>
    (hg.writeOn ha hP).mem_subjects_iff_known fun Q hQ => List.mem_append_left _ (hall Q hQ)
  have hown := hg.relationsFrom_own ha hP (outcome_writeOn hg.sound p P) hs
  simpa only [hk] using hown

omit hall in
/-- Every other page stays as settled as it is. -/
theorem settled_other (ha : Apart pages) (hP : P ∈ pages) (hQ : Q ∈ pages) (hne : Q ≠ P)
    (hs : Settled p pages Q g) : Settled p pages Q (p.writeOn P g).2 := by
  refine ⟨fun s hm => ?_⟩
  rw [hg.relationsFrom_other ha hP (outcome_writeOn hg.sound p P) (not_mem_resolved_of_not_mem_ids
    ((ha.of_ne hQ hP hne).2 _ (mem_ids_of_mem_resolved hm)))]
  exact hs.edges s hm

/-- **A round settles the pages** that are saved in it, and unsettles none. -/
theorem settled_writeAll (ha : Apart pages) {next : List Page} (hn : ∀ P ∈ next, P ∈ pages)
    (hQ : Q ∈ pages) (hs : Q ∈ next ∨ Settled p pages Q g) :
    Settled p pages Q (p.writeAll next g) := by
  induction next generalizing written g with
  | nil => exact hs.resolve_left List.not_mem_nil
  | cons P rest ih =>
    have hP : P ∈ pages := hn P List.mem_cons_self
    refine ih (hg.writeOn ha hP) (fun R hR => List.mem_append_left _ (hall R hR))
      (fun R hR => hn R (List.mem_cons_of_mem P hR)) ?_
    by_cases hne : Q = P
    · subst hne
      exact .inr (hg.settled_own hall ha hP)
    · rcases hs with hm | hs
      · exact .inl ((List.mem_cons.1 hm).resolve_left hne)
      · exact .inr (hg.settled_other ha hP hQ hne hs)

/-- A settled page is shown. -/
theorem shown (ha : Apart pages) (hP : P ∈ pages) (hc : p.Comparable P)
    (hs : Settled p pages P g) : Shown p P g where
  node := (hg.nodes P.id P.node).2 ⟨P, hall P hP, rfl, rfl⟩
  placed x hx := ⟨(none, none), hg.entries P (hall P hP) x hx ▸ placed_entryAfter x _⟩
  only t ht := by
    obtain ⟨Q, hQ, hid, hm⟩ := hg.memberships _ ht
    obtain rfl := (ha Q (hg.within Q hQ) P hP).1 hid
    exact hm
  edges s hm := by
    have hedge : ∀ {e}, e ∈ g.relationsFrom s.id ↔
        e ∈ s.relations.toList ∧ e.target ∈ g.subjects := by
      intro e
      rw [(hs.edges s hm).mem_iff, List.mem_filter, decide_eq_true_iff,
        hg.mem_subjects_iff_known hall]
    obtain ⟨x, hx, rfl⟩ := List.mem_map.1 (mem_resolved.1 hm).1
    have hsame : ∀ e ∈ x.1.relations.toList, e.same e := fun e he =>
      Relation.same_self (hc.relations x hx e he)
    refine ⟨hg.sound.distinct x.1.id, fun e he => ?_, fun r hr ht => ?_⟩
    · obtain ⟨hr, ht⟩ := hedge.1 he
      exact ⟨e, hr, hsame e hr, ht⟩
    · exact ⟨r, hedge.2 ⟨hr, ht⟩, hsame r hr⟩

end All

end Gathering

end Projector

/-! ## What two rounds leave -/

/-- A graph that holds some pages and nothing else: their nodes, the nodes and the roles of their
subjects of known schemas, and all relations between those. -/
structure Gathered (p : Projector) (pages : List Page) (g : Graph) : Prop where
  nodes : ∀ id node, g.pages[id]? = some node ↔ ∃ P ∈ pages, P.id = id ∧ P.node = node
  subjects : ∀ t node, g.subjects[t]? = some node ↔
    ∃ P ∈ pages, ∃ x ∈ P.subjects.all, x.1.id = t ∧
      ∃ schema, p.schemas[x.1.schema]? = some schema ∧ p.nodeOf schema x.1 = node
  memberships : ∀ (m : Membership) main, g.memberships[m]? = some main ↔
    ∃ P ∈ pages, ∃ x ∈ P.subjects.all, m = ⟨P.id, x.1.id⟩ ∧ p.resolves x.1 ∧ x.2 = main
  edges : ∀ P ∈ pages, ∀ s ∈ p.resolved P.subjects.all,
    (g.relationsFrom s.id).Perm (s.relations.toList.filter (·.target ∈ p.known pages))
  others : ∀ t, t ∉ p.known pages → g.relationsFrom t = []

/-- Two graphs hold the same, but for the order of the edges of each subject and for the counters. -/
structure Graph.SameButOrder (g h : Graph) : Prop extends Graph.SameNodes g h where
  relations : ∀ s, (h.relationsFrom s).Perm (g.relationsFrom s)

theorem Gathered.sameButOrder {p : Projector} {pages : List Page} {g h : Graph}
    (hg : Gathered p pages g) (hh : Gathered p pages h) : Graph.SameButOrder g h where
  pages := Std.ExtTreeMap.ext_getElem? fun id => Option.ext fun node => by rw [hg.nodes, hh.nodes]
  subjects := Std.ExtTreeMap.ext_getElem? fun t => Option.ext fun node => by
    rw [hg.subjects, hh.subjects]
  memberships := Std.ExtTreeMap.ext_getElem? fun m => Option.ext fun main => by
    rw [hg.memberships, hh.memberships]
  relations s := by
    by_cases hs : s ∈ p.known pages
    · obtain ⟨P, hP, x, hx, hr, rfl⟩ := Projector.mem_known.1 hs
      have hx := Projector.resolved_of_resolves hx hr
      exact (hh.edges P hP x.1 hx).trans (hg.edges P hP x.1 hx).symm
    · rw [hg.others s hs, hh.others s hs]

namespace Projector

open WikiGraph.Graph

variable {p : Projector} {g : Graph} {pages written : List Page}

theorem Gathering.gathered (hg : Gathering p pages written g) (hall : ∀ P ∈ pages, P ∈ written)
    (hs : ∀ P ∈ pages, Settled p pages P g) : Gathered p pages g := by
  have hentries : ∀ P ∈ pages, ∀ x ∈ P.subjects.all,
      g.subjects[x.1.id]? = (p.entryAfter x (none, none)).1 ∧
      g.memberships[(⟨P.id, x.1.id⟩ : Membership)]? = (p.entryAfter x (none, none)).2 :=
    fun P hP x hx => Prod.ext_iff.1 (hg.entries P (hall P hP) x hx)
  refine ⟨fun id node => ?_, fun t node => ?_, fun m main => ?_,
    fun P hP => (hs P hP).edges, fun t ht => ?_⟩
  · rw [hg.nodes]
    exact ⟨fun ⟨P, hP, h⟩ => ⟨P, hg.within P hP, h⟩, fun ⟨P, hP, h⟩ => ⟨P, hall P hP, h⟩⟩
  · constructor
    · intro ht
      have hm : t ∈ g.subjects := by
        rw [Std.ExtTreeMap.mem_iff_isSome_getElem?, ht]
        rfl
      obtain ⟨P, hP, x, hx, -, rfl⟩ := mem_known.1 ((hg.mem_subjects_iff_known hall).1 hm)
      rw [(hentries P hP x hx).1] at ht
      exact ⟨P, hP, x, hx, rfl, fst_entryAfter_eq_some.1 ht⟩
    · rintro ⟨P, hP, x, hx, rfl, hschema⟩
      rw [(hentries P hP x hx).1]
      exact fst_entryAfter_eq_some.2 hschema
  · constructor
    · intro hm
      have hin : m ∈ g.memberships := by
        rw [Std.ExtTreeMap.mem_iff_isSome_getElem?, hm]
        rfl
      obtain ⟨P, hP, hid, ht⟩ := hg.memberships m hin
      obtain ⟨x, hx, hxt⟩ := List.mem_map.1 ht
      have he : m = ⟨P.id, x.1.id⟩ := by rw [hid, hxt]
      rw [he, (hentries P (hg.within P hP) x hx).2] at hm
      exact ⟨P, hg.within P hP, x, hx, he, snd_entryAfter_eq_some.1 hm⟩
    · rintro ⟨P, hP, x, hx, rfl, hr⟩
      rw [(hentries P hP x hx).2]
      exact snd_entryAfter_eq_some.2 hr
  · exact Classical.byContradiction fun hne =>
      ht ((hg.mem_subjects_iff_known hall).1 (hg.sound.source_mem t hne))

theorem gathering_empty (p : Projector) (pages : List Page) : Gathering p pages [] .empty where
  sound := Memory.sound_empty
  within _ hP := absurd hP List.not_mem_nil
  nodes _ _ := by simp [Graph.empty]
  entries _ hP := absurd hP List.not_mem_nil
  subjects _ ht := by simp [Graph.empty] at ht
  memberships _ hm := by simp [Graph.empty] at hm
  declared _ hP := absurd hP List.not_mem_nil

/-- Two rounds of saves, in whatever orders, settle every page. -/
theorem gathering_rounds (p : Projector) (ha : Apart pages) {first second : List Page}
    (h₁ : first.Perm pages) (h₂ : second.Perm pages) :
    Gathering p pages (first ++ second) (p.writeAll (first ++ second) .empty) ∧
      ∀ P ∈ pages, Settled p pages P (p.writeAll (first ++ second) .empty) := by
  have hfirst := (gathering_empty p pages).writeAll ha fun P hP => h₁.mem_iff.1 hP
  have hall : ∀ P ∈ pages, P ∈ [] ++ first := fun P hP => h₁.mem_iff.2 hP
  have hin : ∀ P ∈ second, P ∈ pages := fun P hP => h₂.mem_iff.1 hP
  have hrun : p.writeAll (first ++ second) .empty =
      p.writeAll second (p.writeAll first .empty) := List.foldl_append
  rw [hrun]
  exact ⟨hfirst.writeAll ha hin, fun P hP =>
    hfirst.settled_writeAll hall ha hin hP (.inl (h₂.mem_iff.2 hP))⟩

/-- **Two rounds of saves converge**, whatever the order of the pages. On the empty store, saving each
page once, and then each once more, leaves a graph that holds the pages and nothing else, and that does
not depend on either order but for the order of the edges of a subject. A third round changes
nothing, not even the counter. -/
theorem rounds_converge (p : Projector) {pages first second : List Page}
    (hids : (pages.map Page.id).Nodup)
    (hsubjects : pages.Pairwise fun P Q => ∀ t ∈ P.subjects.ids, t ∉ Q.subjects.ids)
    (hc : ∀ P ∈ pages, p.Comparable P) (h₁ : first.Perm pages) (h₂ : second.Perm pages) :
    ∃ reports m, (first ++ second).mapM (p.savePage Memory.store) {} = (.ok reports, m) ∧
      Gathered p pages m.committed ∧
      (∀ (first' second' : List Page) reports' m', first'.Perm pages → second'.Perm pages →
        (first' ++ second').mapM (p.savePage Memory.store) {} = (.ok reports', m') →
        SameButOrder m.committed m'.committed) ∧
      ∀ third : List Page, third.Perm pages → ∃ reports' m',
        third.mapM (p.savePage Memory.store) m = (.ok reports', m') ∧
        m'.committed = m.committed := by
  have ha := Apart.of_pairwise hids hsubjects
  have hgathered : ∀ {a b : List Page}, a.Perm pages → b.Perm pages →
      Gathered p pages (p.writeAll (a ++ b) .empty) := by
    intro a b ha₁ hb₁
    obtain ⟨hg, hs⟩ := gathering_rounds p ha ha₁ hb₁
    exact hg.gathered (fun P hP => List.mem_append_left b (ha₁.mem_iff.2 hP)) hs
  obtain ⟨reports, m, hrun, hm, hf⟩ := p.saves_of_not_failing (m := {}) rfl (first ++ second)
  refine ⟨reports, m, hrun, hm ▸ hgathered h₁ h₂, fun first' second' reports' m' h₁' h₂' hrun' => ?_,
    fun third h₃ => ?_⟩
  · rw [hm, p.committed_of_saves hrun']
    exact (hgathered h₁ h₂).sameButOrder (hgathered h₁' h₂')
  · obtain ⟨hg, hs⟩ := gathering_rounds p ha h₁ h₂
    obtain ⟨reports', m', hrun', hm', -⟩ := p.saves_of_not_failing hf third
    refine ⟨reports', m', hrun', hm'.trans ?_⟩
    rw [hm]
    refine foldl_eq_self fun P hP => ?_
    have hP : P ∈ pages := h₃.mem_iff.1 hP
    have hall : ∀ Q ∈ pages, Q ∈ first ++ second := fun Q hQ =>
      List.mem_append_left second (h₁.mem_iff.2 hQ)
    obtain ⟨d, hd, -⟩ := (hg.shown hall ha hP (hc P hP) (hs P hP)).writeOn (hc P hP)
    exact congrArg Prod.snd hd

end Projector

def friendPages : List Page := [personPage "ann" (some "bob"), personPage "bob" (some "ann")]

/-- Whoever is saved first lacks the edge to the other after the first round. -/
theorem friends_gathered :
    ∃ reports m, (friendPages ++ friendPages.reverse).mapM
        (textProjector.savePage Memory.store) {} = (.ok reports, m) ∧
      Gathered textProjector friendPages m.committed ∧
      (m.committed.relationsFrom ⟨"ann"⟩).map Relation.target = [⟨"bob"⟩] := by
  have hids : (friendPages.map Page.id).Nodup := by decide
  have hsubjects : friendPages.Pairwise fun P Q => ∀ t ∈ P.subjects.ids, t ∉ Q.subjects.ids := by
    decide +kernel
  have hc : ∀ P ∈ friendPages, textProjector.Comparable P := by
    have hp : ∀ P ∈ friendPages, ∀ x ∈ P.subjects.all, ∀ r ∈ x.1.relations.toList,
        r.properties.toList = [] := by
      decide +kernel
    exact fun P hP => comparable_of_no_properties (hp P hP)
  obtain ⟨reports, m, hrun, hm, -⟩ := textProjector.rounds_converge hids hsubjects hc (.refl _)
    friendPages.reverse_perm
  refine ⟨reports, m, hrun, hm, ?_⟩
  have hann : ∃ P ∈ friendPages, ∃ s ∈ textProjector.resolved P.subjects.all, s.id = ⟨"ann"⟩ ∧
      (s.relations.toList.filter (·.target ∈ textProjector.known friendPages)).map
        Relation.target = [⟨"bob"⟩] := by
    decide +kernel
  obtain ⟨P, hP, s, hs, hid, ht⟩ := hann
  have hedges := (hm.edges P hP s hs).map Relation.target
  rw [hid, ht] at hedges
  exact hedges.eq_singleton

end WikiGraph
