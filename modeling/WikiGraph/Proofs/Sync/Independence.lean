import WikiGraph.Proofs.Graph.Integrity
import WikiGraph.Proofs.Sync.Outcome
/-!
# Saves of independent pages

A save changes what the graph holds of a subject only if the page declares or has the subject
(`Page.Touches`), and what it makes of it depends on what the graph held of that subject alone
(`Outcome.agreeAt`). So two saves that touch no subject in common can be made in either order, as far
as nodes and memberships go.

Edges are not local in that way: a save takes out the edges that lead to subjects it gives up, from
whatever subject they start. For edges of a subject that one of the two saves brings in line it does not
matter whether they are taken out before or after, since no declared relation leads to a subject that
the other save touches (`inLine_filter`). Edges of all other subjects are filtered by both.
-/
namespace WikiGraph

/-- A save of the page may write the subject or give it up: the page declares it or has it. -/
def Page.Touches (page : Page) (g : Graph) (t : SubjectId) : Prop :=
  t ∈ page.subjects.ids ∨ (⟨page.id, t⟩ : Membership) ∈ g.memberships

/-- Two pages have no subject in common, and declare no relation to a subject of the other one. -/
structure Independent (g : Graph) (P Q : Page) : Prop where
  ids : P.id ≠ Q.id
  apart : ∀ t, P.Touches g t → ¬Q.Touches g t
  left : ∀ x ∈ P.subjects.all, ∀ r ∈ x.1.relations.toList, ¬Q.Touches g r.target
  right : ∀ x ∈ Q.subjects.all, ∀ r ∈ x.1.relations.toList, ¬P.Touches g r.target

theorem Independent.symm {g : Graph} {P Q : Page} (hi : Independent g P Q) : Independent g Q P :=
  ⟨hi.ids.symm, fun t hq hp => hi.apart t hp hq, hi.right, hi.left⟩

namespace Graph

variable {g h k : Graph} {s t : SubjectId}

/-- Two graphs hold the same of a subject: its node and its memberships with their marks. -/
structure AgreeAt (t : SubjectId) (g h : Graph) : Prop where
  node : h.subjects[t]? = g.subjects[t]?
  roles : ∀ page,
    h.memberships[(⟨page, t⟩ : Membership)]? = g.memberships[(⟨page, t⟩ : Membership)]?

theorem AgreeAt.symm (a : AgreeAt t g h) : AgreeAt t h g :=
  ⟨a.node.symm, fun page => (a.roles page).symm⟩

theorem AgreeAt.trans (a : AgreeAt t g h) (b : AgreeAt t h k) : AgreeAt t g k :=
  ⟨b.node.trans a.node, fun page => (b.roles page).trans (a.roles page)⟩

theorem AgreeAt.mem_iff (a : AgreeAt t g h) : t ∈ h.subjects ↔ t ∈ g.subjects :=
  mem_subjects_congr a.node

theorem AgreeAt.departs_iff (a : AgreeAt t g h) {page : PageId} {keep : List SubjectId} :
    h.Departs page keep t ↔ g.Departs page keep t := by
  have hm : ∀ other, (⟨other, t⟩ : Membership) ∈ h.memberships ↔
      (⟨other, t⟩ : Membership) ∈ g.memberships := fun other => mem_memberships_congr (a.roles other)
  constructor
  · rintro ⟨hmem, hk, ho⟩
    exact ⟨(hm page).1 hmem, hk, fun other h => ho other ((hm other).2 h)⟩
  · rintro ⟨hmem, hk, ho⟩
    exact ⟨(hm page).2 hmem, hk, fun other h => ho other ((hm other).1 h)⟩

/-- Two graphs hold the same, whatever their counters say. -/
structure SameContents (g h : Graph) : Prop extends SameNodes g h where
  relations : h.relations = g.relations

/-- Graphs that keep no empty list of edges hold the same when each subject has the same. -/
theorem Intact.sameContents (hg : g.Intact) (hh : h.Intact) (hpages : h.pages = g.pages)
    (ha : ∀ t, AgreeAt t g h) (he : ∀ s, h.relationsFrom s = g.relationsFrom s) :
    SameContents g h where
  pages := hpages
  subjects := Std.ExtTreeMap.ext_getElem? fun t => (ha t).node
  memberships := Std.ExtTreeMap.ext_getElem? fun m => (ha m.subject).roles m.page
  relations := Std.ExtTreeMap.ext_getElem? fun s => by
    rw [hg.getElem?_relations, hh.getElem?_relations, he]

theorem Intact.act (hg : g.Intact) (source : SubjectId) (a : RelationAction) :
    (a.act source g).2.Intact := by
  cases a with
  | create r => exact hg.createRelation source r
  | update r => exact hg.updateRelation source r
  | replace r => exact (hg.deleteRelation source r.id).createRelation source r
  | delete id => exact hg.deleteRelation source id

theorem Intact.reconcile (hg : g.Intact) (source : SubjectId) (target : RelationList) :
    (g.reconcile source target).2.Intact :=
  List.foldlRecOn (motive := fun s : RelationChanges × Graph => s.2.Intact) _ _ hg
    fun _ hs a _ => hs.act source a

end Graph

namespace Projector

open WikiGraph.Graph

variable {p : Projector} {page : Page} {g h : Graph} {t : SubjectId}

theorem intact_place (hg : g.Intact) (page : PageId) (x : Subject × Bool) :
    (p.place page g x).Intact := by
  unfold place
  split
  · exact (hg.upsertSubject _).linkSubject page x.1.id x.2
  · exact hg.setMain page x.1.id x.2

theorem intact_writeOn (hg : g.Intact) (p : Projector) (page : Page) :
    (p.writeOn page g).2.Intact := by
  have hplaced : (p.placedOn page g).Intact :=
    List.foldlRecOn _ _ (hg.upsertPage page.node) fun _ hh x _ => intact_place hh page.id x
  have hspread : (p.spread page g).2.Intact :=
    List.foldlRecOn (motive := fun s : RelationChanges × Graph => s.2.Intact) _ _ hplaced
      fun _ hs s _ => hs.reconcile s.id s.relations
  exact hspread.detachExcept page.id page.subjects.ids

/-! ## What a save does to one subject -/

theorem Outcome.agreeAt_of_not_touches (ho : Outcome p page g h) (ht : ¬page.Touches g t) :
    AgreeAt t g h := by
  obtain ⟨hids, hmem⟩ := not_or.1 ht
  refine ⟨ho.stayed t hids fun hd => hmem hd.member, fun other => ?_⟩
  by_cases e : other = page.id
  · rw [e, Std.ExtTreeMap.getElem?_eq_none (ho.ended t hids), Std.ExtTreeMap.getElem?_eq_none hmem]
  · exact ho.held ⟨other, t⟩ e

/-- What a save makes of a subject depends on what the graph held of that subject. -/
theorem Outcome.agreeAt {g' h' : Graph} (ho : Outcome p page g h) (ho' : Outcome p page g' h')
    (ha : AgreeAt t g g') : AgreeAt t h h' := by
  by_cases ht : t ∈ page.subjects.ids
  · obtain ⟨x, hx, rfl⟩ := List.mem_map.1 ht
    have hown : entryOn page.id h' x.1.id = entryOn page.id h x.1.id := by
      have hbefore : entryOn page.id g' x.1.id = entryOn page.id g x.1.id :=
        Prod.ext ha.node (ha.roles page.id)
      rw [ho'.own x hx, ho.own x hx, hbefore]
    refine ⟨congrArg Prod.fst hown, fun other => ?_⟩
    by_cases e : other = page.id
    · exact e ▸ congrArg Prod.snd hown
    · rw [ho'.held ⟨other, x.1.id⟩ e, ho.held ⟨other, x.1.id⟩ e]
      exact ha.roles other
  · constructor
    · by_cases hd : g.Departs page.id page.subjects.ids t
      · rw [Std.ExtTreeMap.getElem?_eq_none (ho.departed t hd),
          Std.ExtTreeMap.getElem?_eq_none (ho'.departed t (ha.departs_iff.2 hd))]
      · rw [ho.stayed t ht hd, ho'.stayed t ht (mt ha.departs_iff.1 hd), ha.node]
    · intro other
      by_cases e : other = page.id
      · rw [e, Std.ExtTreeMap.getElem?_eq_none (ho.ended t ht),
          Std.ExtTreeMap.getElem?_eq_none (ho'.ended t ht)]
      · rw [ho'.held ⟨other, t⟩ e, ho.held ⟨other, t⟩ e]
        exact ha.roles other

theorem Outcome.touches_iff (ho : Outcome p page g h) {Q : Page} (hne : page.id ≠ Q.id) :
    Q.Touches h t ↔ Q.Touches g t :=
  or_congr_right (mem_memberships_congr (ho.held ⟨Q.id, t⟩ hne.symm))

/-! ## Two saves

`h` and `k` come from saving `P` and then `Q`, and `h'` and `k'` from saving `Q` and then `P`. -/

section Twice

variable {P Q : Page} {k h' k' : Graph} {s : SubjectId}

/-- A subject that the second page does not touch is as the save of the first page leaves it, whether
that is made first or last. -/
theorem agreeAt_of_not_touches_second (hne : P.id ≠ Q.id) (hP : Outcome p P g h)
    (hQ : Outcome p Q h k) (hQ' : Outcome p Q g h') (hP' : Outcome p P h' k')
    (ht : ¬Q.Touches g t) : AgreeAt t h k ∧ AgreeAt t h k' :=
  ⟨hQ.agreeAt_of_not_touches (mt (hP.touches_iff hne).1 ht),
    hP.agreeAt hP' (hQ'.agreeAt_of_not_touches ht)⟩

theorem agreeAt_after_both (hi : Independent g P Q) (hP : Outcome p P g h) (hQ : Outcome p Q h k)
    (hQ' : Outcome p Q g h') (hP' : Outcome p P h' k') (t : SubjectId) : AgreeAt t k k' := by
  by_cases ht : Q.Touches g t
  · have ht' : ¬P.Touches g t := fun h => hi.apart t h ht
    obtain ⟨hk', hk⟩ := agreeAt_of_not_touches_second hi.ids.symm hQ' hP' hP hQ ht'
    exact hk.symm.trans hk'
  · obtain ⟨hk, hk'⟩ := agreeAt_of_not_touches_second hi.ids hP hQ hQ' hP' ht
    exact hk.symm.trans hk'

/-- The second save does not bring back what the first one gave up. -/
theorem mem_between (hi : Independent g P Q) (hP : Outcome p P g h) (hQ : Outcome p Q h k)
    (hg : t ∈ g.subjects) (hk : t ∈ k.subjects) : t ∈ h.subjects := by
  by_cases ht : P.Touches g t
  · have hn : ¬Q.Touches h t := mt (hP.touches_iff hi.ids).1 (hi.apart t ht)
    exact (hQ.agreeAt_of_not_touches hn).mem_iff.1 hk
  · exact (hP.agreeAt_of_not_touches ht).mem_iff.2 hg

/-- The edges of a subject that neither save writes. -/
theorem relationsFrom_of_neither (hg : g.Sound) (hi : Independent g P Q) (hP : Outcome p P g h)
    (hQ : Outcome p Q h k) (hs : s ∉ (p.resolved P.subjects.all).map Subject.id)
    (hs' : s ∉ (p.resolved Q.subjects.all).map Subject.id) :
    k.relationsFrom s =
      if s ∈ k.subjects then (g.relationsFrom s).filter (·.target ∈ k.subjects) else [] := by
  rw [hQ.edges s hs', hP.edges s hs]
  by_cases hk : s ∈ k.subjects
  · rw [if_pos hk, if_pos hk]
    by_cases hempty : g.relationsFrom s = []
    · simp [hempty]
    · rw [if_pos (mem_between hi hP hQ (hg.source_mem s hempty) hk), List.filter_filter]
      refine List.filter_congr fun e he => ?_
      have hmem := mem_between hi hP hQ (hg.target_mem s e he)
      by_cases ht : e.target ∈ k.subjects
      · simp [ht, hmem ht]
      · simp [ht]
  · rw [if_neg hk, if_neg hk]

/-- Declared relations of the first page lead to subjects that the second one does not touch. -/
theorem not_touches_of_mem_inLine (hi : Independent g P Q) {x : Subject}
    (hx : x ∈ p.resolved P.subjects.all) {edges : List Relation} {e : Relation}
    (he : e ∈ inLine x.relations.toList edges) : ¬Q.Touches g e.target := by
  obtain ⟨r, hr, -, ht⟩ := declared_of_mem_inLine he
  obtain ⟨y, hy, rfl⟩ := List.mem_map.1 (mem_resolved.1 hx).1
  exact ht ▸ hi.left y hy r hr

/-- The edges of a subject that the first save brings in line: the second one takes none of them
out. -/
theorem relationsFrom_of_first (hi : Independent g P Q) (hP : Outcome p P g h)
    (hQ : Outcome p Q h k) {x : Subject} (hx : x ∈ p.resolved P.subjects.all) :
    k.relationsFrom x.id =
      (inLine x.relations.toList (g.relationsFrom x.id)).filter (·.target ∈ k.subjects) := by
  have hself : ¬Q.Touches g x.id := hi.apart x.id (.inl (mem_ids_of_mem_resolved hx))
  have hstays : ∀ {t}, ¬Q.Touches g t → (t ∈ k.subjects ↔ t ∈ h.subjects) := fun ht =>
    (hQ.agreeAt_of_not_touches (mt (hP.touches_iff hi.ids).1 ht)).mem_iff
  rw [hQ.edges x.id (not_mem_resolved_of_not_mem_ids fun h => hself (.inl h)),
    if_pos ((hstays hself).2 (hP.resolved_mem hx)), hP.aligned x hx, List.filter_filter]
  refine List.filter_congr fun e he => ?_
  simp [hstays (not_touches_of_mem_inLine hi hx he)]

/-- The edges of a subject that the second save brings in line: those that the first one has taken
out join no declared ends. -/
theorem relationsFrom_of_second (hg : g.Sound) (hi : Independent g P Q) (hQ' : Outcome p Q g h')
    (hP' : Outcome p P h' k') {x : Subject} (hx : x ∈ p.resolved P.subjects.all) :
    k'.relationsFrom x.id =
      (inLine x.relations.toList (g.relationsFrom x.id)).filter (·.target ∈ k'.subjects) := by
  have hself : ¬Q.Touches g x.id := hi.apart x.id (.inl (mem_ids_of_mem_resolved hx))
  have hstays : ∀ {t}, ¬Q.Touches g t → t ∈ g.subjects → t ∈ h'.subjects := fun ht hm =>
    (hQ'.agreeAt_of_not_touches ht).mem_iff.2 hm
  have hbefore := hg.relationsFrom_of_stays
    (hQ'.edges x.id (not_mem_resolved_of_not_mem_ids fun h => hself (.inl h))) (hstays hself)
  rw [hP'.aligned x hx, hbefore, inLine_filter]
  intro e he r hr ht
  obtain ⟨y, hy, rfl⟩ := List.mem_map.1 (mem_resolved.1 hx).1
  have hn : ¬Q.Touches g e.target := ht ▸ hi.left y hy r hr
  exact decide_eq_true (hstays hn (hg.target_mem _ e he))

end Twice

/-- **Two pages that are independent** can be written in either order. -/
theorem sameContents_writeOn (hg : g.Sound) (hn : g.Intact) (p : Projector) {P Q : Page}
    (hi : Independent g P Q) :
    SameContents (p.writeOn Q (p.writeOn P g).2).2 (p.writeOn P (p.writeOn Q g).2).2 := by
  have hP := outcome_writeOn hg p P
  have hQ := outcome_writeOn (writeOn_spec hg p P).sound p Q
  have hQ' := outcome_writeOn hg p Q
  have hP' := outcome_writeOn (writeOn_spec hg p Q).sound p P
  have hagree := agreeAt_after_both hi hP hQ hQ' hP'
  have hsubjects : (p.writeOn P (p.writeOn Q g).2).2.subjects =
      (p.writeOn Q (p.writeOn P g).2).2.subjects :=
    Std.ExtTreeMap.ext_getElem? fun t => (hagree t).node
  refine (intact_writeOn (intact_writeOn hn p P) p Q).sameContents
    (intact_writeOn (intact_writeOn hn p Q) p P) ?_ hagree fun s => ?_
  · refine Std.ExtTreeMap.ext_getElem? fun id => ?_
    rw [hQ.pages, hP.pages, hP'.pages, hQ'.pages, getElem?_insert_eq, getElem?_insert_eq,
      getElem?_insert_eq, getElem?_insert_eq]
    by_cases e : id = P.id
    · rw [if_pos e, if_neg (e ▸ hi.ids), if_pos e]
    · rw [if_neg e, if_neg e]
  · by_cases hs : s ∈ (p.resolved P.subjects.all).map Subject.id
    · obtain ⟨x, hx, rfl⟩ := List.mem_map.1 hs
      rw [relationsFrom_of_first hi hP hQ hx, relationsFrom_of_second hg hi hQ' hP' hx, hsubjects]
    · by_cases hs' : s ∈ (p.resolved Q.subjects.all).map Subject.id
      · obtain ⟨x, hx, rfl⟩ := List.mem_map.1 hs'
        rw [relationsFrom_of_first hi.symm hQ' hP' hx, relationsFrom_of_second hg hi.symm hP hQ hx,
          hsubjects]
      · rw [relationsFrom_of_neither hg hi hP hQ hs hs',
          relationsFrom_of_neither hg hi.symm hQ' hP' hs' hs, hsubjects]

end Projector

namespace Memory

open WikiGraph.Graph

theorem Reachable.intact {m : Memory} (h : m.Reachable) : m.committed.Intact :=
  h.invariant intact_empty (fun p page _ hg => Projector.intact_writeOn hg p page)
    (fun page _ hg => hg.deletePage page) (fun source target _ hg => hg.reconcile source target)

/-- **Saves of independent pages commute.** Made in either order on a reachable store, two such saves
leave the same pages, subjects, memberships and relations. Both orders succeed when no relation write is
made to fail. -/
theorem Reachable.saves_commute {m : Memory} (h : m.Reachable) (p : Projector) {P Q : Page}
    (hi : Independent m.committed P Q) :
    (m.failsRelationWrites = false → ∃ reports reports' m₁ m₂,
      [P, Q].mapM (p.savePage store) m = (.ok reports, m₁) ∧
      [Q, P].mapM (p.savePage store) m = (.ok reports', m₂)) ∧
    ∀ reports reports' m₁ m₂, [P, Q].mapM (p.savePage store) m = (.ok reports, m₁) →
      [Q, P].mapM (p.savePage store) m = (.ok reports', m₂) →
      SameContents m₁.committed m₂.committed := by
  constructor
  · intro hf
    obtain ⟨reports, m₁, hrun, -⟩ := p.saves_of_not_failing hf [P, Q]
    obtain ⟨reports', m₂, hrun', -⟩ := p.saves_of_not_failing hf [Q, P]
    exact ⟨reports, reports', m₁, m₂, hrun, hrun'⟩
  · intro reports reports' m₁ m₂ hrun hrun'
    rw [p.committed_of_saves hrun, p.committed_of_saves hrun']
    exact Projector.sameContents_writeOn h.sound h.intact p hi

def annNamesCarl : Memory :=
  ([personPage "bob" none, personPage "carl" none, personPage "ann" (some "carl")].foldl
    (fun m page => (textProjector.savePage store page m).2) {})

/-- Carl leaves his page, and Ann names Bob instead. If Carl leaves first, the edge to him goes with
him and another is created; otherwise it is replaced. -/
theorem friend_replaced_or_gone :
    ∃ reports reports' m₁ m₂,
      [personPage "ann" (some "bob"), { personPage "carl" none with subjects := {} }].mapM
        (textProjector.savePage store) annNamesCarl = (.ok reports, m₁) ∧
      [{ personPage "carl" none with subjects := {} }, personPage "ann" (some "bob")].mapM
        (textProjector.savePage store) annNamesCarl = (.ok reports', m₂) ∧
      SameContents m₁.committed m₂.committed ∧
      (m₁.committed.relationsFrom ⟨"ann"⟩).map Relation.target = [⟨"bob"⟩] := by
  have hr : annNamesCarl.Reachable := .save (.save (.save .empty _ _) _ _) _ _
  -- Every subject is on the page that is named like it.
  have hmembers : ∀ m ∈ annNamesCarl.committed.memberships.keys, m.page.text = m.subject.text := by
    decide +kernel
  have hann : ∀ t, (personPage "ann" (some "bob")).Touches annNamesCarl.committed t →
      t = ⟨"ann"⟩ := by
    rintro t (hm | hm)
    · exact List.mem_singleton.1 hm
    · exact congrArg Identifier.mk (hmembers _ (Std.ExtTreeMap.mem_keys.2 hm)).symm
  have hcarl : ∀ t, Page.Touches { personPage "carl" none with subjects := {} }
      annNamesCarl.committed t → t = ⟨"carl"⟩ := by
    rintro t (hm | hm)
    · cases hm
    · exact congrArg Identifier.mk (hmembers _ (Std.ExtTreeMap.mem_keys.2 hm)).symm
  have htargets : ∀ x ∈ (personPage "ann" (some "bob")).subjects.all,
      ∀ r ∈ x.1.relations.toList, r.target ≠ ⟨"carl"⟩ := by
    decide +kernel
  have hi : Independent annNamesCarl.committed (personPage "ann" (some "bob"))
      { personPage "carl" none with subjects := {} } :=
    ⟨by decide, fun t hP hQ => absurd ((hann t hP).symm.trans (hcarl t hQ)) (by decide),
      fun x hx r hr ht => htargets x hx r hr (hcarl _ ht), fun x hx => nomatch hx⟩
  obtain ⟨hruns, hsame⟩ := hr.saves_commute textProjector hi
  obtain ⟨reports, reports', m₁, m₂, hrun, hrun'⟩ := hruns (by decide +kernel)
  refine ⟨reports, reports', m₁, m₂, hrun, hrun', hsame _ _ _ _ hrun hrun', ?_⟩
  rw [textProjector.committed_of_saves hrun]
  decide +kernel

end Memory
end WikiGraph
