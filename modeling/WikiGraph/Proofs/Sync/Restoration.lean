import WikiGraph.Proofs.Sync.Outcome
/-!
# Deleting a page and restoring it

A page that was saved, deleted and saved again shows what it showed: its node, its memberships, and the
nodes and edges of its subjects, which compare equal to what the page declares both times. Subjects that
are also on other pages have stayed in between, and so have the edges of all other subjects, except for
those that led to a subject which only this page had. These go with their target and do not come back,
since nothing that the page declares is about them (`Restored`).
-/
namespace WikiGraph

namespace Graph

variable {g h : Graph} {page : PageId} {t : SubjectId}

instance (g : Graph) (page : PageId) (t : SubjectId) : Decidable (g.OnlyOn page t) :=
  decidable_of_iff (∀ m ∈ g.memberships.keys, m.subject = t → m.page = page) (by
    constructor
    · intro h other hm
      exact h _ (Std.ExtTreeMap.mem_keys.2 hm) rfl
    · rintro h ⟨other, s⟩ hm rfl
      exact h other (Std.ExtTreeMap.mem_keys.1 hm))

/-- Two lists hold the same edges, as the graph compares them. -/
structure SameEdges (edges edges' : List Relation) : Prop where
  left : ∀ e ∈ edges, ∃ e' ∈ edges', e.same e'
  right : ∀ e' ∈ edges', ∃ e ∈ edges, e'.same e

/-- The graph `g` shows a page, and `h` is what is there after the page was deleted and restored. -/
structure Restored (page : Page) (g h : Graph) : Prop where
  pages : h.pages = g.pages
  memberships : h.memberships = g.memberships
  others : ∀ t, t ∉ page.subjects.ids → h.subjects[t]? = g.subjects[t]?
  own : ∀ t ∈ page.subjects.ids, ∃ node node', g.subjects[t]? = some node ∧
    h.subjects[t]? = some node' ∧ node.same node'
  ownEdges : ∀ t ∈ page.subjects.ids, SameEdges (g.relationsFrom t) (h.relationsFrom t)
  /-- Of the edges of other subjects, those to subjects that no other page has are missing. -/
  otherEdges : ∀ s, s ∉ page.subjects.ids → h.relationsFrom s =
    (g.relationsFrom s).filter fun e => ¬(e.target ∈ page.subjects.ids ∧ g.OnlyOn page.id e.target)

end Graph

/-- Edges that show the same relations are the same. -/
theorem ShowsRelations.sameEdges {known known' : SubjectId → Prop}
    {relations edges edges' : List Relation} (h : ShowsRelations known relations edges)
    (h' : ShowsRelations known' relations edges') (hk : ∀ t, known t ↔ known' t) :
    Graph.SameEdges edges edges' where
  left e he := by
    obtain ⟨r, hr, hs, ht⟩ := h.declared e he
    obtain ⟨e', he', hs'⟩ := h'.present r hr ((hk r.target).1 ht)
    exact ⟨e', he', Relation.same_of_same hs hs'⟩
  right e' he' := by
    obtain ⟨r, hr, hs, ht⟩ := h'.declared e' he'
    obtain ⟨e, he, hs'⟩ := h.present r hr ((hk r.target).2 ht)
    exact ⟨e, he, Relation.same_of_same hs hs'⟩

namespace Projector

open WikiGraph.Graph

variable {p : Projector} {page : Page} {g h d k : Graph} {s t : SubjectId}

/-! ## From the deletion to the second save

`h` shows the page, `d` is left when it is deleted, and `k` when it is saved again. -/

section Restoring

variable (hr : ∀ x ∈ page.subjects.all, p.resolves x.1) (ho : Outcome p page g h)

include hr ho

theorem member_iff : (⟨page.id, t⟩ : Membership) ∈ h.memberships ↔ t ∈ page.subjects.ids := by
  constructor
  · intro hm
    exact Classical.byContradiction fun ht => ho.ended t ht hm
  · intro ht
    obtain ⟨x, hx, rfl⟩ := List.mem_map.1 ht
    rw [Std.ExtTreeMap.mem_iff_isSome_getElem?, ho.role hx (hr x hx)]
    rfl

variable (hd : GivenUp page.id [] h d)

include hd

/-- The subjects of the page go unless other pages have them. -/
theorem mem_subjects_deleted (ht : t ∈ h.subjects) :
    t ∈ d.subjects ↔ ¬(t ∈ page.subjects.ids ∧ h.OnlyOn page.id t) := by
  rw [← member_iff hr ho]
  constructor
  · rintro hm ⟨hmember, ha⟩
    exact hd.departed t ⟨hmember, List.not_mem_nil, ha⟩ hm
  · intro hstays
    exact (mem_subjects_congr (hd.stayed t fun hgone => hstays ⟨hgone.member, hgone.alone⟩)).2 ht

variable (ho' : Outcome p page d k)

include ho'

theorem memberships_restored : k.memberships = h.memberships := by
  refine Std.ExtTreeMap.ext_getElem? fun m => ?_
  by_cases e : m.page = page.id
  · obtain ⟨other, t⟩ := m
    obtain rfl : other = page.id := e
    by_cases ht : t ∈ page.subjects.ids
    · obtain ⟨x, hx, rfl⟩ := List.mem_map.1 ht
      rw [ho.role hx (hr x hx), ho'.role hx (hr x hx)]
    · rw [Std.ExtTreeMap.getElem?_eq_none (ho.ended t ht),
        Std.ExtTreeMap.getElem?_eq_none (ho'.ended t ht)]
  · rw [ho'.held m e, hd.held m fun h => absurd h e]

/-- The other subjects stay all the time. -/
theorem subjects_restored (ht : t ∉ page.subjects.ids) :
    d.subjects[t]? = h.subjects[t]? ∧ k.subjects[t]? = h.subjects[t]? := by
  have hdeleted := hd.stayed t fun hgone => ht ((member_iff hr ho).1 hgone.member)
  have hsaved := ho'.stayed t ht fun hgone => hd.ended t List.not_mem_nil hgone.member
  exact ⟨hdeleted, hsaved.trans hdeleted⟩

theorem mem_subjects_restored : t ∈ k.subjects ↔ t ∈ h.subjects := by
  by_cases ht : t ∈ page.subjects.ids
  · obtain ⟨x, hx, rfl⟩ := List.mem_map.1 ht
    have hs := resolved_of_resolves hx (hr x hx)
    exact iff_of_true (ho'.resolved_mem hs) (ho.resolved_mem hs)
  · exact mem_subjects_congr (subjects_restored hr ho hd ho' ht).2

/-- Of the edges of other subjects, those are missing that went with their targets. -/
theorem relationsFrom_restored (hh : h.Sound) (hn : d.Sound) (hs : s ∉ page.subjects.ids) :
    k.relationsFrom s = (h.relationsFrom s).filter fun e =>
      ¬(e.target ∈ page.subjects.ids ∧ h.OnlyOn page.id e.target) := by
  obtain ⟨hdeleted, hsaved⟩ := subjects_restored hr ho hd ho' hs
  have hfirst := hh.relationsFrom_of_stays (hd.edges s) (mem_subjects_congr hdeleted).2
  have hthen := hn.relationsFrom_of_stays (ho'.edges s (not_mem_resolved_of_not_mem_ids hs))
    (mem_subjects_congr (hsaved.trans hdeleted.symm)).2
  rw [hthen, hfirst, List.filter_filter]
  refine List.filter_congr fun e he => ?_
  have htarget := hh.target_mem s e he
  rw [decide_eq_true ((mem_subjects_restored hr ho hd ho').2 htarget), Bool.true_and,
    decide_eq_decide, mem_subjects_deleted hr ho hd htarget]

end Restoring

/-- **A page that is written, deleted and written again** is there as it was, and only the edges from
other subjects to those that it has to itself are missing. -/
theorem restored_writeOn (hg : g.Sound) (hp : g.Populated) (hc : p.Comparable page)
    (hr : ∀ x ∈ page.subjects.all, p.resolves x.1) :
    Restored page (p.writeOn page g).2
      (p.writeOn page ((p.writeOn page g).2.deletePage page.id).2).2 := by
  have ho := outcome_writeOn hg p page
  have hw := writeOn_spec hg p page
  have hd := givenUp_deletePage hw.sound.joined
    (fun m hm => ((populated_writeOn hg hp p page).joins m hm).1) page.id
  have hsound := (restricts_deletePage page.id hw.sound.joined).sound hw.sound
  have ho' := outcome_writeOn hsound p page
  have hw' := writeOn_spec hsound p page
  refine ⟨?_, memberships_restored hr ho hd ho', fun t ht => (subjects_restored hr ho hd ho' ht).2,
    fun t ht => ?_, fun t ht => ?_, fun s hs => relationsFrom_restored hr ho hd ho' hw.sound hsound hs⟩
  · refine Std.ExtTreeMap.ext_getElem? fun id => ?_
    rw [ho'.pages, getElem?_insert_eq]
    by_cases e : id = page.id
    · rw [if_pos e, e, hw.node]
    · rw [if_neg e, getElem?_pages_deletePage e]
  · obtain ⟨x, hx, rfl⟩ := List.mem_map.1 ht
    obtain ⟨schema, hs⟩ := Option.isSome_iff_exists.1 (hr x hx)
    obtain ⟨node, hn, hsame⟩ := hw.same_node hc hx hs
    obtain ⟨node', hn', hsame'⟩ := hw'.same_node hc hx hs
    exact ⟨node, node', hn, hn', SubjectNode.same_of_same hsame hsame'⟩
  · obtain ⟨x, hx, rfl⟩ := List.mem_map.1 ht
    exact (hw.edges x hx (hr x hx) (hc.relations x hx)).sameEdges
      (hw'.edges x hx (hr x hx) (hc.relations x hx))
      fun t => (mem_subjects_restored hr ho hd ho').symm

end Projector

namespace Memory

open WikiGraph.Graph

/-- **Deleting a page and restoring it** gives back everything that the save of the page has left, but
for the edges that led from other subjects to those that no other page has. The three calls succeed
when no relation write is made to fail. -/
theorem Reachable.delete_restores {m : Memory} (h : m.Reachable) {p : Projector} {page : Page}
    (hc : p.Comparable page) (hr : ∀ x ∈ page.subjects.all, p.resolves x.1) :
    (m.failsRelationWrites = false → ∃ saved removed restored m₁ m₂ m₃,
      p.savePage store page m = (.ok saved, m₁) ∧
      deletePage store page.id m₁ = (.ok removed, m₂) ∧
      p.savePage store page m₂ = (.ok restored, m₃)) ∧
    ∀ saved removed restored m₁ m₂ m₃,
      p.savePage store page m = (.ok saved, m₁) →
      deletePage store page.id m₁ = (.ok removed, m₂) →
      p.savePage store page m₂ = (.ok restored, m₃) →
      Restored page m₁.committed m₃.committed := by
  constructor
  · intro hf
    have hsave := p.savePage_of_not_failing hf page
    have hdelete := deletePage_eq page.id (m.finished (p.writeOn page m.committed).2)
    exact ⟨_, _, _, _, _, _, hsave, hdelete, p.savePage_of_not_failing (by exact hf) page⟩
  · intro saved removed restored m₁ m₂ m₃ hsave hdelete hrestore
    obtain rfl := p.committed_of_savePage hsave
    rw [deletePage_eq] at hdelete
    obtain ⟨-, rfl⟩ := Prod.mk.inj hdelete
    obtain rfl := p.committed_of_savePage hrestore
    exact Projector.restored_writeOn h.sound h.tended.populated hc hr

def annNamesBob : Memory :=
  (textProjector.savePage store (personPage "ann" (some "bob"))
    (textProjector.savePage store (personPage "bob" none) {}).2).2

/-- Bob's page is deleted and restored: Bob is there again, but Ann's edge to him is not. -/
theorem bob_restored_without_friend :
    ∃ saved removed restored m₁ m₂ m₃,
      textProjector.savePage store (personPage "bob" none) annNamesBob = (.ok saved, m₁) ∧
      deletePage store ⟨"bob"⟩ m₁ = (.ok removed, m₂) ∧
      textProjector.savePage store (personPage "bob" none) m₂ = (.ok restored, m₃) ∧
      Restored (personPage "bob" none) m₁.committed m₃.committed ∧
      (m₁.committed.relationsFrom ⟨"ann"⟩).map Relation.target = [⟨"bob"⟩] ∧
      m₃.committed.relationsFrom ⟨"ann"⟩ = [] := by
  have hr : annNamesBob.Reachable := .save (.save .empty _ _) _ _
  have hc : textProjector.Comparable (personPage "bob" none) :=
    comparable_of_no_properties (by decide +kernel)
  obtain ⟨hruns, hrestores⟩ := hr.delete_restores hc (by decide +kernel)
  obtain ⟨saved, removed, restored, m₁, m₂, m₃, hsave, hdelete, hrestore⟩ :=
    hruns (by decide +kernel)
  have hrestored := hrestores _ _ _ _ _ _ hsave hdelete hrestore
  refine ⟨saved, removed, restored, m₁, m₂, m₃, hsave, hdelete, hrestore, hrestored, ?_, ?_⟩
  · obtain rfl := textProjector.committed_of_savePage hsave
    decide +kernel
  · rw [hrestored.otherEdges ⟨"ann"⟩ (by decide +kernel)]
    obtain rfl := textProjector.committed_of_savePage hsave
    decide +kernel

end Memory
end WikiGraph
