import WikiGraph.Proofs.Graph.Population
/-!
# Subjects that leave with a page

When a page gives up subjects, because they left the page or because the page is deleted, exactly
those of them go that no other page has (`Departs`). `GivenUp` says what is left of the graph then:
every other subject with its node, the edges between subjects that are left, in the order they had,
and all memberships but the ones that ended. Ending memberships and deleting a page both come to
that (`givenUp_detachExcept`, `givenUp_deletePage`).
-/
namespace WikiGraph
namespace Graph

variable {g h : Graph} {page : PageId} {keep : List SubjectId} {t : SubjectId}

def OnlyOn (g : Graph) (page : PageId) (t : SubjectId) : Prop :=
  ∀ other, (⟨other, t⟩ : Membership) ∈ g.memberships → other = page

/-- A page gives up a subject that no other page has. -/
structure Departs (g : Graph) (page : PageId) (keep : List SubjectId) (t : SubjectId) : Prop where
  member : (⟨page, t⟩ : Membership) ∈ g.memberships
  dropped : t ∉ keep
  alone : g.OnlyOn page t

/-- Only memberships of the subject on other pages matter. -/
theorem onlyOn_congr
    (hm : ∀ other, other ≠ page →
      ((⟨other, t⟩ : Membership) ∈ h.memberships ↔ (⟨other, t⟩ : Membership) ∈ g.memberships)) :
    h.OnlyOn page t ↔ g.OnlyOn page t := by
  constructor
  · intro ho other hmem
    by_cases e : other = page
    · exact e
    · exact ho other ((hm other e).2 hmem)
  · intro ho other hmem
    by_cases e : other = page
    · exact e
    · exact ho other ((hm other e).1 hmem)

theorem mem_memberships_congr {m : Membership} (e : h.memberships[m]? = g.memberships[m]?) :
    m ∈ h.memberships ↔ m ∈ g.memberships := by
  rw [Std.ExtTreeMap.mem_iff_isSome_getElem?, e, ← Std.ExtTreeMap.mem_iff_isSome_getElem?]

theorem mem_subjects_congr (e : h.subjects[t]? = g.subjects[t]?) :
    t ∈ h.subjects ↔ t ∈ g.subjects := by
  rw [Std.ExtTreeMap.mem_iff_isSome_getElem?, e, ← Std.ExtTreeMap.mem_iff_isSome_getElem?]

/-- A subject is deleted as an orphan when its page was the only one that had it. -/
theorem isOwned_iff_of_not_mem (hn : (⟨page, t⟩ : Membership) ∉ g.memberships) :
    g.isOwned t ↔ ¬g.OnlyOn page t := by
  rw [isOwned_iff]
  constructor
  · rintro ⟨other, hm⟩ ho
    exact hn (ho other hm ▸ hm)
  · intro ho
    obtain ⟨other, h⟩ := Classical.not_forall.1 ho
    exact ⟨other, (Classical.not_imp.1 h).1⟩

/-! ## Ending memberships one by one -/

/-- The memberships of a subject on other pages are not touched. -/
theorem onlyOn_detach (s : SubjectId) : (g.detach page s).OnlyOn page t ↔ g.OnlyOn page t := by
  refine onlyOn_congr fun other ho => mem_memberships_congr ?_
  rw [memberships_detach, if_neg]
  intro e
  exact ho (Membership.mk.inj e).1

theorem mem_subjects_detach {s : SubjectId} :
    t ∈ (g.detach page s).subjects ↔ t ∈ g.subjects ∧ ¬(t = s ∧ g.OnlyOn page t) := by
  have hd : t ∈ (g.detach page s).subjects ↔ t ∈ g.subjects ∧
      (t = s → isOwned { g with memberships := g.memberships.erase ⟨page, s⟩ } s) :=
    mem_subjects_deleteIfOrphan
  rw [hd, not_and]
  refine and_congr_right fun _ => forall_congr' fun e => ?_
  subst e
  have hgone : (⟨page, t⟩ : Membership) ∉ g.memberships.erase ⟨page, t⟩ := fun hm =>
    (mem_erase_iff_ne.1 hm).1 rfl
  rw [isOwned_iff_of_not_mem hgone]
  refine not_congr (onlyOn_congr fun other ho => ?_)
  have hne : (⟨other, t⟩ : Membership) ≠ ⟨page, t⟩ := fun e => ho (Membership.mk.inj e).1
  rw [mem_erase_iff_ne, and_iff_right hne]

/-- **Of the subjects given up**, those go that the page had to itself, whatever the order. -/
theorem mem_subjects_detach_foldl {subjects : List SubjectId} :
    t ∈ (subjects.foldl (detach page) g).subjects ↔
      t ∈ g.subjects ∧ ¬(t ∈ subjects ∧ g.OnlyOn page t) := by
  induction subjects generalizing g with
  | nil => simp
  | cons s rest ih =>
    rw [List.foldl_cons, ih, mem_subjects_detach, onlyOn_detach, List.mem_cons]
    by_cases ho : g.OnlyOn page t <;> simp [ho, and_assoc, not_or]

/-! ## Deleting orphans one by one -/

theorem mem_subjects_deleteIfOrphan_foldl {subjects : List SubjectId} :
    t ∈ (subjects.foldl (fun g s => g.deleteIfOrphan s) g).subjects ↔
      t ∈ g.subjects ∧ (t ∈ subjects → g.isOwned t) := by
  induction subjects generalizing g with
  | nil => simp
  | cons s rest ih =>
    rw [List.foldl_cons, ih, mem_subjects_deleteIfOrphan,
      isOwned_congr (memberships_deleteIfOrphan s g), List.mem_cons]
    by_cases e : t = s
    · subst e
      simp +contextual [and_assoc]
    · simp [e]

/-! ## What is left -/

/-- A page has given up the subjects it does not keep: those that no other page has are gone with the
edges at them, and all else is as it was. -/
structure GivenUp (page : PageId) (keep : List SubjectId) (g h : Graph) : Prop where
  departed : ∀ t, g.Departs page keep t → t ∉ h.subjects
  stayed : ∀ t, ¬g.Departs page keep t → h.subjects[t]? = g.subjects[t]?
  edges : ∀ s, h.relationsFrom s =
    if s ∈ h.subjects then (g.relationsFrom s).filter (·.target ∈ h.subjects) else []
  ended : ∀ t, t ∉ keep → (⟨page, t⟩ : Membership) ∉ h.memberships
  held : ∀ m : Membership, (m.page = page → m.subject ∈ keep) →
    h.memberships[m]? = g.memberships[m]?

/-- A restriction is given by the subjects that are left. -/
theorem Restricts.stayed (hr : Restricts g h) (hm : t ∈ h.subjects ↔ t ∈ g.subjects) :
    h.subjects[t]? = g.subjects[t]? := by
  by_cases ht : t ∈ h.subjects
  · exact hr.subjects t ht
  · rw [Std.ExtTreeMap.getElem?_eq_none ht, Std.ExtTreeMap.getElem?_eq_none (mt hm.2 ht)]

/-- A subject that stays keeps its edges to subjects that stay. -/
theorem Sound.relationsFrom_of_stays {s : SubjectId} (hg : g.Sound)
    (he : h.relationsFrom s =
      if s ∈ h.subjects then (g.relationsFrom s).filter (·.target ∈ h.subjects) else [])
    (hs : s ∈ g.subjects → s ∈ h.subjects) :
    h.relationsFrom s = (g.relationsFrom s).filter (·.target ∈ h.subjects) := by
  rw [he]
  by_cases hempty : g.relationsFrom s = []
  · simp [hempty]
  · rw [if_pos (hs (hg.source_mem s hempty))]

theorem givenUp_detachExcept (hg : g.Joined) (page : PageId) (keep : List SubjectId) :
    GivenUp page keep g (g.detachExcept page keep).2 := by
  obtain ⟨hr, hd⟩ := detachExcept_spec page keep hg
  have hmem : ∀ t, t ∈ (g.detachExcept page keep).2.subjects ↔
      t ∈ g.subjects ∧ ¬g.Departs page keep t := by
    intro t
    have h : t ∈ (g.detachExcept page keep).2.subjects ↔
        t ∈ g.subjects ∧ ¬(t ∈ g.stale page keep ∧ g.OnlyOn page t) := mem_subjects_detach_foldl
    rw [h, mem_stale, and_assoc]
    exact and_congr_right fun _ => not_congr
      ⟨fun ⟨hm, hk, ho⟩ => ⟨hm, hk, ho⟩, fun hd => ⟨hd.member, hd.dropped, hd.alone⟩⟩
  refine ⟨fun t ht hm => ((hmem t).1 hm).2 ht, fun t ht => hr.stayed ?_, hr.edges,
    fun t ht hm => ht (mem_keep_of_detachExcept hm), fun m hm => hd.held m fun e hs => ?_⟩
  · simp [hmem, ht]
  · exact (mem_stale.1 hs).2 (hm e)

theorem isOwned_withoutPage :
    (g.withoutPage page).isOwned t ↔ ¬g.OnlyOn page t := by
  have hn : (⟨page, t⟩ : Membership) ∉ (g.withoutPage page).memberships := fun hm =>
    (mem_memberships_withoutPage.1 hm).1 rfl
  rw [isOwned_iff_of_not_mem hn]
  refine not_congr (onlyOn_congr fun other ho => ?_)
  simp [mem_memberships_withoutPage, ho]

theorem givenUp_deletePage (hg : g.Joined) (hp : ∀ m ∈ g.memberships, m.page ∈ g.pages)
    (page : PageId) :
    GivenUp page [] g (g.deletePage page).2 := by
  have hr := restricts_deletePage page hg
  by_cases hpage : page ∈ g.pages
  · have hmem : ∀ t, t ∈ (g.deletePage page).2.subjects ↔
        t ∈ g.subjects ∧ ¬g.Departs page [] t := by
      intro t
      rw [deletePage_snd hpage, mem_subjects_deleteIfOrphan_foldl, mem_stale, isOwned_withoutPage]
      refine and_congr_right fun _ => ⟨fun h hd => h ⟨hd.member, hd.dropped⟩ hd.alone, ?_⟩
      exact fun h hs ho => h ⟨hs.1, hs.2, ho⟩
    have hheld : ∀ m : Membership, (g.deletePage page).2.memberships[m]? =
        if m.page = page then none else g.memberships[m]? := by
      intro m
      rw [deletePage_snd hpage, (deleteIfOrphan_foldl_frame _ _).2, memberships_withoutPage]
    refine ⟨fun t ht hm => ((hmem t).1 hm).2 ht, fun t ht => hr.stayed ?_, hr.edges,
      fun t _ => ?_, fun m hm => ?_⟩
    · simp [hmem, ht]
    · rw [Std.ExtTreeMap.mem_iff_isSome_getElem?, hheld, if_pos rfl]
      exact Bool.false_ne_true
    · rw [hheld, if_neg fun e => List.not_mem_nil (hm e)]
  · -- A page that is not there has no members, so nothing is given up.
    have hn : ∀ t, (⟨page, t⟩ : Membership) ∉ g.memberships := fun t hm =>
      hpage (hp _ hm)
    rw [deletePage_of_not_mem hpage] at hr ⊢
    exact ⟨fun t ht => absurd ht.member (hn t), fun _ _ => rfl, hr.edges, fun t _ => hn t,
      fun _ _ => rfl⟩

theorem getElem?_pages_deletePage {other : PageId} (ho : other ≠ page) :
    (g.deletePage page).2.pages[other]? = g.pages[other]? := by
  by_cases hp : page ∈ g.pages
  · rw [deletePage_snd hp, (deleteIfOrphan_foldl_frame _ _).1]
    exact (getElem?_erase_eq _ _ _).trans (if_neg ho)
  · rw [deletePage_of_not_mem hp]

/-! ## Lost subjects -/

/-- A subject that was in a graph and is no longer. -/
def Lost (g h : Graph) (t : SubjectId) : Prop := t ∈ g.subjects ∧ t ∉ h.subjects

instance (g h : Graph) (t : SubjectId) : Decidable (Lost g h t) :=
  inferInstanceAs (Decidable (_ ∧ _))

theorem departs_iff :
    g.Departs page keep t ↔ (⟨page, t⟩ : Membership) ∈ g.memberships ∧ t ∉ keep ∧
      ∀ other, other ≠ page → (⟨other, t⟩ : Membership) ∉ g.memberships := by
  constructor
  · rintro ⟨hm, hk, ho⟩
    exact ⟨hm, hk, fun other hne hmem => hne (ho other hmem)⟩
  · rintro ⟨hm, hk, ho⟩
    exact ⟨hm, hk, fun other hmem => Classical.byContradiction fun hne => ho other hne hmem⟩

/-- Subjects that stay where they were cannot be lost. -/
theorem not_lost_of_eq (he : h.subjects[t]? = g.subjects[t]?) : ¬Lost g h t := by
  rintro ⟨hg, hh⟩
  rw [Std.ExtTreeMap.mem_iff_isSome_getElem?] at hg hh
  exact hh (he ▸ hg)

/-- Where members are there, the subjects lost are those that depart. -/
theorem GivenUp.lost_iff (hh : GivenUp page keep g h)
    (hm : ∀ m ∈ g.memberships, m.subject ∈ g.subjects) (t : SubjectId) :
    Lost g h t ↔ g.Departs page keep t := by
  constructor
  · intro hl
    exact Classical.byContradiction fun hd => not_lost_of_eq (hh.stayed t hd) hl
  · intro hd
    exact ⟨hm _ hd.member, hh.departed t hd⟩

/-- Both ends of an edge are there, so an edge goes when one of them is lost. -/
theorem relationsFrom_eq_filter_lost {s : SubjectId} (hg : g.Joined)
    (he : h.relationsFrom s =
      if s ∈ h.subjects then (g.relationsFrom s).filter (·.target ∈ h.subjects) else []) :
    h.relationsFrom s =
      (g.relationsFrom s).filter fun e => ¬Lost g h s ∧ ¬Lost g h e.target := by
  have hends : ∀ e ∈ g.relationsFrom s, s ∈ g.subjects ∧ e.target ∈ g.subjects := fun e hm =>
    ⟨hg.source_mem s (List.ne_nil_of_mem hm), hg.target_mem s e hm⟩
  rw [he]
  by_cases hs : s ∈ h.subjects
  · rw [if_pos hs]
    refine List.filter_congr fun e hm => ?_
    simp [Lost, hs, (hends e hm).2]
  · rw [if_neg hs]
    refine (List.filter_eq_nil_iff.2 fun e hm => ?_).symm
    simp [Lost, hs, (hends e hm).1]

end Graph
end WikiGraph
