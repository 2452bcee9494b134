import WikiGraph.Proofs.Graph.Detach
/-!
# Pages and their members

Every membership joins a page and a subject that are there, and every subject is on a page
(`Populated`). Ending memberships may leave subjects without a page, and deleting those of them that
are on no page sets that right one subject at a time: `PopulatedBut` says which subjects are still to
be looked at, and `PopulatedBut.deleteIfOrphan` takes one off that list.
-/
namespace WikiGraph
namespace Graph

/-- Every membership joins a page and a subject that are there, and every subject is on a page but
for some that are still to be looked at. -/
structure PopulatedBut (pending : List SubjectId) (g : Graph) : Prop where
  joins : ∀ m ∈ g.memberships, m.page ∈ g.pages ∧ m.subject ∈ g.subjects
  owned : ∀ s ∈ g.subjects, g.isOwned s ∨ s ∈ pending

/-- Every membership joins a page and a subject that are there, and every subject is on a page. -/
abbrev Populated : Graph → Prop := PopulatedBut []

theorem PopulatedBut.isOwned {g : Graph} (h : g.Populated) {s : SubjectId} (hs : s ∈ g.subjects) :
    g.isOwned s :=
  (h.owned s hs).resolve_right List.not_mem_nil

theorem isOwned_congr {g h : Graph} (hm : h.memberships = g.memberships) (s : SubjectId) :
    h.isOwned s = g.isOwned s := by
  rw [isOwned, hm, isOwned]

/-- More pages do no harm. -/
theorem PopulatedBut.mono {pending : List SubjectId} {g h : Graph} (hg : g.PopulatedBut pending)
    (hp : ∀ page ∈ g.pages, page ∈ h.pages) (hs : h.subjects = g.subjects)
    (hm : h.memberships = g.memberships) : h.PopulatedBut pending where
  joins m hmem := by
    rw [hm] at hmem
    obtain ⟨hpage, hsubject⟩ := hg.joins m hmem
    exact ⟨hp _ hpage, hs ▸ hsubject⟩
  owned s hmem := by
    rw [hs] at hmem
    rw [isOwned_congr hm]
    exact hg.owned s hmem

/-! ## Ending memberships -/

theorem mem_subjects_deleteIfOrphan {s t : SubjectId} {g : Graph} :
    t ∈ (g.deleteIfOrphan s).subjects ↔ t ∈ g.subjects ∧ (t = s → g.isOwned s) := by
  unfold deleteIfOrphan
  split
  · rename_i h
    exact ⟨fun ht => ⟨ht, fun _ => h⟩, fun ht => ht.1⟩
  · rename_i h
    rw [mem_subjects_deleteSubject]
    exact ⟨fun ht => ⟨ht.2, fun e => absurd e ht.1⟩, fun ht => ⟨fun e => h (ht.2 e), ht.1⟩⟩

/-- A subject that is looked at is deleted if it is on no page, and settled either way. -/
theorem PopulatedBut.deleteIfOrphan {s : SubjectId} {pending : List SubjectId} {g : Graph}
    (h : g.PopulatedBut (s :: pending)) : (g.deleteIfOrphan s).PopulatedBut pending where
  joins m hm := by
    rw [memberships_deleteIfOrphan] at hm
    obtain ⟨hp, hs⟩ := h.joins m hm
    rw [pages_deleteIfOrphan, mem_subjects_deleteIfOrphan]
    refine ⟨hp, hs, fun e => isOwned_iff.2 ⟨m.page, ?_⟩⟩
    rw [← e]
    exact hm
  owned t ht := by
    obtain ⟨hm, hs⟩ := mem_subjects_deleteIfOrphan.1 ht
    rw [isOwned_congr (memberships_deleteIfOrphan s g)]
    by_cases e : t = s
    · rw [e]
      exact .inl (hs e)
    · rcases h.owned t hm with ho | hp
      · exact .inl ho
      · exact .inr ((List.mem_cons.1 hp).resolve_left e)

theorem Populated.detach {g : Graph} (h : g.Populated) (page : PageId) (s : SubjectId) :
    (g.detach page s).Populated := by
  have he : PopulatedBut [s] { g with memberships := g.memberships.erase ⟨page, s⟩ } := by
    refine ⟨fun m hm => h.joins m (mem_erase_iff_ne.1 hm).2, fun t ht => ?_⟩
    by_cases e : t = s
    · exact .inr (List.mem_singleton.2 e)
    · obtain ⟨other, hm⟩ := isOwned_iff.1 (h.isOwned ht)
      refine .inl (isOwned_iff.2 ⟨other, mem_erase_iff_ne.2 ⟨?_, hm⟩⟩)
      exact fun heq => e (Membership.mk.inj heq).2
  exact he.deleteIfOrphan.mono (fun _ hp => hp) rfl rfl

theorem Populated.detachExcept {g : Graph} (h : g.Populated) (page : PageId)
    (keep : List SubjectId) : (g.detachExcept page keep).2.Populated :=
  List.foldlRecOn _ _ h fun _ hg s _ => hg.detach page s

/-! ## Deleting a page -/

theorem removeOrphan_snd (r : Nat × Graph) (s : SubjectId) :
    (removeOrphan r s).2 = r.2.deleteIfOrphan s := by
  unfold removeOrphan deleteIfOrphan
  split <;> rfl

theorem removeOrphan_foldl_snd (subjects : List SubjectId) (r : Nat × Graph) :
    (subjects.foldl removeOrphan r).2 = subjects.foldl (fun g s => g.deleteIfOrphan s) r.2 := by
  induction subjects generalizing r with
  | nil => rfl
  | cons s rest ih => rw [List.foldl_cons, ih, removeOrphan_snd, List.foldl_cons]

/-- Deleting orphans touches neither pages nor memberships. -/
theorem deleteIfOrphan_foldl_frame (subjects : List SubjectId) (g : Graph) :
    (subjects.foldl (fun g s => g.deleteIfOrphan s) g).pages = g.pages ∧
      (subjects.foldl (fun g s => g.deleteIfOrphan s) g).memberships = g.memberships :=
  List.foldlRecOn (motive := fun h : Graph => h.pages = g.pages ∧ h.memberships = g.memberships)
    subjects _ ⟨rfl, rfl⟩ fun h ih s _ =>
      ⟨(pages_deleteIfOrphan s h).trans ih.1, (memberships_deleteIfOrphan s h).trans ih.2⟩

theorem PopulatedBut.deleteIfOrphan_foldl {subjects : List SubjectId} {g : Graph}
    (h : g.PopulatedBut subjects) :
    (subjects.foldl (fun g s => g.deleteIfOrphan s) g).Populated := by
  induction subjects generalizing g with
  | nil => exact h
  | cons s rest ih => exact ih h.deleteIfOrphan

/-- The graph without a page and its memberships, before any subject is deleted. -/
def withoutPage (page : PageId) (g : Graph) : Graph :=
  { g with
    pages := g.pages.erase page
    memberships := g.memberships.filter fun m _ => m.page ≠ page }.counted

theorem deletePage_snd {page : PageId} {g : Graph} (h : page ∈ g.pages) :
    (g.deletePage page).2 =
      (g.stale page []).foldl (fun g s => g.deleteIfOrphan s) (g.withoutPage page) := by
  rw [deletePage, if_pos h]
  exact removeOrphan_foldl_snd _ _

theorem deletePage_of_not_mem {page : PageId} {g : Graph} (h : page ∉ g.pages) :
    g.deletePage page = (0, g) := if_neg h

theorem memberships_withoutPage (page : PageId) (g : Graph) (m : Membership) :
    (g.withoutPage page).memberships[m]? =
      if m.page = page then none else g.memberships[m]? := by
  simp only [withoutPage, counted]
  rw [Std.ExtTreeMap.getElem?_filter']
  by_cases h : m.page = page
  · rw [if_pos h]
    cases g.memberships[m]? <;> simp [h]
  · rw [if_neg h]
    cases g.memberships[m]? <;> simp [h]

theorem mem_memberships_withoutPage {page : PageId} {g : Graph} {m : Membership} :
    m ∈ (g.withoutPage page).memberships ↔ m.page ≠ page ∧ m ∈ g.memberships := by
  rw [Std.ExtTreeMap.mem_iff_isSome_getElem?, memberships_withoutPage]
  by_cases h : m.page = page <;> simp [h]

theorem mem_pages_deletePage {page other : PageId} {g : Graph} :
    other ∈ (g.deletePage page).2.pages ↔ other ≠ page ∧ other ∈ g.pages := by
  by_cases h : page ∈ g.pages
  · rw [deletePage_snd h, (deleteIfOrphan_foldl_frame _ _).1]
    exact mem_erase_iff_ne
  · rw [deletePage_of_not_mem h]
    exact ⟨fun ho => ⟨fun e => h (e ▸ ho), ho⟩, fun ho => ho.2⟩

/-- Deleting a page adds no membership and changes no mark. -/
theorem memberships_of_deletePage {page : PageId} {g : Graph} {m : Membership} {main : Bool}
    (h : (g.deletePage page).2.memberships[m]? = some main) : g.memberships[m]? = some main := by
  by_cases hp : page ∈ g.pages
  · rw [deletePage_snd hp, (deleteIfOrphan_foldl_frame _ _).2, memberships_withoutPage] at h
    split at h
    · cases h
    · exact h
  · rwa [deletePage_of_not_mem hp] at h

theorem Populated.deletePage {g : Graph} (h : g.Populated) (page : PageId) :
    (g.deletePage page).2.Populated := by
  by_cases hp : page ∈ g.pages
  · rw [deletePage_snd hp]
    refine PopulatedBut.deleteIfOrphan_foldl ⟨fun m hm => ?_, fun s hs => ?_⟩
    · obtain ⟨hne, hm⟩ := mem_memberships_withoutPage.1 hm
      obtain ⟨hpage, hsubject⟩ := h.joins m hm
      exact ⟨mem_erase_iff_ne.2 ⟨hne, hpage⟩, hsubject⟩
    · obtain ⟨other, hm⟩ := isOwned_iff.1 (h.isOwned hs)
      by_cases e : other = page
      · rw [e] at hm
        exact .inr (mem_stale.2 ⟨hm, List.not_mem_nil⟩)
      · exact .inl (isOwned_iff.2 ⟨other, mem_memberships_withoutPage.2 ⟨e, hm⟩⟩)
  · rw [deletePage_of_not_mem hp]
    exact h

/-- **Without pages nothing is left.** -/
theorem Populated.isEmpty {g : Graph} (h : g.Populated) (hg : g.Sound)
    (hp : ∀ page, page ∉ g.pages) : g.isEmpty := by
  have hm : ∀ m, m ∉ g.memberships := fun m hm => hp m.page (h.joins m hm).1
  have hs : ∀ s, s ∉ g.subjects := fun s hs => by
    obtain ⟨page, hmem⟩ := isOwned_iff.1 (h.isOwned hs)
    exact hm _ hmem
  have hr : ∀ s, g.relationsFrom s = [] := fun s =>
    Classical.byContradiction fun hne => hs s (hg.source_mem s hne)
  have hcount : g.relationCount = 0 := by
    rw [relationCount, List.length_eq_zero_iff, List.flatMap_eq_nil_iff]
    intro entry he
    have hentry := Std.ExtTreeMap.mem_toList_iff_getElem?_eq_some.1 he
    have h0 := hr entry.1
    rwa [relationsFrom, hentry] at h0
  simp [Graph.isEmpty, hcount, Std.ExtTreeMap.eq_empty_iff_forall_not_mem, hp, hs, hm]

end Graph
end WikiGraph
