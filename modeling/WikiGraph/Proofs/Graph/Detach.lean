import WikiGraph.Proofs.Graph.Views
/-!
# Deleting subjects

Ending memberships and deleting pages delete subjects, and with a subject every edge at it. In a
graph whose edges join subjects of the graph (`Joined`), what is left is the graph before, restricted
to the subjects that are left (`Restricts`): their nodes as they were, and of their edges those whose
target is left, in the order they had.
-/
namespace WikiGraph
namespace Graph

/-! ## One subject -/

theorem subjects_deleteSubject (s t : SubjectId) (g : Graph) :
    (g.deleteSubject s).subjects[t]? = if t = s then none else g.subjects[t]? :=
  getElem?_erase_eq _ _ _

theorem mem_subjects_deleteSubject {s t : SubjectId} {g : Graph} :
    t ∈ (g.deleteSubject s).subjects ↔ t ≠ s ∧ t ∈ g.subjects := by
  rw [Std.ExtTreeMap.mem_iff_isSome_getElem?, subjects_deleteSubject]
  by_cases h : t = s <;> simp [h]

theorem memberships_deleteSubject (s : SubjectId) (m : Membership) (g : Graph) :
    (g.deleteSubject s).memberships[m]? =
      if m.subject = s then none else g.memberships[m]? := by
  simp only [deleteSubject]
  rw [Std.ExtTreeMap.getElem?_filter']
  by_cases h : m.subject = s
  · rw [if_pos h]
    cases g.memberships[m]? <;> simp [h]
  · rw [if_neg h]
    cases g.memberships[m]? <;> simp [h]

/-- A list of edges that became empty and a missing list are the same to `relationsFrom`. -/
theorem relationsFrom_deleteSubject (s t : SubjectId) (g : Graph) :
    (g.deleteSubject s).relationsFrom t =
      if t = s then [] else (g.relationsFrom t).filter (·.target ≠ s) := by
  simp only [deleteSubject, relationsFrom]
  rw [Std.ExtTreeMap.getElem?_filterMap', getElem?_erase_eq]
  by_cases ht : t = s
  · rw [if_pos ht, if_pos ht]
    rfl
  · rw [if_neg ht, if_neg ht]
    cases g.relations[t]? with
    | none => rfl
    | some edges =>
      simp only [Option.bind_some, Option.getD_some]
      split
      · rename_i he
        exact (List.isEmpty_iff.1 he).symm
      · rfl

theorem isOwned_iff {g : Graph} {s : SubjectId} :
    g.isOwned s ↔ ∃ page, (⟨page, s⟩ : Membership) ∈ g.memberships := by
  simp only [isOwned, List.any_eq_true, Std.ExtTreeMap.mem_keys, decide_eq_true_eq]
  constructor
  · rintro ⟨m, hm, rfl⟩
    exact ⟨m.page, hm⟩
  · rintro ⟨page, hm⟩
    exact ⟨⟨page, s⟩, hm, rfl⟩

/-- A subject is deleted when it is on no page, so no membership goes with it. -/
theorem memberships_deleteIfOrphan (s : SubjectId) (g : Graph) :
    (g.deleteIfOrphan s).memberships = g.memberships := by
  unfold deleteIfOrphan
  split
  · rfl
  · rename_i h
    refine Std.ExtTreeMap.ext_getElem? fun m => ?_
    rw [memberships_deleteSubject]
    split
    · rename_i hs
      refine (Std.ExtTreeMap.getElem?_eq_none fun hm => h (isOwned_iff.2 ⟨m.page, ?_⟩)).symm
      rw [← hs]
      exact hm
    · rfl

theorem subjects_deleteIfOrphan_of_ne {s t : SubjectId} (h : t ≠ s) (g : Graph) :
    (g.deleteIfOrphan s).subjects[t]? = g.subjects[t]? := by
  unfold deleteIfOrphan
  split
  · rfl
  · rw [subjects_deleteSubject, if_neg h]

theorem pages_deleteIfOrphan (s : SubjectId) (g : Graph) :
    (g.deleteIfOrphan s).pages = g.pages := by
  unfold deleteIfOrphan
  split <;> rfl

/-! ## Restriction to fewer subjects -/

/-- Edges join subjects of the graph. -/
structure Joined (g : Graph) : Prop where
  source_mem : ∀ s, g.relationsFrom s ≠ [] → s ∈ g.subjects
  target_mem : ∀ s, ∀ e ∈ g.relationsFrom s, e.target ∈ g.subjects

/-- Edges join subjects of the graph, and no two edges of one subject share an identifier. -/
structure Sound (g : Graph) : Prop where
  source_mem : ∀ s, g.relationsFrom s ≠ [] → s ∈ g.subjects
  target_mem : ∀ s, ∀ e ∈ g.relationsFrom s, e.target ∈ g.subjects
  distinct : ∀ s, ((g.relationsFrom s).map Relation.id).Nodup

theorem Sound.joined {g : Graph} (h : g.Sound) : g.Joined := ⟨h.source_mem, h.target_mem⟩

/-- Subjects and edges of `h` are those of `g`, without some subjects and the edges at them. -/
structure Restricts (g h : Graph) : Prop where
  subjects : ∀ t ∈ h.subjects, h.subjects[t]? = g.subjects[t]?
  edges : ∀ t, h.relationsFrom t =
    if t ∈ h.subjects then (g.relationsFrom t).filter (·.target ∈ h.subjects) else []

theorem Restricts.refl {g : Graph} (h : g.Joined) : Restricts g g where
  subjects _ _ := rfl
  edges t := by
    by_cases ht : t ∈ g.subjects
    · rw [if_pos ht]
      exact (List.filter_eq_self.2 fun e he => decide_eq_true (h.target_mem t e he)).symm
    · rw [if_neg ht]
      exact Classical.byContradiction fun hn => ht (h.source_mem t hn)

theorem Restricts.mem {g h : Graph} (r : Restricts g h) {t : SubjectId} (ht : t ∈ h.subjects) :
    t ∈ g.subjects := by
  rw [Std.ExtTreeMap.mem_iff_isSome_getElem?, ← r.subjects t ht]
  exact Std.ExtTreeMap.mem_iff_isSome_getElem?.1 ht

theorem Restricts.sound {g h : Graph} (r : Restricts g h) (hg : g.Sound) : h.Sound where
  source_mem s hs := by
    rw [r.edges] at hs
    by_cases ht : s ∈ h.subjects
    · exact ht
    · rw [if_neg ht] at hs
      exact absurd rfl hs
  target_mem s e he := by
    rw [r.edges] at he
    split at he
    · exact of_decide_eq_true (List.mem_filter.1 he).2
    · cases he
  distinct s := by
    rw [r.edges]
    split
    · exact (hg.distinct s).sublist (List.filter_sublist.map Relation.id)
    · exact List.nodup_nil

theorem Restricts.deleteSubject {g h : Graph} (r : Restricts g h) (s : SubjectId) :
    Restricts g (h.deleteSubject s) where
  subjects t ht := by
    obtain ⟨hs, hm⟩ := mem_subjects_deleteSubject.1 ht
    rw [subjects_deleteSubject, if_neg hs, r.subjects t hm]
  edges t := by
    rw [relationsFrom_deleteSubject, r.edges]
    by_cases hs : t = s
    · have hn : t ∉ (h.deleteSubject s).subjects := fun ht => (mem_subjects_deleteSubject.1 ht).1 hs
      rw [if_pos hs, if_neg hn]
    · rw [if_neg hs]
      by_cases ht : t ∈ h.subjects
      · rw [if_pos ht, if_pos (mem_subjects_deleteSubject.2 ⟨hs, ht⟩), List.filter_filter]
        refine List.filter_congr fun e _ => ?_
        simp [mem_subjects_deleteSubject]
      · have hn : t ∉ (h.deleteSubject s).subjects := fun hd =>
          ht (mem_subjects_deleteSubject.1 hd).2
        rw [if_neg ht, if_neg hn]
        rfl

/-- Subjects and edges are all that a restriction is about. -/
theorem Restricts.congr {g h k : Graph} (r : Restricts g h) (hs : k.subjects = h.subjects)
    (hr : k.relations = h.relations) : Restricts g k where
  subjects t ht := by
    rw [hs] at ht ⊢
    exact r.subjects t ht
  edges t := by
    rw [relationsFrom_of_relations_eq hr, hs]
    exact r.edges t

theorem Restricts.deleteIfOrphan {g h : Graph} (r : Restricts g h) (s : SubjectId) :
    Restricts g (h.deleteIfOrphan s) := by
  unfold Graph.deleteIfOrphan
  split
  · exact r
  · exact r.deleteSubject s

/-! ## Ending memberships of a page -/

theorem memberships_detach (page : PageId) (s : SubjectId) (m : Membership) (g : Graph) :
    (g.detach page s).memberships[m]? = if m = ⟨page, s⟩ then none else g.memberships[m]? := by
  have h : (g.detach page s).memberships = g.memberships.erase ⟨page, s⟩ :=
    memberships_deleteIfOrphan s _
  rw [h, getElem?_erase_eq]

theorem Restricts.detach {g h : Graph} (r : Restricts g h) (page : PageId) (s : SubjectId) :
    Restricts g (h.detach page s) := by
  have he : Restricts g { h with memberships := h.memberships.erase ⟨page, s⟩ } :=
    r.congr rfl rfl
  exact (he.deleteIfOrphan s).congr rfl rfl

theorem Restricts.detach_foldl {g h : Graph} (r : Restricts g h) (page : PageId)
    (subjects : List SubjectId) : Restricts g (subjects.foldl (Graph.detach page) h) := by
  induction subjects generalizing h with
  | nil => exact r
  | cons s rest ih =>
    rw [List.foldl_cons]
    exact ih (r.detach page s)

/-- The memberships of a page in some subjects are ended, and nothing else about pages, memberships
and the other subjects is different. -/
structure Detached (page : PageId) (gone : SubjectId → Prop) (g h : Graph) : Prop where
  pages : h.pages = g.pages
  ended : ∀ t, gone t → (⟨page, t⟩ : Membership) ∉ h.memberships
  held : ∀ m : Membership, (m.page = page → ¬gone m.subject) →
    h.memberships[m]? = g.memberships[m]?
  kept : ∀ t, ¬gone t → h.subjects[t]? = g.subjects[t]?

theorem detached_detach (page : PageId) (s : SubjectId) (g : Graph) :
    Detached page (· = s) g (g.detach page s) where
  pages := pages_deleteIfOrphan s _
  ended t ht := by
    have hm := memberships_detach page s ⟨page, t⟩ g
    rw [ht, if_pos rfl] at hm
    rw [ht, Std.ExtTreeMap.mem_iff_isSome_getElem?, hm]
    exact Bool.false_ne_true
  held m hm := by
    rw [memberships_detach, if_neg]
    rintro rfl
    exact hm rfl rfl
  kept t ht := subjects_deleteIfOrphan_of_ne ht _

theorem Detached.trans {page : PageId} {p q : SubjectId → Prop} {g h k : Graph}
    (hg : Detached page p g h) (hh : Detached page q h k) :
    Detached page (fun t => p t ∨ q t) g k where
  pages := hh.pages.trans hg.pages
  ended t ht := by
    by_cases hq : q t
    · exact hh.ended t hq
    · have hp : (⟨page, t⟩ : Membership) ∉ h.memberships := hg.ended t (ht.resolve_right hq)
      rw [Std.ExtTreeMap.mem_iff_isSome_getElem?] at hp ⊢
      rwa [hh.held ⟨page, t⟩ fun _ => hq]
  held m hm := by
    rw [hh.held m fun hp hq => hm hp (.inr hq), hg.held m fun hp hq => hm hp (.inl hq)]
  kept t ht := by
    rw [not_or] at ht
    rw [hh.kept t ht.2, hg.kept t ht.1]

theorem detached_foldl (page : PageId) (subjects : List SubjectId) (g : Graph) :
    Detached page (· ∈ subjects) g (subjects.foldl (detach page) g) := by
  induction subjects generalizing g with
  | nil => exact ⟨rfl, fun _ h => absurd h List.not_mem_nil, fun _ _ => rfl, fun _ _ => rfl⟩
  | cons s rest ih =>
    have h := (detached_detach page s g).trans (ih (g.detach page s))
    simpa only [List.mem_cons, List.foldl_cons] using h

theorem mem_stale {page : PageId} {keep : List SubjectId} {g : Graph} {s : SubjectId} :
    s ∈ g.stale page keep ↔ (⟨page, s⟩ : Membership) ∈ g.memberships ∧ s ∉ keep := by
  simp only [stale, List.mem_map, List.mem_filter, Std.ExtTreeMap.mem_keys, decide_eq_true_eq]
  constructor
  · rintro ⟨m, ⟨hm, rfl, hk⟩, rfl⟩
    exact ⟨hm, hk⟩
  · rintro ⟨hm, hk⟩
    exact ⟨⟨page, s⟩, ⟨hm, rfl, hk⟩, rfl⟩

/-- **What is left of a graph** when a page keeps only some subjects: the subjects that are left
with the edges between them, and whatever is about other memberships and about subjects that were no
stale members of the page. -/
theorem detachExcept_spec (page : PageId) (keep : List SubjectId) {g : Graph} (hg : g.Joined) :
    Restricts g (g.detachExcept page keep).2 ∧
      Detached page (· ∈ g.stale page keep) g (g.detachExcept page keep).2 :=
  ⟨(Restricts.refl hg).detach_foldl page _, detached_foldl page _ g⟩

/-- Only kept subjects stay on the page. -/
theorem mem_keep_of_detachExcept {page : PageId} {keep : List SubjectId} {g : Graph}
    {t : SubjectId} (h : (⟨page, t⟩ : Membership) ∈ (g.detachExcept page keep).2.memberships) :
    t ∈ keep := by
  have hd : Detached page (· ∈ g.stale page keep) g (g.detachExcept page keep).2 :=
    detached_foldl page _ g
  by_cases hs : t ∈ g.stale page keep
  · exact absurd h (hd.ended t hs)
  · have hm : (⟨page, t⟩ : Membership) ∈ g.memberships := by
      rw [Std.ExtTreeMap.mem_iff_isSome_getElem?] at h ⊢
      rwa [hd.held ⟨page, t⟩ fun _ => hs] at h
    exact Classical.byContradiction fun hk => hs (mem_stale.2 ⟨hm, hk⟩)

theorem detachExcept_of_forall_mem {page : PageId} {keep : List SubjectId} {g : Graph}
    (h : ∀ s, (⟨page, s⟩ : Membership) ∈ g.memberships → s ∈ keep) :
    g.detachExcept page keep = (0, g) := by
  have hs : g.stale page keep = [] := List.eq_nil_iff_forall_not_mem.2 fun s hm =>
    (mem_stale.1 hm).2 (h s (mem_stale.1 hm).1)
  rw [detachExcept, hs]
  rfl

/-! ## Deleting a page -/

theorem Restricts.removeOrphan_foldl {g : Graph} (subjects : List SubjectId) {s : Nat × Graph}
    (r : Restricts g s.2) : Restricts g (subjects.foldl removeOrphan s).2 := by
  induction subjects generalizing s with
  | nil => exact r
  | cons t rest ih =>
    rw [List.foldl_cons]
    refine ih ?_
    unfold removeOrphan
    split
    · exact r
    · exact r.deleteSubject t

theorem restricts_deletePage (page : PageId) {g : Graph} (hg : g.Joined) :
    Restricts g (g.deletePage page).2 := by
  unfold deletePage
  split
  · exact .removeOrphan_foldl _ ((Restricts.refl hg).congr rfl rfl)
  · exact .refl hg

end Graph
end WikiGraph
