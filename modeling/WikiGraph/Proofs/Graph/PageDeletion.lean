import Mathlib.Data.List.Nodup
import WikiGraph.Proofs.Graph.Departure
import WikiGraph.Proofs.Graph.Integrity
/-!
# Detaching and deleting pages agree

A page can give up its subjects one membership after the other, each subject being deleted when its
last membership ends (`detachExcept`), or all memberships at once, with the orphans deleted afterwards
(`deletePage`). Both leave what `GivenUp` says, which determines every node, membership and edge; so in a
graph with integrity they leave the same, but for the page node, in whatever way pages share subjects and
edges run in circles. The numbers that they answer are those of what is gone.
-/
namespace WikiGraph
namespace Graph

variable {g h k : Graph} {page : PageId} {keep : List SubjectId}

theorem Intact.joined (hg : g.Intact) : g.Joined where
  source_mem s hs := by
    obtain ⟨e, he⟩ := List.exists_mem_of_ne_nil _ hs
    exact (hg.ends_mem he).1
  target_mem s e he := (hg.ends_mem he).2

/-- A page keeps only some of its subjects. Of the memberships, those of the page in other subjects are
ended; of these subjects, those are lost that no other page has; and of the edges, those at a lost
subject are gone. -/
structure KeepsOnly (page : PageId) (keep : List SubjectId) (g h : Graph) : Prop where
  pages : h.pages = g.pages
  memberships : ∀ m : Membership, h.memberships[m]? =
    if m.page = page ∧ m.subject ∉ keep then none else g.memberships[m]?
  lost_iff : ∀ t, Lost g h t ↔ (⟨page, t⟩ : Membership) ∈ g.memberships ∧ t ∉ keep ∧
    ∀ other, other ≠ page → (⟨other, t⟩ : Membership) ∉ g.memberships
  kept : ∀ t, ¬Lost g h t → h.subjects[t]? = g.subjects[t]?
  edges : ∀ s, h.relationsFrom s =
    (g.relationsFrom s).filter fun e => ¬Lost g h s ∧ ¬Lost g h e.target

/-! ## What is left, entry by entry -/

theorem GivenUp.memberships (hh : GivenUp page keep g h) (m : Membership) : h.memberships[m]? =
    if m.page = page ∧ m.subject ∉ keep then none else g.memberships[m]? := by
  by_cases hm : m.page = page ∧ m.subject ∉ keep
  · rw [if_pos hm]
    obtain ⟨rfl, hk⟩ := hm
    exact Std.ExtTreeMap.getElem?_eq_none (hh.ended m.subject hk)
  · rw [if_neg hm]
    apply hh.held
    intro e
    exact Classical.byContradiction fun hk => hm ⟨e, hk⟩

theorem keepsOnly_detachExcept (hg : g.Intact) (page : PageId) (keep : List SubjectId) :
    KeepsOnly page keep g (g.detachExcept page keep).2 := by
  have hgiven := givenUp_detachExcept hg.joined page keep
  have hlost := hgiven.lost_iff fun m hm => (hg.joins m hm).2
  refine ⟨(detachExcept_spec page keep hg.joined).2.pages, hgiven.memberships,
    fun t => (hlost t).trans departs_iff, fun t hl => ?_,
    fun s => relationsFrom_eq_filter_lost hg.joined (hgiven.edges s)⟩
  exact hgiven.stayed t fun hd => hl ((hlost t).2 hd)

/-- **What is left is determined**: two graphs in which the page has given up the same subjects hold the
same subjects, memberships and edges. -/
theorem GivenUp.unique (hh : GivenUp page keep g h) (hk : GivenUp page keep g k) :
    h.subjects = k.subjects ∧ h.memberships = k.memberships ∧
      ∀ s, h.relationsFrom s = k.relationsFrom s := by
  have hsubjects : h.subjects = k.subjects := by
    apply Std.ExtTreeMap.ext_getElem?
    intro t
    by_cases hd : g.Departs page keep t
    · rw [Std.ExtTreeMap.getElem?_eq_none (hh.departed t hd),
        Std.ExtTreeMap.getElem?_eq_none (hk.departed t hd)]
    · rw [hh.stayed t hd, hk.stayed t hd]
  refine ⟨hsubjects, Std.ExtTreeMap.ext_getElem? fun m => ?_, fun s => ?_⟩
  · rw [hh.memberships, hk.memberships]
  · rw [hh.edges, hk.edges, hsubjects]

/-! ## How much is gone -/

section Map

variable {κ β : Type} [Ord κ] [Std.TransOrd κ] [Std.LawfulEqOrd κ]

theorem size_erase_add_one {t : Std.ExtTreeMap κ β} {a : κ} (ha : a ∈ t) :
    (t.erase a).size + 1 = t.size := by
  have hpos : 0 < t.size := by
    rw [← Std.ExtTreeMap.length_keys]
    exact List.length_pos_of_mem (Std.ExtTreeMap.mem_keys.2 ha)
  rw [Std.ExtTreeMap.size_erase, if_pos (Std.ExtTreeMap.mem_iff_contains.1 ha)]
  omega

end Map

/-- A page has each of its subjects once. -/
theorem nodup_stale (g : Graph) (page : PageId) (keep : List SubjectId) :
    (g.stale page keep).Nodup := by
  refine List.Nodup.map_on (fun m hm n hn e => ?_) (Std.ExtTreeMap.nodup_keys.filter _)
  have hp : m.page = page := (of_decide_eq_true (List.mem_filter.1 hm).2).1
  have hq : n.page = page := (of_decide_eq_true (List.mem_filter.1 hn).2).1
  cases m
  cases n
  simp_all

/-- Ending memberships one by one ends as many as there are. -/
theorem size_memberships_detach_foldl {subjects : List SubjectId} (hn : subjects.Nodup)
    (hm : ∀ s ∈ subjects, (⟨page, s⟩ : Membership) ∈ g.memberships) :
    subjects.length + (subjects.foldl (detach page) g).memberships.size = g.memberships.size := by
  induction subjects generalizing g with
  | nil => simp
  | cons s rest ih =>
    obtain ⟨hs, hrest⟩ := List.nodup_cons.1 hn
    have herase : (g.detach page s).memberships = g.memberships.erase ⟨page, s⟩ :=
      memberships_deleteIfOrphan s _
    have hleft : ∀ t ∈ rest, (⟨page, t⟩ : Membership) ∈ (g.detach page s).memberships := by
      intro t ht
      rw [herase, mem_erase_iff_ne]
      refine ⟨fun e => hs ?_, hm t (List.mem_cons_of_mem _ ht)⟩
      rwa [← (Membership.mk.inj e).2]
    have hsize := size_erase_add_one (hm s List.mem_cons_self)
    have htail := ih hrest hleft
    rw [herase] at htail
    rw [List.foldl_cons, List.length_cons]
    omega

/-- Deleting orphans one by one counts each subject that goes. -/
theorem size_subjects_removeOrphan_foldl {subjects : List SubjectId} (hn : subjects.Nodup)
    {r : Nat × Graph} (hm : ∀ s ∈ subjects, s ∈ r.2.subjects) :
    (subjects.foldl removeOrphan r).1 + (subjects.foldl removeOrphan r).2.subjects.size =
      r.1 + r.2.subjects.size := by
  induction subjects generalizing r with
  | nil => rfl
  | cons s rest ih =>
    obtain ⟨hs, hrest⟩ := List.nodup_cons.1 hn
    have hleft : ∀ t ∈ rest, t ∈ (removeOrphan r s).2.subjects := by
      intro t ht
      rw [removeOrphan_snd, mem_subjects_deleteIfOrphan]
      exact ⟨hm t (List.mem_cons_of_mem _ ht), fun e => absurd (e ▸ ht) hs⟩
    have hstep : (removeOrphan r s).1 + (removeOrphan r s).2.subjects.size =
        r.1 + r.2.subjects.size := by
      have hsize := size_erase_add_one (hm s List.mem_cons_self)
      unfold removeOrphan
      split
      · rfl
      · simp only [deleteSubject]
        omega
    rw [List.foldl_cons, ih hrest hleft, hstep]

/-! ## Detaching and deleting -/

/-- The subjects that are looked at when a page is deleted are its members. -/
theorem size_subjects_deletePage (hg : g.Intact) (hp : page ∈ g.pages) :
    (g.deletePage page).1 + (g.deletePage page).2.subjects.size = g.subjects.size := by
  have hm : ∀ s ∈ g.stale page [], s ∈ (g.withoutPage page).subjects := fun s hs =>
    (hg.joins _ (mem_stale.1 hs).1).2
  have hsize := size_subjects_removeOrphan_foldl (nodup_stale g page [])
    (r := (0, g.withoutPage page)) hm
  rw [deletePage, if_pos hp]
  exact hsize.trans (Nat.zero_add _)

/-- **Detaching everything and deleting a page agree.** In a graph with integrity, a page that keeps only
some of its subjects ends exactly the other memberships, whose number is answered, and takes with them
exactly the subjects that no other page has and the edges at these. Deleting a page that is there leaves
what detaching all its subjects leaves, without the page node, and answers how many subjects are gone;
deleting one that is not there does nothing and answers zero. -/
theorem Intact.detachExcept_and_deletePage (hg : g.Intact) (page : PageId) :
    (∀ keep, KeepsOnly page keep g (g.detachExcept page keep).2 ∧
      (g.detachExcept page keep).1 + (g.detachExcept page keep).2.memberships.size =
        g.memberships.size) ∧
    (page ∈ g.pages →
      (g.deletePage page).2.pages = (g.detachExcept page []).2.pages.erase page ∧
      (g.deletePage page).2.subjects = (g.detachExcept page []).2.subjects ∧
      (g.deletePage page).2.memberships = (g.detachExcept page []).2.memberships ∧
      (g.deletePage page).2.relations = (g.detachExcept page []).2.relations ∧
      (g.deletePage page).1 + (g.deletePage page).2.subjects.size = g.subjects.size) ∧
    (page ∉ g.pages → g.deletePage page = (0, g)) := by
  refine ⟨fun keep => ⟨keepsOnly_detachExcept hg page keep, ?_⟩, fun hp => ?_,
    deletePage_of_not_mem⟩
  · exact size_memberships_detach_foldl (nodup_stale g page keep) fun s hs => (mem_stale.1 hs).1
  · have hdeleted := givenUp_deletePage hg.joined (fun m hm => (hg.joins m hm).1) page
    have hdetached := givenUp_detachExcept hg.joined page []
    obtain ⟨hsubjects, hmemberships, hedges⟩ := hdeleted.unique hdetached
    refine ⟨?_, hsubjects, hmemberships, ?_, size_subjects_deletePage hg hp⟩
    · rw [deletePage_snd hp, (deleteIfOrphan_foldl_frame _ _).1,
        (keepsOnly_detachExcept hg page []).pages]
      rfl
    · apply Std.ExtTreeMap.ext_getElem?
      intro s
      rw [(hg.deletePage page).getElem?_relations, (hg.detachExcept page []).getElem?_relations,
        hedges]

end Graph

namespace Memory

open WikiGraph.Graph

/-- Ann and Bob are on a page, Bob on another one too; each knows the other, and Bob himself. -/
def knowing : List Action :=
  .call .start ::
    (["Ann", "Bob"].map (fun name => Operation.upsertPage ⟨⟨name⟩, name, "", "", ""⟩) ++
      ["ann", "bob"].map (fun name => Operation.upsertSubject ⟨⟨name⟩, name, ⟨"Person"⟩, ∅⟩) ++
      [("Ann", "ann"), ("Ann", "bob"), ("Bob", "bob")].map
        (fun place => Operation.linkSubject ⟨place.1⟩ ⟨place.2⟩ false) ++
      [("ann", "bob"), ("bob", "ann"), ("bob", "bob")].map (fun ends =>
        Operation.createRelation ⟨ends.1⟩ ⟨⟨ends.2⟩, ⟨"KNOWS"⟩, ⟨ends.2⟩, ∅⟩)).map
      (fun op => .call (.perform op)) ++
    [.call .commit]

/-- Ann goes with her page, and Bob stays, as he is on the other one. -/
theorem ann_deleted_with_her_page :
    (run {} knowing).committed.Intact ∧ ⟨"Ann"⟩ ∈ (run {} knowing).committed.pages ∧
      ((run {} knowing).committed.deletePage ⟨"Ann"⟩).1 = 1 ∧
      Lost (run {} knowing).committed ((run {} knowing).committed.deletePage ⟨"Ann"⟩).2 ⟨"ann"⟩ ∧
      ¬Lost (run {} knowing).committed ((run {} knowing).committed.detachExcept ⟨"Ann"⟩ []).2
        ⟨"bob"⟩ ∧
      ((run {} knowing).committed.deletePage ⟨"Ann"⟩).2.relations =
        ((run {} knowing).committed.detachExcept ⟨"Ann"⟩ []).2.relations := by
  have hg : (run {} knowing).committed.Intact := (intact_new.run knowing).committed
  have hp : ⟨"Ann"⟩ ∈ (run {} knowing).committed.pages := by decide +kernel
  obtain ⟨hkeeps, hagree, -⟩ := hg.detachExcept_and_deletePage ⟨"Ann"⟩
  obtain ⟨-, -, -, hrelations, hcount⟩ := hagree hp
  refine ⟨hg, hp, ?_, by decide +kernel, fun hl => ?_, hrelations⟩
  · have hbefore : (run {} knowing).committed.subjects.size = 2 := by decide +kernel
    have hafter : ((run {} knowing).committed.deletePage ⟨"Ann"⟩).2.subjects.size = 1 := by
      decide +kernel
    omega
  · exact (((hkeeps []).1.lost_iff _).1 hl).2.2 ⟨"Bob"⟩ (by decide) (by decide +kernel)

end Memory
end WikiGraph
