import WikiGraph.Proofs.Graph.Comparable
import WikiGraph.Proofs.Graph.History
/-!
# The counter of changes

Each operation decides for itself whether it changes something, by comparing, looking up, counting or
removing, and counts only then. So the counter tells graphs apart: an operation leaves the graph as it is,
or it leaves a greater counter and contents that compare unequal (`Registers`, `registers_apply`). Every
operation of a transaction only adds to the counter, and the committed contents go from one commit to the
next by operations; so two committed snapshots of one run with equal counters are the same
(`unchanged_of_equal_counters`).
-/
namespace WikiGraph
namespace Graph

variable {g h : Graph} {page : PageId} {s : SubjectId}

/-- The contents compare equal: the same pages and memberships, and subject nodes and edges that are the
same one by one. -/
structure Alike (g h : Graph) : Prop where
  pages : h.pages = g.pages
  subjects : ∀ t : SubjectId, Option.Rel (fun a b => SubjectNode.same a b) g.subjects[t]?
    h.subjects[t]?
  memberships : h.memberships = g.memberships
  edges : ∀ t, (g.relationsFrom t).isEqv (h.relationsFrom t) Relation.same

/-- No node and no edge holds a pattern that is no number. -/
structure IsComparable (g : Graph) : Prop where
  subjects : ∀ (t : SubjectId) (node : SubjectNode), g.subjects[t]? = some node →
    node.properties.IsComparable
  edges : ∀ t, ∀ e ∈ g.relationsFrom t, e.properties.IsComparable

theorem IsComparable.alike_self (hg : g.IsComparable) : Alike g g where
  pages := rfl
  subjects t := by
    cases ht : g.subjects[t]? with
    | none => exact .none
    | some node => exact .some (SubjectNode.same_self (hg.subjects t node ht))
  memberships := rfl
  edges t := isEqv_self fun e he => Relation.same_self (hg.edges t e he)

/-- The graph is left as it is, or the counter grows and the contents compare unequal. -/
def Registers (g h : Graph) : Prop := h = g ∨ g.mutations < h.mutations ∧ ¬Alike g h

/-! ## Nodes and memberships -/

theorem registers_upsertPage (page : PageNode) (g : Graph) : Registers g (g.upsertPage page) := by
  unfold upsertPage
  split
  · exact .inl rfl
  · rename_i hdiffers
    refine .inr ⟨Nat.lt_succ_self _, fun ha => hdiffers ?_⟩
    have hpages : g.pages.insert page.id page = g.pages := ha.pages
    rw [← hpages, getElem?_insert_eq, if_pos rfl]

theorem registers_upsertSubject (subject : SubjectNode) (g : Graph) :
    Registers g (g.upsertSubject subject) := by
  unfold upsertSubject
  split
  · exact .inl rfl
  · rename_i hdiffers
    refine .inr ⟨Nat.lt_succ_self _, fun ha => hdiffers ?_⟩
    have hsame := ha.subjects subject.id
    simp only [counted, getElem?_insert_eq, if_pos] at hsame
    cases hh : g.subjects[subject.id]? with
    | none => simp [hh] at hsame
    | some held => simpa [hh] using hsame

theorem registers_markMembership (m : Membership) (main : Bool) (g : Graph) :
    Registers g (g.markMembership m main) := by
  unfold markMembership
  split
  · exact .inl rfl
  · rename_i hdiffers
    refine .inr ⟨Nat.lt_succ_self _, fun ha => hdiffers ?_⟩
    have hmemberships : g.memberships.insert m main = g.memberships := ha.memberships
    rw [← hmemberships, getElem?_insert_eq, if_pos rfl]

theorem registers_linkSubject (page : PageId) (s : SubjectId) (main : Bool) (g : Graph) :
    Registers g (g.linkSubject page s main) := by
  unfold linkSubject
  split
  · exact registers_markMembership _ main g
  · exact .inl rfl

theorem registers_setMain (page : PageId) (s : SubjectId) (main : Bool) (g : Graph) :
    Registers g (g.setMain page s main) := by
  unfold setMain
  split
  · exact registers_markMembership _ main g
  · exact .inl rfl

/-! ## Edges -/

/-- Edges that are not as many, or not the same one by one, are a difference. -/
theorem not_alike_of_edges (he : ¬(g.relationsFrom s).isEqv (h.relationsFrom s) Relation.same) :
    ¬Alike g h := fun ha => he (ha.edges s)

theorem not_isEqv_of_length_ne {l l' : List Relation} (hl : l.length ≠ l'.length) :
    ¬l.isEqv l' Relation.same := by
  intro he
  have hkeys : ∀ a b : Relation, a.same b → a.id = b.id := fun a b hs => (Relation.same_iff.1 hs).1
  have hids : l.map Relation.id = l'.map Relation.id := map_eq_of_isEqv hkeys he
  apply hl
  simpa using congrArg List.length hids

theorem registers_createRelation (source : SubjectId) (r : Relation) (g : Graph) :
    Registers g (g.createRelation source r).2 := by
  unfold createRelation
  split
  · refine .inr ⟨Nat.lt_succ_self _, not_alike_of_edges (s := source) ?_⟩
    apply not_isEqv_of_length_ne
    simp [relationsFrom_counted, relationsFrom_insert]
  · exact .inl rfl

/-- Properties that are not the same make the first edge of their identifier another one. -/
theorem not_isEqv_withProperties {r edge : Relation} {l : List Relation}
    (hf : l.find? (·.id = r.id) = some edge) (hs : ¬edge.properties.same r.properties) :
    ¬l.isEqv (withProperties r.id r.properties l) Relation.same := by
  induction l with
  | nil => cases hf
  | cons first rest ih =>
    unfold withProperties
    by_cases hid : first.id = r.id
    · obtain rfl : first = edge := by simpa [hid] using hf
      rw [if_pos hid, List.isEqv_cons_cons, Bool.and_eq_true]
      exact fun he => hs (Relation.same_iff.1 he.1).2.2.2
    · rw [if_neg hid, List.isEqv_cons_cons, Bool.and_eq_true]
      exact fun he => ih (by simpa [hid] using hf) he.2

theorem registers_updateRelation (source : SubjectId) (r : Relation) (g : Graph) :
    Registers g (g.updateRelation source r) := by
  unfold updateRelation
  split
  · rename_i edge hf
    split
    · exact .inl rfl
    · rename_i hs
      refine .inr ⟨Nat.lt_succ_self _, not_alike_of_edges (s := source) ?_⟩
      rw [relationsFrom_counted, relationsFrom_insert, if_pos rfl]
      exact not_isEqv_withProperties hf hs
  · exact .inl rfl

theorem registers_deleteRelation (source : SubjectId) (id : RelationId) (g : Graph) :
    Registers g (g.deleteRelation source id) := by
  have hedges := relationsFrom_deleteRelation source id g source
  simp only [if_pos] at hedges
  by_cases hn : ((g.relationsFrom source).filter (·.id ≠ id)).length =
      (g.relationsFrom source).length
  · exact .inl (by simp only [deleteRelation, if_pos hn])
  · have hgrows : g.mutations < (g.deleteRelation source id).mutations := by
      simp only [deleteRelation, if_neg hn]
      split <;> exact Nat.lt_succ_self _
    refine .inr ⟨hgrows, not_alike_of_edges (s := source) ?_⟩
    rw [hedges]
    exact not_isEqv_of_length_ne fun e => hn e.symm

/-! ## Detaching and deleting -/

theorem mutations_deleteIfOrphan (s : SubjectId) (g : Graph) :
    (g.deleteIfOrphan s).mutations = g.mutations := by
  unfold deleteIfOrphan
  split <;> rfl

theorem mutations_detach_foldl (page : PageId) (subjects : List SubjectId) (g : Graph) :
    (subjects.foldl (detach page) g).mutations = g.mutations + subjects.length := by
  induction subjects generalizing g with
  | nil => rfl
  | cons s rest ih =>
    have hstep : (g.detach page s).mutations = g.mutations + 1 :=
      congrArg (· + 1) (mutations_deleteIfOrphan s _)
    rw [List.foldl_cons, ih, hstep, List.length_cons]
    omega

theorem mutations_deleteIfOrphan_foldl (subjects : List SubjectId) (g : Graph) :
    (subjects.foldl (fun g s => g.deleteIfOrphan s) g).mutations = g.mutations :=
  List.foldlRecOn (motive := fun h : Graph => h.mutations = g.mutations) subjects _ rfl
    fun h ih s _ => (mutations_deleteIfOrphan s h).trans ih

theorem registers_detachExcept (page : PageId) (keep : List SubjectId) (g : Graph) :
    Registers g (g.detachExcept page keep).2 := by
  cases hstale : g.stale page keep with
  | nil => exact .inl (by simp [detachExcept, hstale])
  | cons s rest =>
    have hs : s ∈ g.stale page keep := by simp [hstale]
    refine .inr ⟨?_, fun ha => ?_⟩
    · rw [detachExcept, mutations_detach_foldl, hstale, List.length_cons]
      omega
    · -- A membership that is ended is missing afterwards.
      apply (detached_foldl page (g.stale page keep) g).ended s hs
      have hm : (g.detachExcept page keep).2.memberships = g.memberships := ha.memberships
      exact hm ▸ (mem_stale.1 hs).1

theorem registers_deletePage (page : PageId) (g : Graph) : Registers g (g.deletePage page).2 := by
  by_cases hp : page ∈ g.pages
  · refine .inr ⟨?_, fun ha => ?_⟩
    · rw [deletePage_snd hp, mutations_deleteIfOrphan_foldl]
      exact Nat.lt_succ_self _
    · have hstill : page ∈ (g.deletePage page).2.pages := ha.pages ▸ hp
      exact (mem_pages_deletePage.1 hstill).1 rfl
  · rw [deletePage_of_not_mem hp]
    exact .inl rfl

/-- **Every operation counts what it changes**, whatever its arguments. -/
theorem registers_apply (g : Graph) (op : Operation) : Registers g (g.apply op).2 := by
  cases op with
  | upsertPage page => exact registers_upsertPage page g
  | upsertSubject subject => exact registers_upsertSubject subject g
  | linkSubject page subject main => exact registers_linkSubject page subject main g
  | setMain page subject main => exact registers_setMain page subject main g
  | detachExcept page keep => exact registers_detachExcept page keep g
  | outgoing source => exact .inl rfl
  | createRelation source r => exact registers_createRelation source r g
  | updateRelation source r => exact registers_updateRelation source r g
  | deleteRelation source id => exact registers_deleteRelation source id g
  | deletePage page => exact registers_deletePage page g

theorem Registers.mutations_le (hr : Registers g h) : g.mutations ≤ h.mutations := by
  rcases hr with rfl | ⟨hgrows, -⟩
  · exact Nat.le_refl _
  · omega

theorem Registers.eq_of_mutations (hr : Registers g h) (he : h.mutations = g.mutations) : h = g := by
  rcases hr with heq | ⟨hgrows, -⟩
  · exact heq
  · omega

theorem Registers.not_alike (hr : Registers g h) (hgrows : g.mutations < h.mutations) :
    ¬Alike g h := by
  rcases hr with rfl | ⟨-, hn⟩
  · omega
  · exact hn

/-- Operations one after the other never take from the counter, and leave everything as it is when they
do not add to it. -/
theorem applyAll_counts (g : Graph) (ops : List Operation) :
    g.mutations ≤ (g.applyAll ops).mutations ∧
      ((g.applyAll ops).mutations = g.mutations → g.applyAll ops = g) := by
  induction ops generalizing g with
  | nil => exact ⟨Nat.le_refl _, fun _ => rfl⟩
  | cons op rest ih =>
    have hstep : Registers g (g.apply op).2 := registers_apply g op
    have hle : g.mutations ≤ (g.apply op).2.mutations := hstep.mutations_le
    obtain ⟨hrest, hsame⟩ := ih (g.apply op).2
    have hcons : g.applyAll (op :: rest) = (g.apply op).2.applyAll rest := rfl
    rw [hcons]
    refine ⟨by omega, fun he => ?_⟩
    -- The counter is between two equal numbers, so it stood still at the first operation already.
    have hfirst : (g.apply op).2 = g := hstep.eq_of_mutations (by omega)
    rw [hsame (by omega), hfirst]

end Graph

namespace Memory

open WikiGraph.Graph

/-! ## Snapshots of a run -/

namespace Ledger

variable {l : Ledger} {log : List Entry}

/-- **One move.** A move leaves the committed contents, or commits what operations made of them. -/
theorem Tracks.exists_ops_step (h : l.Tracks log) (move : Move) :
    ∃ ops, (l.step move).2.committed = l.committed.applyAll ops := by
  generalize hs : l.step move = s
  have he : l.Effect move s := hs ▸ l.effect_step move
  cases he with
  | refuses => exact ⟨[], rfl⟩
  | starts hcommitted => exact ⟨[], hcommitted⟩
  | performs hg hcommitted => exact ⟨[], hcommitted⟩
  | @commits t g l' hg hcommitted =>
    refine ⟨performed log t, ?_⟩
    rw [hcommitted]
    exact (h.working t g hg).1
  | forgets hmove hcommitted => exact ⟨[], hcommitted⟩
  | sets => exact ⟨[], rfl⟩

/-- **A run.** By induction on the moves: what was committed is only built upon. -/
theorem Tracks.exists_ops_run (h : l.Tracks log) (more : List Move) :
    ∃ ops, (more.foldl stepLogged (log, l)).2.committed = l.committed.applyAll ops := by
  induction more generalizing log l with
  | nil => exact ⟨[], rfl⟩
  | cons move rest ih =>
    obtain ⟨ops, hops⟩ := h.exists_ops_step move
    obtain ⟨later, hlater⟩ := ih (h.step move)
    refine ⟨ops ++ later, ?_⟩
    rw [applyAll_append, ← hops]
    exact hlater

end Ledger

/-- **The counter tells changes.** Whatever operation is performed in an open transaction, with whatever
arguments, the counter of the working copy does not fall. If it stands still the working copy is the same;
if it grows the contents compare unequal, and where every value compares equal to itself the two go
together. In a run, the counter of what is committed does not fall either, and two snapshots with the same
counter are the same. -/
theorem unchanged_of_equal_counters :
    (∀ (m : Memory) (op : Operation) (g : Graph), m.working? = some g →
      ∃ h, (m.perform op).2.working? = some h ∧ g.mutations ≤ h.mutations ∧
        (h.mutations = g.mutations → h = g) ∧
        (g.mutations < h.mutations → ¬Alike g h) ∧
        (g.IsComparable → (h.mutations = g.mutations ↔ Alike g h))) ∧
    ∀ moves more : List Move,
      (Ledger.run moves).2.committed.mutations ≤ (Ledger.run (moves ++ more)).2.committed.mutations ∧
      ((Ledger.run (moves ++ more)).2.committed.mutations =
          (Ledger.run moves).2.committed.mutations →
        (Ledger.run (moves ++ more)).2.committed = (Ledger.run moves).2.committed) := by
  constructor
  · intro m op g hg
    have hafter : ∃ h, (m.perform op).2.working? = some h ∧ Registers g h := by
      rcases m.perform_eq op with ⟨e, he⟩ | ⟨g', m', hg', hm', -, hworking⟩
      · exact ⟨g, by rw [he, hg], .inl rfl⟩
      · obtain rfl : g = g' := Option.some.inj (hg.symm.trans hg')
        exact ⟨_, by rw [hm', hworking], registers_apply g op⟩
    obtain ⟨h, hh, hr⟩ := hafter
    refine ⟨h, hh, hr.mutations_le, hr.eq_of_mutations, hr.not_alike, fun hc => ⟨fun he => ?_, ?_⟩⟩
    · rw [hr.eq_of_mutations he]
      exact hc.alike_self
    · intro ha
      have hle := hr.mutations_le
      by_contra hne
      exact hr.not_alike (by omega) ha
  · intro moves more
    obtain ⟨ops, hops⟩ := (Ledger.tracks_run moves).exists_ops_run more
    have hrun : (Ledger.run (moves ++ more)).2.committed =
        (Ledger.run moves).2.committed.applyAll ops := by
      rw [Ledger.run, List.foldl_append]
      exact hops
    rw [hrun]
    exact applyAll_counts _ ops

end Memory
end WikiGraph
