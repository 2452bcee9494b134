import Mathlib.Algebra.BigOperators.Group.Finset.Basic
import WikiGraph.Proofs.Graph.Departure
/-!
# Counting edges

The edges of a graph stand in one list for each subject, and their number is a sum over subjects, in
which a subject without edges makes no difference (`countP_edges`). So it moves with the list of one
subject when only that one changes, and falls by the number of the edges that are filtered out.
-/
namespace WikiGraph
namespace Graph

variable {g h : Graph} {source : SubjectId}

def edges (g : Graph) : List (SubjectId × Relation) :=
  g.relations.toList.flatMap fun entry => entry.2.map (entry.1, ·)

def sources (g : Graph) : Finset SubjectId := g.relations.keys.toFinset

theorem mem_sources_of_ne_nil {s : SubjectId} (h : g.relationsFrom s ≠ []) : s ∈ g.sources := by
  rw [sources, List.mem_toFinset, Std.ExtTreeMap.mem_keys]
  apply Classical.byContradiction
  intro hn
  apply h
  rw [relationsFrom, Std.ExtTreeMap.getElem?_eq_none hn]
  rfl

/-- The edges of a kind are counted subject by subject. -/
theorem countP_edges (P : SubjectId × Relation → Bool) (S : Finset SubjectId)
    (hS : ∀ s, g.relationsFrom s ≠ [] → s ∈ S) :
    g.edges.countP P = ∑ s ∈ S, (g.relationsFrom s).countP fun e => P (s, e) := by
  have hlists : g.edges.countP P =
      (g.relations.keys.map fun s => (g.relationsFrom s).countP fun e => P (s, e)).sum := by
    rw [edges, List.countP_flatMap, ← Std.ExtTreeMap.map_fst_toList_eq_keys, List.map_map]
    congr 1
    refine List.map_congr_left fun entry he => ?_
    have hentry := Std.ExtTreeMap.mem_toList_iff_getElem?_eq_some.1 he
    simp [relationsFrom, hentry, List.countP_map, Function.comp_def]
  rw [hlists, ← List.sum_toFinset _ Std.ExtTreeMap.nodup_keys]
  refine Finset.sum_congr_of_eq_on_inter (fun s _ hs => ?_) (fun s _ hs => ?_) fun _ _ _ => rfl
  · have hempty : g.relationsFrom s = [] := Classical.byContradiction fun hn => hs (hS s hn)
    simp [hempty]
  · have hempty : g.relationsFrom s = [] :=
      Classical.byContradiction fun hn => hs (mem_sources_of_ne_nil hn)
    simp [hempty]

theorem relationCount_eq_sum (S : Finset SubjectId)
    (hS : ∀ s, g.relationsFrom s ≠ [] → s ∈ S) :
    g.relationCount = ∑ s ∈ S, (g.relationsFrom s).length := by
  have hcount : g.relationCount = g.edges.countP fun _ => true := by
    simp [relationCount, edges, List.length_flatMap]
  rw [hcount, countP_edges _ S hS]
  simp

/-- **When one subject's edges change**, their number changes as that of its own edges. -/
theorem relationCount_of_others (ho : ∀ t, t ≠ source → h.relationsFrom t = g.relationsFrom t) :
    h.relationCount + (g.relationsFrom source).length =
      g.relationCount + (h.relationsFrom source).length := by
  have hmem : source ∈ insert source (g.sources ∪ h.sources) := Finset.mem_insert_self _ _
  have hg := relationCount_eq_sum (g := g) (insert source (g.sources ∪ h.sources)) fun s hs =>
    Finset.mem_insert_of_mem (Finset.mem_union_left _ (mem_sources_of_ne_nil hs))
  have hh := relationCount_eq_sum (g := h) (insert source (g.sources ∪ h.sources)) fun s hs =>
    Finset.mem_insert_of_mem (Finset.mem_union_right _ (mem_sources_of_ne_nil hs))
  rw [← Finset.add_sum_erase _ _ hmem] at hg hh
  have hrest : ∑ t ∈ (insert source (g.sources ∪ h.sources)).erase source, (h.relationsFrom t).length =
      ∑ t ∈ (insert source (g.sources ∪ h.sources)).erase source, (g.relationsFrom t).length :=
    Finset.sum_congr rfl fun t ht => by rw [ho t (Finset.ne_of_mem_erase ht)]
  omega

theorem relationCount_of_relations_eq (e : h.relations = g.relations) :
    h.relationCount = g.relationCount := by
  rw [relationCount, e, relationCount]

/-- **When edges of a kind are filtered out**, as many are gone as there were. -/
theorem relationCount_of_filter {gone : SubjectId × Relation → Bool}
    (hf : ∀ s, h.relationsFrom s = (g.relationsFrom s).filter fun e => !gone (s, e)) :
    h.relationCount + g.edges.countP gone = g.relationCount := by
  have hS : ∀ s, h.relationsFrom s ≠ [] → s ∈ g.sources := by
    intro s hs
    apply mem_sources_of_ne_nil
    intro hn
    rw [hf, hn] at hs
    exact hs rfl
  rw [relationCount_eq_sum g.sources hS, countP_edges gone g.sources fun _ => mem_sources_of_ne_nil,
    relationCount_eq_sum g.sources fun _ => mem_sources_of_ne_nil, ← Finset.sum_add_distrib]
  refine Finset.sum_congr rfl fun s _ => ?_
  have hsplit := List.length_eq_countP_add_countP (l := g.relationsFrom s) fun e => gone (s, e)
  rw [hf, ← List.countP_eq_length_filter]
  simp only [Bool.not_eq_true, Bool.decide_eq_false] at hsplit
  omega

end Graph
end WikiGraph
