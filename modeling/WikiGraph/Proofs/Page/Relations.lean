import Mathlib.Data.List.Forall2
import WikiGraph.Proofs.KeyedList
import WikiGraph.Statement
/-!
# The first relation of each identifier

Of the relations that a subject's statements hold, in order, its list keeps the first of each
identifier and takes the reserved property off it (`relations_canonical`). A list made in this way has
nothing left to drop, so it makes itself again (`RelationList.ofList_toList`).
-/
namespace WikiGraph

/-! ## The reserved property -/

/-- A relation as it was declared, but with nothing under the reserved key. -/
structure Relation.Cleared (declared kept : Relation) : Prop where
  id : kept.id = declared.id
  type : kept.type = declared.type
  target : kept.target = declared.target
  properties : ∀ key, kept.properties[key]? =
    if key = relationIdKey then none else declared.properties[key]?

namespace Relation

theorem cleared_withoutIdKey (r : Relation) : r.Cleared r.withoutIdKey where
  id := rfl
  type := rfl
  target := rfl
  properties key := by
    rw [withoutIdKey, Std.ExtTreeMap.getElem?_erase]
    by_cases h : key = relationIdKey
    · simp [h]
    · have hne : compare relationIdKey key ≠ .eq := fun e =>
        h (Std.LawfulEqOrd.eq_of_compare e).symm
      rw [if_neg hne, if_neg h]

theorem withoutIdKey_of_not_mem {r : Relation} (h : relationIdKey ∉ r.properties) :
    r.withoutIdKey = r := by
  have herase : r.properties.erase relationIdKey = r.properties := by
    refine Std.ExtTreeMap.ext_getElem? fun name => ?_
    rw [Std.ExtTreeMap.getElem?_erase]
    split
    · rename_i hname
      rw [← Std.LawfulEqOrd.eq_of_compare hname]
      exact (Std.ExtTreeMap.getElem?_eq_none h).symm
    · rfl
  rw [Relation.withoutIdKey, herase]

end Relation

/-! ## Relation lists -/

namespace RelationList

theorem ext {a b : RelationList} (h : a.toList = b.toList) : a = b := by
  cases a
  cases b
  cases h
  rfl

/-- A list of relations is the one that its own relations make. -/
theorem ofList_toList (list : RelationList) : ofList list.toList = list := by
  refine ext ?_
  have hfirst : firstBy Relation.id list.toList = list.toList := firstBy_of_nodup list.distinct
  have hkept : ∀ r ∈ list.toList, r.withoutIdKey = r := fun r hr =>
    Relation.withoutIdKey_of_not_mem (list.unreserved r hr)
  calc (ofList list.toList).toList
      = (firstBy Relation.id list.toList).map Relation.withoutIdKey := rfl
    _ = list.toList.map Relation.withoutIdKey := by rw [hfirst]
    _ = list.toList := by rw [List.map_congr_left hkept, List.map_id']

theorem cleared_ofList (relations : List Relation) :
    List.Forall₂ Relation.Cleared
      ((relations.map Relation.id).eraseDups.filterMap fun id => relations.find? (·.id = id))
      (ofList relations).toList := by
  rw [← firstBy_eq_filterMap, ofList]
  exact List.forall₂_map_right_iff.2
    (List.forall₂_same.2 fun r _ => r.cleared_withoutIdKey)

end RelationList

def Statement.held (s : Statement) : List Relation :=
  match s.value with
  | some (.relations rs) => rs
  | _ => []

theorem Statement.mem_held {s : Statement} {r : Relation} :
    r ∈ s.held ↔ ∃ rs, s.value = some (.relations rs) ∧ r ∈ rs := by
  unfold held
  split
  · rename_i rs hrs
    simp [hrs]
  · rename_i hnone
    simp only [List.not_mem_nil, false_iff, not_exists, not_and]
    exact fun rs hrs => absurd hrs (hnone rs)

namespace StatementList

/-- The relations that the statements of a list hold, in the order of the statements and of the
relations inside them. -/
def held (l : StatementList) : List Relation := l.toList.flatMap Statement.held

theorem relations_eq_ofList (l : StatementList) : l.relations = RelationList.ofList l.held := rfl

theorem mem_held {l : StatementList} {r : Relation} :
    r ∈ l.held ↔ ∃ s ∈ l.toList, ∃ rs, s.value = some (.relations rs) ∧ r ∈ rs := by
  simp only [held, List.mem_flatMap, Statement.mem_held]

/-- The identifiers of a subject's relations are those of the relations that its statements hold. -/
theorem exists_relations_id_iff {l : StatementList} {id : RelationId} :
    (∃ r ∈ l.relations.toList, r.id = id) ↔
      ∃ s ∈ l.toList, ∃ rs, s.value = some (.relations rs) ∧ ∃ r ∈ rs, r.id = id := by
  have hids : l.relations.toList.map Relation.id = (l.held.map Relation.id).eraseDups := by
    rw [relations_eq_ofList, RelationList.ofList, RelationList.map_id_withoutIdKey, map_firstBy]
  calc (∃ r ∈ l.relations.toList, r.id = id)
      ↔ id ∈ l.relations.toList.map Relation.id := List.mem_map.symm
    _ ↔ ∃ r ∈ l.held, r.id = id := by rw [hids, List.mem_eraseDups, List.mem_map]
    _ ↔ _ := by
      simp only [mem_held]
      constructor
      · rintro ⟨r, ⟨s, hs, rs, hrs, hr⟩, rfl⟩
        exact ⟨s, hs, rs, hrs, r, hr, rfl⟩
      · rintro ⟨s, hs, rs, hrs, r, hr, rfl⟩
        exact ⟨r, ⟨s, hs, rs, hrs, hr⟩, rfl⟩

/-- **The relations of a subject are canonical.** They are the first of each identifier among those
that its statements hold, in that order, each as it was declared but for the reserved property; every
identifier held and no other is among them, and only once. A list of relations makes itself again. -/
theorem relations_canonical (l : StatementList) (list : RelationList) :
    List.Forall₂ Relation.Cleared
        ((l.held.map Relation.id).eraseDups.filterMap fun id => l.held.find? (·.id = id))
        l.relations.toList ∧
      (∀ id, (∃ r ∈ l.relations.toList, r.id = id) ↔
        ∃ s ∈ l.toList, ∃ rs, s.value = some (.relations rs) ∧ ∃ r ∈ rs, r.id = id) ∧
      (l.relations.toList.map Relation.id).Nodup ∧
      RelationList.ofList list.toList = list :=
  ⟨RelationList.cleared_ofList l.held, fun _ => exists_relations_id_iff, l.relations.distinct,
    list.ofList_toList⟩

/-- An identifier declared again by a later statement belongs to its first relation. -/
example : (StatementList.ofList [
    ⟨"founders", "relation", some (.relations
      [⟨⟨"r1"⟩, ⟨"FOUNDER"⟩, ⟨"ann"⟩, ∅⟩, ⟨⟨"r2"⟩, ⟨"FOUNDER"⟩, ⟨"bob"⟩, ∅⟩])⟩,
    ⟨"owner", "relation", some (.relations [⟨⟨"r1"⟩, ⟨"OWNER"⟩, ⟨"eve"⟩, ∅⟩])⟩]).relations.toList.map
      Relation.target = [⟨"ann"⟩, ⟨"bob"⟩] := by
  decide

end StatementList
end WikiGraph
