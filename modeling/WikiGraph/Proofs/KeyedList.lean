import Mathlib.Data.List.Nodup
import WikiGraph.Distinct
/-!
# Lists of elements with keys

Statements are told apart by their properties and relations by their identifiers. Where no key occurs
twice, what is found under a key does not depend on the order of the list (`find?_key_of_perm`), and
the order of the keys with what is found under each is the whole list (`filterMap_find?_of_nodup`). So
two facts say what the first elements of each key are: the order of their keys (`map_firstBy`) and what
is found under each (`find?_firstBy`).
-/
namespace WikiGraph

variable {α κ : Type} [DecidableEq κ]

/-! ## Keys of their own -/

theorem find?_key_eq_some_iff {key : α → κ} {items : List α} (h : (items.map key).Nodup) {k : κ}
    {a : α} : items.find? (key · = k) = some a ↔ a ∈ items ∧ key a = k := by
  constructor
  · intro hf
    exact ⟨List.mem_of_find?_eq_some hf, by simpa using List.find?_some hf⟩
  · rintro ⟨ha, rfl⟩
    cases hf : items.find? (key · = key a) with
    | none => exact absurd (decide_eq_true rfl) (List.find?_eq_none.1 hf a ha)
    | some b =>
      have hk : key b = key a := by simpa using List.find?_some hf
      rw [List.inj_on_of_nodup_map h (List.mem_of_find?_eq_some hf) ha hk]

theorem find?_key_of_perm {key : α → κ} {items items' : List α} (h : (items.map key).Nodup)
    (hp : items'.Perm items) (k : κ) :
    items'.find? (key · = k) = items.find? (key · = k) := by
  have h' : (items'.map key).Nodup := (hp.map key).nodup_iff.2 h
  refine Option.ext fun a => ?_
  rw [find?_key_eq_some_iff h, find?_key_eq_some_iff h', hp.mem_iff]

/-- Where no key occurs twice, the keys and what is found under them make up the list. -/
theorem filterMap_find?_of_nodup {key : α → κ} {items : List α} (h : (items.map key).Nodup) :
    (items.map key).filterMap (fun k => items.find? (key · = k)) = items := by
  induction items with
  | nil => rfl
  | cons a rest ih =>
    rw [List.map_cons, List.nodup_cons] at h
    have hrest : (rest.map key).filterMap (fun k => (a :: rest).find? (key · = k)) =
        (rest.map key).filterMap fun k => rest.find? (key · = k) := by
      refine List.filterMap_congr fun k hk => ?_
      have hne : key a ≠ k := fun e => h.1 (e ▸ hk)
      simp [hne]
    have hfirst : (a :: rest).find? (key · = key a) = some a := by simp
    rw [List.map_cons, List.filterMap_cons, hfirst, hrest, ih h.2]

/-! ## Names in the order of their first occurrence -/

/-- A name more at the end of a list is a new one or occurs already. -/
theorem eraseDups_concat (names : List κ) (name : κ) :
    (names ++ [name]).eraseDups =
      if name ∈ names then names.eraseDups else names.eraseDups ++ [name] := by
  rw [List.eraseDups_append]
  by_cases h : name ∈ names <;> simp [List.removeAll, List.eraseDups_cons, h]

/-- Names that are told apart are kept whole. -/
theorem eraseDups_of_nodup {names : List κ} (h : names.Nodup) : names.eraseDups = names := by
  induction names with
  | nil => rfl
  | cons name rest ih =>
    rw [List.nodup_cons] at h
    have hrest : (rest.filter fun other => !other == name) = rest := by
      refine List.filter_eq_self.2 fun other ho => ?_
      have hne : other ≠ name := fun e => h.1 (e ▸ ho)
      simpa using hne
    rw [List.eraseDups_cons, hrest, ih h.2]

/-! ## First of each key -/

theorem map_firstByAfter (key : α → κ) (seen : List κ) (items : List α) :
    (firstByAfter key seen items).map key = ((items.map key).removeAll seen).eraseDups := by
  induction items generalizing seen with
  | nil => rfl
  | cons a rest ih =>
    have hcons : ∀ keys : List κ, keys.removeAll (key a :: seen) =
        (keys.removeAll seen).filter fun k => !k == key a := by
      intro keys
      simp [List.removeAll, List.filter_filter, beq_eq_decide]
    by_cases ha : key a ∈ seen
    · rw [firstByAfter, if_pos ha, ih]
      simp [List.removeAll, ha]
    · rw [firstByAfter, if_neg ha, List.map_cons, ih, hcons]
      simp [List.removeAll, ha, List.eraseDups_cons]

/-- The keys come in the order of their first occurrence. -/
theorem map_firstBy (key : α → κ) (items : List α) :
    (firstBy key items).map key = (items.map key).eraseDups := by
  rw [firstBy, map_firstByAfter, List.removeAll_nil]

theorem find?_firstByAfter {key : α → κ} {seen : List κ} {k : κ} (hk : k ∉ seen)
    (items : List α) :
    (firstByAfter key seen items).find? (key · = k) = items.find? (key · = k) := by
  induction items generalizing seen with
  | nil => rfl
  | cons a rest ih =>
    by_cases ha : key a ∈ seen
    · have hne : key a ≠ k := fun e => hk (e ▸ ha)
      rw [firstByAfter, if_pos ha, ih hk]
      simp [hne]
    · by_cases hak : key a = k
      · rw [firstByAfter, if_neg ha]
        simp [hak]
      · have hk' : k ∉ key a :: seen := by simp [hk, Ne.symm hak]
        rw [firstByAfter, if_neg ha, List.find?_cons, List.find?_cons, ih hk']

/-- Under each key stands the first element that has it. -/
theorem find?_firstBy (key : α → κ) (items : List α) (k : κ) :
    (firstBy key items).find? (key · = k) = items.find? (key · = k) :=
  find?_firstByAfter (by simp) items

/-- **The first of each key.** -/
theorem firstBy_eq_filterMap (key : α → κ) (items : List α) :
    firstBy key items = (items.map key).eraseDups.filterMap fun k => items.find? (key · = k) := by
  have h := filterMap_find?_of_nodup (nodup_map_firstBy key items)
  rw [map_firstBy] at h
  simpa only [find?_firstBy] using h.symm

/-- A list that repeats no key is kept whole. -/
theorem firstBy_of_nodup {key : α → κ} {items : List α} (h : (items.map key).Nodup) :
    firstBy key items = items := by
  rw [firstBy_eq_filterMap, eraseDups_of_nodup h, filterMap_find?_of_nodup h]

end WikiGraph
