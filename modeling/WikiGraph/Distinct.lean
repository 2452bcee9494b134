/-!
# First of each key

Lists of declarations may repeat a key; the first declaration of each key counts. `firstBy` keeps
those, in order.
-/
namespace WikiGraph

variable {α κ : Type} [DecidableEq κ]

/-- The elements whose key occurs neither in `seen` nor earlier in the list. -/
def firstByAfter (key : α → κ) (seen : List κ) : List α → List α
  | [] => []
  | a :: rest =>
    if key a ∈ seen then firstByAfter key seen rest
    else a :: firstByAfter key (key a :: seen) rest

def firstBy (key : α → κ) (items : List α) : List α := firstByAfter key [] items

theorem key_not_mem_of_mem_firstByAfter {key : α → κ} {seen : List κ} {items : List α} {a : α}
    (h : a ∈ firstByAfter key seen items) : key a ∉ seen := by
  induction items generalizing seen with
  | nil => simp [firstByAfter] at h
  | cons b rest ih =>
    unfold firstByAfter at h
    split at h
    · exact ih h
    · rename_i hb
      rcases List.mem_cons.1 h with rfl | h
      · exact hb
      · exact fun hs => ih h (List.mem_cons_of_mem _ hs)

theorem nodup_map_firstByAfter (key : α → κ) (seen : List κ) (items : List α) :
    ((firstByAfter key seen items).map key).Nodup := by
  induction items generalizing seen with
  | nil => simp [firstByAfter]
  | cons a rest ih =>
    unfold firstByAfter
    split
    · exact ih seen
    · simp only [List.map_cons, List.nodup_cons]
      refine ⟨fun hm => ?_, ih _⟩
      obtain ⟨b, hb, hab⟩ := List.mem_map.1 hm
      exact key_not_mem_of_mem_firstByAfter hb (by simp [hab])

/-- No key occurs twice among the first elements. -/
theorem nodup_map_firstBy (key : α → κ) (items : List α) : ((firstBy key items).map key).Nodup :=
  nodup_map_firstByAfter key [] items

theorem mem_of_mem_firstByAfter {key : α → κ} {seen : List κ} {items : List α} {a : α}
    (h : a ∈ firstByAfter key seen items) : a ∈ items := by
  induction items generalizing seen with
  | nil => simp [firstByAfter] at h
  | cons b rest ih =>
    unfold firstByAfter at h
    split at h
    · exact List.mem_cons_of_mem _ (ih h)
    · rcases List.mem_cons.1 h with rfl | h
      · simp
      · exact List.mem_cons_of_mem _ (ih h)

theorem key_mem_firstByAfter {key : α → κ} {seen : List κ} {items : List α} {a : α}
    (h : a ∈ items) (hs : key a ∉ seen) : key a ∈ (firstByAfter key seen items).map key := by
  induction items generalizing seen with
  | nil => cases h
  | cons b rest ih =>
    unfold firstByAfter
    by_cases hk : key a = key b
    · rw [if_neg (hk ▸ hs), List.map_cons, hk]
      exact List.mem_cons_self
    · have hr : a ∈ rest := (List.mem_cons.1 h).resolve_left fun e => hk (e ▸ rfl)
      split
      · exact ih hr hs
      · rw [List.map_cons]
        exact List.mem_cons_of_mem _ (ih hr (by simp [hk, hs]))

/-- Every key has a first element. -/
theorem key_mem_firstBy {key : α → κ} {items : List α} {a : α} (h : a ∈ items) :
    key a ∈ (firstBy key items).map key :=
  key_mem_firstByAfter h (by simp)

theorem mem_of_mem_firstBy {key : α → κ} {items : List α} {a : α} (h : a ∈ firstBy key items) :
    a ∈ items :=
  mem_of_mem_firstByAfter h

end WikiGraph
