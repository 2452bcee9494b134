/-!
# Folds that touch one key at a time

Writing the subjects of a page, reconciling them and carrying out a plan are folds over items with
distinct keys, and each step touches the entry at its own key alone. What became of an entry is then
what its own step made of it, wherever in the list that step stands (`KeyedStep.foldl`).
-/
namespace WikiGraph

variable {σ α κ β : Type}

/-- Each step changes the entry at its own key alone, in a way that `became` describes, and keeps an
invariant. -/
structure KeyedStep (step : σ → α → σ) (key : α → κ) (entry : σ → κ → β)
    (became : α → β → β → Prop) (inv : σ → Prop) (items : List α) : Prop where
  keeps : ∀ s, ∀ a ∈ items, inv s → inv (step s a)
  own : ∀ s, ∀ a ∈ items, inv s → became a (entry s (key a)) (entry (step s a) (key a))
  other : ∀ s, ∀ a ∈ items, inv s → ∀ k, k ≠ key a → entry (step s a) k = entry s k

variable {step : σ → α → σ} {key : α → κ} {entry : σ → κ → β} {became : α → β → β → Prop}
  {inv : σ → Prop}

theorem KeyedStep.foldl {items : List α} (h : KeyedStep step key entry became inv items)
    (hn : (items.map key).Nodup) {s : σ} (hs : inv s) :
    inv (items.foldl step s) ∧
      (∀ a ∈ items, became a (entry s (key a)) (entry (items.foldl step s) (key a))) ∧
      ∀ k ∉ items.map key, entry (items.foldl step s) k = entry s k := by
  induction items generalizing s with
  | nil => exact ⟨hs, by simp, fun _ _ => rfl⟩
  | cons a rest ih =>
    have ha : a ∈ a :: rest := List.mem_cons_self
    have hr : ∀ b ∈ rest, b ∈ a :: rest := fun b hb => List.mem_cons_of_mem a hb
    have htail : KeyedStep step key entry became inv rest :=
      ⟨fun s b hb => h.keeps s b (hr b hb), fun s b hb => h.own s b (hr b hb),
        fun s b hb => h.other s b (hr b hb)⟩
    rw [List.map_cons, List.nodup_cons] at hn
    obtain ⟨hi, hown, hother⟩ := ih htail hn.2 (h.keeps s a ha hs)
    rw [List.foldl_cons]
    refine ⟨hi, fun b hb => ?_, fun k hk => ?_⟩
    · rcases List.mem_cons.1 hb with rfl | hb
      · rw [hother (key b) hn.1]
        exact h.own s b ha hs
      · have hne : key b ≠ key a := fun e => hn.1 (e ▸ List.mem_map_of_mem hb)
        rw [← h.other s a ha hs (key b) hne]
        exact hown b hb
    · rw [List.map_cons, List.mem_cons, not_or] at hk
      rw [hother k hk.2, h.other s a ha hs k hk.1]

end WikiGraph
