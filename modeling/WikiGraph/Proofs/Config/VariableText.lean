import WikiGraph.Proofs.Config.Numbers
/-!
# The texts of variables

The value of a variable is taken as a truth value, as an integer or as a number if it is spelled like
one, and is written anew where a text is wanted. Which text a setting gets is said here by the
spelling alone (`TakenAs`), and so is when that is the text of the variable itself
(`TakenAs.eq_iff_kept`).
-/
namespace WikiGraph.Config

open WikiGraph.Text

/-- The text spells an integer of 64 bits, of which one is a sign. -/
def SpellsWord (text : List Char) (k : Int) : Prop := SpellsInteger text k ∧ Word.fitsSigned k

/-- The text that a setting gets from a variable: the word for a truth value in lower case, the
digits of an integer of 64 bits, the layout of another number, and else the text as it is. -/
inductive TakenAs (t : String) : String → Prop where
  | truth {word : String} (hw : word.toList ∈ truthWords)
      (h : lowerCase t.toList = word.toList) : TakenAs t word
  | integer {k : Int} (h : SpellsWord t.toList k) : TakenAs t (toString k)
  | number {x : Binary64} (hi : ∀ k, ¬ SpellsWord t.toList k) (h : SpellsNumber t.toList x) :
      TakenAs t (String.ofList (Setting.renderFloat x))
  | text (hw : lowerCase t.toList ∉ truthWords) (h : ∀ x, ¬ SpellsNumber t.toList x) : TakenAs t t

/-- The texts that a setting gets as they are: truth values in lower case, integers in their
shortest spelling, other numbers in the layout they are written in, and all texts that spell
neither. -/
inductive Kept (t : String) : Prop where
  | truth (h : t.toList ∈ truthWords)
  | integer {k : Int} (h : SpellsWord t.toList k) (hs : IsShortest t.toList)
  | number {x : Binary64} (hi : ∀ k, ¬ SpellsWord t.toList k) (h : SpellsNumber t.toList x)
      (hs : Setting.renderFloat x = t.toList)
  | text (hw : lowerCase t.toList ∉ truthWords) (h : ∀ x, ¬ SpellsNumber t.toList x)

variable {t u : String}

theorem settingOfVariable_of_not_truth (h : lowerCase t.toList ∉ truthWords) :
    settingOfVariable t = ((integerOf? t.toList).map .integer).getD
      (((numberOf? t.toList).map .float).getD (.text t)) := by
  simp only [truthWords, List.mem_cons, List.not_mem_nil, or_false, not_or] at h
  unfold settingOfVariable
  simp only [String.ofList_eq, h, if_false]
  cases integerOf? t.toList <;> cases numberOf? t.toList <;> rfl

theorem integerOf?_eq_none (h : ∀ k, ¬ SpellsWord t.toList k) : integerOf? t.toList = none :=
  Option.eq_none_iff_forall_ne_some.2 fun k hk => h k (integerOf?_eq_some_iff.1 hk)

theorem numberOf?_eq_none (h : ∀ x, ¬ SpellsNumber t.toList x) : numberOf? t.toList = none :=
  Option.eq_none_iff_forall_ne_some.2 fun x hx => h x (numberOf?_eq_some_iff.1 hx)

theorem TakenAs.toText? (h : TakenAs t u) : (settingOfVariable t).toText? = some u := by
  cases h with
  | truth hw h =>
    unfold settingOfVariable
    simp only [h, String.ofList_toList]
    simp only [truthWords, List.mem_cons, List.not_mem_nil, or_false, String.toList_inj] at hw
    rcases hw with rfl | rfl <;> rfl
  | integer h =>
    obtain ⟨x, hx⟩ := exists_number_of_integer h.1
    rw [settingOfVariable_of_not_truth hx.not_truth, integerOf?_eq_some_iff.2 h]
    rfl
  | number hi h =>
    rw [settingOfVariable_of_not_truth h.not_truth, integerOf?_eq_none hi,
      numberOf?_eq_some_iff.2 h]
    rfl
  | text hw h =>
    have hi : ∀ k, ¬ SpellsWord t.toList k := fun k hk => (exists_number_of_integer hk.1).elim h
    rw [settingOfVariable_of_not_truth hw, integerOf?_eq_none hi, numberOf?_eq_none h]
    rfl

/-- Every text is taken in one of the four ways. -/
theorem exists_takenAs (t : String) : ∃ u, TakenAs t u := by
  by_cases hw : lowerCase t.toList ∈ truthWords
  · exact ⟨String.ofList (lowerCase t.toList), .truth (by simpa using hw) (by simp)⟩
  · by_cases hi : ∃ k, SpellsWord t.toList k
    · obtain ⟨k, hk⟩ := hi
      exact ⟨_, .integer hk⟩
    · by_cases hx : ∃ x, SpellsNumber t.toList x
      · obtain ⟨x, hx⟩ := hx
        exact ⟨_, .number (not_exists.1 hi) hx⟩
      · exact ⟨_, .text hw (not_exists.1 hx)⟩

/-- **What a setting gets from a variable**, said without the readers. -/
theorem toText?_settingOfVariable_iff : (settingOfVariable t).toText? = some u ↔ TakenAs t u := by
  refine ⟨fun h => ?_, TakenAs.toText?⟩
  obtain ⟨u', hu'⟩ := exists_takenAs t
  have hsame : u' = u := Option.some.inj (hu'.toText?.symm.trans h)
  exact hsame ▸ hu'

theorem TakenAs.kept (h : TakenAs t u) (hu : u = t) : Kept t := by
  cases h with
  | truth hw h => exact .truth (hu ▸ hw)
  | integer h => exact .integer h ((toList_toString_iff h.1).1 (congrArg String.toList hu))
  | number hi h => exact .number hi h (String.toList_ofList.symm.trans (congrArg String.toList hu))
  | text hw h => exact .text hw h

theorem Kept.takenAs (h : Kept t) : TakenAs t t := by
  cases h with
  | truth h =>
    have hlower : ∀ word ∈ truthWords, lowerCase word = word := by decide
    exact .truth h (hlower _ h)
  | @integer k h hs =>
    have hwritten : toString k = t := String.toList_inj.1 ((toList_toString_iff h.1).2 hs)
    have hk := TakenAs.integer h
    rwa [hwritten] at hk
  | @number x hi h hs =>
    have hx := TakenAs.number hi h
    rwa [hs, String.ofList_toList] at hx
  | text hw h => exact .text hw h

/-- **A setting gets the text of a variable as it is** exactly if the text is one of those kept. -/
theorem TakenAs.eq_iff_kept (h : TakenAs t u) : u = t ↔ Kept t := by
  refine ⟨h.kept, fun hk => ?_⟩
  exact Option.some.inj (h.toText?.symm.trans hk.takenAs.toText?)

theorem kept_iff : Kept t ↔ (settingOfVariable t).toText? = some t :=
  ⟨fun h => h.takenAs.toText?, fun h => (toText?_settingOfVariable_iff.1 h).kept rfl⟩

instance : Decidable (Kept t) := decidable_of_iff _ kept_iff.symm

example : Kept "s3cret" ∧ Kept "-7" ∧ Kept "0.5" ∧ ¬ Kept "007" ∧ ¬ Kept "1e3" ∧ ¬ Kept "TRUE" := by
  decide +kernel

end WikiGraph.Config
