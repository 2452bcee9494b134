import Mathlib.Data.List.Induction
import Mathlib.Data.List.TakeWhile
import WikiGraph.Proofs.Json.Numeral
import WikiGraph.Text.CaseForm
/-!
# Spelled numbers

What it means that a text spells a natural number or an integer in decimal digits (`Spells`,
`SpellsInteger`), said without a reader. An integer has many spellings and one shortest spelling,
the one it is written with: without a plus sign, and without a zero before other digits
(`toList_toString_iff`).
-/
namespace WikiGraph.Text

/-! ## Characters -/

theorem toNat_of_isDigit {c : Char} (h : c.isDigit) : 48 ≤ c.toNat ∧ c.toNat ≤ 57 :=
  Char.isDigit_iff_toNat.1 h

theorem digitValue_le {c : Char} (h : c.isDigit) : digitValue c ≤ 9 := by
  have hb := toNat_of_isDigit h
  have h0 : '0'.toNat = 48 := rfl
  unfold digitValue
  omega

theorem natOfDigits_lt {digits : List Char} (hd : ∀ c ∈ digits, c.isDigit) :
    natOfDigits digits < Nat.pow 10 digits.length := by
  induction digits using List.reverseRecOn with
  | nil => decide
  | append_singleton digits c ih =>
    have hc := digitValue_le (hd c (by simp))
    have hlt := ih fun d hdm => hd d (List.mem_append_left [c] hdm)
    have hpow : Nat.pow 10 (digits ++ [c]).length = Nat.pow 10 digits.length * 10 := by
      simp [Nat.pow_succ]
    rw [natOfDigits_concat, hpow]
    omega

/-- The text does not begin with a character of a class. -/
def Stops (p : Char → Bool) (text : List Char) : Prop := ∀ c ∈ text.head?, p c = false

theorem stops_nil (p : Char → Bool) : Stops p [] := by
  rintro c ⟨⟩

theorem stops_cons {p : Char → Bool} {c : Char} (h : p c = false) (text : List Char) :
    Stops p (c :: text) := by
  rintro d ⟨⟩
  exact h

theorem takeWhile_of_stops {p : Char → Bool} {text : List Char} (h : Stops p text) :
    text.takeWhile p = [] := by
  cases text with
  | nil => rfl
  | cons c rest =>
    have hc : p c = false := h c rfl
    simp [hc]

theorem Stops.take {p : Char → Bool} {text : List Char} (h : Stops p text) (k : Nat) :
    Stops p (text.take k) := by
  cases text with
  | nil => simpa using h
  | cons c rest =>
    cases k with
    | zero => exact stops_nil p
    | succ k => exact stops_cons (h c rfl) _

/-- A run of a class ends where the text stops. -/
theorem takeWhile_append_of_stops {p : Char → Bool} {run rest : List Char} (hrun : ∀ c ∈ run, p c)
    (hrest : Stops p rest) : (run ++ rest).takeWhile p = run := by
  rw [List.takeWhile_append_of_pos hrun, takeWhile_of_stops hrest, List.append_nil]

/-! ## Natural numbers -/

/-- At least one and at most `limit` ASCII digits that spell a number. -/
structure Spells (limit : Nat) (text : List Char) (n : Nat) : Prop where
  digits : ∀ c ∈ text, c.isDigit
  nonempty : text ≠ []
  short : text.length ≤ limit
  value : natOfDigits text = n

theorem Spells.mono {limit limit' n : Nat} {text : List Char} (h : Spells limit text n)
    (hl : text.length ≤ limit') : Spells limit' text n :=
  ⟨h.digits, h.nonempty, hl, h.value⟩

theorem digitChar_digitValue {c : Char} (h : c.isDigit) : (digitValue c).digitChar = c := by
  have hb := toNat_of_isDigit h
  have hall : ∀ n < 10, (digitValue (Char.ofNat (48 + n))).digitChar = Char.ofNat (48 + n) := by
    decide
  have hc := hall (c.toNat - 48) (by omega)
  have hcode : 48 + (c.toNat - 48) = c.toNat := by omega
  rwa [hcode, Char.ofNat_toNat] at hc

/-- Digits read behind a number other than zero are written behind its own digits. -/
theorem toDigits_foldl {digits : List Char} {n : Nat} (hn : 0 < n) (hd : ∀ c ∈ digits, c.isDigit) :
    Nat.toDigits 10 (digits.foldl (fun n c => n * 10 + digitValue c) n) =
      Nat.toDigits 10 n ++ digits := by
  induction digits generalizing n with
  | nil => simp
  | cons c rest ih =>
    have hc := hd c List.mem_cons_self
    have hv := digitValue_le hc
    have hsingle : Nat.toDigits 10 (digitValue c) = [c] := by
      rw [Nat.toDigits_of_lt_base (by omega), digitChar_digitValue hc]
    have hlast : Nat.toDigits 10 (n * 10 + digitValue c) = Nat.toDigits 10 n ++ [c] := by
      rw [Nat.mul_comm, ← Nat.toDigits_append_toDigits (by decide) hn (by omega), hsingle]
    rw [List.foldl_cons, ih (by omega) fun d hdm => hd d (List.mem_cons_of_mem c hdm), hlast,
      List.append_assoc, List.singleton_append]

/-- Digits that do not begin with a zero are the digits of the number they spell. -/
theorem toDigits_natOfDigits {digits : List Char} (hd : ∀ c ∈ digits, c.isDigit)
    (hne : digits ≠ []) (hz : digits.head? ≠ some '0') :
    Nat.toDigits 10 (natOfDigits digits) = digits := by
  obtain ⟨c, rest, rfl⟩ := List.exists_cons_of_ne_nil hne
  have hc := hd c List.mem_cons_self
  have hb := toNat_of_isDigit hc
  have hv := digitValue_le hc
  have hpos : 0 < digitValue c := by
    have hne0 : c.toNat ≠ 48 := fun h => hz (congrArg some (Char.toNat_inj.1 h))
    have h0 : '0'.toNat = 48 := rfl
    unfold digitValue
    omega
  calc Nat.toDigits 10 (natOfDigits (c :: rest))
      = Nat.toDigits 10 (rest.foldl (fun n c => n * 10 + digitValue c) (digitValue c)) := by
        simp [natOfDigits]
    _ = Nat.toDigits 10 (digitValue c) ++ rest :=
        toDigits_foldl hpos fun d hdm => hd d (List.mem_cons_of_mem c hdm)
    _ = c :: rest := by
        rw [Nat.toDigits_of_lt_base (by omega), digitChar_digitValue hc, List.singleton_append]

/-- **A number is written in its one spelling without a zero before other digits.** -/
theorem toDigits_eq_iff {limit n : Nat} {digits : List Char} (h : Spells limit digits n) :
    Nat.toDigits 10 n = digits ↔ digits = ['0'] ∨ digits.head? ≠ some '0' := by
  constructor
  · intro hwritten
    by_cases hn : n = 0
    · subst hn
      exact .inl hwritten.symm
    · exact .inr (hwritten ▸ head?_toDigits_ne hn)
  · have hvalue := h.value
    rintro (rfl | hz)
    · subst hvalue
      rfl
    · rw [← hvalue, toDigits_natOfDigits h.digits h.nonempty hz]

/-- A spelled number begins with a digit. -/
theorem Spells.head {limit n : Nat} {digits : List Char} (h : Spells limit digits n) {c : Char}
    (hc : c.isDigit = false) : digits.head? ≠ some c := by
  intro hhead
  have hdigit := h.digits c (List.mem_of_mem_head? hhead)
  rw [hc] at hdigit
  cases hdigit

/-! ## Integers -/

/-- Any number of digits with or without a sign that spell an integer. -/
inductive SpellsInteger : List Char → Int → Prop where
  | unsigned {digits : List Char} {n : Nat} (h : Spells digits.length digits n) :
      SpellsInteger digits n
  | plus {digits : List Char} {n : Nat} (h : Spells digits.length digits n) :
      SpellsInteger ('+' :: digits) n
  | minus {digits : List Char} {n : Nat} (h : Spells digits.length digits n) :
      SpellsInteger ('-' :: digits) (-n)

/-- No plus sign, no zero before other digits, and no sign before zero. -/
def IsShortest (text : List Char) : Prop :=
  text = ['0'] ∨ text.head? ≠ some '0' ∧ text.head? ≠ some '+' ∧ ∀ rest, text ≠ '-' :: '0' :: rest

theorem toList_toString_natCast (n : Nat) : (toString (n : Int)).toList = Nat.toDigits 10 n := by
  show n.repr.toList = _
  exact Nat.toList_repr

theorem toList_toString_neg {n : Nat} (h : n ≠ 0) :
    (toString (-(n : Int))).toList = '-' :: Nat.toDigits 10 n := by
  obtain ⟨m, rfl⟩ := Nat.exists_eq_succ_of_ne_zero h
  show ("-" ++ (m + 1).repr).toList = _
  rw [String.toList_append, Nat.toList_repr]
  rfl

/-- The digits of a number do not begin with a sign. -/
theorem toDigits_ne_cons {n : Nat} {c : Char} (hc : c.isDigit = false) (rest : List Char) :
    Nat.toDigits 10 n ≠ c :: rest := by
  intro heq
  have hdigit : c.isDigit := isDigit_of_mem_toDigits (heq ▸ List.mem_cons_self)
  rw [hc] at hdigit
  cases hdigit

/-- **An integer is written in its shortest spelling**, and in no other. -/
theorem toList_toString_iff {text : List Char} {n : Int} (h : SpellsInteger text n) :
    (toString n).toList = text ↔ IsShortest text := by
  cases h with
  | @unsigned _ n h =>
    have hplus : text.head? ≠ some '+' := h.head rfl
    have hminus : ∀ rest, text ≠ '-' :: '0' :: rest := by
      rintro rest rfl
      exact h.head (c := '-') rfl rfl
    rw [toList_toString_natCast, toDigits_eq_iff h]
    unfold IsShortest
    tauto
  | @plus digits n h =>
    rw [toList_toString_natCast]
    simp [IsShortest, toDigits_ne_cons]
  | @minus digits n h =>
    by_cases hn : n = 0
    · subst hn
      -- A number spelled with a sign before zero is written without one.
      have hzero : ∃ rest, digits = '0' :: rest := by
        by_contra hne
        have hhead : digits.head? ≠ some '0' := fun hz => hne (List.head?_eq_some_iff.1 hz)
        have hdigits := (toDigits_eq_iff h).2 (.inr hhead)
        exact hne ⟨[], hdigits.symm⟩
      obtain ⟨rest, rfl⟩ := hzero
      have hwritten : (toString (-((0 : Nat) : Int))).toList = ['0'] := rfl
      rw [hwritten]
      simp [IsShortest]
    · rw [toList_toString_neg hn, List.cons_inj_right, toDigits_eq_iff h]
      have hsingle : digits ≠ ['0'] := by
        rintro rfl
        exact hn h.value.symm
      have hhead : digits.head? ≠ some '0' ↔ ∀ rest, digits ≠ '0' :: rest := by
        rw [ne_eq, List.head?_eq_some_iff, not_exists]
      simp [IsShortest, hsingle, hhead]

end WikiGraph.Text
