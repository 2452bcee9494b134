import Mathlib.Data.List.Basic
import Mathlib.Data.List.TakeWhile
import WikiGraph.Json.Token
import WikiGraph.Json.Writer
/-!
# Numerals

A numeral is made of numeral characters alone and begins with a digit or a minus sign
(`written_of_ofText?`), which is all that cutting a text into tokens depends on. The digits of a
whole number that fits 64 bits are read as that number (`toNumber?_renderInt`).
-/
namespace WikiGraph

open Text

/-! ## Digits -/

theorem natOfDigits_toDigits (n : Nat) : natOfDigits (Nat.toDigits 10 n) = n := by
  have hvalue : natOfDigits (Nat.toDigits 10 n) = Nat.ofDigitChars 10 (Nat.toDigits 10 n) 0 := by
    simp only [natOfDigits, digitValue, Nat.ofDigitChars_eq_foldl, Nat.mul_comm]
  rw [hvalue, Nat.ofDigitChars_ten_toDigits]

theorem isDigit_of_mem_toDigits {n : Nat} {c : Char} (h : c ∈ Nat.toDigits 10 n) : c.isDigit :=
  Nat.isDigit_of_mem_toDigits (by decide) (by decide) h

/-- The digits of a number other than zero do not begin with a zero. -/
theorem head?_toDigits_ne {n : Nat} (h : n ≠ 0) : (Nat.toDigits 10 n).head? ≠ some '0' := by
  induction n using Nat.strong_induction_on with
  | _ n ih =>
    by_cases hn : n < 10
    · have hsingle : ∀ n < 10, n ≠ 0 → [Nat.digitChar n].head? ≠ some '0' := by decide
      rw [Nat.toDigits_of_lt_base hn]
      exact hsingle n hn h
    · rw [Nat.toDigits_of_base_le (by decide) (by omega),
        List.head?_append_of_ne_nil _ Nat.toDigits_ne_nil]
      exact ih (n / 10) (by omega) (by omega)

namespace Json

/-! ## The characters of a numeral -/

def Written (text : List Char) : Prop := ∀ c ∈ text, isNumeralChar c

theorem isNumeralChar_of_isDigit {c : Char} (h : c.isDigit) : isNumeralChar c := by
  simp [isNumeralChar, h]

theorem digitsAhead?_eq_some {text digits rest : List Char}
    (h : Numeral.digitsAhead? text = some (digits, rest)) :
    text = digits ++ rest ∧ digits ≠ [] ∧ ∀ c ∈ digits, c.isDigit := by
  unfold Numeral.digitsAhead? at h
  split at h
  · cases h
  · rename_i found hne
    cases h
    refine ⟨(List.takeWhile_append_dropWhile).symm, ?_, fun c hc => ?_⟩
    · exact fun hnil => hne hnil
    · exact List.mem_takeWhile_imp hc

/-- All of a run of digits is found. -/
theorem digitsAhead?_digits {digits : List Char} (hne : digits ≠ [])
    (hd : ∀ c ∈ digits, c.isDigit) : Numeral.digitsAhead? digits = some (digits, []) := by
  have htake : digits.takeWhile Char.isDigit = digits := List.takeWhile_eq_self_iff.2 hd
  have hdrop : digits.dropWhile Char.isDigit = [] := List.dropWhile_eq_nil_iff.2 hd
  unfold Numeral.digitsAhead?
  rw [htake, hdrop]
  cases digits with
  | nil => exact absurd rfl hne
  | cons c rest => rfl

theorem wholeAhead?_eq_some {text digits rest : List Char}
    (h : Numeral.wholeAhead? text = some (digits, rest)) :
    text = digits ++ rest ∧ digits ≠ [] ∧ ∀ c ∈ digits, c.isDigit := by
  unfold Numeral.wholeAhead? at h
  split at h
  · rename_i hahead
    cases h
    exact digitsAhead?_eq_some hahead
  · cases h
  · exact digitsAhead?_eq_some h

theorem written_fraction {text rest : List Char} {fraction : Option (List Char)}
    (h : Numeral.fractionAhead? text = some (fraction, rest)) :
    ∃ found, text = found ++ rest ∧ Written found := by
  unfold Numeral.fractionAhead? at h
  split at h
  · rename_i after
    obtain ⟨⟨digits, left⟩, hahead, heq⟩ := Option.map_eq_some_iff.1 h
    cases heq
    obtain ⟨rfl, -, hd⟩ := digitsAhead?_eq_some hahead
    refine ⟨'.' :: digits, rfl, fun c hc => ?_⟩
    rcases List.mem_cons.1 hc with rfl | hc
    · rfl
    · exact isNumeralChar_of_isDigit (hd c hc)
  · cases h
    exact ⟨[], rfl, fun c hc => absurd hc List.not_mem_nil⟩

theorem written_exponentSign (text : List Char) :
    ∃ sign, text = sign ++ (Numeral.exponentSign text).2 ∧ Written sign := by
  unfold Numeral.exponentSign
  split
  · exact ⟨['+'], rfl, by simp [Written, isNumeralChar]⟩
  · exact ⟨['-'], rfl, by simp [Written, isNumeralChar]⟩
  · exact ⟨[], rfl, by simp [Written]⟩

theorem written_exponent {text rest : List Char} {exponent : Option Int}
    (h : Numeral.exponentAhead? text = some (exponent, rest)) :
    ∃ found, text = found ++ rest ∧ Written found := by
  unfold Numeral.exponentAhead? at h
  split at h
  · rename_i c after
    split at h
    · rename_i hc
      obtain ⟨⟨digits, left⟩, hahead, heq⟩ := Option.map_eq_some_iff.1 h
      cases heq
      obtain ⟨hunsigned, -, hd⟩ := digitsAhead?_eq_some hahead
      obtain ⟨sign, hsign, hw⟩ := written_exponentSign after
      have hafter : after = sign ++ (digits ++ rest) := hsign.trans (congrArg (sign ++ ·) hunsigned)
      refine ⟨c :: (sign ++ digits), ?_, fun d hm => ?_⟩
      · rw [List.cons_append, List.append_assoc, ← hafter]
      · rcases List.mem_cons.1 hm with rfl | hm
        · rcases hc with rfl | rfl <;> rfl
        · exact (List.mem_append.1 hm).elim (hw d) fun hm => isNumeralChar_of_isDigit (hd d hm)
    · cases h
      exact ⟨[], rfl, fun c hc => absurd hc List.not_mem_nil⟩
  · cases h
    exact ⟨[], rfl, fun c hc => absurd hc List.not_mem_nil⟩

/-- **A numeral consists of numeral characters** and begins with a digit or with a minus sign. -/
theorem written_of_ofText? {text : List Char} {n : Numeral} (h : Numeral.ofText? text = some n) :
    Written text ∧ ∃ c rest, text = c :: rest ∧ (c.isDigit ∨ c = '-') := by
  unfold Numeral.ofText? at h
  obtain ⟨⟨whole, afterWhole⟩, hwhole, h⟩ := Option.bind_eq_some_iff.1 h
  obtain ⟨⟨fraction, afterFraction⟩, hfraction, h⟩ := Option.bind_eq_some_iff.1 h
  obtain ⟨⟨exponent, rest⟩, hexponent, h⟩ := Option.bind_eq_some_iff.1 h
  have hrest : rest = [] := by
    simp only at h
    split at h
    · rename_i hempty
      exact List.isEmpty_iff.1 hempty
    · cases h
  obtain ⟨hunsigned, hne, hd⟩ := wholeAhead?_eq_some hwhole
  obtain ⟨found₁, hfound₁, hw₁⟩ := written_fraction hfraction
  obtain ⟨found₂, hfound₂, hw₂⟩ := written_exponent hexponent
  rw [hfound₁, hfound₂, hrest, List.append_nil] at hunsigned
  have hwritten : Written (whole ++ (found₁ ++ found₂)) := by
    intro c hc
    rcases List.mem_append.1 hc with hc | hc
    · exact isNumeralChar_of_isDigit (hd c hc)
    · exact (List.mem_append.1 hc).elim (hw₁ c) (hw₂ c)
  split at hunsigned
  · dsimp only at hunsigned
    rw [hunsigned]
    refine ⟨fun c hc => ?_, '-', _, rfl, .inr rfl⟩
    rcases List.mem_cons.1 hc with rfl | hc
    · rfl
    · exact hwritten c hc
  · dsimp only at hunsigned
    rw [hunsigned]
    obtain ⟨c, digits, rfl⟩ := List.exists_cons_of_ne_nil hne
    exact ⟨hwritten, c, _, rfl, .inl (hd c List.mem_cons_self)⟩

/-! ## Whole numbers -/

/-- Whether a whole number is read as one: it fits 64 bits, of which one is a sign if it is
negative. -/
def Fits (n : Int) : Prop := if n < 0 then Word.fitsSigned n else Word.fitsUnsigned n.natAbs

theorem wholeAhead?_toDigits (n : Nat) :
    Numeral.wholeAhead? (Nat.toDigits 10 n) = some (Nat.toDigits 10 n, []) := by
  have hahead := digitsAhead?_digits (Nat.toDigits_ne_nil (n := n) (b := 10)) fun _ =>
    isDigit_of_mem_toDigits
  unfold Numeral.wholeAhead?
  rw [hahead]
  split
  · rename_i heq
    exact heq ▸ rfl
  · rename_i digits rest hne heq
    have hzero : n = 0 := by
      by_contra hn
      exact head?_toDigits_ne hn (by simp_all)
    subst hzero
    simp_all
  · rfl

/-- A numeral without a sign begins with a digit, and so not with a minus sign. -/
theorem ofText?_toDigits (n : Nat) :
    Numeral.ofText? (Nat.toDigits 10 n) = some ⟨false, Nat.toDigits 10 n, none, none⟩ := by
  unfold Numeral.ofText?
  split
  rename_i negative unsigned heq
  split at heq
  · rename_i rest hc
    have hd := isDigit_of_mem_toDigits (hc ▸ List.mem_cons_self)
    exact absurd hd (by decide)
  · cases heq
    simp [wholeAhead?_toDigits, Numeral.fractionAhead?, Numeral.exponentAhead?]

theorem ofText?_renderInt (n : Int) :
    Numeral.ofText? (renderInt n) = some ⟨n < 0, Nat.toDigits 10 n.natAbs, none, none⟩ := by
  unfold renderInt
  by_cases hn : n < 0
  · unfold Numeral.ofText?
    simp [hn, wholeAhead?_toDigits, Numeral.fractionAhead?, Numeral.exponentAhead?]
  · rw [if_neg hn, List.nil_append, ofText?_toDigits, decide_eq_false hn]

/-- **A whole number that fits is read as itself.** -/
theorem toNumber?_renderInt {n : Int} (h : Fits n) :
    (Numeral.ofText? (renderInt n)).bind Numeral.toNumber? = some (.integer n) := by
  rw [ofText?_renderInt, Option.bind_some]
  unfold Numeral.toNumber?
  simp only [natOfDigits_toDigits, and_self, if_true]
  unfold Fits at h
  by_cases hn : n < 0
  · rw [if_pos hn] at h
    have habs : -(n.natAbs : Int) = n := by omega
    have hpos : 0 < n.natAbs := by omega
    rw [habs, if_pos (decide_eq_true hn), if_pos ⟨hpos, h⟩]
  · rw [if_neg hn] at h
    have habs : (n.natAbs : Int) = n := by omega
    rw [decide_eq_false hn, if_neg (by decide), if_pos h, habs]

end Json
end WikiGraph
