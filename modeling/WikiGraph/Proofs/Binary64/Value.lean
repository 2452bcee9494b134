import Mathlib.Algebra.Order.Field.Power
import Mathlib.Algebra.Order.Field.Rat
import Mathlib.Data.Nat.Cast.Field
import Mathlib.Tactic.Linarith
import Mathlib.Tactic.Positivity
import Mathlib.Tactic.Ring
import WikiGraph.Proofs.Binary64.Finite
import WikiGraph.ValueBuilder
/-!
# The values of binary numbers

A finite pattern stands for a rational number, read off its three fields as the format defines it,
and two other patterns stand for the infinities (`quantity?`). `whole?` finds the integer that a
pattern stands for, and no other (`whole?_eq_some_iff`); two patterns compare equal exactly when
they stand for the same (`same_iff_quantity?`), and of two finite ones one is less exactly when its
value is (`less_iff_value_lt`). The bound of the builder is `2 ^ 63` by rounding
(`value_integerBound`). So the builder of numbers loses nothing
(`ValueBuilder.number_stored_exactly`): what it stores is equal to the number, and numbers that
differ are stored as scalars that differ.
-/
namespace WikiGraph
namespace Binary64

/-! ## The fields of a pattern -/

def exponentField (x : Binary64) : Nat := x.bits.toNat / 2 ^ 52 % 2 ^ 11

def fraction (x : Binary64) : Nat := x.bits.toNat % 2 ^ 52

/-- What a pattern stands for, if it stands for a number. -/
inductive Quantity where
  | finite (q : ℚ)
  | infinite (negative : Bool)
deriving DecidableEq

def signed (x : Binary64) (q : ℚ) : ℚ := if x.negative then -q else q

/-- The rational number that a finite pattern stands for: with the exponent field zero the fraction
counts in units of `2 ^ (-1074)`, and else a leading bit stands before it and each exponent doubles
the unit. -/
def value (x : Binary64) : ℚ :=
  x.signed <|
    if x.exponentField = 0 then x.fraction * 2 ^ (-1074 : ℤ)
    else (2 ^ 52 + x.fraction : ℕ) * 2 ^ ((x.exponentField : ℤ) - 1075)

/-- What a pattern stands for: with all bits of the exponent field set an infinity, or no number if
there is a fraction. -/
def quantity? (x : Binary64) : Option Quantity :=
  if x.exponentField = 2047 then if x.fraction = 0 then some (.infinite x.negative) else none
  else some (.finite x.value)

theorem magnitude_eq (x : Binary64) : x.magnitude = x.exponentField * 2 ^ 52 + x.fraction := by
  unfold magnitude exponentField fraction signWeight
  omega

theorem fraction_lt (x : Binary64) : x.fraction < 2 ^ 52 := Nat.mod_lt _ (by decide)

theorem exponentField_le (x : Binary64) : x.exponentField ≤ 2047 := by
  have h : x.exponentField < 2 ^ 11 := Nat.mod_lt _ (by decide)
  omega

theorem isFinite_iff (x : Binary64) : x.isFinite ↔ x.exponentField ≠ 2047 := by
  have hm := magnitude_eq x
  have hf := fraction_lt x
  have he := exponentField_le x
  unfold isFinite infinityMagnitude leadingWeight
  rw [decide_eq_true_iff]
  omega

theorem isNaN_iff (x : Binary64) : x.isNaN ↔ x.exponentField = 2047 ∧ x.fraction ≠ 0 := by
  have hm := magnitude_eq x
  have hf := fraction_lt x
  have he := exponentField_le x
  unfold isNaN infinityMagnitude leadingWeight
  rw [decide_eq_true_iff]
  omega

theorem scale_eq (x : Binary64) : x.scale = max x.exponentField 1 := by
  have hm := magnitude_eq x
  have hf := fraction_lt x
  have hq : x.magnitude / leadingWeight = x.exponentField := by
    unfold leadingWeight
    omega
  rw [scale, hq]

theorem significand_eq (x : Binary64) :
    x.significand = if x.exponentField = 0 then x.fraction else 2 ^ 52 + x.fraction := by
  have hm := magnitude_eq x
  have hf := fraction_lt x
  unfold significand leadingWeight
  split <;> split <;> omega

/-- The pattern without its sign can be put together again from scale and significand. -/
theorem magnitude_add_leadingWeight (x : Binary64) :
    x.magnitude + leadingWeight = x.scale * leadingWeight + x.significand := by
  have hm := magnitude_eq x
  rw [scale_eq, significand_eq]
  unfold leadingWeight
  split <;> omega

theorem leadingWeight_le_significand {x : Binary64} (h : 1 < x.scale) :
    leadingWeight ≤ x.significand := by
  rw [scale_eq] at h
  rw [significand_eq]
  unfold leadingWeight
  split <;> omega

/-! ## The rational number -/

theorem value_eq (x : Binary64) :
    x.value = x.signed (x.significand * 2 ^ ((x.scale : ℤ) - 1075)) := by
  rw [value, significand_eq, scale_eq]
  split
  · rename_i h
    have hexp : ((max 0 1 : ℕ) : ℤ) - 1075 = -1074 := rfl
    rw [h, hexp]
  · rename_i h
    have hmax : max x.exponentField 1 = x.exponentField := by omega
    rw [hmax]

/-- The distance of a finite number from zero, in units of the smallest number there is. -/
def units (x : Binary64) : ℕ := x.significand * 2 ^ (x.scale - 1)

theorem value_eq_units (x : Binary64) : x.value = x.signed (x.units * 2 ^ (-1074 : ℤ)) := by
  have hscale : 1 ≤ x.scale := Nat.le_max_right _ _
  have hexp : (x.scale : ℤ) - 1075 = ((x.scale - 1 : ℕ) : ℤ) + -1074 := by omega
  have hpow : (2 : ℚ) ^ ((x.scale : ℤ) - 1075) = 2 ^ (x.scale - 1) * 2 ^ (-1074 : ℤ) := by
    rw [hexp, zpow_add₀ two_ne_zero, zpow_natCast]
  rw [value_eq, hpow, units, Nat.cast_mul, Nat.cast_pow, Nat.cast_ofNat, mul_assoc]

/-- A number with a larger scale is further from zero, whatever the significands. -/
theorem units_lt_of_scale_lt {x y : Binary64} (h : x.scale < y.scale) : x.units < y.units := by
  have hscale : 1 ≤ x.scale := Nat.le_max_right _ _
  have hx : x.significand < 2 ^ 53 := significand_lt x
  have hy : 2 ^ 52 ≤ y.significand := leadingWeight_eq ▸ leadingWeight_le_significand (by omega)
  calc x.significand * 2 ^ (x.scale - 1)
      < 2 ^ 53 * 2 ^ (x.scale - 1) := Nat.mul_lt_mul_of_pos_right hx (Nat.two_pow_pos _)
    _ = 2 ^ 52 * 2 ^ (x.scale - 1 + 1) := by ring
    _ ≤ 2 ^ 52 * 2 ^ (y.scale - 1) :=
        Nat.mul_le_mul_left _ (Nat.pow_le_pow_right (by decide) (by omega))
    _ ≤ y.significand * 2 ^ (y.scale - 1) := Nat.mul_le_mul_right _ hy

theorem magnitude_eq_of_units {x y : Binary64} (h : x.units = y.units) :
    x.magnitude = y.magnitude := by
  have hscale : x.scale = y.scale := by
    rcases Nat.lt_trichotomy x.scale y.scale with hlt | heq | hlt
    · exact absurd h (units_lt_of_scale_lt hlt).ne
    · exact heq
    · exact absurd h (units_lt_of_scale_lt hlt).ne'
  have hsignificand : x.significand = y.significand := by
    rw [units, units, hscale] at h
    exact Nat.eq_of_mul_eq_mul_right (Nat.two_pow_pos _) h
  have hx := magnitude_add_leadingWeight x
  have hy := magnitude_add_leadingWeight y
  rw [hscale, hsignificand] at hx
  omega

theorem units_eq_zero_iff (x : Binary64) : x.units = 0 ↔ x.isZero := by
  have hpos : 0 < 2 ^ (x.scale - 1) := Nat.two_pow_pos _
  have hm := magnitude_eq x
  have hs := significand_eq x
  simp only [units, isZero, decide_eq_true_eq, Nat.mul_eq_zero, hpos.ne', or_false]
  split at hs <;> omega

/-- Sign and magnitude make up a pattern. -/
theorem ext_sign_magnitude {x y : Binary64} (hs : x.negative = y.negative)
    (hm : x.magnitude = y.magnitude) : x.bits = y.bits := by
  have hx := x.bits.toNat_lt
  have hy := y.bits.toNat_lt
  simp only [negative, decide_eq_decide] at hs
  unfold magnitude at hm
  unfold signWeight at *
  refine UInt64.toNat_inj.1 ?_
  omega

/-- Two numbers that are not negative and differ by their sign alone are both zero. -/
theorem eq_zero_of_eq_neg {p q : ℚ} (hp : 0 ≤ p) (hq : 0 ≤ q) (h : p = -q) : p = 0 ∧ q = 0 :=
  ⟨by linarith, by linarith⟩

/-- **Equal values come from equal patterns**, the two zeros apart. -/
theorem eq_of_value_eq {x y : Binary64} (h : x.value = y.value) :
    x.bits = y.bits ∨ (x.isZero ∧ y.isZero) := by
  have hunit : (0 : ℚ) < 2 ^ (-1074 : ℤ) := by positivity
  have hx : (0 : ℚ) ≤ x.units * 2 ^ (-1074 : ℤ) := by positivity
  have hy : (0 : ℚ) ≤ y.units * 2 ^ (-1074 : ℤ) := by positivity
  have hzero : ∀ z : Binary64, (z.units : ℚ) * 2 ^ (-1074 : ℤ) = 0 → z.isZero := by
    intro z hz
    rw [← units_eq_zero_iff]
    exact_mod_cast (mul_eq_zero.1 hz).resolve_right hunit.ne'
  have hsame : x.negative = y.negative →
      (x.units : ℚ) * 2 ^ (-1074 : ℤ) = y.units * 2 ^ (-1074 : ℤ) → x.bits = y.bits := by
    intro hs habs
    have hunits : x.units = y.units := by exact_mod_cast mul_right_cancel₀ hunit.ne' habs
    exact ext_sign_magnitude hs (magnitude_eq_of_units hunits)
  rw [value_eq_units, value_eq_units, signed, signed] at h
  cases hnx : x.negative <;> cases hny : y.negative <;> simp only [hnx, hny] at h hsame
  · exact .inl (hsame trivial (by simpa using h))
  · obtain ⟨h₁, h₂⟩ := eq_zero_of_eq_neg hx hy (by simpa using h)
    exact .inr ⟨hzero x h₁, hzero y h₂⟩
  · obtain ⟨h₁, h₂⟩ := eq_zero_of_eq_neg hy hx (by simpa using h.symm)
    exact .inr ⟨hzero x h₂, hzero y h₁⟩
  · exact .inl (hsame trivial (by simpa using h))

/-! ## The numeric order -/

/-- Numbers further from zero have larger magnitudes. -/
theorem units_lt_iff (x y : Binary64) : x.units < y.units ↔ x.magnitude < y.magnitude := by
  have hlt : ∀ {x y : Binary64}, x.magnitude < y.magnitude → x.units < y.units := by
    intro x y h
    have hx := magnitude_add_leadingWeight x
    have hy := magnitude_add_leadingWeight y
    have hsx : x.significand < 2 ^ 53 := significand_lt x
    rcases Nat.lt_trichotomy x.scale y.scale with hscale | hscale | hscale
    · exact units_lt_of_scale_lt hscale
    · have hsignificand : x.significand < y.significand := by
        rw [hscale] at hx
        omega
      rw [units, units, hscale]
      exact Nat.mul_lt_mul_of_pos_right hsignificand (Nat.two_pow_pos _)
    · -- A smaller magnitude has no larger scale.
      have hle : x.scale ≤ y.scale := by
        have hdiv : x.magnitude / leadingWeight ≤ y.magnitude / leadingWeight :=
          Nat.div_le_div_right h.le
        unfold scale
        omega
      omega
  refine ⟨fun h => ?_, hlt⟩
  rcases Nat.lt_trichotomy x.magnitude y.magnitude with hm | hm | hm
  · exact hm
  · have hscale : x.scale = y.scale := by rw [scale, scale, hm]
    have hsignificand : x.significand = y.significand := by rw [significand, significand, hm]
    rw [units, units, hscale, hsignificand] at h
    exact absurd h (Nat.lt_irrefl _)
  · exact absurd h (Nat.lt_asymm (hlt hm))

theorem value_eq_signedUnits (x : Binary64) :
    x.value = ((if x.negative then -(x.units : ℤ) else x.units : ℤ) : ℚ) * 2 ^ (-1074 : ℤ) := by
  rw [value_eq_units, signed]
  split
  · rw [Int.cast_neg, Int.cast_natCast, neg_mul]
  · rw [Int.cast_natCast]

theorem isNaN_of_isFinite {x : Binary64} (h : x.isFinite) : x.isNaN = false := by
  simp only [isFinite, decide_eq_true_eq] at h
  simp only [isNaN, decide_eq_false_iff_not]
  omega

/-- **The numeric order is the order of the values.** -/
theorem less_iff_value_lt {x y : Binary64} (hx : x.isFinite) (hy : y.isFinite) :
    x.less y ↔ x.value < y.value := by
  have hunit : (0 : ℚ) < 2 ^ (-1074 : ℤ) := by positivity
  have hxy := units_lt_iff x y
  have hyx := units_lt_iff y x
  have hzx := units_eq_zero_iff x
  have hzy := units_eq_zero_iff y
  simp only [isZero, decide_eq_true_eq] at hzx hzy
  rw [value_eq_signedUnits, value_eq_signedUnits, mul_lt_mul_iff_left₀ hunit, Int.cast_lt]
  simp only [less, isNaN_of_isFinite hx, isNaN_of_isFinite hy, Bool.not_false, Bool.true_and]
  rw [decide_eq_true_iff, rank, rank]
  split <;> split <;> omega

theorem value_abs (x : Binary64) : x.abs.value = |x.value| := by
  have hm : x.abs.magnitude = x.magnitude := magnitude_ofMagnitude (magnitude_lt x) false
  have hs : x.abs.negative = false := negative_ofMagnitude (magnitude_lt x) false
  have hunits : x.abs.units = x.units := by
    rw [units, units, scale, scale, significand, significand, hm]
  have hpos : (0 : ℚ) ≤ x.units * 2 ^ (-1074 : ℤ) := by positivity
  rw [value_eq_units, value_eq_units, hunits, signed, signed, hs, if_neg Bool.false_ne_true]
  split
  · rw [abs_neg, abs_of_nonneg hpos]
  · rw [abs_of_nonneg hpos]

theorem value_of_isZero {x : Binary64} (h : x.isZero) : x.value = 0 := by
  have hu : x.units = 0 := (units_eq_zero_iff x).2 h
  rw [value_eq_units, hu, signed]
  simp

/-! ## What patterns stand for -/

theorem quantity?_of_isFinite {x : Binary64} (h : x.isFinite) :
    x.quantity? = some (.finite x.value) := by
  rw [quantity?, if_neg ((isFinite_iff x).1 h)]

theorem quantity?_ne_finite_of_not_isFinite {x : Binary64} (h : ¬ x.isFinite) (q : ℚ) :
    x.quantity? ≠ some (.finite q) := by
  rw [isFinite_iff, not_not] at h
  rw [quantity?, if_pos h]
  split <;> simp

theorem quantity?_eq_none_iff (x : Binary64) : x.quantity? = none ↔ x.isNaN := by
  rw [quantity?, isNaN_iff]
  split_ifs <;> simp_all

theorem value_of_quantity? {x : Binary64} {q : ℚ} (h : x.quantity? = some (.finite q)) :
    x.isFinite ∧ x.value = q := by
  have hf : x.isFinite := by
    by_contra hf
    exact quantity?_ne_finite_of_not_isFinite hf q h
  exact ⟨hf, by simpa [quantity?_of_isFinite hf] using h⟩

/-- Two infinities of one sign are one pattern. -/
theorem eq_of_quantity?_eq_infinite {x y : Binary64} {negative : Bool}
    (hx : x.quantity? = some (.infinite negative)) (hy : y.quantity? = some (.infinite negative)) :
    x.bits = y.bits := by
  have hread : ∀ {z : Binary64}, z.quantity? = some (.infinite negative) →
      z.negative = negative ∧ z.magnitude = infinityMagnitude := by
    intro z hz
    have hm := magnitude_eq z
    unfold quantity? at hz
    split at hz
    · split at hz
      · simp only [Option.some.injEq, Quantity.infinite.injEq] at hz
        refine ⟨hz, ?_⟩
        unfold infinityMagnitude leadingWeight
        omega
      · cases hz
    · simp at hz
  obtain ⟨hnx, hmx⟩ := hread hx
  obtain ⟨hny, hmy⟩ := hread hy
  exact ext_sign_magnitude (hnx.trans hny.symm) (hmx.trans hmy.symm)

/-- **Patterns compare equal exactly when they stand for the same.** -/
theorem same_iff_quantity? (x y : Binary64) :
    x.same y ↔ ∃ q, x.quantity? = some q ∧ y.quantity? = some q := by
  have hnan : ∀ z : Binary64, z.isNaN = false ↔ ∃ q, z.quantity? = some q := by
    intro z
    rw [← Option.ne_none_iff_exists', ne_eq, quantity?_eq_none_iff, Bool.not_eq_true]
  simp only [same, Bool.and_eq_true, Bool.or_eq_true, Bool.not_eq_true', decide_eq_true_eq]
  constructor
  · rintro ⟨⟨hx, -⟩, hbits | ⟨hzx, hzy⟩⟩
    · obtain ⟨q, hq⟩ := (hnan x).1 hx
      have hxy : x = y := by cases x; cases y; exact congrArg Binary64.mk hbits
      exact ⟨q, hq, hxy ▸ hq⟩
    · have hfinite : ∀ z : Binary64, z.isZero → z.quantity? = some (.finite 0) := by
        intro z hz
        have hf : z.isFinite := by
          unfold isZero at hz
          rw [isFinite, of_decide_eq_true hz]
          decide
        rw [quantity?_of_isFinite hf, value_of_isZero hz]
      exact ⟨.finite 0, hfinite x hzx, hfinite y hzy⟩
  · rintro ⟨q, hx, hy⟩
    refine ⟨⟨(hnan x).2 ⟨q, hx⟩, (hnan y).2 ⟨q, hy⟩⟩, ?_⟩
    cases q with
    | infinite negative => exact .inl (eq_of_quantity?_eq_infinite hx hy)
    | finite q =>
      exact eq_of_value_eq ((value_of_quantity? hx).2.trans (value_of_quantity? hy).2.symm)

/-! ## Whole numbers -/

theorem signed_natCast (x : Binary64) (n : ℕ) :
    x.signed n = ((if x.negative then -(n : ℤ) else n : ℤ) : ℚ) := by
  unfold signed
  split <;> simp

theorem value_of_le_scale {x : Binary64} (h : 1075 ≤ x.scale) :
    x.value = x.signed (x.significand * 2 ^ (x.scale - 1075) : ℕ) := by
  have hexp : (x.scale : ℤ) - 1075 = ((x.scale - 1075 : ℕ) : ℤ) := by omega
  rw [value_eq, hexp, zpow_natCast]
  push_cast
  rfl

theorem value_of_scale_lt {x : Binary64} (h : x.scale < 1075) :
    x.value = x.signed (x.significand / (2 ^ (1075 - x.scale) : ℕ)) := by
  have hexp : (x.scale : ℤ) - 1075 = -((1075 - x.scale : ℕ) : ℤ) := by omega
  rw [value_eq, hexp, zpow_neg, zpow_natCast, ← div_eq_mul_inv]
  push_cast
  rfl

/-- A quotient is whole only if the division leaves nothing. -/
theorem mod_eq_zero_of_signed_div {x : Binary64} {n d : ℕ} (hd : d ≠ 0) {k : ℤ}
    (h : x.signed (n / d) = k) : n % d = 0 := by
  have hd' : (d : ℚ) ≠ 0 := by exact_mod_cast hd
  have habs : (n : ℚ) / d = (if x.negative then -k else k : ℤ) := by
    unfold signed at h
    split at h
    · rw [if_pos ‹_›, Int.cast_neg, ← h, neg_neg]
    · rw [if_neg ‹_›, h]
  rw [div_eq_iff hd'] at habs
  have hdvd : (d : ℤ) ∣ n := ⟨if x.negative then -k else k, by rw [mul_comm]; exact_mod_cast habs⟩
  exact Nat.mod_eq_zero_of_dvd (Int.natCast_dvd_natCast.1 hdvd)

/-- **The integer found is the one the pattern stands for**, and if none is found, it stands for
none. -/
theorem whole?_eq_some_iff (x : Binary64) (k : ℤ) :
    x.whole? = some k ↔ x.quantity? = some (.finite k) := by
  have hsome : ∀ n : ℕ, x.value = x.signed n → x.isFinite →
      (whole?.signed x n = some k ↔ x.quantity? = some (.finite k)) := by
    intro n hv hf
    rw [quantity?_of_isFinite hf, hv, signed_natCast, whole?.signed]
    simp only [Option.some.injEq, Quantity.finite.injEq, Int.cast_inj]
  unfold whole?
  split_ifs with hf hscale hmod
  · exact hsome _ (value_of_le_scale hscale) hf
  · refine hsome _ ?_ hf
    have hdvd : 2 ^ (1075 - x.scale) ∣ x.significand := Nat.dvd_of_mod_eq_zero hmod
    have hd : ((2 ^ (1075 - x.scale) : ℕ) : ℚ) ≠ 0 := by positivity
    rw [value_of_scale_lt (by omega), ← Nat.cast_div hdvd hd]
    rfl
  · rw [quantity?_of_isFinite hf, value_of_scale_lt (by omega)]
    simp only [Option.some.injEq, Quantity.finite.injEq, false_iff]
    exact fun hk => hmod (mod_eq_zero_of_signed_div (Nat.two_pow_pos _).ne' hk)
  · simp only [false_iff]
    exact quantity?_ne_finite_of_not_isFinite hf k

end Binary64

/-! ## Storing numbers -/

namespace ValueBuilder

open Binary64

theorem standard_number : ValueBuilderRegistry.standard["number"]? = some number := by
  have hne : ¬ compare "boolean" "number" = .eq := by decide
  rw [ValueBuilderRegistry.standard, Std.ExtTreeMap.getElem?_insert, if_neg hne,
    Std.ExtTreeMap.getElem?_insert_self]

theorem build?_number (x : Binary64) :
    ValueBuilderRegistry.standard.build? "number" (.number x) = some [scalarOfNumber x] := by
  rw [ValueBuilderRegistry.build?, standard_number]
  rfl

/-- The largest integer is no number of this format, and the bound is the integer above it. -/
theorem value_integerBound : integerBound.isFinite ∧ integerBound.value = 2 ^ 63 := by
  have hbits : integerBound = ⟨0x43E0000000000000⟩ := by decide +kernel
  have hexponent : exponentField ⟨0x43E0000000000000⟩ = 1086 := by decide
  have hfraction : fraction ⟨0x43E0000000000000⟩ = 0 := by decide
  have hsign : negative ⟨0x43E0000000000000⟩ = false := by decide
  refine ⟨by rw [hbits]; decide, ?_⟩
  rw [hbits, value, signed, hexponent, hfraction, hsign]
  norm_num

/-- An integer passes the test if it fits 64 bits on both sides of zero. -/
theorem abs_less_integerBound_iff {x : Binary64} {k : ℤ} (hx : x.quantity? = some (.finite k)) :
    x.abs.less integerBound ↔ k.natAbs < 2 ^ 63 := by
  obtain ⟨hfinite, hvalue⟩ := value_of_quantity? hx
  obtain ⟨hbound, hlimit⟩ := value_integerBound
  have habs : x.abs.isFinite := by rw [Binary64.abs, isFinite_withSign, hfinite]
  rw [less_iff_value_lt habs hbound, value_abs, hvalue, hlimit, ← Nat.cast_lt (α := ℤ),
    Int.natCast_natAbs]
  exact_mod_cast Iff.rfl

theorem scalarOfNumber_of_small {x : Binary64} {k : ℤ} (hx : x.quantity? = some (.finite k))
    (hk : k.natAbs < 2 ^ 63) : scalarOfNumber x = .integer (.ofIntClamp k) := by
  rw [scalarOfNumber, (whole?_eq_some_iff x k).2 hx]
  exact if_pos ((abs_less_integerBound_iff hx).2 hk)

theorem scalarOfNumber_of_other {x : Binary64}
    (hx : ∀ k : ℤ, x.quantity? = some (.finite k) → 2 ^ 63 ≤ k.natAbs) :
    scalarOfNumber x = .float x := by
  unfold scalarOfNumber
  split
  · rename_i k hk
    have hq := (whole?_eq_some_iff x k).1 hk
    exact if_neg fun hless => Nat.not_lt.2 (hx k hq) ((abs_less_integerBound_iff hq).1 hless)
  · rfl

theorem toInt_ofIntClamp_of_small {k : ℤ} (hk : k.natAbs < 2 ^ 63) :
    (Int64.ofIntClamp k).toInt = k := by
  have hmin : Int64.minValue.toInt = -2 ^ 63 := by decide
  have hmax : Int64.maxValue.toInt = 2 ^ 63 - 1 := by decide
  exact Int64.toInt_ofIntClamp (by omega) (by omega)

/-- Whether a number is stored as an integer depends on what it stands for alone, so equal scalars
come from equal numbers. -/
theorem same_scalarOfNumber_iff (x y : Binary64) :
    (scalarOfNumber x).same (scalarOfNumber y) ↔
      ∃ q, x.quantity? = some q ∧ y.quantity? = some q := by
  have hcases : ∀ z : Binary64, (∃ k : ℤ, z.quantity? = some (.finite k) ∧
      k.natAbs < 2 ^ 63) ∨ ∀ k : ℤ, z.quantity? = some (.finite k) → 2 ^ 63 ≤ k.natAbs := by
    intro z
    by_cases h : ∃ k : ℤ, z.quantity? = some (.finite k) ∧ k.natAbs < 2 ^ 63
    · exact .inl h
    · exact .inr fun k hk => Nat.not_lt.1 fun hlt => h ⟨k, hk, hlt⟩
  rcases hcases x with ⟨k, hx, hk⟩ | hx <;> rcases hcases y with ⟨l, hy, hl⟩ | hy
  · rw [scalarOfNumber_of_small hx hk, scalarOfNumber_of_small hy hl]
    have hclamp : Int64.ofIntClamp k = Int64.ofIntClamp l ↔ k = l := by
      rw [← Int64.toInt_inj, toInt_ofIntClamp_of_small hk, toInt_ofIntClamp_of_small hl]
    simp [Scalar.same, hclamp, hx, hy, eq_comm]
  · rw [scalarOfNumber_of_small hx hk, scalarOfNumber_of_other hy]
    simp only [Scalar.same, Bool.false_eq_true, false_iff]
    rintro ⟨q, hxq, hyq⟩
    exact absurd (hy k (hyq.trans (hxq.symm.trans hx))) (Nat.not_le.2 hk)
  · rw [scalarOfNumber_of_other hx, scalarOfNumber_of_small hy hl]
    simp only [Scalar.same, Bool.false_eq_true, false_iff]
    rintro ⟨q, hxq, hyq⟩
    exact absurd (hx l (hxq.trans (hyq.symm.trans hy))) (Nat.not_le.2 hl)
  · rw [scalarOfNumber_of_other hx, scalarOfNumber_of_other hy]
    exact same_iff_quantity? x y

/-- **Numbers are stored exactly.** A whole number strictly between `-2 ^ 63` and `2 ^ 63` is stored
as the integer it is equal to, every other pattern as it is, and of two patterns the scalars are
equal exactly when both stand for one number. -/
theorem number_stored_exactly :
    (∀ (x : Binary64) (k : ℤ), x.quantity? = some (.finite k) → -2 ^ 63 < k → k < 2 ^ 63 →
      ∃ n : Int64, n.toInt = k ∧
        ValueBuilderRegistry.standard.build? "number" (.number x) = some [.integer n]) ∧
    (∀ x : Binary64, (∀ k : ℤ, x.quantity? = some (.finite k) → k ≤ -2 ^ 63 ∨ 2 ^ 63 ≤ k) →
      ValueBuilderRegistry.standard.build? "number" (.number x) = some [.float x]) ∧
    ∀ x y : Binary64, ∃ s t,
      ValueBuilderRegistry.standard.build? "number" (.number x) = some [s] ∧
      ValueBuilderRegistry.standard.build? "number" (.number y) = some [t] ∧
      (s.same t ↔ ∃ q, x.quantity? = some q ∧ y.quantity? = some q) := by
  refine ⟨fun x k hx hl hu => ?_, fun x hx => ?_, fun x y => ?_⟩
  · have hk : k.natAbs < 2 ^ 63 := by omega
    refine ⟨Int64.ofIntClamp k, toInt_ofIntClamp_of_small hk, ?_⟩
    rw [build?_number, scalarOfNumber_of_small hx hk]
  · have hk : ∀ k : ℤ, x.quantity? = some (.finite k) → 2 ^ 63 ≤ k.natAbs := by
      intro k hq
      have hb := hx k hq
      omega
    rw [build?_number, scalarOfNumber_of_other hk]
  · exact ⟨_, _, build?_number x, build?_number y, same_scalarOfNumber_iff x y⟩

/-- The least integer of 64 bits is stored as a number. -/
example : scalarOfNumber ⟨0xC3E0000000000000⟩ = .float ⟨0xC3E0000000000000⟩ := by decide

end ValueBuilder
end WikiGraph
