import Mathlib.Algebra.Order.Ring.Nat
import WikiGraph.Binary64.Rounding
/-!
# Quotients that stay finite

A quotient of natural numbers is rounded to a number whose size is about that of the quotient
(`quotientMagnitude_le`), so it is finite unless the quotient is huge. A number that is divided by a
large one gets smaller, however it is rounded (`overPositive_le`).
-/
namespace WikiGraph.Binary64

/-! ## Magnitudes -/

theorem leadingWeight_eq : leadingWeight = 2 ^ 52 := by decide

theorem magnitude_ofMagnitude {m : Nat} (h : m < signWeight) (negative : Bool) :
    (ofMagnitude negative m).magnitude = m := by
  unfold magnitude ofMagnitude
  rw [UInt64.toNat_ofNat']
  unfold signWeight at *
  cases negative <;> simp <;> omega

theorem negative_ofMagnitude {m : Nat} (h : m < signWeight) (negative : Bool) :
    (ofMagnitude negative m).negative = negative := by
  unfold Binary64.negative ofMagnitude
  rw [UInt64.toNat_ofNat']
  unfold signWeight at *
  cases negative <;> simp <;> omega

theorem quotientMagnitude_le_infinity (num den : Nat) :
    quotientMagnitude num den ≤ infinityMagnitude := by
  unfold quotientMagnitude
  split
  · exact Nat.zero_le _
  · exact Nat.min_le_right _ _

theorem magnitude_ofQuotient (negative : Bool) (num den : Nat) :
    (ofQuotient negative num den).magnitude = quotientMagnitude num den := by
  have hle := quotientMagnitude_le_infinity num den
  exact magnitude_ofMagnitude (Nat.lt_of_le_of_lt hle (by decide)) negative

theorem magnitude_lt (x : Binary64) : x.magnitude < signWeight := Nat.mod_lt _ (by decide)

/-- The sign has no part in whether a number is finite. -/
theorem isFinite_withSign (negative : Bool) (x : Binary64) :
    (x.withSign negative).isFinite = x.isFinite := by
  rw [isFinite, withSign, magnitude_ofMagnitude (magnitude_lt x), isFinite]

/-! ## Quotients -/

theorem roundDiv_le (num den : Nat) : roundDiv num den ≤ num / den + 1 := by
  unfold roundDiv
  simp only
  split
  · omega
  · split
    · omega
    · split <;> omega

theorem roundDiv_le_of_lt {num den n : Nat} (hd : 0 < den) (h : num < n * den) :
    roundDiv num den ≤ n := by
  have hq : num / den < n := (Nat.div_lt_iff_lt_mul hd).2 h
  have hr := roundDiv_le num den
  omega

/-- The exponent of a quotient below `2 ^ (k + 1)`: it is not far from the quotient on either
side. -/
theorem binaryExponent_bounds {num den k l : Nat} (hnum : num ≠ 0) (hden : 2 ^ l ≤ den)
    (h : num < 2 ^ (l + k + 1)) :
    binaryExponent num den ≤ (k : Int) - 52 ∧
      (Nat.log2 num : Int) - Nat.log2 den - 53 ≤ binaryExponent num den := by
  have hden0 : den ≠ 0 := by
    have hpos : 0 < 2 ^ l := Nat.two_pow_pos l
    omega
  have hupper : Nat.log2 num < l + k + 1 := (Nat.log2_lt hnum).2 h
  have hlower : l ≤ Nat.log2 den := (Nat.le_log2 hden0).2 hden
  unfold binaryExponent
  simp only
  split <;> split <;> omega

/-- The significand of a rounded quotient has at most one bit more than fifty-three. -/
theorem roundShifted_le {num den : Nat} {e : Int} (hden : den ≠ 0)
    (h : (Nat.log2 num : Int) - Nat.log2 den - 53 ≤ e) : roundShifted num den e ≤ 2 ^ 54 := by
  have hnum : num < 2 ^ (Nat.log2 num + 1) := Nat.lt_log2_self
  have hpow : 2 ^ Nat.log2 den ≤ den := Nat.log2_self_le hden
  unfold roundShifted
  split
  · rename_i he
    have hpos : 0 < den * 2 ^ e.toNat := Nat.mul_pos (by omega) (Nat.two_pow_pos _)
    refine roundDiv_le_of_lt hpos ?_
    calc num < 2 ^ (Nat.log2 num + 1) := hnum
      _ ≤ 2 ^ (54 + (Nat.log2 den + e.toNat)) := Nat.pow_le_pow_right (by decide) (by omega)
      _ = 2 ^ 54 * (2 ^ Nat.log2 den * 2 ^ e.toNat) := by rw [Nat.pow_add, Nat.pow_add]
      _ ≤ 2 ^ 54 * (den * 2 ^ e.toNat) := Nat.mul_le_mul_left _ (Nat.mul_le_mul_right _ hpow)
  · rename_i he
    refine roundDiv_le_of_lt (by omega) ?_
    calc num * 2 ^ (-e).toNat < 2 ^ (Nat.log2 num + 1) * 2 ^ (-e).toNat :=
          Nat.mul_lt_mul_of_pos_right hnum (Nat.two_pow_pos _)
      _ = 2 ^ (Nat.log2 num + 1 + (-e).toNat) := (Nat.pow_add _ _ _).symm
      _ ≤ 2 ^ (54 + Nat.log2 den) := Nat.pow_le_pow_right (by decide) (by omega)
      _ = 2 ^ 54 * 2 ^ Nat.log2 den := by rw [Nat.pow_add]
      _ ≤ 2 ^ 54 * den := Nat.mul_le_mul_left _ hpow

/-- **The size of a rounded quotient** below `2 ^ (k + 1)`. -/
theorem quotientMagnitude_le {num den k l : Nat} (hden : 2 ^ l ≤ den)
    (h : num < 2 ^ (l + k + 1)) : quotientMagnitude num den ≤ (k + 1026) * leadingWeight := by
  unfold quotientMagnitude
  split
  · exact Nat.zero_le _
  · rename_i hnum
    obtain ⟨hupper, hlower⟩ := binaryExponent_bounds hnum hden h
    have hden0 : den ≠ 0 := by
      have hpos : 0 < 2 ^ l := Nat.two_pow_pos l
      omega
    have hround := roundShifted_le hden0 hlower
    have hexponent : (binaryExponent num den + 1074).toNat ≤ k + 1022 := by omega
    have hfour : 2 ^ 54 = 4 * leadingWeight := by decide
    calc min ((binaryExponent num den + 1074).toNat * leadingWeight +
            roundShifted num den (binaryExponent num den)) infinityMagnitude
        ≤ (binaryExponent num den + 1074).toNat * leadingWeight +
            roundShifted num den (binaryExponent num den) := Nat.min_le_left _ _
      _ ≤ (k + 1022) * leadingWeight + 4 * leadingWeight :=
          Nat.add_le_add (Nat.mul_le_mul_right _ hexponent) (hfour ▸ hround)
      _ = (k + 1026) * leadingWeight := (Nat.add_mul (k + 1022) 4 leadingWeight).symm

/-! ## Numbers of moderate size -/

/-- The number is no larger than `2 ^ 66`, or not much. -/
def Moderate (x : Binary64) : Prop := x.magnitude ≤ 1089 * leadingWeight

theorem Moderate.isFinite {x : Binary64} (h : x.Moderate) : x.isFinite :=
  decide_eq_true (Nat.lt_of_le_of_lt h (by decide))

theorem moderate_ofQuotient {num : Nat} (h : num < 2 ^ 64) (negative : Bool) :
    (ofQuotient negative num 1).Moderate := by
  unfold Moderate
  rw [magnitude_ofQuotient]
  exact quotientMagnitude_le (l := 0) (k := 63) (Nat.le_refl 1) h

theorem Moderate.scale_le {x : Binary64} (h : x.Moderate) : x.scale ≤ 1089 :=
  Nat.max_le.2 ⟨Nat.div_le_of_le_mul (Nat.mul_comm _ _ ▸ h), by decide⟩

theorem significand_lt (x : Binary64) : x.significand < 2 ^ 53 := by
  have hmod : x.magnitude % leadingWeight < leadingWeight := Nat.mod_lt _ (by decide)
  have hdouble : 2 ^ 53 = leadingWeight + leadingWeight := by decide
  unfold significand
  split <;> omega

/-- A number of moderate size gets smaller with the size of what it is divided by. -/
theorem overPositive_le {x y : Binary64} (hx : x.Moderate) (hs : leadingWeight ≤ y.significand) :
    (x.overPositive y).magnitude ≤ (1089 - y.scale + 1026) * leadingWeight := by
  have hsig := significand_lt x
  have hscale := hx.scale_le
  unfold overPositive
  split
  · rename_i hle
    rw [magnitude_ofQuotient]
    refine quotientMagnitude_le (l := 52) (leadingWeight_eq ▸ hs) ?_
    calc x.significand * 2 ^ (x.scale - y.scale)
        < 2 ^ 53 * 2 ^ (x.scale - y.scale) :=
          Nat.mul_lt_mul_of_pos_right hsig (Nat.two_pow_pos _)
      _ = 2 ^ (53 + (x.scale - y.scale)) := (Nat.pow_add _ _ _).symm
      _ ≤ 2 ^ (52 + (1089 - y.scale) + 1) := Nat.pow_le_pow_right (by decide) (by omega)
  · rw [magnitude_ofQuotient]
    have hden : 2 ^ 52 ≤ y.significand * 2 ^ (y.scale - x.scale) :=
      (leadingWeight_eq ▸ hs).trans (Nat.le_mul_of_pos_right _ (Nat.two_pow_pos _))
    refine (quotientMagnitude_le (k := 0) hden hsig).trans ?_
    exact Nat.mul_le_mul_right _ (by omega)

end WikiGraph.Binary64
