import WikiGraph.Binary64.Rounding
/-!
# Reading decimals exactly

The number nearest to a decimal, whatever its length. Powers of ten far outside the range of binary
fractions are not computed: the result is zero or infinity without them.
-/
namespace WikiGraph.Binary64

def infinity (negative : Bool) : Binary64 := ofMagnitude negative infinityMagnitude

/-- The number nearest to `n · 10 ^ exponent`. -/
def ofDecimal (negative : Bool) (n : Nat) (exponent : Int) : Binary64 :=
  let size : Int := (Nat.toDigits 10 n).length + exponent
  if n = 0 ∨ size < -400 then ofMagnitude negative 0
  else if 400 < size then infinity negative
  else if 0 ≤ exponent then ofQuotient negative (n * Nat.pow 10 exponent.toNat) 1
  else ofQuotient negative n (Nat.pow 10 exponent.natAbs)

/-- The whole number nearest to the magnitude of a finite number, a half going up. -/
def roundedMagnitude (x : Binary64) : Nat :=
  if 1075 ≤ x.scale then x.significand * Nat.pow 2 (x.scale - 1075)
  else (2 * x.significand + Nat.pow 2 (1075 - x.scale)) / Nat.pow 2 (1076 - x.scale)

end WikiGraph.Binary64
