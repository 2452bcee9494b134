import WikiGraph.Binary64.Basic
/-!
# Correct rounding

`ofQuotient` gives the binary64 number nearest to a quotient of natural numbers, a half going to
the even neighbour, with gradual loss of precision towards zero and infinity beyond the largest
number. Products and quotients of numbers are rounded through it.
-/
namespace WikiGraph.Binary64

/-- The whole number nearest to `num / den`, a half going to the even one. -/
def roundDiv (num den : Nat) : Nat :=
  let q := num / den
  let r := num % den
  if 2 * r < den then q
  else if den < 2 * r then q + 1
  else if q % 2 = 0 then q else q + 1

/-- The whole number nearest to `num / den / 2 ^ e`. -/
def roundShifted (num den : Nat) (e : Int) : Nat :=
  if 0 ≤ e then roundDiv num (den * Nat.pow 2 e.toNat)
  else roundDiv (num * Nat.pow 2 (-e).toNat) den

/-- The exponent at which `num / den` has a significand of fifty-three bits, or the smallest
exponent there is. -/
def binaryExponent (num den : Nat) : Int :=
  let guess : Int := (Nat.log2 num : Int) - Nat.log2 den - 52
  let fits : Bool :=
    if 0 ≤ guess + 52 then den * Nat.pow 2 (guess + 52).toNat ≤ num
    else den ≤ num * Nat.pow 2 (-(guess + 52)).toNat
  max (if fits then guess else guess - 1) (-1074)

/-- The magnitude of the number nearest to `num / den`. A significand that rounds up to the next
power of two carries into the exponent field by plain addition. -/
def quotientMagnitude (num den : Nat) : Nat :=
  if num = 0 then 0
  else
    let e := binaryExponent num den
    min ((e + 1074).toNat * leadingWeight + roundShifted num den e) infinityMagnitude

def ofQuotient (negative : Bool) (num den : Nat) : Binary64 :=
  ofMagnitude negative (quotientMagnitude num den)

def ofNat (n : Nat) : Binary64 := ofQuotient false n 1

def ofInt (n : Int) : Binary64 := ofQuotient (n < 0) n.natAbs 1

def powerOfTen (k : Nat) : Binary64 := ofNat (Nat.pow 10 k)

/-- The product of two finite numbers that are not negative. -/
def timesPositive (x y : Binary64) : Binary64 :=
  let m := x.significand * y.significand
  let s := x.scale + y.scale
  if 2150 ≤ s then ofQuotient false (m * Nat.pow 2 (s - 2150)) 1
  else ofQuotient false m (Nat.pow 2 (2150 - s))

/-- The quotient of two finite numbers, the first not negative and the second positive. -/
def overPositive (x y : Binary64) : Binary64 :=
  if y.scale ≤ x.scale then
    ofQuotient false (x.significand * Nat.pow 2 (x.scale - y.scale)) y.significand
  else ofQuotient false x.significand (y.significand * Nat.pow 2 (y.scale - x.scale))

end WikiGraph.Binary64
