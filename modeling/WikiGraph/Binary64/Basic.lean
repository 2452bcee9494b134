/-!
# Binary floating-point numbers of 64 bits

A number is its bit pattern: sign, eleven bits of exponent, fifty-two bits of fraction. Every rule
about it is stated on the natural numbers in those fields, so that nothing is left to a machine's
arithmetic. `same` and `less` are the numeric comparisons: zero has two patterns that compare equal,
and a pattern that is no number differs from everything, itself included, and is less than nothing.
-/
namespace WikiGraph

/-- A binary64 number, given by its bit pattern. -/
structure Binary64 where
  bits : UInt64
deriving DecidableEq, Repr

namespace Binary64

def signWeight : Nat := 0x8000000000000000

/-- The weight of the last bit of the exponent field, and of the leading bit of a significand. -/
def leadingWeight : Nat := 0x10000000000000

def negative (x : Binary64) : Bool := signWeight ≤ x.bits.toNat

def magnitude (x : Binary64) : Nat := x.bits.toNat % signWeight

/-- The magnitude of the infinities; those of finite numbers lie below, those of the patterns that
are no number above. -/
def infinityMagnitude : Nat := 2047 * leadingWeight

def ofMagnitude (negative : Bool) (magnitude : Nat) : Binary64 :=
  ⟨UInt64.ofNat (if negative then magnitude + signWeight else magnitude)⟩

def isNaN (x : Binary64) : Bool := infinityMagnitude < x.magnitude

def isFinite (x : Binary64) : Bool := x.magnitude < infinityMagnitude

def isInfinite (x : Binary64) : Bool := x.magnitude = infinityMagnitude

def isZero (x : Binary64) : Bool := x.magnitude = 0

/-- The exponent field, counted from one: numbers below the normal range share the exponent of the
smallest normal ones. -/
def scale (x : Binary64) : Nat := max (x.magnitude / leadingWeight) 1

/-- The significand: the fraction, with the leading bit that normal numbers leave unwritten. -/
def significand (x : Binary64) : Nat :=
  if x.magnitude < leadingWeight then x.magnitude
  else x.magnitude % leadingWeight + leadingWeight

def same (x y : Binary64) : Bool :=
  !x.isNaN && !y.isNaN && (x.bits = y.bits || (x.isZero && y.isZero))

def zero : Binary64 := ⟨0⟩

/-- The one pattern that stands for all that are no number. -/
def nan : Binary64 := ofMagnitude false (infinityMagnitude + leadingWeight / 2)

def withSign (negative : Bool) (x : Binary64) : Binary64 := ofMagnitude negative x.magnitude

def abs (x : Binary64) : Binary64 := x.withSign false

/-- The place of a pattern in the numeric order; both zeros have the same. -/
def rank (x : Binary64) : Int := if x.negative then -(x.magnitude : Int) else x.magnitude

def less (x y : Binary64) : Bool := !x.isNaN && !y.isNaN && x.rank < y.rank

/-- The whole number a finite value is equal to, if it is one. With exponent field `s` the value is
the significand times `2 ^ (s - 1075)`. -/
def whole? (x : Binary64) : Option Int :=
  if x.isFinite then
    if 1075 ≤ x.scale then signed x (x.significand * Nat.pow 2 (x.scale - 1075))
    else if x.significand % Nat.pow 2 (1075 - x.scale) = 0 then
      signed x (x.significand / Nat.pow 2 (1075 - x.scale))
    else none
  else none
where
  signed (x : Binary64) (n : Nat) : Option Int := some (if x.negative then -(n : Int) else n)

theorem same_refl_iff (x : Binary64) : x.same x = true ↔ x.isNaN = false := by
  simp [same]

theorem same_comm (x y : Binary64) : x.same y = y.same x := by
  unfold same
  rw [Bool.and_comm (!x.isNaN) (!y.isNaN), Bool.and_comm x.isZero y.isZero]
  congr 2
  simp [eq_comm]

end Binary64
end WikiGraph
