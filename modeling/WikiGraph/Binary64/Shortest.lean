import WikiGraph.Binary64.Basic
/-!
# The fewest digits that read back

A number is written with the fewest decimal digits that lie between the midpoints to its two
neighbours, and of the decimals with that many digits with the nearest one. The midpoints
themselves belong to a number with an even significand. Where two decimals are equally near, the
format decides which one is written.

Everything is counted in units of `10 ^ (-1076)`, in which every number and every midpoint is a
whole number.
-/
namespace WikiGraph.Binary64

/-- A positive decimal number `0.d₁d₂…dₙ · 10 ^ point`. -/
structure Decimal where
  digits : List Char
  point : Int
deriving DecidableEq, Repr

/-- Which one of two equally near neighbours on a decimal grid is written. -/
inductive Tie where
  /-- The one whose last digit is even. -/
  | even
  /-- The one further from zero. -/
  | away
deriving DecidableEq, Repr

/-- Whether the upper neighbour is written, where the lower one is `below` steps from zero. -/
def Tie.goesUp (tie : Tie) (below : Nat) : Bool :=
  match tie with
  | even => below % 2 = 1
  | away => true

/-- The power of ten in which whole numbers count. -/
def unitExponent : Nat := 1076

/-- So many quarters of the last place of `x`, in units. -/
def inUnits (x : Binary64) (quarters : Nat) : Nat :=
  quarters * Nat.pow 2 (x.scale - 1) * Nat.pow 5 unitExponent

/-- The lower end of the interval of reals that round to `x`. Below a power of two the neighbour is
half as far away. -/
def lowerEnd (x : Binary64) : Nat :=
  inUnits x (4 * x.significand - if x.significand = leadingWeight && 1 < x.scale then 1 else 2)

def upperEnd (x : Binary64) : Nat := inUnits x (4 * x.significand + 2)

/-- Whether a whole number of units rounds to `x`. -/
def readsAs (x : Binary64) (n : Nat) : Bool :=
  if x.significand % 2 = 0 then lowerEnd x ≤ n && n ≤ upperEnd x
  else lowerEnd x < n && n < upperEnd x

/-- The multiple of `step` next to `x` that rounds to `x`, the nearer one if both neighbours do. -/
def multipleNear (tie : Tie) (x : Binary64) (step : Nat) : Option Nat :=
  let v := inUnits x (4 * x.significand)
  let below := v / step
  match readsAs x (below * step), readsAs x ((below + 1) * step) with
  | true, true =>
    let up := if 2 * (v % step) = step then tie.goesUp below else step < 2 * (v % step)
    some (if up then below + 1 else below)
  | true, false => some below
  | false, true => some (below + 1)
  | false, false => none

def decimalDigits (n : Nat) : List Char := Nat.toDigits 10 n

def withoutTrailingZeros (digits : List Char) : List Char :=
  (digits.reverse.dropWhile (· = '0')).reverse

/-- The shortest decimal of `x` on the grids of `count`, `count + 1`, … digits, `tries` grids in
all, where `width` is the number of digits of `x` in units. -/
def shortestFrom (tie : Tie) (x : Binary64) (width count : Nat) : Nat → Option Decimal
  | 0 => none
  | tries + 1 =>
    match multipleNear tie x (Nat.pow 10 (width - count)) with
    | some c =>
      let digits := decimalDigits c
      some ⟨withoutTrailingZeros digits, (width : Int) - count + digits.length - unitExponent⟩
    | none => shortestFrom tie x width (count + 1) tries

/-- The fewest digits that read back as the finite, positive magnitude of `x`. Seventeen digits
always do. -/
def shortest (tie : Tie) (x : Binary64) : Decimal :=
  let width := (decimalDigits (inUnits x (4 * x.significand))).length
  (shortestFrom tie x width 1 17).getD ⟨['0'], 0⟩

/-- How a decimal is laid out as text. -/
structure Layout where
  /-- The exponents, in scientific notation, of the numbers written without one. -/
  positional : Int → Bool
  /-- What follows the digits of a whole number in positional notation. -/
  wholeEnd : List Char
  /-- Which one of two equally near decimals is written. -/
  tie : Tie

/-- The text of a positive decimal. A decimal in scientific notation has one digit before the point
and a signed exponent. -/
def Layout.decimal (l : Layout) (d : Decimal) : List Char :=
  let exponent := d.point - 1
  if l.positional exponent then
    if d.point ≤ 0 then ['0', '.'] ++ List.replicate (-d.point).toNat '0' ++ d.digits
    else if d.digits.length ≤ d.point.toNat then
      d.digits ++ List.replicate (d.point.toNat - d.digits.length) '0' ++ l.wholeEnd
    else d.digits.take d.point.toNat ++ ['.'] ++ d.digits.drop d.point.toNat
  else
    let fraction := d.digits.drop 1
    d.digits.take 1 ++ (if fraction.isEmpty then [] else '.' :: fraction) ++ ['e'] ++
      (if exponent < 0 then ['-'] else ['+']) ++ decimalDigits exponent.natAbs

def Layout.finite (l : Layout) (x : Binary64) : List Char :=
  (if x.negative then ['-'] else []) ++
    if x.isZero then '0' :: l.wholeEnd else l.decimal (shortest l.tie x)

end WikiGraph.Binary64
