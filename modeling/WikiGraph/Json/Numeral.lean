import WikiGraph.Json.Basic
import WikiGraph.Binary64.Rounding
import WikiGraph.Text.Digits
import WikiGraph.Word
/-!
# Numerals

The grammar of JSON numbers and the number a numeral stands for. A numeral without fraction and
exponent is an integer if it fits 64 bits and is not a negative zero. Any other numeral is read as
the leading digits that fit 64 bits, rounded to a binary fraction and then scaled by a rounded
power of ten: one multiplication or division, after divisions by `10 ^ 308` where the exponent is
lower than any power of ten reaches.
-/
namespace WikiGraph

open Text

/-- A numeral taken apart. -/
structure Numeral where
  negative : Bool
  wholeDigits : List Char
  /-- The digits after the point, if there is a point. -/
  fraction : Option (List Char)
  exponent : Option Int
deriving DecidableEq, Repr

namespace Numeral

/-- A non-empty run of digits and what follows it. -/
def digitsAhead? (text : List Char) : Option (List Char × List Char) :=
  match text.takeWhile Char.isDigit with
  | [] => none
  | digits => some (digits, text.dropWhile Char.isDigit)

/-- The digits before the point: a single zero or a run that does not begin with one. -/
def wholeAhead? (text : List Char) : Option (List Char × List Char) :=
  match digitsAhead? text with
  | some (['0'], rest) => some (['0'], rest)
  | some ('0' :: _, _) => none
  | other => other

/-- The point and the digits after it, where a point follows. -/
def fractionAhead? (text : List Char) : Option (Option (List Char) × List Char) :=
  match text with
  | '.' :: rest => (digitsAhead? rest).map fun (digits, after) => (some digits, after)
  | _ => some (none, text)

/-- The sign of an exponent; without a mark it is positive. -/
def exponentSign (text : List Char) : Bool × List Char :=
  match text with
  | '+' :: rest => (false, rest)
  | '-' :: rest => (true, rest)
  | _ => (false, text)

/-- The exponent, where its letter follows. -/
def exponentAhead? (text : List Char) : Option (Option Int × List Char) :=
  match text with
  | c :: rest =>
    if c = 'e' ∨ c = 'E' then
      let (negative, unsigned) := exponentSign rest
      (digitsAhead? unsigned).map fun (digits, after) =>
        let n : Int := natOfDigits digits
        (some (if negative then -n else n), after)
    else some (none, text)
  | [] => some (none, [])

/-- The numeral a whole text is. -/
def ofText? (text : List Char) : Option Numeral := do
  let (negative, unsigned) := match text with
    | '-' :: rest => (true, rest)
    | _ => (false, text)
  let (whole, afterWhole) ← wholeAhead? unsigned
  let (fraction, afterFraction) ← fractionAhead? afterWhole
  let (exponent, rest) ← exponentAhead? afterFraction
  if rest.isEmpty then some ⟨negative, whole, fraction, exponent⟩ else none

/-- Appends digits to a number as long as it fits 64 bits; the digits that no longer fit remain. -/
def absorb (n : Nat) : List Char → Nat × List Char
  | [] => (n, [])
  | c :: rest =>
    if Word.fitsUnsigned (n * 10 + digitValue c) then absorb (n * 10 + digitValue c) rest
    else (n, c :: rest)

/-- A number scaled by a power of ten, or nothing when the result is beyond the largest number. -/
def scaled (x : Binary64) (exponent : Int) : Option Binary64 :=
  if exponent < -308 then
    if x.isZero then some x
    else scaled (x.overPositive (Binary64.powerOfTen 308)) (exponent + 308)
  else if exponent < 0 then some (x.overPositive (Binary64.powerOfTen exponent.natAbs))
  else if exponent ≤ 308 then
    let y := x.timesPositive (Binary64.powerOfTen exponent.toNat)
    if y.isInfinite then none else some y
  else if x.isZero then some x else none
termination_by exponent.natAbs
decreasing_by omega

/-- The binary fraction a numeral is read as. -/
def toBinary64? (n : Numeral) : Option Binary64 :=
  let (leading, dropped) := absorb 0 n.wholeDigits
  let fraction := n.fraction.getD []
  let (digits, ignored) := absorb leading fraction
  let used := fraction.length - ignored.length
  let exponent : Int := (dropped.length : Int) - used + n.exponent.getD 0
  (scaled (Binary64.ofNat digits) exponent).map (Binary64.withSign n.negative)

/-- The number a numeral stands for, or nothing when it is beyond the largest. -/
def toNumber? (n : Numeral) : Option JsonNumber :=
  let whole := natOfDigits n.wholeDigits
  if n.fraction = none ∧ n.exponent = none then
    if n.negative then
      if 0 < whole ∧ Word.fitsSigned (-(whole : Int)) then some (.integer (-(whole : Int)))
      else n.toBinary64?.map .float
    else if Word.fitsUnsigned whole then some (.integer whole)
    else n.toBinary64?.map .float
  else n.toBinary64?.map .float

end Numeral
end WikiGraph
