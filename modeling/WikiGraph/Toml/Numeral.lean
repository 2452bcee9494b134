import WikiGraph.Binary64.Decimal
import WikiGraph.Text.Digits
import WikiGraph.Text.Hexadecimal
import WikiGraph.Toml.Basic
import WikiGraph.Word
/-!
# Numbers in TOML

Single underscores may stand between digits. An integer fits 64 bits and is decimal with an optional
sign, or hexadecimal, octal or binary without one. A number with a fraction or an exponent is read
as the nearest binary fraction; it is refused when that is positive infinity.
-/
namespace WikiGraph.Toml

/-- Digits without the underscores between them. -/
def digits? (isDigit : Char → Bool) : List Char → Option (List Char)
  | [] => none
  | [c] => if isDigit c then some [c] else none
  | c :: '_' :: rest => if isDigit c then (digits? isDigit rest).map (c :: ·) else none
  | c :: rest => if isDigit c then (digits? isDigit rest).map (c :: ·) else none

/-- Decimal digits that do not begin with a zero unless that is all. -/
def wholeDigits? (text : List Char) : Option (List Char) :=
  match digits? Char.isDigit text with
  | some ('0' :: _ :: _) => none
  | other => other

def natOfBase (base : Nat) (digits : List Char) : Nat :=
  digits.foldl (fun n c => n * base + (Text.hexValue? c).getD 0) 0

/-- Whether a text begins with a minus sign, and what follows a sign. -/
def sign (text : List Char) : Bool × List Char :=
  match text with
  | '-' :: rest => (true, rest)
  | '+' :: rest => (false, rest)
  | _ => (false, text)

def integerInBase? (base : Nat) (text : List Char) : Option Int :=
  let isDigit := fun c => (Text.hexValue? c).any (· < base)
  (digits? isDigit text).bind fun digits =>
    let n : Int := natOfBase base digits
    if Word.fitsSigned n then some n else none

/-- The integer that a whole text is. -/
def integer? (text : List Char) : Option Int :=
  match text with
  | '0' :: 'x' :: rest => integerInBase? 16 rest
  | '0' :: 'o' :: rest => integerInBase? 8 rest
  | '0' :: 'b' :: rest => integerInBase? 2 rest
  | _ =>
    let (negative, unsigned) := sign text
    (wholeDigits? unsigned).bind fun digits =>
      let n : Int := Text.natOfDigits digits
      let n := if negative then -n else n
      if Word.fitsSigned n then some n else none

/-- The exponent that is what follows the digits of a number. -/
def exponent? : List Char → Option Int
  | [] => some 0
  | _ :: rest =>
    let (negative, unsigned) := sign rest
    (digits? Char.isDigit unsigned).map fun digits =>
      let n : Int := Text.natOfDigits digits
      if negative then -n else n

def isExponentMark (c : Char) : Bool := c = 'e' || c = 'E'

/-- The binary fraction that a whole text is. -/
def float? (text : List Char) : Option Binary64 := do
  let (negative, unsigned) := sign text
  if unsigned = "inf".toList then return Binary64.infinity negative
  if unsigned = "nan".toList then return Binary64.nan.withSign negative
  if unsigned.all fun c => c ≠ '.' && !isExponentMark c then none
  let mantissa := unsigned.takeWhile fun c => !isExponentMark c
  let exponent ← exponent? (unsigned.drop mantissa.length)
  let whole := mantissa.takeWhile (· ≠ '.')
  let wholeDigits ← wholeDigits? whole
  let fraction ← match mantissa.drop whole.length with
    | [] => some []
    | _ :: rest => digits? Char.isDigit rest
  let x := Binary64.ofDecimal negative (Text.natOfDigits (wholeDigits ++ fraction))
    (exponent - fraction.length)
  if x = Binary64.infinity false then none else some x

def number? (text : List Char) : Option Toml :=
  match integer? text with
  | some n => some (.integer n)
  | none => (float? text).map .float

end WikiGraph.Toml
