/-!
# Labels spelled in ASCII

A label that is not ASCII can be spelled in ASCII: its ASCII characters stand first, behind them a
hyphen, and behind that one number for each other character, in the order of the characters' codes.
A number tells how many steps the next insertion is away from the last one, where a step goes to the
next place in the text, and from behind its end to the beginning and the next code. Numbers are
written in base 36 with digits whose weights adapt to what came before, so that each number shows
its own end.
-/
namespace WikiGraph.Server.Host

/-- A label that is being put together. -/
structure Assembly where
  text : List Char
  /-- The code of the character inserted last. -/
  code : Nat := 128
  /-- The place behind the last insertion. -/
  place : Nat := 0
  bias : Nat := 72
  /-- The number that is being read. -/
  steps : Nat := 0
  /-- What one more of the next digit is worth. -/
  weight : Nat := 1
  /-- How many digits of the number were read. -/
  read : Nat := 0

/-- The value of a digit in base 36: letters first, then decimal digits. -/
def baseDigit? (c : Char) : Option Nat :=
  if c.isDigit then some (c.toNat - '0'.toNat + 26)
  else if c.isLower then some (c.toNat - 'a'.toNat)
  else none

/-- The least value with which a digit does not end its number, at a place among the digits. -/
def threshold (bias place : Nat) : Nat :=
  let k := 36 * (place + 1)
  if k ≤ bias then 1 else if bias + 26 ≤ k then 26 else k - bias

/-- Divides a number by 35 until it is at most 455, and counts how often. -/
def scaleDown (n : Nat) : Nat × Nat :=
  if 455 < n then
    let (least, count) := scaleDown (n / 35)
    (least, count + 1)
  else (n, 0)
termination_by n
decreasing_by omega

/-- The bias after a number of steps to an insertion into a text that has `length` characters by
then. -/
def adapted (steps length : Nat) (isFirst : Bool) : Nat :=
  let damped := if isFirst then steps / 700 else steps / 2
  let (least, count) := scaleDown (damped + damped / length)
  36 * count + 36 * least / (least + 38)

def stepLimit : Nat := 0xFFFFFFFF

/-- The label after the insertion to which the number of steps leads. -/
def Assembly.insert? (a : Assembly) : Option Assembly :=
  let length := a.text.length + 1
  let total := a.place + a.steps
  let code := a.code + total / length
  if h : code.isValidChar then
    some {
      text := a.text.insertIdx (total % length) (Char.ofNatAux code h)
      code
      place := total % length + 1
      bias := adapted a.steps length (a.place = 0) }
  else none

/-- The label after one more digit. -/
def Assembly.next? (a : Assembly) (c : Char) : Option Assembly := do
  let digit ← baseDigit? c
  let limit := threshold a.bias a.read
  let a := { a with steps := a.steps + digit * a.weight }
  if stepLimit < a.place + a.steps then none
  else if digit < limit then a.insert?
  else
    let weight := a.weight * (36 - limit)
    if stepLimit < weight then none else some { a with weight, read := a.read + 1 }

/-- The label that lower-case ASCII text spells. -/
def ofSpelling? (text : List Char) : Option (List Char) := do
  let numbers := (text.reverse.takeWhile (· ≠ '-')).reverse
  let plain := text.take (text.length - numbers.length - 1)
  let (plain, numbers) := if plain.isEmpty then ([], text) else (plain, numbers)
  let a ← numbers.foldlM Assembly.next? { text := plain }
  if a.read = 0 then some a.text else none

end WikiGraph.Server.Host
