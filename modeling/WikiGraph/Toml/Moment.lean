import WikiGraph.Calendar.Date
import WikiGraph.Text.Digits
/-!
# Dates and times in TOML

A date, a time of day, or a date and a time with or without an offset from universal time. Their
usual form has the letter `T` between date and time, at most nine decimal places of a second with
no zeros at their end, and a plus sign before an offset of nothing.
-/
namespace WikiGraph.Toml

open WikiGraph.Calendar WikiGraph.Text

/-- The number that so many digits at the beginning of a text spell, and what follows them. -/
def exactDigits? (count : Nat) (text : List Char) : Option (Nat × List Char) :=
  let digits := text.take count
  if digits.length = count ∧ digits.all Char.isDigit then
    some (natOfDigits digits, text.drop count)
  else none

def dayAhead? (text : List Char) : Option (List Char × List Char) := do
  let (year, rest) ← exactDigits? 4 text
  let (month, rest) ← exactDigits? 2 (← ['-'].isPrefixOf? rest)
  let (day, rest) ← exactDigits? 2 (← ['-'].isPrefixOf? rest)
  if Date.exists ⟨year, month, day⟩ then some (text.take 10, rest) else none

/-- The decimal places of a second, and what follows them. -/
def placesAhead? : List Char → Option (List Char × List Char)
  | '.' :: rest =>
    let digits := rest.takeWhile Char.isDigit
    if digits.isEmpty then none
    else
      let places := ((digits.take 9).reverse.dropWhile (· = '0')).reverse
      some (if places.isEmpty then [] else '.' :: places, rest.drop digits.length)
  | text => some ([], text)

/-- A time of day, and what follows it. -/
def clockAhead? (text : List Char) : Option (List Char × List Char) := do
  let (hour, rest) ← exactDigits? 2 text
  let (minute, rest) ← exactDigits? 2 (← [':'].isPrefixOf? rest)
  let (second, rest) ← exactDigits? 2 (← [':'].isPrefixOf? rest)
  if hour < 24 ∧ minute < 60 ∧ second ≤ 60 then
    let (places, rest) ← placesAhead? rest
    some (text.take 8 ++ places, rest)
  else none

/-- The offset that a whole text is. -/
def offset? (text : List Char) : Option (List Char) :=
  match text with
  | [] => some []
  | ['Z'] | ['z'] => some ['Z']
  | sign :: digits => do
    let (hour, rest) ← exactDigits? 2 digits
    let (minute, rest) ← exactDigits? 2 (← [':'].isPrefixOf? rest)
    if (sign = '+' ∨ sign = '-') ∧ hour < 24 ∧ minute < 60 ∧ rest.isEmpty then
      some ((if hour = 0 ∧ minute = 0 then '+' else sign) :: digits)
    else none

/-- The usual form of the date, the time or both that a whole text is. -/
def moment? (text : List Char) : Option (List Char) :=
  match dayAhead? text with
  | some (day, []) => some day
  | some (day, mark :: rest) => do
    if mark = 'T' ∨ mark = 't' ∨ mark = ' ' then
      let (clock, rest) ← clockAhead? rest
      return day ++ ['T'] ++ clock ++ (← offset? rest)
    else none
  | none =>
    match clockAhead? text with
    | some (clock, []) => some clock
    | _ => none

end WikiGraph.Toml
