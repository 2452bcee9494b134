import WikiGraph.Calendar.Moment
import WikiGraph.Text.Character
import WikiGraph.Text.Digits
/-!
# Formats of dates and times

A format says item by item what a text consists of: numbers and characters. By a format a text is
read (`parse_from_str`) and a moment is written (`format`). A reader allows white space before each
number; a year has up to four digits, or a sign and any number of digits, and each other number has
one or two. Written numbers have zeros in front up to their width.
-/
namespace WikiGraph.Calendar

open WikiGraph.Text

inductive Item where
  | year
  | month
  | day
  | hour
  | minute
  | second
  | literal (c : Char)

/-! ## Reading -/

/-- A number of at least one and at most `limit` digits, as many as there are, and the rest of the
text. -/
def numberAhead? (limit : Nat) (text : List Char) : Option (Nat × List Char) :=
  let digits := (text.take limit).takeWhile Char.isDigit
  if digits.isEmpty then none
  else some (natOfDigits digits, text.drop digits.length)

def skipSpace (text : List Char) : List Char := text.dropWhile isSpace

/-- A year and the rest of the text. -/
def yearAhead? (text : List Char) : Option (Int × List Char) :=
  match skipSpace text with
  | '-' :: rest => (numberAhead? rest.length rest).map fun (n, after) => (-(n : Int), after)
  | '+' :: rest => (numberAhead? rest.length rest).map fun (n, after) => ((n : Int), after)
  | rest => (numberAhead? 4 rest).map fun (n, after) => ((n : Int), after)

/-- A month, a day, or a number of a clock, and the rest of the text. -/
def partAhead? (text : List Char) : Option (Nat × List Char) := numberAhead? 2 (skipSpace text)

/-- The numbers found in a text so far. -/
structure Parsed where
  year : Option Int := none
  month : Option Nat := none
  day : Option Nat := none
  hour : Option Nat := none
  minute : Option Nat := none
  second : Option Nat := none

def Item.read? (parsed : Parsed) (text : List Char) : Item → Option (Parsed × List Char)
  | year => (yearAhead? text).map fun (n, rest) => ({ parsed with year := n }, rest)
  | month => (partAhead? text).map fun (n, rest) => ({ parsed with month := n }, rest)
  | day => (partAhead? text).map fun (n, rest) => ({ parsed with day := n }, rest)
  | hour => (partAhead? text).map fun (n, rest) => ({ parsed with hour := n }, rest)
  | minute => (partAhead? text).map fun (n, rest) => ({ parsed with minute := n }, rest)
  | second => (partAhead? text).map fun (n, rest) => ({ parsed with second := n }, rest)
  | literal c => ([c].isPrefixOf? text).map fun rest => (parsed, rest)

/-- The numbers in a whole text of a format, behind those found before it. -/
def readAs? (parsed : Parsed) (text : List Char) : List Item → Option Parsed
  | [] => if text.isEmpty then some parsed else none
  | item :: format => do
    let (parsed, rest) ← item.read? parsed text
    readAs? parsed rest format

def Parsed.date? (p : Parsed) : Option Date := do some ⟨← p.year, ← p.month, ← p.day⟩

/-- The time of day that was read (`to_naive_time`). -/
def Parsed.time? (p : Parsed) : Option TimeOfDay := do
  TimeOfDay.ofClock? (← p.hour) (← p.minute) (p.second.getD 0)

/-- The moment that was read (`to_naive_datetime_with_offset`). -/
def Parsed.moment? (p : Parsed) : Option Moment := do
  some ⟨← Day.ofDate? (← p.date?), ← p.time?⟩

/-! ## Writing -/

/-- A number in decimal digits, with zeros in front up to a width. -/
def padded (width n : Nat) : List Char := (Nat.toDigits 10 n).leftpad width '0'

/-- Years of more than four digits and years before the year zero have a sign. -/
def writtenYear (year : Int) : List Char :=
  if 0 ≤ year ∧ year ≤ 9999 then padded 4 year.natAbs
  else (if year < 0 then '-' else '+') :: padded 4 year.natAbs

def Item.write (m : Moment) : Item → List Char
  | year => writtenYear m.day.date.year
  | month => padded 2 m.day.date.month
  | day => padded 2 m.day.date.day
  | hour => padded 2 m.time.hour
  | minute => padded 2 m.time.minute
  | second => padded 2 m.time.second
  | literal c => [c]

def Moment.writeAs (m : Moment) (format : List Item) : List Char := format.flatMap (·.write m)

/-! ## Dates -/

/-- The format of dates, as in `2024-01-02`. -/
def dateFormat : List Item := [.year, .literal '-', .month, .literal '-', .day]

def Date.ofText? (text : List Char) : Option Date := (readAs? {} text dateFormat).bind (·.date?)

/-- Whether a text is a date of the calendar. -/
def isDate (text : List Char) : Bool := (Date.ofText? text).any Date.exists

end WikiGraph.Calendar
