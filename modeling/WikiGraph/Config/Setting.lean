import WikiGraph.Binary64.Decimal
import WikiGraph.Binary64.Shortest
import WikiGraph.Text.CaseForm
import WikiGraph.Text.Digits
import WikiGraph.Word
/-!
# Settings

A configuration is a tree of settings. A setting is taken as what the program wants where that is
possible: numbers and truth values can be written as text, texts can spell truth values and
numbers, and numbers stand for truth values and are rounded to counts.
-/
namespace WikiGraph.Config

open WikiGraph.Text

/-- A setting. The entries of a table are kept in order, each key once. -/
inductive Setting where
  | absent
  | boolean (b : Bool)
  | integer (n : Int)
  | float (x : Binary64)
  | text (s : String)
  | list (items : List Setting)
  | table (entries : List (String × Setting))

abbrev Entries := List (String × Setting)

def settingAt? (key : String) (entries : Entries) : Option Setting :=
  (entries.find? (·.1 = key)).map (·.2)

def putEntry (key : String) (value : Setting) : Entries → Entries
  | [] => [(key, value)]
  | (k, v) :: rest => if k = key then (key, value) :: rest else (k, v) :: putEntry key value rest

/-- The number of decimal digits with an optional plus sign. -/
def naturalOf? (text : List Char) : Option Nat :=
  let digits := match text with
    | '+' :: rest => rest
    | _ => text
  if digits.isEmpty || !digits.all Char.isDigit then none
  else some (natOfDigits digits)

namespace Setting

/-- The entries of a table; a setting of another kind has none. -/
def entries : Setting → Entries
  | table es => es
  | _ => []

/-- The items of a list; a setting of another kind has none. -/
def items : Setting → List Setting
  | list settings => settings
  | _ => []

/-- The layout of numbers as text: always positional, a tie going away from zero. -/
def numberLayout : Binary64.Layout where
  positional _ := true
  wholeEnd := []
  tie := .away

def renderFloat (x : Binary64) : List Char :=
  if x.isNaN then "NaN".toList
  else if x.isFinite then numberLayout.finite x
  else if x.negative then "-inf".toList else "inf".toList

def toText? : Setting → Option String
  | text s => some s
  | boolean b => some (if b then "true" else "false")
  | integer n => some (toString n)
  | float x => some (String.ofList (renderFloat x))
  | _ => none

def truthOf? (s : String) : Option Bool :=
  let word := String.ofList (lowerCase s.toList)
  if word ∈ ["1", "true", "on", "yes"] then some true
  else if word ∈ ["0", "false", "off", "no"] then some false
  else none

def toBool? : Setting → Option Bool
  | boolean b => some b
  | integer n => some (n ≠ 0)
  | float x => some !x.isZero
  | text s => truthOf? s
  | _ => none

/-- The setting as a count of 64 bits. -/
def toCount? : Setting → Option Nat
  | boolean b => some b.toNat
  | integer n => if 0 ≤ n then some n.toNat else none
  | float x =>
    if x.isNaN || x.negative then some 0
    else if x.isFinite then some (min x.roundedMagnitude Word.largest)
    else some Word.largest
  | text s =>
    let word := String.ofList (lowerCase s.toList)
    if word ∈ ["true", "on", "yes"] then some 1
    else if word ∈ ["false", "off", "no"] then some 0
    else (naturalOf? s.toList).bind fun n => if Word.fitsUnsigned n then some n else none
  | _ => none

def toCountBelow? (bound : Nat) (s : Setting) : Option Nat := s.toCount?.filter (· < bound)

end Setting
end WikiGraph.Config
