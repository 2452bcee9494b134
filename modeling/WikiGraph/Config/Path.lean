import WikiGraph.Config.Setting
/-!
# Paths into settings

A setting is addressed by keys with points between them; a number in brackets addresses an item of
a list, from its end if it is negative. Putting a setting at the end of a path makes what is not
there on the way, and replaces what is of another kind. A table is put there entry by entry, so that
the entries it does not have stay. Keys are put in lower case, so that two spellings of one key
meet.
-/
namespace WikiGraph.Config

open WikiGraph.Text

def keyOf (name : String) : String := String.ofList (lowerCase name.toList)

/-- A step along a path. -/
inductive Step where
  | key (name : String)
  | item (index : Int)
deriving DecidableEq, Repr

def isPathChar (c : Char) : Bool := c.isAlphanum || c = '_' || c = '-' || c = ' '

/-- White space around a number in brackets. -/
def isMargin (c : Char) : Bool := c = ' ' || c = '\t'

/-- The number of 64 bits in brackets that a text is; spaces and tabs may stand around it. -/
def indexOf? (text : List Char) : Option Int :=
  let trimmed := ((text.dropWhile isMargin).reverse.dropWhile isMargin).reverse
  let (negative, digits) := match trimmed with
    | '-' :: digits => (true, digits)
    | digits => (false, digits)
  if digits.isEmpty || !digits.all Char.isDigit then none
  else
    let n : Int := natOfDigits digits
    some (if negative then -n else n) |>.filter Word.fitsSigned

/-- The steps that a text spells behind the first key, for which it has a budget. -/
def stepsOf? : Nat → List Char → Option (List Step)
  | _, [] => some []
  | 0, _ => none
  | budget + 1, '.' :: rest =>
    match rest.takeWhile isPathChar with
    | [] => none
    | name => (stepsOf? budget (rest.dropWhile isPathChar)).map (.key (String.ofList name) :: ·)
  | budget + 1, '[' :: rest =>
    match indexOf? (rest.takeWhile (· ≠ ']')), rest.dropWhile (· ≠ ']') with
    | some index, _ :: after => (stepsOf? budget after).map (.item index :: ·)
    | _, _ => none
  | _, _ => none

/-- The path that a text spells. A text that spells none is a single key. -/
def pathOf (text : String) : List Step :=
  let name := text.toList.takeWhile isPathChar
  match name, stepsOf? text.length (text.toList.dropWhile isPathChar) with
  | _ :: _, some steps => .key (String.ofList name) :: steps
  | _, _ => [.key text]

mutual
/-- A setting put in the place of another one: a table is merged into what is there, and any other
setting replaces it. -/
def merge : Setting → Setting → Setting
  | .table entries, existing => mergeEntries entries existing
  | s, _ => s

/-- Entries put into a setting, which becomes a table. -/
def mergeEntries : List (String × Setting) → Setting → Setting
  | [], existing => existing
  | (key, s) :: rest, existing =>
    let entries := existing.entries
    let merged := merge s ((settingAt? (keyOf key) entries).getD (.table []))
    mergeEntries rest (.table (putEntry (keyOf key) merged entries))
end

def placeOf (index : Int) (length : Nat) : Nat :=
  if 0 ≤ index then index.toNat else length - index.natAbs

/-- The items with another one at a place, and absent ones before it where there are too few. -/
def putItem (place : Nat) (s : Setting) (items : List Setting) : List Setting :=
  (items ++ List.replicate (place + 1 - items.length) Setting.absent).set place s

/-- The setting that `existing` becomes when `s` is put at the end of a path into it. -/
def put (s : Setting) : List Step → Setting → Setting
  | [], existing => merge s existing
  | .key name :: path, existing =>
    let entries := existing.entries
    let inner := (settingAt? (keyOf name) entries).getD (.table [])
    .table (putEntry (keyOf name) (put s path inner) entries)
  | .item index :: path, existing =>
    let items := existing.items
    let place := placeOf index items.length
    .list (putItem place (put s path (items[place]?.getD (.table []))) items)

def putAt (path : List Step) (s : Setting) (entries : Entries) : Entries :=
  (put s path (.table entries)).entries

end WikiGraph.Config
