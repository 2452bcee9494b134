import WikiGraph.Config.Path
/-!
# Settings from the environment

Variables whose names begin with `PAGEGRAPH__`, in any case, override settings. The rest of the
name, in lower case and with `__` as a point, is a path. The value is taken as a truth value, as
an integer of 64 bits or as a number if it is spelled like one, and else as the text it is.
-/
namespace WikiGraph.Config

open WikiGraph.Text

/-- The beginning of the names of variables that are settings, in lower case. -/
def variablePrefix : List Char := "pagegraph__".toList

/-- An integer of 64 bits, with an optional sign. -/
def integerOf? (text : List Char) : Option Int :=
  let spelled : Option Int := match text with
    | '-' :: digits =>
      if digits.all Char.isDigit then (naturalOf? digits).map fun n => -(n : Int) else none
    | _ => (naturalOf? text).map (↑·)
  spelled.filter Word.fitsSigned

/-- The exponent part of a number, from its letter to the end. -/
def exponentOf? : List Char → Option Int
  | [] => some 0
  | _ :: '-' :: digits => if digits.all Char.isDigit then
      (naturalOf? digits).map fun n => -(n : Int) else none
  | _ :: digits => (naturalOf? digits).map (↑·)

/-- The number that an unsigned text spells: digits, perhaps with a point among or around them,
perhaps with an exponent, or a name of infinity or of no number. -/
def magnitudeOf? (negative : Bool) (text : List Char) : Option Binary64 :=
  let word := String.ofList (lowerCase text)
  if word = "inf" ∨ word = "infinity" then some (Binary64.infinity negative)
  else if word = "nan" then some (Binary64.nan.withSign negative)
  else
    let whole := text.takeWhile Char.isDigit
    let afterWhole := text.drop whole.length
    let (fraction, rest) := match afterWhole with
      | '.' :: after =>
        let digits := after.takeWhile Char.isDigit
        (digits, after.drop digits.length)
      | _ => ([], afterWhole)
    let digits := whole ++ fraction
    match digits, rest.head?.all fun c => c = 'e' || c = 'E' with
    | _ :: _, true => (exponentOf? rest).map fun e =>
        Binary64.ofDecimal negative
          (natOfDigits digits) (e - fraction.length)
    | _, _ => none

def numberOf? : List Char → Option Binary64
  | '-' :: rest => magnitudeOf? true rest
  | '+' :: rest => magnitudeOf? false rest
  | text => magnitudeOf? false text

/-- The setting that the value of a variable is taken as. -/
def settingOfVariable (value : String) : Setting :=
  let word := String.ofList (lowerCase value.toList)
  if word = "true" then .boolean true
  else if word = "false" then .boolean false
  else match integerOf? value.toList with
    | some n => .integer n
    | none => match numberOf? value.toList with
      | some x => .float x
      | none => .text value

/-- A name with every double underscore, from the left, made a point. -/
def withPoints : List Char → List Char
  | '_' :: '_' :: rest => '.' :: withPoints rest
  | c :: rest => c :: withPoints rest
  | [] => []

/-- The names that variables for all settings have in upper case. -/
def variableNames : List String := [
  "PAGEGRAPH__NEO4J__URI", "PAGEGRAPH__NEO4J__USER", "PAGEGRAPH__NEO4J__PASSWORD",
  "PAGEGRAPH__NEO4J__READ_USER", "PAGEGRAPH__NEO4J__READ_PASSWORD",
  "PAGEGRAPH__NEO4J__MAX_CONNECTIONS", "PAGEGRAPH__NEO4J__FETCH_SIZE",
  "PAGEGRAPH__QUERY__EXPLAIN_CHECK", "PAGEGRAPH__SCHEMAS__PATH"]

/-- The path of settings that the name of a variable leads along. -/
def pathOfVariable? (name : String) : Option (List Step) :=
  let lower := lowerCase name.toList
  if variablePrefix.isPrefixOf lower then
    some (pathOf (String.ofList (withPoints (lower.drop variablePrefix.length))))
  else none

/-- The entries with one variable taken into account. -/
def applyVariable (entries : Entries) (name value : String) : Entries :=
  match pathOfVariable? name with
  | some path => putAt path (settingOfVariable value) entries
  | none => entries

def applyEnvironment (entries : Entries) (environment : List (String × String)) : Entries :=
  environment.foldl (fun es v => applyVariable es v.1 v.2) entries

end WikiGraph.Config
