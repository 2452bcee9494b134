import WikiGraph.Calendar.Format
/-!
# Page times

A page gives its times as fourteen digits, `YYYYMMDDHHMMSS`. The graph stores the moment they name
in another format, as `YYYY-MM-DDTHH:MM:SSZ`. A text that names no moment of the calendar is stored
as the empty text. A minute may have a leap second.
-/
namespace WikiGraph.Calendar

/-- The format of page times (`COMPACT_FORMAT`). -/
def compactFormat : List Item := [.year, .month, .day, .hour, .minute, .second]

/-- The format of stored times (`ISO_FORMAT`). -/
def isoFormat : List Item :=
  [.year, .literal '-', .month, .literal '-', .day, .literal 'T',
    .hour, .literal ':', .minute, .literal ':', .second, .literal 'Z']

/-- The moment a page time names. The reader itself would take other texts too, such as one with
white space in it, so the fourteen digits are asked for first. -/
def Moment.ofCompact? (text : List Char) : Option Moment :=
  if text.length = 14 && text.all Char.isDigit then
    (readAs? {} text compactFormat).bind (·.moment?)
  else none

/-- The stored form of a page time (`compact_to_iso8601`). -/
def storedTime (compact : String) : String :=
  match Moment.ofCompact? compact.toList with
  | some m => String.ofList (m.writeAs isoFormat)
  | none => ""

end WikiGraph.Calendar
