import WikiGraph.Proofs.Calendar.Days
import WikiGraph.Proofs.Calendar.Numbers
import WikiGraph.PropertyType
/-!
# Written dates

How a date is written is a grammar (`WrittenAs`): three numbers with hyphens between them and white
space before each. The reader, which takes as many digits as it can and never goes back, accepts
exactly the texts of the grammar (`ofText?_eq_some_iff`), because nothing that may follow a number
could have been taken as one more digit of it. So the property type of dates accepts exactly the
values all parts of which are dates of the calendar, and names the first part that is none
(`PropertyType.validate_date`).
-/
namespace WikiGraph.Calendar

open WikiGraph.Text

/-! ## The grammar -/

def WrittenAs (text : List Char) (d : Date) : Prop :=
  ∃ space₁ year space₂ month space₃ day,
    text = space₁ ++ year ++ '-' :: (space₂ ++ month ++ '-' :: (space₃ ++ day)) ∧
    Blank space₁ ∧ SpellsYear year d.year ∧ Blank space₂ ∧ Spells 2 month d.month ∧
    Blank space₃ ∧ Spells 2 day d.day

/-- The text is written as a date, and the date names a day of the calendar. -/
def NamesDay (text : List Char) : Prop :=
  ∃ d : Date, WrittenAs text d ∧ IsDay d.year d.month d.day ∧ -262143 ≤ d.year ∧ d.year ≤ 262142

/-! ## Reading dates -/

theorem stops_hyphen (rest : List Char) : Stops Char.isDigit ('-' :: rest) := stops_cons rfl rest

/-- A date is read item by item. -/
theorem ofText?_eq (text : List Char) : Date.ofText? text = (do
    let (year, rest) ← yearAhead? text
    let (month, rest) ← partAhead? (← ['-'].isPrefixOf? rest)
    let (day, rest) ← partAhead? (← ['-'].isPrefixOf? rest)
    if rest.isEmpty then some ⟨year, month, day⟩ else none) := by
  simp only [Date.ofText?, dateFormat, readAs?, Item.read?, Option.bind_eq_bind, Option.bind_map,
    Option.bind_assoc, Function.comp_def]
  refine Option.bind_congr fun (year, rest₁) _ => ?_
  refine Option.bind_congr fun after₁ _ => ?_
  refine Option.bind_congr fun (month, rest₂) _ => ?_
  refine Option.bind_congr fun after₂ _ => ?_
  refine Option.bind_congr fun (day, rest₃) _ => ?_
  split <;> rfl

/-- **The reader accepts exactly what is written as a date.** -/
theorem ofText?_eq_some_iff {text : List Char} {d : Date} :
    Date.ofText? text = some d ↔ WrittenAs text d := by
  rw [ofText?_eq]
  constructor
  · intro h
    obtain ⟨⟨y, rest₁⟩, hyear, h⟩ := Option.bind_eq_some_iff.1 h
    obtain ⟨after₁, hhyphen₁, h⟩ := Option.bind_eq_some_iff.1 h
    obtain ⟨⟨m, rest₂⟩, hmonth, h⟩ := Option.bind_eq_some_iff.1 h
    obtain ⟨after₂, hhyphen₂, h⟩ := Option.bind_eq_some_iff.1 h
    obtain ⟨⟨n, rest₃⟩, hday, h⟩ := Option.bind_eq_some_iff.1 h
    simp only at h
    split at h
    · rename_i hempty
      cases h
      obtain ⟨space₁, year, htext, hs₁, hy⟩ := yearAhead?_eq_some hyear
      obtain ⟨space₂, month, hrest₁, hs₂, hm⟩ := partAhead?_eq_some hmonth
      obtain ⟨space₃, day, hrest₂, hs₃, hd⟩ := partAhead?_eq_some hday
      refine ⟨space₁, year, space₂, month, space₃, day, ?_, hs₁, hy, hs₂, hm, hs₃, hd⟩
      have hrest₀ := singleton_isPrefixOf?_eq_some_iff.1 hhyphen₁
      have hafter₁ := singleton_isPrefixOf?_eq_some_iff.1 hhyphen₂
      rw [htext, hrest₀, hrest₁, hafter₁, hrest₂, List.isEmpty_iff.1 hempty]
      simp
    · cases h
  · rintro ⟨space₁, year, space₂, month, space₃, day, rfl, hs₁, hy, hs₂, hm, hs₃, hd⟩
    have hyear := yearAhead?_append hs₁ hy
      (stops_hyphen (space₂ ++ month ++ '-' :: (space₃ ++ day)))
    have hmonth := partAhead?_append hs₂ hm fun _ => stops_hyphen (space₃ ++ day)
    have hday := partAhead?_append hs₃ hd fun _ => stops_nil _
    rw [List.append_nil] at hday
    simp only [Option.bind_eq_bind, hyear, Option.bind_some, List.isPrefixOf?, BEq.rfl, if_true,
      hmonth, hday, List.isEmpty_nil]

theorem isDate_iff (text : List Char) : isDate text ↔ NamesDay text := by
  simp only [isDate, Option.any_eq_true, exists_iff, ofText?_eq_some_iff, NamesDay, firstYear,
    lastYear]
  constructor
  · rintro ⟨d, hw, hl, hu, hday⟩
    exact ⟨d, hw, hday, hl, hu⟩
  · rintro ⟨d, hw, hday, hl, hu⟩
    exact ⟨d, hw, hl, hu, hday⟩

end WikiGraph.Calendar

/-! ## Values of the property type of dates -/

namespace WikiGraph.PropertyType

open WikiGraph.Text Calendar

/-- Of the texts of a value, all have the format of the type, or the first one that has not is
named. -/
theorem validate_texts (t : PropertyType) (ht : t.kind = .string) (parts : List String) :
    (t.validate (.texts parts) = .ok () ↔ ∀ p ∈ parts, t.format.acceptsPart p.toList) ∧
    ∀ u, t.validate (.texts parts) = .error u ↔ ∃ before bad after,
      parts = before ++ bad :: after ∧ (∀ p ∈ before, t.format.acceptsPart p.toList) ∧
      ¬ t.format.acceptsPart bad.toList ∧ u = .malformedPart bad := by
  have hkind : ¬ (Value.texts parts).kind ≠ t.kind := by simp [Value.kind, ht]
  have hfirst : ∀ bad, (parts.find? fun p => !t.format.acceptsPart p.toList) = some bad ↔
      ∃ before after, parts = before ++ bad :: after ∧
        (∀ p ∈ before, t.format.acceptsPart p.toList) ∧ ¬ t.format.acceptsPart bad.toList := by
    intro bad
    rw [List.find?_eq_some_iff_append]
    constructor
    · rintro ⟨hb, before, after, hparts, hbefore⟩
      exact ⟨before, after, hparts, by simpa using hbefore, by simpa using hb⟩
    · rintro ⟨before, after, hparts, hbefore, hb⟩
      exact ⟨by simpa using hb, before, after, hparts, by simpa using hbefore⟩
  unfold validate
  rw [if_neg hkind]
  simp only
  split
  · rename_i bad hbad
    obtain ⟨before, after, hparts, hbefore, hb⟩ := (hfirst bad).1 hbad
    refine ⟨?_, fun u => ⟨fun hu => ?_, ?_⟩⟩
    · simp only [reduceCtorEq, false_iff]
      exact fun hall => hb (hall bad (by simp [hparts]))
    · exact ⟨before, bad, after, hparts, hbefore, hb, (Except.error.inj hu).symm⟩
    · rintro ⟨before', bad', after', hparts', hbefore', hb', rfl⟩
      have hsame := hbad.symm.trans ((hfirst bad').2 ⟨before', after', hparts', hbefore', hb'⟩)
      rw [Option.some.inj hsame]
  · rename_i hnone
    have hall := List.find?_eq_none.1 hnone
    refine ⟨by simpa using hall, fun u => ?_⟩
    simp only [reduceCtorEq, false_iff]
    rintro ⟨before, bad, after, rfl, -, hb, -⟩
    exact hall bad (by simp) (by simpa using hb)

def date : PropertyType := ⟨"date", .string, .date⟩

theorem standard_date : PropertyTypeRegistry.standard["date"]? = some date := by decide

theorem message_malformedDate (bad : String) :
    (Unsuitable.malformedPart bad).message "date" =
      "Invalid value for property type date: malformed part " ++
        String.ofList (quoted bad.toList) := by
  have hlead : "Invalid value for property type " ++ "date" ++ ": " ++ "malformed part " =
      "Invalid value for property type date: malformed part " := by decide
  calc (Unsuitable.malformedPart bad).message "date"
      = "Invalid value for property type " ++ "date" ++ ": " ++
          ("malformed part " ++ String.ofList (quoted bad.toList)) := rfl
    _ = _ := by rw [← String.append_assoc, hlead]

/-- **Dates are validated by their grammar.** The standard type of this name accepts a value of texts
exactly if all of them are written as dates and name days of the calendar; otherwise the first one
that does not, in the order of the list, is named and quoted. -/
theorem validate_date :
    PropertyTypeRegistry.standard["date"]? = some date ∧
    ∀ parts : List String,
      (date.validate (.texts parts) = .ok () ↔ ∀ p ∈ parts, NamesDay p.toList) ∧
      (∀ u, date.validate (.texts parts) = .error u ↔ ∃ before bad after,
        parts = before ++ bad :: after ∧ (∀ p ∈ before, NamesDay p.toList) ∧
        ¬ NamesDay bad.toList ∧ u = .malformedPart bad) ∧
      ∀ bad, (Unsuitable.malformedPart bad).message "date" =
        "Invalid value for property type date: malformed part " ++
          String.ofList (quoted bad.toList) := by
  have haccepts : ∀ p : String, date.format.acceptsPart p.toList ↔ NamesDay p.toList :=
    fun p => isDate_iff p.toList
  refine ⟨standard_date, fun parts => ?_⟩
  obtain ⟨hok, herror⟩ := validate_texts date rfl parts
  simp only [haccepts] at hok herror
  exact ⟨hok, herror, message_malformedDate⟩

end WikiGraph.PropertyType
