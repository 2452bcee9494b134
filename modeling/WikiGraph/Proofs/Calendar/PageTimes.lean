import WikiGraph.Calendar.Timestamp
import WikiGraph.Proofs.Calendar.Days
import WikiGraph.Proofs.Calendar.Numbers
/-!
# Page times and moments

A page time is read into a moment exactly if its digits name one (`exists_ofCompact?`), and the
moment is written with the digits it was read from (`writeAs_ofCompact?`). So what is stored are the
page time's own digits with separators between the parts, the page time can be read off it, and
stored times are in the order of page times (`storedTime_of_moments`).
-/
namespace WikiGraph.Calendar

open WikiGraph.Text

/-! ## Texts that name a moment -/

/-- So many characters of a text, from a place on. -/
def part (start width : Nat) (text : List Char) : List Char := (text.drop start).take width

/-- The text consists of fourteen ASCII digits that name a moment: a day of the calendar in its
first eight, a time of day in the other six, in which a minute may have a second numbered sixty. -/
structure NamesMoment (text : List Char) : Prop where
  length : text.length = 14
  digits : ∀ c ∈ text, c.isDigit
  day : IsDay (natOfDigits (part 0 4 text)) (natOfDigits (part 4 2 text))
    (natOfDigits (part 6 2 text))
  hour : natOfDigits (part 8 2 text) < 24
  minute : natOfDigits (part 10 2 text) < 60
  second : natOfDigits (part 12 2 text) ≤ 60

/-- The parts of a stored time, as in `2024-01-02T03:04:05Z`: how many digits each has and which
character stands behind it. -/
def layout : List (Nat × Char) := [(4, '-'), (2, '-'), (2, 'T'), (2, ':'), (2, ':'), (2, 'Z')]

/-- A text with a character behind each part of a layout. -/
def separatedBy : List (Nat × Char) → List Char → List Char
  | [], text => text
  | (width, separator) :: rest, text =>
    text.take width ++ separator :: separatedBy rest (text.drop width)

/-! ## Reading -/

section
variable {text : List Char}

theorem part_append_drop (start width : Nat) (text : List Char) :
    part start width text ++ text.drop (start + width) = text.drop start := by
  rw [part, ← List.drop_drop, List.take_append_drop]

/-- A part of a text of digits spells a number, as wide as the part. -/
theorem spells_part (hd : ∀ c ∈ text, c.isDigit) (start : Nat) {width : Nat} (hw : 0 < width)
    (hl : start + width ≤ text.length) :
    Spells width (part start width text) (natOfDigits (part start width text)) ∧
      (part start width text).length = width := by
  have hlength : (part start width text).length = width := by
    rw [part, List.length_take, List.length_drop]
    omega
  refine ⟨⟨fun c hc => ?_, fun hnil => ?_, hlength.le, rfl⟩, hlength⟩
  · exact hd c (List.mem_of_mem_drop (List.mem_of_mem_take hc))
  · rw [hnil] at hlength
    exact hw.ne hlength

theorem yearAhead?_digits (hd : ∀ c ∈ text, c.isDigit) (hl : 4 ≤ text.length) :
    yearAhead? text = some ((natOfDigits (part 0 4 text) : Int), text.drop 4) := by
  obtain ⟨hspells, hlength⟩ := spells_part hd 0 four_pos (by omega)
  have hsplit : [] ++ part 0 4 text ++ text.drop 4 = text := part_append_drop 0 4 text
  calc yearAhead? text
      = yearAhead? ([] ++ part 0 4 text ++ text.drop 4) := by rw [hsplit]
    _ = some ((natOfDigits (part 0 4 text) : Int), text.drop 4) :=
        yearAhead?_unsigned blank_nil hspells fun hlt => absurd hlength hlt.ne

theorem partAhead?_digits (hd : ∀ c ∈ text, c.isDigit) (start : Nat)
    (hl : start + 2 ≤ text.length) :
    partAhead? (text.drop start) =
      some (natOfDigits (part start 2 text), text.drop (start + 2)) := by
  obtain ⟨hspells, hlength⟩ := spells_part hd start two_pos hl
  have hsplit : [] ++ part start 2 text ++ text.drop (start + 2) = text.drop start :=
    part_append_drop start 2 text
  calc partAhead? (text.drop start)
      = partAhead? ([] ++ part start 2 text ++ text.drop (start + 2)) := by rw [hsplit]
    _ = some (natOfDigits (part start 2 text), text.drop (start + 2)) :=
        partAhead?_append blank_nil hspells fun hlt => absurd hlength hlt.ne

/-- Of fourteen digits each item takes its own. -/
theorem readAs?_compactFormat (hlen : text.length = 14) (hd : ∀ c ∈ text, c.isDigit) :
    readAs? {} text compactFormat = some
      { year := some (natOfDigits (part 0 4 text) : Int), month := natOfDigits (part 4 2 text),
        day := natOfDigits (part 6 2 text), hour := natOfDigits (part 8 2 text),
        minute := natOfDigits (part 10 2 text), second := natOfDigits (part 12 2 text) } := by
  have hnothing : text.drop 14 = [] := List.drop_of_length_le hlen.le
  have hyear := yearAhead?_digits hd (by omega)
  have hmonth := partAhead?_digits hd 4 (by omega)
  have hday := partAhead?_digits hd 6 (by omega)
  have hhour := partAhead?_digits hd 8 (by omega)
  have hminute := partAhead?_digits hd 10 (by omega)
  have hsecond := partAhead?_digits hd 12 (by omega)
  simp only [compactFormat, readAs?, Item.read?, hyear, hmonth, hday, hhour, hminute, hsecond,
    hnothing, Option.map_some, Option.bind_eq_bind, Option.bind_some, List.isEmpty_nil, if_true]

/-- The date in the first eight of fourteen digits. -/
def dateOf (text : List Char) : Date :=
  ⟨natOfDigits (part 0 4 text), natOfDigits (part 4 2 text), natOfDigits (part 6 2 text)⟩

theorem Parsed.moment?_eq_some_iff {p : Parsed} {m : Moment} :
    p.moment? = some m ↔
      p.date?.bind Day.ofDate? = some m.day ∧ p.time? = some m.time := by
  unfold Parsed.moment?
  simp only [Option.bind_eq_bind, ← Option.bind_assoc]
  constructor
  · intro h
    obtain ⟨day, hday, h⟩ := Option.bind_eq_some_iff.1 h
    obtain ⟨time, htime, h⟩ := Option.bind_eq_some_iff.1 h
    cases h
    exact ⟨hday, htime⟩
  · rintro ⟨hday, htime⟩
    rw [hday, htime]
    rfl

/-- **What a page time is read as**: the day in its first eight digits, and the time of day in the
other six. -/
theorem ofCompact?_eq_some_iff {m : Moment} :
    Moment.ofCompact? text = some m ↔
      text.length = 14 ∧ (∀ c ∈ text, c.isDigit) ∧ Day.ofDate? (dateOf text) = some m.day ∧
        TimeOfDay.ofClock? (natOfDigits (part 8 2 text)) (natOfDigits (part 10 2 text))
          (natOfDigits (part 12 2 text)) = some m.time := by
  unfold Moment.ofCompact?
  split
  · rename_i hguard
    simp only [Bool.and_eq_true, decide_eq_true_eq, List.all_eq_true] at hguard
    obtain ⟨hlen, hd⟩ := hguard
    rw [readAs?_compactFormat hlen hd, Option.bind_some, Parsed.moment?_eq_some_iff]
    exact ⟨fun h => ⟨hlen, hd, h⟩, fun h => h.2.2⟩
  · rename_i hguard
    simp only [Bool.and_eq_true, decide_eq_true_eq, List.all_eq_true] at hguard
    exact ⟨nofun, fun h => absurd ⟨h.1, h.2.1⟩ hguard⟩

/-- Four digits spell a year of the calendar. -/
theorem year_dateOf (hlen : text.length = 14) (hd : ∀ c ∈ text, c.isDigit) :
    firstYear ≤ (dateOf text).year ∧ (dateOf text).year ≤ lastYear := by
  obtain ⟨hspells, hlength⟩ := spells_part hd 0 four_pos (by omega)
  have hbound := natOfDigits_lt hspells.digits
  rw [hlength] at hbound
  have hpow : Nat.pow 10 4 = 10000 := rfl
  have hyear : (dateOf text).year = (natOfDigits (part 0 4 text) : Int) := rfl
  unfold firstYear lastYear
  omega

/-- **A page time is read exactly if it names a moment.** -/
theorem exists_ofCompact? : (∃ m, Moment.ofCompact? text = some m) ↔ NamesMoment text := by
  constructor
  · rintro ⟨m, h⟩
    obtain ⟨hlen, hd, hday, htime⟩ := ofCompact?_eq_some_iff.1 h
    obtain ⟨-, -, hnamed⟩ := (exists_iff _).1 (exists_ofDate?.1 ⟨m.day, hday⟩)
    obtain ⟨hhour, hminute, hsecond⟩ := exists_ofClock?.1 ⟨m.time, htime⟩
    exact ⟨hlen, hd, hnamed, hhour, hminute, hsecond⟩
  · rintro ⟨hlen, hd, hnamed, hhour, hminute, hsecond⟩
    obtain ⟨hfirst, hlast⟩ := year_dateOf hlen hd
    obtain ⟨day, hday⟩ := exists_ofDate?.2 ((exists_iff (dateOf text)).2 ⟨hfirst, hlast, hnamed⟩)
    obtain ⟨time, htime⟩ := exists_ofClock?.2 ⟨hhour, hminute, hsecond⟩
    exact ⟨⟨day, time⟩, ofCompact?_eq_some_iff.2 ⟨hlen, hd, hday, htime⟩⟩

/-! ## Writing -/

/-- **A moment is written with the digits it was read from.** -/
theorem writeAs_ofCompact? {m : Moment} (h : Moment.ofCompact? text = some m) :
    m.writeAs isoFormat = separatedBy layout text := by
  obtain ⟨hlen, hd, hday, htime⟩ := ofCompact?_eq_some_iff.1 h
  obtain ⟨hhour, hminute, hsecond⟩ := clock_of_ofClock? htime
  have hdate := date_of_ofDate? hday
  have hnothing : text.drop 14 = [] := List.drop_of_length_le hlen.le
  have hyear : writtenYear (natOfDigits (part 0 4 text)) = part 0 4 text := by
    obtain ⟨hspells, hlength⟩ := spells_part hd 0 four_pos (by omega)
    exact writtenYear_of_spells hspells hlength
  have hpart : ∀ start, start + 2 ≤ text.length →
      padded 2 (natOfDigits (part start 2 text)) = part start 2 text := by
    intro start hl
    obtain ⟨hspells, hlength⟩ := spells_part hd start two_pos hl
    exact padded_of_spells hspells hlength
  simp only [Moment.writeAs, isoFormat, Item.write, hdate, dateOf, hhour, hminute, hsecond, hyear,
    hpart 4 (by omega), hpart 6 (by omega), hpart 8 (by omega), hpart 10 (by omega),
    hpart 12 (by omega), List.flatMap_cons, List.flatMap_nil]
  simp [separatedBy, layout, part, hnothing]

end

/-! ## Stored times -/

/-- The text is left when the characters between its parts are taken away. -/
theorem filter_separatedBy {keep : Char → Bool} (parts : List (Nat × Char)) {text : List Char}
    (hp : ∀ p ∈ parts, keep p.2 = false) (ht : ∀ c ∈ text, keep c) :
    (separatedBy parts text).filter keep = text := by
  induction parts generalizing text with
  | nil => exact List.filter_eq_self.2 ht
  | cons p rest ih =>
    have hrest : ∀ q ∈ rest, keep q.2 = false := fun q hq => hp q (List.mem_cons_of_mem p hq)
    have hdrop : ∀ c ∈ text.drop p.1, keep c := fun c hc => ht c (List.mem_of_mem_drop hc)
    have htake : (text.take p.1).filter keep = text.take p.1 :=
      List.filter_eq_self.2 fun c hc => ht c (List.mem_of_mem_take hc)
    have hsep : ¬ keep p.2 = true := by simp [hp p List.mem_cons_self]
    rw [separatedBy, List.filter_append, List.filter_cons_of_neg hsep, ih hrest hdrop, htake,
      List.take_append_drop]

/-- Of two texts the first difference decides, wherever it stands. -/
theorem append_lt_append_iff {a b x y : List Char} (h : a.length = b.length) :
    a ++ x < b ++ y ↔ a < b ∨ a = b ∧ x < y := by
  induction a generalizing b with
  | nil => simp [List.eq_nil_of_length_eq_zero h.symm]
  | cons c a ih =>
    cases b with
    | nil => cases h
    | cons d b =>
      simp only [List.cons_append, List.cons_lt_cons_iff, ih (Nat.succ.inj h), List.cons.injEq]
      tauto

/-- Equal characters at equal places leave the order of two texts as it is. -/
theorem separatedBy_lt_iff (parts : List (Nat × Char)) {a b : List Char}
    (h : a.length = b.length) : separatedBy parts a < separatedBy parts b ↔ a < b := by
  induction parts generalizing a b with
  | nil => rfl
  | cons p rest ih =>
    have htake : (a.take p.1).length = (b.take p.1).length := by simp [h]
    have hdrop : (a.drop p.1).length = (b.drop p.1).length := by simp [h]
    calc separatedBy (p :: rest) a < separatedBy (p :: rest) b
        ↔ a.take p.1 < b.take p.1 ∨ a.take p.1 = b.take p.1 ∧
            separatedBy rest (a.drop p.1) < separatedBy rest (b.drop p.1) := by
          rw [separatedBy, separatedBy, append_lt_append_iff htake, List.cons_lt_cons_iff]
          simp
      _ ↔ a.take p.1 ++ a.drop p.1 < b.take p.1 ++ b.drop p.1 := by
          rw [ih hdrop, append_lt_append_iff htake]
      _ ↔ a < b := by rw [List.take_append_drop, List.take_append_drop]

theorem toList_storedTime {t : String} (h : NamesMoment t.toList) :
    (storedTime t).toList = separatedBy layout t.toList := by
  obtain ⟨m, hm⟩ := exists_ofCompact?.2 h
  simp only [storedTime, hm, String.toList_ofList]
  exact writeAs_ofCompact? hm

theorem storedTime_of_not_namesMoment {t : String} (h : ¬ NamesMoment t.toList) :
    storedTime t = "" := by
  have hnone : Moment.ofCompact? t.toList = none :=
    Option.eq_none_iff_forall_ne_some.2 fun m hm => h (exists_ofCompact?.1 ⟨m, hm⟩)
  simp only [storedTime, hnone]

/-- **Page times as they are stored.** The stored time is not empty exactly if the text names a
moment. Then it consists of the text's own digits in their parts, the text is what is left of it
without the separators, and stored times are in the order of their texts. -/
theorem storedTime_of_moments :
    (∀ t : String, storedTime t ≠ "" ↔ NamesMoment t.toList) ∧
    (∀ t : String, NamesMoment t.toList →
      (storedTime t).toList = separatedBy layout t.toList ∧
      (storedTime t).toList.filter (· ∉ layout.map Prod.snd) = t.toList) ∧
    ∀ t u : String, NamesMoment t.toList → NamesMoment u.toList →
      (storedTime t < storedTime u ↔ t < u) := by
  refine ⟨fun t => ?_, fun t ht => ⟨toList_storedTime ht, ?_⟩, fun t u ht hu => ?_⟩
  · by_cases h : NamesMoment t.toList
    · have hne : (storedTime t).toList ≠ [] := by
        rw [toList_storedTime h]
        simp [separatedBy, layout]
      simp only [h, iff_true]
      exact fun hempty => hne (by rw [hempty]; rfl)
    · simp [storedTime_of_not_namesMoment h, h]
  · rw [toList_storedTime ht]
    refine filter_separatedBy layout (by decide) fun c hc => decide_eq_true fun hm => ?_
    have hsep : (layout.map Prod.snd).all fun d => !d.isDigit := by decide
    exact absurd (ht.digits c hc) (by simpa using List.all_eq_true.1 hsep c hm)
  · have hlen : t.toList.length = u.toList.length := ht.length.trans hu.length.symm
    rw [String.lt_iff, toList_storedTime ht, toList_storedTime hu, separatedBy_lt_iff layout hlen]
    rfl

/-- A leap second on a leap day of the year zero, and a day that a century's last year has not. -/
example : storedTime "00000229235960" = "0000-02-29T23:59:60Z" ∧
    storedTime "19000229000000" = "" := by decide

end WikiGraph.Calendar
