import WikiGraph.Calendar.Format
import WikiGraph.Proofs.Text.Spelling
/-!
# Numbers in dates

How the numbers of a date are written (`SpellsYear`, `Spells`), what white space is, and that a
reader of one number takes all of it and nothing behind it (`numberAhead?_append`,
`yearAhead?_append`). A number is written back with its own digits, zeros in front included, if it
is as wide as its format (`padded_natOfDigits`).
-/
namespace WikiGraph.Calendar

open WikiGraph.Text

/-! ## The grammar -/

/-- How a year is written: with up to four digits, or with a sign and any number of digits. -/
inductive SpellsYear : List Char → Int → Prop where
  | unsigned {digits : List Char} {n : Nat} (h : Spells 4 digits n) : SpellsYear digits n
  | plus {digits : List Char} {n : Nat} (h : Spells digits.length digits n) :
      SpellsYear ('+' :: digits) n
  | minus {digits : List Char} {n : Nat} (h : Spells digits.length digits n) :
      SpellsYear ('-' :: digits) (-n)

/-- The characters with the Unicode property White_Space. -/
def whiteSpace : List Char :=
  ['\t', '\n', '\x0b', '\x0c', '\r', ' ', '\u0085', '\u00a0', '\u1680', '\u2000', '\u2001',
    '\u2002', '\u2003', '\u2004', '\u2005', '\u2006', '\u2007', '\u2008', '\u2009', '\u200a',
    '\u2028', '\u2029', '\u202f', '\u205f', '\u3000']

def Blank (text : List Char) : Prop := ∀ c ∈ text, c ∈ whiteSpace

theorem blank_nil : Blank [] := by
  rintro c ⟨⟩

theorem isSpace_iff (c : Char) : isSpace c ↔ c ∈ whiteSpace := by
  have hmem : c ∈ whiteSpace ↔ c.toNat ∈ whiteSpace.map Char.toNat := by
    refine ⟨List.mem_map_of_mem, fun h => ?_⟩
    obtain ⟨d, hd, hcode⟩ := List.mem_map.1 h
    exact Char.toNat_inj.1 hcode ▸ hd
  have hcodes : whiteSpace.map Char.toNat = [9, 10, 11, 12, 13, 32, 0x85, 0xA0, 0x1680, 0x2000, 0x2001,
      0x2002, 0x2003, 0x2004, 0x2005, 0x2006, 0x2007, 0x2008, 0x2009, 0x200A, 0x2028, 0x2029, 0x202F,
      0x205F, 0x3000] := by decide
  rw [hmem, hcodes]
  simp only [isSpace, inRanges, wideSpaces, List.any_cons, List.any_nil, List.mem_cons,
    List.not_mem_nil]
  split <;> simp <;> omega

/-- A digit is no white space. -/
theorem isSpace_of_isDigit {c : Char} (h : c.isDigit) : isSpace c = false := by
  have hb := toNat_of_isDigit h
  have hascii : c.toNat < 0x80 := by omega
  simp only [isSpace, hascii, if_true, Bool.or_eq_false_iff, Bool.and_eq_false_iff,
    decide_eq_false_iff_not]
  omega

/-! ## Reading numbers -/

theorem numberAhead?_eq_some {limit n : Nat} {text rest : List Char}
    (h : numberAhead? limit text = some (n, rest)) :
    ∃ digits, text = digits ++ rest ∧ Spells limit digits n := by
  unfold numberAhead? at h
  simp only at h
  split at h
  · cases h
  · rename_i hne
    obtain ⟨rfl, rfl⟩ := Prod.mk.inj (Option.some.inj h)
    have hprefix : (text.take limit).takeWhile Char.isDigit <+: text :=
      (List.takeWhile_prefix _).trans (List.take_prefix _ _)
    refine ⟨_, (List.prefix_iff_eq_append.1 hprefix).symm, ?_⟩
    refine ⟨fun c hc => List.mem_takeWhile_imp hc, by simpa using hne, ?_, rfl⟩
    exact (List.takeWhile_prefix _).length_le.trans (List.length_take_le _ _)

/-- All digits of a number are taken, and nothing behind them is, if no digit follows or none more
may be taken. -/
theorem numberAhead?_append {limit n : Nat} {digits rest : List Char} (h : Spells limit digits n)
    (hr : digits.length < limit → Stops Char.isDigit rest) :
    numberAhead? limit (digits ++ rest) = some (n, rest) := by
  have hstops : Stops Char.isDigit (rest.take (limit - digits.length)) := by
    rcases Nat.lt_or_ge digits.length limit with hlt | hge
    · exact (hr hlt).take _
    · rw [Nat.sub_eq_zero_of_le hge]
      exact stops_nil _
  have htake : (digits ++ rest).take limit = digits ++ rest.take (limit - digits.length) := by
    rw [List.take_append, List.take_of_length_le h.short]
  have hdigits : ((digits ++ rest).take limit).takeWhile Char.isDigit = digits := by
    rw [htake, takeWhile_append_of_stops h.digits hstops]
  unfold numberAhead?
  simp only [hdigits, List.isEmpty_iff, h.nonempty, if_false, List.drop_left, h.value]

theorem skipSpace_append {space rest : List Char} (h : Blank space) (hr : Stops isSpace rest) :
    skipSpace (space ++ rest) = rest := by
  rw [skipSpace, List.dropWhile_append_of_pos fun c hc => (isSpace_iff c).2 (h c hc)]
  cases rest with
  | nil => rfl
  | cons c after =>
    have hc : isSpace c = false := hr c rfl
    simp [hc]

theorem exists_skipSpace (text : List Char) :
    ∃ space, text = space ++ skipSpace text ∧ Blank space :=
  ⟨text.takeWhile isSpace, List.takeWhile_append_dropWhile.symm,
    fun c hc => (isSpace_iff c).1 (List.mem_takeWhile_imp hc)⟩

theorem singleton_isPrefixOf?_eq_some_iff {c : Char} {text rest : List Char} :
    [c].isPrefixOf? text = some rest ↔ text = c :: rest := by
  cases text with
  | nil => simp [List.isPrefixOf?]
  | cons d after =>
    show (if c == d then some after else none) = some rest ↔ _
    by_cases hc : c = d
    · simp [hc]
    · simp [hc, Ne.symm hc]

theorem stops_of_spells {limit n : Nat} {digits : List Char} (h : Spells limit digits n)
    (rest : List Char) : Stops isSpace (digits ++ rest) := by
  obtain ⟨c, after, rfl⟩ := List.exists_cons_of_ne_nil h.nonempty
  exact stops_cons (isSpace_of_isDigit (h.digits c List.mem_cons_self)) _

theorem SpellsYear.stops {y : Int} {year : List Char} (h : SpellsYear year y)
    (rest : List Char) : Stops isSpace (year ++ rest) := by
  cases h with
  | unsigned h => exact stops_of_spells h rest
  | plus h => exact stops_cons rfl _
  | minus h => exact stops_cons rfl _

theorem yearAhead?_eq_some {text rest : List Char} {y : Int}
    (h : yearAhead? text = some (y, rest)) :
    ∃ space year, text = space ++ year ++ rest ∧ Blank space ∧ SpellsYear year y := by
  obtain ⟨space, htext, hblank⟩ := exists_skipSpace text
  unfold yearAhead? at h
  rw [htext]
  split at h
  · rename_i after heq
    obtain ⟨⟨n, left⟩, hnumber, heq'⟩ := Option.map_eq_some_iff.1 h
    obtain ⟨rfl, rfl⟩ := Prod.mk.inj heq'
    obtain ⟨digits, rfl, hd⟩ := numberAhead?_eq_some hnumber
    exact ⟨space, '-' :: digits, by simp [heq], hblank, .minus (hd.mono le_rfl)⟩
  · rename_i after heq
    obtain ⟨⟨n, left⟩, hnumber, heq'⟩ := Option.map_eq_some_iff.1 h
    obtain ⟨rfl, rfl⟩ := Prod.mk.inj heq'
    obtain ⟨digits, rfl, hd⟩ := numberAhead?_eq_some hnumber
    exact ⟨space, '+' :: digits, by simp [heq], hblank, .plus (hd.mono le_rfl)⟩
  · obtain ⟨⟨n, left⟩, hnumber, heq'⟩ := Option.map_eq_some_iff.1 h
    obtain ⟨rfl, rfl⟩ := Prod.mk.inj heq'
    obtain ⟨digits, heq, hd⟩ := numberAhead?_eq_some hnumber
    exact ⟨space, digits, by simp [heq], hblank, .unsigned hd⟩

theorem yearAhead?_unsigned {space digits rest : List Char} {n : Nat} (hs : Blank space)
    (h : Spells 4 digits n) (hr : digits.length < 4 → Stops Char.isDigit rest) :
    yearAhead? (space ++ digits ++ rest) = some ((n : Int), rest) := by
  have hskip : skipSpace (space ++ digits ++ rest) = digits ++ rest := by
    rw [List.append_assoc, skipSpace_append hs (stops_of_spells h rest)]
  obtain ⟨c, after, rfl⟩ := List.exists_cons_of_ne_nil h.nonempty
  have hc := h.digits c List.mem_cons_self
  unfold yearAhead?
  rw [hskip]
  -- Digits begin with no sign, so the third way of reading applies.
  split
  · rename_i heq
    obtain ⟨rfl, -⟩ := List.cons.inj heq
    cases hc
  · rename_i heq
    obtain ⟨rfl, -⟩ := List.cons.inj heq
    cases hc
  · rw [numberAhead?_append h hr]
    rfl

theorem yearAhead?_append {space year rest : List Char} {y : Int} (hs : Blank space)
    (hy : SpellsYear year y) (hr : Stops Char.isDigit rest) :
    yearAhead? (space ++ year ++ rest) = some (y, rest) := by
  have hskip : skipSpace (space ++ year ++ rest) = year ++ rest := by
    rw [List.append_assoc, skipSpace_append hs (hy.stops rest)]
  cases hy with
  | unsigned h => exact yearAhead?_unsigned hs h fun _ => hr
  | plus h =>
    unfold yearAhead?
    rw [hskip]
    show (numberAhead? _ (_ ++ rest)).map _ = _
    rw [numberAhead?_append (h.mono (by simp)) fun _ => hr]
    rfl
  | minus h =>
    unfold yearAhead?
    rw [hskip]
    show (numberAhead? _ (_ ++ rest)).map _ = _
    rw [numberAhead?_append (h.mono (by simp)) fun _ => hr]
    rfl

theorem partAhead?_append {space digits rest : List Char} {n : Nat} (hs : Blank space)
    (h : Spells 2 digits n) (hr : digits.length < 2 → Stops Char.isDigit rest) :
    partAhead? (space ++ digits ++ rest) = some (n, rest) := by
  rw [partAhead?, List.append_assoc, skipSpace_append hs (stops_of_spells h rest),
    numberAhead?_append h hr]

theorem partAhead?_eq_some {text rest : List Char} {n : Nat} (h : partAhead? text = some (n, rest)) :
    ∃ space digits, text = space ++ digits ++ rest ∧ Blank space ∧ Spells 2 digits n := by
  obtain ⟨space, htext, hblank⟩ := exists_skipSpace text
  obtain ⟨digits, hrest, hd⟩ := numberAhead?_eq_some h
  exact ⟨space, digits, by rw [htext, hrest, List.append_assoc], hblank, hd⟩

/-! ## Writing numbers -/

theorem natOfDigits_zero_cons (digits : List Char) :
    natOfDigits ('0' :: digits) = natOfDigits digits := by
  simp [natOfDigits, digitValue]

theorem leftpad_of_length_le {width : Nat} {text : List Char} (h : width ≤ text.length) (c : Char) :
    text.leftpad width c = text := by
  simp [List.leftpad, Nat.sub_eq_zero_of_le h]

theorem leftpad_succ {width : Nat} {text : List Char} (h : text.length ≤ width) (c : Char) :
    text.leftpad (width + 1) c = c :: text.leftpad width c := by
  rw [List.leftpad, List.leftpad, Nat.succ_sub h, List.replicate_succ, List.cons_append]

/-- **A number is written with the digits it was read from**, zeros in front included, if it is
written as wide as they are. -/
theorem padded_natOfDigits {digits : List Char} (hd : ∀ c ∈ digits, c.isDigit)
    (hne : digits ≠ []) : padded digits.length (natOfDigits digits) = digits := by
  induction digits with
  | nil => exact absurd rfl hne
  | cons c rest ih =>
    by_cases hc : c = '0'
    · subst hc
      rw [natOfDigits_zero_cons]
      by_cases hrest : rest = []
      · subst hrest
        rfl
      · have hpadded := ih (fun c hc => hd c (List.mem_cons_of_mem _ hc)) hrest
        have hshort : (Nat.toDigits 10 (natOfDigits rest)).length ≤ rest.length := by
          have hlength := congrArg List.length hpadded
          rw [padded, List.length_leftpad] at hlength
          omega
        rw [padded, List.length_cons, leftpad_succ hshort, ← padded, hpadded]
    · have hhead : (c :: rest).head? ≠ some '0' := by simpa using hc
      rw [padded, toDigits_natOfDigits hd hne hhead]
      exact leftpad_of_length_le le_rfl '0'

theorem padded_of_spells {limit n : Nat} {digits : List Char} (h : Spells limit digits n)
    (hwide : digits.length = limit) : padded limit n = digits := by
  rw [← hwide, ← h.value, padded_natOfDigits h.digits h.nonempty]

theorem writtenYear_of_spells {digits : List Char} {n : Nat} (h : Spells 4 digits n)
    (hwide : digits.length = 4) : writtenYear n = digits := by
  have hbound : n < Nat.pow 10 4 := by
    rw [← h.value, ← hwide]
    exact natOfDigits_lt h.digits
  have hyear : (0 : Int) ≤ n ∧ (n : Int) ≤ 9999 := by
    have hpow : Nat.pow 10 4 = 10000 := rfl
    omega
  rw [writtenYear, if_pos hyear, Int.natAbs_natCast, padded_of_spells h hwide]

end WikiGraph.Calendar
