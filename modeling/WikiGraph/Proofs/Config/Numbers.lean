import Mathlib.Data.String.Basic
import WikiGraph.Config.Environment
import WikiGraph.Proofs.Text.LowerCase
import WikiGraph.Proofs.Text.Spelling
/-!
# Numbers among the values of variables

How a variable spells a number is a grammar: digits with a point and an exponent, or a word for
infinity or for no number (`SpellsNumber`). The readers, which cut a text where its digits end and
never go back, accept all of the grammar and nothing else (`integerOf?_eq_some_iff`,
`numberOf?_eq_some_iff`), because neither a point nor the mark of an exponent could have been one
more digit. No word for a truth value is a number.
-/
namespace WikiGraph.Config

open WikiGraph.Text

/-! ## The grammar of numbers -/

/-- An exponent behind a number, or nothing for the exponent zero. -/
inductive SpellsExponent : List Char → Int → Prop where
  | none : SpellsExponent [] 0
  | marked {mark : Char} {text : List Char} {e : Int} (hm : mark = 'e' ∨ mark = 'E')
      (h : SpellsInteger text e) : SpellsExponent (mark :: text) e

/-- A number without its sign: a name of infinity or of no number in any case, or at least one digit,
perhaps with a point before, among or behind the digits, and perhaps an exponent. -/
inductive SpellsMagnitude (negative : Bool) : List Char → Binary64 → Prop where
  | infinite {text : List Char} (h : lowerCase text ∈ ["inf".toList, "infinity".toList]) :
      SpellsMagnitude negative text (Binary64.infinity negative)
  | noNumber {text : List Char} (h : lowerCase text = "nan".toList) :
      SpellsMagnitude negative text (Binary64.nan.withSign negative)
  | decimal {whole point fraction exponent : List Char} {n : Nat} {e : Int}
      (hp : point = ['.'] ∨ point = [] ∧ fraction = [])
      (hd : Spells (whole ++ fraction).length (whole ++ fraction) n)
      (he : SpellsExponent exponent e) :
      SpellsMagnitude negative (whole ++ point ++ fraction ++ exponent)
        (Binary64.ofDecimal negative n (e - fraction.length))

/-- A number with or without a sign. -/
inductive SpellsNumber : List Char → Binary64 → Prop where
  | unsigned {text : List Char} {x : Binary64} (h : SpellsMagnitude false text x) :
      SpellsNumber text x
  | plus {text : List Char} {x : Binary64} (h : SpellsMagnitude false text x) :
      SpellsNumber ('+' :: text) x
  | minus {text : List Char} {x : Binary64} (h : SpellsMagnitude true text x) :
      SpellsNumber ('-' :: text) x

/-! ## Reading integers -/

theorem readDigits_iff {digits : List Char} {n : Nat} :
    (if digits.isEmpty || !digits.all Char.isDigit then none else some (natOfDigits digits)) =
      some n ↔ Spells digits.length digits n := by
  split
  · rename_i h
    simp only [Bool.or_eq_true, List.isEmpty_iff, Bool.not_eq_true', reduceCtorEq, false_iff] at h ⊢
    intro hs
    rcases h with h | h
    · exact hs.nonempty h
    · exact absurd (List.all_eq_true.2 hs.digits) (by simp [h])
  · rename_i h
    simp only [Bool.or_eq_true, List.isEmpty_iff, Bool.not_eq_true', not_or, Bool.not_eq_false,
      Option.some.injEq] at h ⊢
    exact ⟨fun hn => ⟨List.all_eq_true.1 h.2, h.1, le_rfl, hn⟩, fun hs => hs.value⟩

theorem naturalOf?_eq_some_iff {text : List Char} {n : Nat} :
    naturalOf? text = some n ↔ Spells text.length text n ∨
      ∃ digits, text = '+' :: digits ∧ Spells digits.length digits n := by
  unfold naturalOf?
  simp only
  rw [readDigits_iff]
  split
  · rename_i digits
    have hplus : ¬ Spells ('+' :: digits).length ('+' :: digits) n := fun h => h.head rfl rfl
    rw [or_iff_right hplus]
    simp
  · rename_i h
    have hnone : ¬ ∃ digits, text = '+' :: digits ∧ Spells digits.length digits n :=
      fun ⟨digits, htext, _⟩ => h digits htext
    simp [hnone]

theorem naturalOf?_cast_iff {text : List Char} {k : Int} :
    (do let n ← naturalOf? text; pure (n : Int)) = some k ↔
      ∃ n : Nat, naturalOf? text = some n ∧ (n : Int) = k := by
  cases naturalOf? text <;> simp

theorem readMinus_iff {digits : List Char} {k : Int} :
    (if digits.all Char.isDigit then (naturalOf? digits).map fun n => -(n : Int) else none) =
      some k ↔ SpellsInteger ('-' :: digits) k := by
  constructor
  · intro h
    split at h
    · rename_i hd
      obtain ⟨_, hread, rfl⟩ := Option.map_eq_some_iff.1 h
      obtain ⟨n, hn, rfl⟩ := naturalOf?_cast_iff.1 hread
      rcases naturalOf?_eq_some_iff.1 hn with hs | ⟨rest, rfl, -⟩
      · exact .minus hs
      · exact absurd (List.all_eq_true.1 hd '+' List.mem_cons_self) (by decide)
    · cases h
  · intro h
    cases h with
    | unsigned h => exact absurd rfl (h.head (c := '-') rfl)
    | minus h =>
      have hread := naturalOf?_eq_some_iff.2 (.inl h)
      rw [if_pos (List.all_eq_true.2 h.digits), naturalOf?_cast_iff.2 ⟨_, hread, rfl⟩]
      rfl

theorem readPlain_iff {text : List Char} (ht : ∀ rest, text ≠ '-' :: rest) {k : Int} :
    ((naturalOf? text).map fun n => (n : Int)) = some k ↔ SpellsInteger text k := by
  constructor
  · intro h
    obtain ⟨_, hread, rfl⟩ := Option.map_eq_some_iff.1 h
    obtain ⟨n, hn, rfl⟩ := naturalOf?_cast_iff.1 hread
    rcases naturalOf?_eq_some_iff.1 hn with hs | ⟨digits, rfl, hs⟩
    · exact .unsigned hs
    · exact .plus hs
  · intro h
    have hread : ∃ n : Nat, naturalOf? text = some n ∧ (n : Int) = k := by
      cases h with
      | unsigned h => exact ⟨_, naturalOf?_eq_some_iff.2 (.inl h), rfl⟩
      | plus h => exact ⟨_, naturalOf?_eq_some_iff.2 (.inr ⟨_, rfl, h⟩), rfl⟩
      | minus h => exact absurd rfl (ht _)
    rw [naturalOf?_cast_iff.2 hread]
    rfl

/-- **The reader of integers accepts exactly those spelled that fit 64 bits.** -/
theorem integerOf?_eq_some_iff {text : List Char} {k : Int} :
    integerOf? text = some k ↔ SpellsInteger text k ∧ Word.fitsSigned k := by
  unfold integerOf?
  simp only
  rw [Option.filter_eq_some_iff]
  split
  · rw [readMinus_iff]
  · rename_i h
    rw [readPlain_iff h]

/-! ## Reading exponents -/

/-- Whether an exponent may begin here: at its mark, or at the end. -/
def marksExponent (rest : List Char) : Bool := rest.head?.all fun c => c = 'e' || c = 'E'

theorem exponentOf?_eq_some_iff {rest : List Char} {e : Int} :
    marksExponent rest ∧ exponentOf? rest = some e ↔ SpellsExponent rest e := by
  unfold exponentOf? marksExponent
  split
  · constructor
    · rintro ⟨-, h⟩
      cases h
      exact .none
    · rintro ⟨⟩
      simp
  · rw [readMinus_iff]
    simp only [List.head?_cons, Option.all_some, Bool.or_eq_true, decide_eq_true_eq]
    exact ⟨fun h => .marked h.1 h.2, fun | .marked hm h => ⟨hm, h⟩⟩
  · rename_i h
    rw [readPlain_iff h]
    simp only [List.head?_cons, Option.all_some, Bool.or_eq_true, decide_eq_true_eq]
    exact ⟨fun h => .marked h.1 h.2, fun | .marked hm h => ⟨hm, h⟩⟩

/-! ## Where numbers begin -/

theorem toLower_of_lt {c : Char} (h : c.toNat < 65) : c.toLower = c := by
  have hall : ∀ n < 65, (Char.ofNat n).toLower = Char.ofNat n := by decide
  simpa using hall c.toNat h

theorem head?_lowerCase {text : List Char} {c : Char} (hc : text.head? = some c)
    (hlt : c.toNat < 65) : (lowerCase text).head? = some c := by
  obtain ⟨rest, rfl⟩ := List.head?_eq_some_iff.1 hc
  rw [lowerCase, lowerBehind_cons_of_ascii (by omega), toLower_of_lt hlt, List.head?_cons]

def truthWords : List (List Char) := ["true".toList, "false".toList]

def numberWords : List (List Char) := ["inf".toList, "infinity".toList, "nan".toList]

/-- No digit, sign or point begins a word. -/
theorem lowerCase_notMem_words {text : List Char} {c : Char} (hc : text.head? = some c)
    (hlt : c.toNat < 65) : lowerCase text ∉ truthWords ++ numberWords := by
  intro hmem
  have hletters : ∀ word ∈ truthWords ++ numberWords, word.head?.all fun d => 65 ≤ d.toNat := by
    decide
  have hletter := hletters _ hmem
  rw [head?_lowerCase hc hlt, Option.all_some, decide_eq_true_iff] at hletter
  exact absurd hletter (Nat.not_le.2 hlt)

/-- A decimal begins with a digit or with its point. -/
theorem head?_decimal {whole point fraction : List Char} {limit n : Nat}
    (hp : point = ['.'] ∨ point = [] ∧ fraction = []) (hd : Spells limit (whole ++ fraction) n)
    (rest : List Char) : ∃ c, (whole ++ point ++ fraction ++ rest).head? = some c ∧
      c.toNat < 65 ∧ c ≠ '+' ∧ c ≠ '-' := by
  cases whole with
  | nil =>
    rcases hp with rfl | ⟨rfl, rfl⟩
    · exact ⟨'.', rfl, by decide, by decide, by decide⟩
    · exact absurd rfl hd.nonempty
  | cons c whole =>
    have hc := hd.digits c List.mem_cons_self
    have hb := toNat_of_isDigit hc
    refine ⟨c, rfl, by omega, ?_, ?_⟩ <;> rintro rfl <;> cases hc

/-! ## Where decimals are cut -/

/-- A text cut where the reader of decimals cuts it: digits, perhaps a point and more digits, and the
rest, in which none of them could go on. -/
structure Cut (text whole point fraction rest : List Char) : Prop where
  text_eq : text = whole ++ point ++ fraction ++ rest
  whole_digits : ∀ c ∈ whole, c.isDigit
  fraction_digits : ∀ c ∈ fraction, c.isDigit
  stops : Stops Char.isDigit rest
  point_eq : point = ['.'] ∨ point = [] ∧ fraction = [] ∧ rest.head? ≠ some '.'

theorem stops_dropWhile (p : Char → Bool) (text : List Char) : Stops p (text.dropWhile p) := by
  intro c hc
  have hnot := List.head?_dropWhile_not p text
  rw [hc] at hnot
  exact hnot

theorem exists_cut (text : List Char) : ∃ whole point fraction rest,
    Cut text whole point fraction rest := by
  have hdigits : ∀ l : List Char, ∀ c ∈ l.takeWhile Char.isDigit, c.isDigit := fun l c hc =>
    List.mem_takeWhile_imp hc
  have htext := (List.takeWhile_append_dropWhile (p := Char.isDigit) (l := text)).symm
  by_cases hpoint : (text.dropWhile Char.isDigit).head? = some '.'
  · obtain ⟨after, hafter⟩ := List.head?_eq_some_iff.1 hpoint
    have hrest := (List.takeWhile_append_dropWhile (p := Char.isDigit) (l := after)).symm
    refine ⟨_, ['.'], _, _, ⟨?_, hdigits text, hdigits after, stops_dropWhile _ after, .inl rfl⟩⟩
    rw [hafter, hrest] at htext
    simpa using htext
  · refine ⟨_, [], [], _, ⟨?_, hdigits text, by simp, stops_dropWhile _ text, ?_⟩⟩
    · simp
    · exact .inr ⟨rfl, rfl, hpoint⟩

theorem Cut.takeWhile_eq {text whole point fraction rest : List Char}
    (h : Cut text whole point fraction rest) : text.takeWhile Char.isDigit = whole := by
  have hstops : Stops Char.isDigit (point ++ fraction ++ rest) := by
    rcases h.point_eq with rfl | ⟨rfl, rfl, -⟩
    · exact stops_cons rfl _
    · exact h.stops
  have htext : text = whole ++ (point ++ fraction ++ rest) := by
    rw [h.text_eq, List.append_assoc, List.append_assoc, List.append_assoc]
  rw [htext, takeWhile_append_of_stops h.whole_digits hstops]

/-! ## Reading numbers -/

theorem magnitudeOf?_of_cut {negative : Bool} {text whole point fraction rest : List Char}
    (h : Cut text whole point fraction rest) (hw : lowerCase text ∉ numberWords) :
    magnitudeOf? negative text =
      if whole ++ fraction ≠ [] ∧ marksExponent rest then
        (exponentOf? rest).map fun e =>
          Binary64.ofDecimal negative (natOfDigits (whole ++ fraction)) (e - fraction.length)
      else none := by
  simp only [numberWords, List.mem_cons, List.not_mem_nil, or_false, not_or] at hw
  have hdrop : text.drop whole.length = point ++ fraction ++ rest := by
    rw [h.text_eq, List.append_assoc, List.append_assoc, List.drop_left, List.append_assoc]
  unfold magnitudeOf? marksExponent
  simp only [String.ofList_eq, hw, or_self, if_false, h.takeWhile_eq, hdrop]
  rcases h.point_eq with rfl | ⟨rfl, rfl, hr⟩
  · have hfraction : (fraction ++ rest).takeWhile Char.isDigit = fraction :=
      takeWhile_append_of_stops h.fraction_digits h.stops
    simp only [List.cons_append, List.nil_append, hfraction, List.drop_left]
    cases whole ++ fraction <;> cases rest.head?.all _ <;> simp
  · have hpoint : ∀ after, rest = '.' :: after → False := fun after hafter =>
      hr (congrArg List.head? hafter)
    -- By this fact the first way of going on behind the whole part is out.
    simp only [List.nil_append, List.append_nil]
    cases whole <;> cases rest.head?.all _ <;> simp

theorem magnitudeOf?_infinite {negative : Bool} {text : List Char}
    (h : lowerCase text ∈ ["inf".toList, "infinity".toList]) :
    magnitudeOf? negative text = some (Binary64.infinity negative) := by
  unfold magnitudeOf?
  simp only [String.ofList_eq]
  exact if_pos (by simpa using h)

theorem magnitudeOf?_noNumber {negative : Bool} {text : List Char}
    (h : lowerCase text = "nan".toList) :
    magnitudeOf? negative text = some (Binary64.nan.withSign negative) := by
  unfold magnitudeOf?
  simp only [h]
  rfl

/-- Where an exponent is left behind the cut, the text is a decimal. -/
theorem Cut.spells {negative : Bool} {text whole point fraction rest : List Char} {e : Int}
    (h : Cut text whole point fraction rest) (hne : whole ++ fraction ≠ [])
    (he : SpellsExponent rest e) : SpellsMagnitude negative text
      (Binary64.ofDecimal negative (natOfDigits (whole ++ fraction)) (e - fraction.length)) := by
  have hdigits : ∀ c ∈ whole ++ fraction, c.isDigit := fun c hc =>
    (List.mem_append.1 hc).elim (h.whole_digits c) (h.fraction_digits c)
  have hpoint : point = ['.'] ∨ point = [] ∧ fraction = [] :=
    h.point_eq.imp_right fun hp => ⟨hp.1, hp.2.1⟩
  rw [h.text_eq]
  exact .decimal hpoint ⟨hdigits, hne, le_rfl, rfl⟩ he

/-- An exponent does not go on with the digits before it. -/
theorem SpellsExponent.cut {whole point fraction exponent : List Char} {n limit : Nat} {e : Int}
    (hp : point = ['.'] ∨ point = [] ∧ fraction = []) (hd : Spells limit (whole ++ fraction) n)
    (he : SpellsExponent exponent e) :
    Cut (whole ++ point ++ fraction ++ exponent) whole point fraction exponent := by
  have hhead : ∀ c ∈ exponent.head?, c = 'e' ∨ c = 'E' := by
    cases he with
    | none => simp
    | marked hm h => simpa using hm
  have hstops : ∀ c ∈ exponent.head?, c.isDigit = false ∧ c ≠ '.' := by
    intro c hc
    rcases hhead c hc with rfl | rfl <;> decide
  refine ⟨rfl, fun c hc => hd.digits c (List.mem_append_left _ hc),
    fun c hc => hd.digits c (List.mem_append_right _ hc), fun c hc => (hstops c hc).1, ?_⟩
  exact hp.imp_right fun ⟨hpoint, hfraction⟩ => ⟨hpoint, hfraction, fun hc => (hstops _ hc).2 rfl⟩

/-- **The reader of numbers without a sign accepts exactly those spelled.** -/
theorem magnitudeOf?_eq_some_iff {negative : Bool} {text : List Char} {x : Binary64} :
    magnitudeOf? negative text = some x ↔ SpellsMagnitude negative text x := by
  constructor
  · intro h
    by_cases hinf : lowerCase text ∈ ["inf".toList, "infinity".toList]
    · rw [magnitudeOf?_infinite hinf] at h
      cases h
      exact .infinite hinf
    · by_cases hnan : lowerCase text = "nan".toList
      · rw [magnitudeOf?_noNumber hnan] at h
        cases h
        exact .noNumber hnan
      · obtain ⟨whole, point, fraction, rest, hcut⟩ := exists_cut text
        rw [magnitudeOf?_of_cut hcut (by simp_all [numberWords])] at h
        split at h
        · rename_i hread
          obtain ⟨e, he, rfl⟩ := Option.map_eq_some_iff.1 h
          exact hcut.spells hread.1 (exponentOf?_eq_some_iff.1 ⟨hread.2, he⟩)
        · cases h
  · intro h
    cases h with
    | infinite h => exact magnitudeOf?_infinite h
    | noNumber h => exact magnitudeOf?_noNumber h
    | @decimal whole point fraction exponent n e hp hd he =>
      obtain ⟨c, hc, hlt, -⟩ := head?_decimal hp hd exponent
      have hword : lowerCase (whole ++ point ++ fraction ++ exponent) ∉ numberWords := fun hmem =>
        lowerCase_notMem_words hc hlt (List.mem_append_right _ hmem)
      obtain ⟨hmark, hread⟩ := exponentOf?_eq_some_iff.2 he
      rw [magnitudeOf?_of_cut (he.cut hp hd) hword, if_pos ⟨hd.nonempty, hmark⟩, hread, hd.value]
      rfl

/-- A number without a sign is a word, or it begins with neither a letter nor a sign. -/
theorem SpellsMagnitude.word_or_head {negative : Bool} {text : List Char} {x : Binary64}
    (h : SpellsMagnitude negative text x) : lowerCase text ∈ numberWords ∨
      ∃ c, text.head? = some c ∧ c.toNat < 65 ∧ c ≠ '+' ∧ c ≠ '-' := by
  cases h with
  | infinite h => exact .inl (List.mem_append_left ["nan".toList] h)
  | noNumber h => exact .inl (by rw [h]; decide)
  | decimal hp hd he => exact .inr (head?_decimal hp hd _)

theorem SpellsMagnitude.head {negative : Bool} {text : List Char} {x : Binary64}
    (h : SpellsMagnitude negative text x) {c : Char} (hc : c = '+' ∨ c = '-') :
    text.head? ≠ some c := by
  intro hhead
  rcases h.word_or_head with hmem | ⟨d, hd, -, hplus, hminus⟩
  · have hlt : c.toNat < 65 := by
      rcases hc with rfl | rfl <;> decide
    exact lowerCase_notMem_words hhead hlt (List.mem_append_right _ hmem)
  · rw [hhead] at hd
    cases hd
    exact hc.elim hplus hminus

/-- **The reader of numbers accepts exactly those spelled.** -/
theorem numberOf?_eq_some_iff {text : List Char} {x : Binary64} :
    numberOf? text = some x ↔ SpellsNumber text x := by
  unfold numberOf?
  split
  · rw [magnitudeOf?_eq_some_iff]
    exact ⟨.minus, fun | .minus h => h | .unsigned h => absurd rfl (h.head (.inr rfl))⟩
  · rw [magnitudeOf?_eq_some_iff]
    exact ⟨.plus, fun | .plus h => h | .unsigned h => absurd rfl (h.head (.inl rfl))⟩
  · rename_i hminus hplus
    rw [magnitudeOf?_eq_some_iff]
    exact ⟨.unsigned, fun
      | .unsigned h => h
      | .plus h => absurd rfl (hplus _)
      | .minus h => absurd rfl (hminus _)⟩

/-- An integer is a number too. -/
theorem exists_number_of_integer {text : List Char} {k : Int} (h : SpellsInteger text k) :
    ∃ x, SpellsNumber text x := by
  have hplain : ∀ (negative : Bool) {digits : List Char} {n : Nat}, Spells digits.length digits n →
      SpellsMagnitude negative digits (Binary64.ofDecimal negative n 0) := by
    intro negative digits n hs
    have hd : SpellsMagnitude negative (digits ++ [] ++ [] ++ [])
        (Binary64.ofDecimal negative n (0 - ([] : List Char).length)) :=
      .decimal (.inr ⟨rfl, rfl⟩) (by simpa using hs) .none
    simpa using hd
  cases h with
  | unsigned h => exact ⟨_, .unsigned (hplain false h)⟩
  | plus h => exact ⟨_, .plus (hplain false h)⟩
  | minus h => exact ⟨_, .minus (hplain true h)⟩

/-- No truth word is a number. -/
theorem SpellsNumber.not_truth {text : List Char} {x : Binary64} (h : SpellsNumber text x) :
    lowerCase text ∉ truthWords := by
  intro hmem
  have hword : ∀ {c : Char}, text.head? = some c → c.toNat < 65 → False := fun hc hlt =>
    lowerCase_notMem_words hc hlt (List.mem_append_left _ hmem)
  cases h with
  | unsigned h =>
    rcases h.word_or_head with hnumber | ⟨c, hc, hlt, -⟩
    · have hdisjoint : ∀ word ∈ numberWords, word ∉ truthWords := by decide
      exact hdisjoint _ hnumber hmem
    · exact hword hc hlt
  | plus h => exact hword rfl (by decide)
  | minus h => exact hword rfl (by decide)

end WikiGraph.Config
