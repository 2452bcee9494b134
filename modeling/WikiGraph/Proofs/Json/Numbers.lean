import WikiGraph.Json.Reader
import WikiGraph.Proofs.Binary64.Finite
import WikiGraph.Proofs.Json.Tokens
/-!
# The numbers in what is read

Every number that is read from a JSON text is finite: a numeral that is too large has no reading
(`isFinite_of_toNumber?`). The machines that cut and read a text put nothing into a value but what they
find in it, one step at a time, so the numbers in a value that was read are those of numerals:
`allFinite_of_parse?`.
-/
namespace WikiGraph

open Binary64

/-! ## Numerals -/

namespace Numeral

/-- A power of ten has a full significand, and no exponent below that of one. -/
theorem powerOfTen_bounds {k : Nat} (h : k ≤ 308) :
    leadingWeight ≤ (powerOfTen k).significand ∧ 1023 ≤ (powerOfTen k).scale := by
  have hall : ∀ k < 309, leadingWeight ≤ (powerOfTen k).significand ∧
      1023 ≤ (powerOfTen k).scale := by decide +kernel
  exact hall k (by omega)

/-- Divided by the largest power of ten, a number of moderate size stays one. -/
theorem moderate_overPositive_largest {x : Binary64} (hx : x.Moderate) :
    (x.overPositive (powerOfTen 308)).Moderate := by
  have hscale : 1030 ≤ (powerOfTen 308).scale := by decide +kernel
  refine (overPositive_le hx (powerOfTen_bounds (Nat.le_refl 308)).1).trans ?_
  exact Nat.mul_le_mul_right _ (by omega)

theorem isFinite_overPositive {x : Binary64} (hx : x.Moderate) {k : Nat} (h : k ≤ 308) :
    (x.overPositive (powerOfTen k)).isFinite := by
  obtain ⟨hs, hscale⟩ := powerOfTen_bounds h
  refine decide_eq_true (Nat.lt_of_le_of_lt (overPositive_le hx hs) ?_)
  exact Nat.mul_lt_mul_of_pos_right (by omega) (by decide)

/-- A product is checked not to be infinite. -/
theorem isFinite_timesPositive {x y : Binary64} (h : (x.timesPositive y).isInfinite = false) :
    (x.timesPositive y).isFinite := by
  have hle : (x.timesPositive y).magnitude ≤ infinityMagnitude := by
    unfold timesPositive
    simp only
    split <;> exact (magnitude_ofQuotient _ _ _).trans_le (quotientMagnitude_le_infinity _ _)
  have hne : (x.timesPositive y).magnitude ≠ infinityMagnitude := of_decide_eq_false h
  exact decide_eq_true (Nat.lt_of_le_of_ne hle hne)

/-- **What scaling gives is finite.** -/
theorem isFinite_of_scaled {x y : Binary64} {e : Int} (hx : x.Moderate)
    (h : scaled x e = some y) : y.isFinite := by
  fun_induction scaled x e with
  | case1 x e he hzero =>
    cases h
    exact hx.isFinite
  | case2 x e he hzero ih => exact ih (moderate_overPositive_largest hx) h
  | case3 x e he hnegative =>
    cases h
    exact isFinite_overPositive hx (by omega)
  | case4 x e he hnegative hle z hinfinite => cases h
  | case5 x e he hnegative hle z hinfinite =>
    rw [← Option.some.inj h]
    exact isFinite_timesPositive (by simpa using hinfinite)
  | case6 x e he hnegative hle hzero =>
    cases h
    exact hx.isFinite
  | case7 x e he hnegative hle hzero => cases h

/-- The digits that are read fit 64 bits. -/
theorem absorb_lt {n : Nat} (h : n < 2 ^ 64) (digits : List Char) :
    (absorb n digits).1 < 2 ^ 64 := by
  fun_induction absorb n digits with
  | case1 n => exact h
  | case2 n c rest hfits ih => exact ih (of_decide_eq_true hfits)
  | case3 n c rest hfits => exact h

theorem isFinite_of_toBinary64? {n : Numeral} {x : Binary64} (h : n.toBinary64? = some x) :
    x.isFinite := by
  unfold toBinary64? at h
  obtain ⟨y, hy, rfl⟩ := Option.map_eq_some_iff.1 h
  rw [isFinite_withSign]
  refine isFinite_of_scaled (moderate_ofQuotient ?_ false) hy
  exact absorb_lt (absorb_lt (by decide) n.wholeDigits) _

end Numeral

/-- A number that is no infinity and has a finite binary fraction next to it. -/
def JsonNumber.IsFinite : JsonNumber → Prop
  | .integer n => n.natAbs < 2 ^ 64
  | .float x => x.isFinite

theorem Binary64.isFinite_ofInt {n : Int} (h : n.natAbs < 2 ^ 64) : (ofInt n).isFinite :=
  (moderate_ofQuotient h _).isFinite

/-- **A numeral stands for a finite number**, or for none. -/
theorem Numeral.isFinite_of_toNumber? {n : Numeral} {number : JsonNumber}
    (h : n.toNumber? = some number) : number.IsFinite := by
  have hfloat (h : n.toBinary64?.map JsonNumber.float = some number) : number.IsFinite := by
    obtain ⟨x, hx, rfl⟩ := Option.map_eq_some_iff.1 h
    exact isFinite_of_toBinary64? hx
  unfold toNumber? at h
  simp only at h
  split at h
  · split at h
    · split at h
      · rename_i hfits
        cases h
        have hsigned := hfits.2
        simp only [Word.fitsSigned, Bool.and_eq_true, decide_eq_true_eq] at hsigned
        unfold JsonNumber.IsFinite
        omega
      · exact hfloat h
    · split at h
      · rename_i hfits
        cases h
        have hlt : Text.natOfDigits n.wholeDigits < 0x10000000000000000 := of_decide_eq_true hfits
        unfold JsonNumber.IsFinite
        omega
      · exact hfloat h
  · exact hfloat h

namespace Json

/-! ## Tokens -/

/-- A token that is no number or a finite one. -/
def Token.IsFinite (t : Token) : Prop := ∀ n, t = .number (some n) → n.IsFinite

theorem isFinite_of_numeralToken? {chars : List Char} {t : Token}
    (h : numeralToken? chars = some t) : t.IsFinite := by
  obtain ⟨numeral, -, rfl⟩ := Option.map_eq_some_iff.1 h
  rintro n hn
  exact Numeral.isFinite_of_toNumber? (Token.number.inj hn)

theorem isFinite_of_wordToken? {chars : List Char} {t : Token} (h : wordToken? chars = some t) :
    t.IsFinite := by
  unfold wordToken? at h
  split at h <;> cases h <;> exact fun n hn => nomatch hn

theorem isFinite_cons {t : Token} {ts : List Token} (ht : t.IsFinite) (hts : ∀ t ∈ ts, t.IsFinite) :
    ∀ t' ∈ t :: ts, t'.IsFinite := List.forall_mem_cons.2 ⟨ht, hts⟩

def Lexing.AllFinite (s : Lexing) : Prop := ∀ t ∈ s.tokens, t.IsFinite

theorem allFinite_lexBetween {ts : List Token} {c : Char} {s : Lexing} (hts : ∀ t ∈ ts, t.IsFinite)
    (h : lexBetween ts c = some s) : s.AllFinite := by
  unfold lexBetween at h
  split at h
  case h_8 =>
    split at h
    · cases h
      exact hts
    · split at h
      · cases h
        exact hts
      · split at h <;> cases h
        exact hts
  case h_7 =>
    cases h
    exact hts
  all_goals
    cases h
    exact isFinite_cons (fun n hn => nomatch hn) hts

/-- A token found before the character is finite, too. -/
theorem allFinite_found {found : Option Token} {ts : List Token} {c : Char} {s : Lexing}
    (hts : ∀ t ∈ ts, t.IsFinite) (hfound : ∀ t, found = some t → t.IsFinite)
    (h : found.bind (fun t => lexBetween (t :: ts) c) = some s) : s.AllFinite := by
  obtain ⟨t, ht, hs⟩ := Option.bind_eq_some_iff.1 h
  exact allFinite_lexBetween (isFinite_cons (hfound t ht) hts) hs

/-- One character adds no number but a finite one. -/
theorem allFinite_lexStep {s s' : Lexing} {c : Char} (hs : s.AllFinite)
    (h : lexStep s c = some s') : s'.AllFinite := by
  obtain ⟨mode, tokens⟩ := s
  unfold lexStep at h
  cases mode with
  | between => exact allFinite_lexBetween hs h
  | numeral chars =>
    simp only at h
    split at h
    · cases h
      exact hs
    · exact allFinite_found hs (fun _ => isFinite_of_numeralToken?) h
  | word chars =>
    simp only at h
    split at h
    · cases h
      exact hs
    · exact allFinite_found hs (fun _ => isFinite_of_wordToken?) h
  | text units =>
    simp only at h
    split at h
    · cases h
      exact isFinite_cons (fun n hn => nomatch hn) hs
    · split at h
      · cases h
        exact hs
      · split at h <;> cases h
        exact hs
  | escape units =>
    simp only at h
    split at h
    · cases h
      exact hs
    · obtain ⟨d, -, rfl⟩ := Option.map_eq_some_iff.1 h
      exact hs
  | code units digits =>
    simp only at h
    split at h
    · cases h
    · split at h
      · obtain ⟨n, -, rfl⟩ := Option.map_eq_some_iff.1 h
        exact hs
      · cases h
        exact hs

/-- The numbers in a text are finite. -/
theorem isFinite_of_tokens? {text : List Char} {ts : List Token} (h : tokens? text = some ts) :
    ∀ t ∈ ts, t.IsFinite := by
  obtain ⟨s, hfold, hfinish⟩ := Option.bind_eq_some_iff.1 h
  have hs : s.AllFinite := foldlM_induction (fun _ _ _ _ hs => allFinite_lexStep hs)
    (fun t hm => absurd hm List.not_mem_nil) hfold
  rw [Lexing.finish?_eq] at hfinish
  obtain ⟨found, hsettled, rfl⟩ := Option.map_eq_some_iff.1 hfinish
  intro t hm
  rw [List.mem_reverse] at hm
  unfold Lexing.settled? at hsettled
  split at hsettled
  · cases hsettled
    exact hs t hm
  · obtain ⟨last, hlast, rfl⟩ := Option.map_eq_some_iff.1 hsettled
    exact isFinite_cons (isFinite_of_numeralToken? hlast) hs t hm
  · obtain ⟨last, hlast, rfl⟩ := Option.map_eq_some_iff.1 hsettled
    exact isFinite_cons (isFinite_of_wordToken? hlast) hs t hm
  · cases hsettled

/-! ## Values -/

def AllFinite (j : Json) : Prop := ∀ n ∈ j.numbers, n.IsFinite

theorem mem_numbersOfItems {items : List Json} {n : JsonNumber} :
    n ∈ numbersOfItems items ↔ ∃ j ∈ items, n ∈ j.numbers := by
  induction items with
  | nil => simp [numbersOfItems]
  | cons j rest ih => simp [numbersOfItems, ih]

theorem mem_numbersOfMembers {members : List (String × Json)} {n : JsonNumber} :
    n ∈ numbersOfMembers members ↔ ∃ m ∈ members, n ∈ m.2.numbers := by
  induction members with
  | nil => simp [numbersOfMembers]
  | cons m rest ih => simp [numbersOfMembers, ih]

theorem allFinite_array {items : List Json} :
    (array items).AllFinite ↔ ∀ j ∈ items, j.AllFinite :=
  ⟨fun h j hj n hn => h n (mem_numbersOfItems.2 ⟨j, hj, hn⟩), fun h n hn => by
    obtain ⟨j, hj, hn⟩ := mem_numbersOfItems.1 hn
    exact h j hj n hn⟩

theorem allFinite_object {members : List (String × Json)} :
    (object members).AllFinite ↔ ∀ m ∈ members, m.2.AllFinite :=
  ⟨fun h m hm n hn => h n (mem_numbersOfMembers.2 ⟨m, hm, hn⟩), fun h n hn => by
    obtain ⟨m, hm, hn⟩ := mem_numbersOfMembers.1 hn
    exact h m hm n hn⟩

theorem allFinite_number {n : JsonNumber} : (number n).AllFinite ↔ n.IsFinite :=
  ⟨fun h => h n (List.mem_singleton_self n), fun h _ hn => List.mem_singleton.1 hn ▸ h⟩

/-- All numbers in what is open so far are finite. -/
def Frame.AllFinite : Frame → Prop
  | .array items => ∀ j ∈ items, j.AllFinite
  | .object members _ => ∀ m ∈ members, m.2.AllFinite
  | .member members _ _ => ∀ m ∈ members, m.2.AllFinite

/-- All numbers read so far are finite. -/
structure Parsing.AllFinite (s : Parsing) : Prop where
  stack : ∀ f ∈ s.stack, f.AllFinite
  whole : ∀ j, s.expects = .nothing j → j.AllFinite

variable {stack : List Frame} {s : Parsing}

theorem Parsing.AllFinite.pushed {f : Frame} (hf : f.AllFinite)
    (hstack : ∀ f ∈ stack, f.AllFinite) {e : Expectation} (he : ∀ j, e ≠ .nothing j) :
    (⟨f :: stack, e⟩ : Parsing).AllFinite :=
  ⟨List.forall_mem_cons.2 ⟨hf, hstack⟩, fun j hj => absurd hj (he j)⟩

theorem allFinite_complete {j : Json} (hj : j.AllFinite) (hstack : ∀ f ∈ stack, f.AllFinite)
    (h : complete j stack = some s) : s.AllFinite := by
  unfold complete at h
  split at h
  · cases h
    refine ⟨fun f hf => absurd hf List.not_mem_nil, fun k hk => ?_⟩
    cases hk
    exact hj
  · rename_i items rest
    cases h
    obtain ⟨hitems, hrest⟩ := List.forall_mem_cons.1 hstack
    have hmore : (Frame.array (j :: items)).AllFinite := List.forall_mem_cons.2 ⟨hj, hitems⟩
    exact .pushed hmore hrest (by simp)
  · rename_i members sound key rest
    cases h
    obtain ⟨hmembers, hrest⟩ := List.forall_mem_cons.1 hstack
    have hmore : (Frame.object ((key, j) :: members) sound).AllFinite :=
      List.forall_mem_cons.2 ⟨hj, hmembers⟩
    exact .pushed hmore hrest (by simp)
  · cases h

theorem allFinite_unreadable : unreadable.AllFinite := fun _ hn => absurd hn List.not_mem_nil

theorem allFinite_closed {j : Json} (hj : j.AllFinite) (hstack : ∀ f ∈ stack, f.AllFinite)
    (h : closed j stack = some s) : s.AllFinite := by
  refine allFinite_complete ?_ hstack h
  split
  · exact allFinite_unreadable
  · exact hj

theorem allFinite_readValue {t : Token} (ht : t.IsFinite) (hstack : ∀ f ∈ stack, f.AllFinite)
    (h : readValue stack t = some s) : s.AllFinite := by
  have hnone {j : Json} (hj : j.numbers = []) : j.AllFinite :=
    fun n hn => absurd (hj ▸ hn) List.not_mem_nil
  unfold readValue at h
  split at h
  · exact allFinite_complete (hnone rfl) hstack h
  · exact allFinite_complete (hnone rfl) hstack h
  · rename_i n
    refine allFinite_complete ?_ hstack h
    cases n with
    | none => exact allFinite_unreadable
    | some n => exact allFinite_number.2 (ht n rfl)
  · rename_i text
    refine allFinite_complete ?_ hstack h
    cases text <;> exact hnone rfl
  · cases h
    have hopened : (Frame.array []).AllFinite := fun j hj => absurd hj List.not_mem_nil
    exact .pushed hopened hstack (by simp)
  · cases h
    have hopened : (Frame.object [] true).AllFinite := fun m hm => absurd hm List.not_mem_nil
    exact .pushed hopened hstack (by simp)
  · cases h

theorem allFinite_closeArray (hstack : ∀ f ∈ stack, f.AllFinite)
    (h : closeArray stack = some s) : s.AllFinite := by
  unfold closeArray at h
  split at h
  · rename_i items rest
    obtain ⟨hitems, hrest⟩ := List.forall_mem_cons.1 hstack
    exact allFinite_closed (allFinite_array.2 fun j hj => hitems j (List.mem_reverse.1 hj)) hrest h
  · cases h

theorem allFinite_closeObject (hstack : ∀ f ∈ stack, f.AllFinite)
    (h : closeObject stack = some s) : s.AllFinite := by
  unfold closeObject at h
  split at h
  · rename_i members sound rest
    obtain ⟨hmembers, hrest⟩ := List.forall_mem_cons.1 hstack
    refine allFinite_closed ?_ hrest h
    split
    · exact allFinite_object.2 fun m hm => hmembers m (List.mem_reverse.1 hm)
    · exact allFinite_unreadable
  · cases h

theorem allFinite_readKey {key : Option String} (hstack : ∀ f ∈ stack, f.AllFinite)
    (h : readKey stack key = some s) : s.AllFinite := by
  unfold readKey at h
  split at h
  · rename_i members sound rest
    cases h
    obtain ⟨hmembers, hrest⟩ := List.forall_mem_cons.1 hstack
    have hkeyed : (Frame.member members (sound && key.isSome) (key.getD "")).AllFinite := hmembers
    exact .pushed hkeyed hrest (by simp)
  · cases h

/-- One token adds no number but a finite one. -/
theorem allFinite_parseStep {s' : Parsing} {t : Token} (ht : t.IsFinite) (hs : s.AllFinite)
    (h : parseStep s t = some s') : s'.AllFinite := by
  have hsame {e : Expectation} (he : ∀ j, e ≠ .nothing j) : (⟨s.stack, e⟩ : Parsing).AllFinite :=
    ⟨hs.stack, fun j hj => absurd hj (he j)⟩
  unfold parseStep at h
  split at h
  · exact allFinite_readValue ht hs.stack h
  · exact allFinite_closeArray hs.stack h
  · exact allFinite_readValue ht hs.stack h
  · exact allFinite_closeArray hs.stack h
  · exact allFinite_closeObject hs.stack h
  · split at h <;> cases h <;> exact hsame (by simp)
  · exact allFinite_closeObject hs.stack h
  · exact allFinite_readKey hs.stack h
  · exact allFinite_readKey hs.stack h
  · cases h
    exact hsame (by simp)
  · cases h

/-- **The numbers in a value that is read are finite.** -/
theorem allFinite_of_parse? {text : List Char} {j : Json} (h : parse? text = some j) :
    j.AllFinite := by
  obtain ⟨ts, hts, hj⟩ := Option.bind_eq_some_iff.1 h
  obtain ⟨s, hfold, hwhole⟩ := Option.bind_eq_some_iff.1 hj
  have hstart : (⟨[], .value⟩ : Parsing).AllFinite :=
    ⟨fun f hf => absurd hf List.not_mem_nil, fun j hj => nomatch hj⟩
  have hs : s.AllFinite := foldlM_induction
    (fun _ t ht _ hs => allFinite_parseStep (isFinite_of_tokens? hts t ht) hs) hstart hfold
  split at hwhole
  · rename_i whole hexpects
    cases hwhole
    exact hs.whole _ hexpects
  · cases hwhole

end Json
end WikiGraph
