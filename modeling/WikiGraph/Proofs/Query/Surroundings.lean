import WikiGraph.Proofs.Query.CommentCuts
/-!
# Keywords in their surroundings

A keyword that a reading puts into code, with no word character beside it, is found: no text before or
behind it can take it in (`keyword_found_in_surroundings`). An escape that begins in the text before
cannot end in the keyword, since it would end the text before in a word character or go on with a
letter that begins no keyword (`cleanCut_of_normalize`); and once the cut is between pieces, the reading
of the whole is the reading of its parts, in which the keyword is a run of its own
(`mem_codeWords_between`).
-/
namespace WikiGraph.Query

open WikiGraph.Text

/-! ## Spellings -/

/-- The code points above ASCII whose upper-case form is ASCII text. -/
def wideLetters : List Nat :=
  [0xDF, 0x131, 0x17F, 0xFB00, 0xFB01, 0xFB02, 0xFB03, 0xFB04, 0xFB05, 0xFB06]

theorem upperForm_of_wide {c : Char} (hc : 0x80 ≤ c.toNat) (h : c.toNat ∉ wideLetters) :
    upperForm c = [c] := by
  simp only [wideLetters, List.mem_cons, List.not_mem_nil, or_false, not_or] at h
  unfold upperForm
  rw [if_neg (Nat.not_lt.2 hc)]
  split <;> simp_all

theorem toNat_of_isUpper {c : Char} (h : c.isUpper) : c.toNat ≤ 0x5A :=
  (of_decide_eq_true h : 0x41 ≤ c.toNat ∧ c.toNat ≤ 0x5A).2

theorem isAlphanum_of_isUpper_toUpper {c : Char} (hc : c.toNat < 0x80) (h : c.toUpper.isUpper) :
    c.isAlphanum := by
  have hall : ∀ n < 0x80, (Char.ofNat n).toUpper.isUpper → (Char.ofNat n).isAlphanum := by decide
  have := hall c.toNat hc
  rw [Char.ofNat_toNat] at this
  exact this h

/-- Characters whose upper-case form is made of capital letters of ASCII are word characters. -/
theorem isWordChar_of_upperForm {c : Char} (h : ∀ d ∈ upperForm c, d.isUpper) : isWordChar c := by
  by_cases hc : c.toNat < 0x80
  · refine isWordChar_of_isAlphanum (isAlphanum_of_isUpper_toUpper hc (h _ ?_))
    simp [upperForm, hc]
  · have hc : 0x80 ≤ c.toNat := Nat.not_lt.1 hc
    by_cases hw : c.toNat ∈ wideLetters
    · have hall : ∀ n ∈ wideLetters, inRanges alphanumericRanges n := by decide +kernel
      simp [isWordChar, isAlphanumeric, Nat.not_lt.2 hc, hall _ hw]
    · have hu := toNat_of_isUpper (h c (by simp [upperForm_of_wide hc hw]))
      omega

section Spelled

variable {k : List Char} {w : WriteKeyword}

theorem isUpper_of_mem_spelling (w : WriteKeyword) : ∀ d ∈ w.spelling.toList, d.isUpper :=
  List.all_eq_true.1 (by cases w <;> decide)

theorem isWordChar_of_spelled (h : upperCase k = w.spelling.toList) : ∀ c ∈ k, isWordChar c := by
  intro c hc
  refine isWordChar_of_upperForm fun d hd => isUpper_of_mem_spelling w d ?_
  rw [← h]
  exact List.mem_flatMap.2 ⟨c, hc, hd⟩

theorem ne_nil_of_spelled (h : upperCase k = w.spelling.toList) : k ≠ [] := by
  rintro rfl
  have hw : w.spelling.toList ≠ [] := by cases w <;> decide
  exact hw h.symm

theorem spelledBy?_isSome (h : upperCase k = w.spelling.toList) :
    (WriteKeyword.spelledBy? k).isSome := by
  refine List.find?_isSome.2 ⟨w, ?_, decide_eq_true h.symm⟩
  cases w <;> decide

theorem deniedBy?_of_spelled (h : upperCase k = w.spelling.toList) :
    (WriteKeyword.deniedBy? k).isSome := by
  simp [WriteKeyword.deniedBy?, spelledBy?_isSome h]

theorem endOf?_append_isSome (h : upperCase k = w.spelling.toList) (front : List Char) :
    (WriteKeyword.endOf? (front ++ k)).isSome := by
  induction front with
  | nil =>
    obtain ⟨c, rest, rfl⟩ := List.exists_cons_of_ne_nil (ne_nil_of_spelled h)
    simp [WriteKeyword.endOf?, spelledBy?_isSome h]
  | cons d front ih => simp [WriteKeyword.endOf?, ih]

/-- A keyword at the end of a word that begins with a digit is denied too. -/
theorem deniedBy?_of_digit (h : upperCase k = w.spelling.toList) {d : Char} (hd : d.isDigit)
    (front : List Char) : (WriteKeyword.deniedBy? (d :: front ++ k)).isSome := by
  simp [WriteKeyword.deniedBy?, hd, endOf?_append_isSome h]

theorem head_not_isEscapeLetter (h : upperCase k = w.spelling.toList) :
    ∀ c ∈ k.head?, isEscapeLetter c = false := by
  intro c hc
  obtain ⟨rest, rfl⟩ := List.head?_eq_some_iff.1 hc
  refine Bool.eq_false_iff.2 fun hl => ?_
  have hn := deniedBy?_of_beginsLikeEscape ⟨c, rest, rfl, hl⟩
  have hs := deniedBy?_of_spelled h
  rw [hn] at hs
  cases hs

end Spelled

/-! ## A run of its own -/

/-- A break at the front ends the word before it. -/
theorem runs_map_some_append {word : List Char} (hne : word ≠ []) {b : List (Option Char)}
    (hb : ∀ x ∈ b.head?, x = none) : word ∈ runs (word.map some ++ b) := by
  cases b with
  | nil =>
    rw [List.append_nil, runs_map_some hne]
    exact List.mem_singleton.2 rfl
  | cons x b =>
    rw [hb x rfl, runs_append_none, runs_map_some hne]
    exact List.mem_append_left _ (List.mem_singleton.2 rfl)

/-- A break at the end takes no part in the words behind it. -/
theorem mem_runs_append {word : List Char} {a b : List (Option Char)}
    (ha : ∀ x ∈ a.getLast?, x = none) (h : word ∈ runs b) : word ∈ runs (a ++ b) := by
  obtain rfl | ⟨a, x, rfl⟩ := List.eq_nil_or_concat a
  · exact h
  · obtain rfl : x = none := ha x (by simp)
    rw [List.concat_eq_append, List.append_assoc, List.singleton_append, runs_append_none]
    exact List.mem_append_right _ h

theorem head?_row_eq_none {b : List Char} (hb : ∀ c ∈ b.head?, ¬isWordChar c) (p : Place) :
    ∀ x ∈ (row p b).head?, x = none := by
  intro x hx
  cases b with
  | nil => cases hx
  | cons c b =>
    rw [row_cons, mark_eq_none (hb c rfl)] at hx
    exact (Option.some.inj hx).symm

theorem getLast?_row_eq_none {a : List Char} (ha : ∀ c ∈ a.getLast?, ¬isWordChar c) (p : Place) :
    ∀ x ∈ (row p a).getLast?, x = none := by
  intro x hx
  obtain rfl | ⟨a, c, rfl⟩ := List.eq_nil_or_concat a
  · cases hx
  · rw [List.concat_eq_append] at ha hx
    rw [row_append, row_cons, row_nil, mark_eq_none (ha c (by simp)), List.getLast?_concat] at hx
    exact (Option.some.inj hx).symm

/-- **A word between breaks in code is a word of the text.** -/
theorem mem_codeWords_between {a word b : List Char} (ha : regionAfter .code a = .code)
    (hlast : ∀ c ∈ a.getLast?, ¬isWordChar c) (hne : word ≠ []) (hw : ∀ c ∈ word, isWordChar c)
    (hhead : ∀ c ∈ b.head?, ¬isWordChar c) : word ∈ codeWords (a ++ word ++ b) := by
  have hp : (after .code a).inCode := by rwa [Place.inCode_iff, ← regionAfter_code]
  have hrow : row (after .code a) word = word.map some := by
    rw [row_of_word hw, hp]
    rfl
  rw [codeWords_eq_runs, List.append_assoc, row_append, row_append, hrow]
  exact mem_runs_append (getLast?_row_eq_none hlast _)
    (runs_map_some_append hne (head?_row_eq_none hhead _))

/-! ## Readings of the parts -/

theorem plain_of_word {word : List Char} (hw : ∀ c ∈ word, isWordChar c) :
    '\\' ∉ word ∧ ∀ c ∈ word, isInvisible c = false := by
  refine ⟨fun hm => absurd (hw _ hm) (by decide), fun c hc => Bool.eq_false_iff.2 fun hi => ?_⟩
  have h := hw c hc
  rw [isWordChar_of_isInvisible hi] at h
  cases h

/-- An unfinished escape is read as it is written. -/
theorem normalize_unfinished {s t : List Char} {c : Char} (h : IsEscapeTail (s ++ t) c)
    (hn : escapeAhead? ('\\' :: s) = none) (m : Reading) : m.normalize ('\\' :: s) = '\\' :: s := by
  obtain ⟨hb, hv⟩ := plain_of_word fun x hx =>
    isWordChar_of_mem_tail h x (List.mem_append_left t hx)
  have hs := normalize_of_escapeFree (escapeFree_of_not_mem hb) hv m
  rw [Reading.normalize] at hs
  rw [Reading.normalize, pieces_plain hn, List.flatMap_cons, hs, render_plain (by decide)]
  rfl

/-- **No escape reaches into a word** behind a text that some reading ends in a break, unless the word
begins as an escape goes on behind its backslash. -/
theorem cleanCut_of_normalize {u b : List Char} (m : Reading)
    (hlast : ∀ c ∈ (m.normalize u).getLast?, ¬isWordChar c)
    (hb : ∀ c ∈ b.head?, isEscapeLetter c = false) : CleanCut u b := by
  refine cleanCut_of_forall fun s t c hs hn ht hpre htail => ?_
  obtain ⟨front, rfl⟩ := hs
  obtain rfl | ⟨s, x, rfl⟩ := List.eq_nil_or_concat s
  · -- Only the backslash stands before the cut, so the word begins with the letter behind it.
    obtain ⟨l, rest, rfl, hl⟩ := tail_eq_cons htail
    obtain ⟨more, rfl⟩ := hpre
    rw [hb l rfl] at hl
    cases hl
  · -- The unfinished escape ends the text before in a letter or digit, in every reading.
    have hcut : CleanCut front ('\\' :: s.concat x) := cleanCut_of_head (by simp) front
    rw [hcut.normalize_append, normalize_unfinished htail hn, List.concat_eq_append,
      ← List.cons_append, ← List.append_assoc, List.getLast?_concat] at hlast
    exact hlast x rfl (isWordChar_of_mem_tail htail x (by simp))

/-- A denied word in code of one reading, with breaks beside it, gets its query rejected. -/
theorem not_isReadOnly_between {m : Reading} {u word v : List Char}
    (hu : regionAfter .code (m.normalize u) = .code)
    (hlast : ∀ c ∈ (m.normalize u).getLast?, ¬isWordChar c)
    (hhead : ∀ c ∈ (m.normalize v).head?, ¬isWordChar c)
    (hw : ∀ c ∈ word, isWordChar c) (hl : ∀ c ∈ word.head?, isEscapeLetter c = false)
    (hd : (WriteKeyword.deniedBy? word).isSome) : isReadOnly (u ++ word ++ v) = false := by
  have hne : word ≠ [] := by rintro rfl; cases hd
  obtain ⟨hb, hv⟩ := plain_of_word hw
  have hcut : CleanCut u (word ++ v) := by
    refine cleanCut_of_normalize m hlast fun c hc => hl c ?_
    obtain ⟨d, rest, rfl⟩ := List.exists_cons_of_ne_nil hne
    exact hc
  have hnorm : m.normalize (u ++ word ++ v) = m.normalize u ++ word ++ m.normalize v := by
    rw [List.append_assoc, hcut.normalize_append, (cleanCut_of_not_mem hb v).normalize_append,
      normalize_of_escapeFree (escapeFree_of_not_mem hb) hv, List.append_assoc]
  refine not_isReadOnly_of_reading m.mem_all (deniedWord?_isSome_iff.2 ⟨word, ?_, hd⟩)
  rw [hnorm]
  exact mem_codeWords_between hu hlast hne hw hhead

/-- **No surroundings take a keyword in.** Let some reading of the text before end in code and not in
a word character, and let the same reading of the text behind not begin with one. Then a keyword
between them, in any spelling, gets the query rejected, and so does a keyword glued to a run of word
characters that begins with a digit. -/
theorem keyword_found_in_surroundings {m : Reading} {u k v : List Char} {w : WriteKeyword}
    (hk : upperCase k = w.spelling.toList) (hu : regionAfter .code (m.normalize u) = .code)
    (hlast : ∀ c ∈ (m.normalize u).getLast?, ¬isWordChar c)
    (hhead : ∀ c ∈ (m.normalize v).head?, ¬isWordChar c) :
    isReadOnly (u ++ k ++ v) = false ∧
      ∀ (d : Char) (digits : List Char), d.isDigit → (∀ c ∈ digits, isWordChar c) →
        isReadOnly (u ++ (d :: digits) ++ k ++ v) = false := by
  have hw := isWordChar_of_spelled hk
  refine ⟨not_isReadOnly_between hu hlast hhead hw (head_not_isEscapeLetter hk)
    (deniedBy?_of_spelled hk), fun d digits hd hdigits => ?_⟩
  have hda : d.isAlphanum := by simp [Char.isAlphanum, hd]
  rw [List.append_assoc u]
  refine not_isReadOnly_between hu hlast hhead (fun c hc => ?_) ?_ (deniedBy?_of_digit hk hd digits)
  · simp only [List.cons_append, List.mem_cons, List.mem_append] at hc
    rcases hc with rfl | hc | hc
    · exact isWordChar_of_isAlphanum hda
    · exact hdigits c hc
    · exact hw c hc
  · intro c hc
    obtain rfl : d = c := Option.some.inj hc
    refine Bool.eq_false_iff.2 fun hl => ?_
    simp only [isEscapeLetter, Bool.or_eq_true, decide_eq_true_eq] at hl
    rcases hl with rfl | rfl <;> cases hd

/-- A string and a comment that an escaped line feed ends. -/
def endedComment : List Char := "RETURN 'it\\'s' // x\\u000a".toList

def escapedBracket : List Char := "\\u0028n)".toList

/-- A long s in the keyword does not save it. -/
theorem longSet_found :
    upperCase "ſet".toList = WriteKeyword.set.spelling.toList ∧
      regionAfter .code (Reading.normalize ⟨true, false⟩ endedComment) = .code ∧
      (Reading.normalize ⟨true, false⟩ endedComment).getLast? = some '\n' ∧
      (Reading.normalize ⟨true, false⟩ escapedBracket).head? = some '(' ∧
      isReadOnly (endedComment ++ "ſet".toList ++ escapedBracket) = false ∧
      isReadOnly (endedComment ++ "0x1".toList ++ "ſet".toList ++ escapedBracket) = false := by
  have hk : upperCase "ſet".toList = WriteKeyword.set.spelling.toList := by decide +kernel
  have hu : regionAfter .code (Reading.normalize ⟨true, false⟩ endedComment) = .code := by
    decide +kernel
  have hlast : (Reading.normalize ⟨true, false⟩ endedComment).getLast? = some '\n' := by
    decide +kernel
  have hhead : (Reading.normalize ⟨true, false⟩ escapedBracket).head? = some '(' := by
    decide +kernel
  have hbreak : isWordChar '\n' = false ∧ isWordChar '(' = false := by decide
  obtain ⟨hfound, hglued⟩ := keyword_found_in_surroundings (v := escapedBracket) hk hu
    (by simp [hlast, hbreak]) (by simp [hhead, hbreak])
  exact ⟨hk, hu, hlast, hhead, hfound,
    hglued '0' "x1".toList (by decide) (List.all_eq_true.1 (by decide +kernel))⟩

end WikiGraph.Query
