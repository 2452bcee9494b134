import WikiGraph.Proofs.Query.EscapeShape
import WikiGraph.Proofs.Query.Scan
import WikiGraph.Query.Classifier
/-!
# Escapes that cut a comment short

Every reading turns an escape of white space or of a control character into a line break. Outside a
line comment a line break is as good as any other character that no word holds, so nothing is lost:
what the text as written, or the decoded text, puts into code is also put there by a reading. Inside
a line comment it ends the comment, which the text as written and the decoded text go on with, and
from there on a reading may stand in a string where they stand in code.

So a denied word of the text as written or of the decoded text is found unless such an escape stands
in one of its line comments, and every query with such an escape has a beginning behind which a
keyword can be hidden.
-/
namespace WikiGraph.Query

open WikiGraph.Text

/-! ## Classes of characters -/

/-- White space and control characters: an escape of one becomes a line break. -/
def isBlank (c : Char) : Bool := isControl c || isSpace c

def wideBlanks : List (Nat × Nat) := (0x80, 0xA0) :: wideSpaces

def invisibles : List (Nat × Nat) :=
  [(0xAD, 0xAD), (0x180E, 0x180E), (0x200B, 0x200F), (0x2060, 0x2064), (0xFEFF, 0xFEFF)]

theorem inRanges_iff {ranges : List (Nat × Nat)} {n : Nat} :
    inRanges ranges n ↔ ∃ r ∈ ranges, r.1 ≤ n ∧ n ≤ r.2 := by
  simp [inRanges]

theorem not_inRanges_of_disjoint {a b : List (Nat × Nat)}
    (h : ∀ s ∈ a, ∀ r ∈ b, s.2 < r.1 ∨ r.2 < s.1) {n : Nat} (hn : inRanges a n) :
    inRanges b n = false := by
  obtain ⟨s, hs, hl, hr⟩ := inRanges_iff.1 hn
  rw [Bool.eq_false_iff, ne_eq, inRanges_iff]
  rintro ⟨r, hm, hl', hr'⟩
  rcases h s hs r hm with h | h <;> omega

theorem isInvisible_iff {c : Char} : isInvisible c ↔ inRanges invisibles c.toNat := by
  simp [isInvisible, invisibles, inRanges]
  omega

theorem wide_of_inRanges {ranges : List (Nat × Nat)} (h : ∀ r ∈ ranges, 0x80 ≤ r.1) {n : Nat}
    (hn : inRanges ranges n) : 0x80 ≤ n := by
  obtain ⟨r, hr, hl, -⟩ := inRanges_iff.1 hn
  exact Nat.le_trans (h r hr) hl

/-- Above ASCII the table of letters and numbers decides. -/
theorem isWordChar_of_wide {c : Char} (hc : 0x80 ≤ c.toNat)
    (ha : inRanges alphanumericRanges c.toNat = false) : isWordChar c = false := by
  have hu : c ≠ '_' := fun e => absurd hc (by rw [e]; decide)
  simp [isWordChar, isAlphanumeric, ha, hu, Nat.not_lt.2 hc]

theorem isWordChar_of_isInvisible {c : Char} (h : isInvisible c) : isWordChar c = false := by
  have hr := isInvisible_iff.1 h
  exact isWordChar_of_wide (wide_of_inRanges (by decide) hr)
    (not_inRanges_of_disjoint (by decide +kernel) hr)

theorem isLineBreak_of_isInvisible {c : Char} (h : isInvisible c) : isLineBreak c = false := by
  simp only [isInvisible, Bool.or_eq_true, Bool.and_eq_true, decide_eq_true_eq] at h
  simp only [isLineBreak, Bool.or_eq_false_iff, Bool.and_eq_false_iff, decide_eq_false_iff_not]
  omega

theorem ascii_or_wideBlank {c : Char} (h : isBlank c) :
    c.toNat < 0x21 ∨ c.toNat = 0x7F ∨ inRanges wideBlanks c.toNat := by
  have hw : inRanges wideBlanks c.toNat ↔
      0x80 ≤ c.toNat ∧ c.toNat ≤ 0xA0 ∨ inRanges wideSpaces c.toNat := by
    simp [inRanges_iff, wideBlanks]
  rw [hw]
  simp only [isBlank, isControl, isSpace, Bool.or_eq_true, Bool.and_eq_true,
    decide_eq_true_eq] at h
  split at h
  · simp only [Bool.or_eq_true, Bool.and_eq_true, decide_eq_true_eq] at h
    omega
  · rcases h with h | h
    · omega
    · exact .inr (.inr (.inr h))

theorem isInvisible_of_isBlank {c : Char} (h : isBlank c) : isInvisible c = false := by
  rw [Bool.eq_false_iff, ne_eq, isInvisible_iff]
  intro hi
  rcases ascii_or_wideBlank h with h | h | h
  · have := wide_of_inRanges (by decide) hi
    omega
  · have := wide_of_inRanges (by decide) hi
    omega
  · have hn : inRanges wideBlanks c.toNat = false := not_inRanges_of_disjoint (by decide) hi
    rw [hn] at h
    cases h

theorem toNat_of_isAlphanum {c : Char} (h : c.isAlphanum) : 0x30 ≤ c.toNat ∧ c.toNat ≤ 0x7A := by
  rw [isAlphanum_iff] at h
  omega

theorem isWordChar_of_isBlank {c : Char} (h : isBlank c) : isWordChar c = false := by
  have hs : c.toNat < 0x30 ∨ c.toNat = 0x7F → isWordChar c = false := by
    intro hs
    have hl : c.toNat < 0x80 := by omega
    have hu : c ≠ '_' := fun e => absurd h (by rw [e]; decide)
    have hn : c.isAlphanum = false := Bool.eq_false_iff.2 fun ha => by
      have := toNat_of_isAlphanum ha
      omega
    simp [isWordChar, isAlphanumeric, hl, hn, hu]
  rcases ascii_or_wideBlank h with h | h | h
  · exact hs (.inl (by omega))
  · exact hs (.inr h)
  · exact isWordChar_of_wide (wide_of_inRanges (by decide) h)
      (not_inRanges_of_disjoint (by decide +kernel) h)

theorem isBlank_of_isLineBreak {c : Char} (h : isLineBreak c) : isBlank c := by
  simp only [isLineBreak, Bool.or_eq_true, Bool.and_eq_true, decide_eq_true_eq] at h
  have hwide : c.toNat = 0x2028 ∨ c.toNat = 0x2029 → isSpace c := by
    rintro (h | h) <;> simp [isSpace, h, inRanges, wideSpaces]
  have hcontrol : c.toNat ≤ 0x0D ∨ c.toNat = 0x85 → isControl c := by
    intro h
    simp only [isControl, Bool.or_eq_true, Bool.and_eq_true, decide_eq_true_eq]
    omega
  rw [isBlank, Bool.or_eq_true]
  rcases h with ((h | h) | h) | h
  · exact .inl (hcontrol (.inl h.2))
  · exact .inl (hcontrol (.inr h))
  · exact .inr (hwide (.inl h))
  · exact .inr (hwide (.inr h))

/-! ## Characters without a meaning to the reader -/

/-- The place behind a character that neither begins nor ends anything. -/
def Place.settle : Place → Place
  | code | slash | closing => code
  | single | singleTaking => single
  | double | doubleTaking => double
  | backticked => backticked
  | line => line
  | block | star => block

@[simp] theorem Place.settle_settle (p : Place) : p.settle.settle = p.settle := by cases p <;> rfl

@[simp] theorem Place.settle_eq_line {p : Place} : p.settle = .line ↔ p = .line := by
  cases p <;> simp [Place.settle]

theorem Place.inCode_settle (p : Place) : p.settle.inCode = p.inCode := by cases p <;> rfl

/-- The characters that have a meaning to the reader besides line breaks. -/
def signs : List Char := ['/', '*', '\'', '"', backtick, '\\']

theorem step_of_not_mem_signs {c : Char} (h : c ∉ signs) (p : Place) :
    p.step c = if p = .line ∧ isLineBreak c then .code else p.settle := by
  simp only [signs, List.mem_cons, List.not_mem_nil, or_false, not_or] at h
  obtain ⟨h₁, h₂, h₃, h₄, h₅, h₆⟩ := h
  cases p <;> simp [Place.step, Place.fromCode, Place.settle, *]

theorem step_eq_settle {c : Char} (h : c ∉ signs) {p : Place}
    (hp : p = .line → isLineBreak c = false) : p.step c = p.settle := by
  rw [step_of_not_mem_signs h]
  by_cases hl : p = .line
  · simp [hl, hp hl]
  · simp [hl]

theorem not_mem_signs_of_isBlank {c : Char} (h : isBlank c) : c ∉ signs := by
  have hs : ∀ d ∈ signs, isBlank d = false := eq_false_of_any (by decide)
  intro hm
  rw [hs c hm] at h
  cases h

theorem not_mem_signs_of_isInvisible {c : Char} (h : isInvisible c) : c ∉ signs := by
  have hs : ∀ d ∈ signs, isInvisible d = false := eq_false_of_any (by decide)
  intro hm
  rw [hs c hm] at h
  cases h

theorem isWordChar_of_isAlphanum {c : Char} (h : c.isAlphanum) : isWordChar c := by
  have hn : c.toNat < 0x80 := by
    have := toNat_of_isAlphanum h
    omega
  simp [isWordChar, isAlphanumeric, hn, h]

theorem step_of_isWordChar {c : Char} (h : isWordChar c) (p : Place) : p.step c = p.settle := by
  have hs : ∀ d ∈ signs, isWordChar d = false := eq_false_of_any (by decide)
  refine step_eq_settle (fun hm => by simp [hs c hm] at h) fun _ => Bool.eq_false_iff.2 fun hl => ?_
  rw [isWordChar_of_isBlank (isBlank_of_isLineBreak hl)] at h
  cases h

section Word

variable {word : List Char} (h : ∀ c ∈ word, isWordChar c)
include h

/-- Word characters leave the reader where it is, and mark themselves just when it is in code. -/
theorem row_of_word (p : Place) :
    row p word = word.map fun c => if p.inCode then some c else none := by
  induction word generalizing p with
  | nil => rfl
  | cons c rest ih =>
    obtain ⟨hc, hr⟩ := List.forall_mem_cons.1 h
    rw [row_cons, step_of_isWordChar hc, ih hr, List.map_cons, Place.inCode_settle]
    simp [Place.mark, hc]

theorem after_settle_of_word (p : Place) : after p.settle word = p.settle := by
  induction word with
  | nil => rfl
  | cons c rest ih =>
    obtain ⟨hc, hr⟩ := List.forall_mem_cons.1 h
    rw [after_cons, step_of_isWordChar hc, Place.settle_settle, ih hr]

end Word

/-! ## Escapes as written -/

theorem tail_eq_cons {tail : List Char} {c : Char} (h : IsEscapeTail tail c) :
    ∃ l rest, tail = l :: rest ∧ isEscapeLetter l := by
  obtain ⟨letters, a, b, d, e, rfl, hne, hl, -⟩ := h
  obtain ⟨l, rest, rfl⟩ := List.exists_cons_of_ne_nil hne
  exact ⟨l, rest ++ [a, b, d, e], rfl, hl l List.mem_cons_self⟩

theorem isWordChar_of_mem_tail {tail : List Char} {c : Char} (h : IsEscapeTail tail c) :
    ∀ x ∈ tail, isWordChar x := fun x hx => isWordChar_of_isAlphanum (isAlphanum_of_mem_tail h x hx)

/-- A backslash takes at most one character along, so that letters and digits behind it settle. -/
theorem settle_backslash_step (p : Place) :
    (p.step '\\').settle = p.settle ∧ (p.step '\\').inCode = p.inCode := by
  cases p <;> decide

theorem after_escape {tail : List Char} {c : Char} (h : IsEscapeTail tail c) (p : Place) :
    after p ('\\' :: tail) = p.settle := by
  obtain ⟨l, rest, rfl, -⟩ := tail_eq_cons h
  obtain ⟨hl, hrest⟩ := List.forall_mem_cons.1 (isWordChar_of_mem_tail h)
  rw [after_cons, after_cons, step_of_isWordChar hl, (settle_backslash_step p).1]
  exact after_settle_of_word hrest p

theorem row_escape {tail : List Char} {c : Char} (h : IsEscapeTail tail c) (p : Place) :
    row p ('\\' :: tail) = none :: tail.map fun c => if p.inCode then some c else none := by
  rw [row_cons, mark_eq_none (by decide), row_of_word (isWordChar_of_mem_tail h),
    (settle_backslash_step p).2]

/-! ## Words that survive

Decoding an escape in code takes a word away that the text as written has, the letters and digits of
the escape and what follows them. No keyword begins as such a word does. -/

def BeginsLikeEscape (word : List Char) : Prop := ∃ l rest, word = l :: rest ∧ isEscapeLetter l

theorem upperForm_of_isEscapeLetter {l : Char} (h : isEscapeLetter l) : upperForm l = ['U'] := by
  simp only [isEscapeLetter, Bool.or_eq_true, decide_eq_true_eq] at h
  rcases h with rfl | rfl <;> decide

theorem deniedBy?_of_beginsLikeEscape {word : List Char} (h : BeginsLikeEscape word) :
    WriteKeyword.deniedBy? word = none := by
  obtain ⟨l, rest, rfl, hl⟩ := h
  have hk : ∀ k ∈ WriteKeyword.all, k.spelling.toList.head? ≠ some 'U' := by decide
  have hs : WriteKeyword.spelledBy? (l :: rest) = none := by
    refine List.find?_eq_none.2 fun k hm => ?_
    rw [decide_eq_true_eq]
    intro he
    apply hk k hm
    rw [he, upperCase, List.flatMap_cons, upperForm_of_isEscapeLetter hl]
    rfl
  have hd : l.isDigit = false := by
    simp only [isEscapeLetter, Bool.or_eq_true, decide_eq_true_eq] at hl
    rcases hl with rfl | rfl <;> decide
  simp [WriteKeyword.deniedBy?, hs, hd]

/-- Behind any characters of a word already begun, the words of row `a` are words of row `b` too,
but for those that begin like an escape. -/
def WordsKept (a b : List (Option Char)) : Prop :=
  ∀ pending word : List Char, word ∈ runs (pending.map some ++ a) →
    word ∈ runs (pending.map some ++ b) ∨ BeginsLikeEscape word

/-- Only the first word behind some characters depends on them. -/
theorem prefix_or_mem_runs {b : List (Option Char)} {v word : List Char}
    (h : word ∈ runs (v.map some ++ b)) :
    v <+: word ∨ ∀ u : List Char, word ∈ runs (u.map some ++ b) := by
  induction b generalizing v with
  | nil =>
    rw [List.append_nil] at h
    by_cases hv : v = []
    · exact .inl (hv ▸ List.nil_prefix)
    · rw [runs_map_some hv, List.mem_singleton] at h
      exact .inl (h ▸ List.prefix_refl v)
  | cons x b ih =>
    cases x with
    | none =>
      rw [runs_append_none, List.mem_append] at h
      rcases h with h | h
      · by_cases hv : v = []
        · exact .inl (hv ▸ List.nil_prefix)
        · rw [runs_map_some hv, List.mem_singleton] at h
          exact .inl (h ▸ List.prefix_refl v)
      · refine .inr fun u => ?_
        rw [runs_append_none]
        exact List.mem_append_right _ h
    | some c =>
      have hs : ∀ u : List Char, u.map some ++ some c :: b = (u ++ [c]).map some ++ b := by simp
      rw [hs] at h
      rcases ih h with h | h
      · exact .inl ((List.prefix_append v [c]).trans h)
      · exact .inr fun u => by rw [hs]; exact h (u ++ [c])

theorem WordsKept.refl (a : List (Option Char)) : WordsKept a a := fun _ _ h => .inl h

/-- Behind a break nothing depends on the characters before it. -/
theorem WordsKept.of_break {a b : List (Option Char)}
    (h : ∀ word ∈ runs a, word ∈ runs b ∨ BeginsLikeEscape word) :
    WordsKept (none :: a) (none :: b) := by
  intro pending word hw
  rw [runs_append_none, List.mem_append] at hw ⊢
  rcases hw with hw | hw
  · exact .inl (.inl hw)
  · exact (h word hw).imp_left .inr

theorem WordsKept.cons {a b : List (Option Char)} (h : WordsKept a b) (x : Option Char) :
    WordsKept (x :: a) (x :: b) := by
  cases x with
  | none => exact .of_break (h [])
  | some c =>
    intro pending word hw
    have hs : ∀ l, pending.map some ++ some c :: l = (pending ++ [c]).map some ++ l := by simp
    rw [hs] at hw ⊢
    exact h (pending ++ [c]) word hw

theorem WordsKept.append {a b : List (Option Char)} (h : WordsKept a b) (l : List (Option Char)) :
    WordsKept (l ++ a) (l ++ b) := by
  induction l with
  | nil => exact h
  | cons x l ih => exact ih.cons x

theorem BeginsLikeEscape.of_prefix {u v : List Char} (h : BeginsLikeEscape u) (hp : u <+: v) :
    BeginsLikeEscape v := by
  obtain ⟨l, rest, rfl, hl⟩ := h
  obtain ⟨more, rfl⟩ := hp
  exact ⟨l, rest ++ more, rfl, hl⟩

/-- A break may take the place of a break and an escape's letters behind it. -/
theorem WordsKept.blank {a b : List (Option Char)} (h : WordsKept a b) {word : List Char}
    (hw : BeginsLikeEscape word) : WordsKept (none :: (word.map some ++ a)) (none :: b) := by
  refine .of_break fun found hf => ?_
  rcases h word found hf with hf | hf
  · rcases prefix_or_mem_runs hf with hp | hu
    · exact .inr (hw.of_prefix hp)
    · exact .inl (hu [])
  · exact .inr hf

/-- The same where the letters mark nothing. -/
theorem WordsKept.blank_silent {a b : List (Option Char)} (h : WordsKept a b) (n : Nat) :
    WordsKept (none :: (List.replicate n none ++ a)) (none :: b) := by
  refine .of_break fun found hf => ?_
  rw [runs_replicate_none_append] at hf
  exact h [] found hf

theorem wordsKept_escape {tail : List Char} {c d : Char} (ht : IsEscapeTail tail c) {p : Place}
    (hs : p.step d = p.settle) (hd : isWordChar d = false) {a b : List Char}
    (h : WordsKept (row p.settle a) (row p.settle b)) :
    WordsKept (row p ('\\' :: tail ++ a)) (row p (d :: b)) := by
  rw [row_append, row_escape ht, after_escape ht, row_cons, mark_eq_none (by simp [hd]), hs,
    List.cons_append]
  cases hc : p.inCode with
  | true =>
    obtain ⟨l, rest, rfl, hl⟩ := tail_eq_cons ht
    simpa using h.blank ⟨l, rest, rfl, hl⟩
  | false => simpa [List.map_const'] using h.blank_silent tail.length

/-! ## Two texts piece by piece -/

/-- Every escape among the pieces has the shape that the cut of a text gives it. -/
def WellShaped (ps : List Piece) : Prop :=
  ∀ c written, .escape c written ∈ ps → ∃ tail, written = '\\' :: tail ∧ IsEscapeTail tail c

theorem WellShaped.tail {q : Piece} {ps : List Piece} (h : WellShaped (q :: ps)) : WellShaped ps :=
  fun c written hm => h c written (List.mem_cons_of_mem q hm)

theorem wellShaped_pieces (text : List Char) : WellShaped (pieces text) :=
  fun _ _ => escape_of_mem_pieces

/-- Read from `p` as `shown` shows the pieces, no escape of a character in `bad` stands in a line
comment. -/
def Uncut (shown : Piece → List Char) (bad : Char → Prop) (p : Place) (ps : List Piece) : Prop :=
  ∀ before c written rest, ps = before ++ .escape c written :: rest → bad c →
    after p (before.flatMap shown) ≠ .line

theorem Uncut.head {shown : Piece → List Char} {bad : Char → Prop} {p : Place} {c : Char}
    {written : List Char} {ps : List Piece} (h : Uncut shown bad p (.escape c written :: ps))
    (hc : bad c) : p ≠ .line := by
  simpa using h [] c written ps rfl hc

theorem Uncut.tail {shown : Piece → List Char} {bad : Char → Prop} {p : Place} {q : Piece}
    {ps : List Piece} (h : Uncut shown bad p (q :: ps)) :
    Uncut shown bad (after p (shown q)) ps := by
  intro before c written rest hps hc
  rw [← after_append, ← List.flatMap_cons]
  exact h (q :: before) c written rest (by rw [hps]; rfl) hc

theorem Uncut.cons {shown : Piece → List Char} {bad : Char → Prop} {p : Place} {q : Piece}
    {ps : List Piece} (hq : ∀ c written, q = .escape c written → bad c → p ≠ .line)
    (h : Uncut shown bad (after p (shown q)) ps) : Uncut shown bad p (q :: ps) := by
  intro before c written rest hps hc
  cases before with
  | nil => exact hq c written (List.cons.inj hps).1 hc
  | cons q' before =>
    obtain ⟨rfl, htail⟩ := List.cons.inj hps
    rw [List.flatMap_cons, after_append]
    exact h before c written rest htail hc

theorem render_invisible {q : Piece} (h : isInvisible q.denoted) (decodesAll : Bool) :
    Reading.render ⟨decodesAll, true⟩ q = [' '] := by
  simp [Reading.render, h]

theorem render_plain {c : Char} (h : isInvisible c = false) (m : Reading) :
    m.render (.plain c) = [c] := by
  simp [Reading.render, Piece.denoted, h]

theorem render_blank {c : Char} (h : isBlank c) (m : Reading) (written : List Char) :
    m.render (.escape c written) = ['\n'] := by
  have hb : isControl c = true ∨ isSpace c = true := by simpa [isBlank] using h
  simp [Reading.render, Piece.denoted, isInvisible_of_isBlank h, hb]

theorem render_escape {c : Char} (hi : isInvisible c = false) (hb : isBlank c = false) (m : Reading)
    (written : List Char) :
    m.render (.escape c written) = if m.decodesAll then [c] else written := by
  have h : ¬(isControl c = true ∨ isSpace c = true) := by
    simpa [isBlank] using hb
  simp [Reading.render, Piece.denoted, hi, h]

theorem step_space (p : Place) : p.step ' ' = p.settle :=
  step_eq_settle (by decide) fun _ => by decide

/-- An invisible character is to the reader what the space is that a reading puts in its place. -/
theorem step_of_isInvisible {c : Char} (h : isInvisible c) (p : Place) : p.step c = p.step ' ' := by
  rw [step_space, step_eq_settle (not_mem_signs_of_isInvisible h) fun _ =>
    isLineBreak_of_isInvisible h]

theorem mark_of_isInvisible {c : Char} (h : isInvisible c) (p : Place) : p.mark c = p.mark ' ' := by
  rw [mark_eq_none (by simp [isWordChar_of_isInvisible h]), mark_eq_none (by decide)]

theorem step_newline {p : Place} (h : p ≠ .line) : p.step '\n' = p.settle :=
  step_eq_settle (by decide) fun hl => absurd hl h

/-- **The text as written against the reading that leaves visible escapes alone.** -/
theorem wordsKept_written {ps : List Piece} (hs : WellShaped ps) {p : Place}
    (hu : Uncut Piece.written (isBlank ·) p ps) :
    WordsKept (row p (ps.flatMap Piece.written))
      (row p (ps.flatMap (Reading.render ⟨false, true⟩))) := by
  induction ps generalizing p with
  | nil => exact .refl _
  | cons q ps ih =>
    have ih := ih hs.tail hu.tail
    rw [List.flatMap_cons, List.flatMap_cons]
    cases q with
    | plain c =>
      rw [Piece.written] at ih ⊢
      by_cases hi : isInvisible c
      · rw [render_invisible (q := .plain c) hi, List.singleton_append, List.singleton_append,
          row_cons, row_cons, mark_of_isInvisible hi, ← step_of_isInvisible hi]
        exact ih.cons (p.mark ' ')
      · rw [render_plain (by simpa using hi), row_append, row_append]
        exact ih.append _
    | escape c written =>
      obtain ⟨tail, rfl, ht⟩ := hs c written List.mem_cons_self
      rw [Piece.written, after_escape ht] at ih
      rw [Piece.written]
      by_cases hi : isInvisible c
      · rw [render_invisible (q := .escape c _) hi]
        exact wordsKept_escape ht (step_space p) (by decide) ih
      · by_cases hb : isBlank c
        · rw [render_blank hb]
          exact wordsKept_escape ht (step_newline (hu.head hb)) (by decide) ih
        · rw [render_escape (by simpa using hi) (by simpa using hb), if_neg (by decide), row_append,
            row_append, after_escape ht]
          exact ih.append _

/-- **The decoded text against the reading that decodes every escape.** -/
theorem row_denoted {ps : List Piece} {p : Place}
    (hu : Uncut (fun q => [q.denoted]) (fun c => isBlank c ∧ ¬isLineBreak c) p ps) :
    row p (ps.flatMap fun q => [q.denoted]) =
      row p (ps.flatMap (Reading.render ⟨true, true⟩)) := by
  induction ps generalizing p with
  | nil => rfl
  | cons q ps ih =>
    have ih := ih hu.tail
    -- It is enough that the shown character and the rendered one leave the same mark and place.
    have key : ∀ d, Reading.render ⟨true, true⟩ q = [d] → p.step q.denoted = p.step d →
        p.mark q.denoted = p.mark d → row p ((q :: ps).flatMap fun q => [q.denoted]) =
          row p ((q :: ps).flatMap (Reading.render ⟨true, true⟩)) := by
      intro d hr hs hm
      rw [List.flatMap_cons, List.flatMap_cons, hr, List.singleton_append, List.singleton_append,
        row_cons, row_cons, hm, ← hs]
      exact congrArg _ ih
    by_cases hi : isInvisible q.denoted
    · exact key ' ' (render_invisible hi true) (step_of_isInvisible hi p) (mark_of_isInvisible hi p)
    · have hi : isInvisible q.denoted = false := by simpa using hi
      cases q with
      | plain c => exact key c (render_plain hi _) rfl rfl
      | escape c written =>
        by_cases hb : isBlank c
        · refine key '\n' (render_blank hb _ _) ?_ ?_
          · rw [Piece.denoted, step_of_not_mem_signs (not_mem_signs_of_isBlank hb),
              step_of_not_mem_signs (by decide)]
            by_cases hl : isLineBreak c
            · simp [hl, show isLineBreak '\n' = true by decide]
            · have hp : p ≠ .line := hu.head ⟨hb, hl⟩
              simp [hp]
          · rw [Piece.denoted, mark_eq_none (by simp [isWordChar_of_isBlank hb]),
              mark_eq_none (by decide)]
        · have hb : isBlank c = false := by simpa using hb
          exact key c (render_escape hi hb _ written) rfl rfl

/-! ## What is found and what is not -/

/-- An escape of `c` ends behind `head`, and the characters that `shown` shows of what stands before
it leave off in a line comment. -/
def EscapeInComment (shown : Piece → List Char) (query : List Char) (c : Char)
    (head : List Char) : Prop :=
  ∃ before written rest, pieces query = before ++ .escape c written :: rest ∧
    regionAfter .code (before.flatMap shown) = .lineComment ∧
    head = before.flatMap Piece.written ++ written

def Piece.shown (q : Piece) : List Char := [q.denoted]

theorem decoded_eq_flatMap (text : List Char) :
    decoded text = (pieces text).flatMap Piece.shown := by
  rw [decoded, List.map_eq_flatMap]
  rfl

theorem region_eq_lineComment {p : Place} : p.region = .lineComment ↔ p = .line := by
  cases p <;> simp [Place.region]

theorem uncut_of_no_escapeInComment {shown : Piece → List Char} {bad : Char → Prop}
    {query : List Char} (h : ∀ c head, EscapeInComment shown query c head → ¬bad c) :
    Uncut shown bad .code (pieces query) := by
  intro before c written rest hps hc hl
  refine h c _ ⟨before, written, rest, hps, ?_, rfl⟩ hc
  rw [regionAfter_code, hl, Place.region]

theorem not_isReadOnly_of_reading {query : List Char} {m : Reading} (hm : m ∈ Reading.all)
    (h : (deniedWord? (m.normalize query)).isSome) : isReadOnly query = false := by
  have hs : (writeKeyword? query).isSome := List.findSome?_isSome_iff.2 ⟨m, hm, h⟩
  rw [isReadOnly, Option.isNone_eq_false_iff]
  exact hs

theorem deniedWord?_isSome_iff {text : List Char} :
    (deniedWord? text).isSome ↔
      ∃ word ∈ codeWords text, (WriteKeyword.deniedBy? word).isSome :=
  List.findSome?_isSome_iff

theorem not_isReadOnly_of_written {query : List Char}
    (h : ∀ c head, EscapeInComment Piece.written query c head → ¬isBlank c)
    (hd : (deniedWord? query).isSome) : isReadOnly query = false := by
  obtain ⟨word, hw, hk⟩ := deniedWord?_isSome_iff.1 hd
  refine not_isReadOnly_of_reading (m := ⟨false, true⟩) (by decide)
    (deniedWord?_isSome_iff.2 ⟨word, ?_, hk⟩)
  have hr := wordsKept_written (wellShaped_pieces query) (uncut_of_no_escapeInComment h) [] word
  rw [List.map_nil, List.nil_append, flatMap_written_pieces, ← codeWords_eq_runs] at hr
  rcases hr hw with hr | hr
  · rw [codeWords_eq_runs]
    exact hr
  · rw [deniedBy?_of_beginsLikeEscape hr] at hk
    cases hk

theorem not_isReadOnly_of_decoded {query : List Char}
    (h : ∀ c head, EscapeInComment Piece.shown query c head → ¬(isBlank c ∧ ¬isLineBreak c))
    (hd : (deniedWord? (decoded query)).isSome) : isReadOnly query = false := by
  refine not_isReadOnly_of_reading (m := ⟨true, true⟩) (by decide) ?_
  rw [deniedWord?, codeWords_eq_runs, Reading.normalize,
    ← row_denoted (uncut_of_no_escapeInComment h), ← codeWords_eq_runs]
  rwa [decoded_eq_flatMap] at hd

/-! ### A keyword behind a cut -/

/-- A keyword on a line of its own, behind the opening mark of a block comment. -/
def hidden : List Char := "/*\nCREATE".toList

theorem row_hidden_line :
    row .line hidden = none :: none :: none :: "CREATE".toList.map some := by
  decide +kernel

theorem row_hidden_newline (p : Place) : row (p.step '\n') hidden = List.replicate 9 none := by
  cases p <;> decide +kernel

theorem pieces_hidden : pieces hidden = hidden.map .plain :=
  pieces_of_escapeFree (escapeFree_of_not_mem (by decide))

/-- A line comment that hides the opening mark does not hide the keyword. -/
theorem deniedWord?_append_hidden {text : List Char} (h : after .code text = .line) :
    (deniedWord? (text ++ hidden)).isSome := by
  refine deniedWord?_isSome_iff.2 ⟨"CREATE".toList, ?_, by decide⟩
  rw [codeWords_eq_runs, row_append, h, row_hidden_line, runs_append_none, runs_none_cons,
    runs_none_cons, runs_map_some (by decide)]
  exact List.mem_append_right _ (List.mem_singleton.2 rfl)

theorem codeWords_append_hidden (text : List Char) :
    codeWords (text ++ ['\n'] ++ hidden) = codeWords (text ++ ['\n']) := by
  rw [codeWords_eq_runs, codeWords_eq_runs, row_append, after_append, after_cons, after_nil,
    row_hidden_newline, runs_append_replicate_none]

section Cut

variable {query head : List Char} {c : Char} {shown : Piece → List Char}

/-- Every reading takes the escape for a line break, behind which the opening mark counts in code,
and in a string or a comment the keyword counts nowhere. -/
theorem isReadOnly_append_hidden (h : EscapeInComment shown query c head) (hb : isBlank c) :
    isReadOnly (head ++ hidden) = isReadOnly head := by
  obtain ⟨before, written, rest, hp, -, rfl⟩ := h
  have hn : ∀ (m : Reading) (more : List Char),
      m.normalize (before.flatMap Piece.written ++ written ++ more) =
        before.flatMap m.render ++ ['\n'] ++ m.normalize more := by
    intro m more
    rw [Reading.normalize, pieces_through_escape hp, List.flatMap_append, List.flatMap_cons,
      render_blank hb, ← List.append_assoc]
    rfl
  have hw : ∀ m : Reading,
      codeWords (m.normalize (before.flatMap Piece.written ++ written ++ hidden)) =
        codeWords (m.normalize (before.flatMap Piece.written ++ written)) := by
    intro m
    have hh : m.normalize hidden = hidden :=
      normalize_of_escapeFree (escapeFree_of_not_mem (by decide)) (eq_false_of_any (by decide)) m
    have h0 := hn m []
    rw [List.append_nil, Reading.normalize, Reading.normalize, pieces_nil, List.flatMap_nil,
      List.append_nil] at h0
    rw [hn, hh, codeWords_append_hidden, Reading.normalize, h0]
  simp only [isReadOnly, writeKeyword?, deniedWord?, hw]

theorem place_of_escapeInComment {before : List Piece}
    (hr : regionAfter .code (before.flatMap shown) = .lineComment) :
    after .code (before.flatMap shown) = .line := by
  rwa [regionAfter_code, region_eq_lineComment] at hr

theorem written_denied_behind_cut (h : EscapeInComment Piece.written query c head) :
    (deniedWord? (head ++ hidden)).isSome := by
  obtain ⟨before, written, rest, hp, hr, rfl⟩ := h
  obtain ⟨tail, rfl, ht⟩ := wellShaped_pieces query c written (by rw [hp]; simp)
  apply deniedWord?_append_hidden
  rw [after_append, place_of_escapeInComment hr, after_escape ht]
  rfl

theorem decoded_denied_behind_cut (h : EscapeInComment Piece.shown query c head)
    (hb : isBlank c) (hl : ¬isLineBreak c) :
    (deniedWord? (decoded (head ++ hidden))).isSome := by
  obtain ⟨before, written, rest, hp, hr, rfl⟩ := h
  have hd : decoded (before.flatMap Piece.written ++ written ++ hidden) =
      before.flatMap Piece.shown ++ [c] ++ hidden := by
    rw [decoded_eq_flatMap, pieces_through_escape hp, pieces_hidden, List.flatMap_append,
      List.flatMap_cons, ← List.append_assoc]
    rfl
  rw [hd]
  apply deniedWord?_append_hidden
  rw [after_append, place_of_escapeInComment hr, after_cons, after_nil,
    step_eq_settle (not_mem_signs_of_isBlank hb) fun _ => by simpa using hl]
  rfl

end Cut

/-- **A denied word is found unless an escape cuts a comment.** A query that puts a denied word into
code as written is rejected unless an escape of a blank stands in one of its line comments; so is one
that does when decoded, unless an escape of a blank that is no line break stands in a line comment of
the decoded text. Neither exception can be spared: a query that begins like one with such an escape
up to the end of it, and goes on with a keyword behind the opening mark of a block comment, puts the
keyword into code and passes whenever its beginning does. -/
theorem denied_unless_comment_cut (query : List Char) :
    ((∀ c head, EscapeInComment Piece.written query c head → ¬isBlank c) →
      (deniedWord? query).isSome → isReadOnly query = false) ∧
    ((∀ c head, EscapeInComment Piece.shown query c head → ¬(isBlank c ∧ ¬isLineBreak c)) →
      (deniedWord? (decoded query)).isSome → isReadOnly query = false) ∧
    (∀ c head, EscapeInComment Piece.written query c head → isBlank c →
      (deniedWord? (head ++ hidden)).isSome ∧ isReadOnly (head ++ hidden) = isReadOnly head) ∧
    (∀ c head, EscapeInComment Piece.shown query c head → isBlank c → ¬isLineBreak c →
      (deniedWord? (decoded (head ++ hidden))).isSome ∧
        isReadOnly (head ++ hidden) = isReadOnly head) := by
  refine ⟨not_isReadOnly_of_written, not_isReadOnly_of_decoded, ?_, ?_⟩
  · intro c head h hb
    exact ⟨written_denied_behind_cut h, isReadOnly_append_hidden h hb⟩
  · intro c head h hb hl
    exact ⟨decoded_denied_behind_cut h hb hl, isReadOnly_append_hidden h hb⟩

/-- A comment that an escape of a letter does not cut short, and a keyword on the next line. -/
def wholeComment : List Char := "//\\u0041'\nCREATE (n)".toList

/-- A comment cut short in front of a quote, and a keyword on the next line. -/
def cutComment : List Char := "//\\u0020'\nCREATE (n)".toList

theorem wholeComment_and_cutComment_verdicts :
    isReadOnly wholeComment = false ∧
      (deniedWord? ("//\\u0020".toList ++ hidden)).isSome ∧
      isReadOnly ("//\\u0020".toList ++ hidden) = true := by
  have hw : pieces wholeComment = "//".toList.map .plain ++ .escape 'A' "\\u0041".toList ::
      "'\nCREATE (n)".toList.map .plain := by
    decide +kernel
  have hc : EscapeInComment Piece.written cutComment ' ' "//\\u0020".toList := by
    refine ⟨"//".toList.map .plain, "\\u0020".toList, "'\nCREATE (n)".toList.map .plain, ?_, ?_,
      rfl⟩
    · decide +kernel
    · decide +kernel
  have hcut := (denied_unless_comment_cut cutComment).2.2.1 ' ' _ hc (by decide)
  refine ⟨(denied_unless_comment_cut wholeComment).1 ?_ (by decide +kernel), hcut.1, ?_⟩
  · rintro c head ⟨before, written, rest, hp, -⟩
    have hm : .escape c written ∈ pieces wholeComment := by
      rw [hp]
      exact List.mem_append_right before List.mem_cons_self
    rw [hw] at hm
    have ha : c = 'A' := by simp at hm; exact hm.1
    rw [ha]
    decide
  · rw [hcut.2]
    decide +kernel

/-- The one in a comment that is cut short is missed. -/
theorem cutComment_passes :
    ¬∀ query : List Char, (deniedWord? query).isSome ∨ (deniedWord? (decoded query)).isSome →
      (writeKeyword? query).isSome ∧ isReadOnly query = false := by
  intro h
  have hd : (deniedWord? cutComment).isSome := by decide +kernel
  have hr : isReadOnly cutComment = true := by decide +kernel
  rw [(h cutComment (.inl hd)).2] at hr
  cases hr

end WikiGraph.Query
