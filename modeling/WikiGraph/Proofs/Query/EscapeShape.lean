import Mathlib.Tactic.SplitIfs
import WikiGraph.Query.Reading
/-!
# The shape of escapes

An escape is a backslash, letters `u` and four hexadecimal digits, and what follows it plays no part
(`escapeAhead?_eq_some_iff`). So the pieces of a text up to the end of an escape stay the same
whatever comes next (`pieces_through_escape`), and a text in which no escape begins is cut into plain
characters (`pieces_of_escapeFree`).
-/
namespace WikiGraph.Query

open WikiGraph.Text

/-! ## Digits and letters -/

def charOfDigits? (a b c d : Char) : Option Char := hexQuad? a b c d >>= charOfCode?

theorem codeAhead?_cons (a b c d : Char) (rest : List Char) :
    codeAhead? (a :: b :: c :: d :: rest) = charOfDigits? a b c d := rfl

theorem codeAhead?_eq_some {text : List Char} {c : Char} (h : codeAhead? text = some c) :
    ∃ a b d e rest, text = a :: b :: d :: e :: rest ∧ charOfDigits? a b d e = some c := by
  unfold codeAhead? at h
  split at h
  · rename_i a b d e rest
    exact ⟨a, b, d, e, rest, rfl, h⟩
  · cases h

theorem isAlphanum_iff {c : Char} : c.isAlphanum ↔
    0x30 ≤ c.toNat ∧ c.toNat ≤ 0x39 ∨ 0x41 ≤ c.toNat ∧ c.toNat ≤ 0x5A ∨
      0x61 ≤ c.toNat ∧ c.toNat ≤ 0x7A := by
  have hu : c.isUpper ↔ 0x41 ≤ c.toNat ∧ c.toNat ≤ 0x5A := decide_eq_true_iff
  have hl : c.isLower ↔ 0x61 ≤ c.toNat ∧ c.toNat ≤ 0x7A :=
    (Bool.and_eq_true_iff).trans (and_congr decide_eq_true_iff decide_eq_true_iff)
  have hd : c.isDigit ↔ 0x30 ≤ c.toNat ∧ c.toNat ≤ 0x39 :=
    (Bool.and_eq_true_iff).trans (and_congr decide_eq_true_iff decide_eq_true_iff)
  show (c.isUpper || c.isLower || c.isDigit) = true ↔ _
  rw [Bool.or_eq_true, Bool.or_eq_true, hu, hl, hd]
  omega

/-- A hexadecimal digit is a digit or a letter of ASCII. -/
theorem isAlphanum_of_hexValue? {c : Char} (h : (hexValue? c).isSome) : c.isAlphanum := by
  have hle : ∀ a b : Char, a ≤ b ↔ a.toNat ≤ b.toNat := fun _ _ => Iff.rfl
  unfold hexValue? at h
  rw [isAlphanum_iff]
  simp only [hle] at h
  split_ifs at h with h₁ h₂ h₃
  · exact .inl h₁
  · have := h₂.2
    have : 'f'.toNat = 0x66 := rfl
    exact .inr (.inr ⟨h₂.1, by omega⟩)
  · have := h₃.2
    have : 'F'.toNat = 0x46 := rfl
    exact .inr (.inl ⟨h₃.1, by omega⟩)
  · cases h

theorem isAlphanum_of_charOfDigits? {a b c d e : Char} (h : charOfDigits? a b c d = some e) :
    ∀ x ∈ [a, b, c, d], x.isAlphanum := by
  have hd : (hexQuad? a b c d).isSome := by
    cases hq : hexQuad? a b c d with
    | none => simp [charOfDigits?, hq] at h
    | some n => rfl
  have hs : (hexValue? a).isSome ∧ (hexValue? b).isSome ∧ (hexValue? c).isSome ∧
      (hexValue? d).isSome := by
    unfold hexQuad? at hd
    cases ha : hexValue? a <;> cases hb : hexValue? b <;> cases hc : hexValue? c <;>
      cases hd' : hexValue? d <;> simp_all
  simpa using ⟨isAlphanum_of_hexValue? hs.1, isAlphanum_of_hexValue? hs.2.1,
    isAlphanum_of_hexValue? hs.2.2.1, isAlphanum_of_hexValue? hs.2.2.2⟩

theorem hexValue?_of_isEscapeLetter {c : Char} (h : isEscapeLetter c) : hexValue? c = none := by
  simp only [isEscapeLetter, Bool.or_eq_true, decide_eq_true_eq] at h
  rcases h with rfl | rfl <;> decide

theorem isAlphanum_of_isEscapeLetter {c : Char} (h : isEscapeLetter c) : c.isAlphanum := by
  simp only [isEscapeLetter, Bool.or_eq_true, decide_eq_true_eq] at h
  rcases h with rfl | rfl <;> decide

/-! ## Escapes -/

/-- Letters and digits that make an escape of the character `c` when a backslash stands before
them. -/
def IsEscapeTail (tail : List Char) (c : Char) : Prop :=
  ∃ letters a b d e, tail = letters ++ [a, b, d, e] ∧ letters ≠ [] ∧
    (∀ l ∈ letters, isEscapeLetter l) ∧ charOfDigits? a b d e = some c

theorem takeWhile_letters {letters : List Char} {a b d e c : Char}
    (hl : ∀ l ∈ letters, isEscapeLetter l) (hc : charOfDigits? a b d e = some c)
    (rest : List Char) :
    (letters ++ a :: b :: d :: e :: rest).takeWhile isEscapeLetter = letters := by
  have ha : isEscapeLetter a = false := Bool.eq_false_iff.2 fun h => by
    simp [charOfDigits?, hexQuad?, hexValue?_of_isEscapeLetter h] at hc
  rw [List.takeWhile_append_of_pos hl, List.takeWhile_cons, ha]
  simp

/-- What begins with an escape: the escape and anything behind it. -/
theorem escapeAhead?_eq_some_iff {text : List Char} {c : Char} {n : Nat} :
    escapeAhead? text = some (c, n) ↔
      ∃ tail rest, IsEscapeTail tail c ∧ text = '\\' :: (tail ++ rest) ∧ n = tail.length := by
  constructor
  · intro h
    unfold escapeAhead? at h
    split at h
    · rename_i rest
      split at h
      · cases h
      · rename_i k hk
        obtain ⟨c', hc', he⟩ := Option.map_eq_some_iff.1 h
        obtain ⟨a, b, d, e, more, hm, hd⟩ := codeAhead?_eq_some hc'
        obtain ⟨rfl, rfl⟩ := Prod.mk.inj he
        have ht : rest = rest.takeWhile isEscapeLetter ++ a :: b :: d :: e :: more := by
          rw [← hm, ← Nat.succ_eq_add_one, ← hk, List.prefix_iff_eq_append.1 (List.takeWhile_prefix _)]
        refine ⟨rest.takeWhile isEscapeLetter ++ [a, b, d, e], more,
          ⟨_, a, b, d, e, rfl, ?_, ?_, hd⟩, ?_, ?_⟩
        · intro h0
          simp [h0] at hk
        · intro l hl
          exact List.all_eq_true.1 List.all_takeWhile l hl
        · rw [List.append_assoc]
          exact congrArg _ ht
        · simp [hk]
    · cases h
  · rintro ⟨tail, rest, ⟨letters, a, b, d, e, rfl, hne, hl, hc⟩, rfl, rfl⟩
    have ht := takeWhile_letters hl hc rest
    obtain ⟨k, hk⟩ : ∃ k, letters.length = k + 1 :=
      ⟨letters.length - 1, by have := List.length_pos_iff.2 hne; omega⟩
    unfold escapeAhead?
    simp only [List.append_assoc, List.cons_append, List.nil_append, ht, hk]
    rw [← hk, List.drop_left, codeAhead?_cons, hc]
    simp [hk]

/-! ## Pieces -/

theorem pieces_nil : pieces [] = [] := by rw [pieces]

theorem pieces_plain {c : Char} {rest : List Char} (h : escapeAhead? (c :: rest) = none) :
    pieces (c :: rest) = .plain c :: pieces rest := by
  rw [pieces, h]

theorem escapeAhead?_of_ne {c : Char} (h : c ≠ '\\') (rest : List Char) :
    escapeAhead? (c :: rest) = none := by
  cases ha : escapeAhead? (c :: rest) with
  | none => rfl
  | some r =>
    obtain ⟨tail, more, -, he, -⟩ := escapeAhead?_eq_some_iff.1 ha
    exact absurd (List.cons.inj he).1 h

theorem pieces_of_ne {c : Char} (h : c ≠ '\\') (rest : List Char) :
    pieces (c :: rest) = .plain c :: pieces rest :=
  pieces_plain (escapeAhead?_of_ne h rest)

theorem pieces_escape {tail : List Char} {c : Char} (h : IsEscapeTail tail c) (rest : List Char) :
    pieces ('\\' :: (tail ++ rest)) = .escape c ('\\' :: tail) :: pieces rest := by
  have ha : escapeAhead? ('\\' :: (tail ++ rest)) = some (c, tail.length) :=
    escapeAhead?_eq_some_iff.2 ⟨tail, rest, h, rfl, rfl⟩
  rw [pieces, ha]
  simp

/-- The first piece of a text: a plain character where no escape begins, else that escape. -/
theorem pieces_cons {text : List Char} {p : Piece} {ps : List Piece} (h : pieces text = p :: ps) :
    (∃ c rest, text = c :: rest ∧ escapeAhead? text = none ∧ p = .plain c ∧ pieces rest = ps) ∨
    (∃ c tail rest, text = '\\' :: (tail ++ rest) ∧ IsEscapeTail tail c ∧
      p = .escape c ('\\' :: tail) ∧ pieces rest = ps) := by
  cases text with
  | nil => simp [pieces_nil] at h
  | cons c rest =>
    cases ha : escapeAhead? (c :: rest) with
    | none =>
      rw [pieces_plain ha] at h
      obtain ⟨rfl, rfl⟩ := List.cons.inj h
      exact .inl ⟨c, rest, rfl, rfl, rfl, rfl⟩
    | some r =>
      obtain ⟨tail, more, ht, he, -⟩ := escapeAhead?_eq_some_iff.1 ha
      rw [he, pieces_escape ht] at h
      obtain ⟨rfl, rfl⟩ := List.cons.inj h
      exact .inr ⟨r.1, tail, more, he, ht, rfl, rfl⟩

/-- Every piece of a text is a plain character or an escape of the known shape. -/
theorem escape_of_mem_pieces {text : List Char} {c : Char} {written : List Char}
    (h : .escape c written ∈ pieces text) :
    ∃ tail, written = '\\' :: tail ∧ IsEscapeTail tail c := by
  fun_induction pieces text with
  | case1 => simp at h
  | case2 d rest hn ih => exact ih (by simpa using h)
  | case3 d rest e n hs ih =>
    rcases List.mem_cons.1 h with h | h
    · obtain ⟨tail, more, ht, he, hn⟩ := escapeAhead?_eq_some_iff.1 hs
      obtain ⟨rfl, rfl⟩ := List.cons.inj he
      obtain ⟨rfl, rfl⟩ := Piece.escape.inj h
      exact ⟨tail, by simp [hn], ht⟩
    · exact ih h

theorem isAlphanum_of_mem_tail {tail : List Char} {c : Char} (h : IsEscapeTail tail c) :
    ∀ x ∈ tail, x.isAlphanum := by
  obtain ⟨letters, a, b, d, e, rfl, -, hl, hc⟩ := h
  intro x hx
  rcases List.mem_append.1 hx with hx | hx
  · exact isAlphanum_of_isEscapeLetter (hl x hx)
  · exact isAlphanum_of_charOfDigits? hc x hx

theorem not_mem_of_isEscapeTail {tail : List Char} {c : Char} (h : IsEscapeTail tail c) :
    '\\' ∉ tail := fun hm => absurd (isAlphanum_of_mem_tail h _ hm) (by decide)

/-- A text without a character that ends before the first such character of a longer text ends
within what stands before it. -/
theorem prefix_of_append_eq {α : Type} {u v w x : List α} {a : α} (ha : a ∉ u)
    (h : u ++ v = w ++ a :: x) : u <+: w := by
  rcases List.append_eq_append_iff.1 h with ⟨m, hm, -⟩ | ⟨m, hm, hx⟩
  · exact ⟨m, hm.symm⟩
  · cases m with
    | nil => exact ⟨[], by simpa using hm⟩
    | cons b m =>
      have hb : b = a := by simpa using (List.cons.inj hx).1.symm
      exact absurd (by simp [hm, hb]) ha

/-- **What follows an escape plays no part in what stands before it.** The pieces of a text up to
the end of an escape are also the first pieces of any other text that begins in the same way. -/
theorem pieces_through_escape {text : List Char} {ps rest : List Piece} {c : Char}
    {written : List Char} (h : pieces text = ps ++ .escape c written :: rest) (more : List Char) :
    pieces (ps.flatMap Piece.written ++ written ++ more) =
      ps ++ .escape c written :: pieces more := by
  induction ps generalizing text with
  | nil =>
    rcases pieces_cons h with ⟨d, _, -, -, hp, -⟩ | ⟨d, tail, _, -, ht, hp, -⟩
    · cases hp
    · obtain ⟨rfl, rfl⟩ := Piece.escape.inj hp
      simpa using pieces_escape ht more
  | cons p ps ih =>
    rcases pieces_cons h with ⟨d, tl, rfl, hn, rfl, htl⟩ | ⟨d, tail, tl, -, ht, rfl, htl⟩
    · have hw : .escape c written ∈ pieces tl := by
        rw [htl]
        exact List.mem_append_right ps List.mem_cons_self
      obtain ⟨tail, rfl, -⟩ := escape_of_mem_pieces hw
      have hn' : escapeAhead? (d :: (ps.flatMap Piece.written ++ '\\' :: tail ++ more)) = none := by
        -- An escape here would end before the backslash of `written`, so `text` would have it too.
        cases ha : escapeAhead? (d :: (ps.flatMap Piece.written ++ '\\' :: tail ++ more)) with
        | none => rfl
        | some r =>
          obtain ⟨t, u, ht, he, -⟩ := escapeAhead?_eq_some_iff.1 ha
          obtain ⟨rfl, ht'⟩ := List.cons.inj he
          rw [List.append_assoc, List.cons_append] at ht'
          obtain ⟨v, hv⟩ := prefix_of_append_eq (not_mem_of_isEscapeTail ht) ht'.symm
          have htext : tl = t ++ (v ++ '\\' :: tail ++ rest.flatMap Piece.written) := by
            rw [← flatMap_written_pieces tl, htl]
            simp [Piece.written, ← hv]
          have : escapeAhead? ('\\' :: tl) = some (r.1, t.length) :=
            escapeAhead?_eq_some_iff.2 ⟨t, _, ht, by rw [htext], rfl⟩
          rw [hn] at this
          cases this
      rw [List.flatMap_cons, Piece.written, List.singleton_append, List.cons_append,
        List.cons_append, pieces_plain hn', ih htl]
      rfl
    · rw [List.flatMap_cons, Piece.written, List.cons_append, List.cons_append, List.cons_append,
        List.append_assoc, List.append_assoc, pieces_escape ht, ← List.append_assoc, ih htl]
      rfl

/-! ## Texts without escapes -/

def EscapeFree (text : List Char) : Prop := ∀ i, escapeAhead? (text.drop i) = none

theorem pieces_of_escapeFree {text : List Char} (h : EscapeFree text) :
    pieces text = text.map .plain := by
  induction text with
  | nil => exact pieces_nil
  | cons c rest ih =>
    rw [pieces_plain (by simpa using h 0), ih fun i => by simpa using h (i + 1)]
    rfl

theorem escapeFree_of_not_mem {text : List Char} (h : '\\' ∉ text) : EscapeFree text := by
  intro i
  cases ha : escapeAhead? (text.drop i) with
  | none => rfl
  | some r =>
    obtain ⟨t, u, -, he, -⟩ := escapeAhead?_eq_some_iff.1 ha
    exact absurd (List.mem_of_mem_drop (by rw [he]; simp)) h

theorem EscapeFree.of_append {a b : List Char} (h : EscapeFree (a ++ b)) : EscapeFree a := by
  intro i
  cases ha : escapeAhead? (a.drop i) with
  | none => rfl
  | some r =>
    obtain ⟨tail, rest, ht, he, -⟩ := escapeAhead?_eq_some_iff.1 ha
    have hn := h i
    rw [List.drop_append, he, List.cons_append, List.append_assoc,
      escapeAhead?_eq_some_iff.2 ⟨tail, _, ht, rfl, rfl⟩] at hn
    cases hn

theorem flatMap_render_plain {text : List Char} (h : ∀ c ∈ text, isInvisible c = false)
    (m : Reading) : (text.map Piece.plain).flatMap m.render = text := by
  induction text with
  | nil => rfl
  | cons c rest ih =>
    have hc : m.render (.plain c) = [c] := by
      simp [Reading.render, Piece.denoted, h c List.mem_cons_self]
    rw [List.map_cons, List.flatMap_cons, hc, ih fun d hd => h d (List.mem_cons_of_mem _ hd)]
    rfl

/-- Every reading leaves a text as it is that has no escape and no invisible character. -/
theorem normalize_of_escapeFree {text : List Char} (he : EscapeFree text)
    (hv : ∀ c ∈ text, isInvisible c = false) (m : Reading) : m.normalize text = text := by
  rw [Reading.normalize, pieces_of_escapeFree he, flatMap_render_plain hv]

/-! ## Cuts -/

/-- No escape begins in the first text and ends in the second when they are put together. -/
def CleanCut (a b : List Char) : Prop :=
  ∀ v, v <:+ a → v ≠ [] → escapeAhead? v = none → escapeAhead? (v ++ b) = none

/-- An escape that a text has only together with what follows it begins where the text does and ends
behind it. -/
theorem straddles_of_append {v b : List Char} {c : Char} {n : Nat} (hv : v ≠ [])
    (hn : escapeAhead? v = none) (h : escapeAhead? (v ++ b) = some (c, n)) :
    ∃ s t, v = '\\' :: s ∧ t ≠ [] ∧ t <+: b ∧ IsEscapeTail (s ++ t) c := by
  obtain ⟨tail, rest, ht, he, -⟩ := escapeAhead?_eq_some_iff.1 h
  obtain ⟨d, s, rfl⟩ := List.exists_cons_of_ne_nil hv
  obtain ⟨rfl, hs⟩ := List.cons.inj he
  rcases List.append_eq_append_iff.1 hs with ⟨t, rfl, rfl⟩ | ⟨more, rfl, -⟩
  · refine ⟨s, t, rfl, ?_, List.prefix_append t rest, ht⟩
    rintro rfl
    rw [List.append_nil] at ht
    rw [escapeAhead?_eq_some_iff.2 ⟨s, [], ht, by simp, rfl⟩] at hn
    cases hn
  · rw [escapeAhead?_eq_some_iff.2 ⟨tail, more, ht, rfl, rfl⟩] at hn
    cases hn

/-- A cut is clean when no unfinished escape before it could go on behind it. -/
theorem cleanCut_of_forall {a b : List Char} (h : ∀ s t c, '\\' :: s <:+ a →
    escapeAhead? ('\\' :: s) = none → t ≠ [] → t <+: b → ¬IsEscapeTail (s ++ t) c) :
    CleanCut a b := by
  intro v hv hne hn
  cases he : escapeAhead? (v ++ b) with
  | none => rfl
  | some r =>
    obtain ⟨s, t, rfl, ht, hb, htail⟩ := straddles_of_append hne hn he
    exact absurd htail (h s t r.1 hv hn ht hb)

theorem cleanCut_of_not_mem {a : List Char} (h : '\\' ∉ a) (b : List Char) : CleanCut a b :=
  cleanCut_of_forall fun _ _ _ hs => absurd (hs.subset List.mem_cons_self) h

/-- Only letters and digits go on with an escape. -/
theorem cleanCut_of_head {b : List Char} (h : ∀ c ∈ b.head?, c.isAlphanum = false) (a : List Char) :
    CleanCut a b := by
  refine cleanCut_of_forall fun s t c _ _ ht hb htail => ?_
  obtain ⟨l, t, rfl⟩ := List.exists_cons_of_ne_nil ht
  obtain ⟨rest, rfl⟩ := hb
  have hl := isAlphanum_of_mem_tail htail l (by simp)
  rw [h l (by simp)] at hl
  cases hl

/-- Behind a character that is part of no escape every cut is clean. -/
theorem cleanCut_of_getLast {a : List Char}
    (h : ∀ c ∈ a.getLast?, c ≠ '\\' ∧ c.isAlphanum = false) (b : List Char) : CleanCut a b := by
  refine cleanCut_of_forall fun s t c hs _ _ _ htail => ?_
  obtain ⟨front, rfl⟩ := hs
  obtain rfl | ⟨s, x, rfl⟩ := List.eq_nil_or_concat s
  · exact (h '\\' (by simp)).1 rfl
  · have hx := isAlphanum_of_mem_tail htail x (by simp)
    have hlast : (front ++ '\\' :: s.concat x).getLast? = some x := by
      rw [List.concat_eq_append, ← List.cons_append, ← List.append_assoc, List.getLast?_concat]
    rw [(h x hlast).2] at hx
    cases hx

theorem CleanCut.of_suffix {a a' b : List Char} (h : CleanCut a b) (ha : a' <:+ a) :
    CleanCut a' b := fun v hv => h v (hv.trans ha)

/-- **A clean cut is a cut between pieces.** -/
theorem CleanCut.pieces_append {a b : List Char} (h : CleanCut a b) :
    pieces (a ++ b) = pieces a ++ pieces b := by
  fun_induction pieces a with
  | case1 => rfl
  | case2 c rest hn ih =>
    have hn' : escapeAhead? (c :: (rest ++ b)) = none := h _ (List.suffix_refl _) (by simp) hn
    rw [List.cons_append, pieces_plain hn', ih (h.of_suffix (List.suffix_cons c rest))]
    rfl
  | case3 c rest d n hs ih =>
    obtain ⟨tail, more, ht, he, rfl⟩ := escapeAhead?_eq_some_iff.1 hs
    obtain ⟨rfl, rfl⟩ := List.cons.inj he
    have hmore : more <:+ '\\' :: (tail ++ more) := ⟨'\\' :: tail, rfl⟩
    rw [List.drop_left] at ih ⊢
    rw [List.cons_append, List.append_assoc, pieces_escape ht, ih (h.of_suffix hmore),
      List.take_left]
    rfl

theorem CleanCut.normalize_append {a b : List Char} (h : CleanCut a b) (m : Reading) :
    m.normalize (a ++ b) = m.normalize a ++ m.normalize b := by
  rw [Reading.normalize, h.pieces_append, List.flatMap_append]
  rfl

theorem CleanCut.escapeFree_append {a b : List Char} (h : CleanCut a b) (ha : EscapeFree a)
    (hb : EscapeFree b) : EscapeFree (a ++ b) := by
  intro i
  rcases Nat.lt_or_ge i a.length with hi | hi
  · rw [List.drop_append_of_le_length (Nat.le_of_lt hi)]
    exact h _ (List.drop_suffix i a) (by simpa using hi) (ha i)
  · obtain ⟨j, rfl⟩ := Nat.exists_eq_add_of_le hi
    simpa [List.drop_append, List.drop_of_length_le] using hb j

end WikiGraph.Query
