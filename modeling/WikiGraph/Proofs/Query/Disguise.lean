import WikiGraph.Proofs.Query.CommentCuts
/-!
# Disguised queries

A query may be written with some of its characters as escapes (`Disguise`): delimiters, comment marks,
line breaks and letters of keywords alike. Decoding finds the escapes again and nothing else, so the
reading that decodes them all shows the query as it was but for its blanks, which become line breaks;
and outside line comments a line break is as good as any other blank. So no disguise gets a rejected
query through (`disguised_query_rejected`).
-/
namespace WikiGraph.Query

open WikiGraph.Text

/-! ## Characters as escapes -/

/-- An escape of a character: a backslash, letters `u` of either case and four hexadecimal digits of
either case that spell the character's code. -/
def Escapes (written : List Char) (c : Char) : Prop :=
  ∃ letters a b d e, written = '\\' :: (letters ++ [a, b, d, e]) ∧ letters ≠ [] ∧
    (∀ l ∈ letters, l = 'u' ∨ l = 'U') ∧ hexQuad? a b d e = some c.toNat

/-- The place behind `before`, where `c` follows, is inside a line comment, and `c` does not end it. -/
def InsideLineComment (before : List Char) (c : Char) : Prop :=
  regionAfter .code before = .lineComment ∧ ¬isLineBreak c

instance (before : List Char) (c : Char) : Decidable (InsideLineComment before c) :=
  inferInstanceAs (Decidable (_ ∧ _))

/-- A text that stands behind `before`, and the same text with some of its characters written as
escapes, but no blank inside a line comment. -/
inductive Disguise : List Char → List Char → List Char → Prop
  | nil {before : List Char} : Disguise before [] []
  | kept {before text shown : List Char} {c : Char} (h : Disguise (before ++ [c]) text shown) :
      Disguise before (c :: text) (c :: shown)
  | escaped {before text shown written : List Char} {c : Char} (he : Escapes written c)
      (hb : isBlank c → ¬InsideLineComment before c) (h : Disguise (before ++ [c]) text shown) :
      Disguise before (c :: text) (written ++ shown)

/-- No character has to be escaped. -/
theorem Disguise.refl (before text : List Char) : Disguise before text text := by
  induction text generalizing before with
  | nil => exact .nil
  | cons c text ih => exact .kept (ih _)

theorem charOfCode?_toNat (c : Char) : charOfCode? c.toNat = some c := by
  unfold charOfCode?
  rw [dif_pos (show c.toNat.isValidChar from c.valid)]
  rfl

theorem Escapes.eq_cons {written : List Char} {c : Char} (h : Escapes written c) :
    ∃ tail, written = '\\' :: tail ∧ IsEscapeTail tail c := by
  obtain ⟨letters, a, b, d, e, rfl, hne, hl, hq⟩ := h
  refine ⟨_, rfl, letters, a, b, d, e, rfl, hne, fun l hm => ?_, ?_⟩
  · rcases hl l hm with rfl | rfl <;> rfl
  · rw [charOfDigits?, hq]
    exact charOfCode?_toNat c

/-! ## Undoing a disguise -/

/-- **Decoding undoes a disguise**, and finds no escape of a blank inside a line comment. -/
theorem Disguise.decoded {before text shown : List Char} (h : Disguise before text shown)
    (hb : '\\' ∉ text) : (pieces shown).flatMap Piece.shown = text ∧
      Uncut Piece.shown (fun c => isBlank c ∧ ¬isLineBreak c) (after .code before)
        (pieces shown) := by
  induction h with
  | nil => exact ⟨by rw [pieces_nil]; rfl, fun before c written rest hps => by simp [pieces_nil] at hps⟩
  | @kept before text shown c h ih =>
    rw [List.mem_cons, not_or] at hb
    obtain ⟨hshown, huncut⟩ := ih hb.2
    rw [pieces_of_ne (Ne.symm hb.1)]
    refine ⟨congrArg (c :: ·) hshown, .cons (fun _ _ e => by cases e) ?_⟩
    rwa [after_append] at huncut
  | @escaped before text shown written c he hblank h ih =>
    rw [List.mem_cons, not_or] at hb
    obtain ⟨hshown, huncut⟩ := ih hb.2
    obtain ⟨tail, rfl, ht⟩ := he.eq_cons
    rw [List.cons_append, pieces_escape ht]
    refine ⟨congrArg (c :: ·) hshown, .cons (fun d written e hd hl => ?_) ?_⟩
    · obtain ⟨rfl, -⟩ := Piece.escape.inj e
      refine hblank hd.1 ⟨?_, hd.2⟩
      rw [regionAfter_code, hl, Place.region]
    · rwa [after_append] at huncut

/-- The reading that decodes every escape finds the words of the undisguised query. -/
theorem codeWords_of_disguise {query shown : List Char} (h : Disguise [] query shown)
    (hb : '\\' ∉ query) : codeWords (Reading.normalize ⟨true, true⟩ shown) = codeWords query := by
  obtain ⟨hshown, huncut⟩ := h.decoded hb
  have hrow := row_denoted huncut
  rw [after_nil] at hrow
  rw [codeWords_eq_runs, codeWords_eq_runs, Reading.normalize, ← hrow]
  exact congrArg (fun text => runs (row .code text)) hshown

/-- **A disguise gets no query through.** When a query without backslashes and invisible characters is
rejected, so is every text that comes of it by writing some of its characters as escapes, unless one
of these is a blank inside a line comment. -/
theorem disguised_query_rejected {query shown : List Char} (hb : '\\' ∉ query)
    (hv : ∀ c ∈ query, isInvisible c = false) (hr : isReadOnly query = false)
    (h : Disguise [] query shown) : isReadOnly shown = false := by
  have hdenied : (deniedWord? query).isSome := by
    rw [isReadOnly, Option.isNone_eq_false_iff, writeKeyword?, List.findSome?_isSome_iff] at hr
    obtain ⟨m, -, hm⟩ := hr
    rwa [normalize_of_escapeFree (escapeFree_of_not_mem hb) hv] at hm
  refine not_isReadOnly_of_reading (m := ⟨true, true⟩) (Reading.mem_all _) ?_
  rwa [deniedWord?, codeWords_of_disguise h hb]

def setBehindComment : List Char := '/' :: '/' :: '\n' :: 'S' :: "ET n.x = 1".toList

/-- The same with a comment mark, the line feed that ends the comment and the keyword's first letter as
escapes. -/
def disguisedSet : List Char :=
  '/' :: ("\\u002f".toList ++ ("\\UU000a".toList ++ ("\\uu0053".toList ++ "ET n.x = 1".toList)))

theorem disguisedSet_rejected :
    isReadOnly setBehindComment = false ∧ Disguise [] setBehindComment disguisedSet ∧
      isReadOnly disguisedSet = false := by
  have hr : isReadOnly setBehindComment = false := by decide +kernel
  have hd : Disguise [] setBehindComment disguisedSet := by
    refine .kept (.escaped ?_ ?_ (.escaped ?_ ?_ (.escaped ?_ ?_ (.refl _ _))))
    · exact ⟨['u'], '0', '0', '2', 'f', rfl, by simp, by simp, by decide⟩
    · decide
    · exact ⟨['U', 'U'], '0', '0', '0', 'a', rfl, by simp, by simp, by decide⟩
    · decide
    · exact ⟨['u', 'u'], '0', '0', '5', '3', rfl, by simp, by simp, by decide⟩
    · decide +kernel
  exact ⟨hr, hd, disguised_query_rejected (by decide) (eq_false_of_any (by decide +kernel)) hr hd⟩

end WikiGraph.Query
