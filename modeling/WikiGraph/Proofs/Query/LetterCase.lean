import Mathlib.Data.List.Forall2
import WikiGraph.Proofs.Query.EscapeShape
import WikiGraph.Proofs.Query.Scan
import WikiGraph.Proofs.Text.LowerCase
import WikiGraph.Query.Classifier
/-!
# Queries in another case

The case of an ASCII letter plays no part in a verdict. Every rule on characters is kept when a
character is lowered, which is seen on the ASCII characters (`toLower_congr`). So lowering a text
lowers its words in code (`codeWords_lowered`) and its pieces (`pieces_lowered`), where the characters
that escapes stand for stay as they are; and a word is denied in any case (`deniedBy?_lowered`).
-/
namespace WikiGraph.Query

open WikiGraph.Text

/-! ## Characters -/

@[simp] theorem hexValue?_toLower (c : Char) : hexValue? c.toLower = hexValue? c :=
  toLower_congr (by decide) c

@[simp] theorem isEscapeLetter_toLower (c : Char) : isEscapeLetter c.toLower = isEscapeLetter c :=
  toLower_congr (by decide) c

@[simp] theorem isInvisible_toLower (c : Char) : isInvisible c.toLower = isInvisible c :=
  toLower_congr (by decide) c

@[simp] theorem isWordChar_toLower (c : Char) : isWordChar c.toLower = isWordChar c :=
  toLower_congr (by decide) c

@[simp] theorem isDigit_toLower (c : Char) : c.toLower.isDigit = c.isDigit :=
  toLower_congr (by decide) c

@[simp] theorem upperForm_toLower (c : Char) : upperForm c.toLower = upperForm c :=
  toLower_congr (by decide) c

@[simp] theorem toLower_toLower (c : Char) : c.toLower.toLower = c.toLower :=
  toLower_congr (by decide) c

theorem toLower_eq_backslash_iff {c : Char} : c.toLower = '\\' ↔ c = '\\' := by
  have h := toLower_congr (f := fun c => decide (c = '\\')) (by decide) c
  simpa using h

@[simp] theorem step_toLower (p : Place) (c : Char) : p.step c.toLower = p.step c := by
  cases p <;> exact toLower_congr (by decide) c

/-! ## Words -/

theorem upperCase_lowered (word : List Char) :
    upperCase (word.map Char.toLower) = upperCase word := by
  simp [upperCase, List.flatMap_map]

theorem spelledBy?_lowered (word : List Char) :
    WriteKeyword.spelledBy? (word.map Char.toLower) = WriteKeyword.spelledBy? word := by
  simp [WriteKeyword.spelledBy?, upperCase_lowered]

theorem endOf?_lowered (word : List Char) :
    WriteKeyword.endOf? (word.map Char.toLower) = WriteKeyword.endOf? word := by
  induction word with
  | nil => rfl
  | cons c rest ih =>
    rw [List.map_cons, WriteKeyword.endOf?, WriteKeyword.endOf?, ← List.map_cons,
      spelledBy?_lowered, ih]

/-- **A word is denied in any case.** -/
theorem deniedBy?_lowered (word : List Char) :
    WriteKeyword.deniedBy? (word.map Char.toLower) = WriteKeyword.deniedBy? word := by
  cases word with
  | nil => rfl
  | cons c rest =>
    have hs := spelledBy?_lowered (c :: rest)
    rw [List.map_cons] at hs ⊢
    simp only [WriteKeyword.deniedBy?, hs, isDigit_toLower, endOf?_lowered]

/-! ## Words in code -/

theorem splitOnP_map {α β : Type} (f : α → β) (p : β → Bool) (l : List α) :
    (l.map f).splitOnP p = (l.splitOnP (p ∘ f)).map (List.map f) := by
  induction l with
  | nil => simp [List.splitOnP_nil]
  | cons a l ih =>
    rw [List.map_cons, List.splitOnP_cons_eq_if_modifyHead, List.splitOnP_cons_eq_if_modifyHead, ih,
      Function.comp_apply]
    split
    · simp
    · cases l.splitOnP (p ∘ f) <;> simp

theorem runs_map (f : Char → Char) (row : List (Option Char)) :
    runs (row.map (Option.map f)) = (runs row).map (List.map f) := by
  have hnone : Option.isNone ∘ Option.map f = Option.isNone := by
    funext mark
    cases mark <;> rfl
  have hword : List.filterMap id ∘ List.map (Option.map f) = List.map f ∘ List.filterMap id := by
    funext part
    simp [List.filterMap_map, List.map_filterMap]
  have hempty : (fun word : List Char => decide (word ≠ [])) ∘ List.map f =
      fun word => decide (word ≠ []) := by
    funext word
    simp
  rw [runs, runs, splitOnP_map, hnone, List.map_map, hword, ← List.map_map, List.filter_map, hempty]

theorem row_lowered (p : Place) (text : List Char) :
    row p (text.map Char.toLower) = (row p text).map (Option.map Char.toLower) := by
  induction text generalizing p with
  | nil => rfl
  | cons c rest ih =>
    have hmark : p.mark c.toLower = (p.mark c).map Char.toLower := by
      unfold Place.mark
      rw [isWordChar_toLower]
      split <;> rfl
    rw [List.map_cons, row_cons, row_cons, List.map_cons, step_toLower, hmark, ih]

/-- **Lowering a text lowers its words in code.** -/
theorem codeWords_lowered (text : List Char) :
    codeWords (text.map Char.toLower) = (codeWords text).map (List.map Char.toLower) := by
  rw [codeWords_eq_runs, codeWords_eq_runs, row_lowered, runs_map]

theorem deniedWord?_lowered (text : List Char) :
    deniedWord? (text.map Char.toLower) = deniedWord? text := by
  rw [deniedWord?, deniedWord?, codeWords_lowered, List.findSome?_map]
  congr 1
  funext word
  exact deniedBy?_lowered word

/-! ## Escapes -/

theorem codeAhead?_lowered (text : List Char) :
    codeAhead? (text.map Char.toLower) = codeAhead? text := by
  rcases text with _ | ⟨a, _ | ⟨b, _ | ⟨c, _ | ⟨d, rest⟩⟩⟩⟩
  case cons.cons.cons.cons => simp [codeAhead?_cons, charOfDigits?, hexQuad?]
  all_goals rfl

theorem length_takeWhile_lowered (text : List Char) :
    ((text.map Char.toLower).takeWhile isEscapeLetter).length =
      (text.takeWhile isEscapeLetter).length := by
  have hletter : isEscapeLetter ∘ Char.toLower = isEscapeLetter := funext isEscapeLetter_toLower
  rw [List.takeWhile_map, hletter, List.length_map]

/-- **An escape stands for the same character in any case.** -/
theorem escapeAhead?_lowered (text : List Char) :
    escapeAhead? (text.map Char.toLower) = escapeAhead? text := by
  cases text with
  | nil => rfl
  | cons c rest =>
    rw [List.map_cons]
    by_cases hc : c = '\\'
    · have hlower : c.toLower = '\\' := toLower_eq_backslash_iff.2 hc
      rw [hlower, hc]
      simp only [escapeAhead?, length_takeWhile_lowered, ← List.map_drop, codeAhead?_lowered]
    · rw [escapeAhead?_of_ne hc, escapeAhead?_of_ne fun e => hc (toLower_eq_backslash_iff.1 e)]

/-- A piece in small letters; what an escape stands for stays as it is. -/
def Piece.lowered : Piece → Piece
  | .plain c => .plain c.toLower
  | .escape c written => .escape c (written.map Char.toLower)

/-- **Lowering a text lowers its pieces.** -/
theorem pieces_lowered (text : List Char) :
    pieces (text.map Char.toLower) = (pieces text).map Piece.lowered := by
  fun_induction pieces text with
  | case1 => simp [pieces_nil]
  | case2 c rest hn ih =>
    rw [← escapeAhead?_lowered, List.map_cons] at hn
    rw [List.map_cons, pieces_plain hn, ih]
    rfl
  | case3 c rest d n hs ih =>
    rw [← escapeAhead?_lowered, List.map_cons] at hs
    rw [List.map_drop] at ih
    rw [List.map_cons, pieces, hs]
    simp [Piece.lowered, ih, List.map_take]

theorem render_lowered (m : Reading) (q : Piece) :
    (m.render q.lowered).map Char.toLower = (m.render q).map Char.toLower := by
  cases q with
  | plain c =>
    have hrender : ∀ d, m.render (.plain d) =
        if isInvisible d then (if m.splitsAtInvisible then [' '] else []) else [d] := fun _ => rfl
    rw [Piece.lowered, hrender, hrender, isInvisible_toLower]
    split <;> simp
  | escape c written =>
    have hrender : ∀ w, m.render (.escape c w) =
        if isInvisible c then (if m.splitsAtInvisible then [' '] else [])
        else if isControl c || isSpace c then ['\n'] else if m.decodesAll then [c] else w :=
      fun _ => rfl
    rw [Piece.lowered, hrender, hrender]
    split_ifs <;> simp

theorem normalize_lowered (m : Reading) (text : List Char) :
    (m.normalize (text.map Char.toLower)).map Char.toLower =
      (m.normalize text).map Char.toLower := by
  rw [Reading.normalize, Reading.normalize, pieces_lowered, List.map_flatMap, List.map_flatMap,
    List.flatMap_map]
  congr 1
  funext q
  exact render_lowered m q

/-! ## Verdicts -/

theorem writeKeyword?_lowered (query : List Char) :
    writeKeyword? (query.map Char.toLower) = writeKeyword? query := by
  unfold writeKeyword?
  congr 1
  funext m
  -- A decoded escape keeps its capital letter, so the readings agree only when both are lowered.
  calc deniedWord? (m.normalize (query.map Char.toLower))
      = deniedWord? ((m.normalize (query.map Char.toLower)).map Char.toLower) :=
        (deniedWord?_lowered _).symm
    _ = deniedWord? ((m.normalize query).map Char.toLower) := by rw [normalize_lowered]
    _ = deniedWord? (m.normalize query) := deniedWord?_lowered _

/-- **Verdicts ignore the case of letters everywhere**: in keywords, names, strings and comments, in the
letters that introduce an escape and in its digits. -/
theorem same_verdict_in_other_case {query other : List Char}
    (h : List.Forall₂ (fun c d : Char => c.toLower = d.toLower) query other) :
    writeKeyword? query = writeKeyword? other := by
  have hsame : query.map Char.toLower = other.map Char.toLower := sameButCase_iff.1 h
  rw [← writeKeyword?_lowered query, hsame, writeKeyword?_lowered]

/-- A comment that an escaped line feed ends, and a keyword behind it. -/
def createBehindFeed : List Char := "//Note\\u000aCREATE (n)".toList

theorem createBehindFeed_in_other_case :
    List.Forall₂ (fun c d : Char => c.toLower = d.toLower) createBehindFeed
        "//nOTE\\U000AcREATE (N)".toList ∧
      writeKeyword? createBehindFeed = some .create ∧
      writeKeyword? "//nOTE\\U000AcREATE (N)".toList = some .create := by
  have h : List.Forall₂ (fun c d : Char => c.toLower = d.toLower) createBehindFeed
      "//nOTE\\U000AcREATE (N)".toList := by decide +kernel
  have hr : writeKeyword? createBehindFeed = some .create := by decide +kernel
  exact ⟨h, hr, (same_verdict_in_other_case h).symm.trans hr⟩

end WikiGraph.Query
