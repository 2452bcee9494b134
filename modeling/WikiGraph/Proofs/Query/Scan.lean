import Mathlib.Tactic.SplitIfs
import WikiGraph.Query.Region
/-!
# Reading a query text one character at a time

`codeWordsFrom` looks one character ahead and sometimes takes two. Here the same reading is done
without looking ahead: a `Place` remembers what a pair has begun with, and `Place.step` takes exactly
one character. A text is then read part by part (`after_append`, `row_append`), which the moves by one
or two characters do not allow.

Each character leaves a mark, itself where it belongs to a word of code and nothing elsewhere. The
words of a text are the maximal runs of marked characters (`codeWords_eq_runs`).
-/
namespace WikiGraph.Query

open WikiGraph.Text

/-! ## Runs -/

/-- The maximal runs of present characters. -/
def runs (row : List (Option Char)) : List (List Char) :=
  ((row.splitOnP Option.isNone).map (List.filterMap id)).filter (· ≠ [])

@[simp] theorem runs_nil : runs [] = [] := by simp [runs, List.splitOnP_nil]

theorem runs_append_none (a b : List (Option Char)) :
    runs (a ++ none :: b) = runs a ++ runs b := by
  unfold runs
  rw [List.splitOnP_append_cons a b (by simp)]
  simp

@[simp] theorem runs_none_cons (row : List (Option Char)) : runs (none :: row) = runs row := by
  simpa using runs_append_none [] row

@[simp] theorem runs_replicate_none_append (n : Nat) (row : List (Option Char)) :
    runs (List.replicate n none ++ row) = runs row := by
  induction n with
  | zero => rfl
  | succ n ih => simpa [List.replicate_succ] using ih

@[simp] theorem runs_append_replicate_none (row : List (Option Char)) (n : Nat) :
    runs (row ++ List.replicate n none) = runs row := by
  induction n with
  | zero => simp
  | succ n ih => rw [List.replicate_succ', ← List.append_assoc, runs_append_none, ih]; simp

theorem runs_map_some {word : List Char} (h : word ≠ []) : runs (word.map some) = [word] := by
  unfold runs
  rw [List.splitOnP_eq_singleton (by simp)]
  simp [h]

theorem wordSoFar_eq_runs (word : List Char) : wordSoFar word = runs (word.reverse.map some) := by
  unfold wordSoFar
  split
  · simp_all
  · rename_i h
    rw [runs_map_some (by simpa using h)]

/-! ## Places -/

/-- Where the reader stands, with the first half of a pair that may have begun. -/
inductive Place where
  | code
  /-- Behind a slash in code. -/
  | slash
  | single
  /-- Behind a backslash in a string, which takes the next character with it. -/
  | singleTaking
  | double
  | doubleTaking
  | backticked
  /-- Behind a backtick that ends an identifier unless it is doubled. -/
  | closing
  | line
  | block
  /-- Behind an asterisk in a block comment. -/
  | star
deriving DecidableEq, Repr

namespace Place

/-- Where a character of code leads that does not complete a pair. -/
def fromCode (c : Char) : Place :=
  if c = '/' then slash
  else if c = '\'' then single
  else if c = '"' then double
  else if c = backtick then backticked
  else code

def step (p : Place) (c : Char) : Place :=
  match p with
  | code => fromCode c
  | slash => if c = '/' then line else if c = '*' then block else fromCode c
  | single => if c = '\\' then singleTaking else if c = '\'' then code else single
  | singleTaking => single
  | double => if c = '\\' then doubleTaking else if c = '"' then code else double
  | doubleTaking => double
  | backticked => if c = backtick then closing else backticked
  | closing => if c = backtick then backticked else fromCode c
  | line => if isLineBreak c then code else line
  | block => if c = '*' then star else block
  | star => if c = '/' then code else if c = '*' then star else block

/-- Whether the next character stands in code, unless it completes a pair. -/
def inCode : Place → Bool
  | code | slash | closing => true
  | _ => false

def mark (p : Place) (c : Char) : Option Char := if p.inCode ∧ isWordChar c then some c else none

/-- The region in which the reader is at a place when the text ends there. -/
def region : Place → Region
  | code | slash | closing => .code
  | single | singleTaking => .singleQuoted
  | double | doubleTaking => .doubleQuoted
  | backticked => .backticked
  | line => .lineComment
  | block | star => .blockComment

theorem inCode_iff {p : Place} : p.inCode ↔ p.region = .code := by cases p <;> decide

end Place

/-- The place of a region in which no pair has begun. -/
def Region.place : Region → Place
  | .code => .code
  | .singleQuoted => .single
  | .doubleQuoted => .double
  | .backticked => .backticked
  | .lineComment => .line
  | .blockComment => .block

@[simp] theorem Region.region_place (r : Region) : r.place.region = r := by cases r <;> rfl

def after (p : Place) (text : List Char) : Place := text.foldl Place.step p

def row (p : Place) : List Char → List (Option Char)
  | [] => []
  | c :: rest => p.mark c :: row (p.step c) rest

@[simp] theorem after_nil (p : Place) : after p [] = p := rfl

@[simp] theorem after_cons (p : Place) (c : Char) (rest : List Char) :
    after p (c :: rest) = after (p.step c) rest := rfl

theorem after_append (p : Place) (a b : List Char) : after p (a ++ b) = after (after p a) b := by
  simp [after]

@[simp] theorem row_nil (p : Place) : row p [] = [] := rfl

@[simp] theorem row_cons (p : Place) (c : Char) (rest : List Char) :
    row p (c :: rest) = p.mark c :: row (p.step c) rest := rfl

theorem row_append (p : Place) (a b : List Char) :
    row p (a ++ b) = row p a ++ row (after p a) b := by
  induction a generalizing p with
  | nil => rfl
  | cons c rest ih => simp [ih]

/-! ## The reading by moves -/

/-- A class of characters that a search of the list does not meet holds none of its characters. -/
theorem eq_false_of_any {list : List Char} {cls : Char → Bool} (h : list.any cls = false) :
    ∀ c ∈ list, cls c = false := by
  simpa using h

theorem mark_eq_none {p : Place} {c : Char} (h : ¬isWordChar c) : p.mark c = none := by
  simp [Place.mark, h]

theorem mark_of_not_inCode {p : Place} (h : p.inCode = false) (c : Char) : p.mark c = none := by
  simp [Place.mark, h]

theorem mark_place (r : Region) (c : Char) :
    r.place.mark c = if r = .code ∧ isWordChar c then some c else none := by
  cases r <;> simp [Place.mark, Region.place, Place.inCode]

theorem step_place_of_word {c : Char} (h : isWordChar c) : Place.code.step c = .code := by
  have hs : ∀ d : Char, isWordChar d = false → c ≠ d := fun d hd e => by simp [← e, h] at hd
  simp [Place.step, Place.fromCode, hs '/' (by decide), hs '\'' (by decide), hs '"' (by decide),
    hs backtick (by decide)]

/-- A move that takes two characters leads where two steps lead, and neither leaves a mark. -/
theorem step_step_of_takesNext {r : Region} {c d : Char} (h : (r.move c (some d)).takesNext) :
    (r.place.step c).step d = (r.move c (some d)).region.place ∧ r.place.mark c = none ∧
      (r.place.step c).mark d = none := by
  have hw : isWordChar '/' = false ∧ isWordChar '*' = false ∧ isWordChar backtick = false := by
    decide
  cases r <;> simp only [Region.move] at h ⊢ <;> split_ifs at h ⊢ <;>
    simp_all [Region.place, Place.step, Place.fromCode, Place.mark, Place.inCode, backtick]

theorem slash_step {d : Char} (h₁ : d ≠ '/') (h₂ : d ≠ '*') :
    Place.slash.step d = Place.code.step d := by
  simp [Place.step, h₁, h₂]

theorem closing_step {d : Char} (h : d ≠ backtick) : Place.closing.step d = Place.code.step d := by
  simp [Place.step, h]

/-- A move that takes one character leads where the step leads, as far as the next character can
tell. -/
theorem step_of_not_takesNext {r : Region} {c d : Char} (h : ¬(r.move c (some d)).takesNext) :
    (r.place.step c).step d = (r.move c (some d)).region.place.step d ∧
      (r.place.step c).mark d = (r.move c (some d)).region.place.mark d := by
  cases r with
  | code =>
    by_cases hc : c = '/'
    · have h₁ : d ≠ '/' := fun e => h (by simp [Region.move, hc, e])
      have h₂ : d ≠ '*' := fun e => h (by simp [Region.move, hc, e])
      have hm : (Region.code.move c (some d)).region = .code := by
        simp [Region.move, hc, h₁, h₂, backtick]
      have hs : Place.code.step c = .slash := by simp [Place.step, Place.fromCode, hc]
      rw [hm, Region.place, hs]
      exact ⟨slash_step h₁ h₂, rfl⟩
    · have hm : (Region.code.move c (some d)).region.place = Place.code.step c := by
        simp only [Region.move, hc, false_and, if_false, Place.step, Place.fromCode]
        split_ifs <;> rfl
      rw [hm]
      exact ⟨rfl, rfl⟩
  | blockComment =>
    by_cases hc : c = '*'
    · have hd : d ≠ '/' := fun e => h (by simp [Region.move, hc, e])
      simp [Region.move, hc, hd, Region.place, Place.step, Place.mark, Place.inCode]
    · simp [Region.move, hc, Region.place, Place.step]
  | backticked =>
    by_cases hc : c = backtick
    · have hd : d ≠ backtick := fun e => h (by simp [Region.move, hc, e])
      simp [Region.move, hc, hd, Region.place, Place.step, Place.mark, Place.inCode]
    · simp [Region.move, hc, Region.place, Place.step]
  | _ =>
    simp only [Region.move] at h ⊢
    split_ifs at h ⊢ <;> simp_all [Region.place, Place.step]

theorem region_step (r : Region) (c : Char) :
    (r.place.step c).region = (r.move c none).region := by
  cases r <;> simp [Region.move, Region.place, Place.step, Place.fromCode] <;> split_ifs <;>
    simp_all [Place.region, backtick]

theorem codeWordsFrom_eq_runs (r : Region) (word text : List Char) :
    codeWordsFrom r word text = runs (word.reverse.map some ++ row r.place text) := by
  fun_induction codeWordsFrom r word text with
  | case1 r word => simp [wordSoFar_eq_runs]
  | case2 r word c rest h ih =>
    rw [ih, row_cons, mark_place, if_pos h, h.1]
    simp [Region.place, step_place_of_word h.2]
  | case3 r word c rest h m ih =>
    rw [row_cons, mark_place, if_neg h, runs_append_none, wordSoFar_eq_runs]
    congr 1
    cases rest with
    | nil => simp
    | cons d after =>
      simp only at ih ⊢
      by_cases ht : m.takesNext
      · obtain ⟨hs, -, hm⟩ := step_step_of_takesNext ht
        rw [if_pos ht, ih.1, row_cons, hm, hs]
        simp [m]
      · obtain ⟨hs, hm⟩ := step_of_not_takesNext ht
        rw [if_neg ht, ih.2, row_cons, row_cons, hs, hm]
        simp [m]

/-- **Words are runs of marks.** The words in code are the maximal runs of characters that mark
themselves when the text is read one character at a time. -/
theorem codeWords_eq_runs (text : List Char) : codeWords text = runs (row .code text) :=
  codeWordsFrom_eq_runs .code [] text

theorem regionAfter_place (r : Region) (text : List Char) :
    regionAfter r text = (after r.place text).region := by
  fun_induction regionAfter r text with
  | case1 r => simp
  | case2 r c rest h ih => rw [ih, after_cons, h.1, Region.place, step_place_of_word h.2]
  | case3 r c h =>
    rw [after_cons, after_nil, region_step]
    rfl
  | case4 r c h d rest m ht ih =>
    rw [ih, after_cons, after_cons, (step_step_of_takesNext ht).1]
    rfl
  | case5 r c h d rest m ht ih =>
    rw [ih, after_cons, after_cons, after_cons, (step_of_not_takesNext ht).1]
    rfl

/-- The region a text of code ends in is that of the place behind it. -/
theorem regionAfter_code (text : List Char) :
    regionAfter .code text = (after .code text).region := regionAfter_place .code text

end WikiGraph.Query
