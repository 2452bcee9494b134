import WikiGraph.Proofs.Query.Surroundings
/-!
# What is written behind a query

A query that is rejected stays rejected when more is written behind it (`rejected_with_more`), as long as
that text begins apart from the query: not with a word character, which could go on with the last word or
with an escape begun at the end, not with an invisible character, which may vanish, and not with a
backslash, which may begin an escape of one of these.

Every reading of the whole is then the reading of the query and the reading of the rest. The first
character of the rest ends a word, whatever region it stands in and whichever pair it completes, so the
words of the query are the first words of the whole (`codeWords_prefix_append`).
-/
namespace WikiGraph.Query

/-- A break at the front leaves the runs before it as they are. -/
theorem runs_prefix_append {a b : List (Option Char)} (hb : ∀ x ∈ b.head?, x = none) :
    runs a <+: runs (a ++ b) := by
  cases b with
  | nil => simp
  | cons x b =>
    rw [hb x rfl, runs_append_none]
    exact List.prefix_append _ _

/-- **No word is taken back.** The words in code of a text are the first words of every longer one that
goes on with a break. -/
theorem codeWords_prefix_append {a b : List Char} (hb : ∀ c ∈ b.head?, ¬isWordChar c) :
    codeWords a <+: codeWords (a ++ b) := by
  rw [codeWords_eq_runs, codeWords_eq_runs, row_append]
  exact runs_prefix_append (head?_row_eq_none hb _)

/-- Every reading begins with the first character of a text, if that one is visible and begins no
escape. -/
theorem head?_normalize {text : List Char}
    (h : ∀ c ∈ text.head?, isInvisible c = false ∧ c ≠ '\\') (m : Reading) :
    (m.normalize text).head? = text.head? := by
  cases text with
  | nil => rw [Reading.normalize, pieces_nil, List.flatMap_nil]
  | cons c rest =>
    obtain ⟨hv, hb⟩ := h c rfl
    rw [Reading.normalize, pieces_of_ne hb, List.flatMap_cons, render_plain hv]
    rfl

/-- A reading finds every word of a query again in the query with more behind it. -/
theorem codeWords_normalize_prefix_append {query more : List Char}
    (hword : ∀ c ∈ more.head?, ¬isWordChar c)
    (hplain : ∀ c ∈ more.head?, isInvisible c = false ∧ c ≠ '\\') (m : Reading) :
    codeWords (m.normalize query) <+: codeWords (m.normalize (query ++ more)) := by
  have hcut : CleanCut query more := cleanCut_of_head (fun c hc => Bool.eq_false_iff.2 fun ha =>
    hword c hc (isWordChar_of_isAlphanum ha)) query
  rw [hcut.normalize_append]
  refine codeWords_prefix_append fun c hc => hword c ?_
  rwa [head?_normalize hplain] at hc

/-- **Nothing written behind a rejected query gets it through**, neither quotes nor comments, further
escapes or regions without an end, if it begins with none of the characters that could go on with a
word or an escape of the query. -/
theorem rejected_with_more {query more : List Char} (hr : isReadOnly query = false)
    (hmore : ∀ c ∈ more.head?, ¬isWordChar c ∧ isInvisible c = false ∧ c ≠ '\\') :
    isReadOnly (query ++ more) = false := by
  rw [isReadOnly, Option.isNone_eq_false_iff, writeKeyword?, List.findSome?_isSome_iff] at hr
  obtain ⟨m, hm, hdenied⟩ := hr
  obtain ⟨word, hw, hk⟩ := deniedWord?_isSome_iff.1 hdenied
  have hwords : codeWords (m.normalize query) <+: codeWords (m.normalize (query ++ more)) :=
    codeWords_normalize_prefix_append (fun c hc => (hmore c hc).1) (fun c hc => (hmore c hc).2) m
  exact not_isReadOnly_of_reading hm (deniedWord?_isSome_iff.2 ⟨word, hwords.subset hw, hk⟩)

/-- A keyword at the very end, its last letter as an escape. -/
def escapedSet : List Char := "MATCH (n) SE\\u0054".toList

/-- An identifier that is not closed, with a comment mark and an escaped quote in it. -/
def openIdentifier : List Char := "\x60n/* \\u0022".toList

theorem escapedSet_rejected_with_openIdentifier :
    isReadOnly escapedSet = false ∧ openIdentifier.head? = some backtick ∧
      isReadOnly (escapedSet ++ openIdentifier) = false := by
  have hr : isReadOnly escapedSet = false := by decide +kernel
  have hhead : openIdentifier.head? = some backtick := by decide +kernel
  refine ⟨hr, hhead, rejected_with_more hr fun c hc => ?_⟩
  obtain rfl : backtick = c := Option.some.inj (hhead.symm.trans hc)
  decide

end WikiGraph.Query
