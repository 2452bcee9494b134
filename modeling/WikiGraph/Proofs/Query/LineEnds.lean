import WikiGraph.Proofs.Query.Segments
import WikiGraph.Proofs.Query.Surroundings
/-!
# Where line comments end

A line comment ends at any of seven line breaks. A strict reader, for whom only line feed and carriage
return end it, goes on with a comment that the lexer has left at a softer break. Until the comment ends
for the strict reader too, the lexer reads its text as code, where a quote, a backtick or a comment mark
may open a region. If that region is still open at the end of the comment, what stands there in code for
the strict reader is lost to the lexer, and so is all that follows up to the end of the region.

So a plain query that holds a denied word for a strict reader is rejected unless the lexer stands outside
code where some comment ends for the strict reader, and behind every such end a keyword can be hidden
(`denied_unless_end_swallowed`).
-/
namespace WikiGraph.Query

open WikiGraph.Text

/-! ## Readers with moves of their own -/

section Reader

variable (move : Region → Char → Option Char → Move)

/-- The words in code of a text for a reader with given moves, read from region `r` behind the
characters `word` of a word already begun, the last one first. -/
def wordsBy (r : Region) (word : List Char) : List Char → List (List Char)
  | [] => wordSoFar word
  | c :: rest =>
    if r = .code ∧ isWordChar c then wordsBy .code (c :: word) rest
    else
      let m := move r c rest.head?
      wordSoFar word ++
        match rest with
        | [] => []
        | d :: after =>
          if m.takesNext then wordsBy m.region [] after else wordsBy m.region [] (d :: after)

/-- The region in which such a reader ends a text. -/
def regionBy (r : Region) : List Char → Region
  | [] => r
  | c :: rest =>
    if r = .code ∧ isWordChar c then regionBy .code rest
    else
      let m := move r c rest.head?
      match rest with
      | [] => m.region
      | d :: after => if m.takesNext then regionBy m.region after else regionBy m.region (d :: after)

variable {move} {f : Char → Char}

/-- A reader that moves on each character as the lexer moves on another one reads a text as the lexer
reads the text of those others. -/
theorem wordsBy_eq (hm : ∀ r c next, move r c next = r.move (f c) (next.map f))
    (hw : ∀ c, isWordChar (f c) = isWordChar c) (hf : ∀ c, isWordChar c → f c = c) (r : Region)
    (word text : List Char) : wordsBy move r word text = codeWordsFrom r word (text.map f) := by
  fun_induction wordsBy move r word text with
  | case1 r word => rfl
  | case2 r word c rest h ih =>
    rw [List.map_cons, codeWordsFrom, hw, if_pos h, hf c h.2]
    exact ih
  | case3 r word c rest h m ih =>
    rw [List.map_cons, codeWordsFrom, hw, if_neg h, List.head?_map, ← hm]
    cases rest with
    | nil => rfl
    | cons d after =>
      show wordSoFar word ++ (if m.takesNext then wordsBy move m.region [] after
        else wordsBy move m.region [] (d :: after)) = _
      rw [ih.1, ih.2]
      rfl

theorem regionBy_eq (hm : ∀ r c next, move r c next = r.move (f c) (next.map f))
    (hw : ∀ c, isWordChar (f c) = isWordChar c) (r : Region) (text : List Char) :
    regionBy move r text = regionAfter r (text.map f) := by
  fun_induction regionBy move r text with
  | case1 r => rfl
  | case2 r c rest h ih =>
    rw [List.map_cons, regionAfter, hw, if_pos h]
    exact ih
  | case3 r c h m =>
    rw [List.map_cons, regionAfter, hw, if_neg h, List.head?_map, ← hm]
    rfl
  | case4 r c h d after m ht ih =>
    rw [List.map_cons, regionAfter, hw, if_neg h, List.head?_map, ← hm, ih]
    exact (if_pos ht).symm
  | case5 r c h d after m ht ih =>
    rw [List.map_cons, regionAfter, hw, if_neg h, List.head?_map, ← hm, ih]
    exact (if_neg ht).symm

end Reader

/-- The lexer is the reader with the lexer's moves. -/
theorem wordsBy_move (text : List Char) : wordsBy Region.move .code [] text = codeWords text := by
  rw [wordsBy_eq (f := id) (by simp) (fun _ => rfl) (fun _ _ => rfl), List.map_id, codeWords]

/-! ## The strict reader -/

def isNewline (c : Char) : Bool := c = '\n' || c = '\r'

/-- The moves of the lexer, but for the end of a line comment. -/
def strictMove : Region → Char → Option Char → Move
  | .lineComment, c, _ => if isNewline c then ⟨.code, false⟩ else ⟨.lineComment, false⟩
  | r, c, next => r.move c next

def strictWords (text : List Char) : List (List Char) := wordsBy strictMove .code [] text

def strictRegion (text : List Char) : Region := regionBy strictMove .code text

/-- A line break that ends no comment for a strict reader. -/
def isSoftBreak (c : Char) : Bool := isLineBreak c && !isNewline c

def spaced (c : Char) : Char := if isSoftBreak c then ' ' else c

theorem isBlank_of_isSoftBreak {c : Char} (h : isSoftBreak c) : isBlank c :=
  isBlank_of_isLineBreak (Bool.and_eq_true_iff.1 h).1

theorem isLineBreak_of_isNewline {c : Char} (h : isNewline c) : isLineBreak c := by
  simp only [isNewline, Bool.or_eq_true, decide_eq_true_eq] at h
  rcases h with rfl | rfl <;> rfl

theorem spaced_of_isSoftBreak {c : Char} (h : isSoftBreak c) : spaced c = ' ' := if_pos h

theorem spaced_of_not {c : Char} (h : ¬isSoftBreak c) : spaced c = c := if_neg h

theorem isWordChar_spaced (c : Char) : isWordChar (spaced c) = isWordChar c := by
  by_cases h : isSoftBreak c
  · rw [spaced_of_isSoftBreak h, isWordChar_of_isBlank (isBlank_of_isSoftBreak h)]
    decide
  · rw [spaced_of_not h]

theorem spaced_of_isWordChar {c : Char} (h : isWordChar c) : spaced c = c := by
  refine spaced_of_not fun hs => ?_
  rw [isWordChar_of_isBlank (isBlank_of_isSoftBreak hs)] at h
  cases h

theorem isLineBreak_spaced (c : Char) : isLineBreak (spaced c) = isNewline c := by
  by_cases h : isSoftBreak c
  · have hn : isNewline c = false := by simpa using (Bool.and_eq_true_iff.1 h).2
    rw [spaced_of_isSoftBreak h, hn]
    decide
  · rw [spaced_of_not h]
    by_cases hn : isNewline c
    · rw [hn, isLineBreak_of_isNewline hn]
    · simpa [isSoftBreak, hn] using h

theorem spaced_eq_iff {c d : Char} (hd : d ∈ signs) : spaced c = d ↔ c = d := by
  by_cases h : isSoftBreak c
  · have hc : c ∉ signs := not_mem_signs_of_isBlank (isBlank_of_isSoftBreak h)
    have hs : ' ' ∉ signs := by decide
    rw [spaced_of_isSoftBreak h]
    exact ⟨fun e => absurd (e ▸ hd) hs, fun e => absurd (e ▸ hd) hc⟩
  · rw [spaced_of_not h]

/-- The strict reader moves as the lexer moves on a text with spaces for soft breaks. -/
theorem strictMove_eq (r : Region) (c : Char) (next : Option Char) :
    strictMove r c next = r.move (spaced c) (next.map spaced) := by
  have hc : ∀ d ∈ signs, (spaced c = d ↔ c = d) := fun d hd => spaced_eq_iff hd
  have hn : ∀ d ∈ signs, (next.map spaced = some d ↔ next = some d) := by
    intro d hd
    cases next with
    | none => simp
    | some e => simpa using spaced_eq_iff hd
  simp only [signs, List.forall_mem_cons, List.not_mem_nil, false_imp_iff, implies_true,
    and_true] at hc hn
  cases r <;> simp [strictMove, Region.move, hc, hn, isLineBreak_spaced]

theorem strictWords_eq (text : List Char) : strictWords text = codeWords (text.map spaced) :=
  wordsBy_eq strictMove_eq isWordChar_spaced (fun _ => spaced_of_isWordChar) .code [] text

theorem strictRegion_eq (text : List Char) :
    strictRegion text = regionAfter .code (text.map spaced) :=
  regionBy_eq strictMove_eq isWordChar_spaced .code text

/-! ## The two readers side by side -/

/-- Outside line comments a soft break is to the lexer what a space is. -/
theorem step_spaced {p : Place} {c : Char} (h : p = .line → ¬isSoftBreak c) :
    p.step (spaced c) = p.step c := by
  by_cases hs : isSoftBreak c
  · rw [spaced_of_isSoftBreak hs, step_space, step_eq_settle
      (not_mem_signs_of_isBlank (isBlank_of_isSoftBreak hs)) fun hp => absurd hs (h hp)]
  · rw [spaced_of_not hs]

theorem mark_spaced (p : Place) (c : Char) : p.mark (spaced c) = p.mark c := by
  by_cases hw : isWordChar c
  · rw [spaced_of_isWordChar hw]
  · rw [mark_eq_none hw, mark_eq_none (by rwa [isWordChar_spaced])]

theorem line_step_spaced (c : Char) :
    Place.line.step (spaced c) = if isNewline c then .code else .line := by
  simp [Place.step, isLineBreak_spaced]

/-- Behind a line break in code no pair has begun. -/
theorem step_of_isLineBreak {p : Place} {c : Char} (hc : isLineBreak c)
    (h : (p.step c).region = .code) : p.step c = .code := by
  rw [step_of_not_mem_signs (not_mem_signs_of_isBlank (isBlank_of_isLineBreak hc))] at h ⊢
  cases p <;> simp_all [Place.settle, Place.region]

/-- A line comment of the query for the strict reader ends where `head` does. -/
def EndsComment (query head : List Char) : Prop :=
  ∃ before ending, head = before ++ [ending] ∧ head <+: query ∧ isNewline ending ∧
    strictRegion before = .lineComment

def strictPlace (text : List Char) : Place := after .code (text.map spaced)

theorem strictPlace_append (text : List Char) (c : Char) :
    strictPlace (text ++ [c]) = (strictPlace text).step (spaced c) := by
  simp [strictPlace, after_append]

theorem after_append_singleton (p : Place) (text : List Char) (c : Char) :
    after p (text ++ [c]) = (after p text).step c := by
  rw [after_append]
  rfl

theorem strictRegion_eq_lineComment {text : List Char} :
    strictRegion text = .lineComment ↔ strictPlace text = .line := by
  rw [strictRegion_eq, regionAfter_code, region_eq_lineComment, strictPlace]

/-- The words that a strict reader at place `r` finds in a text are found by the lexer at place `p`. A
strict reader who is at the same place marks the same characters. One who is still in a comment marks
nothing, so what the lexer has collected is no part of the words. -/
structure KeptFrom (r p : Place) (text : List Char) : Prop where
  together : r = p → WordsKept (row r (text.map spaced)) (row p text)
  apart : r = .line → ∀ pending word : List Char, word ∈ runs (row r (text.map spaced)) →
    word ∈ runs (pending.map some ++ row p text) ∨ BeginsLikeEscape word

theorem KeptFrom.nil (r p : Place) : KeptFrom r p [] where
  together _ := .refl []
  apart _ _ word hw := by simp at hw

theorem KeptFrom.cons_together {p : Place} {c : Char} {text : List Char}
    (h : KeptFrom (p.step (spaced c)) (p.step c) text) :
    WordsKept (row p ((c :: text).map spaced)) (row p (c :: text)) := by
  rw [List.map_cons, row_cons, row_cons, mark_spaced]
  by_cases hs : p = .line ∧ isSoftBreak c
  · -- The lexer leaves the comment here and the strict reader does not.
    obtain ⟨rfl, hs⟩ := hs
    have hn : isNewline c = false := by simpa using (Bool.and_eq_true_iff.1 hs).2
    exact .of_break (h.apart (by rw [line_step_spaced, hn]; rfl) [])
  · exact (h.together (step_spaced fun hp => not_and.1 hs hp)).cons _

theorem KeptFrom.cons_apart {p : Place} {c : Char} {text : List Char}
    (h : KeptFrom (Place.line.step (spaced c)) (p.step c) text)
    (hend : isNewline c → p.step c = .code) (pending word : List Char)
    (hw : word ∈ runs (row .line ((c :: text).map spaced))) :
    word ∈ runs (pending.map some ++ row p (c :: text)) ∨ BeginsLikeEscape word := by
  rw [List.map_cons, row_cons, mark_of_not_inCode rfl, runs_none_cons] at hw
  rw [row_cons]
  by_cases hn : isNewline c
  · -- The comment ends for the strict reader too, and both are in code behind it.
    have hb := isBlank_of_isLineBreak (isLineBreak_of_isNewline hn)
    have hstep : Place.line.step (spaced c) = p.step c := by
      rw [line_step_spaced, if_pos hn, hend hn]
    rw [mark_eq_none (by simp [isWordChar_of_isBlank hb]), runs_append_none]
    exact (h.together hstep [] word hw).imp_left (List.mem_append_right _)
  · have hstep : Place.line.step (spaced c) = .line := by rw [line_step_spaced, if_neg hn]
    cases p.mark c with
    | none =>
      rw [runs_append_none]
      exact (h.apart hstep [] word hw).imp_left (List.mem_append_right _)
    | some d => simpa using h.apart hstep (pending ++ [d]) word hw

theorem KeptFrom.cons {r p : Place} {c : Char} {text : List Char}
    (h : KeptFrom (r.step (spaced c)) (p.step c) text)
    (hend : r = .line → isNewline c → p.step c = .code) : KeptFrom r p (c :: text) where
  together := by
    rintro rfl
    exact h.cons_together
  apart := by
    rintro rfl
    exact h.cons_apart (hend rfl)

/-- **The words of the strict reader are kept** where the lexer is in code at the end of each comment. -/
theorem keptFrom_of_ends {query : List Char}
    (h : ∀ head, EndsComment query head → regionAfter .code head = .code) {before text : List Char}
    (hquery : query = before ++ text) :
    KeptFrom (strictPlace before) (after .code before) text := by
  induction text generalizing before with
  | nil => exact .nil _ _
  | cons c text ih =>
    have hnext : query = before ++ [c] ++ text := by simpa using hquery
    have ih := ih hnext
    rw [strictPlace_append, after_append_singleton] at ih
    refine ih.cons fun hline hn => step_of_isLineBreak (isLineBreak_of_isNewline hn) ?_
    rw [← after_append_singleton, ← regionAfter_code]
    exact h _ ⟨before, c, rfl, ⟨text, hnext.symm⟩, hn, strictRegion_eq_lineComment.2 hline⟩

/-! ## What is found and what is not -/

/-- Where the lexer is in code at the end of each comment, a denied word of the strict reader is
found. -/
theorem denied_of_strict {query : List Char} (hp : IsPlain query)
    (h : ∀ head, EndsComment query head → regionAfter .code head = .code)
    (hd : ∃ word ∈ strictWords query, (WriteKeyword.deniedBy? word).isSome) :
    (writeKeyword? query).isSome := by
  obtain ⟨word, hw, hk⟩ := hd
  rw [strictWords_eq, codeWords_eq_runs] at hw
  rw [writeKeyword?_of_isPlain hp, deniedWord?_isSome_iff]
  refine ⟨word, ?_, hk⟩
  have hkept : KeptFrom (strictPlace []) (after .code []) query := keptFrom_of_ends h rfl
  rcases hkept.together rfl [] word hw with hw | hw
  · rwa [codeWords_eq_runs]
  · rw [deniedBy?_of_beginsLikeEscape hw] at hk
    cases hk

def keyword : List Char := "CREATE".toList

section Swallowed

variable {query head : List Char}

/-- Behind the end of a comment a keyword is in code for the strict reader. -/
theorem strict_denied_behind_end (h : EndsComment query head) :
    ∃ word ∈ strictWords (head ++ keyword), (WriteKeyword.deniedBy? word).isSome := by
  obtain ⟨before, ending, rfl, -, hn, hline⟩ := h
  have hplace : strictPlace (before ++ [ending]) = .code := by
    rw [strictPlace_append, strictRegion_eq_lineComment.1 hline, line_step_spaced, if_pos hn]
  have hw : isWordChar (spaced ending) = false := by
    rw [isWordChar_spaced]
    exact isWordChar_of_isBlank (isBlank_of_isLineBreak (isLineBreak_of_isNewline hn))
  have hmem : keyword ∈ codeWords ((before ++ [ending]).map spaced ++ keyword ++ []) := by
    refine mem_codeWords_between ?_ ?_ (by decide) (List.all_eq_true.1 (by decide)) (by simp)
    · rw [regionAfter_code, ← strictPlace, hplace]
      rfl
    · simp [hw]
  refine ⟨keyword, ?_, by decide⟩
  rwa [strictWords_eq, List.map_append, show keyword.map spaced = keyword by decide,
    ← List.append_nil (_ ++ keyword)]

/-- To the lexer, when it is outside code there, the keyword is no word. -/
theorem codeWords_append_keyword (h : regionAfter .code head ≠ .code) :
    codeWords (head ++ keyword) = codeWords head := by
  have hc : (after .code head).inCode = false := by
    rwa [Bool.eq_false_iff, ne_eq, Place.inCode_iff, ← regionAfter_code]
  have hrow : row (after .code head) keyword = List.replicate keyword.length none := by
    rw [row_of_word (List.all_eq_true.1 (by decide)), hc]
    rfl
  rw [codeWords_eq_runs, codeWords_eq_runs, row_append, hrow, runs_append_replicate_none]

theorem EndsComment.isPlain (hp : IsPlain query) (h : EndsComment query head) :
    IsPlain head ∧ IsPlain (head ++ keyword) := by
  obtain ⟨before, ending, rfl, ⟨rest, rfl⟩, hn, -⟩ := h
  have hvisible : ∀ c ∈ before ++ [ending], isInvisible c = false := fun c hc =>
    hp.visible c (List.mem_append_left rest hc)
  have hfree := hp.escapeFree.of_append
  have hcut : CleanCut (before ++ [ending]) keyword := by
    refine cleanCut_of_getLast (fun c hc => ?_) _
    obtain rfl : ending = c := by simpa using hc
    simp only [isNewline, Bool.or_eq_true, decide_eq_true_eq] at hn
    rcases hn with rfl | rfl <;> decide
  refine ⟨⟨hfree, hvisible⟩, hcut.escapeFree_append hfree (escapeFree_of_not_mem (by decide)),
    fun c hc => ?_⟩
  have hkeyword : ∀ c ∈ keyword, isInvisible c = false := eq_false_of_any (by decide)
  exact (List.mem_append.1 hc).elim (hvisible c) (hkeyword c)

end Swallowed

/-- **A denied word is found unless the end of a comment is swallowed.** A plain query that puts a
denied word into code for a strict reader is rejected when the lexer is in code wherever a line comment
ends for the strict reader. This cannot be spared: where the lexer is outside code at such an end, the
query up to there with a keyword behind it is plain too and puts the keyword into code for the strict
reader, but its verdict is that of the query up to there. -/
theorem denied_unless_end_swallowed {query : List Char} (hp : IsPlain query) :
    ((∀ head, EndsComment query head → regionAfter .code head = .code) →
      (∃ word ∈ strictWords query, (WriteKeyword.deniedBy? word).isSome) →
        (writeKeyword? query).isSome) ∧
    ∀ head, EndsComment query head → regionAfter .code head ≠ .code →
      IsPlain (head ++ keyword) ∧
      (∃ word ∈ strictWords (head ++ keyword), (WriteKeyword.deniedBy? word).isSome) ∧
      writeKeyword? (head ++ keyword) = writeKeyword? head := by
  refine ⟨denied_of_strict hp, fun head h hc => ?_⟩
  obtain ⟨hhead, hmore⟩ := h.isPlain hp
  refine ⟨hmore, strict_denied_behind_end h, ?_⟩
  rw [writeKeyword?_of_isPlain hmore, writeKeyword?_of_isPlain hhead, deniedWord?, deniedWord?,
    codeWords_append_keyword hc]

/-- A comment with a line separator inside it that opens nothing, and a keyword on the next line. -/
def harmlessBreak : List Char := "//\u2028x\nCREATE (n)".toList

/-- A comment with a line separator inside it and a quote behind that, and a keyword on the next line. -/
def quoteBehindBreak : List Char := "//\u2028'\nCREATE (n)".toList

theorem harmlessBreak_and_quoteBehindBreak_verdicts :
    (writeKeyword? harmlessBreak).isSome ∧
      (∃ word ∈ strictWords ("//\u2028'\n".toList ++ keyword),
        (WriteKeyword.deniedBy? word).isSome) ∧
      writeKeyword? ("//\u2028'\n".toList ++ keyword) = none := by
  have hharmless : IsPlain harmlessBreak :=
    isPlain_of_not_mem (by decide +kernel) (by decide +kernel)
  have hquote : IsPlain quoteBehindBreak :=
    isPlain_of_not_mem (by decide +kernel) (by decide +kernel)
  have hcut : EndsComment quoteBehindBreak "//\u2028'\n".toList :=
    ⟨"//\u2028'".toList, '\n', by decide +kernel, ⟨"CREATE (n)".toList, by decide +kernel⟩, by decide,
      by decide +kernel⟩
  obtain ⟨-, hstrict, hverdict⟩ :=
    (denied_unless_end_swallowed hquote).2 _ hcut (by decide +kernel)
  refine ⟨?_, hstrict, ?_⟩
  · refine (denied_unless_end_swallowed hharmless).1 ?_ (by decide +kernel)
    rintro head ⟨before, ending, rfl, hpre, hn, -⟩
    have hall : ∀ n ≤ harmlessBreak.length, (harmlessBreak.take n).getLast?.any isNewline →
        regionAfter .code (harmlessBreak.take n) = .code := by
      decide +kernel
    have htake := List.prefix_iff_eq_take.1 hpre
    rw [htake]
    refine hall _ hpre.length_le ?_
    rw [← htake]
    simpa using hn
  · rw [hverdict]
    decide +kernel

/-- The keyword behind the quote is missed. -/
theorem quoteBehindBreak_passes :
    ¬∀ query : List Char, IsPlain query →
      (∃ word ∈ strictWords query, (WriteKeyword.deniedBy? word).isSome) →
        (writeKeyword? query).isSome := by
  intro h
  have hplain : IsPlain quoteBehindBreak :=
    isPlain_of_not_mem (by decide +kernel) (by decide +kernel)
  have hmissed : writeKeyword? quoteBehindBreak = none := by decide +kernel
  have hfound := h quoteBehindBreak hplain (by decide +kernel)
  rw [hmissed] at hfound
  cases hfound

end WikiGraph.Query
