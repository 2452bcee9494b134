import Mathlib.Logic.ExistsUnique
import WikiGraph.Proofs.Query.EscapeShape
import WikiGraph.Proofs.Query.Scan
import WikiGraph.Query.Classifier
/-!
# The grammar of query texts

A query text is a sequence of segments: characters of code, strings, quoted identifiers, comments and
perhaps one region at the end that is never closed. `Reads` is that grammar, stated without a reader.

Every text has exactly one reading (`existsUnique_reads`), the words of the text are the runs of word
characters among its characters of code (`codeWords_of_reads`), and on a query without escapes and
invisible characters the classifier's verdict is the first denied word among them
(`writeKeyword?_of_isPlain`).
-/
namespace WikiGraph.Query

open WikiGraph.Text

/-! ## Segments -/

inductive Segment where
  | code (c : Char)
  | string (quote : Char) (body : List Char)
  | identifier (body : List Char)
  /-- The line break that ends the comment belongs to it. -/
  | lineComment (body : List Char)
  | blockComment (body : List Char)
  /-- A region that runs to the end of the text. -/
  | unterminated (text : List Char)
deriving DecidableEq, Repr

def IsQuote (c : Char) : Prop := c = '\'' ∨ c = '"'

instance : DecidablePred IsQuote := fun c => inferInstanceAs (Decidable (c = '\'' ∨ c = '"'))

/-- The inside of a string: a backslash takes the next character with it. -/
inductive StringBody (quote : Char) : List Char → Prop
  | nil : StringBody quote []
  | plain {c : Char} {rest : List Char} (hq : c ≠ quote) (hb : c ≠ '\\')
      (tail : StringBody quote rest) : StringBody quote (c :: rest)
  | taken {c : Char} {rest : List Char} (tail : StringBody quote rest) :
      StringBody quote ('\\' :: c :: rest)

/-- The inside of a quoted identifier: a backtick stands there only doubled. -/
inductive IdentifierBody : List Char → Prop
  | nil : IdentifierBody []
  | plain {c : Char} {rest : List Char} (hc : c ≠ backtick) (tail : IdentifierBody rest) :
      IdentifierBody (c :: rest)
  | doubled {rest : List Char} (tail : IdentifierBody rest) :
      IdentifierBody (backtick :: backtick :: rest)

def blockEnd : List Char := ['*', '/']

/-- A region from its opening mark to the end of the text. -/
inductive Unterminated : List Char → Prop
  | string {quote : Char} {body : List Char} (hq : IsQuote quote) (h : StringBody quote body) :
      Unterminated (quote :: body)
  /-- The text ends behind a backslash, which has nothing to take. -/
  | taking {quote : Char} {body : List Char} (hq : IsQuote quote) (h : StringBody quote body) :
      Unterminated (quote :: (body ++ ['\\']))
  | identifier {body : List Char} (h : IdentifierBody body) : Unterminated (backtick :: body)
  | lineComment {body : List Char} (h : ∀ c ∈ body, ¬isLineBreak c) :
      Unterminated ('/' :: '/' :: body)
  | blockComment {body : List Char} (h : ¬blockEnd <:+: body) : Unterminated ('/' :: '*' :: body)

/-- The grammar: the segments of a text. -/
inductive Reads : List Char → List Segment → Prop
  | done : Reads [] []
  | code {c : Char} {rest : List Char} {segments : List Segment} (hq : ¬IsQuote c)
      (hb : c ≠ backtick) (hs : c = '/' → rest.head? ≠ some '/' ∧ rest.head? ≠ some '*')
      (tail : Reads rest segments) : Reads (c :: rest) (.code c :: segments)
  | string {quote : Char} {body rest : List Char} {segments : List Segment} (hq : IsQuote quote)
      (h : StringBody quote body) (tail : Reads rest segments) :
      Reads (quote :: (body ++ quote :: rest)) (.string quote body :: segments)
  | identifier {body rest : List Char} {segments : List Segment} (h : IdentifierBody body)
      (hr : rest.head? ≠ some backtick) (tail : Reads rest segments) :
      Reads (backtick :: (body ++ backtick :: rest)) (.identifier body :: segments)
  | lineComment {body rest : List Char} {ending : Char} {segments : List Segment}
      (h : ∀ c ∈ body, ¬isLineBreak c) (he : isLineBreak ending) (tail : Reads rest segments) :
      Reads ('/' :: '/' :: (body ++ ending :: rest)) (.lineComment (body ++ [ending]) :: segments)
  /-- The first end mark behind the opening one ends the comment. -/
  | blockComment {body rest : List Char} {segments : List Segment} (h : ¬blockEnd <:+: body)
      (tail : Reads rest segments) :
      Reads ('/' :: '*' :: (body ++ blockEnd ++ rest)) (.blockComment body :: segments)
  | unterminated {text : List Char} (h : Unterminated text) : Reads text [.unterminated text]

/-- The word character a segment holds; everything but such a character of code ends a run. -/
def Segment.wordChar? : Segment → Option Char
  | code c => if isWordChar c then some c else none
  | _ => none

/-- The maximal runs of word characters of code. -/
def Segment.words (segments : List Segment) : List (List Char) :=
  runs (segments.map Segment.wordChar?)

/-! ## Where a region ends

Each function splits what follows an opening mark into the inside of the region and what stands
behind its closing mark. -/

def prepend (front : List Char) (r : Option (List Char × List Char)) :
    Option (List Char × List Char) :=
  r.map fun (body, rest) => (front ++ body, rest)

def cutString (quote : Char) : List Char → Option (List Char × List Char)
  | [] => none
  | c :: rest =>
    if c = quote then some ([], rest)
    else if c = '\\' then
      match rest with
      | [] => none
      | d :: rest => prepend [c, d] (cutString quote rest)
    else prepend [c] (cutString quote rest)

def cutIdentifier : List Char → Option (List Char × List Char)
  | [] => none
  | c :: rest =>
    if c = backtick then
      match rest with
      | [] => some ([], [])
      | d :: rest =>
        if d = backtick then prepend [c, d] (cutIdentifier rest) else some ([], d :: rest)
    else prepend [c] (cutIdentifier rest)

def cutLine : List Char → Option (List Char × List Char)
  | [] => none
  | c :: rest => if isLineBreak c then some ([c], rest) else prepend [c] (cutLine rest)

def cutBlock : List Char → Option (List Char × List Char)
  | [] => none
  | c :: rest =>
    if blockEnd <+: c :: rest then some ([], rest.drop 1) else prepend [c] (cutBlock rest)

@[simp] theorem prepend_none (front : List Char) : prepend front none = none := rfl

@[simp] theorem prepend_some (front body rest : List Char) :
    prepend front (some (body, rest)) = some (front ++ body, rest) := rfl

theorem prepend_eq_some {front body rest : List Char} {r : Option (List Char × List Char)} :
    prepend front r = some (body, rest) ↔ ∃ b, r = some (b, rest) ∧ body = front ++ b := by
  unfold prepend
  constructor
  · intro h
    obtain ⟨⟨b, x⟩, rfl, hp⟩ := Option.map_eq_some_iff.1 h
    obtain ⟨rfl, rfl⟩ := Prod.mk.inj hp
    exact ⟨b, rfl, rfl⟩
  · rintro ⟨b, rfl, rfl⟩
    rfl

@[simp] theorem prepend_eq_none {front : List Char} {r : Option (List Char × List Char)} :
    prepend front r = none ↔ r = none := by simp [prepend]

/-! ### Strings -/

theorem cutString_cons (quote c : Char) (rest : List Char) :
    cutString quote (c :: rest) =
      if c = quote then some ([], rest)
      else if c = '\\' then
        match rest with
        | [] => none
        | d :: rest => prepend [c, d] (cutString quote rest)
      else prepend [c] (cutString quote rest) := by
  rw [cutString.eq_def]

theorem backslash_ne_quote {quote : Char} (hq : IsQuote quote) : '\\' ≠ quote := by
  rcases hq with rfl | rfl <;> decide

theorem cutString_closed {quote : Char} {body : List Char} (hq : IsQuote quote)
    (h : StringBody quote body) (rest : List Char) :
    cutString quote (body ++ quote :: rest) = some (body, rest) := by
  induction h with
  | nil => simp [cutString_cons]
  | plain hc hb _ ih => simp [cutString_cons, hc, hb, ih]
  | taken _ ih => simp [cutString_cons, backslash_ne_quote hq, ih]

theorem cutString_open {quote : Char} {body : List Char} (hq : IsQuote quote)
    (h : StringBody quote body) :
    cutString quote body = none ∧ cutString quote (body ++ ['\\']) = none := by
  induction h with
  | nil => simp [cutString, backslash_ne_quote hq]
  | plain hc hb _ ih => simp [cutString_cons, hc, hb, ih]
  | taken _ ih => simp [cutString_cons, backslash_ne_quote hq, ih]

theorem unterminated_of_cutString {quote : Char} {text : List Char} (hq : IsQuote quote)
    (h : cutString quote text = none) : Unterminated (quote :: text) := by
  have hbody : StringBody quote text ∨ ∃ body, StringBody quote body ∧ text = body ++ ['\\'] := by
    fun_induction cutString quote text with
    | case1 => exact .inl .nil
    | case2 rest => cases h
    | case3 hb => exact .inr ⟨[], .nil, rfl⟩
    | case4 d rest hb ih =>
      rcases ih (prepend_eq_none.1 h) with hr | ⟨body, hr, rfl⟩
      · exact .inl (.taken hr)
      · exact .inr ⟨_, .taken hr, rfl⟩
    | case5 d rest hq hb ih =>
      rcases ih (prepend_eq_none.1 h) with hr | ⟨body, hr, rfl⟩
      · exact .inl (.plain hq hb hr)
      · exact .inr ⟨_, .plain hq hb hr, rfl⟩
  rcases hbody with hr | ⟨body, hr, rfl⟩
  · exact .string hq hr
  · exact .taking hq hr

theorem stringBody_of_cutString {quote : Char} {text body rest : List Char}
    (h : cutString quote text = some (body, rest)) :
    StringBody quote body ∧ text = body ++ quote :: rest := by
  fun_induction cutString quote text generalizing body with
  | case1 => cases h
  | case2 tl =>
    obtain ⟨rfl, rfl⟩ := Prod.mk.inj (Option.some.inj h)
    exact ⟨.nil, rfl⟩
  | case3 hb => cases h
  | case4 d tl hb ih =>
    obtain ⟨b, hb, rfl⟩ := prepend_eq_some.1 h
    obtain ⟨hr, rfl⟩ := ih hb
    exact ⟨.taken hr, rfl⟩
  | case5 d tl hq hb ih =>
    obtain ⟨b, hb', rfl⟩ := prepend_eq_some.1 h
    obtain ⟨hr, rfl⟩ := ih hb'
    exact ⟨.plain hq hb hr, rfl⟩

/-! ### Quoted identifiers -/

theorem cutIdentifier_cons (c : Char) (rest : List Char) :
    cutIdentifier (c :: rest) =
      if c = backtick then
        match rest with
        | [] => some ([], [])
        | d :: rest =>
          if d = backtick then prepend [c, d] (cutIdentifier rest) else some ([], d :: rest)
      else prepend [c] (cutIdentifier rest) := by
  rw [cutIdentifier.eq_def]

theorem cutIdentifier_closed {body rest : List Char} (h : IdentifierBody body)
    (hr : rest.head? ≠ some backtick) :
    cutIdentifier (body ++ backtick :: rest) = some (body, rest) := by
  induction h with
  | nil => cases rest <;> simp_all [cutIdentifier_cons]
  | plain hc _ ih => simp [cutIdentifier_cons, hc, ih]
  | doubled _ ih => simp [cutIdentifier_cons, ih]

theorem cutIdentifier_open {body : List Char} (h : IdentifierBody body) :
    cutIdentifier body = none := by
  induction h with
  | nil => rfl
  | plain hc _ ih => simp [cutIdentifier_cons, hc, ih]
  | doubled _ ih => simp [cutIdentifier_cons, ih]

theorem identifierBody_of_cutIdentifier_none {text : List Char} (h : cutIdentifier text = none) :
    IdentifierBody text := by
  fun_induction cutIdentifier text with
  | case1 => exact .nil
  | case2 => cases h
  | case3 rest ih => exact .doubled (ih (prepend_eq_none.1 h))
  | case4 d rest hd => cases h
  | case5 c rest hc ih => exact .plain hc (ih (prepend_eq_none.1 h))

theorem identifierBody_of_cutIdentifier {text body rest : List Char}
    (h : cutIdentifier text = some (body, rest)) :
    IdentifierBody body ∧ rest.head? ≠ some backtick ∧ text = body ++ backtick :: rest := by
  fun_induction cutIdentifier text generalizing body with
  | case1 => cases h
  | case2 =>
    obtain ⟨rfl, rfl⟩ := Prod.mk.inj (Option.some.inj h)
    exact ⟨.nil, by simp, rfl⟩
  | case3 tl ih =>
    obtain ⟨b, hb, rfl⟩ := prepend_eq_some.1 h
    obtain ⟨hr, hn, rfl⟩ := ih hb
    exact ⟨.doubled hr, hn, rfl⟩
  | case4 d tl hd =>
    obtain ⟨rfl, rfl⟩ := Prod.mk.inj (Option.some.inj h)
    exact ⟨.nil, by simpa using hd, rfl⟩
  | case5 c tl hc ih =>
    obtain ⟨b, hb, rfl⟩ := prepend_eq_some.1 h
    obtain ⟨hr, hn, rfl⟩ := ih hb
    exact ⟨.plain hc hr, hn, rfl⟩

/-! ### Comments -/

theorem cutLine_closed {body : List Char} {ending : Char} (h : ∀ c ∈ body, ¬isLineBreak c)
    (he : isLineBreak ending) (rest : List Char) :
    cutLine (body ++ ending :: rest) = some (body ++ [ending], rest) := by
  induction body with
  | nil => simp [cutLine, he]
  | cons c body ih => simp [cutLine, h c, ih fun d hd => h d (List.mem_cons_of_mem _ hd)]

theorem cutLine_open {body : List Char} (h : ∀ c ∈ body, ¬isLineBreak c) : cutLine body = none := by
  induction body with
  | nil => rfl
  | cons c body ih => simp [cutLine, h c, ih fun d hd => h d (List.mem_cons_of_mem _ hd)]

theorem noBreak_of_cutLine_none {text : List Char} (h : cutLine text = none) :
    ∀ c ∈ text, ¬isLineBreak c := by
  fun_induction cutLine text with
  | case1 => simp
  | case2 c rest hc => cases h
  | case3 c rest hc ih => simpa [hc] using ih (prepend_eq_none.1 h)

theorem noBreak_of_cutLine {text body rest : List Char} (h : cutLine text = some (body, rest)) :
    ∃ inside ending, body = inside ++ [ending] ∧ (∀ c ∈ inside, ¬isLineBreak c) ∧
      isLineBreak ending ∧ text = inside ++ ending :: rest := by
  fun_induction cutLine text generalizing body with
  | case1 => cases h
  | case2 c tl hc =>
    obtain ⟨rfl, rfl⟩ := Prod.mk.inj (Option.some.inj h)
    exact ⟨[], c, rfl, by simp, hc, rfl⟩
  | case3 c tl hc ih =>
    obtain ⟨b, hb, rfl⟩ := prepend_eq_some.1 h
    obtain ⟨inside, e, rfl, hi, he, rfl⟩ := ih hb
    exact ⟨c :: inside, e, rfl, by simpa [hc] using hi, he, rfl⟩

theorem blockEnd_prefix_append_iff {c : Char} {body rest : List Char} :
    blockEnd <+: c :: (body ++ blockEnd ++ rest) ↔ blockEnd <+: c :: body := by
  cases body <;> simp [blockEnd, List.cons_prefix_cons]

theorem cutBlock_closed {body : List Char} (h : ¬blockEnd <:+: body) (rest : List Char) :
    cutBlock (body ++ blockEnd ++ rest) = some (body, rest) := by
  induction body with
  | nil => simp [cutBlock, blockEnd]
  | cons c body ih =>
    rw [List.infix_cons_iff, not_or] at h
    have hp : ¬blockEnd <+: c :: (body ++ blockEnd ++ rest) := fun hp =>
      h.1 (blockEnd_prefix_append_iff.1 hp)
    rw [List.cons_append, List.cons_append, cutBlock, if_neg hp, ih h.2]
    rfl

theorem cutBlock_open {body : List Char} (h : ¬blockEnd <:+: body) : cutBlock body = none := by
  induction body with
  | nil => rfl
  | cons c body ih =>
    rw [List.infix_cons_iff, not_or] at h
    simp [cutBlock, h.1, ih h.2]

theorem noBlockEnd_of_cutBlock_none {text : List Char} (h : cutBlock text = none) :
    ¬blockEnd <:+: text := by
  fun_induction cutBlock text with
  | case1 => simp [blockEnd]
  | case2 c rest hc => cases h
  | case3 c rest hc ih =>
    rw [List.infix_cons_iff, not_or]
    exact ⟨hc, ih (prepend_eq_none.1 h)⟩

theorem noBlockEnd_of_cutBlock {text body rest : List Char}
    (h : cutBlock text = some (body, rest)) :
    ¬blockEnd <:+: body ∧ text = body ++ blockEnd ++ rest := by
  fun_induction cutBlock text generalizing body with
  | case1 => cases h
  | case2 c tl hc =>
    obtain ⟨rfl, rfl⟩ := Prod.mk.inj (Option.some.inj h)
    obtain ⟨x, hx⟩ := hc
    obtain ⟨rfl, rfl⟩ := List.cons.inj hx
    exact ⟨by decide, rfl⟩
  | case3 c tl hc ih =>
    obtain ⟨b, hb, rfl⟩ := prepend_eq_some.1 h
    obtain ⟨hr, rfl⟩ := ih hb
    refine ⟨?_, rfl⟩
    rw [List.singleton_append, List.infix_cons_iff, not_or]
    exact ⟨fun hp => hc (blockEnd_prefix_append_iff.2 hp), hr⟩

/-! ## One reading of every text -/

/-- A text whose first region is cut off in one way has one reading when what stands behind the
region has one. -/
theorem existsUnique_of_cut {text : List Char} {cut : Option (List Char × List Char)}
    {region : List Char → Segment}
    (h : ∀ segments, Reads text segments ↔ (cut = none ∧ segments = [.unterminated text]) ∨
      ∃ body rest tail, cut = some (body, rest) ∧ segments = region body :: tail ∧ Reads rest tail)
    (ih : ∀ body rest, cut = some (body, rest) → ∃! tail, Reads rest tail) :
    ∃! segments, Reads text segments := by
  cases hc : cut with
  | none =>
    refine ⟨_, (h _).2 (.inl ⟨hc, rfl⟩), fun segments hs => ?_⟩
    rcases (h _).1 hs with ⟨-, hs⟩ | ⟨_, _, _, hs, -⟩
    · exact hs
    · simp [hc] at hs
  | some r =>
    obtain ⟨tail, ht, hu⟩ := ih r.1 r.2 hc
    refine ⟨region r.1 :: tail, (h _).2 (.inr ⟨r.1, r.2, tail, hc, rfl, ht⟩), fun segments hs => ?_⟩
    rcases (h _).1 hs with ⟨hn, -⟩ | ⟨body, rest, tail', hr, rfl, ht'⟩
    · simp [hc] at hn
    · obtain rfl := Option.some.inj (hc.symm.trans hr)
      rw [hu tail' ht']

theorem not_isQuote_backtick : ¬IsQuote backtick := by
  rintro (h | h) <;> exact absurd h (by decide)

theorem not_isQuote_slash : ¬IsQuote '/' := by
  rintro (h | h) <;> exact absurd h (by decide)

theorem reads_quote_iff {quote : Char} {text : List Char} {segments : List Segment}
    (hq : IsQuote quote) :
    Reads (quote :: text) segments ↔
      (cutString quote text = none ∧ segments = [.unterminated (quote :: text)]) ∨
      ∃ body rest tail, cutString quote text = some (body, rest) ∧
        segments = .string quote body :: tail ∧ Reads rest tail := by
  constructor
  · intro h
    cases h with
    | code hq' => exact absurd hq hq'
    | string _ h tail => exact .inr ⟨_, _, _, cutString_closed hq h _, rfl, tail⟩
    | identifier => exact absurd hq not_isQuote_backtick
    | lineComment => exact absurd hq not_isQuote_slash
    | blockComment => exact absurd hq not_isQuote_slash
    | unterminated h =>
      refine .inl ⟨?_, rfl⟩
      cases h with
      | string _ h => exact (cutString_open hq h).1
      | taking _ h => exact (cutString_open hq h).2
      | identifier => exact absurd hq not_isQuote_backtick
      | lineComment => exact absurd hq not_isQuote_slash
      | blockComment => exact absurd hq not_isQuote_slash
  · rintro (⟨h, rfl⟩ | ⟨body, rest, tail, h, rfl, ht⟩)
    · exact .unterminated (unterminated_of_cutString hq h)
    · obtain ⟨hb, rfl⟩ := stringBody_of_cutString h
      exact .string hq hb ht

theorem reads_backtick_iff {text : List Char} {segments : List Segment} :
    Reads (backtick :: text) segments ↔
      (cutIdentifier text = none ∧ segments = [.unterminated (backtick :: text)]) ∨
      ∃ body rest tail, cutIdentifier text = some (body, rest) ∧
        segments = .identifier body :: tail ∧ Reads rest tail := by
  constructor
  · intro h
    generalize hc : backtick :: text = whole at h
    cases h with
    | done => cases hc
    | code _ hb => exact absurd (List.cons.inj hc).1.symm hb
    | string hq => exact absurd ((List.cons.inj hc).1 ▸ hq) not_isQuote_backtick
    | identifier h hr tail =>
      obtain ⟨-, rfl⟩ := List.cons.inj hc
      exact .inr ⟨_, _, _, cutIdentifier_closed h hr, rfl, tail⟩
    | lineComment => exact absurd (List.cons.inj hc).1 (by decide)
    | blockComment => exact absurd (List.cons.inj hc).1 (by decide)
    | unterminated h =>
      subst hc
      refine .inl ⟨?_, rfl⟩
      generalize hc : backtick :: text = whole at h
      cases h with
      | string hq => exact absurd ((List.cons.inj hc).1 ▸ hq) not_isQuote_backtick
      | taking hq => exact absurd ((List.cons.inj hc).1 ▸ hq) not_isQuote_backtick
      | identifier h =>
        obtain ⟨-, rfl⟩ := List.cons.inj hc
        exact cutIdentifier_open h
      | lineComment => exact absurd (List.cons.inj hc).1 (by decide)
      | blockComment => exact absurd (List.cons.inj hc).1 (by decide)
  · rintro (⟨h, rfl⟩ | ⟨body, rest, tail, h, rfl, ht⟩)
    · exact .unterminated (.identifier (identifierBody_of_cutIdentifier_none h))
    · obtain ⟨hb, hr, rfl⟩ := identifierBody_of_cutIdentifier h
      exact .identifier hb hr ht

theorem reads_lineComment_iff {text : List Char} {segments : List Segment} :
    Reads ('/' :: '/' :: text) segments ↔
      (cutLine text = none ∧ segments = [.unterminated ('/' :: '/' :: text)]) ∨
      ∃ body rest tail, cutLine text = some (body, rest) ∧
        segments = .lineComment body :: tail ∧ Reads rest tail := by
  constructor
  · intro h
    generalize hc : '/' :: '/' :: text = whole at h
    cases h with
    | done => cases hc
    | code _ _ hs =>
      obtain ⟨rfl, rfl⟩ := List.cons.inj hc
      exact absurd rfl (hs rfl).1
    | string hq => exact absurd ((List.cons.inj hc).1 ▸ hq) not_isQuote_slash
    | identifier => exact absurd (List.cons.inj hc).1 (by decide)
    | lineComment h he tail =>
      obtain ⟨-, hc⟩ := List.cons.inj hc
      obtain ⟨-, rfl⟩ := List.cons.inj hc
      exact .inr ⟨_, _, _, cutLine_closed h he _, rfl, tail⟩
    | blockComment => exact absurd (List.cons.inj (List.cons.inj hc).2).1 (by decide)
    | unterminated h =>
      subst hc
      refine .inl ⟨?_, rfl⟩
      generalize hc : '/' :: '/' :: text = whole at h
      cases h with
      | string hq => exact absurd ((List.cons.inj hc).1 ▸ hq) not_isQuote_slash
      | taking hq => exact absurd ((List.cons.inj hc).1 ▸ hq) not_isQuote_slash
      | identifier => exact absurd (List.cons.inj hc).1 (by decide)
      | lineComment h =>
        obtain ⟨-, rfl⟩ := List.cons.inj (List.cons.inj hc).2
        exact cutLine_open h
      | blockComment => exact absurd (List.cons.inj (List.cons.inj hc).2).1 (by decide)
  · rintro (⟨h, rfl⟩ | ⟨body, rest, tail, h, rfl, ht⟩)
    · exact .unterminated (.lineComment (noBreak_of_cutLine_none h))
    · obtain ⟨inside, e, rfl, hi, he, rfl⟩ := noBreak_of_cutLine h
      exact .lineComment hi he ht

theorem reads_blockComment_iff {text : List Char} {segments : List Segment} :
    Reads ('/' :: '*' :: text) segments ↔
      (cutBlock text = none ∧ segments = [.unterminated ('/' :: '*' :: text)]) ∨
      ∃ body rest tail, cutBlock text = some (body, rest) ∧
        segments = .blockComment body :: tail ∧ Reads rest tail := by
  constructor
  · intro h
    generalize hc : '/' :: '*' :: text = whole at h
    cases h with
    | done => cases hc
    | code _ _ hs =>
      obtain ⟨rfl, rfl⟩ := List.cons.inj hc
      exact absurd rfl (hs rfl).2
    | string hq => exact absurd ((List.cons.inj hc).1 ▸ hq) not_isQuote_slash
    | identifier => exact absurd (List.cons.inj hc).1 (by decide)
    | lineComment => exact absurd (List.cons.inj (List.cons.inj hc).2).1 (by decide)
    | blockComment h tail =>
      obtain ⟨-, rfl⟩ := List.cons.inj (List.cons.inj hc).2
      exact .inr ⟨_, _, _, cutBlock_closed h _, rfl, tail⟩
    | unterminated h =>
      subst hc
      refine .inl ⟨?_, rfl⟩
      generalize hc : '/' :: '*' :: text = whole at h
      cases h with
      | string hq => exact absurd ((List.cons.inj hc).1 ▸ hq) not_isQuote_slash
      | taking hq => exact absurd ((List.cons.inj hc).1 ▸ hq) not_isQuote_slash
      | identifier => exact absurd (List.cons.inj hc).1 (by decide)
      | lineComment => exact absurd (List.cons.inj (List.cons.inj hc).2).1 (by decide)
      | blockComment h =>
        obtain ⟨-, rfl⟩ := List.cons.inj (List.cons.inj hc).2
        exact cutBlock_open h
  · rintro (⟨h, rfl⟩ | ⟨body, rest, tail, h, rfl, ht⟩)
    · exact .unterminated (.blockComment (noBlockEnd_of_cutBlock_none h))
    · obtain ⟨hb, rfl⟩ := noBlockEnd_of_cutBlock h
      exact .blockComment hb ht

theorem reads_code_iff {c : Char} {rest : List Char} {segments : List Segment} (hq : ¬IsQuote c)
    (hb : c ≠ backtick) (hs : c = '/' → rest.head? ≠ some '/' ∧ rest.head? ≠ some '*') :
    Reads (c :: rest) segments ↔ ∃ tail, segments = .code c :: tail ∧ Reads rest tail := by
  constructor
  · intro h
    cases h with
    | code _ _ _ tail => exact ⟨_, rfl, tail⟩
    | string hq' => exact absurd hq' hq
    | identifier => exact absurd rfl hb
    | lineComment => exact absurd rfl (hs rfl).1
    | blockComment => exact absurd rfl (hs rfl).2
    | unterminated h =>
      cases h with
      | string hq' => exact absurd hq' hq
      | taking hq' => exact absurd hq' hq
      | identifier => exact absurd rfl hb
      | lineComment => exact absurd rfl (hs rfl).1
      | blockComment => exact absurd rfl (hs rfl).2
  · rintro ⟨tail, rfl, ht⟩
    exact .code hq hb hs ht

/-- **Every text has exactly one reading.** -/
theorem existsUnique_reads (text : List Char) : ∃! segments, Reads text segments := by
  induction hn : text.length using Nat.strongRecOn generalizing text with
  | ind n ih =>
    -- What stands behind a region or a character is shorter, so its reading is unique by `ih`.
    cases text with
    | nil =>
      refine ⟨[], .done, fun segments h => ?_⟩
      cases h with
      | done => rfl
      | unterminated h => cases h
    | cons c text =>
      by_cases hq : IsQuote c
      · refine existsUnique_of_cut (fun _ => reads_quote_iff hq) fun body rest h => ih _ ?_ rest rfl
        rw [← hn, (stringBody_of_cutString h).2]
        simp
        omega
      by_cases hb : c = backtick
      · subst hb
        refine existsUnique_of_cut (fun _ => reads_backtick_iff) fun body rest h => ih _ ?_ rest rfl
        rw [← hn, (identifierBody_of_cutIdentifier h).2.2]
        simp
        omega
      by_cases hl : c = '/' ∧ text.head? = some '/'
      · obtain ⟨rfl, ht⟩ := hl
        obtain ⟨text, rfl⟩ := List.head?_eq_some_iff.1 ht
        refine existsUnique_of_cut (fun _ => reads_lineComment_iff) fun body rest h =>
          ih _ ?_ rest rfl
        obtain ⟨inside, e, -, -, -, ht⟩ := noBreak_of_cutLine h
        rw [← hn, ht]
        simp
        omega
      by_cases hk : c = '/' ∧ text.head? = some '*'
      · obtain ⟨rfl, ht⟩ := hk
        obtain ⟨text, rfl⟩ := List.head?_eq_some_iff.1 ht
        refine existsUnique_of_cut (fun _ => reads_blockComment_iff) fun body rest h =>
          ih _ ?_ rest rfl
        rw [← hn, (noBlockEnd_of_cutBlock h).2]
        simp
        omega
      have hs : c = '/' → text.head? ≠ some '/' ∧ text.head? ≠ some '*' :=
        fun hc => ⟨fun ht => hl ⟨hc, ht⟩, fun ht => hk ⟨hc, ht⟩⟩
      obtain ⟨tail, ht, hu⟩ := ih text.length (by simp [← hn]) text rfl
      refine ⟨.code c :: tail, (reads_code_iff hq hb hs).2 ⟨tail, rfl, ht⟩, fun segments h => ?_⟩
      obtain ⟨tail', rfl, ht'⟩ := (reads_code_iff hq hb hs).1 h
      rw [hu tail' ht']

/-! ## Words -/

/-- A text read from one place to another that leaves no mark. -/
structure Silent (p : Place) (text : List Char) (q : Place) : Prop where
  after_eq : after p text = q
  row_eq : row p text = List.replicate text.length none

theorem Silent.append {p q r : Place} {a b : List Char} (ha : Silent p a q) (hb : Silent q b r) :
    Silent p (a ++ b) r where
  after_eq := by rw [after_append, ha.after_eq, hb.after_eq]
  row_eq := by
    rw [row_append, ha.after_eq, ha.row_eq, hb.row_eq, List.replicate_append_replicate,
      List.length_append]

theorem Silent.cons {p q : Place} {c : Char} {text : List Char} (hm : p.mark c = none)
    (h : Silent (p.step c) text q) : Silent p (c :: text) q where
  after_eq := h.after_eq
  row_eq := by rw [row_cons, hm, h.row_eq, List.length_cons, List.replicate_succ]

theorem Silent.nil (p : Place) : Silent p [] p := ⟨rfl, rfl⟩

/-- A region between words ends the one before it and takes no part in the one behind it. -/
theorem runs_region_append {q : Place} {region rest : List Char} {segments : List Segment}
    (h : Silent .code region q) (hne : region ≠ []) (s : Segment) (hs : s.wordChar? = none)
    (hrest : runs (row q rest) = runs (segments.map Segment.wordChar?))
    (word : List Char) :
    runs (word.map some ++ row .code (region ++ rest)) =
      runs (word.map some ++ (s :: segments).map Segment.wordChar?) := by
  obtain ⟨n, hn⟩ : ∃ n, region.length = n + 1 :=
    ⟨region.length - 1, by have := List.length_pos_iff.2 hne; omega⟩
  rw [row_append, h.row_eq, h.after_eq, hn, List.replicate_succ, List.cons_append,
    runs_append_none, runs_replicate_none_append, List.map_cons, hs, runs_append_none, hrest]

theorem mark_punctuation {c : Char} (h : c ∈ ['/', '*', '\'', '"', backtick]) (p : Place) :
    p.mark c = none := by
  have hw : ∀ c ∈ ['/', '*', '\'', '"', backtick], isWordChar c = false :=
    eq_false_of_any (by decide)
  exact mark_eq_none (by simp [hw c h])

theorem silent_string {quote : Char} {body : List Char} (hq : IsQuote quote)
    (h : StringBody quote body) :
    Silent (Place.code.step quote) body (Place.code.step quote) := by
  rcases hq with rfl | rfl <;> induction h with
  | nil => exact .nil _
  | plain hc hb _ ih =>
    refine .cons (mark_of_not_inCode rfl _) ?_
    simpa [Place.step, Place.fromCode, hc, hb] using ih
  | taken _ ih =>
    refine .cons (mark_of_not_inCode rfl _) (.cons (mark_of_not_inCode rfl _) ?_)
    simpa [Place.step, Place.fromCode] using ih

theorem silent_identifier {body : List Char} (h : IdentifierBody body) :
    Silent .backticked body .backticked := by
  induction h with
  | nil => exact .nil _
  | plain hc _ ih => exact .cons rfl (by simpa [Place.step, hc] using ih)
  | doubled _ ih =>
    refine .cons rfl (.cons (mark_punctuation (by decide) _) ?_)
    simpa [Place.step] using ih

theorem silent_line {body : List Char} (h : ∀ c ∈ body, ¬isLineBreak c) :
    Silent .line body .line := by
  induction body with
  | nil => exact .nil _
  | cons c body ih =>
    have hc : isLineBreak c = false := by simpa using h c List.mem_cons_self
    refine .cons rfl ?_
    simpa [Place.step, hc] using ih fun d hd => h d (List.mem_cons_of_mem _ hd)

theorem silent_block {body : List Char} (h : ¬blockEnd <:+: body) :
    (∃ p ∈ [Place.block, .star], Silent .block body p) ∧
      (body.head? ≠ some '/' → ∃ p ∈ [Place.block, .star], Silent .star body p) := by
  induction body with
  | nil => exact ⟨⟨.block, by simp, .nil _⟩, fun _ => ⟨.star, by simp, .nil _⟩⟩
  | cons c body ih =>
    rw [List.infix_cons_iff, not_or] at h
    have key : ∀ p : Place, p.inCode = false → p.step c = (if c = '*' then .star else .block) →
        ∃ q ∈ [Place.block, .star], Silent p (c :: body) q := by
      intro p hp hs
      by_cases hc : c = '*'
      · have hd : body.head? ≠ some '/' := by
          intro hd
          obtain ⟨tl, rfl⟩ := List.head?_eq_some_iff.1 hd
          exact h.1 ⟨tl, by simp [blockEnd, hc]⟩
        obtain ⟨q, hq, hsil⟩ := (ih h.2).2 hd
        exact ⟨q, hq, .cons (mark_of_not_inCode hp c) (by rwa [hs, if_pos hc])⟩
      · obtain ⟨q, hq, hsil⟩ := (ih h.2).1
        exact ⟨q, hq, .cons (mark_of_not_inCode hp c) (by rwa [hs, if_neg hc])⟩
    refine ⟨key .block rfl rfl, fun hd => key .star rfl ?_⟩
    have hc : c ≠ '/' := by simpa using hd
    simp [Place.step, hc]

theorem silent_quote {quote : Char} (hq : IsQuote quote) :
    Silent .code [quote] (Place.code.step quote) ∧
      Silent (Place.code.step quote) [quote] .code := by
  rcases hq with rfl | rfl <;> exact ⟨⟨rfl, rfl⟩, ⟨rfl, rfl⟩⟩

/-- A region that is never closed leaves no mark. -/
theorem silent_unterminated {text : List Char} (h : Unterminated text) :
    ∃ p, Silent .code text p := by
  cases h with
  | string hq h => exact ⟨_, (silent_quote hq).1.append (silent_string hq h)⟩
  | @taking quote body hq h =>
    have hm : (Place.code.step quote).mark '\\' = none :=
      mark_of_not_inCode (by rcases hq with rfl | rfl <;> rfl) _
    exact ⟨_, ((silent_quote hq).1.append (silent_string hq h)).append (.cons hm (.nil _))⟩
  | identifier h => exact ⟨_, (show Silent .code [backtick] .backticked from ⟨rfl, rfl⟩).append
      (silent_identifier h)⟩
  | lineComment h => exact ⟨_, (show Silent .code ['/', '/'] .line from ⟨rfl, rfl⟩).append
      (silent_line h)⟩
  | blockComment h =>
    obtain ⟨p, -, hp⟩ := (silent_block h).1
    exact ⟨p, (show Silent .code ['/', '*'] .block from ⟨rfl, rfl⟩).append hp⟩

/-- In front of what cannot complete a pair, a slash is a character of code like any other, and so is
the backtick that ends an identifier. -/
theorem row_slash {rest : List Char} (h₁ : rest.head? ≠ some '/') (h₂ : rest.head? ≠ some '*') :
    row .slash rest = row .code rest := by
  cases rest with
  | nil => rfl
  | cons d rest => rw [row_cons, row_cons, slash_step (by simpa using h₁) (by simpa using h₂)]; rfl

theorem row_closing {rest : List Char} (h : rest.head? ≠ some backtick) :
    row .closing rest = row .code rest := by
  cases rest with
  | nil => rfl
  | cons d rest => rw [row_cons, row_cons, closing_step (by simpa using h)]; rfl

/-- The words so far and those of the rest of a text are the runs of its segments. -/
theorem runs_row_of_reads {text : List Char} {segments : List Segment} (h : Reads text segments)
    (word : List Char) :
    runs (word.map some ++ row .code text) =
      runs (word.map some ++ segments.map Segment.wordChar?) := by
  induction h generalizing word with
  | done => rfl
  | @code c rest segments hq hb hs tail ih =>
    have hq₁ : c ≠ '\'' := fun e => hq (.inl e)
    have hq₂ : c ≠ '"' := fun e => hq (.inr e)
    have hrow : row (Place.code.step c) rest = row .code rest := by
      by_cases hc : c = '/'
      · rw [hc]
        exact row_slash (hs hc).1 (hs hc).2
      · simp [Place.step, Place.fromCode, hc, hq₁, hq₂, hb]
    rw [row_cons, hrow, List.map_cons]
    by_cases hw : isWordChar c
    · simpa [Place.mark, Place.inCode, Segment.wordChar?, hw] using ih (word ++ [c])
    · rw [mark_eq_none hw, Segment.wordChar?, if_neg hw, runs_append_none, runs_append_none]
      congr 1
      exact ih []
  | @string quote body rest segments hq h tail ih =>
    have hs := ((silent_quote hq).1.append (silent_string hq h)).append (silent_quote hq).2
    simpa using runs_region_append hs (by simp) (.string quote body) rfl (ih []) word
  | @identifier body rest segments h hr tail ih =>
    have ho : Silent .code [backtick] .backticked := ⟨rfl, rfl⟩
    have hc : Silent .backticked [backtick] .closing := ⟨rfl, rfl⟩
    have hrest := ih []
    rw [← row_closing hr] at hrest
    simpa using runs_region_append ((ho.append (silent_identifier h)).append hc) (by simp)
      (.identifier body) rfl hrest word
  | @lineComment body rest ending segments h he tail ih =>
    have ho : Silent .code ['/', '/'] .line := ⟨rfl, rfl⟩
    have hc : Silent .line [ending] .code := ⟨by simp [Place.step, he], rfl⟩
    simpa using runs_region_append ((ho.append (silent_line h)).append hc) (by simp)
      (.lineComment (body ++ [ending])) rfl (ih []) word
  | @blockComment body rest segments h tail ih =>
    have ho : Silent .code ['/', '*'] .block := ⟨rfl, rfl⟩
    obtain ⟨p, hp, hb⟩ := (silent_block h).1
    have hc : Silent p blockEnd .code := by
      simp only [List.mem_cons, List.not_mem_nil, or_false] at hp
      rcases hp with rfl | rfl <;> exact ⟨rfl, rfl⟩
    simpa using runs_region_append ((ho.append hb).append hc) (by simp) (.blockComment body) rfl
      (ih []) word
  | @unterminated text h =>
    obtain ⟨p, hp⟩ := silent_unterminated h
    have hne : text ≠ [] := by rintro rfl; cases h
    have hrest : runs (row p []) = runs (([] : List Segment).map Segment.wordChar?) := rfl
    simpa using runs_region_append hp hne (.unterminated text) rfl hrest word

theorem codeWords_of_reads {text : List Char} {segments : List Segment}
    (h : Reads text segments) : codeWords text = Segment.words segments := by
  rw [codeWords_eq_runs]
  exact runs_row_of_reads h []

/-! ## The verdict on plain queries -/

/-- No escape begins anywhere in the query, and it holds no invisible character. -/
structure IsPlain (query : List Char) : Prop where
  escapeFree : EscapeFree query
  visible : ∀ c ∈ query, isInvisible c = false

theorem isPlain_of_not_mem {query : List Char} (hb : '\\' ∉ query)
    (hv : query.any isInvisible = false) : IsPlain query :=
  ⟨escapeFree_of_not_mem hb, eq_false_of_any hv⟩

theorem writeKeyword?_of_isPlain {query : List Char} (h : IsPlain query) :
    writeKeyword? query = deniedWord? query := by
  unfold writeKeyword? Reading.all
  simp only [List.findSome?_cons, normalize_of_escapeFree h.escapeFree h.visible]
  cases deniedWord? query <;> rfl

/-- **Words and verdict follow the grammar.** Every text has exactly one reading as segments, and its
words are the maximal runs of word characters of code in that reading. The verdict on a plain query is
the keyword of the first denied one among them; the query passes when none is denied, whatever its
strings, identifiers, comments and unterminated regions hold. -/
theorem reading_determines_verdict (query : List Char) :
    (∃! segments, Reads query segments) ∧
      ∀ segments, Reads query segments →
        codeWords query = Segment.words segments ∧
        (IsPlain query →
          writeKeyword? query = (Segment.words segments).findSome? WriteKeyword.deniedBy? ∧
          (isReadOnly query = true ↔
            ∀ word ∈ Segment.words segments, WriteKeyword.deniedBy? word = none)) := by
  refine ⟨existsUnique_reads query, fun segments h => ⟨codeWords_of_reads h, fun hp => ?_⟩⟩
  have hv : writeKeyword? query = (Segment.words segments).findSome? WriteKeyword.deniedBy? := by
    rw [writeKeyword?_of_isPlain hp, deniedWord?, codeWords_of_reads h]
  refine ⟨hv, ?_⟩
  rw [isReadOnly, hv, Option.isNone_iff_eq_none, List.findSome?_eq_none_iff]

/-- A comment that only seems to end at once, a string, and a keyword behind a digit. -/
def mixedQuery : List Char := "n/*/SET*/'DROP'1merge".toList

theorem mixedQuery_verdict :
    Reads mixedQuery (.code 'n' :: .blockComment "/SET".toList :: .string '\'' "DROP".toList ::
        "1merge".toList.map .code) ∧
      IsPlain mixedQuery ∧ writeKeyword? mixedQuery = some .merge := by
  have hcode : Reads "1merge".toList ("1merge".toList.map .code) := by
    refine .code ?_ ?_ ?_ (.code ?_ ?_ ?_ (.code ?_ ?_ ?_ (.code ?_ ?_ ?_ (.code ?_ ?_ ?_
      (.code ?_ ?_ ?_ .done))))) <;> decide
  have hstring : Reads "'DROP'1merge".toList
      (.string '\'' "DROP".toList :: "1merge".toList.map .code) := by
    have hbody : StringBody '\'' "DROP".toList := by
      refine .plain ?_ ?_ (.plain ?_ ?_ (.plain ?_ ?_ (.plain ?_ ?_ .nil))) <;> decide
    exact .string (.inl rfl) hbody hcode
  have h : Reads mixedQuery (.code 'n' :: .blockComment "/SET".toList ::
      .string '\'' "DROP".toList :: "1merge".toList.map .code) := by
    have hbody : ¬blockEnd <:+: "/SET".toList := by decide
    exact .code (by decide) (by decide) (by decide) (.blockComment hbody hstring)
  have hp : IsPlain mixedQuery :=
    ⟨escapeFree_of_not_mem (by decide), eq_false_of_any (by decide +kernel)⟩
  refine ⟨h, hp, ?_⟩
  rw [(((reading_determines_verdict mixedQuery).2 _ h).2 hp).1]
  decide +kernel

end WikiGraph.Query
