import WikiGraph.Proofs.Json.Numeral
/-!
# Cutting a written value into tokens

The text of a value is cut into the tokens of the value (`lexes_render`). Behind a numeral or a word
the machine does not know yet that the token has ended; it finds out with the character that
follows, or at the end of the text. `Lexes` speaks of texts that may end so, and `Cuts` of those
behind which nothing is left to find out.

A text between quotes is read as the text that was written (`cuts_renderText`), and a number as the
number, if its numeral stands for it (`JsonNumber.ReadsBack`). Every whole number that fits does.
-/
namespace WikiGraph

/-- The numeral that a number is written as stands for that number. -/
def JsonNumber.ReadsBack (n : JsonNumber) : Prop :=
  (Numeral.ofText? (Json.renderNumber n)).bind Numeral.toNumber? = some n

theorem JsonNumber.readsBack_integer {n : Int} (h : Json.Fits n) :
    (JsonNumber.integer n).ReadsBack :=
  Json.toNumber?_renderInt h

namespace Json

/-! ## Folds that may fail -/

section Folds

variable {σ α : Type} {f : σ → α → Option σ} {s s' : σ}

theorem foldlM_append_of_some {a : List α} (h : a.foldlM f s = some s') (b : List α) :
    (a ++ b).foldlM f s = b.foldlM f s' := by
  rw [List.foldlM_append, h]
  rfl

theorem foldlM_cons_of_some {a : α} (h : f s a = some s') (b : List α) :
    (a :: b).foldlM f s = b.foldlM f s' := by
  rw [List.foldlM_cons, h]
  rfl

/-- What every step keeps holds of the result, if there is one. -/
theorem foldlM_induction {P : σ → Prop} {l : List α}
    (hstep : ∀ s, ∀ a ∈ l, ∀ s', P s → f s a = some s' → P s') (hs : P s)
    (h : l.foldlM f s = some s') : P s' := by
  induction l generalizing s with
  | nil =>
    cases h
    exact hs
  | cons a rest ih =>
    rw [List.foldlM_cons] at h
    obtain ⟨next, hnext, hrest⟩ := Option.bind_eq_some_iff.1 h
    exact ih (fun s b hb => hstep s b (List.mem_cons_of_mem a hb))
      (hstep s a List.mem_cons_self next hs hnext) hrest

end Folds

/-! ## Numbers and tokens of a value -/

mutual
def numbers : Json → List JsonNumber
  | number n => [n]
  | array items => numbersOfItems items
  | object members => numbersOfMembers members
  | _ => []

def numbersOfItems : List Json → List JsonNumber
  | [] => []
  | j :: rest => j.numbers ++ numbersOfItems rest

def numbersOfMembers : List (String × Json) → List JsonNumber
  | [] => []
  | (_, j) :: rest => j.numbers ++ numbersOfMembers rest
end

mutual
/-- The tokens of a value. -/
def tokensOf : Json → List Token
  | null => [.null]
  | bool b => [.bool b]
  | number n => [.number (some n)]
  | string s => [.string (some s)]
  | array items => [.openArray] ++ tokensOfItems items ++ [.closeArray]
  | object members => [.openObject] ++ tokensOfMembers members ++ [.closeObject]
  | unreadable => [.null]

def tokensOfItems : List Json → List Token
  | [] => []
  | [j] => j.tokensOf
  | j :: rest => j.tokensOf ++ [.comma] ++ tokensOfItems rest

def tokensOfMembers : List (String × Json) → List Token
  | [] => []
  | [(k, j)] => [.string (some k)] ++ [.colon] ++ j.tokensOf
  | (k, j) :: rest =>
    [.string (some k)] ++ [.colon] ++ j.tokensOf ++ [.comma] ++ tokensOfMembers rest
end

/-! ## Texts that are cut -/

/-- The tokens found if the text ends here, the last one first. -/
def Lexing.settled? (s : Lexing) : Option (List Token) :=
  match s.mode with
  | .between => some s.tokens
  | .numeral chars => (numeralToken? chars).map (· :: s.tokens)
  | .word chars => (wordToken? chars).map (· :: s.tokens)
  | _ => none

theorem Lexing.finish?_eq (s : Lexing) : s.finish? = s.settled?.map List.reverse := by
  unfold finish? settled?
  cases s.mode <;> simp [Option.map_map, Function.comp_def]

/-- Behind tokens that the text may end with, a character that belongs to no numeral or word is read
as the first of a token. -/
theorem lexStep_of_settled {s : Lexing} {ts : List Token} {c : Char} (h : s.settled? = some ts)
    (hnumeral : isNumeralChar c = false) (hlower : c.isLower = false) :
    lexStep s c = lexBetween ts c := by
  obtain ⟨mode, tokens⟩ := s
  cases mode with
  | between =>
    cases h
    rfl
  | numeral chars =>
    obtain ⟨t, ht, rfl⟩ := Option.map_eq_some_iff.1 h
    simp [lexStep, hnumeral, ht]
  | word chars =>
    obtain ⟨t, ht, rfl⟩ := Option.map_eq_some_iff.1 h
    simp [lexStep, hlower, ht]
  | text units => cases h
  | escape units => cases h
  | code units digits => cases h

/-- The text is cut into the tokens, the last of which may still go on. -/
def Lexes (text : List Char) (tokens : List Token) : Prop :=
  ∀ ts, ∃ s, text.foldlM lexStep ⟨.between, ts⟩ = some s ∧ s.settled? = some (tokens.reverse ++ ts)

/-- The text is cut into the tokens, and the last of them has ended. -/
def Cuts (text : List Char) (tokens : List Token) : Prop :=
  ∀ ts, text.foldlM lexStep ⟨.between, ts⟩ = some ⟨.between, tokens.reverse ++ ts⟩

variable {a b : List Char} {s t : List Token}

theorem Cuts.lexes (h : Cuts a s) : Lexes a s := fun ts => ⟨_, h ts, rfl⟩

theorem cuts_nil : Cuts [] [] := fun _ => rfl

theorem Cuts.append (ha : Cuts a s) (hb : Cuts b t) : Cuts (a ++ b) (s ++ t) := by
  intro ts
  rw [List.foldlM_append, ha ts, List.reverse_append, List.append_assoc]
  exact hb _

theorem Cuts.lexes_append (ha : Cuts a s) (hb : Lexes b t) : Lexes (a ++ b) (s ++ t) := by
  intro ts
  obtain ⟨state, hfold, hsettled⟩ := hb (s.reverse ++ ts)
  refine ⟨state, ?_, ?_⟩
  · rw [List.foldlM_append, ha ts]
    exact hfold
  · rw [hsettled, List.reverse_append, List.append_assoc]

/-- A character that is a token by itself. -/
structure Punctuation (c : Char) (t : Token) : Prop where
  between : ∀ ts, lexBetween ts c = some ⟨.between, t :: ts⟩
  notNumeral : isNumeralChar c = false
  notLower : c.isLower = false

theorem punctuation_openArray : Punctuation '[' .openArray := ⟨fun _ => rfl, rfl, rfl⟩

theorem punctuation_closeArray : Punctuation ']' .closeArray := ⟨fun _ => rfl, rfl, rfl⟩

theorem punctuation_openObject : Punctuation '\x7b' .openObject := ⟨fun _ => rfl, rfl, rfl⟩

theorem punctuation_closeObject : Punctuation '\x7d' .closeObject := ⟨fun _ => rfl, rfl, rfl⟩

theorem punctuation_comma : Punctuation ',' .comma := ⟨fun _ => rfl, rfl, rfl⟩

theorem punctuation_colon : Punctuation ':' .colon := ⟨fun _ => rfl, rfl, rfl⟩

theorem Punctuation.cuts {c : Char} {t : Token} (h : Punctuation c t) : Cuts [c] [t] := by
  intro ts
  rw [List.foldlM_cons, lexStep, h.between]
  rfl

/-- Such a character ends the token before it. -/
theorem Lexes.punctuated {c : Char} {p : Token} (h : Lexes a s) (hc : Punctuation c p) :
    Cuts (a ++ [c]) (s ++ [p]) := by
  intro ts
  obtain ⟨state, hfold, hsettled⟩ := h ts
  rw [List.foldlM_append, hfold, List.reverse_append]
  simp only [Option.bind_eq_bind, Option.bind_some, List.foldlM_cons, List.foldlM_nil]
  rw [lexStep_of_settled hsettled hc.notNumeral hc.notLower, hc.between]
  rfl

theorem tokens?_of_lexes (h : Lexes a s) : tokens? a = some s := by
  obtain ⟨state, hfold, hsettled⟩ := h []
  rw [tokens?, hfold, Option.bind_some, Lexing.finish?_eq, hsettled, List.append_nil,
    Option.map_some, List.reverse_reverse]

/-! ## Words and numbers -/

theorem lexes_null : Lexes "null".toList [.null] := fun _ => ⟨_, rfl, rfl⟩

theorem lexes_true : Lexes "true".toList [.bool true] := fun _ => ⟨_, rfl, rfl⟩

theorem lexes_false : Lexes "false".toList [.bool false] := fun _ => ⟨_, rfl, rfl⟩

/-- Numeral characters are collected. -/
theorem foldlM_numeral {text : List Char} (h : Written text) (chars : List Char) (ts : List Token) :
    text.foldlM lexStep ⟨.numeral chars, ts⟩ = some ⟨.numeral (text.reverse ++ chars), ts⟩ := by
  induction text generalizing chars with
  | nil => rfl
  | cons c rest ih =>
    have hc : isNumeralChar c := h c List.mem_cons_self
    rw [List.foldlM_cons]
    simp only [lexStep, hc, if_true, Option.bind_eq_bind, Option.bind_some]
    rw [ih fun d hd => h d (List.mem_cons_of_mem c hd), List.reverse_cons, List.append_assoc,
      List.singleton_append]

/-- A digit or a minus sign is the beginning of a numeral. -/
theorem lexBetween_numeral {c : Char} (h : c.isDigit ∨ c = '-') (ts : List Token) :
    lexBetween ts c = some ⟨.numeral [c], ts⟩ := by
  rcases h with hd | rfl
  · have hblank : isBlank c = false := by
      by_contra hb
      simp only [isBlank, Bool.not_eq_false, Bool.or_eq_true, decide_eq_true_eq] at hb
      rcases hb with ((rfl | rfl) | rfl) | rfl <;> exact absurd hd (by decide)
    unfold lexBetween
    split
    case h_8 => simp [hblank, hd]
    all_goals exact absurd hd (by decide)
  · rfl

/-- **A number is cut out as the number**, if its numeral stands for it. -/
theorem lexes_renderNumber {n : JsonNumber} (h : n.ReadsBack) :
    Lexes (renderNumber n) [.number (some n)] := by
  intro ts
  obtain ⟨numeral, hread, hnumber⟩ := Option.bind_eq_some_iff.1 h
  obtain ⟨hwritten, c, rest, htext, hc⟩ := written_of_ofText? hread
  refine ⟨⟨.numeral (renderNumber n).reverse, ts⟩, ?_, ?_⟩
  · rw [htext] at hwritten ⊢
    rw [List.foldlM_cons]
    simp only [lexStep, lexBetween_numeral hc, Option.bind_eq_bind, Option.bind_some]
    rw [foldlM_numeral fun d hd => hwritten d (List.mem_cons_of_mem c hd), List.reverse_cons]
  · simp [Lexing.settled?, numeralToken?, hread, hnumber]

/-! ## Texts -/

/-- What a character is read as between quotes: a control character without a letter of its own as
its code, any other as itself. -/
def unitOf (c : Char) : TextUnit :=
  match c with
  | '"' | '\\' | '\x08' | '\x0c' | '\n' | '\r' | '\t' => .char c
  | _ => if c.toNat < 0x20 then .code c.toNat else .char c

theorem hexValue?_hexDigit {n : Nat} (h : n < 16) : Text.hexValue? (hexDigit n) = some n := by
  have hall : ∀ n < 16, Text.hexValue? (hexDigit n) = some n := by decide
  exact hall n h

/-- Four digits are collected and read as one code. -/
theorem foldlM_code {n : Nat} (h : n < 0x20) (units : List TextUnit) (ts : List Token) :
    ['u', '0', '0', hexDigit (n / 16), hexDigit (n % 16)].foldlM lexStep ⟨.escape units, ts⟩ =
      some ⟨.text (.code n :: units), ts⟩ := by
  have hhigh : Text.hexValue? (hexDigit (n / 16)) = some (n / 16) := hexValue?_hexDigit (by omega)
  have hlow : Text.hexValue? (hexDigit (n % 16)) = some (n % 16) := hexValue?_hexDigit (by omega)
  have hzero : Text.hexValue? '0' = some 0 := rfl
  have hsum : n / 16 * 16 + n % 16 = n := by omega
  simp [lexStep, Text.hexQuad?, hhigh, hlow, hzero, hsum]

/-- **What is written of a character is read as the character**, or as its code. -/
theorem foldlM_escapedForm (c : Char) (units : List TextUnit) (ts : List Token) :
    (escapedForm c).foldlM lexStep ⟨.text units, ts⟩ = some ⟨.text (unitOf c :: units), ts⟩ := by
  unfold escapedForm
  split
  case h_8 hquote hbackslash _ _ _ _ _ =>
    have hunit : unitOf c = if c.toNat < 0x20 then .code c.toNat else .char c := by
      unfold unitOf
      split <;> first | rfl | contradiction
    rw [hunit]
    by_cases hc : c.toNat < 0x20
    · rw [if_pos hc, if_pos hc, List.foldlM_cons]
      exact foldlM_code hc units ts
    · rw [if_neg hc, if_neg hc]
      rw [List.foldlM_cons, lexStep]
      simp only
      rw [if_neg hquote, if_neg hbackslash, if_neg hc]
      rfl
  all_goals rfl

theorem foldlM_text (text : List Char) (units : List TextUnit) (ts : List Token) :
    (text.flatMap escapedForm).foldlM lexStep ⟨.text units, ts⟩ =
      some ⟨.text ((text.map unitOf).reverse ++ units), ts⟩ := by
  induction text generalizing units with
  | nil => rfl
  | cons c rest ih =>
    rw [List.flatMap_cons, List.foldlM_append, foldlM_escapedForm]
    simp only [Option.bind_eq_bind, Option.bind_some]
    rw [ih, List.map_cons, List.reverse_cons, List.append_assoc, List.singleton_append]

theorem charOfCode?_toNat (c : Char) : Text.charOfCode? c.toNat = some c := by
  have hvalid : c.toNat.isValidChar := c.valid
  unfold Text.charOfCode?
  rw [dif_pos hvalid]
  rfl

theorem unitOf_eq (c : Char) : unitOf c = .char c ∨ unitOf c = .code c.toNat := by
  unfold unitOf
  split
  case h_8 =>
    split
    · exact .inr rfl
    · exact .inl rfl
  all_goals exact .inl rfl

/-- The units of a text have its characters. -/
theorem charsOfUnits?_map_unitOf (text : List Char) :
    charsOfUnits? (text.map unitOf) = some text := by
  induction text with
  | nil => rfl
  | cons c rest ih =>
    rw [List.map_cons]
    rcases unitOf_eq c with h | h
    · rw [h, charsOfUnits?, ih, Option.map_some]
    · rw [h, charsOfUnits?.eq_def]
      simp only [charOfCode?_toNat, ih, Option.map_some]

/-- **A text is cut out as the text.** -/
theorem cuts_renderText (s : String) : Cuts (renderText s) [.string (some s)] := by
  intro ts
  unfold renderText
  rw [List.append_assoc, List.singleton_append, List.foldlM_cons]
  simp only [lexStep, lexBetween, Option.bind_eq_bind, Option.bind_some]
  rw [List.foldlM_append, foldlM_text]
  simp [lexStep, textToken, charsOfUnits?_map_unitOf]

/-! ## Values -/

mutual
/-- **The text of a value is cut into the tokens of the value**, if nothing in it is unreadable and
its numbers read back. -/
theorem lexes_render : ∀ j : Json, j.readable → (∀ n ∈ j.numbers, n.ReadsBack) →
    Lexes j.render j.tokensOf
  | null, _, _ => lexes_null
  | bool true, _, _ => lexes_true
  | bool false, _, _ => lexes_false
  | number n, _, hn => lexes_renderNumber (hn n (List.mem_singleton_self n))
  | string s, _, _ => (cuts_renderText s).lexes
  | array items, hr, hn =>
    ((punctuation_openArray.cuts.lexes_append (lexes_renderItems items hr hn)).punctuated
      punctuation_closeArray).lexes
  | object members, hr, hn =>
    ((punctuation_openObject.cuts.lexes_append (lexes_renderMembers members hr hn)).punctuated
      punctuation_closeObject).lexes

theorem lexes_renderItems : ∀ items : List Json, readableItems items →
    (∀ n ∈ numbersOfItems items, n.ReadsBack) → Lexes (renderItems items) (tokensOfItems items)
  | [], _, _ => cuts_nil.lexes
  | [j], hr, hn => lexes_render j (by simp_all [readableItems]) (by simp_all [numbersOfItems])
  | j :: k :: rest, hr, hn =>
    ((lexes_render j (Bool.and_eq_true_iff.1 hr).1 fun n h =>
      hn n (List.mem_append_left _ h)).punctuated punctuation_comma).lexes_append
      (lexes_renderItems (k :: rest) (Bool.and_eq_true_iff.1 hr).2 fun n h =>
        hn n (List.mem_append_right _ h))

theorem lexes_renderMembers : ∀ members : List (String × Json), readableMembers members →
    (∀ n ∈ numbersOfMembers members, n.ReadsBack) →
    Lexes (renderMembers members) (tokensOfMembers members)
  | [], _, _ => cuts_nil.lexes
  | [(k, j)], hr, hn =>
    ((cuts_renderText k).append punctuation_colon.cuts).lexes_append
      (lexes_render j (by simp_all [readableMembers]) (by simp_all [numbersOfMembers]))
  | (k, j) :: m :: rest, hr, hn =>
    ((((cuts_renderText k).append punctuation_colon.cuts).lexes_append
      (lexes_render j (Bool.and_eq_true_iff.1 hr).1 fun n h =>
        hn n (List.mem_append_left _ h))).punctuated punctuation_comma).lexes_append
      (lexes_renderMembers (m :: rest) (Bool.and_eq_true_iff.1 hr).2 fun n h =>
        hn n (List.mem_append_right _ h))
end

/-- The tokens of the text of a value. -/
theorem tokens?_render {j : Json} (hr : j.readable) (hn : ∀ n ∈ j.numbers, n.ReadsBack) :
    tokens? j.render = some j.tokensOf :=
  tokens?_of_lexes (lexes_render j hr hn)

end Json
end WikiGraph
