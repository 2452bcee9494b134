import WikiGraph.Cypher.Statement
import WikiGraph.Proofs.Query.Segments
/-!
# Quoted names in statements

A quoted name is one identifier of the grammar of query texts, whatever the name holds, and the name
can be read back from it. In a text that is in code before it, it stands between words and has no part
in any: the words of the whole are those on its left and those on its right
(`codeWords_around_quote`). So the words of a statement do not depend on the names in it
(`Form.codeWords_text`).
-/
namespace WikiGraph.Cypher

open Query

/-! ## Reading a name back -/

theorem doubled_cons (c : Char) (name : List Char) :
    doubled (c :: name) =
      (if c = backtick then [backtick, backtick] else [c]) ++ doubled name := rfl

theorem identifierBody_doubled (name : List Char) : IdentifierBody (doubled name) := by
  induction name with
  | nil => exact .nil
  | cons c name ih =>
    rw [doubled_cons]
    by_cases hc : c = backtick
    · rw [if_pos hc]
      exact .doubled ih
    · rw [if_neg hc]
      exact .plain hc ih

theorem undoubled?_cons {c : Char} (hc : c ≠ backtick) (rest : List Char) :
    undoubled? (c :: rest) = (undoubled? rest).map (c :: ·) := by
  rw [undoubled?.eq_def]
  exact if_pos hc

theorem undoubled?_doubled (name : List Char) :
    undoubled? (doubled name ++ [backtick]) = some name := by
  induction name with
  | nil => rfl
  | cons c name ih =>
    rw [doubled_cons]
    by_cases hc : c = backtick
    · simp [hc, undoubled?, ih]
    · simp [hc, undoubled?_cons, ih]

theorem unquote?_quote (name : List Char) : unquote? (quote name) = some name :=
  undoubled?_doubled name

theorem quote_injective : Function.Injective quote := fun a b h =>
  Option.some.inj ((unquote?_quote a).symm.trans ((congrArg unquote? h).trans (unquote?_quote b)))

/-- A quoted name is one identifier. -/
theorem reads_quote (name : List Char) : Reads (quote name) [.identifier (doubled name)] :=
  .identifier (identifierBody_doubled name) (by simp) .done

/-! ## An identifier inside a text -/

def enclosed (body : List Char) : List Char := backtick :: (body ++ [backtick])

theorem quote_eq_enclosed (name : List Char) : quote name = enclosed (doubled name) := rfl

/-- Behind its closing backtick an identifier may still be doubled, but it has left no mark. -/
theorem silent_enclosed {p : Place} (hm : p.mark backtick = none)
    (hp : p.step backtick = .backticked) {body : List Char} (h : IdentifierBody body) :
    Silent p (enclosed body) .closing :=
  .cons hm (hp ▸ (silent_identifier h).append ⟨rfl, rfl⟩)

theorem eq_backtick_of_step {p : Place} {c : Char} (h : p.step c = .closing) : c = backtick := by
  cases p with
  | backticked =>
    simp only [Place.step] at h
    split_ifs at h with hc
    exact hc
  | singleTaking | doubleTaking => cases h
  | _ =>
    simp only [Place.step, Place.fromCode] at h
    split_ifs at h

theorem getLast?_of_after {text : List Char} (h : after .code text = .closing) :
    text.getLast? = some backtick := by
  rcases List.eq_nil_or_concat text with rfl | ⟨front, c, rfl⟩
  · cases h
  · rw [List.concat_eq_append, after_append] at h
    rw [List.concat_eq_append, List.getLast?_concat, eq_backtick_of_step h]

/-- **An identifier has no part in the words** of the text around it. -/
theorem codeWords_around_enclosed {u body v : List Char} (h : IdentifierBody body)
    (hu : regionAfter .code u = .code) (hl : u.getLast? ≠ some backtick)
    (hv : v.head? ≠ some backtick) :
    codeWords (u ++ enclosed body ++ v) = codeWords u ++ codeWords v := by
  have hs : Silent (after .code u) (enclosed body) .closing := by
    rw [regionAfter_code] at hu
    cases hp : after .code u with
    | code | slash => exact silent_enclosed rfl rfl h
    | closing => exact absurd (getLast?_of_after hp) hl
    | _ => rw [hp] at hu; cases hu
  have hlen : (enclosed body).length = (body ++ [backtick]).length + 1 := rfl
  rw [codeWords_eq_runs, codeWords_eq_runs, codeWords_eq_runs, row_append, row_append, after_append,
    hs.after_eq, hs.row_eq, row_closing hv, hlen, List.replicate_succ, List.append_assoc,
    List.cons_append, runs_append_none, runs_replicate_none_append]

theorem codeWords_around_quote (name : List Char) {u v : List Char}
    (hu : regionAfter .code u = .code) (hl : u.getLast? ≠ some backtick)
    (hv : v.head? ≠ some backtick) :
    codeWords (u ++ quote name ++ v) = codeWords u ++ codeWords v :=
  codeWords_around_enclosed (identifierBody_doubled name) hu hl hv

/-! ## Statements -/

/-- The statement with no name in it; a query stays as it is. -/
def Form.unnamed : Form → Form
  | .removeLabel _ => .removeLabel ""
  | .upsertSubject _ => .upsertSubject ""
  | .createRelation _ => .createRelation ""
  | .countNodes _ => .countNodes ""
  | form => form

/-- Any two names in the same place of a statement leave it the same words. -/
theorem codeWords_around {before after : List String} (hu : regionAfter .code (lines before) = .code)
    (hl : (lines before).getLast? ≠ some backtick) (hv : (lines after).head? ≠ some backtick)
    (name name' : String) :
    codeWords (around before name after) = codeWords (around before name' after) :=
  (codeWords_around_quote name.toList hu hl hv).trans
    (codeWords_around_quote name'.toList hu hl hv).symm

/-- **The words of a statement are fixed**: no name in it adds to them or takes from them. -/
theorem Form.codeWords_text (form : Form) : codeWords form.text = codeWords form.unnamed.text := by
  cases form with
  | removeLabel name | upsertSubject name | createRelation name | countNodes name =>
    exact codeWords_around (by decide +kernel) (by decide +kernel) (by decide +kernel) name ""
  | _ => rfl

example : codeWords (Form.countNodes "x`) DETACH DELETE n //").text =
    ["MATCH", "n", "RETURN", "count", "n", "AS", "cnt"].map String.toList := by decide +kernel

end WikiGraph.Cypher
