import WikiGraph.Proofs.Cypher.QuotedName
import WikiGraph.Proofs.Query.CommentCuts
/-!
# Quoted names under the readings of a query text

Quoting doubles the backticks that stand in a name, and no other characters. A reading that decodes
every escape makes a backtick of an escaped one too, which was not doubled: there the quoted name ends
early, and what follows in the name stands in code.

Doubling neither adds escapes nor takes them away (`pieces_doubled`), so what a reading makes of a
quoted name is known piece by piece (`normalize_quote`). It is one identifier just when the backticks
inside come doubled only; that fails for no name under the readings that leave escapes as written, and
for no name without an escaped backtick under the others (`closed_unless_backtick_escaped`).
-/
namespace WikiGraph.Cypher

open Query

/-! ## The pieces of a quoted name -/

/-- A piece as it stands in a doubled name. -/
def twice (p : Piece) : List Piece := if p = .plain backtick then [p, p] else [p]

theorem not_mem_tail {tail : List Char} {c : Char} (h : IsEscapeTail tail c) : backtick ∉ tail :=
  fun hb => absurd (isAlphanum_of_mem_tail h _ hb) (by decide)

theorem not_mem_written {tail : List Char} {c : Char} (h : IsEscapeTail tail c) :
    backtick ∉ '\\' :: tail := fun hb =>
  (List.mem_cons.1 hb).elim (by decide) (not_mem_tail h)

theorem doubled_append_of_not_mem {text : List Char} (h : backtick ∉ text) (rest : List Char) :
    doubled (text ++ rest) = text ++ doubled rest := by
  induction text with
  | nil => rfl
  | cons c text ih =>
    rw [List.mem_cons, not_or] at h
    rw [List.cons_append, doubled_cons, if_neg (Ne.symm h.1), ih h.2]
    rfl

/-- What has no backtick in it is in the same place of a name and of the doubled name. -/
theorem prefix_of_prefix_doubled {text name : List Char} (h : backtick ∉ text)
    (hp : text <+: doubled name) : text <+: name := by
  induction text generalizing name with
  | nil => exact List.nil_prefix
  | cons c text ih =>
    rw [List.mem_cons, not_or] at h
    cases name with
    | nil => exact absurd (List.prefix_nil.1 hp) (List.cons_ne_nil c text)
    | cons d name =>
      rw [doubled_cons] at hp
      by_cases hd : d = backtick
      · rw [if_pos hd, List.cons_append, List.cons_prefix_cons] at hp
        exact absurd hp.1.symm h.1
      · rw [if_neg hd, List.cons_append, List.cons_prefix_cons, List.nil_append] at hp
        exact List.cons_prefix_cons.2 ⟨hp.1, ih h.2 hp.2⟩

theorem pieces_backtick (rest : List Char) :
    pieces (backtick :: rest) = .plain backtick :: pieces rest := pieces_plain rfl

/-- An escape that begins in a doubled name, with a backtick behind it, begins in the name too. -/
theorem escapeAhead?_doubled {c : Char} {rest : List Char} (h : escapeAhead? (c :: rest) = none)
    (v : List Char) : escapeAhead? (c :: (doubled rest ++ backtick :: v)) = none := by
  cases ha : escapeAhead? (c :: (doubled rest ++ backtick :: v)) with
  | none => rfl
  | some r =>
    obtain ⟨tail, more, ht, he, -⟩ := escapeAhead?_eq_some_iff.1 ha
    obtain ⟨rfl, hr⟩ := List.cons.inj he
    have hb := not_mem_tail ht
    obtain ⟨u, rfl⟩ := prefix_of_prefix_doubled hb (prefix_of_append_eq hb hr.symm)
    rw [escapeAhead?_eq_some_iff.2 ⟨tail, u, ht, rfl, rfl⟩] at h
    cases h

/-- **Doubling adds no escape and takes none away.** -/
theorem pieces_doubled (name v : List Char) :
    pieces (doubled name ++ backtick :: v) =
      (pieces name).flatMap twice ++ .plain backtick :: pieces v := by
  fun_induction pieces name with
  | case1 => exact pieces_backtick v
  | case2 c rest h ih =>
    rw [List.flatMap_cons, List.append_assoc, ← ih, doubled_cons]
    by_cases hc : c = backtick
    · rw [if_pos hc, twice, if_pos (congrArg _ hc), hc]
      exact (pieces_backtick _).trans (congrArg _ (pieces_backtick _))
    · have ht : twice (.plain c) = [.plain c] := if_neg fun e => hc (Piece.plain.inj e)
      rw [if_neg hc, ht]
      exact pieces_plain (escapeAhead?_doubled h v)
  | case3 c rest denoted n h ih =>
    obtain ⟨tail, more, ht, he, rfl⟩ := escapeAhead?_eq_some_iff.1 h
    obtain ⟨rfl, rfl⟩ := List.cons.inj he
    rw [List.take_left, List.drop_left] at *
    rw [← List.cons_append, doubled_append_of_not_mem (not_mem_written ht), List.append_assoc,
      List.cons_append, pieces_escape ht, ih]
    rfl

/-! ## What a reading makes of a quoted name -/

/-- What a reading makes of pieces that stand inside a quoted name. -/
def inside (m : Reading) (ps : List Piece) : List Char := (ps.flatMap twice).flatMap m.render

theorem render_backtick (m : Reading) : m.render (.plain backtick) = [backtick] :=
  render_plain (by decide) m

theorem normalize_quote (m : Reading) (name : List Char) :
    m.normalize (quote name) = enclosed (inside m (pieces name)) := by
  have hp : pieces (quote name) =
      .plain backtick :: ((pieces name).flatMap twice ++ [.plain backtick]) := by
    rw [quote_eq_enclosed, enclosed, pieces_backtick, pieces_doubled, pieces_nil]
  rw [Reading.normalize, hp, List.flatMap_cons, List.flatMap_append, render_backtick,
    List.flatMap_singleton, render_backtick]
  rfl

theorem inside_cons (m : Reading) (p : Piece) (ps : List Piece) :
    inside m (p :: ps) = (twice p).flatMap m.render ++ inside m ps := by
  rw [inside, List.flatMap_cons, List.flatMap_append]
  rfl

theorem inside_append (m : Reading) (ps qs : List Piece) :
    inside m (ps ++ qs) = inside m ps ++ inside m qs := by
  rw [inside, List.flatMap_append, List.flatMap_append]
  rfl

theorem identifierBody_append {front body : List Char} (hf : backtick ∉ front)
    (h : IdentifierBody body) : IdentifierBody (front ++ body) := by
  induction front with
  | nil => exact h
  | cons c front ih =>
    rw [List.mem_cons, not_or] at hf
    exact .plain (Ne.symm hf.1) (ih hf.2)

theorem not_mem_render_plain {m : Reading} {c : Char} (hc : c ≠ backtick) :
    backtick ∉ m.render (.plain c) := by
  cases hi : isInvisible c with
  | true =>
    rw [Reading.render, Piece.denoted, if_pos hi]
    split <;> decide
  | false =>
    rw [render_plain hi]
    exact fun h => hc (List.mem_singleton.1 h).symm

/-- Only a reading that decodes makes a backtick of an escape. -/
theorem not_mem_render_escape {m : Reading} {c : Char} {tail : List Char} (ht : IsEscapeTail tail c)
    (hm : m.decodesAll = true → c ≠ backtick) : backtick ∉ m.render (.escape c ('\\' :: tail)) := by
  cases hi : isInvisible c with
  | true =>
    rw [Reading.render, Piece.denoted, if_pos hi]
    split <;> decide
  | false =>
    cases hb : isBlank c with
    | true =>
      rw [render_blank hb]
      decide
    | false =>
      rw [render_escape hi hb]
      split
      · rename_i hd
        exact fun h => hm hd (List.mem_singleton.1 h).symm
      · exact not_mem_written ht

theorem identifierBody_inside_cons {m : Reading} {p : Piece} {ps : List Piece}
    (hs : WellShaped (p :: ps))
    (hp : ¬(m.decodesAll = true ∧ ∃ written, p = .escape backtick written))
    (h : IdentifierBody (inside m ps)) : IdentifierBody (inside m (p :: ps)) := by
  rw [inside_cons]
  by_cases hb : p = .plain backtick
  · rw [twice, if_pos hb, hb, List.flatMap_cons, List.flatMap_singleton, render_backtick]
    exact .doubled h
  · rw [twice, if_neg hb, List.flatMap_singleton]
    refine identifierBody_append ?_ h
    cases p with
    | plain c => exact not_mem_render_plain fun e => hb (congrArg _ e)
    | escape c written =>
      obtain ⟨tail, rfl, ht⟩ := hs c written List.mem_cons_self
      refine not_mem_render_escape ht fun hm hc => hp ⟨hm, '\\' :: tail, ?_⟩
      rw [hc]

/-- The inside of a quoted name has its backticks doubled, or an escaped backtick that is decoded
comes first. -/
theorem identifierBody_inside_or {m : Reading} {ps : List Piece} (hs : WellShaped ps) :
    IdentifierBody (inside m ps) ∨ m.decodesAll = true ∧ ∃ before written rest,
      ps = before ++ .escape backtick written :: rest ∧ IdentifierBody (inside m before) := by
  induction ps with
  | nil => exact .inl .nil
  | cons p ps ih =>
    by_cases hp : m.decodesAll = true ∧ ∃ written, p = .escape backtick written
    · obtain ⟨hm, written, rfl⟩ := hp
      exact .inr ⟨hm, [], written, ps, rfl, .nil⟩
    · rcases ih hs.tail with h | ⟨hm, before, written, rest, rfl, h⟩
      · exact .inl (identifierBody_inside_cons hs hp h)
      · have hs' : WellShaped (p :: before) := fun c written hw =>
          hs c written ((List.mem_cons.1 hw).elim (fun e => e ▸ List.mem_cons_self)
            fun hw => List.mem_cons_of_mem p (List.mem_append_left _ hw))
        exact .inr ⟨hm, p :: before, written, rest, rfl, identifierBody_inside_cons hs' hp h⟩

/-! ## Names that stay closed -/

/-- Under a reading the quoted name is one identifier and nothing else. -/
def StaysClosed (m : Reading) (name : List Char) : Prop :=
  ∃ body, Reads (m.normalize (quote name)) [.identifier body]

theorem reads_enclosed_iff {inner body : List Char} :
    Reads (enclosed inner) [.identifier body] ↔ inner = body ∧ IdentifierBody body := by
  constructor
  · intro h
    rcases reads_backtick_iff.1 h with ⟨-, hs⟩ | ⟨_, rest, tail, hcut, hs, htail⟩
    · cases hs
    · obtain ⟨hb, -, ht⟩ := identifierBody_of_cutIdentifier hcut
      obtain ⟨e, rfl⟩ := List.cons.inj hs
      obtain rfl := Segment.identifier.inj e
      cases htail
      exact ⟨List.append_cancel_right ht, hb⟩
  · rintro ⟨rfl, h⟩
    exact .identifier h (by simp) .done

theorem staysClosed_iff {m : Reading} {name : List Char} :
    StaysClosed m name ↔ IdentifierBody (inside m (pieces name)) := by
  unfold StaysClosed
  rw [normalize_quote]
  constructor
  · rintro ⟨body, h⟩
    obtain ⟨rfl, hb⟩ := reads_enclosed_iff.1 h
    exact hb
  · exact fun h => ⟨_, reads_enclosed_iff.2 ⟨rfl, h⟩⟩

/-- A closed name puts nothing into code, and what follows it stands in code. -/
theorem StaysClosed.silent {m : Reading} {name : List Char} (h : StaysClosed m name) :
    codeWords (m.normalize (quote name)) = [] ∧
      regionAfter .code (m.normalize (quote name)) = .code := by
  have hb := staysClosed_iff.1 h
  rw [normalize_quote, regionAfter_code, (silent_enclosed rfl rfl hb).after_eq]
  refine ⟨?_, rfl⟩
  have hw := codeWords_around_enclosed (u := []) (v := []) hb rfl (by simp) (by simp)
  rwa [List.append_nil] at hw

theorem codeWords_space (text : List Char) : codeWords (' ' :: text) = codeWords text := by
  rw [codeWords_eq_runs, codeWords_eq_runs, row_cons]
  exact runs_none_cons _

/-- Behind an escaped backtick that closes the name early, the rest of the name is read as code. -/
theorem codeWords_behind_escape {m : Reading} (hm : m.decodesAll = true) {name : List Char}
    {before rest : List Piece} {written : List Char}
    (hp : pieces name = before ++ .escape backtick written :: rest)
    (hb : IdentifierBody (inside m before)) (own : List Char) :
    codeWords (m.normalize (quote (before.flatMap Piece.written ++ written ++ ' ' :: own))) =
      codeWords (m.normalize (doubled own ++ [backtick])) := by
  have hrender : (twice (.escape backtick written)).flatMap m.render = [backtick] := by
    rw [twice, if_neg (by simp), List.flatMap_singleton, render_escape (by decide) (by decide),
      if_pos hm]
  have hspace : (twice (.plain ' ')).flatMap m.render = [' '] := by
    rw [twice, if_neg (by decide), List.flatMap_singleton, render_plain (by decide)]
  have hleft : m.normalize (quote (before.flatMap Piece.written ++ written ++ ' ' :: own)) =
      [] ++ enclosed (inside m before) ++ ' ' :: (inside m (pieces own) ++ [backtick]) := by
    have hs : pieces (' ' :: own) = .plain ' ' :: pieces own := pieces_plain rfl
    rw [normalize_quote, pieces_through_escape hp, hs, inside_append, inside_cons, inside_cons,
      hrender, hspace]
    simp [enclosed]
  have hright : m.normalize (doubled own ++ [backtick]) = inside m (pieces own) ++ [backtick] := by
    rw [Reading.normalize, pieces_doubled, pieces_nil, List.flatMap_append, List.flatMap_singleton,
      render_backtick]
    rfl
  rw [hleft, hright, codeWords_around_enclosed hb rfl (by simp) (by simp; decide), codeWords_space]
  rfl

/-- A name that does not stay closed, up to its first escaped backtick. -/
theorem exists_open_head {m : Reading} {name : List Char} (h : ¬StaysClosed m name) :
    ∃ head, head <+: name ∧ ∀ own,
      codeWords (m.normalize (quote (head ++ ' ' :: own))) =
        codeWords (m.normalize (doubled own ++ [backtick])) := by
  rcases identifierBody_inside_or (wellShaped_pieces name) with
    hb | ⟨hm, before, written, rest, hp, hb⟩
  · exact absurd (staysClosed_iff.2 hb) h
  · refine ⟨before.flatMap Piece.written ++ written, ⟨rest.flatMap Piece.written, ?_⟩,
      codeWords_behind_escape hm hp hb⟩
    rw [← flatMap_written_pieces name, hp, List.flatMap_append, List.flatMap_cons, List.append_assoc]
    rfl

/-- **A quoted name stays closed unless a backtick in it is escaped.** It is one identifier under
every reading that leaves escapes as written, and under every reading when the name has no escaped
backtick; in general, just when the backticks in what the reading makes of the name come doubled only.
Then it puts no word into code and ends there. A name that does not stay closed has a beginning behind
which any text can be put: that text is then read from code. -/
theorem closed_unless_backtick_escaped (name : List Char) (m : Reading) :
    (m.decodesAll = false ∨ (∀ written, .escape backtick written ∉ pieces name) →
      StaysClosed m name) ∧
    (StaysClosed m name ↔ IdentifierBody (inside m (pieces name))) ∧
    (StaysClosed m name → codeWords (m.normalize (quote name)) = [] ∧
      regionAfter .code (m.normalize (quote name)) = .code) ∧
    (¬StaysClosed m name → ∃ head, head <+: name ∧ ∀ own,
      codeWords (m.normalize (quote (head ++ ' ' :: own))) =
        codeWords (m.normalize (doubled own ++ [backtick]))) := by
  refine ⟨fun h => ?_, staysClosed_iff, StaysClosed.silent, exists_open_head⟩
  rcases identifierBody_inside_or (wellShaped_pieces name) with
    hb | ⟨hm, before, written, rest, hp, -⟩
  · exact staysClosed_iff.2 hb
  · rcases h with h | h
    · rw [h] at hm
      cases hm
    · refine absurd ?_ (h written)
      rw [hp]
      exact List.mem_append_right before List.mem_cons_self

/-- A name with backticks in it, and an escape of a letter. -/
def tickedName : List Char := "a`b``\\u0041".toList

/-- A name with an escaped backtick, and a clause behind it. -/
def escapedName : List Char := "\\u0060 CREATE (n) //".toList

theorem tickedName_closed_escapedName_open :
    (∀ m : Reading, codeWords (m.normalize (quote tickedName)) = [] ∧
      regionAfter .code (m.normalize (quote tickedName)) = .code) ∧
    ∃ head, head <+: escapedName ∧ ∀ own,
      codeWords (Reading.normalize ⟨true, false⟩ (quote (head ++ ' ' :: own))) =
        codeWords (Reading.normalize ⟨true, false⟩ (doubled own ++ [backtick])) := by
  constructor
  · intro m
    have hp : pieces tickedName = "a`b``".toList.map .plain ++ [.escape 'A' "\\u0041".toList] := by
      decide +kernel
    have hc := closed_unless_backtick_escaped tickedName m
    refine hc.2.2.1 (hc.1 (.inr fun written hw => ?_))
    rw [hp] at hw
    simp [backtick] at hw
  · refine (closed_unless_backtick_escaped escapedName ⟨true, false⟩).2.2.2 fun hc => ?_
    have hw : codeWords (Reading.normalize ⟨true, false⟩ (quote escapedName)) ≠ [] := by
      decide +kernel
    exact hw ((closed_unless_backtick_escaped escapedName ⟨true, false⟩).2.2.1 hc).1

/-- The clause behind the escaped backtick stands in code when escapes are decoded. -/
theorem escapedName_reaches_code :
    ¬∀ (name : List Char) (m : Reading), m ∈ Reading.all →
      codeWords (m.normalize (quote name)) = [] ∧
        regionAfter .code (m.normalize (quote name)) = .code := by
  intro h
  have hw : codeWords (Reading.normalize ⟨true, false⟩ (quote escapedName)) =
      ["CREATE".toList, "n".toList] := by decide +kernel
  rw [(h escapedName ⟨true, false⟩ (by decide)).1] at hw
  cases hw

end WikiGraph.Cypher
