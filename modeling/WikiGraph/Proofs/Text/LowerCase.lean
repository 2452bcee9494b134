import Mathlib.Data.List.Forall2
import WikiGraph.Text.CaseForm
/-!
# Searching in a lower-cased text

An ASCII character keeps its length in lower case and looks at nothing around it, so a piece of ASCII
text is found again in the lower-cased text, between whatever stands before and behind it. The other
way round, of all other characters only the kelvin sign and the dotted capital I have a lower-case form
with an ASCII character in it (`formOf_lowerFormBetween`). A phrase that neither can help to spell is
therefore found in the lower-cased text exactly if some piece of the text is the phrase but for the case
of ASCII letters (`infix_lowerCase_iff`).
-/
namespace WikiGraph.Text

/-! ## Characters -/

theorem toLower_of_wide {c : Char} (h : 0x80 ≤ c.toNat) : c.toLower = c := by
  have hz : 'Z'.val.toNat = 0x5A := rfl
  have hc : ¬(c.val ≥ 'A'.val ∧ c.val ≤ 'Z'.val) := by
    rintro ⟨-, hle⟩
    have hnat : c.toNat ≤ 'Z'.val.toNat := UInt32.le_iff_toNat_le.1 hle
    omega
  exact dif_neg hc

/-- **Rules on characters are kept by lowering** if they are on ASCII characters, since no other
character has a lower form. -/
theorem toLower_congr {β : Type} {f : Char → β}
    (h : ∀ n < 0x80, f (Char.ofNat n).toLower = f (Char.ofNat n)) (c : Char) :
    f c.toLower = f c := by
  rcases Nat.lt_or_ge c.toNat 0x80 with hc | hc
  · simpa [Char.ofNat_toNat] using h c.toNat hc
  · rw [toLower_of_wide hc]

theorem toLower_lt_iff {c : Char} : c.toLower.toNat < 0x80 ↔ c.toNat < 0x80 := by
  have h := toLower_congr (f := fun c => decide (c.toNat < 0x80)) (by decide) c
  simpa using h

def IsAscii (text : List Char) : Prop := ∀ c ∈ text, c.toNat < 0x80

instance (text : List Char) : Decidable (IsAscii text) := List.decidableBAll _ text

theorem isAscii_map_toLower_iff {text : List Char} :
    IsAscii (text.map Char.toLower) ↔ IsAscii text := by
  simp only [IsAscii, List.forall_mem_map, toLower_lt_iff]

/-- Two texts agree character by character but for the case of ASCII letters. -/
def SameButCase (text other : List Char) : Prop :=
  List.Forall₂ (fun c d : Char => c.toLower = d.toLower) text other

theorem sameButCase_iff {text other : List Char} :
    SameButCase text other ↔ text.map Char.toLower = other.map Char.toLower := by
  rw [SameButCase, ← List.forall₂_eq_eq_eq, List.forall₂_map_left_iff, List.forall₂_map_right_iff]

/-! ## Forms -/

/-- What lower-casing makes of a character, as far as ASCII is concerned: characters above ASCII lead to
others above it, but for two of them. -/
inductive FormOf : Char → List Char → Prop
  | ascii {c : Char} (hc : c.toNat < 0x80) : FormOf c [c.toLower]
  | wide {c d : Char} (hc : 0x80 ≤ c.toNat) (hd : 0x80 ≤ d.toNat) : FormOf c [d]
  | kelvin : FormOf '\u212A' ['k']
  | dottedI : FormOf '\u0130' ['i', '\u0307']

/-- The lower-case forms of a run are characters above ASCII. -/
def LowerRun.IsWide (run : LowerRun) : Prop :=
  0x80 ≤ run.lower ∧ (run.lower + (run.last - run.first) < 0xD800 ∨
    0xDFFF < run.lower ∧ run.lower + (run.last - run.first) < 0x110000)

instance (run : LowerRun) : Decidable run.IsWide := inferInstanceAs (Decidable (_ ∧ _))

/-- **One run alone leads to ASCII**, that of the kelvin sign. -/
theorem isWide_of_mem_lowerRuns : ∀ run ∈ lowerRuns,
    run = { first := 0x212A, last := 0x212A, stride := 1, lower := 0x6B } ∨ run.IsWide := by
  decide +kernel

theorem LowerRun.IsWide.le_toNat {run : LowerRun} (h : run.IsWide) {n : Nat} (hn : n ≤ run.last) :
    0x80 ≤ (Char.ofNat (run.lower + (n - run.first))).toNat := by
  obtain ⟨hwide, hscalar⟩ := h
  have hvalid : (run.lower + (n - run.first)).isValidChar := by
    unfold Nat.isValidChar
    omega
  rw [Char.ofNat, dif_pos hvalid]
  exact Nat.le_add_right_of_le hwide

theorem formOf_lowerCode {c : Char} (hc : 0x80 ≤ c.toNat) :
    FormOf c [Char.ofNat (lowerCode c.toNat)] := by
  unfold lowerCode
  cases hrun : lowerRuns.find? (·.covers c.toNat) with
  | none =>
    have hsame : FormOf c [c] := .wide hc hc
    simpa using hsame
  | some run =>
    have hcovers := List.find?_some hrun
    simp only [LowerRun.covers, Bool.and_eq_true, decide_eq_true_eq] at hcovers
    obtain ⟨⟨hfirst, hlast⟩, -⟩ := hcovers
    rcases isWide_of_mem_lowerRuns run (List.mem_of_find?_eq_some hrun) with rfl | hwide
    · have hkelvin : c = '\u212A' := Char.toNat_inj.1 (Nat.le_antisymm hlast hfirst)
      subst hkelvin
      exact .kelvin
    · exact .wide hc (hwide.le_toNat hlast)

theorem formOf_lowerForm (c : Char) : FormOf c (lowerForm c) := by
  unfold lowerForm
  split
  case isTrue hc => exact .ascii hc
  case isFalse hc =>
    split
    case isTrue hdotted =>
      have hc : c = '\u0130' := Char.toNat_inj.1 hdotted
      subst hc
      exact .dottedI
    case isFalse => exact formOf_lowerCode (Nat.le_of_not_lt hc)

/-- **Two characters above ASCII have an ASCII character in their forms**, wherever they stand. -/
theorem formOf_lowerFormBetween (before : List Char) (c : Char) (after : List Char) :
    FormOf c (lowerFormBetween before c after) := by
  unfold lowerFormBetween
  split
  case isTrue h =>
    simp only [Bool.and_eq_true, decide_eq_true_eq] at h
    exact .wide (by omega) (by decide)
  case isFalse => exact formOf_lowerForm c

theorem lowerFormBetween_of_ascii {c : Char} (h : c.toNat < 0x80) (before after : List Char) :
    lowerFormBetween before c after = [c.toLower] := by
  have hform := formOf_lowerFormBetween before c after
  generalize lowerFormBetween before c after = form at hform
  cases hform with
  | ascii => rfl
  | wide hc => omega
  | kelvin => exact absurd h (by decide)
  | dottedI => exact absurd h (by decide)

/-! ## Pieces of a text -/

theorem lowerBehind_cons_of_ascii {c : Char} (h : c.toNat < 0x80) (before rest : List Char) :
    lowerBehind before (c :: rest) = c.toLower :: lowerBehind (c :: before) rest := by
  rw [lowerBehind, lowerFormBetween_of_ascii h, List.singleton_append]

theorem lowerBehind_append_of_ascii {piece : List Char} (h : IsAscii piece)
    (before rest : List Char) : lowerBehind before (piece ++ rest) =
      piece.map Char.toLower ++ lowerBehind (piece.reverse ++ before) rest := by
  induction piece generalizing before with
  | nil => rfl
  | cons c piece ih =>
    obtain ⟨hc, hpiece⟩ := List.forall_mem_cons.1 h
    rw [List.cons_append, lowerBehind_cons_of_ascii hc, ih hpiece]
    simp

/-- What lower-casing makes of the rest of a text ends what it makes of the text. -/
theorem lowerBehind_suffix (before front rest : List Char) :
    lowerBehind (front.reverse ++ before) rest <:+ lowerBehind before (front ++ rest) := by
  induction front generalizing before with
  | nil => exact List.suffix_refl _
  | cons c front ih =>
    have hrest := ih (c :: before)
    rw [List.reverse_cons, List.append_assoc, List.singleton_append]
    exact hrest.trans (List.suffix_append _ _)

theorem lowerCase_of_ascii {text : List Char} (h : IsAscii text) :
    lowerCase text = text.map Char.toLower := by
  simpa [lowerCase, lowerBehind] using lowerBehind_append_of_ascii h [] []

/-- **Nothing around a piece of ASCII text hides it.** -/
theorem infix_lowerCase_of_infix {piece text : List Char} (h : piece <:+: text)
    (hascii : IsAscii piece) : piece.map Char.toLower <:+: lowerCase text := by
  obtain ⟨front, rest, rfl⟩ := h
  have hsuffix := lowerBehind_suffix [] front (piece ++ rest)
  rw [lowerBehind_append_of_ascii hascii, ← List.append_assoc front] at hsuffix
  exact (List.prefix_append _ _).isInfix.trans hsuffix.isInfix

/-! ## Characters above ASCII -/

/-- A text with other characters above ASCII in the place of those it has. -/
def replaceWide (other : Char → { d : Char // 0x80 ≤ d.toNat }) (text : List Char) : List Char :=
  text.map fun c => if c.toNat < 0x80 then c else other c

variable {other : Char → { d : Char // 0x80 ≤ d.toNat }}

theorem replaceWide_of_ascii {text : List Char} (h : IsAscii text) :
    replaceWide other text = text := by
  calc replaceWide other text = text.map id := List.map_congr_left fun c hc => if_pos (h c hc)
    _ = text := List.map_id text

theorem isAscii_of_replaceWide {text : List Char} (h : IsAscii (replaceWide other text)) :
    IsAscii text := by
  intro c hc
  refine Nat.lt_of_not_le fun hwide => ?_
  have hreplaced := h _ (List.mem_map_of_mem hc)
  rw [if_neg (Nat.not_lt.2 hwide)] at hreplaced
  exact absurd hreplaced (Nat.not_lt.2 (other c).2)

/-- A piece of ASCII text is where it was, whatever stands in place of the other characters. -/
theorem infix_replaceWide_iff {piece text : List Char} (h : IsAscii piece) :
    piece <:+: replaceWide other text ↔ piece <:+: text := by
  constructor
  · intro hi
    obtain ⟨source, hsource, hpiece⟩ := List.infix_map_iff.1 hi
    change piece = replaceWide other source at hpiece
    subst hpiece
    rwa [replaceWide_of_ascii (isAscii_of_replaceWide h)]
  · intro hi
    have hmap := hi.map fun c => if c.toNat < 0x80 then c else (other c).val
    change replaceWide other piece <:+: replaceWide other text at hmap
    rwa [replaceWide_of_ascii h] at hmap

/-! ## Phrases -/

/-- A phrase of ASCII characters that no other character can help to spell: it does not have the letter
that the kelvin sign becomes, nor end in the one that the dotted capital I becomes with a dot behind. -/
structure Unforgeable (phrase : List Char) : Prop where
  isAscii : IsAscii phrase
  noKelvin : 'k' ∉ phrase
  noDottedI : phrase.getLast? ≠ some 'i'

theorem unforgeable_iff {phrase : List Char} : Unforgeable phrase ↔
    IsAscii phrase ∧ 'k' ∉ phrase ∧ phrase.getLast? ≠ some 'i' :=
  ⟨fun ⟨ha, hk, hi⟩ => ⟨ha, hk, hi⟩, fun ⟨ha, hk, hi⟩ => ⟨ha, hk, hi⟩⟩

instance (phrase : List Char) : Decidable (Unforgeable phrase) :=
  decidable_of_iff _ unforgeable_iff.symm

theorem Unforgeable.tail {c : Char} {phrase : List Char} (h : Unforgeable (c :: phrase)) :
    Unforgeable phrase where
  isAscii := (List.forall_mem_cons.1 h.isAscii).2
  noKelvin := fun hk => h.noKelvin (List.mem_cons_of_mem c hk)
  noDottedI := fun hi => h.noDottedI (by rw [List.getLast?_cons, hi]; rfl)

/-- It does not begin above ASCII. -/
theorem Unforgeable.eq_nil_of_prefix {phrase low : List Char} {d : Char} (h : Unforgeable phrase)
    (hd : 0x80 ≤ d.toNat) (hp : phrase <+: d :: low) : phrase = [] := by
  cases phrase with
  | nil => rfl
  | cons c phrase =>
    obtain ⟨rfl, -⟩ := List.cons_prefix_cons.1 hp
    exact absurd (h.isAscii c List.mem_cons_self) (Nat.not_lt.2 hd)

/-- If it begins a lower-cased text, it is what lower-casing makes of the beginning of the text. -/
theorem Unforgeable.exists_head {phrase before text : List Char} (h : Unforgeable phrase)
    (hp : phrase <+: lowerBehind before text) :
    ∃ piece, piece <+: text ∧ piece.map Char.toLower = phrase := by
  induction text generalizing before phrase with
  | nil => exact ⟨[], List.nil_prefix, (List.prefix_nil.1 hp).symm⟩
  | cons c rest ih =>
    cases phrase with
    | nil => exact ⟨[], List.nil_prefix, rfl⟩
    | cons p phrase =>
      rw [lowerBehind] at hp
      have hform := formOf_lowerFormBetween before c rest
      generalize lowerFormBetween before c rest = form at hp hform
      cases hform with
      | ascii =>
        obtain ⟨rfl, hrest⟩ := List.cons_prefix_cons.1 hp
        obtain ⟨piece, hpiece, rfl⟩ := ih h.tail hrest
        exact ⟨c :: piece, List.cons_prefix_cons.2 ⟨rfl, hpiece⟩, rfl⟩
      | wide _ hd => cases h.eq_nil_of_prefix hd hp
      | kelvin =>
        obtain ⟨rfl, -⟩ := List.cons_prefix_cons.1 hp
        exact absurd List.mem_cons_self h.noKelvin
      | dottedI =>
        -- The phrase would have to go on with the dot or end before it.
        obtain ⟨rfl, hrest⟩ := List.cons_prefix_cons.1 hp
        have hend : phrase = [] := h.tail.eq_nil_of_prefix (by decide) hrest
        exact absurd (by rw [hend]; rfl) h.noDottedI

/-- Wherever it stands in a lower-cased text, it is what lower-casing makes of a piece of the text: it
cannot begin inside the form of a character. -/
theorem Unforgeable.exists_piece {phrase before text : List Char} (h : Unforgeable phrase)
    (hi : phrase <:+: lowerBehind before text) :
    ∃ piece, piece <:+: text ∧ piece.map Char.toLower = phrase := by
  induction text generalizing before with
  | nil => exact ⟨[], List.nil_infix, (List.infix_nil.1 hi).symm⟩
  | cons c rest ih =>
    have hcut : phrase <+: lowerBehind before (c :: rest) ∨
        phrase <:+: lowerBehind (c :: before) rest := by
      rw [lowerBehind] at hi ⊢
      have hform := formOf_lowerFormBetween before c rest
      generalize lowerFormBetween before c rest = form at hi hform
      cases hform with
      | dottedI =>
        rcases List.infix_cons_iff.1 hi with hp | hi
        · exact .inl hp
        · rcases List.infix_cons_iff.1 hi with hp | hi
          · exact .inl (h.eq_nil_of_prefix (by decide) hp ▸ List.nil_prefix)
          · exact .inr hi
      | ascii | wide | kelvin => exact List.infix_cons_iff.1 hi
    rcases hcut with hp | hi
    · obtain ⟨piece, hpiece, hlower⟩ := h.exists_head hp
      exact ⟨piece, hpiece.isInfix, hlower⟩
    · obtain ⟨piece, hpiece, hlower⟩ := ih hi
      exact ⟨piece, List.infix_cons hpiece, hlower⟩

/-- **Where a phrase is found in a lower-cased text**: a piece of the text is that phrase but for the
case of ASCII letters. -/
theorem infix_lowerCase_iff {phrase text : List Char} (h : Unforgeable phrase) :
    phrase <:+: lowerCase text ↔ ∃ piece, piece <:+: text ∧ piece.map Char.toLower = phrase := by
  constructor
  · exact h.exists_piece
  · rintro ⟨piece, hpiece, rfl⟩
    exact infix_lowerCase_of_infix hpiece (isAscii_map_toLower_iff.1 h.isAscii)

/-- Without the two conditions on its letters a phrase can be forged. -/
example : "ok".toList <:+: lowerCase "o\u212A".toList ∧ "hi".toList <:+: lowerCase "h\u0130".toList := by
  decide +kernel

end WikiGraph.Text
