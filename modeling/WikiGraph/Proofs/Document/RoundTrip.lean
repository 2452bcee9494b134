import WikiGraph.Proofs.Document.Floats
/-!
# Pages survive their documents

A page is written to a text and read from one. What is read of the text of a page is that page, in
every part: whole numbers stay apart from binary fractions, a statement without a value from one
with a value, and every list keeps its order. A text that was read may have another form, with its
members in another order, fields missing or records written as lists, and statements that replace
one another; the page that was read of it is still the one that is read again (`Page.roundTrips`).

All of this hangs on the numerals of binary fractions, which are read with one rounding too many: a
number of seventeen digits may come back as its neighbour (`exists_not_readsBack`).
-/
namespace WikiGraph

namespace Page

def ofText? (text : String) : Option Page := (Json.parse? text.toList).bind Document.page?

def text (p : Page) : String := String.ofList (Document.ofPage p).render

/-- Each finite number of the page is written as a numeral that stands for it, with a fraction or an
exponent. -/
def NumbersReadBack (p : Page) : Prop :=
  ∀ x ∈ p.floats, x.isFinite → (JsonNumber.float x).ReadsBack

theorem ofText?_text {p : Page} (h : Document.ReadBack p.floats) : ofText? p.text = some p := by
  have hdocument := Document.writable_ofPage h
  have hparsed : Json.parse? p.text.toList = some (Document.ofPage p) := by
    rw [text, String.toList_ofList]
    exact Json.parse?_render hdocument.readable (hdocument.depth_le.trans (by decide))
      hdocument.readsBack
  rw [ofText?, hparsed, Option.bind_some, Document.page?_ofPage]

/-- The numbers of a page that was read are finite. -/
theorem finite_of_ofText? {text : String} {p : Page} (h : ofText? text = some p) :
    Document.Finite p.floats := by
  obtain ⟨j, hj, hpage⟩ := Option.bind_eq_some_iff.1 h
  exact Document.finite_of_page? (Json.allFinite_of_parse? hj) hpage

/-- **A page is read back from its text**, if its numbers are finite and the numerals that they are
written as stand for them. A page that was read from any text is read again from its own, if those
numerals do; its numbers are finite. -/
theorem roundTrips :
    (∀ p : Page, (∀ x ∈ p.floats, x.isFinite) → p.NumbersReadBack → ofText? p.text = some p) ∧
    ∀ (text : String) (p : Page), ofText? text = some p → p.NumbersReadBack →
      ofText? p.text = some p := by
  refine ⟨fun p hfinite hback => ofText?_text fun x hx => hback x hx (hfinite x hx),
    fun text p hp hback => ofText?_text fun x hx => hback x hx ?_⟩
  exact finite_of_ofText? hp x hx

def half : Binary64 := ⟨0x3FE0000000000000⟩

def one : Binary64 := ⟨0x3FF0000000000000⟩

/-- A page on Ann, who has no age, weighs one half and knows Bob by a relation with four properties,
two of which are the same number in two kinds. -/
def annPage : Page where
  id := ⟨"p"⟩
  properties := { title := "Ann \"A\"\n" }
  subjects := { main := some ⟨⟨"ann"⟩, "Ann", ⟨"Person"⟩, .ofList [
    ⟨"age", "number", none⟩, ⟨"weight", "number", some (.number half)⟩,
    ⟨"knows", "relation", some (.relations [⟨⟨"r"⟩, ⟨"KNOWS"⟩, ⟨"bob"⟩,
      (((({} : Properties).insert "whole" (.integer 1)).insert "fraction" (.float one)).insert
        "sure" (.boolean true)).insert "word" (.text "true")⟩])⟩]⟩ }

/-- A page with a subject that is written as a list, with the content of its value before the
kind. -/
def listedText : String :=
  "[\"p\",[\"T\"],[null,[[\"bob\",\"Bob\",\"Person\"," ++
    "[\x7b\"property\":\"age\",\"property_type\":\"number\"," ++
    "\"value\":\x7b\"value\":3,\"type\":\"number\"\x7d\x7d]]]]]"

theorem annPage_and_listedText_roundTrip :
    ofText? annPage.text = some annPage ∧
      ∃ p, ofText? listedText = some p ∧ p.floats ≠ [] ∧ ofText? p.text = some p := by
  constructor
  · have hback : ∀ x ∈ annPage.floats, (Numeral.ofText? (Json.renderNumber (.float x))).bind
        Numeral.toNumber? = some (.float x) := by decide +kernel
    exact roundTrips.1 annPage (by decide +kernel) fun x hx _ => hback x hx
  · obtain ⟨p, hp⟩ : ∃ p, ofText? listedText = some p :=
      Option.isSome_iff_exists.1 (by decide +kernel)
    have hfloats : (ofText? listedText).map floats = some [⟨0x4008000000000000⟩] := by
      decide +kernel
    rw [hp, Option.map_some, Option.some.injEq] at hfloats
    have hback : ∀ x ∈ [(⟨0x4008000000000000⟩ : Binary64)],
        (Numeral.ofText? (Json.renderNumber (.float x))).bind Numeral.toNumber? =
          some (.float x) := by decide +kernel
    exact ⟨p, hp, by simp [hfloats], roundTrips.2 listedText p hp fun x hx _ =>
      hback x (hfloats ▸ hx)⟩

/-- The numeral `1.9296001163752285` stands for the neighbour of the number that is written so. -/
theorem exists_not_readsBack : ∃ x : Binary64, x.isFinite ∧ ¬(JsonNumber.float x).ReadsBack := by
  refine ⟨⟨4611368965537728457⟩, by decide +kernel, ?_⟩
  unfold JsonNumber.ReadsBack
  decide +kernel

end Page
end WikiGraph
