import Mathlib.Data.Finset.Card
import WikiGraph.Document.PageReader
import WikiGraph.Document.PageWriter
import WikiGraph.Proofs.KeyedList
/-!
# First place, last statement

A list of statements is built up one statement after the other. What one of them does is said entry by
entry (`getElem?_insert_of_ne`, `get?_insert`); what a sequence of them leaves follows by induction on
its last statement: a property has the place of the first statement about it (`map_property_ofList`)
and the content of the last one (`get?_ofList`). The two together determine a list (`ext_get?`).
-/
namespace WikiGraph

/-! ## One statement more -/

namespace Statement

/-- An entry about another property is neither changed nor moved. -/
theorem getElem?_putInto_of_ne {s t : Statement} (ht : t.property ≠ s.property)
    (l : List Statement) (i : Nat) : (s.putInto l)[i]? = some t ↔ l[i]? = some t := by
  induction l generalizing i with
  | nil =>
    cases i with
    | zero =>
      have hs : s ≠ t := fun e => ht (e ▸ rfl)
      simp [putInto, hs]
    | succ i => simp [putInto]
  | cons u rest ih =>
    by_cases hu : u.property = s.property
    · cases i with
      | zero =>
        have hs : s ≠ t := fun e => ht (e ▸ rfl)
        have hut : u ≠ t := fun e => ht (e ▸ hu)
        simp [putInto, hu, hs, hut]
      | succ i => simp [putInto, hu]
    · cases i with
      | zero => simp [putInto, hu]
      | succ i => simpa [putInto, hu] using ih i

theorem find?_putInto (s : Statement) (l : List Statement) (property : String) :
    (s.putInto l).find? (·.property = property) =
      if s.property = property then some s else l.find? (·.property = property) := by
  induction l with
  | nil => by_cases hs : s.property = property <;> simp [putInto, hs]
  | cons u rest ih =>
    by_cases hu : u.property = s.property
    · by_cases hs : s.property = property <;> simp [putInto, hu, hs]
    · by_cases hp : u.property = property
      · have hs : s.property ≠ property := fun e => hu (hp.trans e.symm)
        rw [putInto, if_neg hu]
        simp [hp, hs]
      · simp [putInto, hu, hp, ih]

end Statement

namespace StatementList

theorem toList_insert (l : StatementList) (s : Statement) :
    (l.insert s).toList = s.putInto l.toList := rfl

theorem getElem?_insert_of_ne (l : StatementList) {s t : Statement} (ht : t.property ≠ s.property)
    (i : Nat) : (l.insert s).toList[i]? = some t ↔ l.toList[i]? = some t :=
  Statement.getElem?_putInto_of_ne ht l.toList i

theorem get?_insert (l : StatementList) (s : Statement) (property : String) :
    (l.insert s).get? property = if s.property = property then some s else l.get? property :=
  s.find?_putInto l.toList property

/-! ## A sequence of statements -/

theorem ofList_concat (statements : List Statement) (s : Statement) :
    ofList (statements ++ [s]) = (ofList statements).insert s := by
  rw [ofList, List.foldl_append]
  rfl

/-- **Properties stand in the order in which they are first mentioned.** -/
theorem map_property_ofList (statements : List Statement) :
    (ofList statements).toList.map Statement.property =
      (statements.map Statement.property).eraseDups := by
  induction statements using List.reverseRecOn with
  | nil => rfl
  | append_singleton statements s ih =>
    rw [ofList_concat, toList_insert, Statement.map_property_putInto, ih, List.map_append,
      List.map_singleton, eraseDups_concat]
    simp only [List.mem_eraseDups]

/-- **The statement about a property is the last one.** -/
theorem get?_ofList (statements : List Statement) (property : String) :
    (ofList statements).get? property = statements.reverse.find? (·.property = property) := by
  induction statements using List.reverseRecOn with
  | nil => rfl
  | append_singleton statements s ih =>
    rw [ofList_concat, get?_insert, ih, List.reverse_append, List.reverse_singleton,
      List.singleton_append, List.find?_cons]
    by_cases hs : s.property = property <;> simp [hs]

theorem get?_ofList_eq_none_iff {statements : List Statement} {property : String} :
    (ofList statements).get? property = none ↔ ∀ s ∈ statements, s.property ≠ property := by
  rw [get?_ofList, List.find?_eq_none]
  simp

theorem get?_ofList_eq_some_iff {statements : List Statement} {property : String} {s : Statement} :
    (ofList statements).get? property = some s ↔
      ∃ before after, statements = before ++ s :: after ∧ s.property = property ∧
        ∀ t ∈ after, t.property ≠ property := by
  rw [get?_ofList, List.find?_eq_some_iff_append]
  constructor
  · rintro ⟨hs, later, earlier, hsplit, hlater⟩
    refine ⟨earlier.reverse, later.reverse, ?_, of_decide_eq_true hs, fun t ht => ?_⟩
    · simpa using congrArg List.reverse hsplit
    · simpa using hlater t (List.mem_reverse.1 ht)
  · rintro ⟨before, after, rfl, hs, hafter⟩
    refine ⟨decide_eq_true hs, after.reverse, before.reverse, by simp, fun t ht => ?_⟩
    simpa using hafter t (List.mem_reverse.1 ht)

theorem size_ofList (statements : List Statement) :
    (ofList statements).size = (statements.map Statement.property).toFinset.card := by
  have hsame : ((ofList statements).toList.map Statement.property).toFinset =
      (statements.map Statement.property).toFinset := by
    ext property
    rw [map_property_ofList, List.mem_toFinset, List.mem_toFinset, List.mem_eraseDups]
  rw [← hsame, List.toFinset_card_of_nodup (ofList statements).distinct, List.length_map]
  rfl

/-- A list has no statements but those that it was built up from. -/
theorem mem_of_mem_ofList {statements : List Statement} {s : Statement}
    (h : s ∈ (ofList statements).toList) : s ∈ statements := by
  have hget : (ofList statements).get? s.property = some s :=
    (find?_key_eq_some_iff (ofList statements).distinct).2 ⟨h, rfl⟩
  obtain ⟨before, after, rfl, -, -⟩ := get?_ofList_eq_some_iff.1 hget
  simp

/-- The order of the properties and the statement about each are all there is to a list. -/
theorem ext_get? {l l' : StatementList}
    (hnames : l.toList.map Statement.property = l'.toList.map Statement.property)
    (hget : ∀ property, l.get? property = l'.get? property) : l = l' := by
  have hlist : l.toList = l'.toList := by
    rw [← filterMap_find?_of_nodup l.distinct, ← filterMap_find?_of_nodup l'.distinct, hnames]
    exact congrArg (List.filterMap · _) (funext hget)
  cases l
  cases l'
  cases hlist
  rfl

/-- A list of statements is the one that its statements build up. -/
theorem ofList_toList (l : StatementList) : ofList l.toList = l := by
  refine ext_get? ?_ fun property => ?_
  · rw [map_property_ofList, eraseDups_of_nodup l.distinct]
  · rw [get?_ofList]
    exact find?_key_of_perm l.distinct (List.reverse_perm l.toList) property

/-- A document of statements is read as the list that they build up. -/
theorem statementList?_of_forall₂ {items : List Json} {statements : List Statement}
    (h : List.Forall₂ (fun item s => Document.statement? item = some s) items statements) :
    Document.statementList? (.array items) = some (ofList statements) := by
  have hread : Document.listOf? Document.statement? (.array items) = some statements := by
    induction h with
    | nil => rfl
    | cons hs _ ih =>
      rw [Document.listOf?] at ih ⊢
      simp [hs, ih]
  rw [Document.statementList?, hread, Option.map_some]

/-- **First place, last statement.** However statements are put into a list, one by one or as a
document, its properties are those mentioned, in the order of their first mention; the statement about
each is the last one; and a list is again what its own statements build up. A statement more changes
or moves no entry about another property. -/
theorem firstPlace_lastStatement (statements : List Statement) (l : StatementList) :
    (ofList statements).toList.map Statement.property =
        (statements.map Statement.property).eraseDups ∧
      (∀ property s, (ofList statements).get? property = some s ↔
        ∃ before after, statements = before ++ s :: after ∧ s.property = property ∧
          ∀ t ∈ after, t.property ≠ property) ∧
      (∀ property, (ofList statements).get? property = none ↔
        ∀ s ∈ statements, s.property ≠ property) ∧
      (ofList statements).size = (statements.map Statement.property).toFinset.card ∧
      (∀ items, List.Forall₂ (fun item s => Document.statement? item = some s) items statements →
        Document.statementList? (.array items) = some (ofList statements)) ∧
      ofList l.toList = l ∧
      ∀ s, (l.insert s).get? s.property = some s ∧
        (∀ property, property ≠ s.property → (l.insert s).get? property = l.get? property) ∧
        ∀ t, t.property ≠ s.property →
          ∀ i : Nat, (l.insert s).toList[i]? = some t ↔ l.toList[i]? = some t := by
  refine ⟨map_property_ofList statements, fun _ _ => get?_ofList_eq_some_iff,
    fun _ => get?_ofList_eq_none_iff, size_ofList statements,
    fun _ => statementList?_of_forall₂, ofList_toList l, fun s => ⟨?_, ?_, ?_⟩⟩
  · rw [get?_insert, if_pos rfl]
  · intro property hne
    rw [get?_insert, if_neg hne.symm]
  · exact fun t ht i => getElem?_insert_of_ne l ht i

def naming (name : String) : Statement := ⟨"Name", "text", some (.texts [name])⟩

/-- A name, an age that is not known, and another name. -/
def renamed : List Statement := [naming "Ann", ⟨"Age", "number", none⟩, naming "Anne"]

theorem renamed_keeps_place_of_name :
    (ofList renamed).toList.map Statement.property = ["Name", "Age"] ∧
      (ofList renamed).get? "Name" = some (naming "Anne") ∧
      (ofList renamed).get? "Mail" = none ∧ (ofList renamed).size = 2 ∧
      Document.statementList? (.array (renamed.map Document.ofStatement)) = some (ofList renamed) ∧
      "Age" ≠ (naming "Anna").property ∧
      ((ofList renamed).insert (naming "Anna")).get? "Age" = some ⟨"Age", "number", none⟩ ∧
      ((ofList renamed).insert (naming "Anna")).toList[1]? = some ⟨"Age", "number", none⟩ := by
  obtain ⟨hnames, hlast, hnone, hsize, hread, -, hinsert⟩ :=
    firstPlace_lastStatement renamed (ofList renamed)
  obtain ⟨-, hget, hplace⟩ := hinsert (naming "Anna")
  refine ⟨hnames.trans (by decide), (hlast _ _).2 ⟨renamed.take 2, [], ?_⟩,
    (hnone _).2 (by decide), hsize.trans (by decide), hread _ ?_, by decide,
    (hget "Age" (by decide)).trans (by decide), (hplace _ (by decide) 1).2 (by decide)⟩
  · exact ⟨rfl, rfl, by simp⟩
  · exact .cons rfl (.cons rfl (.cons rfl .nil))

end StatementList
end WikiGraph
