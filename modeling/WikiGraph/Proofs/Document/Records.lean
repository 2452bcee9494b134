import WikiGraph.Document.PageReader
import WikiGraph.Document.PageWriter
import WikiGraph.Proofs.KeyedFold
import WikiGraph.Proofs.Page.Statements
/-!
# Reading the documents that are written

The document of a page is read as the page, and so is each of its parts: `page?_ofPage` at the top,
one lemma for each part. A scalar keeps its kind, because whole numbers and binary fractions are
different numbers of a document, and a statement without a value is told from one with a value by
null.
-/
namespace WikiGraph.Document

/-! ## Lists and values that may be absent -/

variable {α : Type}

theorem listOf?_array {read : Json → Option α} {write : α → Json} {l : List α}
    (h : ∀ a ∈ l, read (write a) = some a) : listOf? read (.array (l.map write)) = some l := by
  induction l with
  | nil => rfl
  | cons a rest ih =>
    have ha := h a List.mem_cons_self
    have hrest := ih fun b hb => h b (List.mem_cons_of_mem a hb)
    rw [listOf?] at hrest ⊢
    simp [ha, hrest]

/-- A value that may be absent, when what is written of it is not null. -/
theorem nullable_elim {read : Json → Option α} {write : α → Json} {value : Option α}
    (hnull : ∀ a, write a ≠ .null) (h : ∀ a ∈ value, read (write a) = some a) :
    nullable read (value.elim .null write) = some value := by
  cases value with
  | none => rfl
  | some a =>
    rw [Option.elim_some]
    unfold nullable
    split
    · rename_i hwrite
      exact absurd hwrite (hnull a)
    · rw [h a rfl, Option.map_some]

/-! ## Scalars and properties -/

theorem text?_string (s : String) : text? (.string s) = some s := rfl

theorem identifier?_ofIdentifier {kind : IdentifierKind} (id : Identifier kind) :
    identifier? (ofIdentifier id) = some id := rfl

theorem fitsSigned_toInt (n : Int64) : Word.fitsSigned n.toInt := by
  have hlower := Int64.le_toInt n
  have hupper := Int64.toInt_lt n
  simp only [Word.fitsSigned, Bool.and_eq_true, decide_eq_true_eq]
  omega

/-- A scalar keeps its kind. -/
theorem scalar?_ofScalar (s : Scalar) : scalar? (ofScalar s) = some s := by
  cases s with
  | boolean b => rfl
  | integer n => simp [ofScalar, scalar?, fitsSigned_toInt]
  | float x => rfl
  | text s => rfl

/-- Properties are those that their entries build up. -/
theorem foldl_insert_toList (m : Properties) :
    m.toList.foldl (fun (acc : Properties) entry => acc.insert entry.1 entry.2) ∅ = m := by
  have hstep : KeyedStep (fun (acc : Properties) (entry : String × Scalar) =>
      acc.insert entry.1 entry.2) Prod.fst (fun acc name => acc[name]?)
      (fun entry _ after => after = some entry.2) (fun _ => True) m.toList :=
    ⟨fun _ _ _ _ => trivial, fun acc entry _ _ => by simp, fun acc entry _ _ name hname => by
      simp [Std.ExtTreeMap.getElem?_insert, Ne.symm hname]⟩
  have hdistinct : (m.toList.map Prod.fst).Nodup := by
    rw [Std.ExtTreeMap.map_fst_toList_eq_keys]
    exact Std.ExtTreeMap.nodup_keys
  obtain ⟨-, hown, hother⟩ := hstep.foldl hdistinct (s := ∅) trivial
  refine Std.ExtTreeMap.ext_getElem? fun name => ?_
  cases hm : m[name]? with
  | none =>
    have hname : name ∉ m.toList.map Prod.fst := by
      rw [Std.ExtTreeMap.map_fst_toList_eq_keys, Std.ExtTreeMap.mem_keys,
        Std.ExtTreeMap.mem_iff_isSome_getElem?, hm]
      simp
    rw [hother name hname]
    simp
  | some s => exact hown (name, s) (Std.ExtTreeMap.mem_toList_iff_getElem?_eq_some.2 hm)

theorem properties?_ofProperties (m : Properties) :
    properties? (.object (m.toList.map fun entry => (entry.1, ofScalar entry.2))) = some m := by
  have hfold : ∀ (entries : List (String × Scalar)) (acc : Properties),
      (entries.map fun entry => (entry.1, ofScalar entry.2)).foldlM
          (fun (acc : Properties) (member : String × Json) =>
            (scalar? member.2).map (acc.insert member.1)) acc =
        some (entries.foldl (fun (acc : Properties) entry => acc.insert entry.1 entry.2) acc) := by
    intro entries
    induction entries with
    | nil => exact fun acc => rfl
    | cons entry rest ih =>
      intro acc
      rw [List.map_cons, List.foldlM_cons]
      simp only [scalar?_ofScalar, Option.map_some, Option.bind_eq_bind, Option.bind_some]
      exact ih _
  exact (hfold m.toList ∅).trans (congrArg some (foldl_insert_toList m))

/-! ## Relations, values and statements -/

theorem relation?_ofRelation (r : Relation) : relation? (ofRelation r) = some r := by
  have hfields : fields? ["id", "type", "target", "properties"] (ofRelation r) =
      some [some (ofIdentifier r.id), some (ofIdentifier r.type), some (ofIdentifier r.target),
        some (.object (r.properties.toList.map fun entry => (entry.1, ofScalar entry.2)))] := rfl
  simp [relation?, hfields, required, defaulted, identifier?_ofIdentifier,
    properties?_ofProperties]

theorem content?_ofContent (v : Value) : content? v.kind (ofContent v) = some v := by
  cases v with
  | texts parts =>
    have hparts : listOf? text? (.array (parts.map .string)) = some parts :=
      listOf?_array fun s _ => text?_string s
    simp [content?, Value.kind, ofContent, hparts]
  | number x => rfl
  | boolean b => rfl
  | relations rs =>
    have hrelations : listOf? relation? (.array (rs.map ofRelation)) = some rs :=
      listOf?_array fun r _ => relation?_ofRelation r
    simp [content?, Value.kind, ofContent, hrelations]

theorem valueKind?_ofValueKind (k : ValueKind) : valueKind? (ofValueKind k) = some k := by
  cases k <;> rfl

theorem value?_ofValue (v : Value) : value? (ofValue v) = some v := by
  have hmembers : value? (ofValue v) = (valueKind? (ofValueKind v.kind)).bind fun k =>
      content? k (ofContent v) := rfl
  rw [hmembers, valueKind?_ofValueKind, Option.bind_some, content?_ofContent]

/-- A value is never written as null, which stands for its absence. -/
theorem ofValue_ne_null (v : Value) : ofValue v ≠ .null := by
  simp [ofValue]

theorem statement?_ofStatement (s : Statement) : statement? (ofStatement s) = some s := by
  have hfields : fields? ["property", "property_type", "value"] (ofStatement s) =
      some [some (.string s.property), some (.string s.propertyType),
        some (s.value.elim .null ofValue)] := rfl
  have hvalue : nullable value? (s.value.elim .null ofValue) = some s.value :=
    nullable_elim ofValue_ne_null fun v _ => value?_ofValue v
  simp [statement?, hfields, required, defaulted, text?_string, hvalue]

theorem statementList?_ofStatementList (l : StatementList) :
    statementList? (ofStatementList l) = some l := by
  have hstatements : listOf? statement? (ofStatementList l) = some l.toList :=
    listOf?_array fun s _ => statement?_ofStatement s
  rw [statementList?, hstatements, Option.map_some, StatementList.ofList_toList]

/-! ## Subjects and pages -/

theorem subject?_ofSubject (s : Subject) : subject? (ofSubject s) = some s := by
  have hfields : fields? ["id", "label", "schema", "statements"] (ofSubject s) =
      some [some (ofIdentifier s.id), some (.string s.label), some (ofIdentifier s.schema),
        some (ofStatementList s.statements)] := rfl
  simp [subject?, hfields, required, defaulted, identifier?_ofIdentifier, text?_string,
    statementList?_ofStatementList]

theorem ofSubject_ne_null (s : Subject) : ofSubject s ≠ .null := by
  simp [ofSubject]

theorem pageProperties?_ofPageProperties (p : PageProperties) :
    pageProperties? (ofPageProperties p) = some p := by
  have hfields : fields? ["title", "creation_time", "modification_time", "last_editor"]
      (ofPageProperties p) =
      some [some (.string p.title), some (.string p.creationTime),
        some (.string p.modificationTime), some (.string p.lastEditor)] := rfl
  simp [pageProperties?, hfields, required, defaulted, text?_string]

theorem pageSubjects?_ofPageSubjects (s : PageSubjects) :
    pageSubjects? (ofPageSubjects s) = some s := by
  have hfields : fields? ["main", "children"] (ofPageSubjects s) =
      some [some (s.main.elim .null ofSubject), some (.array (s.children.map ofSubject))] := rfl
  have hmain : nullable subject? (s.main.elim .null ofSubject) = some s.main :=
    nullable_elim ofSubject_ne_null fun x _ => subject?_ofSubject x
  have hchildren : listOf? subject? (.array (s.children.map ofSubject)) = some s.children :=
    listOf?_array fun x _ => subject?_ofSubject x
  simp [pageSubjects?, hfields, defaulted, hmain, hchildren]

/-- **The document of a page is read as the page.** -/
theorem page?_ofPage (p : Page) : page? (ofPage p) = some p := by
  have hfields : fields? ["id", "properties", "subjects"] (ofPage p) =
      some [some (ofIdentifier p.id), some (ofPageProperties p.properties),
        some (ofPageSubjects p.subjects)] := rfl
  simp [page?, hfields, required, defaulted, identifier?_ofIdentifier,
    pageProperties?_ofPageProperties, pageSubjects?_ofPageSubjects]

end WikiGraph.Document
