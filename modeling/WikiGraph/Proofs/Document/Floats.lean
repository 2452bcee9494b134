import WikiGraph.Proofs.Document.Records
import WikiGraph.Proofs.Json.Numbers
import WikiGraph.Proofs.Json.Parsing
/-!
# The binary fractions of a page

A page holds binary fractions in the numbers of its statements and in the properties of its
relations (`Page.floats`). All that were read from a document are finite, if the numbers of the
document are (`finite_of_page?`), and a document that is written can be read if those numbers can
(`writable_ofPage`).
-/
namespace WikiGraph

def Scalar.floats : Scalar → List Binary64
  | .float x => [x]
  | _ => []

def Relation.floats (r : Relation) : List Binary64 :=
  r.properties.toList.flatMap fun entry => entry.2.floats

def Value.floats : Value → List Binary64
  | .number x => [x]
  | .relations rs => rs.flatMap Relation.floats
  | _ => []

def Statement.floats (s : Statement) : List Binary64 := s.value.elim [] Value.floats

def Subject.floats (s : Subject) : List Binary64 := s.statements.toList.flatMap Statement.floats

def Page.floats (p : Page) : List Binary64 :=
  (p.subjects.main.toList ++ p.subjects.children).flatMap Subject.floats

namespace Document

open Json

/-! ## Documents that can be read again -/

/-- A value that can be written and read again: nothing in it is unreadable, it is nested no deeper
than a limit, and its numbers read back. -/
structure Writable (limit : Nat) (j : Json) : Prop where
  readable : j.readable
  depth_le : j.depth ≤ limit
  readsBack : ∀ n ∈ j.numbers, n.ReadsBack

variable {limit : Nat}

theorem Writable.mono {limit' : Nat} {j : Json} (h : Writable limit j) (hl : limit ≤ limit') :
    Writable limit' j := ⟨h.readable, h.depth_le.trans hl, h.readsBack⟩

theorem writable_null : Writable limit .null := ⟨rfl, Nat.zero_le _, fun _ hn => nomatch hn⟩

theorem writable_bool (b : Bool) : Writable limit (.bool b) :=
  ⟨rfl, Nat.zero_le _, fun _ hn => nomatch hn⟩

theorem writable_string (s : String) : Writable limit (.string s) :=
  ⟨rfl, Nat.zero_le _, fun _ hn => nomatch hn⟩

theorem writable_number {n : JsonNumber} (h : n.ReadsBack) : Writable limit (.number n) :=
  ⟨rfl, Nat.zero_le _, fun _ hn => List.mem_singleton.1 hn ▸ h⟩

theorem writable_array {items : List Json} (h : ∀ j ∈ items, Writable limit j) :
    Writable (limit + 1) (.array items) := by
  have hdepth : depthOfItems items ≤ limit := depthOfItems_le_iff.2 fun j hj => (h j hj).depth_le
  refine ⟨readableItems_iff.2 fun j hj => (h j hj).readable, ?_, fun n hn => ?_⟩
  · rw [depth]
    exact Nat.succ_le_succ hdepth
  · obtain ⟨j, hj, hn⟩ := mem_numbersOfItems.1 hn
    exact (h j hj).readsBack n hn

theorem writable_object {members : List (String × Json)} (h : ∀ m ∈ members, Writable limit m.2) :
    Writable (limit + 1) (.object members) := by
  have hdepth : depthOfMembers members ≤ limit :=
    depthOfMembers_le_iff.2 fun m hm => (h m hm).depth_le
  refine ⟨readableMembers_iff.2 fun m hm => (h m hm).readable, ?_, fun n hn => ?_⟩
  · rw [depth]
    exact Nat.succ_le_succ hdepth
  · obtain ⟨m, hm, hn⟩ := mem_numbersOfMembers.1 hn
    exact (h m hm).readsBack n hn

/-- Every binary fraction is written as a numeral that stands for it. -/
def ReadBack (floats : List Binary64) : Prop := ∀ x ∈ floats, (JsonNumber.float x).ReadsBack

theorem readBack_flatMap {α : Type} {l : List α} {floats : α → List Binary64}
    (h : ReadBack (l.flatMap floats)) {a : α} (ha : a ∈ l) : ReadBack (floats a) :=
  fun x hx => h x (List.mem_flatMap.2 ⟨a, ha, hx⟩)

theorem fits_toInt (n : Int64) : Fits n.toInt := by
  have hfits := fitsSigned_toInt n
  unfold Fits
  split
  · exact hfits
  · simp only [Word.fitsSigned, Word.fitsUnsigned, Bool.and_eq_true, decide_eq_true_eq] at *
    omega

theorem writable_ofScalar {s : Scalar} (h : ReadBack s.floats) : Writable limit (ofScalar s) := by
  cases s with
  | boolean b => exact writable_bool b
  | integer n => exact writable_number (JsonNumber.readsBack_integer (fits_toInt n))
  | float x => exact writable_number (h x (List.mem_singleton_self x))
  | text s => exact writable_string s

theorem writable_ofRelation {r : Relation} (h : ReadBack r.floats) : Writable 2 (ofRelation r) := by
  have hproperties : Writable 1 (.object (r.properties.toList.map fun entry =>
      (entry.1, ofScalar entry.2))) := by
    refine writable_object fun m hm => ?_
    obtain ⟨entry, he, rfl⟩ := List.mem_map.1 hm
    exact writable_ofScalar (readBack_flatMap h he)
  refine writable_object ?_
  simp only [List.forall_mem_cons]
  exact ⟨writable_string _, writable_string _, writable_string _, hproperties, by simp⟩

theorem writable_ofContent {v : Value} (h : ReadBack v.floats) : Writable 3 (ofContent v) := by
  cases v with
  | texts parts =>
    show Writable (2 + 1) (.array (parts.map .string))
    refine writable_array fun j hj => ?_
    obtain ⟨s, -, rfl⟩ := List.mem_map.1 hj
    exact writable_string s
  | number x => exact writable_number (h x (List.mem_singleton_self x))
  | boolean b => exact writable_bool b
  | relations rs =>
    refine writable_array fun j hj => ?_
    obtain ⟨r, hr, rfl⟩ := List.mem_map.1 hj
    exact writable_ofRelation (readBack_flatMap h hr)

theorem writable_ofValue {v : Value} (h : ReadBack v.floats) : Writable 4 (ofValue v) := by
  refine writable_object ?_
  simp only [List.forall_mem_cons]
  exact ⟨writable_string _, writable_ofContent h, by simp⟩

theorem writable_ofStatement {s : Statement} (h : ReadBack s.floats) :
    Writable 5 (ofStatement s) := by
  have hvalue : Writable 4 (s.value.elim .null ofValue) := by
    unfold Statement.floats at h
    cases hv : s.value with
    | none => exact writable_null
    | some v =>
      rw [hv] at h
      exact writable_ofValue h
  refine writable_object ?_
  simp only [List.forall_mem_cons]
  exact ⟨writable_string _, writable_string _, hvalue, by simp⟩

theorem writable_ofSubject {s : Subject} (h : ReadBack s.floats) : Writable 7 (ofSubject s) := by
  have hstatements : Writable 6 (ofStatementList s.statements) := by
    refine writable_array fun j hj => ?_
    obtain ⟨statement, hs, rfl⟩ := List.mem_map.1 hj
    exact writable_ofStatement (readBack_flatMap h hs)
  refine writable_object ?_
  simp only [List.forall_mem_cons]
  exact ⟨writable_string _, writable_string _, writable_string _, hstatements, by simp⟩

/-- **The document of a page can be read**, if the binary fractions of the page read back. -/
theorem writable_ofPage {p : Page} (h : ReadBack p.floats) : Writable 10 (ofPage p) := by
  have hsubject : ∀ s ∈ p.subjects.main.toList ++ p.subjects.children, Writable 7 (ofSubject s) :=
    fun s hs => writable_ofSubject (readBack_flatMap h hs)
  have hmain : Writable 8 (p.subjects.main.elim .null ofSubject) := by
    cases hm : p.subjects.main with
    | none => exact writable_null
    | some s =>
      exact (hsubject s (List.mem_append_left _ (by simp [hm]))).mono (by decide)
  have hchildren : Writable 8 (.array (p.subjects.children.map ofSubject)) := by
    refine writable_array fun j hj => ?_
    obtain ⟨s, hs, rfl⟩ := List.mem_map.1 hj
    exact hsubject s (List.mem_append_right _ hs)
  have hsubjects : Writable 9 (ofPageSubjects p.subjects) := by
    refine writable_object ?_
    simp only [List.forall_mem_cons]
    exact ⟨hmain, hchildren, by simp⟩
  have hproperties : Writable 9 (ofPageProperties p.properties) := by
    refine writable_object ?_
    simp only [List.forall_mem_cons]
    exact ⟨writable_string _, writable_string _, writable_string _, writable_string _, by simp⟩
  refine writable_object ?_
  simp only [List.forall_mem_cons]
  exact ⟨writable_string _, hproperties, hsubjects, by simp⟩

/-! ## Documents that are read -/

def Finite (floats : List Binary64) : Prop := ∀ x ∈ floats, x.isFinite

theorem finite_flatMap {α : Type} {l : List α} {floats : α → List Binary64}
    (h : ∀ a ∈ l, Finite (floats a)) : Finite (l.flatMap floats) := fun x hx => by
  obtain ⟨a, ha, hx⟩ := List.mem_flatMap.1 hx
  exact h a ha x hx

theorem finite_nil : Finite [] := fun _ hx => nomatch hx

section Reading

variable {α β : Type} {j : Json}

theorem exists_of_mem_mapM {f : α → Option β} {l : List α} {r : List β} (h : l.mapM f = some r)
    {b : β} (hb : b ∈ r) : ∃ a ∈ l, f a = some b := by
  induction l generalizing r with
  | nil =>
    cases h
    cases hb
  | cons a rest ih =>
    rw [List.mapM_cons] at h
    obtain ⟨first, hfirst, h⟩ := Option.bind_eq_some_iff.1 h
    obtain ⟨others, hothers, h⟩ := Option.bind_eq_some_iff.1 h
    cases h
    rcases List.mem_cons.1 hb with rfl | hb
    · exact ⟨a, List.mem_cons_self, hfirst⟩
    · obtain ⟨c, hc, hf⟩ := ih hothers hb
      exact ⟨c, List.mem_cons_of_mem a hc, hf⟩

/-- What is read of a list comes from its items. -/
theorem exists_of_mem_listOf? {read : Json → Option α} {l : List α} (hj : j.AllFinite)
    (h : listOf? read j = some l) {a : α} (ha : a ∈ l) : ∃ k, k.AllFinite ∧ read k = some a := by
  cases j with
  | array items =>
    obtain ⟨k, hk, hread⟩ := exists_of_mem_mapM h ha
    exact ⟨k, allFinite_array.1 hj k hk, hread⟩
  | _ => cases h

/-- What is written for the fields of a record is part of it. -/
theorem allFinite_of_fields? {names : List String} {fields : List (Option Json)} (hj : j.AllFinite)
    (h : fields? names j = some fields) {k : Json} (hk : some k ∈ fields) : k.AllFinite := by
  cases j with
  | object members =>
    obtain ⟨name, -, hfield⟩ := exists_of_mem_mapM h hk
    unfold fieldOf? at hfield
    split at hfield
    · cases hfield
    · rename_i name' k' hfilter
      cases hfield
      have hm : (name', k) ∈ members.filter (·.1 = name) := by simp [hfilter]
      exact allFinite_object.1 hj _ (List.mem_filter.1 hm).1
    · cases hfield
  | array items =>
    simp only [fields?] at h
    split at h
    · cases h
      rcases List.mem_append.1 hk with hk | hk
      · obtain ⟨k', hk', heq⟩ := List.mem_map.1 hk
        cases heq
        exact allFinite_array.1 hj k hk'
      · exact nomatch (List.mem_replicate.1 hk).2
    · cases h
  | _ => cases h

theorem defaulted_eq_some {read : Json → Option α} {default a : α} {field : Option Json}
    (h : defaulted read default field = some a) :
    a = default ∨ ∃ k, field = some k ∧ read k = some a := by
  cases field with
  | none => exact .inl (Option.some.inj h).symm
  | some k => exact .inr ⟨k, rfl, h⟩

theorem nullable_eq_some {read : Json → Option α} {value : Option α}
    (h : nullable read j = some value) : ∀ a ∈ value, read j = some a := by
  unfold nullable at h
  split at h
  · cases h
    exact fun a ha => nomatch ha
  · obtain ⟨b, hb, rfl⟩ := Option.map_eq_some_iff.1 h
    intro a ha
    cases ha
    exact hb

end Reading

theorem finite_of_scalar? {j : Json} {s : Scalar} (hj : j.AllFinite) (h : scalar? j = some s) :
    Finite s.floats := by
  unfold scalar? at h
  split at h
  · cases h
    exact finite_nil
  · rename_i n
    split at h
    · cases h
      exact finite_nil
    · cases h
      intro x hx
      rw [List.mem_singleton.1 hx]
      exact Binary64.isFinite_ofInt (allFinite_number.1 hj)
  · cases h
    intro x hx
    rw [List.mem_singleton.1 hx]
    exact allFinite_number.1 hj
  · cases h
    exact finite_nil
  · cases h

theorem finite_of_properties? {j : Json} {m : Properties} (hj : j.AllFinite)
    (h : properties? j = some m) : ∀ entry ∈ m.toList, Finite entry.2.floats := by
  cases j with
  | object members =>
    have hkept : ∀ (name : String) (s : Scalar), m[name]? = some s → Finite s.floats := by
      refine foldlM_induction (P := fun m : Properties => ∀ (name : String) (s : Scalar),
        m[name]? = some s → Finite s.floats)
        (fun acc member hm acc' hacc hstep name s hs => ?_) (by simp) h
      obtain ⟨scalar, hscalar, rfl⟩ := Option.map_eq_some_iff.1 hstep
      rw [Std.ExtTreeMap.getElem?_insert] at hs
      split at hs
      · cases hs
        exact finite_of_scalar? (allFinite_object.1 hj member hm) hscalar
      · exact hacc name s hs
    exact fun entry he =>
      hkept entry.1 entry.2 (Std.ExtTreeMap.mem_toList_iff_getElem?_eq_some.1 he)
  | _ => cases h

theorem finite_of_relation? {j : Json} {r : Relation} (hj : j.AllFinite)
    (h : relation? j = some r) : Finite r.floats := by
  unfold relation? at h
  split at h
  · rename_i id type target properties hfields
    simp only [Option.bind_eq_bind, Option.bind_eq_some_iff, Option.pure_def,
      Option.some.injEq] at h
    obtain ⟨_, -, _, -, _, -, m, hm, rfl⟩ := h
    rcases defaulted_eq_some hm with rfl | ⟨k, rfl, hk⟩
    · exact finite_flatMap fun entry he =>
        absurd (Std.ExtTreeMap.mem_toList_iff_getElem?_eq_some.1 he) (by simp)
    · exact finite_flatMap (finite_of_properties? (allFinite_of_fields? hj hfields (by simp)) hk)
  · cases h

theorem finite_of_content? {k : ValueKind} {j : Json} {v : Value} (hj : j.AllFinite)
    (h : content? k j = some v) : Finite v.floats := by
  cases k with
  | string =>
    obtain ⟨parts, -, rfl⟩ := Option.map_eq_some_iff.1 h
    exact finite_nil
  | number =>
    obtain ⟨x, hx, rfl⟩ := Option.map_eq_some_iff.1 h
    intro y hy
    rw [List.mem_singleton.1 hy]
    unfold float? at hx
    split at hx
    · cases hx
      exact Binary64.isFinite_ofInt (allFinite_number.1 hj)
    · cases hx
      exact allFinite_number.1 hj
    · cases hx
  | boolean =>
    obtain ⟨b, -, rfl⟩ := Option.map_eq_some_iff.1 h
    exact finite_nil
  | relation =>
    obtain ⟨rs, hrs, rfl⟩ := Option.map_eq_some_iff.1 h
    refine finite_flatMap fun r hr => ?_
    obtain ⟨k, hk, hread⟩ := exists_of_mem_listOf? hj hrs hr
    exact finite_of_relation? hk hread

theorem finite_of_value? {j : Json} {v : Value} (hj : j.AllFinite) (h : value? j = some v) :
    Finite v.floats := by
  unfold value? at h
  split at h
  · rename_i kind content
    obtain ⟨k, -, hcontent⟩ := Option.bind_eq_some_iff.1 h
    exact finite_of_content? (allFinite_array.1 hj content (by simp)) hcontent
  · rename_i members
    split at h
    · rename_i first a second b hfilter
      have hmem {m : String × Json} (hm : m ∈ [(first, a), (second, b)]) : m.2.AllFinite :=
        allFinite_object.1 hj m (List.mem_filter.1 (hfilter ▸ hm)).1
      split at h
      · obtain ⟨k, -, hcontent⟩ := Option.bind_eq_some_iff.1 h
        exact finite_of_content? (hmem (m := (second, b)) (by simp)) hcontent
      · split at h
        · split at h
          · obtain ⟨k, -, hcontent⟩ := Option.bind_eq_some_iff.1 h
            exact finite_of_content? (hmem (m := (first, a)) (by simp)) hcontent
          · cases h
        · cases h
    · cases h
  · cases h

theorem finite_of_statement? {j : Json} {s : Statement} (hj : j.AllFinite)
    (h : statement? j = some s) : Finite s.floats := by
  unfold statement? at h
  split at h
  · rename_i property propertyType value hfields
    simp only [Option.bind_eq_bind, Option.bind_eq_some_iff, Option.pure_def,
      Option.some.injEq] at h
    obtain ⟨_, -, _, -, found, hfound, rfl⟩ := h
    unfold Statement.floats
    rcases defaulted_eq_some hfound with rfl | ⟨k, rfl, hk⟩
    · exact finite_nil
    · cases found with
      | none => exact finite_nil
      | some v =>
        exact finite_of_value? (allFinite_of_fields? hj hfields (by simp))
          (nullable_eq_some hk v rfl)
  · cases h

theorem finite_of_subject? {j : Json} {s : Subject} (hj : j.AllFinite) (h : subject? j = some s) :
    Finite s.floats := by
  unfold subject? at h
  split at h
  · rename_i id label schema statements hfields
    simp only [Option.bind_eq_bind, Option.bind_eq_some_iff, Option.pure_def,
      Option.some.injEq] at h
    obtain ⟨_, -, _, -, _, -, l, hl, rfl⟩ := h
    refine finite_flatMap fun t ht => ?_
    rcases defaulted_eq_some hl with rfl | ⟨k, rfl, hk⟩
    · exact absurd ht List.not_mem_nil
    · obtain ⟨found, hfound, rfl⟩ := Option.map_eq_some_iff.1 hk
      have hk' : k.AllFinite := allFinite_of_fields? hj hfields (by simp)
      obtain ⟨k', hk', hread⟩ := exists_of_mem_listOf? hk' hfound
        (StatementList.mem_of_mem_ofList ht)
      exact finite_of_statement? hk' hread
  · cases h

theorem finite_of_pageSubjects? {j : Json} {subjects : PageSubjects} (hj : j.AllFinite)
    (h : pageSubjects? j = some subjects) :
    ∀ s ∈ subjects.main.toList ++ subjects.children, Finite s.floats := by
  unfold pageSubjects? at h
  split at h
  · rename_i main children hfields
    simp only [Option.bind_eq_bind, Option.bind_eq_some_iff, Option.pure_def,
      Option.some.injEq] at h
    obtain ⟨main', hmain, children', hchildren, rfl⟩ := h
    intro s hs
    rcases List.mem_append.1 hs with hs | hs
    · rcases defaulted_eq_some hmain with rfl | ⟨k, rfl, hk⟩
      · exact nomatch hs
      · have hread := nullable_eq_some hk s (by simpa using hs)
        exact finite_of_subject? (allFinite_of_fields? hj hfields (by simp)) hread
    · rcases defaulted_eq_some hchildren with rfl | ⟨k, rfl, hk⟩
      · exact nomatch hs
      · obtain ⟨k', hk', hread⟩ := exists_of_mem_listOf?
          (allFinite_of_fields? hj hfields (by simp)) hk hs
        exact finite_of_subject? hk' hread
  · cases h

/-- **The binary fractions of a page that is read are finite**, if the numbers of its document
are. -/
theorem finite_of_page? {j : Json} {p : Page} (hj : j.AllFinite) (h : page? j = some p) :
    Finite p.floats := by
  unfold page? at h
  split at h
  · rename_i id properties subjects hfields
    simp only [Option.bind_eq_bind, Option.bind_eq_some_iff, Option.pure_def,
      Option.some.injEq] at h
    obtain ⟨_, -, _, -, found, hfound, rfl⟩ := h
    refine finite_flatMap fun s hs => ?_
    rcases defaulted_eq_some hfound with rfl | ⟨k, rfl, hk⟩
    · exact nomatch hs
    · exact finite_of_pageSubjects? (allFinite_of_fields? hj hfields (by simp)) hk s hs
  · cases h

end Document
end WikiGraph
