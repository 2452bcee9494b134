import WikiGraph.Graph.Node
/-!
# Values that compare equal

A scalar is the same as itself unless it is a pattern that is no number. So maps of scalars are the
same as themselves when no such pattern is in them, and a relation or a subject node that holds none
is recognised when it is written again.

Two values that are the same as a third are the same as each other (`same_of_same`), so whatever a page
is written over, what it leaves compares equal.
-/
namespace WikiGraph

theorem isEqv_self {α : Type} {eqv : α → α → Bool} {l : List α} (h : ∀ a ∈ l, eqv a a) :
    l.isEqv l eqv := by
  induction l with
  | nil => rfl
  | cons a rest ih =>
    rw [List.isEqv_cons_cons, h a List.mem_cons_self, Bool.true_and]
    exact ih fun b hb => h b (List.mem_cons_of_mem a hb)

/-- Lists that are equivalent element by element have the same keys when equivalent elements have. -/
theorem map_eq_of_isEqv {α κ : Type} {eqv : α → α → Bool} {key : α → κ}
    (hk : ∀ a b, eqv a b → key a = key b) {l l' : List α} (h : l.isEqv l' eqv) :
    l.map key = l'.map key := by
  induction l generalizing l' with
  | nil =>
    cases l' with
    | nil => rfl
    | cons b rest' => cases h
  | cons a rest ih =>
    cases l' with
    | nil => cases h
    | cons b rest' =>
      rw [List.isEqv_cons_cons, Bool.and_eq_true] at h
      rw [List.map_cons, List.map_cons, hk a b h.1, ih h.2]

/-- Properties that compare equal have the same names. -/
theorem Properties.mem_iff_of_same {a b : Properties} (h : a.same b) (name : String) :
    name ∈ a ↔ name ∈ b := by
  have hk : a.keys = b.keys := by
    rw [← Std.ExtTreeMap.map_fst_toList_eq_keys, ← Std.ExtTreeMap.map_fst_toList_eq_keys]
    refine map_eq_of_isEqv (fun p q hpq => ?_) h
    exact of_decide_eq_true (Bool.and_eq_true_iff.1 hpq).1
  rw [← Std.ExtTreeMap.mem_keys, hk, Std.ExtTreeMap.mem_keys]

/-- No property is a pattern that is no number. -/
def Properties.IsComparable (properties : Properties) : Prop :=
  ∀ (name : String) (scalar : Scalar), properties[name]? = some scalar → scalar.isComparable

/-- No property holds a pattern that is no number. -/
def PropertyLists.IsComparable (properties : PropertyLists) : Prop :=
  ∀ (name : String) (scalars : List Scalar), properties[name]? = some scalars →
    ∀ scalar ∈ scalars, scalar.isComparable

theorem Properties.isComparable_of_toList {properties : Properties}
    (h : ∀ entry ∈ properties.toList, entry.2.isComparable) : properties.IsComparable :=
  fun name scalar hs => h (name, scalar) (Std.ExtTreeMap.mem_toList_iff_getElem?_eq_some.2 hs)

theorem Properties.isComparable_of_toList_nil {properties : Properties}
    (h : properties.toList = []) : properties.IsComparable :=
  isComparable_of_toList fun _ he => absurd (h ▸ he) List.not_mem_nil

theorem Properties.IsComparable.same_self {properties : Properties} (h : properties.IsComparable) :
    properties.same properties := by
  refine isEqv_self fun entry he => ?_
  have hc := h entry.1 entry.2 (Std.ExtTreeMap.mem_toList_iff_getElem?_eq_some.1 he)
  simp [Scalar.same_self_iff, hc]

theorem PropertyLists.IsComparable.same_self {properties : PropertyLists}
    (h : properties.IsComparable) : properties.same properties := by
  refine isEqv_self fun entry he => ?_
  have hc := h entry.1 entry.2 (Std.ExtTreeMap.mem_toList_iff_getElem?_eq_some.1 he)
  have hs : entry.2.isEqv entry.2 Scalar.same :=
    isEqv_self fun scalar hm => by rw [Scalar.same_self_iff, hc scalar hm]
  simp [hs]

theorem Relation.same_self {r : Relation} (h : r.properties.IsComparable) : r.same r := by
  simp [Relation.same, h.same_self]

theorem SubjectNode.same_self {node : SubjectNode} (h : node.properties.IsComparable) :
    node.same node := by
  simp [SubjectNode.same, h.same_self]

theorem Relation.same_iff {a b : Relation} :
    a.same b ↔ a.id = b.id ∧ a.type = b.type ∧ a.target = b.target ∧
      a.properties.same b.properties := by
  simp [Relation.same, and_assoc]

theorem SubjectNode.same_iff {a b : SubjectNode} :
    a.same b ↔ a.id = b.id ∧ a.name = b.name ∧ a.schema = b.schema ∧
      a.properties.same b.properties := by
  simp [SubjectNode.same, and_assoc]

/-! ## Values that compare equal to a third -/

theorem Binary64.same_of_same {a b c : Binary64} (ha : a.same c) (hb : b.same c) : a.same b := by
  cases a
  cases b
  cases c
  simp only [Binary64.same, Bool.and_eq_true, Bool.or_eq_true, decide_eq_true_iff] at ha hb ⊢
  obtain ⟨⟨hna, -⟩, hac⟩ := ha
  obtain ⟨⟨hnb, -⟩, hbc⟩ := hb
  refine ⟨⟨hna, hnb⟩, ?_⟩
  rcases hac with rfl | ⟨hza, hzc⟩
  · rcases hbc with rfl | ⟨hzb, hza⟩
    · exact .inl rfl
    · exact .inr ⟨hza, hzb⟩
  · rcases hbc with rfl | ⟨hzb, -⟩
    · exact .inr ⟨hza, hzc⟩
    · exact .inr ⟨hza, hzb⟩

theorem Scalar.same_of_same {a b c : Scalar} (ha : a.same c) (hb : b.same c) : a.same b := by
  cases c with
  | float z =>
    cases a with
    | float x =>
      cases b with
      | float y => exact Binary64.same_of_same ha hb
      | _ => cases hb
    | _ => cases ha
  | _ => cases a <;> cases b <;> simp_all [Scalar.same]

theorem isEqv_of_isEqv {α : Type} {eqv : α → α → Bool}
    (h : ∀ a b c, eqv a c → eqv b c → eqv a b) {l l' l'' : List α} (hl : l.isEqv l'' eqv)
    (hl' : l'.isEqv l'' eqv) : l.isEqv l' eqv := by
  induction l'' generalizing l l' with
  | nil =>
    cases l <;> cases l' <;> simp_all [List.isEqv]
  | cons c rest ih =>
    cases l with
    | nil => cases hl
    | cons a as =>
      cases l' with
      | nil => cases hl'
      | cons b bs =>
        rw [List.isEqv_cons_cons, Bool.and_eq_true] at hl hl' ⊢
        exact ⟨h a b c hl.1 hl'.1, ih hl.2 hl'.2⟩

theorem Properties.same_of_same {a b c : Properties} (ha : a.same c) (hb : b.same c) :
    a.same b := by
  refine isEqv_of_isEqv (fun x y z hx hy => ?_) ha hb
  simp only [Bool.and_eq_true, decide_eq_true_iff] at hx hy ⊢
  exact ⟨hx.1.trans hy.1.symm, Scalar.same_of_same hx.2 hy.2⟩

theorem PropertyLists.same_of_same {a b c : PropertyLists} (ha : a.same c) (hb : b.same c) :
    a.same b := by
  refine isEqv_of_isEqv (fun x y z hx hy => ?_) ha hb
  simp only [Bool.and_eq_true, decide_eq_true_iff] at hx hy ⊢
  have hs : ∀ a b c : Scalar, a.same c → b.same c → a.same b := fun _ _ _ => Scalar.same_of_same
  exact ⟨hx.1.trans hy.1.symm, isEqv_of_isEqv hs hx.2 hy.2⟩

theorem Relation.same_of_same {a b c : Relation} (ha : a.same c) (hb : b.same c) : a.same b := by
  obtain ⟨hid, htype, htarget, hp⟩ := Relation.same_iff.1 ha
  obtain ⟨hid', htype', htarget', hp'⟩ := Relation.same_iff.1 hb
  exact Relation.same_iff.2 ⟨hid.trans hid'.symm, htype.trans htype'.symm,
    htarget.trans htarget'.symm, Properties.same_of_same hp hp'⟩

theorem SubjectNode.same_of_same {a b c : SubjectNode} (ha : a.same c) (hb : b.same c) :
    a.same b := by
  obtain ⟨hid, hname, hschema, hp⟩ := SubjectNode.same_iff.1 ha
  obtain ⟨hid', hname', hschema', hp'⟩ := SubjectNode.same_iff.1 hb
  exact SubjectNode.same_iff.2 ⟨hid.trans hid'.symm, hname.trans hname'.symm,
    hschema.trans hschema'.symm, PropertyLists.same_of_same hp hp'⟩

end WikiGraph
