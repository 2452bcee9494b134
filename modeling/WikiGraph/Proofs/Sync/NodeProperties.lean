import WikiGraph.Proofs.KeyedFold
import WikiGraph.Proofs.KeyedList
import WikiGraph.Sync.Projection
/-!
# Which statements become node properties

A statement puts scalars under its property, or nothing (`PutsUnder` says when), and the properties of
a node are what each statement puts under its own property (`getElem?_project`). So a statement that
holds relations is never among them, whatever type the schema gives it, and the order of the
statements plays no part.
-/
namespace WikiGraph

/-! ## The type that governs a statement -/

/-- The name of the type that governs a statement: that of the first definition that the schema has of
its property, or the statement's own when there is none. -/
inductive Governs : Option Schema → Statement → String → Prop
  | defined {schema : Schema} {s : Statement} {before after : List PropertyDefinition}
      {definition : PropertyDefinition} (hs : schema.properties = before ++ definition :: after)
      (hfirst : ∀ d ∈ before, d.name ≠ s.property) (hname : definition.name = s.property) :
      Governs (some schema) s definition.typeName
  | undefined {schema : Option Schema} {s : Statement}
      (h : ∀ sch ∈ schema, ∀ d ∈ sch.properties, d.name ≠ s.property) :
      Governs schema s s.propertyType

/-- What a statement puts under its property: it has a value, the type that governs it is known, is no
relation and is of the value's kind, and the builder under the name of that type makes these scalars of
the value, at least one. -/
def PutsUnder (p : Projector) (schema : Option Schema) (s : Statement) (scalars : List Scalar) :
    Prop :=
  ∃ v typeName type build, s.value = some v ∧ Governs schema s typeName ∧
    p.types[typeName]? = some type ∧ type.kind ≠ .relation ∧ type.kind = v.kind ∧
    p.builders[typeName]? = some build ∧ build v = scalars ∧ scalars ≠ []

theorem ValueBuilderRegistry.build?_eq_some_iff {r : ValueBuilderRegistry} {name : String} {v : Value}
    {scalars : List Scalar} :
    r.build? name v = some scalars ↔ ∃ build, r[name]? = some build ∧ build v = scalars :=
  Option.map_eq_some_iff

namespace Projector

variable {p : Projector} {schema : Option Schema} {s : Statement} {l : StatementList}

theorem governs_typeNameOf (schema : Option Schema) (s : Statement) :
    Governs schema s (typeNameOf schema s) := by
  unfold typeNameOf
  split
  · rename_i definition h
    obtain ⟨sch, rfl, hd⟩ := Option.bind_eq_some_iff.1 h
    obtain ⟨hname, before, after, hs, hfirst⟩ := List.find?_eq_some_iff_append.1 hd
    exact .defined hs (by simpa using hfirst) (by simpa using hname)
  · rename_i h
    refine .undefined fun sch hsch d hd hname => ?_
    have hnone := Option.bind_eq_none_iff.1 h sch hsch
    exact absurd (decide_eq_true hname) (List.find?_eq_none.1 hnone d hd)

theorem typeNameOf_of_governs {name : String} (h : Governs schema s name) :
    typeNameOf schema s = name := by
  cases h with
  | @defined sch _ before after definition hs hfirst hname =>
    have hfind : sch.property? s.property = some definition :=
      List.find?_eq_some_iff_append.2
        ⟨decide_eq_true hname, before, after, hs, by simpa using hfirst⟩
    simp [typeNameOf, hfind]
  | undefined h =>
    have hnone : schema.bind (·.property? s.property) = none := by
      refine Option.bind_eq_none_iff.2 fun sch hsch => List.find?_eq_none.2 fun d hd => ?_
      simpa using h sch hsch d hd
    simp [typeNameOf, hnone]

theorem representable_iff {t : PropertyType} {v : Value} :
    representable t v ↔ t.kind ≠ .relation ∧ t.kind = v.kind := by
  simp only [representable, PropertyType.isRelation, Bool.and_eq_true, Bool.not_eq_true',
    decide_eq_false_iff_not, decide_eq_true_eq]
  exact and_congr_right fun _ => eq_comm

/-- **A statement puts scalars under its property** when all conditions on it hold, and only then. -/
theorem scalarsOf_eq_some_iff {scalars : List Scalar} :
    p.scalarsOf schema s = some scalars ↔ PutsUnder p schema s scalars := by
  constructor
  · intro h
    obtain ⟨v, hv, h⟩ := Option.bind_eq_some_iff.1 h
    obtain ⟨type, htype, h⟩ := Option.bind_eq_some_iff.1 h
    split at h
    · rename_i hrep
      obtain ⟨hrel, hkind⟩ := representable_iff.1 hrep
      obtain ⟨made, hmade, h⟩ := Option.bind_eq_some_iff.1 h
      obtain ⟨build, hbuild, hv'⟩ := ValueBuilderRegistry.build?_eq_some_iff.1 hmade
      split at h
      · cases h
      · rename_i hne
        obtain rfl := Option.some.inj h
        exact ⟨v, _, type, build, hv, governs_typeNameOf schema s, htype, hrel, hkind, hbuild, hv',
          fun e => hne (by simp [e])⟩
    · cases h
  · rintro ⟨v, typeName, type, build, hv, hg, htype, hrel, hkind, hbuild, rfl, hne⟩
    obtain rfl := typeNameOf_of_governs hg
    refine Option.bind_eq_some_iff.2 ⟨v, hv, Option.bind_eq_some_iff.2 ⟨type, htype, ?_⟩⟩
    rw [if_pos (representable_iff.2 ⟨hrel, hkind⟩),
      ValueBuilderRegistry.build?_eq_some_iff.2 ⟨build, hbuild, rfl⟩]
    simp [hne]

/-! ## All statements of a list -/

theorem getElem?_put (p : Projector) (schema : Option Schema) (properties : PropertyLists)
    (s : Statement) : (p.put schema properties s)[s.property]? =
      (p.scalarsOf schema s).or properties[s.property]? := by
  unfold put
  cases p.scalarsOf schema s <;> simp

theorem getElem?_put_of_ne (p : Projector) (schema : Option Schema) (properties : PropertyLists)
    (s : Statement) {property : String} (h : property ≠ s.property) :
    (p.put schema properties s)[property]? = properties[property]? := by
  unfold put
  cases p.scalarsOf schema s with
  | none => rfl
  | some scalars => simp [Std.ExtTreeMap.getElem?_insert, Ne.symm h]

/-- **A node has under each property what the statement about it puts there.** -/
theorem getElem?_project (p : Projector) (schema : Option Schema) (l : StatementList)
    (property : String) :
    (p.project schema l)[property]? = (l.get? property).bind (p.scalarsOf schema) := by
  have hsteps : KeyedStep (p.put schema) Statement.property
      (fun properties property => properties[property]?)
      (fun s before after => after = (p.scalarsOf schema s).or before) (fun _ => True) l.toList :=
    ⟨fun _ _ _ _ => trivial, fun properties s _ _ => p.getElem?_put schema properties s,
      fun properties s _ _ _ hne => p.getElem?_put_of_ne schema properties s hne⟩
  obtain ⟨-, hown, hother⟩ := hsteps.foldl l.distinct (s := ∅) trivial
  cases hs : l.get? property with
  | none =>
    have hm : property ∉ l.toList.map Statement.property := by
      rintro hm
      obtain ⟨s, hs', rfl⟩ := List.mem_map.1 hm
      exact absurd (decide_eq_true rfl) (List.find?_eq_none.1 hs s hs')
    exact (hother property hm).trans (by simp)
  | some s =>
    obtain ⟨hm, rfl⟩ := (find?_key_eq_some_iff l.distinct).1 hs
    exact (hown s hm).trans (by simp)

/-- A statement that holds relations puts nothing under its property. -/
theorem not_putsUnder_of_relations {rs : List Relation} (hs : s.value = some (.relations rs))
    (scalars : List Scalar) : ¬PutsUnder p schema s scalars := by
  rintro ⟨v, typeName, type, build, hv, -, -, hrel, hkind, -⟩
  obtain rfl : v = .relations rs := Option.some.inj (hv.symm.trans hs)
  exact hrel hkind

theorem get?_of_perm {l' : StatementList} (h : l'.toList.Perm l.toList) (property : String) :
    l'.get? property = l.get? property :=
  find?_key_of_perm l.distinct h property

/-- **Statements become properties or edges, never both.** A node has exactly those properties whose
statement puts scalars under them, and has those scalars there; no statement that holds relations has
its property on the node, whatever type the schema gives it; and the properties are the same for the
statements in any order. -/
theorem properties_or_edges (p : Projector) (schema : Option Schema) (l : StatementList) :
    (∀ property scalars, (p.project schema l)[property]? = some scalars ↔
        ∃ s, l.get? property = some s ∧ PutsUnder p schema s scalars) ∧
      (∀ s ∈ l.toList, ∀ rs, s.value = some (.relations rs) →
        s.property ∉ p.project schema l) ∧
      ∀ l' : StatementList, l'.toList.Perm l.toList →
        p.project schema l' = p.project schema l := by
  have hentry : ∀ property scalars, (p.project schema l)[property]? = some scalars ↔
      ∃ s, l.get? property = some s ∧ PutsUnder p schema s scalars := by
    intro property scalars
    rw [getElem?_project, Option.bind_eq_some_iff]
    simp only [scalarsOf_eq_some_iff]
  refine ⟨hentry, fun s hs rs hrs hm => ?_, fun l' hp => ?_⟩
  · obtain ⟨scalars, hscalars⟩ :=
      Option.isSome_iff_exists.1 (Std.ExtTreeMap.mem_iff_isSome_getElem?.1 hm)
    obtain ⟨t, ht, hputs⟩ := (hentry s.property scalars).1 hscalars
    obtain rfl : s = t :=
      Option.some.inj (((find?_key_eq_some_iff l.distinct).2 ⟨hs, rfl⟩).symm.trans ht)
    exact not_putsUnder_of_relations hrs scalars hputs
  · refine Std.ExtTreeMap.ext_getElem? fun property => ?_
    rw [getElem?_project, getElem?_project, get?_of_perm hp]

def standardProjector : Projector := ⟨.standard, .standard, ∅⟩

/-- A schema that gives homepages the type of addresses and takes friends for texts. -/
def driftedSchema : Schema where
  name := ⟨"Person"⟩
  properties := [⟨"homepage", "url", false⟩, ⟨"friend", "text", false⟩]

def friendship : Statement :=
  ⟨"friend", "relation", some (.relations [⟨⟨"r"⟩, ⟨"FRIEND"⟩, ⟨"bob"⟩, ∅⟩])⟩

/-- A homepage that says of itself that it is a text. -/
def homepage : Statement := ⟨"homepage", "text", some (.texts ["example.org"])⟩

def wordyAge : Statement := ⟨"age", "number", some (.texts ["forty"])⟩

theorem homepage_stored_friendship_not :
    (standardProjector.project (some driftedSchema)
        (.ofList [friendship, homepage, wordyAge]))["homepage"]? = some [.text "example.org"] ∧
      friendship ∈ (StatementList.ofList [friendship, homepage, wordyAge]).toList ∧
      "friend" ∉ standardProjector.project (some driftedSchema)
        (.ofList [friendship, homepage, wordyAge]) ∧
      standardProjector.project (some driftedSchema) (.ofList [wordyAge, homepage, friendship]) =
        standardProjector.project (some driftedSchema)
          (.ofList [friendship, homepage, wordyAge]) := by
  obtain ⟨hentry, hrelations, hperm⟩ := properties_or_edges standardProjector (some driftedSchema)
    (.ofList [friendship, homepage, wordyAge])
  have hmem : friendship ∈ (StatementList.ofList [friendship, homepage, wordyAge]).toList := by
    decide
  have hgoverns : Governs (some driftedSchema) homepage "url" :=
    .defined (show driftedSchema.properties = [] ++ _ :: _ from rfl) (by simp) rfl
  have hputs : PutsUnder standardProjector (some driftedSchema) homepage [.text "example.org"] := by
    refine ⟨.texts ["example.org"], "url", ⟨"url", .string, .url⟩, ValueBuilder.texts, rfl,
      hgoverns, ?_, by decide, rfl, rfl, rfl, by decide⟩
    decide +kernel
  have hreverse : (StatementList.ofList [wordyAge, homepage, friendship]).toList =
      (StatementList.ofList [friendship, homepage, wordyAge]).toList.reverse := by decide
  exact ⟨(hentry _ _).2 ⟨homepage, rfl, hputs⟩, hmem, hrelations friendship hmem _ rfl,
    hperm _ (hreverse ▸ List.reverse_perm _)⟩

end Projector
end WikiGraph
