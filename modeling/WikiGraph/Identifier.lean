import Std.Data.ExtTreeMap
/-!
# Identifiers

Pages, subjects, relations, schemas and relation types are named by texts. The names of one kind
are never confused with those of another; they are equal when their texts are, and they are ordered
as their texts are, character by character.
-/
namespace WikiGraph

/-- What an identifier names. -/
inductive IdentifierKind where
  | page | subject | relation | schema | relationType
deriving DecidableEq, Repr

/-- An identifier of one kind. -/
structure Identifier (kind : IdentifierKind) where
  text : String
deriving DecidableEq, Repr, Inhabited

abbrev PageId := Identifier .page

/-- Stable identifier of a subject, unique across all pages. -/
abbrev SubjectId := Identifier .subject

/-- Stable identifier of a relation, kept from save to save. -/
abbrev RelationId := Identifier .relation

abbrev SchemaName := Identifier .schema

/-- Type of a relation; it becomes the type of the edge. -/
abbrev RelationType := Identifier .relationType

namespace Identifier

variable {kind : IdentifierKind}

instance : Ord (Identifier kind) where
  compare a b := compare a.text b.text

theorem compare_def (a b : Identifier kind) : compare a b = compare a.text b.text := rfl

instance : Std.TransOrd (Identifier kind) where
  eq_swap := (inferInstance : Std.TransOrd String).eq_swap
  isLE_trans h₁ h₂ := (inferInstance : Std.TransOrd String).isLE_trans h₁ h₂

instance : Std.LawfulEqOrd (Identifier kind) where
  compare_self := (inferInstance : Std.LawfulEqOrd String).compare_self
  eq_of_compare {a b} h := by
    have : a.text = b.text := (inferInstance : Std.LawfulEqOrd String).eq_of_compare h
    cases a; cases b; simp_all

/-- The identifiers of a list in ascending order, repetitions kept. -/
def sorted (ids : List (Identifier kind)) : List (Identifier kind) :=
  ids.mergeSort fun a b => (compare a b).isLE

end Identifier
end WikiGraph
