import WikiGraph.Binary64.Basic
import Std.Data.ExtTreeMap
/-!
# Scalars

The single values a node or an edge of the graph can hold, and maps of them. Scalars are compared
as the graph compares them: kinds are kept apart and numbers are compared numerically, so the two
zeros are the same and a pattern that is no number is not even the same as itself.
-/
namespace WikiGraph

/-- A value a property of the graph can hold (`ScalarValue`). -/
inductive Scalar where
  | boolean (b : Bool)
  | integer (n : Int64)
  | float (x : Binary64)
  | text (s : String)
deriving DecidableEq, Repr

namespace Scalar

/-- Equality of scalars as the graph sees it. -/
def same : Scalar → Scalar → Bool
  | boolean a, boolean b => a = b
  | integer a, integer b => a = b
  | float a, float b => a.same b
  | text a, text b => a = b
  | _, _ => false

/-- Whether the scalar is something other than a pattern that is no number. -/
def isComparable : Scalar → Bool
  | float x => !x.isNaN
  | _ => true

theorem same_self_iff (s : Scalar) : s.same s = s.isComparable := by
  cases s with
  | float x => cases h : x.isNaN <;> simp [same, isComparable, Binary64.same, h]
  | _ => simp [same, isComparable]

theorem same_comm (s t : Scalar) : s.same t = t.same s := by
  cases s <;> cases t <;> simp [same, eq_comm, Binary64.same_comm]

end Scalar

abbrev Properties := Std.ExtTreeMap String Scalar

abbrev PropertyLists := Std.ExtTreeMap String (List Scalar)

def Properties.same (a b : Properties) : Bool :=
  a.toList.isEqv b.toList fun p q => p.1 = q.1 && p.2.same q.2

/-- Whether two maps hold the same names with the same scalars in the same order. -/
def PropertyLists.same (a b : PropertyLists) : Bool :=
  a.toList.isEqv b.toList fun p q => p.1 = q.1 && p.2.isEqv q.2 Scalar.same

end WikiGraph
