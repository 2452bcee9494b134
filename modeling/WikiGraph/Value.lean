import WikiGraph.Relation
/-!
# Values of statements

A statement holds texts, a number, a truth value or relations.
-/
namespace WikiGraph

/-- The kind of data a value carries (`ValueType`). -/
inductive ValueKind where
  | string | number | boolean | relation
deriving DecidableEq, Repr

def ValueKind.title : ValueKind → String
  | .string => "String"
  | .number => "Number"
  | .boolean => "Boolean"
  | .relation => "Relation"

def ValueKind.label : ValueKind → String
  | .string => "string"
  | .number => "number"
  | .boolean => "boolean"
  | .relation => "relation"

def ValueKind.ofLabel? (label : String) : Option ValueKind :=
  [ValueKind.string, .number, .boolean, .relation].find? (·.label = label)

/-- What a statement asserts of its property. -/
inductive Value where
  | texts (parts : List String)
  | number (x : Binary64)
  | boolean (b : Bool)
  | relations (relations : List Relation)
deriving DecidableEq

namespace Value

def kind : Value → ValueKind
  | texts _ => .string
  | number _ => .number
  | boolean _ => .boolean
  | relations _ => .relation

/-- The value a new statement of a kind starts with. -/
def default : ValueKind → Value
  | .string => texts []
  | .number => number .zero
  | .boolean => boolean false
  | .relation => relations []

@[simp] theorem kind_default (k : ValueKind) : (default k).kind = k := by
  cases k <;> rfl

end Value
end WikiGraph
