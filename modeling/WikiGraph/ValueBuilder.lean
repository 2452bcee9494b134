import WikiGraph.Binary64.Rounding
import WikiGraph.Value
/-!
# From values to scalars

A value builder turns a statement's value into the scalars stored on a node. Builders are looked up
by property type name. Relations have none: they become edges.
-/
namespace WikiGraph

/-- How the values of a property type are stored. -/
abbrev ValueBuilder := Value → List Scalar

namespace ValueBuilder

/-- Every text of a value (`build_strings`). -/
def texts : ValueBuilder
  | .texts parts => parts.map .text
  | _ => []

/-- The largest integer of 64 bits as a number, which is the nearest one there is. -/
def integerBound : Binary64 := .ofInt Int64.maxValue.toInt

/-- The scalar of a number: the integer it converts to when it is whole and nearer to zero than the
bound, else the number itself. -/
def scalarOfNumber (x : Binary64) : Scalar :=
  match x.whole? with
  | some n => if x.abs.less integerBound then .integer (.ofIntClamp n) else .float x
  | none => .float x

/-- The number of a value (`build_number`). -/
def number : ValueBuilder
  | .number x => [scalarOfNumber x]
  | _ => []

/-- The truth value of a value of that kind (`build_boolean`). -/
def boolean : ValueBuilder
  | .boolean b => [.boolean b]
  | _ => []

end ValueBuilder

abbrev ValueBuilderRegistry := Std.ExtTreeMap String ValueBuilder

namespace ValueBuilderRegistry

/-- The builders of the standard property types (`with_defaults`). -/
def standard : ValueBuilderRegistry :=
  let texts := ["text", "url", "email", "date", "select"].foldl
    (fun (r : ValueBuilderRegistry) name => r.insert name ValueBuilder.texts) ∅
  (texts.insert "number" ValueBuilder.number).insert "boolean" ValueBuilder.boolean

/-- The scalars of a value under a property type name, if that name has a builder
(`build_value`). -/
def build? (r : ValueBuilderRegistry) (typeName : String) (v : Value) : Option (List Scalar) :=
  r[typeName]?.map (· v)

end ValueBuilderRegistry
end WikiGraph
