import WikiGraph.Json.Basic
/-!
# Records in documents

A record with named fields is written as an object or, without names, as an array of its fields in
their order. In an object a field may stand once; members that are no fields are passed over,
whatever they hold. In an array fields may be missing at the end, but there may be no more items
than fields. `fields?` gives, for each field, the value written for it, if any.
-/
namespace WikiGraph.Document

/-- The value written for one field among the members of an object: none, or the only one. -/
def fieldOf? (members : List (String × Json)) (name : String) : Option (Option Json) :=
  match members.filter (·.1 = name) with
  | [] => some none
  | [(_, j)] => some (some j)
  | _ => none

/-- The values written for the fields of a record, in the order of `names`. -/
def fields? (names : List String) : Json → Option (List (Option Json))
  | .object members => names.mapM (fieldOf? members)
  | .array items =>
    if items.length ≤ names.length then
      some (items.map some ++ List.replicate (names.length - items.length) none)
    else none
  | _ => none

variable {α : Type}

def required (read : Json → Option α) (field : Option Json) : Option α := field.bind read

/-- A field with a value of its own when it is not written. -/
def defaulted (read : Json → Option α) (default : α) (field : Option Json) : Option α :=
  match field with
  | none => some default
  | some j => read j

/-- A value that may be absent, written as null. -/
def nullable (read : Json → Option α) : Json → Option (Option α)
  | .null => some none
  | j => (read j).map some

def text? : Json → Option String
  | .string s => some s
  | _ => none

def bool? : Json → Option Bool
  | .bool b => some b
  | _ => none

def natural? (bound : Nat) : Json → Option Nat
  | .number (.integer n) => if 0 ≤ n ∧ n < bound then some n.toNat else none
  | _ => none

def listOf? (read : Json → Option α) : Json → Option (List α)
  | .array items => items.mapM read
  | _ => none

/-- The name of an alternative: a text, or an object with the name as its only key and null as the
value. -/
def alternative? : Json → Option String
  | .string s => some s
  | .object [(s, .null)] => some s
  | _ => none

end WikiGraph.Document
