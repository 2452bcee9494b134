import WikiGraph.Binary64.Basic
/-!
# JSON values

The values a JSON text can hold. An object keeps its members in order and may repeat a key, for it
is the reader of a record that decides what a repetition means. A value may also be well formed
and yet without a reading: it may be skipped but not used.
-/
namespace WikiGraph

/-- A JSON number: an integer when it is written as one and fits 64 bits, else a binary fraction. -/
inductive JsonNumber where
  | integer (n : Int)
  | float (x : Binary64)
deriving DecidableEq, Repr

/-- A JSON value. -/
inductive Json where
  | null
  | bool (b : Bool)
  | number (n : JsonNumber)
  | string (s : String)
  | array (items : List Json)
  | object (members : List (String × Json))
  /-- A well-formed value without a reading: a number beyond the largest, a text with half a
  surrogate pair, a nesting deeper than any reader follows. -/
  | unreadable

namespace Json

mutual
/-- Whether the value holds nothing unreadable, at any depth. -/
def readable : Json → Bool
  | null => true
  | bool _ => true
  | number _ => true
  | string _ => true
  | array items => readableItems items
  | object members => readableMembers members
  | unreadable => false

def readableItems : List Json → Bool
  | [] => true
  | j :: rest => j.readable && readableItems rest

def readableMembers : List (String × Json) → Bool
  | [] => true
  | (_, j) :: rest => j.readable && readableMembers rest
end

def member? (members : List (String × Json)) (key : String) : Option Json :=
  (members.find? (·.1 = key)).map (·.2)

end Json
end WikiGraph
