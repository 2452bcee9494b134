import WikiGraph.Query.Region
/-!
# Quoted names in Cypher

A label or relationship type cannot be a parameter, so it is written into the statement between
backticks, with every backtick inside it doubled. `unquote?` reads such a name back.
-/
namespace WikiGraph.Cypher

open Query (backtick)

/-- A name with every backtick doubled. -/
def doubled (name : List Char) : List Char :=
  name.flatMap fun c => if c = backtick then [backtick, backtick] else [c]

/-- A name between backticks (`escape_identifier`). -/
def quote (name : List Char) : List Char := [backtick] ++ doubled name ++ [backtick]

/-- The name whose doubled form, followed by the closing backtick, a text is. -/
def undoubled? : List Char → Option (List Char)
  | [] => none
  | c :: rest =>
    if c ≠ backtick then (undoubled? rest).map (c :: ·)
    else match rest with
      | [] => some []
      | d :: after => if d = backtick then (undoubled? after).map (backtick :: ·) else none

def unquote? : List Char → Option (List Char)
  | [] => none
  | c :: rest => if c = backtick then undoubled? rest else none

end WikiGraph.Cypher
