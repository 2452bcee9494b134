import WikiGraph.Json.Writer
/-!
# Writing JSON values over several lines

Each item and each member stands on a line of its own, two spaces further in than the brackets
around it, and a space follows the colon. Empty lists and objects stay on one line.
-/
namespace WikiGraph.Json

/-- A line break and the white space before what is nested so deep. -/
def newLine (depth : Nat) : List Char := '\n' :: List.replicate (2 * depth) ' '

mutual
/-- The text of a value, of which the first line stands behind something else. -/
def renderIndented (depth : Nat) : Json → List Char
  | array [] => ['[', ']']
  | array (item :: rest) =>
    ['['] ++ renderIndentedItems (depth + 1) (item :: rest) ++ newLine depth ++ [']']
  | object [] => ['\x7b', '\x7d']
  | object (member :: rest) =>
    ['\x7b'] ++ renderIndentedMembers (depth + 1) (member :: rest) ++ newLine depth ++ ['\x7d']
  | null => "null".toList
  | bool b => if b then "true".toList else "false".toList
  | number n => renderNumber n
  | string s => renderText s
  | unreadable => "null".toList

def renderIndentedItems (depth : Nat) : List Json → List Char
  | [] => []
  | [j] => newLine depth ++ renderIndented depth j
  | j :: rest => newLine depth ++ renderIndented depth j ++ [','] ++ renderIndentedItems depth rest

def renderIndentedMembers (depth : Nat) : List (String × Json) → List Char
  | [] => []
  | [(k, j)] => newLine depth ++ renderText k ++ [':', ' '] ++ renderIndented depth j
  | (k, j) :: rest =>
    newLine depth ++ renderText k ++ [':', ' '] ++ renderIndented depth j ++ [','] ++
      renderIndentedMembers depth rest
end

end WikiGraph.Json
