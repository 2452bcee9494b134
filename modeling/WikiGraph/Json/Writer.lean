import WikiGraph.Json.Basic
import WikiGraph.Binary64.Shortest
/-!
# Writing JSON values

Compact text without spaces. Quotes, backslashes and the control characters below the space are
escaped, five of them by a letter; all other characters are written as they are. Numbers are
written with the fewest digits that read back, a tie going to the even digit, whole ones with `.0`,
in positional notation from `10 ^ (-5)` up to below `10 ^ 16`.
-/
namespace WikiGraph.Json

def numberLayout : Binary64.Layout where
  positional exponent := -5 ≤ exponent && exponent < 16
  wholeEnd := ['.', '0']
  tie := .even

def hexDigit (n : Nat) : Char := Nat.digitChar n

/-- How one character is written inside a JSON text. -/
def escapedForm (c : Char) : List Char :=
  match c with
  | '"' => ['\\', '"']
  | '\\' => ['\\', '\\']
  | '\x08' => ['\\', 'b']
  | '\x0c' => ['\\', 'f']
  | '\n' => ['\\', 'n']
  | '\r' => ['\\', 'r']
  | '\t' => ['\\', 't']
  | _ =>
    if c.toNat < 0x20 then
      ['\\', 'u', '0', '0', hexDigit (c.toNat / 16), hexDigit (c.toNat % 16)]
    else [c]

def renderText (s : String) : List Char := ['"'] ++ s.toList.flatMap escapedForm ++ ['"']

def renderInt (n : Int) : List Char :=
  (if n < 0 then ['-'] else []) ++ Nat.toDigits 10 n.natAbs

/-- A number. Infinities and patterns that are no number have no numeral. -/
def renderNumber : JsonNumber → List Char
  | .integer n => renderInt n
  | .float x => if x.isFinite then numberLayout.finite x else "null".toList

mutual
/-- The compact text of a value. -/
def render : Json → List Char
  | null => "null".toList
  | bool true => "true".toList
  | bool false => "false".toList
  | number n => renderNumber n
  | string s => renderText s
  | array items => ['['] ++ renderItems items ++ [']']
  | object members => ['\x7b'] ++ renderMembers members ++ ['\x7d']
  | unreadable => "null".toList

def renderItems : List Json → List Char
  | [] => []
  | [j] => j.render
  | j :: rest => j.render ++ [','] ++ renderItems rest

def renderMembers : List (String × Json) → List Char
  | [] => []
  | [(k, j)] => renderText k ++ [':'] ++ j.render
  | (k, j) :: rest => renderText k ++ [':'] ++ j.render ++ [','] ++ renderMembers rest
end

end WikiGraph.Json
