import WikiGraph.Text.Character
/-!
# Quoted text in messages

A message shows a piece of text between double quotes, so that its ends and its invisible
characters can be seen: quotes and backslashes are escaped, four control characters have a letter
or digit of their own, and every other character without a picture is written as its code point.
-/
namespace WikiGraph.Text

def hexDigits (n : Nat) : List Char := Nat.toDigits 16 n

/-- How one character is written between quotes. -/
def quotedForm (c : Char) : List Char :=
  if c = '"' then ['\\', '"']
  else if c = '\\' then ['\\', '\\']
  else if c = '\n' then ['\\', 'n']
  else if c = '\r' then ['\\', 'r']
  else if c = '\t' then ['\\', 't']
  else if c.toNat = 0 then ['\\', '0']
  else if isUnprintable c then ['\\', 'u', '\x7b'] ++ hexDigits c.toNat ++ ['\x7d']
  else [c]

def quoted (text : List Char) : List Char := ['"'] ++ text.flatMap quotedForm ++ ['"']

end WikiGraph.Text
