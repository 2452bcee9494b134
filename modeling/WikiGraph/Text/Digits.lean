/-!
# Numbers in decimal digits

A digit's value is its distance from zero's, and a run of digits spells a number, the digit of most
weight first. A run followed by one digit more spells ten times its number and that digit's value.
-/
namespace WikiGraph.Text

def digitValue (c : Char) : Nat := c.toNat - '0'.toNat

/-- The number a run of decimal digits spells; no digits spell zero. -/
def natOfDigits (digits : List Char) : Nat := digits.foldl (fun n c => n * 10 + digitValue c) 0

theorem natOfDigits_concat (digits : List Char) (c : Char) :
    natOfDigits (digits ++ [c]) = natOfDigits digits * 10 + digitValue c := by
  simp [natOfDigits]

end WikiGraph.Text
