/-!
# Integers of 64 bits
-/
namespace WikiGraph.Word

def fitsSigned (n : Int) : Bool := -0x8000000000000000 ≤ n && n < 0x8000000000000000

def fitsUnsigned (n : Nat) : Bool := n < 0x10000000000000000

def largest : Nat := 0xFFFFFFFFFFFFFFFF

end WikiGraph.Word
