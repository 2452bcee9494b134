import WikiGraph.Server.Host.DomainName
import WikiGraph.Text.Digits
import WikiGraph.Text.Hexadecimal
/-!
# Hosts of four numbers

A name whose last label is a number is no name but a numeric host: up to four numbers with points
between them, perhaps with one more point at the end. A number is decimal, octal behind a zero or
hexadecimal behind `0x`. All but the last are below 256, and the last fills the bytes that are left.
-/
namespace WikiGraph.Server.Host

/-- The number that digits of a base spell; no digits spell zero. -/
def numberInBase? (base : Nat) (digits : List Char) : Option Nat :=
  digits.foldlM (fun n c => (Text.hexValue? c).bind fun d =>
    if d < base then some (n * base + d) else none) 0

/-- The number that a label is. -/
def labelNumber? (label : List Char) : Option Nat :=
  match label with
  | [] => none
  | ['0'] => some 0
  | '0' :: 'x' :: digits => numberInBase? 16 digits
  | '0' :: digits => numberInBase? 8 digits
  | digits => numberInBase? 10 digits

/-- The labels without the empty one behind a point at the end. -/
def labelsBeforeEnd (name : List Char) : List (List Char) :=
  let labels := labelsOf name
  if labels.length ≠ 1 ∧ labels.getLast? = some [] then labels.dropLast else labels

/-- Whether the last label of a name is a number, or at least made of digits. -/
def endsInNumber (name : List Char) : Bool :=
  ((labelsBeforeEnd name).getLast?).any fun label =>
    (!label.isEmpty && label.all Char.isDigit) || (labelNumber? label).isSome

def isIpv4 (name : List Char) : Bool :=
  match ((labelsBeforeEnd name).mapM labelNumber?).map List.reverse with
  | some (last :: others) =>
    others.length < 4 && others.all (· < 256) && last < Nat.pow 256 (4 - others.length)
  | _ => false

end WikiGraph.Server.Host
