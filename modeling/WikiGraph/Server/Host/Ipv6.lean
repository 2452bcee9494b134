import WikiGraph.Server.Host.DomainName
import WikiGraph.Text.Digits
import WikiGraph.Text.Hexadecimal
/-!
# Hosts of eight numbers

Eight hexadecimal numbers of up to four digits stand with colons between them. At one place two
colons may stand for numbers that are left out, and four decimal numbers with points between them
may stand for the last two.
-/
namespace WikiGraph.Server.Host

/-- Whether a text is a decimal number below 256 without a zero in front. -/
def isByte (text : List Char) : Bool :=
  text.all Char.isDigit && (text = ['0'] || (text.head?).any (· ≠ '0')) &&
    Text.natOfDigits text < 256

/-- Whether a text is four decimal numbers with points between them. -/
def isFourBytes (text : List Char) : Bool :=
  let labels := labelsOf text
  labels.length = 4 && labels.all isByte

/-- Whether what follows `count` numbers completes a host; `shortened` tells that numbers were left
out before. Every second call takes a character away, and twice the length of the text is enough. -/
def completes : Nat → Nat → Bool → List Char → Bool
  | _, count, shortened, [] => shortened || count = 8
  | 0, _, _, _ :: _ => false
  | budget + 1, count, shortened, c :: rest =>
    if count = 8 then false
    else if c = ':' then !shortened && completes budget (count + 1) true rest
    else
      let digits := ((c :: rest).take 4).takeWhile fun d => (Text.hexValue? d).isSome
      match (c :: rest).drop digits.length with
      | [] => completes budget (count + 1) shortened []
      | ':' :: [] => false
      | ':' :: after => completes budget (count + 1) shortened after
      | '.' :: _ =>
        !digits.isEmpty && isFourBytes (c :: rest) &&
          (if shortened then count ≤ 6 else count = 6)
      | _ => false

def isIpv6 (text : List Char) : Bool :=
  match text with
  | ':' :: ':' :: rest => completes text.length 1 true rest
  | ':' :: _ => false
  | [] => false
  | _ => completes text.length 0 false text

end WikiGraph.Server.Host
