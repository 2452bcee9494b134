import WikiGraph.Server.Host.Ipv4
import WikiGraph.Server.Host.Ipv6
/-!
# Hosts

What an address may name as its host. Addresses of the web know numeric hosts and domain names, and
may spell a host byte by byte behind percent signs. In all other addresses a host is any text
without the characters that have a meaning in an address, or a numeric host in brackets.
-/
namespace WikiGraph.Server.Host

def inBrackets? (text : List Char) : Option (List Char) :=
  match text with
  | '[' :: rest => if rest.getLast? = some ']' then some rest.dropLast else none
  | _ => none

/-- The bytes of a text in which a percent sign and two hexadecimal digits stand for a byte. -/
def percentDecoded : List Char → List UInt8
  | [] => []
  | '%' :: a :: b :: rest =>
    match Text.hexValue? a, Text.hexValue? b with
    | some high, some low => UInt8.ofNat (high * 16 + low) :: percentDecoded rest
    | _, _ => '%'.toUInt8 :: percentDecoded (a :: b :: rest)
  | c :: rest => String.utf8EncodeChar c ++ percentDecoded rest

/-- The host that an address of the web names, if it is one: its form in names, or the numbers in
brackets. -/
def ofWeb? (text : List Char) : Option (List Char) :=
  if text.head? = some '[' then (inBrackets? text).filter (isIpv6 ·)
  else do
    let spelled ← String.fromUTF8? ⟨(percentDecoded text).toArray⟩
    let name ← nameOf? spelled.toList
    if !endsInNumber name || isIpv4 name then some name else none

def isForbidden (c : Char) : Bool :=
  c.toNat = 0 || "\t\n\r #/:<>?@[\\]^|".toList.contains c

def isOpaque (text : List Char) : Bool :=
  if text.head? = some '[' then (inBrackets? text).any isIpv6 else !text.any isForbidden

end WikiGraph.Server.Host
