import WikiGraph.Server.Host
/-!
# Resource locators

The outline of a locator: a scheme, a colon, and behind two slashes an authority, which is a host,
perhaps with credentials before it and a number behind it. White space and controls around a
locator and line breaks and tabs inside it do not count. The schemes of the web always have a host,
however many slashes stand before it, and take a backslash for a slash; a locator of a file may have
one; any other may have an authority without one. Only what decides whether a locator is sound, and
whether it has a host, is read.
-/
namespace WikiGraph.Server

/-- How a scheme takes what follows it. -/
inductive SchemeKind where
  | web | file | other
deriving DecidableEq, Repr

def SchemeKind.ofName (name : String) : SchemeKind :=
  if name ∈ ["http", "https", "ws", "wss", "ftp"] then .web
  else if name = "file" then .file
  else .other

/-- A sound locator. -/
structure Locator where
  /-- The scheme in lower case. -/
  scheme : String
  hasHost : Bool
deriving DecidableEq, Repr

/-- Why a text is no sound locator. -/
inductive LocatorError where
  | noScheme
  | malformed
deriving DecidableEq, Repr

namespace Locator

def counted (text : List Char) : List Char :=
  let isAround := fun c : Char => decide (c.toNat ≤ 0x20)
  let inner := ((text.dropWhile isAround).reverse.dropWhile isAround).reverse
  inner.filter fun c => c ≠ '\t' ∧ c ≠ '\n' ∧ c ≠ '\r'

def isSchemeChar (c : Char) : Bool := c.isAlphanum || c = '+' || c = '-' || c = '.'

/-- The scheme a text begins with, in lower case, and what follows its colon. -/
def scheme? (text : List Char) : Option (String × List Char) :=
  let name := text.takeWhile isSchemeChar
  match name, text.drop name.length with
  | c :: _, ':' :: rest =>
    if c.isAlpha then some (String.ofList (name.map Char.toLower), rest) else none
  | _, _ => none

/-- A slash, or what the schemes of the web and of files take for one. -/
def isSlash (c : Char) : Bool := c = '/' || c = '\\'

def endsAuthority (kind : SchemeKind) (c : Char) : Bool :=
  c = '/' || c = '?' || c = '#' || (kind ≠ .other && c = '\\')

/-- The host and, from the colon behind it, the rest of an authority without credentials. A colon in
brackets belongs to the host. -/
def hostAndNumber (inside : Bool) : List Char → List Char × List Char
  | [] => ([], [])
  | c :: rest =>
    if c = ':' ∧ !inside then ([], c :: rest)
    else
      let inside := if c = '[' then true else if c = ']' then false else inside
      let (host, number) := hostAndNumber inside rest
      (c :: host, number)

/-- Whether what follows a host is nothing or a colon and a number of 16 bits, which may be missing.
Behind the number a path may begin with a backslash where that is no slash. -/
def isNumberPart : List Char → Bool
  | [] => true
  | _ :: text =>
    let digits := text.takeWhile Char.isDigit
    Text.natOfDigits digits < 0x10000 && (text.drop digits.length).head?.all (· = '\\')

/-- Whether an authority that a locator begins with has a host, unless the authority is unsound. -/
def authority? (kind : SchemeKind) (text : List Char) : Option Bool :=
  let whole := text.takeWhile fun c => !endsAuthority kind c
  let named := (whole.reverse.takeWhile (· ≠ '@')).reverse
  let credentials := whole.take (whole.length - named.length - 1)
  let isMarked := named.length < whole.length
  let (host, number) := hostAndNumber false named
  if isMarked ∧ credentials.isEmpty ∧ named.isEmpty ∧ whole.length < text.length then none
  else if host.isEmpty then
    if kind = .web ∨ !number.isEmpty ∨ (!credentials.isEmpty ∧ credentials ≠ [':']) then none
    else some false
  else if isNumberPart number && (if kind = .web then (Host.ofWeb? host).isSome
      else Host.isOpaque host) then some true
  else none

/-- Whether a text is a letter and a colon or bar, the name of a drive. -/
def isDrive (text : List Char) : Bool :=
  match text with
  | [letter, mark] => letter.isAlpha && (mark = ':' || mark = '|')
  | _ => false

/-- The parts of a path between slashes; there is at least one. -/
def pathParts : List Char → List (List Char)
  | [] => [[]]
  | c :: rest =>
    if isSlash c then [] :: pathParts rest
    else match pathParts rest with
      | [] => [[c]]
      | part :: parts => (c :: part) :: parts

/-- Whether the first part that stays in a path is a drive, where `depth` parts stay so far. A part
that is one point stays not, and one of two points takes the last one away. -/
def beginsWithDrive (depth : Nat) : List (List Char) → Bool
  | [] => false
  | part :: parts =>
    match String.ofList (part.map Char.toLower) with
    | "." | "%2e" => beginsWithDrive depth parts
    | ".." | ".%2e" | "%2e." | "%2e%2e" => beginsWithDrive (depth - 1) parts
    | _ => (depth = 0 && isDrive part) || beginsWithDrive (depth + 1) parts

/-- Whether a locator of a file has a host, unless it is unsound. The computer itself counts as no
host, and a drive takes the host away. -/
def fileHost? (text : List Char) : Option Bool :=
  match text with
  | a :: b :: rest =>
    if isSlash a ∧ isSlash b then
      let host := rest.takeWhile fun c => !endsAuthority .file c
      let path := (rest.drop host.length).takeWhile fun c => c ≠ '?' && c ≠ '#'
      if host.isEmpty ∨ isDrive host then some false
      else (Host.ofWeb? host).map fun name =>
        name ≠ "localhost".toList && !beginsWithDrive 0 (pathParts (path.drop 1))
    else some false
  | _ => some false

/-- The outline of the locator that a text is. -/
def ofText (text : List Char) : Except LocatorError Locator :=
  match scheme? (counted text) with
  | none => .error .noScheme
  | some (scheme, rest) =>
    let hasHost? := match SchemeKind.ofName scheme, rest with
      | .web, _ => authority? .web (rest.dropWhile isSlash)
      | .file, _ => fileHost? rest
      | .other, '/' :: '/' :: rest => authority? .other rest
      | .other, _ => some false
    hasHost?.elim (.error .malformed) fun hasHost => .ok ⟨scheme, hasHost⟩

end Locator
end WikiGraph.Server
