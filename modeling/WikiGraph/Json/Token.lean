import WikiGraph.Json.Numeral
import WikiGraph.Text.Hexadecimal
/-!
# JSON tokens

A JSON text is cut into tokens by a machine that takes one character at a time. A run of numeral
characters or of small letters is collected up to its end and then judged as a whole, which accepts
the same texts as judging it on the way, for no two values stand next to each other in JSON.
-/
namespace WikiGraph.Json

/-- A token of JSON text. A text or a numeral may be well formed and have no reading. -/
inductive Token where
  | openArray | closeArray | openObject | closeObject | comma | colon
  | null
  | bool (b : Bool)
  | number (n : Option JsonNumber)
  | string (s : Option String)
deriving DecidableEq, Repr

/-- A part of a text between quotes: a character, or a code written as an escape. -/
inductive TextUnit where
  | char (c : Char)
  | code (n : Nat)
deriving DecidableEq, Repr

/-- The characters of a text. Two escaped codes may form one character above the first plane; half
of such a pair on its own has no reading. -/
def charsOfUnits? : List TextUnit → Option (List Char)
  | [] => some []
  | .char c :: rest => (charsOfUnits? rest).map (c :: ·)
  | .code n :: rest =>
    match Text.charOfCode? n with
    | some c => (charsOfUnits? rest).map (c :: ·)
    | none =>
      match rest with
      | .code low :: after =>
        if n < 0xDC00 ∧ 0xDC00 ≤ low ∧ low < 0xE000 then do
          let c ← Text.charOfCode? (0x10000 + (n - 0xD800) * 0x400 + (low - 0xDC00))
          (charsOfUnits? after).map (c :: ·)
        else none
      | _ => none

/-- What the machine is in the middle of. Collected parts are kept last one first. -/
inductive LexMode where
  | between
  | numeral (chars : List Char)
  | word (chars : List Char)
  | text (units : List TextUnit)
  | escape (units : List TextUnit)
  | code (units : List TextUnit) (digits : List Char)
deriving DecidableEq, Repr

/-- The machine: its mode and the tokens found so far, the last one first. -/
structure Lexing where
  mode : LexMode
  tokens : List Token
deriving DecidableEq, Repr

/-- The four characters that may stand around tokens. -/
def isBlank (c : Char) : Bool := c = ' ' || c = '\t' || c = '\n' || c = '\r'

def isNumeralChar (c : Char) : Bool :=
  c.isDigit || c = '-' || c = '+' || c = '.' || c = 'e' || c = 'E'

def numeralToken? (chars : List Char) : Option Token :=
  (Numeral.ofText? chars.reverse).map fun n => .number n.toNumber?

def wordToken? (chars : List Char) : Option Token :=
  match String.ofList chars.reverse with
  | "null" => some .null
  | "true" => some (.bool true)
  | "false" => some (.bool false)
  | _ => none

def textToken (units : List TextUnit) : Token :=
  .string ((charsOfUnits? units.reverse).map String.ofList)

/-- The character a single-letter escape stands for. -/
def escapedChar? (c : Char) : Option Char :=
  match c with
  | '"' => some '"'
  | '\\' => some '\\'
  | '/' => some '/'
  | 'b' => some '\x08'
  | 'f' => some '\x0c'
  | 'n' => some '\n'
  | 'r' => some '\r'
  | 't' => some '\t'
  | _ => none

/-- The machine on a character outside all longer tokens. -/
def lexBetween (tokens : List Token) (c : Char) : Option Lexing :=
  match c with
  | '[' => some ⟨.between, .openArray :: tokens⟩
  | ']' => some ⟨.between, .closeArray :: tokens⟩
  | '\x7b' => some ⟨.between, .openObject :: tokens⟩
  | '\x7d' => some ⟨.between, .closeObject :: tokens⟩
  | ',' => some ⟨.between, .comma :: tokens⟩
  | ':' => some ⟨.between, .colon :: tokens⟩
  | '"' => some ⟨.text [], tokens⟩
  | _ =>
    if isBlank c then some ⟨.between, tokens⟩
    else if c.isDigit || c = '-' then some ⟨.numeral [c], tokens⟩
    else if c.isLower then some ⟨.word [c], tokens⟩
    else none

/-- The machine on one character. -/
def lexStep (s : Lexing) (c : Char) : Option Lexing :=
  match s.mode with
  | .between => lexBetween s.tokens c
  | .numeral chars =>
    if isNumeralChar c then some ⟨.numeral (c :: chars), s.tokens⟩
    else (numeralToken? chars).bind fun t => lexBetween (t :: s.tokens) c
  | .word chars =>
    if c.isLower then some ⟨.word (c :: chars), s.tokens⟩
    else (wordToken? chars).bind fun t => lexBetween (t :: s.tokens) c
  | .text units =>
    if c = '"' then some ⟨.between, textToken units :: s.tokens⟩
    else if c = '\\' then some ⟨.escape units, s.tokens⟩
    else if c.toNat < 0x20 then none
    else some ⟨.text (.char c :: units), s.tokens⟩
  | .escape units =>
    if c = 'u' then some ⟨.code units [], s.tokens⟩
    else (escapedChar? c).map fun d => ⟨.text (.char d :: units), s.tokens⟩
  | .code units digits =>
    if (Text.hexValue? c).isNone then none
    else
      match digits with
      | [c₃, c₂, c₁] =>
        (Text.hexQuad? c₁ c₂ c₃ c).map fun n => ⟨.text (.code n :: units), s.tokens⟩
      | _ => some ⟨.code units (c :: digits), s.tokens⟩

def Lexing.finish? (s : Lexing) : Option (List Token) :=
  match s.mode with
  | .between => some s.tokens.reverse
  | .numeral chars => (numeralToken? chars).map fun t => (t :: s.tokens).reverse
  | .word chars => (wordToken? chars).map fun t => (t :: s.tokens).reverse
  | _ => none

def tokens? (text : List Char) : Option (List Token) :=
  (text.foldlM lexStep ⟨.between, []⟩).bind Lexing.finish?

end WikiGraph.Json
