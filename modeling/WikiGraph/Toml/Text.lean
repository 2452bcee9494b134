import WikiGraph.Text.Hexadecimal
/-!
# Texts in TOML

A text stands between double quotes, in which escapes are read, or between single quotes, in which
everything stands for itself. Three quotes on either side make a text that may go over several
lines: a line break right behind the opening quotes is dropped, one or two quotes may stand before
the closing ones, and a backslash at the end of a line takes away all white space up to the next
other character.
-/
namespace WikiGraph.Toml

/-- A character that may stand in a text or a comment: no control character but the tab. -/
def isTextChar (c : Char) : Bool := c = '\t' || (0x20 ≤ c.toNat && c.toNat ≠ 0x7F)

def isBlank (c : Char) : Bool := c = ' ' || c = '\t'

/-- What the reader of a text between double quotes is in the middle of. -/
inductive Escaping where
  | plain
  /-- Behind a backslash. -/
  | escape
  /-- In a character code with so many digits to come. -/
  | code (left value : Nat)
  /-- Behind a backslash at the end of a line; `broken` tells that the line has ended. -/
  | margin (broken : Bool)

def plainStep (lines : Bool) (c : Char) : Option (Escaping × List Char) :=
  if c = '\\' then some (.escape, [])
  else if isTextChar c || (lines && c = '\n') then some (.plain, [c])
  else none

/-- A step behind a backslash. -/
def escapeStep (lines : Bool) (c : Char) : Option (Escaping × List Char) :=
  match c with
  | 'b' => some (.plain, ['\x08'])
  | 't' => some (.plain, ['\t'])
  | 'n' => some (.plain, ['\n'])
  | 'f' => some (.plain, ['\x0c'])
  | 'r' => some (.plain, ['\r'])
  | '"' => some (.plain, ['"'])
  | '\\' => some (.plain, ['\\'])
  | 'u' => some (.code 4 0, [])
  | 'U' => some (.code 8 0, [])
  | '\n' => if lines then some (.margin true, []) else none
  | _ => if lines && isBlank c then some (.margin false, []) else none

/-- A step of the reader: what it is in the middle of next, and what the text gains. -/
def unescapeStep (lines : Bool) : Escaping → Char → Option (Escaping × List Char)
  | .plain, c => plainStep lines c
  | .escape, c => escapeStep lines c
  | .code left value, c => do
    let value := value * 16 + (← Text.hexValue? c)
    if left = 1 then (Text.charOfCode? value).map fun d => (.plain, [d])
    else some (.code (left - 1) value, [])
  | .margin broken, c =>
    if c = '\n' then some (.margin true, [])
    else if isBlank c then some (.margin broken, [])
    else if broken then plainStep lines c
    else none

/-- The text that stands between double quotes. -/
def unescape? (lines : Bool) : Escaping → List Char → Option (List Char)
  | .plain, [] => some []
  | .margin true, [] => some []
  | _, [] => none
  | e, c :: rest => do
    let (e, gained) ← unescapeStep lines e c
    (unescape? lines e rest).map (gained ++ ·)

/-- What follows the closing quotes a text begins with, and the quotes that stand before them. -/
def closing? (quote : Char) (lines : Bool) (text : List Char) : Option (List Char × List Char) :=
  let run := (text.takeWhile (· = quote)).take (if lines then 5 else 1)
  let needed := if lines then 3 else 1
  if run.length < needed then none else some (run.drop needed, text.drop run.length)

/-- What stands before the closing quotes, and what follows them. Where escapes are read, no quote
behind a backslash closes. -/
def extent? (quote : Char) (lines : Bool) : List Char → Option (List Char × List Char)
  | [] => none
  | c :: rest =>
    match closing? quote lines (c :: rest) with
    | some found => some found
    | none =>
      if c = '\\' ∧ quote = '"' then
        match rest with
        | [] => none
        | d :: after => (extent? quote lines after).map fun (inside, after) =>
            (c :: d :: inside, after)
      else (extent? quote lines rest).map fun (inside, after) => (c :: inside, after)

def readInside? (quote : Char) (lines : Bool) (inside : List Char) : Option (List Char) :=
  if quote = '"' then unescape? lines .plain inside
  else if inside.all fun c => isTextChar c || (lines && c = '\n') then some inside
  else none

def textBehind? (quote : Char) (lines : Bool) (text : List Char) : Option (String × List Char) := do
  let (inside, after) ← extent? quote lines text
  let inside := match lines, inside with
    | true, '\n' :: rest => rest
    | _, _ => inside
  return (String.ofList (← readInside? quote lines inside), after)

def lineTextAhead? : List Char → Option (String × List Char)
  | '"' :: rest => textBehind? '"' false rest
  | '\'' :: rest => textBehind? '\'' false rest
  | _ => none

def textAhead? : List Char → Option (String × List Char)
  | '"' :: '"' :: '"' :: rest => textBehind? '"' true rest
  | '\'' :: '\'' :: '\'' :: rest => textBehind? '\'' true rest
  | text => lineTextAhead? text

end WikiGraph.Toml
