import WikiGraph.Toml.Moment
import WikiGraph.Toml.Numeral
import WikiGraph.Toml.Text
/-!
# Reading TOML documents

A document is read statement by statement, each on lines of its own: entries, headers, comments.
Values nest, so the reader of a value counts down a budget; every second step takes a character
away, and twice the length of the text is enough. Lists and tables written as values nest less than
eighty deep, and a key has less than eighty parts.
-/
namespace WikiGraph.Toml

def isKeyChar (c : Char) : Bool := c.isAlphanum || c = '-' || c = '_'

def skipBlanks (text : List Char) : List Char := text.dropWhile isBlank

/-- The text without the white space, line breaks and comments it begins with; `comment` tells that
it begins inside a comment. -/
def skipLines? (comment : Bool) : List Char → Option (List Char)
  | [] => some []
  | c :: rest =>
    if c = '\n' then skipLines? false rest
    else if comment then if isTextChar c then skipLines? true rest else none
    else if isBlank c then skipLines? false rest
    else if c = '#' then skipLines? true rest
    else some (c :: rest)

def keyPartAhead? (text : List Char) : Option (String × List Char) :=
  match text.takeWhile isKeyChar with
  | [] => lineTextAhead? text
  | name => some (String.ofList name, text.dropWhile isKeyChar)

/-- The greatest number of parts of a key, and of lists and tables around a value. -/
def depthLimit : Nat := 79

/-- A key of at most so many parts with points between them: the parts before the last, the last,
what follows. -/
def keyPartsAhead? : Nat → List Char → Option (List String × String × List Char)
  | 0, _ => none
  | parts + 1, text => do
    let (part, rest) ← keyPartAhead? (skipBlanks text)
    match skipBlanks rest with
    | '.' :: rest =>
      let (path, key, rest) ← keyPartsAhead? parts rest
      return (part :: path, key, rest)
    | rest => return ([], part, rest)

def keyAhead? (text : List Char) : Option (List String × String × List Char) :=
  keyPartsAhead? depthLimit text

def isWordChar (c : Char) : Bool := isKeyChar c || c = '+' || c = '.' || c = ':'

/-- A value without quotes and brackets, and what follows it. A space may stand between a date and a
time. -/
def wordAhead? (text : List Char) : Option (Toml × List Char) :=
  let word := text.takeWhile isWordChar
  let rest := text.dropWhile isWordChar
  let (word, rest) := match (dayAhead? word).any (·.2.isEmpty), rest with
    | true, ' ' :: c :: after =>
      if c.isDigit then
        let clock := (c :: after).takeWhile isWordChar
        (word ++ ' ' :: clock, (c :: after).dropWhile isWordChar)
      else (word, rest)
    | _, _ => (word, rest)
  if word = "true".toList then some (.boolean true, rest)
  else if word = "false".toList then some (.boolean false, rest)
  else match moment? word with
    | some written => some (.moment (String.ofList written), rest)
    | none => (number? word).map fun n => (n, rest)

mutual
/-- A value in which lists and tables nest at most `depth` deep, and what follows it. -/
def valueAhead? : Nat → Nat → List Char → Option (Toml × List Char)
  | 0, _, _ => none
  | budget + 1, depth, text =>
    match depth, text with
    | 0, '[' :: _ => none
    | 0, '\x7b' :: _ => none
    | depth + 1, '[' :: rest =>
      (itemsAhead? budget depth rest).map fun (items, rest) => (.list items, rest)
    | depth + 1, '\x7b' :: rest =>
      match skipBlanks rest with
      | '\x7d' :: rest => some (.table .complete [], rest)
      | rest => (membersAhead? budget depth [] rest).map fun (members, rest) =>
          (.table .complete members, rest)
    | _, '"' :: _ | _, '\'' :: _ => (textAhead? text).map fun (s, rest) => (.string s, rest)
    | _, _ => wordAhead? text

/-- The items of a list behind its opening bracket, and what follows the closing one. -/
def itemsAhead? : Nat → Nat → List Char → Option (List Toml × List Char)
  | 0, _, _ => none
  | budget + 1, depth, text => do
    match ← skipLines? false text with
    | ']' :: rest => return ([], rest)
    | text =>
      let (item, rest) ← valueAhead? budget depth text
      match ← skipLines? false rest with
      | ']' :: rest => return ([item], rest)
      | ',' :: rest =>
        let (items, rest) ← itemsAhead? budget depth rest
        return (item :: items, rest)
      | _ => none

/-- The members of a table written as a value, after those that were read, and what follows its
closing brace. -/
def membersAhead? : Nat → Nat → Members → List Char → Option (Members × List Char)
  | 0, _, _, _ => none
  | budget + 1, depth, members, text => do
    let (path, key, rest) ← keyAhead? text
    let (value, rest) ← valueAhead? budget depth (skipBlanks (← ['='].isPrefixOf? rest))
    let members ← enter? path key value members
    match skipBlanks rest with
    | '\x7d' :: rest => return (members, rest)
    | ',' :: rest => membersAhead? budget depth members rest
    | _ => none
end

/-- What follows the end of a line, on which only white space and a comment may stand. -/
def lineEnd? (text : List Char) : Option (List Char) :=
  match skipBlanks text with
  | [] => some []
  | '\n' :: rest => some rest
  | '#' :: rest => skipLines? true rest
  | _ => none

/-- The document after one statement, and what follows the statement's line. -/
def statement? (d : Document) (text : List Char) : Option (Document × List Char) :=
  match text with
  | '[' :: '[' :: rest => do
    let (path, key, rest) ← keyAhead? rest
    let rest ← lineEnd? (← [']'].isPrefixOf? (← [']'].isPrefixOf? rest))
    return (⟨← openAnother? path key d.members, path ++ [key]⟩, rest)
  | '[' :: rest => do
    let (path, key, rest) ← keyAhead? rest
    let rest ← lineEnd? (← [']'].isPrefixOf? rest)
    return (⟨← open? path key d.members, path ++ [key]⟩, rest)
  | _ => do
    let (path, key, rest) ← keyAhead? text
    let (value, rest) ← valueAhead? (2 * text.length) depthLimit (skipBlanks (← ['='].isPrefixOf? rest))
    return (← d.enter? path key value, ← lineEnd? rest)

/-- The document after all statements of a text. -/
def statements? : Nat → Document → List Char → Option Document
  | 0, _, _ => none
  | budget + 1, d, text => do
    match ← skipLines? false text with
    | [] => return d
    | text =>
      let (d, rest) ← statement? d text
      statements? budget d rest

/-- The text with every line break of two characters as one. -/
def unifyBreaks : List Char → List Char
  | '\r' :: '\n' :: rest => '\n' :: unifyBreaks rest
  | c :: rest => c :: unifyBreaks rest
  | [] => []

def withoutMark : List Char → List Char
  | '\ufeff' :: rest => rest
  | text => text

/-- The members of the document that a whole text is. -/
def parse? (text : List Char) : Option Members :=
  let text := unifyBreaks (withoutMark text)
  (statements? (text.length + 1) {} text).map Document.members

end WikiGraph.Toml
