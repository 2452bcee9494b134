import WikiGraph.Text.Character
/-!
# Regions of a query text

A query text is read from left to right. At each place the reader is in one of six regions: code,
two kinds of string, a quoted identifier and two kinds of comment. `Region.move` says where the
next character leads, and `codeWords` collects the words that stand in code.
-/
namespace WikiGraph.Query

open WikiGraph.Text

/-- Where the reader of a query text stands (`LexState`). -/
inductive Region where
  | code
  | singleQuoted
  | doubleQuoted
  | backticked
  | lineComment
  | blockComment
deriving DecidableEq, Repr

/-- One move of the reader: the region behind it, and whether it takes the following character
along with the present one. -/
structure Move where
  region : Region
  takesNext : Bool
deriving DecidableEq, Repr

def Move.length (m : Move) : Nat := if m.takesNext then 2 else 1

def backtick : Char := '\x60'

/-- The move on character `c` when `next` follows it (`transition`). A backslash in a string takes
the next character with it, a doubled backtick stays inside its identifier, and comment marks are
read as pairs. -/
def Region.move (r : Region) (c : Char) (next : Option Char) : Move :=
  match r with
  | .code =>
    if c = '/' ∧ next = some '/' then ⟨.lineComment, true⟩
    else if c = '/' ∧ next = some '*' then ⟨.blockComment, true⟩
    else if c = '\'' then ⟨.singleQuoted, false⟩
    else if c = '"' then ⟨.doubleQuoted, false⟩
    else if c = backtick then ⟨.backticked, false⟩
    else ⟨.code, false⟩
  | .singleQuoted =>
    if c = '\\' then ⟨.singleQuoted, true⟩
    else if c = '\'' then ⟨.code, false⟩
    else ⟨.singleQuoted, false⟩
  | .doubleQuoted =>
    if c = '\\' then ⟨.doubleQuoted, true⟩
    else if c = '"' then ⟨.code, false⟩
    else ⟨.doubleQuoted, false⟩
  | .backticked =>
    if c = backtick ∧ next = some backtick then ⟨.backticked, true⟩
    else if c = backtick then ⟨.code, false⟩
    else ⟨.backticked, false⟩
  | .lineComment => if isLineBreak c then ⟨.code, false⟩ else ⟨.lineComment, false⟩
  | .blockComment =>
    if c = '*' ∧ next = some '/' then ⟨.code, true⟩ else ⟨.blockComment, false⟩

/-- A character that words are made of (`is_word_char`). -/
def isWordChar (c : Char) : Bool := isAlphanumeric c || c = '_'

def wordSoFar (reversed : List Char) : List (List Char) :=
  if reversed.isEmpty then [] else [reversed.reverse]

/-- The words in code of a text read from region `r`, where `word` holds the characters of a word
already begun, the last one first. -/
def codeWordsFrom (r : Region) (word : List Char) : List Char → List (List Char)
  | [] => wordSoFar word
  | c :: rest =>
    if r = .code ∧ isWordChar c then codeWordsFrom .code (c :: word) rest
    else
      let m := r.move c rest.head?
      wordSoFar word ++
        match rest with
        | [] => []
        | d :: after =>
          if m.takesNext then codeWordsFrom m.region [] after
          else codeWordsFrom m.region [] (d :: after)

/-- The words standing in code, in order (`code_words`). -/
def codeWords (text : List Char) : List (List Char) := codeWordsFrom .code [] text

/-- The region in which a text read from region `r` ends. -/
def regionAfter (r : Region) : List Char → Region
  | [] => r
  | c :: rest =>
    if r = .code ∧ isWordChar c then regionAfter .code rest
    else
      let m := r.move c rest.head?
      match rest with
      | [] => m.region
      | d :: after =>
        if m.takesNext then regionAfter m.region after else regionAfter m.region (d :: after)

end WikiGraph.Query
