import WikiGraph.Text.Hexadecimal
/-!
# Unicode escapes in query texts

A backslash, one or more letters `u` and four hexadecimal digits may stand for the character with
that code. `pieces` cuts a text into such escapes and plain characters; put together again, the
pieces are the text.
-/
namespace WikiGraph.Query

open WikiGraph.Text

def isEscapeLetter (c : Char) : Bool := c = 'u' || c = 'U'

/-- A character as written, or an escape: the character it stands for and how it is written. -/
inductive Piece where
  | plain (c : Char)
  | escape (denoted : Char) (written : List Char)
deriving DecidableEq, Repr

def Piece.written : Piece → List Char
  | .plain c => [c]
  | .escape _ w => w

def Piece.denoted : Piece → Char
  | .plain c => c
  | .escape c _ => c

/-- The first four characters, when they are hexadecimal digits that name a character. -/
def codeAhead? : List Char → Option Char
  | a :: b :: c :: d :: _ => hexQuad? a b c d >>= charOfCode?
  | _ => none

/-- The escape a text begins with: the character it stands for and the number of characters it takes
after the backslash (`unicode_escape`). -/
def escapeAhead? : List Char → Option (Char × Nat)
  | '\\' :: rest =>
    match (rest.takeWhile isEscapeLetter).length with
    | 0 => none
    | letters + 1 => (codeAhead? (rest.drop (letters + 1))).map (·, letters + 5)
  | _ => none

/-- The pieces of a text, from left to right; an escape is taken wherever one begins. -/
def pieces : List Char → List Piece
  | [] => []
  | c :: rest =>
    match escapeAhead? (c :: rest) with
    | none => .plain c :: pieces rest
    | some (denoted, n) => .escape denoted (c :: rest.take n) :: pieces (rest.drop n)
termination_by text => text.length
decreasing_by all_goals simp only [List.length_drop, List.length_cons]; omega

/-- A text with every escape replaced by the character it stands for. -/
def decoded (text : List Char) : List Char := (pieces text).map Piece.denoted

/-- Nothing of a text is lost in its pieces. -/
theorem flatMap_written_pieces (text : List Char) :
    (pieces text).flatMap Piece.written = text := by
  fun_induction pieces text with
  | case1 => rfl
  | case2 c rest h ih => simp [Piece.written, ih]
  | case3 c rest d n h ih => simp [Piece.written, ih]

end WikiGraph.Query
