import WikiGraph.Query.Escape
import WikiGraph.Text.Character
/-!
# Readings of a query text

It is not known how a server treats escapes of visible characters, nor what it makes of invisible
format characters. A `Reading` settles both questions one way; the text is examined under all four.
-/
namespace WikiGraph.Query

open WikiGraph.Text

/-- One way to read escapes and invisible characters (`Normalization`). -/
structure Reading where
  /-- Every escape is decoded, not only those of white space and control characters. -/
  decodesAll : Bool
  /-- An invisible character separates what stands on its two sides, instead of vanishing. -/
  splitsAtInvisible : Bool
deriving DecidableEq, Repr

/-- The four readings, in the order in which they are tried (`Normalization::ALL`). -/
def Reading.all : List Reading :=
  [⟨false, false⟩, ⟨false, true⟩, ⟨true, false⟩, ⟨true, true⟩]

theorem Reading.mem_all (m : Reading) : m ∈ Reading.all := by
  rcases m with ⟨_ | _, _ | _⟩ <;> decide

/-- The invisible format characters that some servers skip inside identifiers (`is_format_char`). -/
def isInvisible (c : Char) : Bool :=
  c.toNat = 0xAD || c.toNat = 0x180E || (0x200B ≤ c.toNat && c.toNat ≤ 0x200F) ||
    (0x2060 ≤ c.toNat && c.toNat ≤ 0x2064) || c.toNat = 0xFEFF

/-- What a reading makes of one piece. An escape of white space or of a control character becomes
a line break, so that it ends a line comment. -/
def Reading.render (m : Reading) (p : Piece) : List Char :=
  if isInvisible p.denoted then (if m.splitsAtInvisible then [' '] else [])
  else match p with
    | .plain c => [c]
    | .escape c written =>
      if isControl c || isSpace c then ['\n']
      else if m.decodesAll then [c]
      else written

/-- A query text as one reading takes it (`normalize`). -/
def Reading.normalize (m : Reading) (text : List Char) : List Char :=
  (pieces text).flatMap m.render

end WikiGraph.Query
