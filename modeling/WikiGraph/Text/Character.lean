import WikiGraph.Text.Alphanumeric
import WikiGraph.Text.Cased
import WikiGraph.Text.Unprintable
/-!
# Classes of characters

The classes the rules of this library speak of. Each follows the Unicode property of its name;
on ASCII every one agrees with the plain rule, so that text of query keywords never needs a table.
-/
namespace WikiGraph.Text

def inRanges (ranges : List (Nat × Nat)) (n : Nat) : Bool :=
  ranges.any fun r => r.1 ≤ n && n ≤ r.2

/-- A letter or a number of any script. -/
def isAlphanumeric (c : Char) : Bool :=
  if c.toNat < 0x80 then c.isAlphanum else inRanges alphanumericRanges c.toNat

/-- A character that has case: a capital, small or title letter, or a sign that counts as one. -/
def isCased (c : Char) : Bool :=
  if c.toNat < 0x80 then c.isAlpha else inRanges casedRanges c.toNat

/-- A character that case passes over inside a word: a mark, a modifier, a format character or
punctuation that stands inside words. -/
def isCaseIgnorable (c : Char) : Bool :=
  if c.toNat < 0x80 then "'.:^`".toList.contains c else inRanges caseIgnorableRanges c.toNat

/-- A control character: the two blocks below the space and below the no-break space. -/
def isControl (c : Char) : Bool :=
  c.toNat < 0x20 || (0x7F ≤ c.toNat && c.toNat < 0xA0)

def wideSpaces : List (Nat × Nat) := [
  (0x85, 0x85), (0xA0, 0xA0), (0x1680, 0x1680), (0x2000, 0x200A), (0x2028, 0x2029),
  (0x202F, 0x202F), (0x205F, 0x205F), (0x3000, 0x3000)]

/-- White space: tab, the four line-moving controls, the space and the spaces of other scripts. -/
def isSpace (c : Char) : Bool :=
  if c.toNat < 0x80 then (0x09 ≤ c.toNat && c.toNat ≤ 0x0D) || c.toNat = 0x20
  else inRanges wideSpaces c.toNat

/-- A character that a quoted text cannot show as it is. -/
def isUnprintable (c : Char) : Bool :=
  if c.toNat < 0x80 then isControl c else inRanges unprintableRanges c.toNat

/-- A character that ends a line: line feed, vertical tab, form feed, carriage return, next line and
the line and paragraph separators (`is_line_break`). -/
def isLineBreak (c : Char) : Bool :=
  (0x0A ≤ c.toNat && c.toNat ≤ 0x0D) || c.toNat = 0x85 || c.toNat = 0x2028 || c.toNat = 0x2029

end WikiGraph.Text
