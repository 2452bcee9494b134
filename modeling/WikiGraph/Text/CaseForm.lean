import WikiGraph.Text.Character
import WikiGraph.Text.LowerForms
/-!
# Case forms

Texts are put in lower case in full: a dotted capital I becomes two characters, and what a capital
sigma becomes hangs on whether it ends a word. Upper case serves to compare words with ASCII keywords,
where only characters whose form is made of ASCII characters can take part in a match. So it is given
for those, and every other character stays as it is: it is no ASCII character, and neither is its form.
-/
namespace WikiGraph.Text

/-- The upper-case form of a character, exact whenever that form is ASCII text: the dotless i,
the long s, the sharp s and the Latin ligatures have one. -/
def upperForm (c : Char) : List Char :=
  if c.toNat < 0x80 then [c.toUpper]
  else match c.toNat with
    | 0xDF => ['S', 'S']
    | 0x131 => ['I']
    | 0x17F => ['S']
    | 0xFB00 => ['F', 'F']
    | 0xFB01 => ['F', 'I']
    | 0xFB02 => ['F', 'L']
    | 0xFB03 => ['F', 'F', 'I']
    | 0xFB04 => ['F', 'F', 'L']
    | 0xFB05 => ['S', 'T']
    | 0xFB06 => ['S', 'T']
    | _ => [c]

/-- The lower-case form of a character, wherever it stands. -/
def lowerForm (c : Char) : List Char :=
  if c.toNat < 0x80 then [c.toLower]
  else if c.toNat = 0x130 then ['i', '\u0307']
  else [Char.ofNat (lowerCode c.toNat)]

/-- Whether a text goes on with a character that has case, behind any that case passes over. -/
def meetsCased (text : List Char) : Bool := (text.dropWhile isCaseIgnorable).head?.any isCased

/-- The lower-case form of a character between two texts, the one before it read from its end. A
capital sigma that ends a word becomes the final one. -/
def lowerFormBetween (before : List Char) (c : Char) (after : List Char) : List Char :=
  if c.toNat = 0x3A3 && meetsCased before && !meetsCased after then ['\u03C2'] else lowerForm c

/-- Lower-casing of a text behind another one, which is read from its end. -/
def lowerBehind (before : List Char) : List Char → List Char
  | [] => []
  | c :: rest => lowerFormBetween before c rest ++ lowerBehind (c :: before) rest

def upperCase (text : List Char) : List Char := text.flatMap upperForm

def lowerCase (text : List Char) : List Char := lowerBehind [] text

/-- A point inside a word is no end of it, and a sigma alone is no word. -/
example : lowerCase "İΣ Σ ΑΣ.Α".toList = "i̇ς σ ασ.α".toList := by decide +kernel

/-- Whether `part` stands somewhere inside `text`. -/
def contains (part : List Char) : List Char → Bool
  | [] => part.isEmpty
  | c :: rest => part.isPrefixOf (c :: rest) || contains part rest

@[simp] theorem upperCase_append (a b : List Char) :
    upperCase (a ++ b) = upperCase a ++ upperCase b := by
  simp [upperCase]

/-- Containment is the infix relation. -/
theorem contains_iff_infix {part text : List Char} :
    contains part text = true ↔ part <:+: text := by
  induction text with
  | nil => simp [contains]
  | cons c rest ih =>
    simp [contains, ih, List.infix_cons_iff]

end WikiGraph.Text
