import WikiGraph.Server.Host.Composed
import WikiGraph.Server.Host.Joiner
import WikiGraph.Server.Host.Mapping
import WikiGraph.Server.Host.Punycode
/-!
# Domain names

A name is a row of labels with points between them. Its characters are first given their form in
names. A label that begins with `xn--` is a spelling in ASCII of one that is not: that one must be
composed text of characters that names leave as they are. A label does not begin with a mark, its
joiners can be seen, and together the labels are unambiguous in their directions.
-/
namespace WikiGraph.Server.Host

/-- The parts of a text between points; there is at least one. -/
def labelsOf : List Char → List (List Char)
  | [] => [[]]
  | c :: rest =>
    if c = '.' then [] :: labelsOf rest
    else match labelsOf rest with
      | [] => [[c]]
      | label :: labels => (c :: label) :: labels

def isAscii (text : List Char) : Bool := text.all fun c => c.toNat < 0x80

/-- The label that a label in its form stands for, which is itself if it is no spelling. -/
def spelledLabel? (label : List Char) : Option (List Char) :=
  match label with
  | 'x' :: 'n' :: '-' :: '-' :: spelling =>
    if isAscii spelling then
      (ofSpelling? spelling).filter fun l =>
        !isAscii l && l.all isSettled && isComposed l
    else none
  | _ => some label

def isSoundLabel (label : List Char) : Bool :=
  !(label.head?).any isMark && joinersShow [] label

def nameOf? (text : List Char) : Option (List Char) := do
  let form := (← text.mapM nameForm?).flatten
  let labels ← (labelsOf form).mapM spelledLabel?
  if !form.isEmpty && labels.all isSoundLabel && isUnambiguous labels then some form else none

end WikiGraph.Server.Host
