import WikiGraph.Binary64.Rounding
import WikiGraph.Document.Fields
import WikiGraph.Page
import WikiGraph.Word
/-!
# Reading pages from documents

The JSON form of pages, subjects, statements and their values. A number without point and exponent
that fits 64 signed bits is an integer scalar, any other number a binary fraction. A value carries
its kind beside its content; when the content comes before the kind it is taken up before its form
is known, so nothing in it may be unreadable.
-/
namespace WikiGraph.Document

def float? : Json → Option Binary64
  | .number (.integer n) => some (Binary64.ofInt n)
  | .number (.float x) => some x
  | _ => none

def scalar? : Json → Option Scalar
  | .bool b => some (.boolean b)
  | .number (.integer n) =>
    if Word.fitsSigned n then some (.integer (Int64.ofInt n))
    else some (.float (Binary64.ofInt n))
  | .number (.float x) => some (.float x)
  | .string s => some (.text s)
  | _ => none

/-- Properties under their names; the last one of a name counts. -/
def properties? : Json → Option Properties
  | .object members =>
    members.foldlM (fun (m : Properties) (name, j) => (scalar? j).map (m.insert name)) ∅
  | _ => none

def identifier? {kind : IdentifierKind} (j : Json) : Option (Identifier kind) :=
  (text? j).map Identifier.mk

def relation? (j : Json) : Option Relation :=
  match fields? ["id", "type", "target", "properties"] j with
  | some [id, type, target, properties] => do
    return {
      id := ← required identifier? id
      type := ← required identifier? type
      target := ← required identifier? target
      properties := ← defaulted properties? ∅ properties }
  | _ => none

def valueKind? (j : Json) : Option ValueKind := (alternative? j).bind ValueKind.ofLabel?

/-- The kind of a value in a pair, where only its plain name is taken. -/
def pairedKind? (j : Json) : Option ValueKind := (text? j).bind ValueKind.ofLabel?

def content? : ValueKind → Json → Option Value
  | .string, j => (listOf? text? j).map .texts
  | .number, j => (float? j).map .number
  | .boolean, j => (bool? j).map .boolean
  | .relation, j => (listOf? relation? j).map .relations

def kindKey : String := "type"

def contentKey : String := "value"

/-- A value: kind and content, as members in either order or as a pair. -/
def value? : Json → Option Value
  | .array [kind, content] => do content? (← pairedKind? kind) content
  | .object members =>
    match members.filter fun m => m.1 = kindKey ∨ m.1 = contentKey with
    | [(first, a), (second, b)] =>
      if first = kindKey ∧ second = contentKey then do content? (← valueKind? a) b
      else if first = contentKey ∧ second = kindKey then
        if a.readable then do content? (← valueKind? b) a else none
      else none
    | _ => none
  | _ => none

def statement? (j : Json) : Option Statement :=
  match fields? ["property", "property_type", "value"] j with
  | some [property, propertyType, value] => do
    return {
      property := ← required text? property
      propertyType := ← required text? propertyType
      value := ← defaulted (nullable value?) none value }
  | _ => none

/-- Statements in order; a later one takes the place of an earlier one about the same property. -/
def statementList? (j : Json) : Option StatementList :=
  (listOf? statement? j).map StatementList.ofList

def subject? (j : Json) : Option Subject :=
  match fields? ["id", "label", "schema", "statements"] j with
  | some [id, label, schema, statements] => do
    return {
      id := ← required identifier? id
      label := ← required text? label
      schema := ← required identifier? schema
      statements := ← defaulted statementList? .empty statements }
  | _ => none

/-- What a page shows about itself. -/
def pageProperties? (j : Json) : Option PageProperties :=
  match fields? ["title", "creation_time", "modification_time", "last_editor"] j with
  | some [title, creation, modification, editor] => do
    return {
      title := ← required text? title
      creationTime := ← defaulted text? "" creation
      modificationTime := ← defaulted text? "" modification
      lastEditor := ← defaulted text? "" editor }
  | _ => none

def pageSubjects? (j : Json) : Option PageSubjects :=
  match fields? ["main", "children"] j with
  | some [main, children] => do
    return {
      main := ← defaulted (nullable subject?) none main
      children := ← defaulted (listOf? subject?) [] children }
  | _ => none

def page? (j : Json) : Option Page :=
  match fields? ["id", "properties", "subjects"] j with
  | some [id, properties, subjects] => do
    return {
      id := ← required identifier? id
      properties := ← required pageProperties? properties
      subjects := ← defaulted pageSubjects? {} subjects }
  | _ => none

end WikiGraph.Document
