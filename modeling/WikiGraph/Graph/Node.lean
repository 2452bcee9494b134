import WikiGraph.Relation
/-!
# Nodes of the graph

A page node shows a page, a subject node a subject. Every page node is labelled `Page` and every
subject node `Subject` and with the name of its schema.
-/
namespace WikiGraph

/-- What a page node holds. -/
structure PageNode where
  id : PageId
  title : String
  createdAt : String
  updatedAt : String
  lastEditor : String
deriving DecidableEq, Repr

/-- What a subject node holds. -/
structure SubjectNode where
  id : SubjectId
  name : String
  schema : SchemaName
  properties : PropertyLists
deriving DecidableEq

def SubjectNode.same (a b : SubjectNode) : Bool :=
  a.id = b.id && a.name = b.name && a.schema = b.schema && a.properties.same b.properties

def subjectLabel : String := "Subject"

def pageLabel : String := "Page"

def SubjectNode.labels (s : SubjectNode) : List String := [subjectLabel, s.schema.text]

end WikiGraph
