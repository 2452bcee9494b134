import WikiGraph.Statement
/-!
# Pages and their subjects

A page embeds at most one main subject and any number of child subjects. An identifier declared
twice on a page belongs to its first declaration, the main subject coming first.
-/
namespace WikiGraph

/-- A structured record embedded in a page. -/
structure Subject where
  id : SubjectId
  label : String
  schema : SchemaName
  statements : StatementList

/-- The relations a subject declares (`Subject::relations`). -/
def Subject.relations (s : Subject) : RelationList := s.statements.relations

/-- What a page shows about itself. Times are written with fourteen digits, `YYYYMMDDHHMMSS`. -/
structure PageProperties where
  title : String
  creationTime : String := ""
  modificationTime : String := ""
  lastEditor : String := ""
deriving DecidableEq, Repr

/-- The subjects declared on a page. -/
structure PageSubjects where
  main : Option Subject := none
  children : List Subject := []

namespace PageSubjects

/-- Every subject of the page with the mark whether it is the main one (`PageSubjects::all`). -/
def all (s : PageSubjects) : List (Subject × Bool) :=
  firstBy (·.1.id) (s.main.toList.map (·, true) ++ s.children.map (·, false))

/-- The identifiers of the page's subjects (`PageSubjects::ids`). -/
def ids (s : PageSubjects) : List SubjectId := s.all.map (·.1.id)

theorem nodup_ids (s : PageSubjects) : s.ids.Nodup := nodup_map_firstBy _ _

end PageSubjects

/-- A page with the subjects now declared on it. -/
structure Page where
  id : PageId
  properties : PageProperties
  subjects : PageSubjects := {}

end WikiGraph
