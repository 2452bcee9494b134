import WikiGraph.Graph.Error
import WikiGraph.Server.Exchange
/-!
# Edges in rows

The relation that an edge in a row stands for. Its identifier is the text under the reserved key;
properties that are no scalars cannot be represented and are left out.
-/
namespace WikiGraph.Server

/-- The properties with one more entry read: nothing that holds no scalar is a property, and the
identifier is none. -/
def addEntry (scalar? : Cell → Option Scalar) (m : Properties) (e : String × Cell) : Properties :=
  if e.1 = relationIdKey then m
  else match scalar? e.2 with
    | some s => m.insert e.1 s
    | none => m

def propertiesOfEdge (entries : List (String × Cell)) : Properties :=
  entries.foldl (addEntry Cell.scalar?) ∅

def idOfEdge? (entries : List (String × Cell)) : Option String :=
  ((entries.find? (·.1 = relationIdKey)).map (·.2)).bind Cell.text?

/-- The relation an edge of a given type, with given properties and target, stands for
(`relation_from_neo4j`). -/
def relationOfEdge (type : String) (entries : List (String × Cell)) (target : String) :
    Except GraphError Relation :=
  match idOfEdge? entries with
  | none => .error (.serialization "Relation without string id")
  | some id => .ok {
      id := ⟨id⟩
      type := ⟨type⟩
      target := ⟨target⟩
      properties := propertiesOfEdge entries }

/-- The relation in a row of outgoing edges. -/
def relationOfRow (r : Row) : Except GraphError Relation :=
  match r.cell? "r" with
  | some (.edge type entries) =>
    match r.text? "target" with
    | some target => relationOfEdge type entries target
    | none => .error (.serialization "Failed to get target")
  | _ => .error (.serialization "Failed to get relation")

def Cell.ofScalar : Scalar → Cell
  | .boolean b => .boolean b
  | .integer n => .integer n
  | .float x => .float x
  | .text s => .text s

/-- The properties of an edge as the server returns them. -/
def cellsOf (m : Properties) : List (String × Cell) :=
  m.toList.map fun p => (p.1, .ofScalar p.2)

@[simp] theorem Cell.scalar?_ofScalar (s : Scalar) : (Cell.ofScalar s).scalar? = some s := by
  cases s <;> rfl

end WikiGraph.Server
