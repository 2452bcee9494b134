import WikiGraph.Cypher.Statement
/-!
# Requests and replies

What is said between a client and a graph server. The client speaks in one of two roles: one writes,
the other may only read. A server is anything that replies to requests, and may be in another state
afterwards; it may also be out of reach.
-/
namespace WikiGraph.Server

/-- The role in which the client speaks. -/
inductive Role where
  | writer | reader
deriving DecidableEq, Repr

/-- What a client asks of the server. -/
inductive Request where
  | start
  | commit
  | rollback
  | run (statement : Cypher.Statement)
deriving DecidableEq, Repr

/-- What the server says when it refuses a request or cannot carry it out. -/
structure Complaint where
  code : String
  message : String
deriving DecidableEq, Repr

/-- A value in a row. -/
inductive Cell where
  | null
  | boolean (b : Bool)
  | integer (n : Int64)
  | float (x : Binary64)
  | text (s : String)
  | list (cells : List Cell)
  | map (entries : List (String × Cell))
  /-- A relationship with its type and properties. -/
  | edge (type : String) (properties : List (String × Cell))
deriving Inhabited

/-- The rows a statement yields. The server may fail after them. -/
structure Table where
  columns : List String
  rows : List (List Cell)
  ending : Option Complaint := none

/-- A reply of the server. -/
inductive Reply where
  | success
  | failure (c : Complaint)
  | table (t : Table)

/-- A server with states of a given type. -/
structure Endpoint (τ : Type) where
  /-- Why the server cannot be reached, when it cannot. -/
  outOfReach? : τ → Option String
  reply : Role → Request → τ → Reply × τ

/-- The scalar in a cell; lists, maps and edges hold none (`scalar_from_relation`). -/
def Cell.scalar? : Cell → Option Scalar
  | .boolean b => some (.boolean b)
  | .integer n => some (.integer n)
  | .float x => some (.float x)
  | .text s => some (.text s)
  | _ => none

def Cell.text? : Cell → Option String
  | .text s => some s
  | _ => none

def Cell.integer? : Cell → Option Int
  | .integer n => some n.toInt
  | _ => none

def Cell.boolean? : Cell → Option Bool
  | .boolean b => some b
  | _ => none

abbrev Row := List (String × Cell)

def Table.named (t : Table) : List Row := t.rows.map fun r => t.columns.zip r

def Row.cell? (r : Row) (column : String) : Option Cell := (r.find? (·.1 = column)).map (·.2)

def Row.text? (r : Row) (column : String) : Option String := (r.cell? column).bind Cell.text?

def Row.integer? (r : Row) (column : String) : Option Int := (r.cell? column).bind Cell.integer?

def Row.boolean? (r : Row) (column : String) : Option Bool := (r.cell? column).bind Cell.boolean?

end WikiGraph.Server
