import WikiGraph.Graph.Store
import WikiGraph.Server.Exchange
/-!
# Clients

A client sends requests and remembers what it sent and whether its transaction is open. A reply
that is a failure becomes an error of the graph, a refusal when the server names one.
-/
namespace WikiGraph.Server

/-- A client with the server it speaks to (`GraphClient`). -/
structure Client (τ : Type) where
  server : τ
  /-- The requests sent so far, each with the role it was sent in. -/
  sent : List (Role × Request) := []
  /-- Whether a transaction is open. -/
  inTransaction : Bool := false

variable {τ : Type}

/-- Computations that speak to a server. -/
abbrev ClientM (τ : Type) := StoreM (Client τ)

def unreachable (reason : String) : GraphError := .ofReport ("an IO error occurred: " ++ reason)

def statementFailed (c : Complaint) : GraphError :=
  .ofReport ("Neo4j error `" ++ c.code ++ "`: " ++ c.message)

def unexpected (request : String) (c : Complaint) : GraphError :=
  .ofReport ("unexpected response for " ++ request ++ ": " ++ c.code ++ ": " ++ c.message)

/-- Sends a request and answers the reply. Nothing is sent to a server out of reach. -/
def send (s : Endpoint τ) (role : Role) (request : Request) : ClientM τ Reply := do
  let c ← get
  match s.outOfReach? c.server with
  | some reason => throw (unreachable reason)
  | none =>
    let (reply, after) := s.reply role request c.server
    set { c with server := after, sent := c.sent ++ [(role, request)] }
    return reply

/-- Sends a request that opens or ends a transaction. -/
def sendControl (s : Endpoint τ) (role : Role) (name : String) (request : Request) :
    ClientM τ Unit := do
  match ← send s role request with
  | .failure c => throw (unexpected name c)
  | _ => return ()

/-- Runs a statement without reading its rows (`run`). -/
def execute (s : Endpoint τ) (role : Role) (statement : Cypher.Statement) : ClientM τ Unit := do
  match ← send s role (.run statement) with
  | .failure c => throw (statementFailed c)
  | .table { ending := some c, .. } => throw (statementFailed c)
  | _ => return ()

/-- Runs a statement and answers all its rows (`rows`). -/
def fetch (s : Endpoint τ) (role : Role) (statement : Cypher.Statement) : ClientM τ (List Row) := do
  match ← send s role (.run statement) with
  | .failure c => throw (statementFailed c)
  | .table t =>
    match t.ending with
    | some c => throw (unexpected "PULL" c)
    | none => return t.named
  | .success => return []

/-- The integer in a column of the first row, zero without one. -/
def firstInteger (rows : List Row) (column : String) : Int :=
  (rows.head?.bind (·.integer? column)).getD 0

end WikiGraph.Server
