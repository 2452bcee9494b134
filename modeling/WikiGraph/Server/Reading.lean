import WikiGraph.Query.Gate
import WikiGraph.Server.Client
/-!
# Reading from a server

Counts, memberships and the queries of users, all in the reading role. A query can also be tried: it
runs in a transaction that is rolled back whatever comes of it.
-/
namespace WikiGraph.Server

open Cypher

variable {τ : Type} (s : Endpoint τ)

/-- The rows of a statement in the reading role (`start_read_txn`). -/
def readRows (form : Form) (parameters : List (String × Parameter)) : ClientM τ (List Row) :=
  fetch s .reader ⟨form, parameters⟩

/-- The number of nodes with a label (`count_nodes`). -/
def countNodes (label : String) : ClientM τ Int := do
  return firstInteger (← readRows s (.countNodes label) []) "cnt"

/-- The number of relation edges that leave a subject (`count_relations`). -/
def countRelations (source : SubjectId) : ClientM τ Int := do
  return firstInteger (← readRows s .countRelations [textParameter "id" source.text]) "cnt"

/-- A subject of a page with its mark; a mark that is not there is false. -/
def membershipOfRow (r : Row) : Except GraphError (SubjectId × Bool) :=
  match r.text? "id" with
  | some id => .ok (⟨id⟩, (r.boolean? "is_main").getD false)
  | none => .error (.serialization "Failed to get subject id")

/-- The subjects of a page with their marks, in the order of their identifiers
(`page_memberships`). -/
def pageMemberships (page : PageId) : ClientM τ (List (SubjectId × Bool)) := do
  let rows ← readRows s .pageMemberships [textParameter "id" page.text]
  ExceptT.mk (pure (rows.mapM membershipOfRow))

/-- All rows of a user's query (`run_read_query`). -/
def runRead (query : String) : ClientM τ (List Row) := readRows s (.query query) []

/-- The first row of a user's query (`read_one`). -/
def readOne (query : String) : ClientM τ (Option Row) := do
  return (← runRead s query).head?

/-- Runs a statement in the writing role without reading its rows (`run_write_query`). -/
def runWrite (query : String) : ClientM τ Unit := execute s .writer ⟨.query query, []⟩

/-- Tries a query: a transaction is started for it and rolled back after it (`probe`). The outcome
is that of the query, whatever becomes of the rollback. -/
def tryQuery (query : String) : ClientM τ Unit := do
  sendControl s .reader "BEGIN" .start
  let outcome ← ExceptT.run (discard (runRead s query) : ClientM τ Unit)
  tryCatch (sendControl s .reader "ROLLBACK" .rollback) fun _ => pure ()
  ExceptT.mk (pure outcome)

/-- Passes a user's query through the gate, with a trial if asked for, and runs it. -/
def gatedRead (trial : Bool) (query : String) :
    StateM (Client τ) (Except Query.GateError (List Row)) :=
  let validators := if trial then [Query.trialValidator fun q => (tryQuery s q).run] else []
  Query.runGate validators (fun q => (runRead s q).run) query

end WikiGraph.Server
