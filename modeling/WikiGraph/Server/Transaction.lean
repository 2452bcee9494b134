import WikiGraph.Server.Client
import WikiGraph.Server.Edge
/-!
# The store on a server

Calls of a store as statements of one transaction, sent in the writing role. After a commit or a
rollback was attempted the transaction is over: nothing more is sent in it.
-/
namespace WikiGraph.Server

open Cypher

variable {τ : Type} (s : Endpoint τ)

/-- Runs a statement of the transaction. -/
def executeText (form : Form) (parameters : List (String × Parameter)) : ClientM τ Unit :=
  execute s .writer ⟨form, parameters⟩

/-- Runs a statement of the transaction and answers its rows. -/
def fetchText (form : Form) (parameters : List (String × Parameter)) : ClientM τ (List Row) :=
  fetch s .writer ⟨form, parameters⟩

/-- A number of rows; no server counts below zero (`count`). -/
def count (form : Form) (parameters : List (String × Parameter)) (column : String) :
    ClientM τ Nat := do
  return (firstInteger (← fetchText s form parameters) column).toNat

/-- Writes a subject node (`upsert_subject`). The label of a schema that governed it before is
removed first. -/
def upsertSubject (subject : SubjectNode) : ClientM τ Unit := do
  let id := textParameter "id" subject.id.text
  let rows ← fetchText s .schemaOfSubject [id]
  match rows.head?.bind (·.text? "schema") with
  | some old =>
    if old ≠ "" ∧ old ≠ subject.schema.text then executeText s (.removeLabel old) [id]
  | none => pure ()
  executeText s (.upsertSubject subject.schema.text) [id, ("props", subjectProperties subject)]

/-- The statements of an operation and its answer. -/
def performOpen : (op : Operation) → ClientM τ op.Answer
  | .upsertPage page => executeText s .upsertPage [
      textParameter "created_at" page.createdAt, textParameter "id" page.id.text,
      textParameter "last_editor" page.lastEditor, textParameter "title" page.title,
      textParameter "updated_at" page.updatedAt]
  | .upsertSubject subject => upsertSubject s subject
  | .linkSubject page subject main => executeText s .linkSubject [
      ("is_main", .scalar (.boolean main)), textParameter "page_id" page.text,
      textParameter "subject_id" subject.text]
  | .setMain page subject main => executeText s .setMain [
      ("is_main", .scalar (.boolean main)), textParameter "page_id" page.text,
      textParameter "subject_id" subject.text]
  | .detachExcept page keep => count s .detachExcept
      [("keep", .texts (keep.map (·.text))), textParameter "page_id" page.text] "detached"
  | .outgoing source => do
    let rows ← fetchText s .outgoing [textParameter "id" source.text]
    ExceptT.mk (pure (rows.mapM relationOfRow))
  | .createRelation source relation => do
    let created ← count s (.createRelation relation.type.text) [
      ("props", edgeParameter relation), textParameter "source" source.text,
      textParameter "target" relation.target.text] "created"
    return (0 < created : Bool)
  | .updateRelation source relation => executeText s .updateRelation [
      textParameter "id" relation.id.text, ("props", edgeParameter relation),
      textParameter "source" source.text]
  | .deleteRelation source id => executeText s .deleteRelation
      [textParameter "id" id.text, textParameter "source" source.text]
  | .deletePage page => count s .deletePage [textParameter "id" page.text] "removed"

def leave : ClientM τ Unit := do
  let c ← get
  if c.inTransaction then set { c with inTransaction := false }
  else throw .transactionClosed

/-- The answer to a call. -/
def answer : (c : Call) → ClientM τ c.Answer
  | .start => do
    modify fun c => { c with inTransaction := false }
    sendControl s .writer "BEGIN" .start
    modify fun c => { c with inTransaction := true }
  | .perform op => do
    if (← get).inTransaction then performOpen s op else throw .transactionClosed
  | .commit => do
    leave
    sendControl s .writer "COMMIT" .commit
  | .rollback => do
    leave
    sendControl s .writer "ROLLBACK" .rollback

/-- The store on a server. -/
def store : Store (Client τ) := answer s

/-- Forgets the transaction; the server is not told. -/
def drop (c : Client τ) : Client τ := { c with inTransaction := false }

end WikiGraph.Server
