import WikiGraph.Graph.Error
import WikiGraph.Query.Classifier
/-!
# The query gate

A query of a page author passes three layers before its rows come back: the keyword classifier,
the validators in their order, and the database, which runs it for a role that may only read. The
gate stops at the first layer that refuses or fails.

Validators and the runner are computations of any monad, so that what is asked of them, and in
which order, can be observed.
-/
namespace WikiGraph.Query

/-- Why a query brought no rows (`QueryError`). -/
inductive GateError where
  /-- The query is unsafe and was not run, or the database refused it. -/
  | notAllowed (reason : String)
  /-- Checking or running the query failed. -/
  | graph (cause : GraphError)
deriving DecidableEq, Repr

namespace GateError

def message : GateError → String
  | notAllowed reason => "Query not allowed: " ++ reason
  | graph cause => "Graph error: " ++ cause.message

/-- Whether the query was judged unsafe, as opposed to a failure on the way (`is_rejection`). -/
def isRejection : GateError → Bool
  | notAllowed _ => true
  | graph _ => false

def contains (k : WriteKeyword) : GateError := notAllowed ("contains " ++ k.spelling)

def byReadOnlyRole : GateError := notAllowed "refused by the read-only role"

def byDatabase : GateError := notAllowed "refused by the database"

end GateError

variable {m : Type → Type} [Monad m] {ρ : Type}

/-- A judge of queries: whether a query only reads, or why that cannot be said
(`QueryValidator`). -/
abbrev Validator (m : Type → Type) := String → m (Except GraphError Bool)

def keywordValidator : Validator m := fun query => pure (.ok (isReadOnly query.toList))

/-- The validator that runs the query on trial: a refusal of the database is the verdict that the
query does not only read, and every other failure is passed on (`ExplainQueryValidator`). -/
def trialValidator (trial : String → m (Except GraphError Unit)) : Validator m := fun query => do
  match ← trial query with
  | .ok () => return .ok true
  | .error e => if e.isPermissionDenied then return .ok false else return .error e

/-- Classification alone (`QueryGate::check`). -/
def check (query : String) : Except GateError Unit :=
  match writeKeyword? query.toList with
  | some k => .error (.contains k)
  | none => .ok ()

/-- Asks validators in order, up to the first that does not answer yes. -/
def consult (query : String) : List (Validator m) → m (Except GateError Unit)
  | [] => pure (.ok ())
  | v :: rest => do
    match ← v query with
    | .ok true => consult query rest
    | .ok false => return .error .byReadOnlyRole
    | .error e => return .error (.graph e)

def outcome : Except GraphError (List ρ) → Except GateError (List ρ)
  | .ok rows => .ok rows
  | .error e => if e.isPermissionDenied then .error .byDatabase else .error (.graph e)

/-- Passes a query through all layers (`QueryGate::run`). -/
def runGate (validators : List (Validator m)) (runner : String → m (Except GraphError (List ρ)))
    (query : String) : m (Except GateError (List ρ)) :=
  match check query with
  | .error e => pure (.error e)
  | .ok () => do
    match ← consult query validators with
    | .error e => return .error e
    | .ok () => return outcome (← runner query)

end WikiGraph.Query
