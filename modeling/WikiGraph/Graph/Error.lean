import WikiGraph.Text.CaseForm
/-!
# Failures of graph operations

An operation on a graph fails for one of five reasons. A report of the database is a refusal when
it names one: some phrase of a privilege or access-mode refusal occurs in it in any case.
-/
namespace WikiGraph

open WikiGraph.Text

/-- Why an operation on a graph failed. -/
inductive GraphError where
  | connection (reason : String)
  | query (report : String)
  | permissionDenied (report : String)
  | serialization (reason : String)
  | transactionClosed
deriving DecidableEq, Repr

namespace GraphError

def message : GraphError → String
  | connection reason => "Neo4j connection error: " ++ reason
  | query report => "Neo4j query error: " ++ report
  | permissionDenied report => "Permission denied: " ++ report
  | serialization reason => "Serialization error: " ++ reason
  | transactionClosed => "Transaction already finished"

/-- Whether the database refused the operation (`is_permission_denied`). -/
def isPermissionDenied : GraphError → Bool
  | permissionDenied _ => true
  | _ => false

/-- The phrases by which a report names a refusal (`MARKERS`). -/
def denialMarkers : List String := [
  "Neo.ClientError.Security.Forbidden",
  "Neo.ClientError.Statement.AccessMode",
  "not allowed for user",
  "in read access mode not allowed",
  "permission denied"]

/-- Whether a report names a refusal (`is_permission_denial`). -/
def isPermissionDenial (report : List Char) : Bool :=
  denialMarkers.any fun marker => contains (lowerCase marker.toList) (lowerCase report)

/-- The failure that a report of the database stands for (`GraphError::from`). -/
def ofReport (report : String) : GraphError :=
  if isPermissionDenial report.toList then permissionDenied report else query report

theorem isPermissionDenied_ofReport (report : String) :
    (ofReport report).isPermissionDenied = isPermissionDenial report.toList := by
  unfold ofReport
  split <;> simp_all [isPermissionDenied]

end GraphError
end WikiGraph
