import WikiGraph.Json.Basic
import WikiGraph.Sync.Synchronizer
/-!
# Writing reports

What a save did, as a JSON object.
-/
namespace WikiGraph.Document

def countJson (n : Nat) : Json := .number (.integer n)

def changesJson (c : RelationChanges) : Json := .object [
  ("created", countJson c.created), ("updated", countJson c.updated),
  ("replaced", countJson c.replaced), ("deleted", countJson c.deleted),
  ("unchanged", countJson c.unchanged), ("skipped", countJson c.skipped)]

def reportJson (r : SyncReport) : Json := .object [
  ("page_id", .string r.pageId.text), ("subjects_synced", countJson r.subjectsSynced),
  ("subjects_skipped", countJson r.subjectsSkipped),
  ("subjects_detached", countJson r.subjectsDetached), ("relations", changesJson r.relations)]

end WikiGraph.Document
