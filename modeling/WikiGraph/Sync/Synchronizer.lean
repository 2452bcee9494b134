import WikiGraph.Calendar.Timestamp
import WikiGraph.Sync.Projection
import WikiGraph.Sync.Reconciliation
/-!
# Synchronising pages

Saving a page makes the graph show it: first the page node, then the nodes and memberships of its
subjects, then the edges between subjects, and at last the memberships of subjects that have left
the page end. Nodes come before edges, so that edges between subjects of one page find both ends
whatever the order of declaration. Each save, deletion and reconciliation is one transaction.
-/
namespace WikiGraph

/-- What a save did (`SyncReport`). -/
structure SyncReport where
  pageId : PageId
  subjectsSynced : Nat
  /-- Subjects whose schema is unknown. -/
  subjectsSkipped : Nat
  /-- Memberships that ended because the subject left the page. -/
  subjectsDetached : Nat
  relations : RelationChanges
deriving DecidableEq, Repr

/-- The node of a page (`page_node`). -/
def Page.node (p : Page) : PageNode where
  id := p.id
  title := p.properties.title
  createdAt := Calendar.storedTime p.properties.creationTime
  updatedAt := Calendar.storedTime p.properties.modificationTime
  lastEditor := p.properties.lastEditor

variable {σ : Type}

namespace Projector

variable (p : Projector) (store : Store σ)

/-- Writes the nodes and memberships of subjects and answers those that were written. A subject of
an unknown schema keeps its node, but its role on the page follows the page. -/
def updateSubjects (page : PageId) : List (Subject × Bool) → StoreM σ (List Subject)
  | [] => return []
  | (s, main) :: rest => do
    if ← p.updateSubject store page s main then
      return s :: (← updateSubjects page rest)
    else
      store.setMain page s.id main
      updateSubjects page rest

/-- Reconciles the edges of each subject in turn. -/
def reconcileSubjects (store : Store σ) (before : RelationChanges) :
    List Subject → StoreM σ RelationChanges
  | [] => return before
  | s :: rest => do
    let changes ← reconcileRelations store s.id s.relations
    reconcileSubjects store (before + changes) rest

/-- Writes a page in the current transaction (`write_page`). -/
def writePage (page : Page) : StoreM σ SyncReport := do
  store.upsertPage page.node
  let all := page.subjects.all
  let synced ← p.updateSubjects store page.id all
  let relations ← reconcileSubjects store {} synced
  let detached ← store.detachExcept page.id page.subjects.ids
  return {
    pageId := page.id
    subjectsSynced := synced.length
    subjectsSkipped := all.length - synced.length
    subjectsDetached := detached
    relations }

/-- Makes the graph show a page that was created, edited or restored
(`GraphSynchronizer::save_page`, which `on_page_saved` and `on_page_undeleted` call). -/
def savePage (page : Page) : StoreM σ SyncReport := store.transact (p.writePage store page)

end Projector

/-- Removes a page and every subject that only it had; answers the number of those
(`GraphSynchronizer::delete_page`). -/
def deletePage (store : Store σ) (page : PageId) : StoreM σ Nat :=
  store.transact (store.deletePage page)

/-- Reconciles the edges of one subject in a transaction of its own
(`GraphSynchronizer::reconcile`). -/
def reconcile (store : Store σ) (source : SubjectId) (target : RelationList) :
    StoreM σ RelationChanges :=
  store.transact (reconcileRelations store source target)

end WikiGraph
