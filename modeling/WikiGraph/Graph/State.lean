import WikiGraph.Graph.Store
/-!
# Graph contents

The contents of a graph: page nodes and subject nodes under their identifiers, memberships of
subjects on pages, and for each subject its outgoing edges in the order of their creation. A counter
tells how many operations changed something.

`Graph.apply` is what each operation does to the contents. A write that would leave everything as
it is counts as no change.
-/
namespace WikiGraph

/-- A subject's place on a page. -/
structure Membership where
  page : PageId
  subject : SubjectId
deriving DecidableEq, Repr

namespace Membership

instance : Ord Membership where
  compare := compareLex (compareOn page) (compareOn subject)

theorem compare_def (a b : Membership) :
    compare a b = (compare a.page b.page).then (compare a.subject b.subject) := rfl

instance : Std.TransOrd Membership :=
  inferInstanceAs (Std.TransCmp (compareLex (compareOn Membership.page) (compareOn subject)))

instance : Std.LawfulEqOrd Membership where
  compare_self {a} := by simp [Std.ReflCmp.compare_self]
  eq_of_compare {a b} h := by
    rw [compare_def, Ordering.then_eq_eq] at h
    have hp := (inferInstance : Std.LawfulEqOrd PageId).eq_of_compare h.1
    have hs := (inferInstance : Std.LawfulEqOrd SubjectId).eq_of_compare h.2
    cases a; cases b; simp_all

end Membership

/-- The contents of a graph (`GraphState`). -/
structure Graph where
  pages : Std.ExtTreeMap PageId PageNode := ∅
  subjects : Std.ExtTreeMap SubjectId SubjectNode := ∅
  /-- Each membership with the mark whether the subject is the page's main one. -/
  memberships : Std.ExtTreeMap Membership Bool := ∅
  relations : Std.ExtTreeMap SubjectId (List Relation) := ∅
  /-- The number of changes so far. -/
  mutations : Nat := 0

namespace Graph

def empty : Graph := {}

/-! ## Views -/

/-- The outgoing edges of a subject (`relations_from`). -/
def relationsFrom (g : Graph) (source : SubjectId) : List Relation :=
  g.relations[source]?.getD []

/-- The number of edges (`relation_count`). -/
def relationCount (g : Graph) : Nat := (g.relations.toList.flatMap (·.2)).length

/-- The subjects of a page with their marks, in the order of their identifiers (`memberships`). -/
def membershipsOf (g : Graph) (page : PageId) : List (SubjectId × Bool) :=
  (g.memberships.toList.filter (·.1.page = page)).map fun m => (m.1.subject, m.2)

def isEmpty (g : Graph) : Bool :=
  g.pages.isEmpty && g.subjects.isEmpty && g.memberships.isEmpty && g.relationCount = 0

/-- Whether a subject is on some page (`owned`). -/
def isOwned (g : Graph) (subject : SubjectId) : Bool :=
  g.memberships.keys.any (·.subject = subject)

/-! ## Operations -/

def counted (g : Graph) : Graph := { g with mutations := g.mutations + 1 }

def upsertPage (page : PageNode) (g : Graph) : Graph :=
  if g.pages[page.id]? = some page then g
  else { g with pages := g.pages.insert page.id page }.counted

def upsertSubject (subject : SubjectNode) (g : Graph) : Graph :=
  if g.subjects[subject.id]?.any (·.same subject) then g
  else { g with subjects := g.subjects.insert subject.id subject }.counted

/-- The graph with a membership marked, which need not have been there before. -/
def markMembership (m : Membership) (main : Bool) (g : Graph) : Graph :=
  if g.memberships[m]? = some main then g
  else { g with memberships := g.memberships.insert m main }.counted

def linkSubject (page : PageId) (subject : SubjectId) (main : Bool) (g : Graph) : Graph :=
  if page ∈ g.pages ∧ subject ∈ g.subjects then g.markMembership ⟨page, subject⟩ main else g

def setMain (page : PageId) (subject : SubjectId) (main : Bool) (g : Graph) : Graph :=
  if (⟨page, subject⟩ : Membership) ∈ g.memberships then g.markMembership ⟨page, subject⟩ main
  else g

/-- Deletes a subject with its memberships and every edge at it; no empty list of edges remains
(`detach_delete_subject`). -/
def deleteSubject (subject : SubjectId) (g : Graph) : Graph :=
  { g with
    subjects := g.subjects.erase subject
    relations := (g.relations.erase subject).filterMap fun _ edges =>
      let rest := edges.filter (·.target ≠ subject)
      if rest.isEmpty then none else some rest
    memberships := g.memberships.filter fun m _ => m.subject ≠ subject }

def deleteIfOrphan (subject : SubjectId) (g : Graph) : Graph :=
  if g.isOwned subject then g else g.deleteSubject subject

/-- Ends one membership of a page. -/
def detach (page : PageId) (g : Graph) (subject : SubjectId) : Graph :=
  ({ g with memberships := g.memberships.erase ⟨page, subject⟩ }.deleteIfOrphan subject).counted

def stale (page : PageId) (keep : List SubjectId) (g : Graph) : List SubjectId :=
  (g.memberships.keys.filter fun m => m.page = page ∧ m.subject ∉ keep).map (·.subject)

def detachExcept (page : PageId) (keep : List SubjectId) (g : Graph) : Nat × Graph :=
  ((g.stale page keep).length, (g.stale page keep).foldl (detach page) g)

def createRelation (source : SubjectId) (relation : Relation) (g : Graph) : Bool × Graph :=
  if source ∈ g.subjects ∧ relation.target ∈ g.subjects then
    (true, { g with
      relations := g.relations.insert source (g.relationsFrom source ++ [relation]) }.counted)
  else (false, g)

/-- A list of edges with new properties on the first edge of a given identifier. -/
def withProperties (id : RelationId) (properties : Properties) : List Relation → List Relation
  | [] => []
  | r :: rest =>
    if r.id = id then { r with properties } :: rest else r :: withProperties id properties rest

def updateRelation (source : SubjectId) (relation : Relation) (g : Graph) : Graph :=
  match (g.relationsFrom source).find? (·.id = relation.id) with
  | some edge =>
    if edge.properties.same relation.properties then g
    else { g with
      relations := g.relations.insert source
        (withProperties relation.id relation.properties (g.relationsFrom source)) }.counted
  | none => g

def deleteRelation (source : SubjectId) (id : RelationId) (g : Graph) : Graph :=
  let edges := g.relationsFrom source
  let rest := edges.filter (·.id ≠ id)
  if rest.length = edges.length then g
  else if rest.isEmpty then { g with relations := g.relations.erase source }.counted
  else { g with relations := g.relations.insert source rest }.counted

/-- Deletes a subject if it is on no page, counting the deletions. -/
def removeOrphan (s : Nat × Graph) (subject : SubjectId) : Nat × Graph :=
  if s.2.isOwned subject then s else (s.1 + 1, s.2.deleteSubject subject)

def deletePage (page : PageId) (g : Graph) : Nat × Graph :=
  if page ∈ g.pages then
    let alone := { g with
      pages := g.pages.erase page
      memberships := g.memberships.filter fun m _ => m.page ≠ page }.counted
    (g.stale page []).foldl removeOrphan (0, alone)
  else (0, g)

/-- The answer to an operation and the graph after it. -/
def apply (g : Graph) : (op : Operation) → op.Answer × Graph
  | .upsertPage page => ((), g.upsertPage page)
  | .upsertSubject subject => ((), g.upsertSubject subject)
  | .linkSubject page subject main => ((), g.linkSubject page subject main)
  | .setMain page subject main => ((), g.setMain page subject main)
  | .detachExcept page keep => g.detachExcept page keep
  | .outgoing source => (g.relationsFrom source, g)
  | .createRelation source relation => g.createRelation source relation
  | .updateRelation source relation => ((), g.updateRelation source relation)
  | .deleteRelation source id => ((), g.deleteRelation source id)
  | .deletePage page => g.deletePage page

end Graph
end WikiGraph
