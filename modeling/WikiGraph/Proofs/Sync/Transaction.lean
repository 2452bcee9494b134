import WikiGraph.Graph.Memory
import WikiGraph.Proofs.Graph.Computation
import WikiGraph.Sync.Synchronizer
/-!
# Transactions of the store in memory

Inside an open transaction a computation works on a copy of the graph. `Follows` says that it does to
the copy what a function on graphs does, unless a write of an edge was made to fail. The rules for it
take every computation of the synchroniser apart, so that a save is a function on graphs
(`Projector.writeOn`), and so are a deletion and a reconciliation.

A transaction of its own then commits what that function makes of the committed graph, or leaves the
committed graph as it is (`Follows.transact`).
-/
namespace WikiGraph

/-! ## Work on the copy -/

/-- The store with a transaction open that holds `g`. -/
def Memory.holding (m : Memory) (g : Graph) (fails : Bool) : Memory :=
  { m with transaction := some ⟨some g, fails⟩ }

/-- The store with `g` committed and its transaction finished. -/
def Memory.finished (m : Memory) (g : Graph) : Memory :=
  { m with committed := g, transaction := some ⟨none, m.failsRelationWrites⟩ }

theorem Memory.start_eq (m : Memory) :
    Memory.store.start m = (.ok (), m.holding m.committed m.failsRelationWrites) := rfl

/-- In an open transaction `body` answers and does to the working copy what `run` does. It may fail
instead when relation writes are made to fail. -/
def Follows {α : Type} (body : StoreM Memory α) (run : Graph → α × Graph) : Prop :=
  ∀ (m : Memory) (g : Graph) (fails : Bool),
    body (m.holding g fails) = (.ok (run g).1, m.holding (run g).2 fails) ∨
      fails = true ∧ ∃ e g', body (m.holding g fails) = (.error e, m.holding g' fails)

namespace Follows

variable {α β : Type} {body : StoreM Memory α} {run : Graph → α × Graph}

theorem pure (a : α) : Follows (Pure.pure a) fun g => (a, g) := fun _ _ _ => .inl rfl

theorem bind {next : α → StoreM Memory β} {runNext : α → Graph → β × Graph}
    (h : Follows body run) (hn : ∀ a, Follows (next a) (runNext a)) :
    Follows (body >>= next) fun g => runNext (run g).1 (run g).2 := by
  intro m g fails
  rcases h m g fails with hb | ⟨hf, e, g', hb⟩
  · rw [StoreM.bind_of_ok next hb]
    exact hn _ m _ fails
  · exact .inr ⟨hf, e, g', StoreM.bind_of_error next hb⟩

theorem map {next : α → StoreM Memory β} (h : Follows body run) (f : α → β)
    (hn : ∀ a, next a = Pure.pure (f a)) :
    Follows (body >>= next) fun g => (f (run g).1, (run g).2) := by
  have hp : ∀ a, Follows (next a) fun g => (f a, g) := fun a => (hn a).symm ▸ Follows.pure (f a)
  exact h.bind hp

theorem congr {run' : Graph → α × Graph} (h : Follows body run) (e : ∀ g, run g = run' g) :
    Follows body run' := by
  rwa [show run' = run from funext fun g => (e g).symm]

theorem perform (op : Operation) : Follows (Memory.store (.perform op)) fun g => g.apply op := by
  intro m g fails
  have he : Memory.store (.perform op) (m.holding g fails) =
      if fails = true ∧ op.writesRelation = true then
        (.error Memory.injectedFailure, m.holding g fails)
      else (.ok (g.apply op).1, m.holding (g.apply op).2 fails) := rfl
  rw [he]
  by_cases hf : fails = true ∧ op.writesRelation = true
  · rw [if_pos hf]
    exact .inr ⟨hf.1, _, g, rfl⟩
  · rw [if_neg hf]
    exact .inl rfl

/-- When no relation write is made to fail, `body` does not fail. -/
theorem of_not_failing (h : Follows body run) (m : Memory) (g : Graph) :
    body (m.holding g false) = (.ok (run g).1, m.holding (run g).2 false) :=
  (h m g false).resolve_right fun hf => Bool.false_ne_true hf.1

/-- **A transaction of its own** commits what the function makes of the committed graph, or rolls
back. -/
theorem transact (h : Follows body run) (m : Memory) :
    Memory.store.transact body m =
        (.ok (run m.committed).1, m.finished (run m.committed).2) ∨
      m.failsRelationWrites = true ∧
        ∃ e, Memory.store.transact body m = (.error e, m.finished m.committed) := by
  rcases h m m.committed m.failsRelationWrites with hb | ⟨hf, e, g', hb⟩
  · exact .inl (Store.transact_of_committed (Memory.start_eq m) hb rfl)
  · exact .inr ⟨hf, e, Store.transact_of_failed (Memory.start_eq m) hb rfl⟩

end Follows

/-! ## Edges -/

/-- What a step does to a graph, and what of it is counted. -/
def RelationAction.act (source : SubjectId) (g : Graph) : RelationAction → RelationChanges × Graph
  | .create r =>
    (if (g.createRelation source r).1 then { created := 1 } else { skipped := 1 },
      (g.createRelation source r).2)
  | .update r => ({ updated := 1 }, g.updateRelation source r)
  | .replace r =>
    let rest := g.deleteRelation source r.id
    (if (rest.createRelation source r).1 then { replaced := 1 } else { deleted := 1, skipped := 1 },
      (rest.createRelation source r).2)
  | .delete id => ({ deleted := 1 }, g.deleteRelation source id)

def RelationAction.actAfter (source : SubjectId) (s : RelationChanges × Graph)
    (a : RelationAction) : RelationChanges × Graph :=
  (s.1 + (a.act source s.2).1, (a.act source s.2).2)

/-- The graph with the edges of `source` in line with its declared relations. -/
def Graph.reconcile (source : SubjectId) (target : RelationList) (g : Graph) :
    RelationChanges × Graph :=
  (RelationPlan.between (g.relationsFrom source) target).actions.foldl
    (RelationAction.actAfter source)
    ({ unchanged := (RelationPlan.between (g.relationsFrom source) target).unchanged }, g)

/-- One more subject reconciled, added to what was done before. -/
def Subject.reconcileAfter (s : RelationChanges × Graph) (subject : Subject) :
    RelationChanges × Graph :=
  (s.1 + (s.2.reconcile subject.id subject.relations).1,
    (s.2.reconcile subject.id subject.relations).2)

theorem follows_createRelation (source : SubjectId) (r : Relation) (done skipped : RelationChanges) :
    Follows (do
        if ← Memory.store.createRelation source r then return done else return skipped)
      fun g => (if (g.createRelation source r).1 then done else skipped,
        (g.createRelation source r).2) := by
  have h : Follows (Memory.store.createRelation source r) (Graph.createRelation source r) :=
    .perform (.createRelation source r)
  refine h.map (if · then done else skipped) fun created => ?_
  cases created <;> rfl

theorem follows_carryOut (source : SubjectId) (a : RelationAction) :
    Follows (a.carryOut Memory.store source) fun g => a.act source g := by
  cases a with
  | create r => exact follows_createRelation source r _ _
  | update r => exact (Follows.perform (.updateRelation source r)).map (fun _ => _) fun _ => rfl
  | replace r =>
    exact (Follows.perform (.deleteRelation source r.id)).bind fun _ =>
      follows_createRelation source r { replaced := 1 } { deleted := 1, skipped := 1 }
  | delete id => exact (Follows.perform (.deleteRelation source id)).map (fun _ => _) fun _ => rfl

theorem follows_carryOutAll (source : SubjectId) (before : RelationChanges)
    (actions : List RelationAction) :
    Follows (carryOutAll Memory.store source before actions) fun g =>
      actions.foldl (RelationAction.actAfter source) (before, g) := by
  induction actions generalizing before with
  | nil => exact .pure before
  | cons a rest ih => exact (follows_carryOut source a).bind fun changes => ih (before + changes)

theorem follows_reconcileRelations (source : SubjectId) (target : RelationList) :
    Follows (reconcileRelations Memory.store source target) (Graph.reconcile source target) :=
  (Follows.perform (.outgoing source)).bind fun _ => follows_carryOutAll source _ _

theorem follows_reconcileSubjects (before : RelationChanges) (subjects : List Subject) :
    Follows (Projector.reconcileSubjects Memory.store before subjects) fun g =>
      subjects.foldl Subject.reconcileAfter (before, g) := by
  induction subjects generalizing before with
  | nil => exact .pure before
  | cons s rest ih =>
    exact (follows_reconcileRelations s.id s.relations).bind fun changes => ih (before + changes)

/-! ## Pages -/

namespace Projector

variable (p : Projector)

def resolves (s : Subject) : Bool := p.schemas[s.schema]?.isSome

def resolved (subjects : List (Subject × Bool)) : List Subject :=
  (subjects.map (·.1)).filter p.resolves

/-- The graph with one subject's node and membership written, or with its role alone when its schema
is unknown. -/
def place (page : PageId) (g : Graph) (x : Subject × Bool) : Graph :=
  match p.schemas[x.1.schema]? with
  | some schema => (g.upsertSubject (p.nodeOf schema x.1)).linkSubject page x.1.id x.2
  | none => g.setMain page x.1.id x.2

/-- The graph after the nodes, the memberships and the edges of a page are written, with what was
done to edges. -/
def spread (page : Page) (g : Graph) : RelationChanges × Graph :=
  (p.resolved page.subjects.all).foldl Subject.reconcileAfter
    ({}, page.subjects.all.foldl (p.place page.id) (g.upsertPage page.node))

/-- The report on a page of which the subjects `synced` were written. -/
def reportOf (page : Page) (synced : List Subject) (relations : RelationChanges)
    (detached : Nat) : SyncReport where
  pageId := page.id
  subjectsSynced := synced.length
  subjectsSkipped := page.subjects.all.length - synced.length
  subjectsDetached := detached
  relations := relations

/-- The graph with a page written. -/
def writeOn (page : Page) (g : Graph) : SyncReport × Graph :=
  (reportOf page (p.resolved page.subjects.all) (p.spread page g).1
      ((p.spread page g).2.detachExcept page.id page.subjects.ids).1,
    ((p.spread page g).2.detachExcept page.id page.subjects.ids).2)

theorem follows_updateSubject (page : PageId) (s : Subject) (main : Bool) :
    Follows (p.updateSubject Memory.store page s main) fun g =>
      match p.schemas[s.schema]? with
      | some schema => (true, (g.upsertSubject (p.nodeOf schema s)).linkSubject page s.id main)
      | none => (false, g) := by
  unfold updateSubject
  cases p.schemas[s.schema]? with
  | none => exact .pure false
  | some schema =>
    exact (Follows.perform (.upsertSubject (p.nodeOf schema s))).bind fun _ =>
      (Follows.perform (.linkSubject page s.id main)).map (fun _ => true) fun _ => rfl

theorem follows_updateSubjects (page : PageId) (subjects : List (Subject × Bool)) :
    Follows (p.updateSubjects Memory.store page subjects) fun g =>
      (p.resolved subjects, subjects.foldl (p.place page) g) := by
  induction subjects with
  | nil => exact .pure []
  | cons x rest ih =>
    obtain ⟨s, main⟩ := x
    have hn : ∀ synced : Bool, Follows
        (if synced then do return s :: (← p.updateSubjects Memory.store page rest)
          else do
            Memory.store.setMain page s.id main
            p.updateSubjects Memory.store page rest : StoreM Memory (List Subject))
        fun g => if synced then (s :: p.resolved rest, rest.foldl (p.place page) g)
          else (p.resolved rest, rest.foldl (p.place page) (g.setMain page s.id main)) := by
      intro synced
      cases synced with
      | true => exact ih.map (s :: ·) fun _ => rfl
      | false => exact (Follows.perform (.setMain page s.id main)).bind fun _ => ih
    refine ((p.follows_updateSubject page s main).bind hn).congr fun g => ?_
    cases hs : p.schemas[s.schema]? <;> simp [resolved, resolves, place, hs]

theorem follows_writePage (page : Page) :
    Follows (p.writePage Memory.store page) (p.writeOn page) :=
  (Follows.perform (.upsertPage page.node)).bind fun _ =>
    (p.follows_updateSubjects page.id page.subjects.all).bind fun synced =>
      (follows_reconcileSubjects {} synced).bind fun relations =>
        (Follows.perform (.detachExcept page.id page.subjects.ids)).map
          (reportOf page synced relations) fun _ => rfl

/-- **A save is a function on graphs**, or changes nothing that is committed. -/
theorem savePage_eq (page : Page) (m : Memory) :
    p.savePage Memory.store page m =
        (.ok (p.writeOn page m.committed).1, m.finished (p.writeOn page m.committed).2) ∨
      m.failsRelationWrites = true ∧
        ∃ e, p.savePage Memory.store page m = (.error e, m.finished m.committed) :=
  (p.follows_writePage page).transact m

/-- A save that succeeds reports and commits the page written. -/
theorem writeOn_of_savePage {page : Page} {m m' : Memory} {report : SyncReport}
    (hs : p.savePage Memory.store page m = (.ok report, m')) :
    report = (p.writeOn page m.committed).1 ∧ m' = m.finished (p.writeOn page m.committed).2 := by
  rcases p.savePage_eq page m with hw | ⟨-, e, hw⟩
  · rw [hw] at hs
    obtain ⟨hreport, hm⟩ := Prod.mk.inj hs
    exact ⟨(Except.ok.inj hreport).symm, hm.symm⟩
  · rw [hw] at hs
    cases (Prod.mk.inj hs).1

theorem committed_of_savePage {page : Page} {m m' : Memory} {report : SyncReport}
    (hs : p.savePage Memory.store page m = (.ok report, m')) :
    m' = m.finished (p.writeOn page m.committed).2 := (p.writeOn_of_savePage hs).2

/-- A save succeeds unless relation writes are made to fail. -/
theorem savePage_of_not_failing {m : Memory} (hf : m.failsRelationWrites = false) (page : Page) :
    p.savePage Memory.store page m =
      (.ok (p.writeOn page m.committed).1, m.finished (p.writeOn page m.committed).2) := by
  refine (p.savePage_eq page m).resolve_right fun he => ?_
  rw [hf] at he
  cases he.1

def writeAll (pages : List Page) (g : Graph) : Graph :=
  pages.foldl (fun g page => (p.writeOn page g).2) g

/-- Saves that succeed commit the pages written one after the other. -/
theorem committed_of_saves {pages : List Page} {m m' : Memory} {reports : List SyncReport}
    (hs : pages.mapM (p.savePage Memory.store) m = (.ok reports, m')) :
    m'.committed = p.writeAll pages m.committed := by
  induction pages generalizing m reports with
  | nil =>
    cases hs
    rfl
  | cons page rest ih =>
    rw [List.mapM_cons] at hs
    rcases p.savePage_eq page m with hw | ⟨-, e, hw⟩
    · rw [StoreM.bind_of_ok _ hw] at hs
      cases hr : rest.mapM (p.savePage Memory.store) (m.finished (p.writeOn page m.committed).2) with
      | mk result last =>
        cases result with
        | ok reports' =>
          rw [StoreM.bind_of_ok _ hr] at hs
          obtain rfl : last = m' := (Prod.mk.inj hs).2
          exact ih hr
        | error e =>
          rw [StoreM.bind_of_error _ hr] at hs
          cases (Prod.mk.inj hs).1
    · rw [StoreM.bind_of_error _ hw] at hs
      cases (Prod.mk.inj hs).1

/-- Saves succeed one after the other unless relation writes are made to fail. -/
theorem saves_of_not_failing {m : Memory} (hf : m.failsRelationWrites = false)
    (pages : List Page) : ∃ reports m', pages.mapM (p.savePage Memory.store) m = (.ok reports, m') ∧
      m'.committed = p.writeAll pages m.committed ∧ m'.failsRelationWrites = false := by
  induction pages generalizing m with
  | nil => exact ⟨[], m, rfl, rfl, hf⟩
  | cons page rest ih =>
    obtain ⟨reports, m', hrest, hm, hf'⟩ := ih (m := m.finished (p.writeOn page m.committed).2) hf
    refine ⟨(p.writeOn page m.committed).1 :: reports, m', ?_, hm, hf'⟩
    rw [List.mapM_cons, StoreM.bind_of_ok _ (p.savePage_of_not_failing hf page),
      StoreM.bind_of_ok _ hrest]
    rfl

end Projector

/-- **A deletion is a function on graphs**, and no setting makes it fail. -/
theorem deletePage_eq (page : PageId) (m : Memory) :
    deletePage Memory.store page m =
      (.ok (m.committed.deletePage page).1, m.finished (m.committed.deletePage page).2) := by
  have hd : Memory.store.deletePage page (m.holding m.committed m.failsRelationWrites) =
      (.ok (m.committed.deletePage page).1,
        m.holding (m.committed.deletePage page).2 m.failsRelationWrites) := by
    have hw : ¬(m.failsRelationWrites = true ∧ (Operation.deletePage page).writesRelation = true) :=
      fun h => Bool.false_ne_true h.2
    exact if_neg hw
  exact Store.transact_of_committed (Memory.start_eq m) hd rfl

/-- **A reconciliation is a function on graphs**, or changes nothing that is committed. -/
theorem reconcile_eq (source : SubjectId) (target : RelationList) (m : Memory) :
    reconcile Memory.store source target m =
        (.ok (m.committed.reconcile source target).1,
          m.finished (m.committed.reconcile source target).2) ∨
      m.failsRelationWrites = true ∧
        ∃ e, reconcile Memory.store source target m = (.error e, m.finished m.committed) :=
  (follows_reconcileRelations source target).transact m

theorem reconcile_of_not_failing {m : Memory} (hf : m.failsRelationWrites = false)
    (source : SubjectId) (target : RelationList) :
    reconcile Memory.store source target m = (.ok (m.committed.reconcile source target).1,
      m.finished (m.committed.reconcile source target).2) :=
  (reconcile_eq source target m).resolve_right fun h => Bool.false_ne_true (hf.symm.trans h.1)

/-- A reconciliation that succeeds commits the graph with the edges in line. -/
theorem committed_of_reconcile {source : SubjectId} {target : RelationList} {m m' : Memory}
    {changes : RelationChanges}
    (hs : reconcile Memory.store source target m = (.ok changes, m')) :
    m'.committed = (m.committed.reconcile source target).2 := by
  rcases reconcile_eq source target m with hr | ⟨-, e, hr⟩
  · rw [hr] at hs
    obtain ⟨-, rfl⟩ := Prod.mk.inj hs
    rfl
  · rw [hr] at hs
    cases (Prod.mk.inj hs).1

end WikiGraph
