import WikiGraph.Proofs.Sync.Transaction
/-!
# The calls of a synchronisation

A save, a deletion and a reconciliation talk to their store through calls, and any call may fail.
`Store.recorded` keeps the calls made on a store with their answers; the states of the store and the
answers of a computation stay what they are. `Asks` then says which calls a computation makes: all
of a list of a certain shape when it succeeds, and the beginning of such a list, up to the first
call that fails, when it does not. `Transacted` puts the calls around them that open and close a
transaction.

Nothing is assumed of the store: it is any function that answers calls and moves from state to state.
-/
namespace WikiGraph

/-! ## Stores that keep their calls -/

/-- A call that was made, and the answer. -/
structure Event where
  call : Call
  reply : Except GraphError call.Answer

def Event.Succeeded (e : Event) : Prop := ∃ a, e.reply = .ok a

/-- The store, with the calls that are made on it listed in their order. -/
def Store.recorded {σ : Type} (store : Store σ) : Store (σ × List Event) := fun call s =>
  ((store call s.1).1, (store call s.1).2, s.2 ++ [⟨call, (store call s.1).1⟩])

theorem Store.recorded_eq {σ : Type} {store : Store σ} {call : Call} {s s' : σ}
    {reply : Except GraphError call.Answer} (h : store call s = (reply, s')) (log : List Event) :
    store.recorded call (s, log) = (reply, s', log ++ [⟨call, reply⟩]) := by
  simp only [recorded, h]

/-- What a computation with a given result has asked, when `shape a` describes the calls that lead
to the answer `a`: all of them, or those up to the first that failed. -/
inductive Asked {α : Type} (shape : α → List Call → Prop) :
    Except GraphError α → List Event → Prop
  | inFull {a : α} {events : List Event} (succeeded : ∀ e ∈ events, e.Succeeded)
      (shaped : shape a (events.map Event.call)) : Asked shape (.ok a) events
  | cutOff {a : α} (events : List Event) {call : Call} {e : GraphError} (rest : List Call)
      (succeeded : ∀ e ∈ events, e.Succeeded)
      (shaped : shape a (events.map Event.call ++ call :: rest)) :
      Asked shape (.error e) (events ++ [⟨call, .error e⟩])

/-- `kept` does what `body` does, and the calls it adds to its list are of a shape. -/
def Asks {σ α : Type} (shape : α → List Call → Prop) (body : StoreM σ α)
    (kept : StoreM (σ × List Event) α) : Prop :=
  ∀ s log, ∃ events, kept (s, log) = ((body s).1, (body s).2, log ++ events) ∧
    Asked shape (body s).1 events

theorem succeeded_append {events more : List Event} (h : ∀ e ∈ events, e.Succeeded)
    (hm : ∀ e ∈ more, e.Succeeded) : ∀ e ∈ events ++ more, e.Succeeded := fun e he =>
  (List.mem_append.mp he).elim (h e) (hm e)

theorem Asked.exists_shape {α : Type} {shape : α → List Call → Prop} {result : Except GraphError α}
    {events : List Event} (h : Asked shape result events) : ∃ a calls, shape a calls := by
  cases h with
  | inFull _ shaped => exact ⟨_, _, shaped⟩
  | cutOff _ _ _ shaped => exact ⟨_, _, shaped⟩

theorem Asked.mono {α : Type} {shape shape' : α → List Call → Prop} {result : Except GraphError α}
    {events : List Event} (h : Asked shape result events)
    (hs : ∀ a calls, shape a calls → shape' a calls) : Asked shape' result events := by
  cases h with
  | inFull succeeded shaped => exact .inFull succeeded (hs _ _ shaped)
  | cutOff events rest succeeded shaped => exact .cutOff events rest succeeded (hs _ _ shaped)

/-- Every call can be answered. -/
instance : (c : Call) → Nonempty c.Answer
  | .start | .commit | .rollback => ⟨()⟩
  | .perform (.upsertPage _) | .perform (.upsertSubject _) | .perform (.linkSubject _ _ _)
  | .perform (.setMain _ _ _) | .perform (.updateRelation _ _)
  | .perform (.deleteRelation _ _) => ⟨()⟩
  | .perform (.detachExcept _ _) | .perform (.deletePage _) => ⟨(0 : Nat)⟩
  | .perform (.outgoing _) => ⟨([] : List Relation)⟩
  | .perform (.createRelation _ _) => ⟨false⟩

namespace Asks

variable {σ α β : Type} {shape : α → List Call → Prop} {body : StoreM σ α}
  {kept : StoreM (σ × List Event) α}

theorem mono {shape' : α → List Call → Prop} (h : Asks shape body kept)
    (hs : ∀ a calls, shape a calls → shape' a calls) : Asks shape' body kept := by
  intro s log
  obtain ⟨events, hrun, hasked⟩ := h s log
  exact ⟨events, hrun, hasked.mono hs⟩

theorem pure (a : α) (h : shape a []) :
    Asks shape (Pure.pure a : StoreM σ α) (Pure.pure a) := fun s log =>
  ⟨[], by rw [List.append_nil]; rfl, .inFull (fun _ he => absurd he List.not_mem_nil) h⟩

theorem call (store : Store σ) (c : Call) :
    Asks (fun _ calls => calls = [c]) (store c) (store.recorded c) := by
  intro s log
  refine ⟨[⟨c, (store c s).1⟩], rfl, ?_⟩
  cases (store c s).1 with
  | ok a => exact .inFull (fun e he => List.mem_singleton.mp he ▸ ⟨a, rfl⟩) rfl
  | error e =>
    obtain ⟨a⟩ : Nonempty c.Answer := inferInstance
    exact .cutOff (a := a) [] [] (fun _ he => absurd he List.not_mem_nil) rfl

theorem bind {next : α → StoreM σ β} {keptNext : α → StoreM (σ × List Event) β}
    {shapeNext : α → β → List Call → Prop} (h : Asks shape body kept)
    (hn : ∀ a, Asks (shapeNext a) (next a) (keptNext a)) :
    Asks (fun b calls => ∃ a first later, calls = first ++ later ∧ shape a first ∧
        shapeNext a b later)
      (body >>= next) (kept >>= keptNext) := by
  intro s log
  obtain ⟨events, hrun, hasked⟩ := h s log
  rcases hb : body s with ⟨result, s'⟩
  rw [hb] at hrun hasked
  cases hasked with
  | @inFull a _ succeeded shaped =>
    obtain ⟨more, hrun', hasked'⟩ := hn a s' (log ++ events)
    rw [StoreM.bind_of_ok next hb, StoreM.bind_of_ok keptNext hrun, hrun', List.append_assoc]
    refine ⟨events ++ more, rfl, ?_⟩
    generalize (next a s').1 = result' at hasked' ⊢
    cases hasked' with
    | inFull succeeded' shaped' =>
      exact .inFull (succeeded_append succeeded succeeded')
        ⟨a, _, _, List.map_append, shaped, shaped'⟩
    | cutOff ran rest succeeded' shaped' =>
      rw [← List.append_assoc]
      refine .cutOff (events ++ ran) rest (succeeded_append succeeded succeeded')
        ⟨a, _, _, ?_, shaped, shaped'⟩
      rw [List.map_append, List.append_assoc]
  | @cutOff a ran _ _ rest succeeded shaped =>
    rw [StoreM.bind_of_error next hb, StoreM.bind_of_error keptNext hrun]
    -- what would have followed is of its shape in some way, whatever the store would have answered
    obtain ⟨_, -, hnext⟩ := hn a s' log
    obtain ⟨b, later, hlater⟩ := hnext.exists_shape
    refine ⟨_, rfl, .cutOff ran (rest ++ later) succeeded ⟨a, _, later, ?_, shaped, hlater⟩⟩
    rw [List.append_assoc, List.cons_append]

theorem map {f : α → β} {next : α → StoreM σ β} {keptNext : α → StoreM (σ × List Event) β}
    (h : Asks shape body kept) (hn : ∀ a, next a = Pure.pure (f a))
    (hk : ∀ a, keptNext a = Pure.pure (f a)) :
    Asks (fun b calls => ∃ a, b = f a ∧ shape a calls) (body >>= next) (kept >>= keptNext) := by
  have hp : ∀ a, Asks (fun b calls => b = f a ∧ calls = []) (next a) (keptNext a) := by
    intro a
    rw [hn a, hk a]
    exact .pure (f a) ⟨rfl, rfl⟩
  refine (h.bind hp).mono ?_
  rintro _ _ ⟨a, first, _, rfl, hf, rfl, rfl⟩
  exact ⟨a, rfl, (List.append_nil first).symm ▸ hf⟩

/-- A call and what follows it. -/
theorem call_bind (store : Store σ) (c : Call) {next : c.Answer → StoreM σ β}
    {keptNext : c.Answer → StoreM (σ × List Event) β} {shape : β → List Call → Prop}
    (hn : ∀ a, Asks shape (next a) (keptNext a)) :
    Asks (fun b calls => ∃ later, calls = c :: later ∧ shape b later)
      (store c >>= next) (store.recorded c >>= keptNext) := by
  refine ((call store c).bind hn).mono ?_
  rintro b _ ⟨_, _, later, rfl, rfl, hl⟩
  exact ⟨later, rfl, hl⟩

theorem every_pure {P : Call → Prop} (a : α) :
    Asks (fun _ calls => ∀ c ∈ calls, P c) (Pure.pure a : StoreM σ α) (Pure.pure a) :=
  pure a fun _ hc => absurd hc List.not_mem_nil

/-- Computations whose calls all have a property. -/
theorem every_bind {P : Call → Prop} {next : α → StoreM σ β}
    {keptNext : α → StoreM (σ × List Event) β}
    (h : Asks (fun _ calls => ∀ c ∈ calls, P c) body kept)
    (hn : ∀ a, Asks (fun _ calls => ∀ c ∈ calls, P c) (next a) (keptNext a)) :
    Asks (fun _ calls => ∀ c ∈ calls, P c) (body >>= next) (kept >>= keptNext) := by
  refine (h.bind hn).mono ?_
  rintro b _ ⟨_, first, later, rfl, hf, hl⟩ c hc
  exact (List.mem_append.mp hc).elim (hf c) (hl c)

end Asks

/-! ## Edges -/

/-- A call that writes an edge of `source`. -/
inductive Call.WritesEdgeOf (source : SubjectId) : Call → Prop
  | create (r : Relation) : WritesEdgeOf source (.perform (.createRelation source r))
  | update (r : Relation) : WritesEdgeOf source (.perform (.updateRelation source r))
  | delete (id : RelationId) : WritesEdgeOf source (.perform (.deleteRelation source id))

/-- The calls that reconcile one subject: its edges are asked for, then some of them are written. -/
def ReconcilesEdges (source : SubjectId) (calls : List Call) : Prop :=
  ∃ writes, calls = .perform (.outgoing source) :: writes ∧ ∀ c ∈ writes, c.WritesEdgeOf source

/-- The calls that reconcile one subject after the other. -/
inductive ReconcilesInTurn : List Subject → List Call → Prop
  | nil : ReconcilesInTurn [] []
  | cons {s : Subject} {rest : List Subject} {calls later : List Call}
      (first : ReconcilesEdges s.id calls) (others : ReconcilesInTurn rest later) :
      ReconcilesInTurn (s :: rest) (calls ++ later)

section

variable {σ : Type} (store : Store σ)

theorem asks_write {source : SubjectId} {c : Call} (h : c.WritesEdgeOf source) :
    Asks (fun _ calls => ∀ c ∈ calls, c.WritesEdgeOf source) (store c) (store.recorded c) := by
  refine (Asks.call store c).mono ?_
  rintro _ _ rfl c' hc
  exact List.mem_singleton.mp hc ▸ h

theorem asks_carryOut (source : SubjectId) (a : RelationAction) :
    Asks (fun _ calls => ∀ c ∈ calls, c.WritesEdgeOf source) (a.carryOut store source)
      (a.carryOut store.recorded source) := by
  have hcreate (r : Relation) (done skipped : RelationChanges) :
      Asks (fun _ calls => ∀ c ∈ calls, c.WritesEdgeOf source)
        (do if ← store.createRelation source r then return done else return skipped)
        (do if ← store.recorded.createRelation source r then return done else return skipped) := by
    refine (asks_write store (.create r)).every_bind fun created => ?_
    cases (created : Bool) with
    | true => exact .every_pure done
    | false => exact .every_pure skipped
  cases a with
  | create r => exact hcreate r _ _
  | update r => exact (asks_write store (.update r)).every_bind fun _ => .every_pure _
  | replace r => exact (asks_write store (.delete r.id)).every_bind fun _ => hcreate r _ _
  | delete id => exact (asks_write store (.delete id)).every_bind fun _ => .every_pure _

theorem asks_carryOutAll (source : SubjectId) (before : RelationChanges)
    (actions : List RelationAction) :
    Asks (fun _ calls => ∀ c ∈ calls, c.WritesEdgeOf source)
      (carryOutAll store source before actions)
      (carryOutAll store.recorded source before actions) := by
  induction actions generalizing before with
  | nil => exact .every_pure before
  | cons a rest ih => exact (asks_carryOut store source a).every_bind fun _ => ih _

theorem asks_reconcileRelations (source : SubjectId) (target : RelationList) :
    Asks (fun _ => ReconcilesEdges source) (reconcileRelations store source target)
      (reconcileRelations store.recorded source target) :=
  Asks.call_bind store _ fun _ => asks_carryOutAll store source _ _

theorem asks_reconcileSubjects (before : RelationChanges) (subjects : List Subject) :
    Asks (fun _ => ReconcilesInTurn subjects)
      (Projector.reconcileSubjects store before subjects)
      (Projector.reconcileSubjects store.recorded before subjects) := by
  induction subjects generalizing before with
  | nil => exact .pure before .nil
  | cons s rest ih =>
    refine ((asks_reconcileRelations store s.id s.relations).bind fun _ => ih _).mono ?_
    rintro _ _ ⟨_, _, _, rfl, hf, hl⟩
    exact .cons hf hl

end

/-! ## Pages -/

namespace Projector

variable (p : Projector)

/-- The calls for one subject of a page: its node and its membership, or its role on the page alone
when its schema is unknown. -/
def placing (page : PageId) (x : Subject × Bool) : List Call :=
  match p.schemas[x.1.schema]? with
  | some schema => [.perform (.upsertSubject (p.nodeOf schema x.1)),
      .perform (.linkSubject page x.1.id x.2)]
  | none => [.perform (.setMain page x.1.id x.2)]

/-- The calls that write a page. -/
def WritesPage (page : Page) (calls : List Call) : Prop :=
  ∃ edges, ReconcilesInTurn (p.resolved page.subjects.all) edges ∧
    calls = .perform (.upsertPage page.node) ::
      (page.subjects.all.flatMap (p.placing page.id) ++
        (edges ++ [.perform (.detachExcept page.id page.subjects.ids)]))

variable {σ : Type} (store : Store σ)

/-- A subject of an unknown schema is passed over without a call. -/
theorem asks_updateSubject (page : PageId) (s : Subject) (main : Bool) :
    Asks (fun synced calls => synced = p.resolves s ∧
        calls = if p.resolves s then p.placing page (s, main) else [])
      (p.updateSubject store page s main) (p.updateSubject store.recorded page s main) := by
  unfold updateSubject resolves placing
  cases hs : p.schemas[s.schema]? with
  | none => exact .pure false ⟨rfl, rfl⟩
  | some schema =>
    refine (Asks.call_bind store (.perform (.upsertSubject (p.nodeOf schema s))) fun _ =>
      (Asks.call store (.perform (.linkSubject page s.id main))).map (f := fun _ => true)
        (fun _ => rfl) fun _ => rfl).mono ?_
    rintro _ _ ⟨_, rfl, _, rfl, rfl⟩
    exact ⟨rfl, rfl⟩

theorem asks_updateSubjects (page : PageId) (subjects : List (Subject × Bool)) :
    Asks (fun synced calls => synced = p.resolved subjects ∧
        calls = subjects.flatMap (p.placing page))
      (p.updateSubjects store page subjects) (p.updateSubjects store.recorded page subjects) := by
  induction subjects with
  | nil => exact .pure [] ⟨rfl, rfl⟩
  | cons x rest ih =>
    obtain ⟨s, main⟩ := x
    have hn : ∀ synced : Bool, Asks
        (fun answer calls => if synced
          then answer = s :: p.resolved rest ∧ calls = rest.flatMap (p.placing page)
          else answer = p.resolved rest ∧
            calls = .perform (.setMain page s.id main) :: rest.flatMap (p.placing page))
        (if synced then do return s :: (← p.updateSubjects store page rest)
          else do
            store.setMain page s.id main
            p.updateSubjects store page rest)
        (if synced then do return s :: (← p.updateSubjects store.recorded page rest)
          else do
            store.recorded.setMain page s.id main
            p.updateSubjects store.recorded page rest) := by
      intro synced
      cases synced with
      | true =>
        refine (ih.map (f := (s :: ·)) (fun _ => rfl) fun _ => rfl).mono ?_
        rintro _ _ ⟨_, rfl, rfl, rfl⟩
        exact ⟨rfl, rfl⟩
      | false =>
        refine (Asks.call_bind store (.perform (.setMain page s.id main)) fun _ => ih).mono ?_
        rintro _ _ ⟨_, rfl, rfl, rfl⟩
        exact ⟨rfl, rfl⟩
    refine ((p.asks_updateSubject store page s main).bind hn).mono ?_
    rintro answer _ ⟨_, _, later, rfl, ⟨rfl, rfl⟩, hl⟩
    by_cases hr : p.resolves s
    · simp only [if_pos hr] at hl ⊢
      obtain ⟨rfl, rfl⟩ := hl
      exact ⟨(List.filter_cons_of_pos hr).symm, rfl⟩
    · have hn : p.schemas[s.schema]? = none := by simpa [resolves] using hr
      simp only [if_neg hr] at hl ⊢
      obtain ⟨rfl, rfl⟩ := hl
      refine ⟨(List.filter_cons_of_neg hr).symm, ?_⟩
      rw [List.flatMap_cons, placing, hn]
      rfl

theorem asks_writePage (page : Page) :
    Asks (fun _ => p.WritesPage page) (p.writePage store page)
      (p.writePage store.recorded page) := by
  refine (Asks.call_bind store (.perform (.upsertPage page.node)) fun _ =>
    (p.asks_updateSubjects store page.id page.subjects.all).bind fun synced =>
      (asks_reconcileSubjects store {} synced).bind fun relations =>
        (Asks.call store (.perform (.detachExcept page.id page.subjects.ids))).map
          (f := reportOf page synced relations) (fun _ => rfl) fun _ => rfl).mono ?_
  rintro _ _ ⟨_, rfl, _, _, _, rfl, ⟨rfl, rfl⟩, _, edges, _, rfl, hedges, _, _, rfl⟩
  exact ⟨edges, hedges, rfl⟩

end Projector

/-! ## Transactions -/

/-- A transaction that ends with a given result, when the work to be done in it is of a shape. -/
inductive Transacted {α : Type} (shape : List Call → Prop) :
    Except GraphError α → List Event → Prop
  | notStarted {e : GraphError} : Transacted shape (.error e) [⟨.start, .error e⟩]
  | committed {a : α} {work : List Event} (succeeded : ∀ e ∈ work, e.Succeeded)
      (shaped : shape (work.map Event.call)) :
      Transacted shape (.ok a) (⟨.start, .ok ()⟩ :: (work ++ [⟨.commit, .ok ()⟩]))
  | notCommitted {e : GraphError} {work : List Event} (succeeded : ∀ e ∈ work, e.Succeeded)
      (shaped : shape (work.map Event.call)) :
      Transacted shape (.error e) (⟨.start, .ok ()⟩ :: (work ++ [⟨.commit, .error e⟩]))
  /-- The failure that is reported is the one that cut off the work, whatever `reply` is. -/
  | rolledBack {e : GraphError} {work : List Event} {call : Call} {rest : List Call}
      {reply : Except GraphError Unit} (succeeded : ∀ e ∈ work, e.Succeeded)
      (shaped : shape (work.map Event.call ++ call :: rest)) :
      Transacted shape (.error e)
        (⟨.start, .ok ()⟩ :: (work ++ [⟨call, .error e⟩, ⟨.rollback, reply⟩]))

/-- On any store and in any state, `run` is a transaction whose work is of a shape. -/
def Disciplined {α : Type} (shape : List Call → Prop)
    (run : (σ : Type) → Store σ → StoreM σ α) : Prop :=
  ∀ (σ : Type) (store : Store σ) (s : σ), ∃ events,
    run (σ × List Event) store.recorded (s, []) =
      ((run σ store s).1, (run σ store s).2, events) ∧
    Transacted shape (run σ store s).1 events

/-- **A transaction of its own** is started, then committed or rolled back. -/
theorem Asks.transact {σ α : Type} {store : Store σ} {shape : List Call → Prop}
    {body : StoreM σ α} {kept : StoreM (σ × List Event) α} (h : Asks (fun _ => shape) body kept)
    (s : σ) : ∃ events,
      store.recorded.transact kept (s, []) =
        ((store.transact body s).1, (store.transact body s).2, events) ∧
      Transacted shape (store.transact body s).1 events := by
  rcases hs : store.start s with ⟨started, s₁⟩
  have hsk : store.recorded.start (s, []) = (started, s₁, [⟨.start, started⟩]) :=
    Store.recorded_eq hs []
  cases started with
  | error e =>
    rw [Store.transact_of_not_started hs]
    exact ⟨_, Store.transact_of_not_started hsk, .notStarted⟩
  | ok _ =>
    obtain ⟨work, hrun, hasked⟩ := h s₁ [⟨.start, .ok ()⟩]
    rcases hb : body s₁ with ⟨result, s₂⟩
    rw [hb] at hrun hasked
    cases hasked with
    | inFull succeeded shaped =>
      rcases hc : store.commit s₂ with ⟨committed, s₃⟩
      have hck : store.recorded.commit (s₂, ⟨.start, .ok ()⟩ :: work) =
          (committed, s₃, ⟨.start, .ok ()⟩ :: (work ++ [⟨.commit, committed⟩])) :=
        Store.recorded_eq hc _
      cases committed with
      | error e =>
        rw [Store.transact_of_not_committed hs hb hc]
        exact ⟨_, Store.transact_of_not_committed hsk hrun hck, .notCommitted succeeded shaped⟩
      | ok _ =>
        rw [Store.transact_of_committed hs hb hc]
        exact ⟨_, Store.transact_of_committed hsk hrun hck, .committed succeeded shaped⟩
    | @cutOff a work call e rest succeeded shaped =>
      rcases hr : store.rollback s₂ with ⟨reply, s₃⟩
      have hrk : store.recorded.rollback (s₂, ⟨.start, .ok ()⟩ :: (work ++ [⟨call, .error e⟩])) =
          (reply, s₃, ⟨.start, .ok ()⟩ :: (work ++ [⟨call, .error e⟩, ⟨.rollback, reply⟩])) :=
        (Store.recorded_eq hr _).trans (by rw [List.cons_append, List.append_assoc]; rfl)
      rw [Store.transact_of_failed hs hb hr]
      exact ⟨_, Store.transact_of_failed hsk hrun hrk, .rolledBack succeeded shaped⟩

theorem Disciplined.transact {α : Type} {shape : List Call → Prop}
    {body : (σ : Type) → Store σ → StoreM σ α}
    (h : ∀ (σ : Type) (store : Store σ),
      Asks (fun _ => shape) (body σ store) (body (σ × List Event) store.recorded)) :
    Disciplined shape fun σ store => store.transact (body σ store) :=
  fun σ store s => (h σ store).transact s

/-- **Saves, deletions and reconciliations are transactions** on every store, whatever it answers:
started first, then the work up to the first failure, and then one commit if nothing failed and one
rollback otherwise. In the store in memory a failure leaves what is committed as it was. -/
theorem synchronisation_transacted (p : Projector) :
    (∀ page, Disciplined (p.WritesPage page) fun _ store => p.savePage store page) ∧
    (∀ page, Disciplined (· = [.perform (.deletePage page)]) fun _ store =>
      deletePage store page) ∧
    (∀ source target, Disciplined (ReconcilesEdges source) fun _ store =>
      reconcile store source target) ∧
    ∀ m : Memory,
      (∀ page, (∃ report, (p.savePage Memory.store page m).1 = .ok report) ∨
        ∃ e, p.savePage Memory.store page m = (.error e, m.finished m.committed)) ∧
      (∀ page, (∃ removed, (deletePage Memory.store page m).1 = .ok removed) ∨
        ∃ e, deletePage Memory.store page m = (.error e, m.finished m.committed)) ∧
      ∀ source target, (∃ changes, (reconcile Memory.store source target m).1 = .ok changes) ∨
        ∃ e, reconcile Memory.store source target m = (.error e, m.finished m.committed) := by
  refine ⟨fun page => .transact fun _ store => p.asks_writePage store page,
    fun page => .transact fun _ store => .call store _,
    fun source target => .transact fun _ store => asks_reconcileRelations store source target,
    fun m => ⟨fun page => ?_, fun page => ?_, fun source target => ?_⟩⟩
  · rcases p.savePage_eq page m with h | ⟨-, e, h⟩
    · exact .inl ⟨_, congrArg Prod.fst h⟩
    · exact .inr ⟨e, h⟩
  · exact .inl ⟨_, congrArg Prod.fst (deletePage_eq page m)⟩
  · rcases reconcile_eq source target m with h | ⟨-, e, h⟩
    · exact .inl ⟨_, congrArg Prod.fst h⟩
    · exact .inr ⟨e, h⟩

end WikiGraph
