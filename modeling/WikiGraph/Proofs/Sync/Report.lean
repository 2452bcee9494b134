import Mathlib.Algebra.GroupWithZero.Nat
import WikiGraph.Proofs.Sync.Plan
/-!
# What a report counts, whatever the store answers

A report is summed up over two nested loops, of subjects and of the steps of their plans, while the store
may answer every call as it likes. What the parts of a computation yield is followed through it by one
rule for each way of composing (`Yields`): every declared relation is counted once, as created, updated,
replaced, unchanged or skipped, and a step that deletes an undeclared edge counts for none of them.
-/
namespace WikiGraph

def Store.Fails {σ : Type} (store : Store σ) : Prop :=
  ∃ (c : Call) (s : σ) (e : GraphError) (s' : σ), store c s = (.error e, s')

/-- From every state, a computation answers what `P` allows, whatever the store answers to it; or it
fails, as the store does. -/
def Yields {σ α : Type} (store : Store σ) (body : StoreM σ α) (P : α → Prop) : Prop :=
  ∀ s, (∃ a s', body s = (.ok a, s') ∧ P a) ∨ store.Fails ∧ ∃ e s', body s = (.error e, s')

namespace Yields

variable {σ α β : Type} {store : Store σ} {body : StoreM σ α} {P : α → Prop} {Q : β → Prop}

theorem pure {a : α} (h : P a) : Yields store (Pure.pure a) P := fun s => .inl ⟨a, s, rfl, h⟩

/-- The store may answer anything. -/
theorem call (store : Store σ) (c : Call) : Yields store (store c) fun _ => True := by
  intro s
  cases h : store c s with
  | mk reply s' =>
    cases reply with
    | ok a => exact .inl ⟨a, s', rfl, trivial⟩
    | error e => exact .inr ⟨⟨c, s, e, s', h⟩, e, s', rfl⟩

theorem bind {next : α → StoreM σ β} (h : Yields store body P)
    (hn : ∀ a, P a → Yields store (next a) Q) : Yields store (body >>= next) Q := by
  intro s
  rcases h s with ⟨a, s', hb, ha⟩ | ⟨hf, e, s', hb⟩
  · rw [StoreM.bind_of_ok next hb]
    exact hn a ha s'
  · exact .inr ⟨hf, e, s', StoreM.bind_of_error next hb⟩

theorem mono {P' : α → Prop} (h : Yields store body P) (hp : ∀ a, P a → P' a) :
    Yields store body P' := fun s =>
  (h s).imp_left fun ⟨a, s', hb, ha⟩ => ⟨a, s', hb, hp a ha⟩

/-- What follows a call does not depend on the answer. -/
theorem call_bind {c : Call} {next : c.Answer → StoreM σ β} (hn : ∀ a, Yields store (next a) Q) :
    Yields store (store c >>= next) Q := (Yields.call store c).bind fun a _ => hn a

/-- A transaction of its own answers what the work in it answers. -/
theorem transact (h : Yields store body P) : Yields store (store.transact body) P := by
  intro s
  cases hs : store.start s with
  | mk started s₁ =>
    cases started with
    | error e =>
      exact .inr ⟨⟨.start, s, e, s₁, hs⟩, e, s₁, Store.transact_of_not_started hs⟩
    | ok u =>
      rcases h s₁ with ⟨a, s₂, hb, ha⟩ | ⟨hf, e, s₂, hb⟩
      · cases hc : store.commit s₂ with
        | mk committed s₃ =>
          cases committed with
          | error e =>
            exact .inr ⟨⟨.commit, s₂, e, s₃, hc⟩, e, s₃, Store.transact_of_not_committed hs hb hc⟩
          | ok v => exact .inl ⟨a, s₃, Store.transact_of_committed hs hb hc, ha⟩
      · cases hr : store.rollback s₂ with
        | mk reply s₃ => exact .inr ⟨hf, e, s₃, Store.transact_of_failed hs hb hr⟩

/-- What is answered with success is what was allowed. -/
theorem of_ok (h : Yields store body P) {a : α} {s s' : σ} (hb : body s = (.ok a, s')) : P a := by
  rcases h s with ⟨b, _, hb', hp⟩ | ⟨-, e, _, hb'⟩
  · rw [hb] at hb'
    obtain rfl := Except.ok.inj (Prod.mk.inj hb').1
    exact hp
  · rw [hb] at hb'
    cases (Prod.mk.inj hb').1

/-- Only a failing store makes a computation fail. -/
theorem exists_ok (h : Yields store body P) (hf : ¬store.Fails) (s : σ) :
    ∃ a s', body s = (.ok a, s') := by
  rcases h s with ⟨a, s', hb, -⟩ | ⟨hfails, -⟩
  · exact ⟨a, s', hb⟩
  · exact absurd hfails hf

end Yields

/-! ## Declared relations -/

/-- The number of declared relations that were dealt with. -/
def RelationChanges.declared (c : RelationChanges) : Nat :=
  c.created + c.updated + c.replaced + c.unchanged + c.skipped

theorem RelationChanges.declared_add (a b : RelationChanges) :
    (a + b).declared = a.declared + b.declared := by
  simp only [declared, created_add, updated_add, replaced_add, unchanged_add, skipped_add]
  omega

variable {σ : Type} {store : Store σ}

/-- A step deals with the relation that it declares, if it declares one. -/
theorem yields_carryOut (source : SubjectId) (a : RelationAction) :
    Yields store (a.carryOut store source) fun c => c.declared = a.relation?.toList.length := by
  have hcreate : ∀ (r : Relation) (done skipped : RelationChanges), done.declared = 1 →
      skipped.declared = 1 → Yields store (do
        if ← store.createRelation source r then return done else return skipped)
        fun c => c.declared = 1 := by
    intro r done skipped hdone hskipped
    refine Yields.call_bind fun created => ?_
    cases created with
    | true => exact .pure hdone
    | false => exact .pure hskipped
  cases a with
  | create r => exact hcreate r { created := 1 } { skipped := 1 } rfl rfl
  | update r => exact Yields.call_bind fun _ => .pure rfl
  | replace r =>
    exact Yields.call_bind fun _ =>
      hcreate r { replaced := 1 } { deleted := 1, skipped := 1 } rfl rfl
  | delete id => exact Yields.call_bind fun _ => .pure rfl

theorem yields_carryOutAll (source : SubjectId) (before : RelationChanges)
    (actions : List RelationAction) :
    Yields store (carryOutAll store source before actions) fun c =>
      c.declared = before.declared + (actions.filterMap RelationAction.relation?).length := by
  induction actions generalizing before with
  | nil => exact .pure rfl
  | cons a rest ih =>
    refine (yields_carryOut source a).bind fun changes hchanges => (ih _).mono fun c hc => ?_
    rw [hc, RelationChanges.declared_add, hchanges]
    cases ha : a.relation? with
    | none => simp [ha]
    | some r =>
      rw [List.filterMap_cons_some ha, List.length_cons, Option.toList_some, List.length_singleton]
      omega

/-- The steps of a plan declare the relations that need a step. -/
theorem RelationPlan.filterMap_relation?_actions (existing : List Relation) (target : RelationList) :
    (between existing target).actions.filterMap RelationAction.relation? =
      target.toList.filter fun r => (actionFor existing r).isSome := by
  have hdeleted : ((undeclared existing target).map RelationAction.delete).filterMap
      RelationAction.relation? = [] := by
    simp [List.filterMap_map, Function.comp_def, RelationAction.relation?]
  have hsteps : (target.toList.filterMap (actionFor existing)).filterMap RelationAction.relation? =
      ((target.toList.filterMap (actionFor existing)).map RelationAction.relation?).filterMap id := by
    rw [List.filterMap_map]
    rfl
  rw [between, List.filterMap_append, hdeleted, hsteps, map_relation?_filterMap, List.nil_append]
  simp [List.filterMap_map]

/-- A relation that needs no step is counted as unchanged, and any other by its step. -/
theorem RelationPlan.unchanged_add_length (existing : List Relation) (target : RelationList) :
    (between existing target).unchanged +
      ((between existing target).actions.filterMap RelationAction.relation?).length =
        target.size := by
  have hsplit := List.length_eq_countP_add_countP (l := target.toList)
    fun r => (actionFor existing r).isNone
  have hsome : (fun r => decide ¬(actionFor existing r).isNone) =
      fun r => (actionFor existing r).isSome := by
    funext r
    cases actionFor existing r <;> rfl
  rw [hsome] at hsplit
  rw [filterMap_relation?_actions, ← List.countP_eq_length_filter]
  exact hsplit.symm

/-- Every declared relation is counted once, whatever edges the store shows. -/
theorem yields_reconcileRelations (source : SubjectId) (target : RelationList) :
    Yields store (reconcileRelations store source target) fun c => c.declared = target.size := by
  refine Yields.call_bind fun existing => (yields_carryOutAll source _ _).mono fun c hc => ?_
  have hstart : ({ unchanged := (RelationPlan.between existing target).unchanged } :
      RelationChanges).declared = (RelationPlan.between existing target).unchanged := by
    simp [RelationChanges.declared]
  rw [hc, hstart]
  exact RelationPlan.unchanged_add_length existing target

theorem yields_reconcileSubjects (before : RelationChanges) (subjects : List Subject) :
    Yields store (Projector.reconcileSubjects store before subjects) fun c =>
      c.declared = before.declared + (subjects.map (·.relations.size)).sum := by
  induction subjects generalizing before with
  | nil => exact .pure rfl
  | cons s rest ih =>
    refine (yields_reconcileRelations s.id s.relations).bind fun changes hchanges =>
      (ih _).mono fun c hc => ?_
    rw [hc, RelationChanges.declared_add, hchanges, List.map_cons, List.sum_cons, Nat.add_assoc]

/-! ## Subjects -/

namespace Projector

variable (p : Projector)

theorem yields_updateSubject (page : PageId) (s : Subject) (main : Bool) :
    Yields store (p.updateSubject store page s main) fun synced => synced = p.resolves s := by
  unfold updateSubject resolves
  cases p.schemas[s.schema]? with
  | none => exact .pure rfl
  | some schema => exact Yields.call_bind fun _ => Yields.call_bind fun _ => .pure rfl

/-- The subjects of known schemas are written, and no other one. -/
theorem yields_updateSubjects (page : PageId) (subjects : List (Subject × Bool)) :
    Yields store (p.updateSubjects store page subjects) fun synced =>
      synced = p.resolved subjects := by
  induction subjects with
  | nil => exact .pure rfl
  | cons x rest ih =>
    obtain ⟨s, main⟩ := x
    refine (p.yields_updateSubject page s main).bind fun synced hsynced => ?_
    subst hsynced
    cases hs : p.resolves s with
    | true =>
      refine ih.bind fun synced hrest => .pure ?_
      simp [hrest, resolved, hs]
    | false =>
      refine Yields.call_bind fun _ => ih.mono fun synced hrest => ?_
      simp [hrest, resolved, hs]

/-- A subject identifier that is declared twice counts once. -/
theorem length_all (subjects : PageSubjects) : subjects.all.length =
    ((subjects.main.toList ++ subjects.children).map Subject.id).toFinset.card := by
  have hdeclared : (subjects.main.toList ++ subjects.children).map Subject.id =
      (subjects.main.toList.map (·, true) ++ subjects.children.map (·, false)).map (·.1.id) := by
    simp [Function.comp_def]
  have hids : ((subjects.main.toList ++ subjects.children).map Subject.id).toFinset =
      subjects.ids.toFinset := by
    rw [hdeclared]
    ext t
    rw [List.mem_toFinset, List.mem_toFinset, List.mem_map, PageSubjects.ids]
    constructor
    · rintro ⟨x, hx, rfl⟩
      exact key_mem_firstBy hx
    · intro ht
      obtain ⟨x, hx, rfl⟩ := List.mem_map.1 ht
      exact ⟨x, mem_of_mem_firstBy hx, rfl⟩
  rw [hids, List.toFinset_card_of_nodup subjects.nodup_ids, PageSubjects.ids, List.length_map]

/-- What a report on a page adds up to: each subject of the page is synced or skipped, and each relation
that a synced subject declares is counted once. -/
structure AddsUp (page : Page) (report : SyncReport) : Prop where
  subjects : report.subjectsSynced + report.subjectsSkipped =
    ((page.subjects.main.toList ++ page.subjects.children).map Subject.id).toFinset.card
  relations : report.relations.created + report.relations.updated + report.relations.replaced +
    report.relations.unchanged + report.relations.skipped =
      ((p.resolved page.subjects.all).map (·.relations.size)).sum

theorem yields_savePage (page : Page) :
    Yields store (p.savePage store page) (p.AddsUp page) := by
  refine Yields.transact (Yields.call_bind fun _ => ?_)
  refine (p.yields_updateSubjects page.id page.subjects.all).bind fun synced hsynced => ?_
  subst hsynced
  refine (yields_reconcileSubjects {} _).bind fun relations hrelations => ?_
  refine Yields.call_bind fun detached => .pure ⟨?_, ?_⟩
  · have hle : (p.resolved page.subjects.all).length ≤ page.subjects.all.length := by
      simpa [resolved] using List.length_filter_le p.resolves (page.subjects.all.map (·.1))
    rw [← length_all]
    exact Nat.add_sub_cancel' hle
  · simpa [RelationChanges.declared] using hrelations

end Projector
end WikiGraph
