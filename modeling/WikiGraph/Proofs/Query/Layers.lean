import Mathlib.Data.List.Forall2
import WikiGraph.Query.Gate
/-!
# The layers of the query gate

What is asked of the layers of a gate, and what a caller learns of their answers. Layers are
computations on a state of any type, so that each may answer as it likes, and otherwise every time it is
asked; a layer that is recorded adds its answers to a list, in their order. Two rules for computations
one after the other carry everything: one for a computation beside its recorded copy (`Keeps.bind`), one
for two computations in two worlds (`Matches.bind`).

Three laws come of it. The layers are asked in their order up to the first that objects (`Course`). Of
the failures of the database the caller is told those that are no refusals, and is told of a refusal that
the query is not allowed (`Told`). In two worlds that differ in what refusals say, the caller is
told the same.
-/
namespace WikiGraph.Query

variable {σ σ' α α' β β' ρ : Type}

/-! ## Recording -/

/-- A layer that was asked, what it was asked about, and its answer. -/
inductive Visit (ρ : Type) where
  /-- The validator at a place of the list. -/
  | judge (place : Nat) (query : String) (verdict : Except GraphError Bool)
  /-- The database, which ran the query on trial. -/
  | trial (query : String) (reply : Except GraphError Unit)
  | runner (query : String) (reply : Except GraphError (List ρ))

def Visit.failure? : Visit ρ → Option GraphError
  | judge _ _ (.error e) => some e
  | trial _ (.error e) => some e
  | runner _ (.error e) => some e
  | _ => none

def failures (visits : List (Visit ρ)) : List GraphError := visits.filterMap Visit.failure?

def recorded (visit : String → α → Visit ρ) (layer : String → StateM σ α) :
    String → StateM (σ × List (Visit ρ)) α := fun query s =>
  ((layer query s.1).1, (layer query s.1).2, s.2 ++ [visit query (layer query s.1).1])

/-- Validators that are recorded, the first of them under the given place. -/
def watched (place : Nat) :
    List (Validator (StateM σ)) → List (Validator (StateM (σ × List (Visit ρ))))
  | [] => []
  | v :: rest => recorded (.judge place) v :: watched (place + 1) rest

/-- `kept` does what `body` does, and what it adds to its list fits its result. -/
def Keeps (fits : α → List (Visit ρ) → Prop) (body : StateM σ α)
    (kept : StateM (σ × List (Visit ρ)) α) : Prop :=
  ∀ s log, ∃ visits, kept (s, log) = ((body s).1, (body s).2, log ++ visits) ∧
    fits (body s).1 visits

namespace Keeps

variable {fits : α → List (Visit ρ) → Prop} {body : StateM σ α}
  {kept : StateM (σ × List (Visit ρ)) α}

theorem pure {a : α} (h : fits a []) :
    Keeps fits (Pure.pure a : StateM σ α) (Pure.pure a) := fun s log =>
  ⟨[], by rw [List.append_nil]; rfl, h⟩

theorem mono {fits' : α → List (Visit ρ) → Prop} (h : Keeps fits body kept)
    (hm : ∀ a visits, fits a visits → fits' a visits) : Keeps fits' body kept := by
  intro s log
  obtain ⟨visits, hrun, hfits⟩ := h s log
  exact ⟨visits, hrun, hm _ _ hfits⟩

theorem recorded (visit : String → α → Visit ρ) (layer : String → StateM σ α) (query : String) :
    Keeps (fun a visits => visits = [visit query a]) (layer query)
      (Query.recorded visit layer query) := fun _ _ => ⟨_, rfl, rfl⟩

/-- **One computation after the other**: what the second adds is judged together with what the first
one added. -/
theorem bind {next : α → StateM σ β} {keptNext : α → StateM (σ × List (Visit ρ)) β}
    {fitsNext : β → List (Visit ρ) → Prop} (h : Keeps fits body kept)
    (hn : ∀ a first, fits a first →
      Keeps (fun b later => fitsNext b (first ++ later)) (next a) (keptNext a)) :
    Keeps fitsNext (body >>= next) (kept >>= keptNext) := by
  intro s log
  obtain ⟨first, hrun, hfits⟩ := h s log
  obtain ⟨later, hrun', hfits'⟩ := hn _ first hfits (body s).2 (log ++ first)
  refine ⟨first ++ later, ?_, hfits'⟩
  show keptNext (kept (s, log)).1 (kept (s, log)).2 = _
  rw [hrun, hrun', List.append_assoc]
  rfl

end Keeps

/-! ## The course of a run -/

/-- A validator's verdict other than yes, and what the caller is told. -/
inductive Objects : Except GraphError Bool → GateError → Prop where
  | refused : Objects (.ok false) .byReadOnlyRole
  | broken (e : GraphError) : Objects (.error e) (.graph e)

/-- Validators at successive places that were asked about a query and said yes. -/
def agreed (query : String) (place count : Nat) : List (Visit ρ) :=
  (List.range' place count).map fun place => .judge place query (.ok true)

/-- The validators of a list were asked, up to the first one that objects. -/
inductive Consulted (query : String) (place count : Nat) :
    Except GateError Unit → List (Visit ρ) → Prop where
  | agreed : Consulted query place count (.ok ()) (agreed query place count)
  | stopped {i : Nat} {verdict : Except GraphError Bool} {error : GateError} (hi : i < count)
    (h : Objects verdict error) : Consulted query place count (.error error)
      (Query.agreed query place i ++ [.judge (place + i) query verdict])

theorem agreed_succ (query : String) (place count : Nat) :
    (agreed query place (count + 1) : List (Visit ρ)) =
      .judge place query (.ok true) :: agreed query (place + 1) count := by
  rw [agreed, List.range'_succ, List.map_cons]
  rfl

/-- A first validator that says yes goes before. -/
theorem Consulted.cons {query : String} {place count : Nat} {result : Except GateError Unit}
    {visits : List (Visit ρ)} (h : Consulted query (place + 1) count result visits) :
    Consulted query place (count + 1) result (.judge place query (.ok true) :: visits) := by
  cases h with
  | agreed =>
    rw [← agreed_succ]
    exact .agreed
  | @stopped i verdict error hi h =>
    have hstopped : Consulted query place (count + 1) (.error error)
        (Query.agreed query place (i + 1) ++
          [.judge (place + (i + 1)) query verdict] : List (Visit ρ)) :=
      .stopped (Nat.succ_lt_succ hi) h
    rw [agreed_succ, List.cons_append, show place + (i + 1) = place + 1 + i by omega] at hstopped
    exact hstopped

/-- By induction on the list: the verdict of its first validator decides whether the rest are asked. -/
theorem keeps_consult (query : String) (validators : List (Validator (StateM σ))) (place : Nat) :
    Keeps (fun result (visits : List (Visit ρ)) =>
        Consulted query place validators.length result visits)
      (consult query validators) (consult query (watched place validators)) := by
  induction validators generalizing place with
  | nil => exact .pure .agreed
  | cons v rest ih =>
    have hstop {verdict : Except GraphError Bool} {error : GateError} (h : Objects verdict error) :
        Consulted query place (rest.length + 1) (.error error)
          ([.judge place query verdict] ++ [] : List (Visit ρ)) := .stopped (Nat.succ_pos _) h
    refine (Keeps.recorded (.judge place) v query).bind fun verdict first hfirst => ?_
    subst hfirst
    match verdict with
    | .ok true => exact (ih (place + 1)).mono fun _ _ hrest => hrest.cons
    | .ok false => exact .pure (hstop .refused)
    | .error e => exact .pure (hstop (.broken e))

/-- **The course of a run** of a gate with a number of validators, for a query that holds no keyword. -/
inductive Course (query : String) (count : Nat) :
    Except GateError (List ρ) → List (Visit ρ) → Prop where
  /-- A validator objects, and nobody is asked after it. -/
  | stopped {place : Nat} {verdict : Except GraphError Bool} {error : GateError}
    (hp : place < count) (h : Objects verdict error) : Course query count (.error error)
      (agreed query 0 place ++ [.judge place query verdict])
  /-- All validators say yes, and the query is run once. -/
  | answered (rows : List ρ) : Course query count (.ok rows)
      (agreed query 0 count ++ [.runner query (.ok rows)])
  | denied (report : String) : Course query count (.error .byDatabase)
      (agreed query 0 count ++ [.runner query (.error (.permissionDenied report))])
  | failed (e : GraphError) (he : e.isPermissionDenied = false) :
    Course query count (.error (.graph e)) (agreed query 0 count ++ [.runner query (.error e)])

theorem runGate_of_keyword {m : Type → Type} [Monad m] {query : String} {k : WriteKeyword}
    (h : writeKeyword? query.toList = some k) (validators : List (Validator m))
    (runner : String → m (Except GraphError (List ρ))) :
    runGate validators runner query = pure (.error (.contains k)) := by
  rw [runGate, check, h]

theorem runGate_of_no_keyword {m : Type → Type} [Monad m] {query : String}
    (h : writeKeyword? query.toList = none) (validators : List (Validator m))
    (runner : String → m (Except GraphError (List ρ))) :
    runGate validators runner query = (do
      match ← consult query validators with
      | .error e => return .error e
      | .ok () => return outcome (← runner query)) := by
  have hcheck : check query = .ok () := by rw [check, h]
  unfold runGate
  generalize check query = verdict at hcheck
  subst hcheck
  rfl

/-- A database answers, refuses or fails. -/
theorem reply_cases {γ : Type} (reply : Except GraphError γ) :
    (∃ a, reply = .ok a) ∨ (∃ report, reply = .error (.permissionDenied report)) ∨
      ∃ e, reply = .error e ∧ e.isPermissionDenied = false := by
  match reply with
  | .ok a => exact .inl ⟨a, rfl⟩
  | .error (.permissionDenied report) => exact .inr (.inl ⟨report, rfl⟩)
  | .error (.connection _) | .error (.query _) | .error (.serialization _)
  | .error .transactionClosed => exact .inr (.inr ⟨_, rfl, rfl⟩)

theorem outcome_of_failure {e : GraphError} (he : e.isPermissionDenied = false) :
    outcome (.error e : Except GraphError (List ρ)) = .error (.graph e) := by
  rw [outcome, he, if_neg Bool.false_ne_true]

theorem course_outcome (query : String) (count : Nat) (reply : Except GraphError (List ρ)) :
    Course query count (outcome reply) (agreed query 0 count ++ [.runner query reply]) := by
  rcases reply_cases reply with ⟨rows, rfl⟩ | ⟨report, rfl⟩ | ⟨e, rfl, he⟩
  · exact .answered rows
  · exact .denied report
  · rw [outcome_of_failure he]
    exact .failed e he

theorem keeps_runGate {query : String} (h : writeKeyword? query.toList = none)
    (validators : List (Validator (StateM σ)))
    (runner : String → StateM σ (Except GraphError (List ρ))) :
    Keeps (Course query validators.length) (runGate validators runner query)
      (runGate (watched 0 validators) (recorded .runner runner) query) := by
  rw [runGate_of_no_keyword h, runGate_of_no_keyword h]
  refine (keeps_consult query validators 0).bind fun result first hfirst => ?_
  cases hfirst with
  | @stopped i verdict error hi hobjects =>
    refine .pure ?_
    rw [List.append_nil, Nat.zero_add]
    exact .stopped hi hobjects
  | agreed =>
    refine (Keeps.recorded .runner runner query).bind fun reply later hlater => ?_
    subst hlater
    exact .pure (course_outcome query validators.length reply)

/-! ## What the caller is told -/

/-- A judge that reads the keywords, or one that puts queries on trial with a database. -/
inductive Judge (m : Type → Type) where
  | keywords
  | trial (probe : String → m (Except GraphError Unit))

def Judge.validator {m : Type → Type} [Monad m] : Judge m → Validator m
  | .keywords => keywordValidator
  | .trial probe => trialValidator probe

def Judge.recorded : Judge (StateM σ) → Judge (StateM (σ × List (Visit ρ)))
  | .keywords => .keywords
  | .trial probe => .trial (Query.recorded .trial probe)

/-- What the verdict of a judge says of the failures that its database answered with. -/
inductive Judged : Except GraphError Bool → List GraphError → Prop where
  | agreed : Judged (.ok true) []
  | denied (report : String) : Judged (.ok false) [.permissionDenied report]
  | failed (e : GraphError) (he : e.isPermissionDenied = false) : Judged (.error e) [e]

/-- **What the caller is told** of the failures that databases answered with. -/
inductive Told {γ : Type} : Except GateError γ → List GraphError → Prop where
  | answered (a : γ) : Told (.ok a) []
  | deniedOnTrial (report : String) : Told (.error .byReadOnlyRole) [.permissionDenied report]
  | denied (report : String) : Told (.error .byDatabase) [.permissionDenied report]
  | failed (e : GraphError) (he : e.isPermissionDenied = false) : Told (.error (.graph e)) [e]

theorem Told.of_error {γ γ' : Type} {error : GateError} {heard : List GraphError}
    (h : Told (.error error : Except GateError γ) heard) :
    Told (.error error : Except GateError γ') heard := by
  cases h with
  | deniedOnTrial report => exact .deniedOnTrial report
  | denied report => exact .denied report
  | failed e he => exact .failed e he

theorem Told.eq_nil {γ : Type} {a : γ} {heard : List GraphError} (h : Told (.ok a) heard) :
    heard = [] := by
  cases h
  rfl

def trialVerdict : Except GraphError Unit → Except GraphError Bool
  | .ok () => .ok true
  | .error e => if e.isPermissionDenied then .ok false else .error e

theorem trialValidator_eq (probe : String → StateM σ (Except GraphError Unit)) (query : String) :
    trialValidator probe query = (probe query >>= fun reply => pure (trialVerdict reply)) := by
  refine congrArg (probe query >>= ·) (funext fun reply => ?_)
  match reply with
  | .ok () => rfl
  | .error e =>
    cases he : e.isPermissionDenied <;> simp [trialVerdict, he]

theorem judged_trialVerdict (query : String) (reply : Except GraphError Unit) :
    Judged (trialVerdict reply) (failures [(.trial query reply : Visit ρ)]) := by
  rcases reply_cases reply with ⟨_, rfl⟩ | ⟨report, rfl⟩ | ⟨e, rfl, he⟩
  · exact .agreed
  · exact .denied report
  · rw [trialVerdict, he, if_neg Bool.false_ne_true]
    exact .failed e he

theorem told_outcome (query : String) (reply : Except GraphError (List ρ)) :
    Told (outcome reply) (failures [.runner query reply]) := by
  rcases reply_cases reply with ⟨rows, rfl⟩ | ⟨report, rfl⟩ | ⟨e, rfl, he⟩
  · exact .answered rows
  · exact .denied report
  · rw [outcome_of_failure he]
    exact .failed e he

/-- A query without a keyword has nothing to fear from a judge that reads the keywords. -/
theorem keeps_judge {query : String} (h : writeKeyword? query.toList = none)
    (judge : Judge (StateM σ)) :
    Keeps (fun verdict visits => Judged verdict (failures (visits : List (Visit ρ))))
      (judge.validator query) (judge.recorded.validator query) := by
  cases judge with
  | keywords =>
    have hreads : isReadOnly query.toList = true := by rw [isReadOnly, h, Option.isNone_none]
    exact .pure (hreads ▸ .agreed)
  | trial probe =>
    simp only [Judge.validator, Judge.recorded, trialValidator_eq]
    refine (Keeps.recorded .trial probe query).bind fun reply first hfirst => ?_
    subst hfirst
    exact .pure (judged_trialVerdict query reply)

theorem failures_append (first later : List (Visit ρ)) :
    failures (first ++ later) = failures first ++ failures later := List.filterMap_append

theorem keeps_consult_judges {query : String} (h : writeKeyword? query.toList = none)
    (judges : List (Judge (StateM σ))) :
    Keeps (fun result visits => Told result (failures (visits : List (Visit ρ))))
      (consult query (judges.map Judge.validator))
      (consult query (judges.map fun judge => judge.recorded.validator)) := by
  induction judges with
  | nil => exact .pure (.answered ())
  | cons judge rest ih =>
    refine (keeps_judge h judge).bind fun verdict first hfirst => ?_
    generalize hheard : failures first = heard at hfirst
    cases hfirst with
    | agreed =>
      refine ih.mono fun result later htold => ?_
      rwa [failures_append, hheard, List.nil_append]
    | denied report =>
      refine .pure ?_
      rw [List.append_nil, hheard]
      exact .deniedOnTrial report
    | failed e he =>
      refine .pure ?_
      rw [List.append_nil, hheard]
      exact .failed e he

theorem keeps_runGate_judges {query : String} (h : writeKeyword? query.toList = none)
    (judges : List (Judge (StateM σ))) (runner : String → StateM σ (Except GraphError (List ρ))) :
    Keeps (fun result visits => Told result (failures (visits : List (Visit ρ))))
      (runGate (judges.map Judge.validator) runner query)
      (runGate (judges.map fun judge => judge.recorded.validator) (recorded .runner runner) query) := by
  rw [runGate_of_no_keyword h, runGate_of_no_keyword h]
  refine (keeps_consult_judges h judges).bind fun result first hfirst => ?_
  match result with
  | .error e =>
    refine .pure ?_
    rw [List.append_nil]
    exact hfirst.of_error
  | .ok () =>
    refine (Keeps.recorded .runner runner query).bind fun reply later hlater => ?_
    subst hlater
    refine .pure ?_
    rw [List.append_nil, failures_append, hfirst.eq_nil, List.nil_append]
    exact told_outcome query reply

/-! ## Two worlds -/

/-- Two computations started in related states end in related states, with related results. -/
def Matches (R : σ → σ' → Prop) (Q : α → α' → Prop) (body : StateM σ α) (body' : StateM σ' α') :
    Prop :=
  ∀ s s', R s s' → Q (body s).1 (body' s').1 ∧ R (body s).2 (body' s').2

namespace Matches

variable {R : σ → σ' → Prop} {Q : α → α' → Prop} {P : β → β' → Prop}

theorem pure {a : α} {a' : α'} (h : Q a a') :
    Matches R Q (Pure.pure a : StateM σ α) (Pure.pure a' : StateM σ' α') := fun _ _ hR => ⟨h, hR⟩

theorem bind {body : StateM σ α} {body' : StateM σ' α'} {next : α → StateM σ β}
    {next' : α' → StateM σ' β'} (h : Matches R Q body body')
    (hn : ∀ a a', Q a a' → Matches R P (next a) (next' a')) :
    Matches R P (body >>= next) (body' >>= next') := by
  intro s s' hR
  obtain ⟨hQ, hR'⟩ := h s s' hR
  exact hn _ _ hQ _ _ hR'

end Matches

/-- Two answers are the same but for what a refusal says. -/
inductive Alike {γ : Type} : Except GraphError γ → Except GraphError γ → Prop where
  | same (answer : Except GraphError γ) : Alike answer answer
  | denied (report report' : String) :
    Alike (.error (.permissionDenied report)) (.error (.permissionDenied report'))

/-- Two judges answer alike in related states. -/
inductive Judge.Alike (R : σ → σ' → Prop) : Judge (StateM σ) → Judge (StateM σ') → Prop where
  | keywords : Judge.Alike R .keywords .keywords
  | trial {probe : String → StateM σ (Except GraphError Unit)}
    {probe' : String → StateM σ' (Except GraphError Unit)}
    (h : ∀ query, Matches R Query.Alike (probe query) (probe' query)) :
    Judge.Alike R (.trial probe) (.trial probe')

variable {R : σ → σ' → Prop} {judge : Judge (StateM σ)} {judge' : Judge (StateM σ')}
  {judges : List (Judge (StateM σ))} {judges' : List (Judge (StateM σ'))}

theorem outcome_of_alike {reply reply' : Except GraphError (List ρ)} (h : Alike reply reply') :
    outcome reply = outcome reply' := by
  cases h <;> rfl

theorem matches_judge (h : judge.Alike R judge') (query : String) :
    Matches R Eq (judge.validator query) (judge'.validator query) := by
  cases h with
  | keywords => exact .pure rfl
  | trial h =>
    simp only [Judge.validator, trialValidator_eq]
    refine (h query).bind fun reply reply' halike => .pure ?_
    cases halike <;> rfl

theorem matches_consult (h : List.Forall₂ (Judge.Alike R) judges judges') (query : String) :
    Matches R Eq (consult query (judges.map Judge.validator))
      (consult query (judges'.map Judge.validator)) := by
  induction h with
  | nil => exact .pure rfl
  | cons hjudge hrest ih =>
    refine (matches_judge hjudge query).bind ?_
    rintro verdict _ rfl
    match verdict with
    | .ok true => exact ih
    | .ok false => exact .pure rfl
    | .error e => exact .pure rfl

theorem matches_runGate (h : List.Forall₂ (Judge.Alike R) judges judges')
    {runner : String → StateM σ (Except GraphError (List ρ))}
    {runner' : String → StateM σ' (Except GraphError (List ρ))}
    (hr : ∀ query, Matches R Alike (runner query) (runner' query)) (query : String) :
    Matches R Eq (runGate (judges.map Judge.validator) runner query)
      (runGate (judges'.map Judge.validator) runner' query) := by
  cases hk : writeKeyword? query.toList with
  | some k =>
    rw [runGate_of_keyword hk, runGate_of_keyword hk]
    exact .pure rfl
  | none =>
    rw [runGate_of_no_keyword hk, runGate_of_no_keyword hk]
    refine (matches_consult h query).bind ?_
    rintro result _ rfl
    match result with
    | .error e => exact .pure rfl
    | .ok () =>
      refine (hr query).bind fun reply reply' halike => .pure ?_
      exact outcome_of_alike halike

/-- **What a gate asks, and what it tells.**

1. A gate does the same when its layers are recorded. With a keyword in the query it asks nobody, changes
   nothing and names the keyword; otherwise it asks its validators, about the query as it is, one by one
   up to the first that does not say yes, and runs the query, once, if all of them do (`Course`).
2. Among judges that read keywords or put the query on trial, and the runner, at most one failure of the
   database is heard. The caller is told that the query is not allowed if that failure is a refusal, and
   is told of the failure itself if it is not (`Told`).
3. In two worlds whose databases answer alike but for the words of their refusals, the caller is told the
   same. -/
theorem gate_asks_in_order_and_tells_no_report :
    (∀ (σ ρ : Type) (validators : List (Validator (StateM σ)))
        (runner : String → StateM σ (Except GraphError (List ρ))) (query : String) (s : σ),
      ∃ visits, runGate (watched 0 validators) (recorded .runner runner) query (s, []) =
          ((runGate validators runner query s).1, (runGate validators runner query s).2, visits) ∧
        match writeKeyword? query.toList with
        | some k => runGate validators runner query s = (.error (.contains k), s) ∧ visits = []
        | none => Course query validators.length (runGate validators runner query s).1 visits) ∧
    (∀ (σ ρ : Type) (judges : List (Judge (StateM σ)))
        (runner : String → StateM σ (Except GraphError (List ρ))) (query : String) (s : σ),
      ∃ visits, runGate (judges.map fun judge => judge.recorded.validator)
          (recorded .runner runner) query (s, []) =
          ((runGate (judges.map Judge.validator) runner query s).1,
            (runGate (judges.map Judge.validator) runner query s).2, visits) ∧
        match writeKeyword? query.toList with
        | some k => runGate (judges.map Judge.validator) runner query s =
            (.error (.contains k), s) ∧ visits = []
        | none => Told (runGate (judges.map Judge.validator) runner query s).1 (failures visits)) ∧
    ∀ (σ σ' ρ : Type) (R : σ → σ' → Prop) (judges : List (Judge (StateM σ)))
      (judges' : List (Judge (StateM σ'))) (runner : String → StateM σ (Except GraphError (List ρ)))
      (runner' : String → StateM σ' (Except GraphError (List ρ))),
      List.Forall₂ (Judge.Alike R) judges judges' →
      (∀ query, Matches R Alike (runner query) (runner' query)) →
      ∀ query, Matches R Eq (runGate (judges.map Judge.validator) runner query)
        (runGate (judges'.map Judge.validator) runner' query) := by
  refine ⟨fun σ ρ validators runner query s => ?_, fun σ ρ judges runner query s => ?_, ?_⟩
  · cases hk : writeKeyword? query.toList with
    | some k =>
      rw [runGate_of_keyword hk, runGate_of_keyword hk]
      exact ⟨[], rfl, rfl, rfl⟩
    | none =>
      exact keeps_runGate hk validators runner s []
  · cases hk : writeKeyword? query.toList with
    | some k =>
      rw [runGate_of_keyword hk, runGate_of_keyword hk]
      exact ⟨[], rfl, rfl, rfl⟩
    | none => exact keeps_runGate_judges hk judges runner s []
  · intro σ σ' ρ R judges judges' runner runner' hjudges hrunner query
    exact matches_runGate hjudges hrunner query

/-- A database that refuses every query, with whatever it has in its state for a report. -/
def refusing (γ : Type) : String → StateM String (Except GraphError γ) := fun _ => do
  return .error (.permissionDenied (← get))

def refusingGate : String → StateM String (Except GateError (List Unit)) :=
  runGate ([.keywords, .trial (refusing Unit)].map Judge.validator) (refusing (List Unit))

/-- Two reports, and one answer. -/
theorem refusingGate_tells_nothing :
    (refusingGate "MATCH (n) RETURN n" "Alice owns node 7").1 = .error .byReadOnlyRole ∧
    (refusingGate "MATCH (n) RETURN n" "Bob owns node 8").1 = .error .byReadOnlyRole := by
  have hnone : writeKeyword? "MATCH (n) RETURN n".toList = none := by decide +kernel
  have hreads : (keywordValidator : Validator (StateM String)) "MATCH (n) RETURN n" =
      pure (.ok true) := by
    rw [keywordValidator, isReadOnly, hnone]
    rfl
  have hfirst : (refusingGate "MATCH (n) RETURN n" "Alice owns node 7").1 =
      .error .byReadOnlyRole := by
    rw [refusingGate, runGate_of_no_keyword hnone, List.map_cons, Judge.validator, consult, hreads]
    rfl
  have hrefusing (γ : Type) (query : String) :
      Matches (fun _ _ => True) Alike (refusing γ query) (refusing γ query) :=
    fun report report' _ => ⟨.denied report report', trivial⟩
  obtain ⟨-, -, htold⟩ := gate_asks_in_order_and_tells_no_report
  have hsame := htold String String Unit (fun _ _ => True) _ _ _ _
    (.cons .keywords (.cons (.trial (hrefusing Unit)) .nil)) (hrefusing (List Unit))
    "MATCH (n) RETURN n" "Alice owns node 7" "Bob owns node 8" trivial
  exact ⟨hfirst, hsame.1.symm.trans hfirst⟩

end WikiGraph.Query
