import WikiGraph.Proofs.Server.Sent
/-!
# The labels of a subject node on a server

A subject is written with two or three statements: the question for the schema that it had, the removal
of that schema's label if it is another one, and the write, which adds the label of its schema. What is
sent is these statements in this order, or the first of them if one fails (`Issues`).

The labels that are removed and added are quoted in the clauses of these statements
(`text_of_removedLabel?`, `text_of_addedLabel?`). They are names of schemas, and nothing sets the
generic labels apart from those. A subject whose schema has the name of a generic label therefore loses
the label by which it is found, or gains that of a page, and these are the only cases
(`upsertSubject_relabels`).
-/
namespace WikiGraph

/-! ## The labels in a statement -/

namespace Cypher.Statement

/-- The label that a statement removes from a subject node. -/
def removedLabel? (statement : Statement) : Option String :=
  match statement.form with
  | .removeLabel label => some label
  | _ => none

/-- The label that a statement adds to a subject node that there is. -/
def addedLabel? (statement : Statement) : Option String :=
  match statement.form with
  | .upsertSubject schema => some schema
  | _ => none

variable {statement : Statement} {label : String}

/-- The label removed is quoted in the clause that the statement ends with. -/
theorem text_of_removedLabel? (h : statement.removedLabel? = some label) :
    ∃ front, statement.form.text = front ++ "REMOVE s:".toList ++ quote label.toList := by
  unfold removedLabel? at h
  split at h
  · rename_i hform
    cases h
    have hlines : lines ["MATCH (s:Subject \x7bid: $id\x7d) REMOVE s:"] =
        "MATCH (s:Subject \x7bid: $id\x7d) ".toList ++ "REMOVE s:".toList := by decide
    exact ⟨_, by rw [hform, Form.text, around, hlines]; exact List.append_nil _⟩
  · cases h

/-- The label added is quoted in the clause that the statement ends with. -/
theorem text_of_addedLabel? (h : statement.addedLabel? = some label) :
    ∃ front, statement.form.text = front ++ "SET s:".toList ++ quote label.toList := by
  unfold addedLabel? at h
  split at h
  · rename_i hform
    cases h
    have hlines : lines ["MERGE (s:Subject \x7bid: $id\x7d)", "SET s = $props", "SET s:"] =
        lines ["MERGE (s:Subject \x7bid: $id\x7d)", "SET s = $props", ""] ++ "SET s:".toList := by
      decide
    exact ⟨_, by rw [hform, Form.text, around, hlines]; exact List.append_nil _⟩
  · cases h

end Cypher.Statement

namespace Server

open Cypher

/-! ## Sending statements in order -/

def written (statement : Statement) : Role × Request := (.writer, .run statement)

/-- Started with `c`, the computation sends the statements of a plan in their order: all of them if it
succeeds, and only the first ones if it fails. -/
def Issues {τ α : Type} (c : Client τ) (plan : List Statement) (body : ClientM τ α) : Prop :=
  ∃ done, (body c).2.sent = c.sent ++ done.map written ∧ done <+: plan ∧
    ∀ a, (body c).1 = .ok a → done = plan

namespace Issues

variable {τ α β : Type} {c : Client τ} {plan rest : List Statement} {body : ClientM τ α}

theorem pure (a : α) : Issues c [] (Pure.pure a : ClientM τ α) :=
  ⟨[], (List.append_nil c.sent).symm, List.nil_prefix, fun _ _ => rfl⟩

theorem throw (e : GraphError) : Issues c plan (MonadExcept.throw e : ClientM τ α) :=
  ⟨[], (List.append_nil c.sent).symm, List.nil_prefix, fun _ ha => nomatch ha⟩

theorem bind {next : α → ClientM τ β} (h : Issues c plan body)
    (hn : ∀ a c', body c = (.ok a, c') → Issues c' rest (next a)) :
    Issues c (plan ++ rest) (body >>= next) := by
  obtain ⟨done, hsent, hinitial, hall⟩ := h
  rcases hb : body c with ⟨result, c'⟩
  rw [hb] at hsent hall
  cases result with
  | error e =>
    rw [Issues, StoreM.bind_of_error next hb]
    exact ⟨done, hsent, hinitial.trans (List.prefix_append plan rest), fun _ ha => nomatch ha⟩
  | ok a =>
    obtain ⟨more, hsent', hinitial', hall'⟩ := hn a c' hb
    obtain rfl : done = plan := hall a rfl
    rw [Issues, StoreM.bind_of_ok next hb]
    refine ⟨done ++ more, ?_, (List.prefix_append_right_inj done).2 hinitial', fun b hb' => ?_⟩
    · rw [hsent', hsent, List.map_append, List.append_assoc]
    · rw [hall' b hb']

variable (s : Endpoint τ) (statement : Statement)

theorem send : Issues c [statement] (send s .writer (.run statement)) := by
  unfold Issues Server.send
  rw [StoreM.bind_of_ok _ (get_eq c)]
  cases s.outOfReach? c.server with
  | some reason => exact throw (unreachable reason)
  | none => exact ⟨[statement], rfl, List.prefix_rfl, fun _ _ => rfl⟩

/-- What is made of a reply sends nothing. -/
theorem of_reply {read : Reply → ClientM τ α}
    (hread : ∀ reply c, (read reply c).2 = c) :
    Issues c [statement] (Server.send s .writer (.run statement) >>= read) := by
  rw [← List.append_nil [statement]]
  refine (send s statement).bind fun reply c' _ => ⟨[], ?_, List.nil_prefix, fun _ _ => rfl⟩
  rw [hread, List.map_nil, List.append_nil]

theorem execute : Issues c [statement] (execute s .writer statement) := by
  refine of_reply s statement fun reply c => ?_
  rcases reply with _ | _ | ⟨_, _, _ | _⟩ <;> rfl

theorem fetch : Issues c [statement] (fetch s .writer statement) := by
  refine of_reply s statement fun reply c => ?_
  rcases reply with _ | _ | ⟨_, _, _ | _⟩ <;> rfl

end Issues

/-! ## Writing a subject -/

variable {τ : Type}

def schemaQuestion (id : SubjectId) : Statement := ⟨.schemaOfSubject, [textParameter "id" id.text]⟩

/-- The schema that the server answers for a subject, if it answers one. -/
def answeredSchema (s : Endpoint τ) (id : SubjectId) (c : Client τ) : Option String :=
  match (fetch s .writer (schemaQuestion id) c).1 with
  | .ok rows => rows.head?.bind (·.text? "schema")
  | .error _ => none

/-- The label that is to go, when the schema of a subject was `previous`: that of a schema with a name,
if the subject has another one now. -/
def staleLabel (subject : SubjectNode) (previous : Option String) : Option String :=
  previous.filter fun old => old ≠ "" ∧ old ≠ subject.schema.text

/-- The statements that a subject is written with, when its schema was `previous`. -/
def statementsFor (subject : SubjectNode) (previous : Option String) : List Statement :=
  schemaQuestion subject.id ::
    ((staleLabel subject previous).toList.map fun old =>
      ⟨.removeLabel old, [textParameter "id" subject.id.text]⟩) ++
    [⟨.upsertSubject subject.schema.text,
      [textParameter "id" subject.id.text, ("props", subjectProperties subject)]⟩]

theorem issues_upsertSubject (s : Endpoint τ) (subject : SubjectNode) (c : Client τ) :
    Issues c (statementsFor subject (answeredSchema s subject.id c)) (upsertSubject s subject) := by
  unfold statementsFor upsertSubject
  rw [List.cons_append, ← List.singleton_append]
  refine (Issues.fetch s (schemaQuestion subject.id)).bind fun rows c' hrows => ?_
  have hanswered : answeredSchema s subject.id c = rows.head?.bind (·.text? "schema") := by
    rw [answeredSchema, hrows]
  rw [hanswered]
  cases rows.head?.bind (·.text? "schema") with
  | none => exact (Issues.pure ()).bind fun _ _ _ => .execute s _
  | some old =>
    by_cases hold : old ≠ "" ∧ old ≠ subject.schema.text
    · have hstale : staleLabel subject (some old) = some old :=
        Option.filter_some_pos (decide_eq_true hold)
      dsimp only
      rw [hstale, if_pos hold]
      exact (Issues.execute s _).bind fun _ _ _ => .execute s _
    · have hstale : staleLabel subject (some old) = none :=
        Option.filter_some_neg (by simpa using hold)
      dsimp only
      rw [hstale, if_neg hold]
      exact (Issues.pure ()).bind fun _ _ _ => .execute s _

def Request.statement? : Request → Option Statement
  | .run statement => some statement
  | _ => none

def statementsSent (s : Endpoint τ) (call : Call) (c : Client τ) : List Statement :=
  ((answer s call c).2.sent.drop c.sent.length).filterMap fun sent => sent.2.statement?

theorem statementsSent_eq {s : Endpoint τ} {call : Call} {c : Client τ} {done : List Statement}
    (h : (answer s call c).2.sent = c.sent ++ done.map written) : statementsSent s call c = done := by
  rw [statementsSent, h, List.drop_left, List.filterMap_map]
  exact List.filterMap_some

/-- The statements sent for a subject are those that it is written with: all of them if it is written,
and the first of them if not. -/
theorem statementsSent_upsertSubject (s : Endpoint τ) (subject : SubjectNode) (c : Client τ) :
    statementsSent s (.perform (.upsertSubject subject)) c <+:
        statementsFor subject (answeredSchema s subject.id c) ∧
      ((answer s (.perform (.upsertSubject subject)) c).1 = .ok () →
        statementsSent s (.perform (.upsertSubject subject)) c =
          statementsFor subject (answeredSchema s subject.id c)) := by
  have hissues : Issues c (statementsFor subject (answeredSchema s subject.id c))
      (answer s (.perform (.upsertSubject subject))) := by
    unfold Issues
    rw [answer_perform]
    split
    · exact issues_upsertSubject s subject c
    · exact Issues.throw .transactionClosed
  obtain ⟨done, hsent, hinitial, hall⟩ := hissues
  rw [statementsSent_eq hsent]
  exact ⟨hinitial, hall ()⟩

/-! ## Labels -/

def removedLabels (statements : List Statement) : List String :=
  statements.filterMap Statement.removedLabel?

def addedLabels (statements : List Statement) : List String :=
  statements.filterMap Statement.addedLabel?

theorem removedLabels_statementsFor (subject : SubjectNode) (previous : Option String) :
    removedLabels (statementsFor subject previous) = (staleLabel subject previous).toList := by
  unfold statementsFor
  cases staleLabel subject previous <;> rfl

theorem addedLabels_statementsFor (subject : SubjectNode) (previous : Option String) :
    addedLabels (statementsFor subject previous) = [subject.schema.text] := by
  unfold statementsFor
  cases staleLabel subject previous <;> rfl

theorem staleLabel_eq_some_iff {subject : SubjectNode} {previous : Option String} {label : String} :
    staleLabel subject previous = some label ↔
      previous = some label ∧ label ≠ "" ∧ label ≠ subject.schema.text := by
  simp [staleLabel, Option.filter_eq_some_iff]

/-- **What is done to the labels of a subject, and when a generic one is touched.** Whatever the server
answers, the statements sent for a subject are the question for its schema, the removal of the label of
another schema that it had, and the write, or the first of these if one fails. The only label removed is
that of the previous schema, when it differs from the new one, and the only label added is that of the
new one. So the generic label of subjects stays and that of pages is not added exactly if no schema has
their name: the generic label of subjects goes with a schema of that name, and that of pages comes with
one. -/
theorem upsertSubject_relabels (s : Endpoint τ) (subject : SubjectNode) (c : Client τ) :
    let sent := statementsSent s (.perform (.upsertSubject subject)) c
    let previous := answeredSchema s subject.id c
    sent <+: statementsFor subject previous ∧
      (∀ label ∈ removedLabels sent,
        previous = some label ∧ label ≠ "" ∧ label ≠ subject.schema.text) ∧
      (∀ label ∈ addedLabels sent, label = subject.schema.text) ∧
      ((answer s (.perform (.upsertSubject subject)) c).1 = .ok () →
        sent = statementsFor subject previous ∧
        (subjectLabel ∈ removedLabels sent ↔
          previous = some subjectLabel ∧ subject.schema.text ≠ subjectLabel) ∧
        (pageLabel ∈ addedLabels sent ↔ subject.schema.text = pageLabel)) := by
  intro sent previous
  obtain ⟨hinitial, hall⟩ := statementsSent_upsertSubject s subject c
  refine ⟨hinitial, fun label hm => ?_, fun label hm => ?_, fun hok => ?_⟩
  · have hmem := (hinitial.sublist.filterMap _).subset hm
    rw [← removedLabels, removedLabels_statementsFor, Option.mem_toList] at hmem
    exact staleLabel_eq_some_iff.1 hmem
  · have hmem := (hinitial.sublist.filterMap _).subset hm
    rw [← addedLabels, addedLabels_statementsFor, List.mem_singleton] at hmem
    exact hmem
  · have hsent : sent = statementsFor subject previous := hall hok
    have hnamed : subjectLabel ≠ "" := by decide
    rw [hsent, removedLabels_statementsFor, addedLabels_statementsFor, Option.mem_toList,
      staleLabel_eq_some_iff, List.mem_singleton]
    exact ⟨rfl, by simp [hnamed, eq_comm], eq_comm⟩

def remembering (schema : String) : Endpoint Unit where
  outOfReach? _ := none
  reply _ _ server := (.table ⟨["schema"], [[.text schema]], none⟩, server)

def nodeOf (schema : String) : SubjectNode := ⟨⟨"ann"⟩, "Ann", ⟨schema⟩, ∅⟩

def ready : Client Unit := { server := (), inTransaction := true }

/-- A person who becomes an author loses the one label and gains the other. -/
theorem person_becomes_author :
    removedLabels (statementsSent (remembering "Person")
        (.perform (.upsertSubject (nodeOf "Author"))) ready) = ["Person"] ∧
      addedLabels (statementsSent (remembering "Person")
        (.perform (.upsertSubject (nodeOf "Author"))) ready) = ["Author"] := by
  have hwritten := (upsertSubject_relabels (remembering "Person") (nodeOf "Author") ready).2.2.2 rfl
  rw [hwritten.1, removedLabels_statementsFor, addedLabels_statementsFor]
  decide +kernel

/-- A subject that had a schema named like the generic label of subjects loses that label, and one whose
schema is named like that of pages gains it. -/
theorem generic_labels_touched :
    (¬∀ (s : Endpoint Unit) (subject : SubjectNode) (c : Client Unit),
      subjectLabel ∉ removedLabels (statementsSent s (.perform (.upsertSubject subject)) c)) ∧
    ¬∀ (s : Endpoint Unit) (subject : SubjectNode) (c : Client Unit),
      pageLabel ∉ addedLabels (statementsSent s (.perform (.upsertSubject subject)) c) := by
  constructor
  · intro h
    exact h (remembering "Subject") (nodeOf "Person") ready (by decide +kernel)
  · intro h
    exact h (remembering "Person") (nodeOf "Page") ready (by decide +kernel)

end Server
end WikiGraph
