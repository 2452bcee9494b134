import WikiGraph.Proofs.Cypher.QuotedName
import WikiGraph.Proofs.Graph.Computation
import WikiGraph.Server.Reading
import WikiGraph.Server.Transaction
/-!
# The statements sent to a server

Which statements a call sends depends on the kind of call alone (`formsOf`); what the call is about
stands in parameters and in quoted names, as does what the server answered before. With the fixed
words of statements this makes injection impossible: the words in code that a server is sent are those
of a few fixed texts (`sends_fixed_words`).
-/
namespace WikiGraph.Server

open Cypher Query

/-! ## Sending -/

theorem get_eq {τ : Type} (c : Client τ) : (get : ClientM τ (Client τ)) c = (.ok c, c) := rfl

/-- An operation is performed in an open transaction alone. -/
theorem answer_perform {τ : Type} (s : Endpoint τ) (op : Operation) (c : Client τ) :
    answer s (.perform op) c =
      (if c.inTransaction then performOpen s op else throw .transactionClosed : ClientM τ _) c :=
  StoreM.bind_of_ok _ (get_eq c)

/-- The statements among what `body` sends have a property. -/
def Sends {τ α : Type} (P : Statement → Prop) (body : ClientM τ α) : Prop :=
  ∀ c, ∃ requests, (body c).2.sent = c.sent ++ requests ∧
    ∀ statement, .run statement ∈ requests.map Prod.snd → P statement

namespace Sends

variable {τ α β : Type} {P : Statement → Prop} {body : ClientM τ α}

theorem nothing (h : ∀ c, (body c).2.sent = c.sent) : Sends P body := fun c =>
  ⟨[], by rw [h c, List.append_nil], fun _ hs => absurd hs List.not_mem_nil⟩

theorem pure (a : α) : Sends P (Pure.pure a : ClientM τ α) := nothing fun _ => rfl

theorem throw (e : GraphError) : Sends P (MonadExcept.throw e : ClientM τ α) := nothing fun _ => rfl

theorem mono {Q : Statement → Prop} (h : Sends P body) (hq : ∀ statement, P statement → Q statement) :
    Sends Q body := by
  intro c
  obtain ⟨requests, hsent, hp⟩ := h c
  exact ⟨requests, hsent, fun statement hs => hq statement (hp statement hs)⟩

theorem bind {next : α → ClientM τ β} (h : Sends P body) (hn : ∀ a, Sends P (next a)) :
    Sends P (body >>= next) := by
  intro c
  obtain ⟨requests, hsent, hp⟩ := h c
  rcases hb : body c with ⟨result, c'⟩
  rw [hb] at hsent
  cases result with
  | error e =>
    rw [StoreM.bind_of_error next hb]
    exact ⟨requests, hsent, hp⟩
  | ok a =>
    rw [StoreM.bind_of_ok next hb]
    obtain ⟨more, hsent', hp'⟩ := hn a c'
    refine ⟨requests ++ more, by rw [hsent', hsent, List.append_assoc], fun statement hs => ?_⟩
    rw [List.map_append, List.mem_append] at hs
    exact hs.elim (hp statement) (hp' statement)

theorem ite {p : Prop} [Decidable p] {alternative : ClientM τ α} (h : Sends P body)
    (ha : Sends P alternative) : Sends P (if p then body else alternative) := by
  by_cases hp : p
  · rwa [if_pos hp]
  · rwa [if_neg hp]

variable (s : Endpoint τ) (role : Role)

theorem send {request : Request} (h : ∀ statement, request = .run statement → P statement) :
    Sends P (send s role request) := by
  intro c
  unfold Server.send
  rw [StoreM.bind_of_ok _ (get_eq c)]
  cases s.outOfReach? c.server with
  | some reason => exact throw (unreachable reason) c
  | none =>
    refine ⟨[(role, request)], rfl, fun statement hs => h statement ?_⟩
    exact (List.mem_singleton.mp hs).symm

theorem control {request : Request} (name : String) (h : ∀ statement, request ≠ .run statement) :
    Sends P (sendControl s role name request) := by
  refine (send s role fun statement hr => absurd hr (h statement)).bind fun reply => ?_
  cases reply <;> exact nothing fun _ => rfl

theorem execute {statement : Statement} (h : P statement) : Sends P (execute s role statement) := by
  refine (send s role fun _ hr => Request.run.inj hr ▸ h).bind fun reply => ?_
  rcases reply with _ | _ | ⟨_, _, _ | _⟩ <;> exact nothing fun _ => rfl

theorem fetch {statement : Statement} (h : P statement) : Sends P (fetch s role statement) := by
  refine (send s role fun _ hr => Request.run.inj hr ▸ h).bind fun reply => ?_
  rcases reply with _ | _ | ⟨_, _, _ | _⟩ <;> exact nothing fun _ => rfl

end Sends

/-! ## Calls -/

/-- The statements that an operation may send, without the names in them. -/
def formsOf : Operation → List Form
  | .upsertPage _ => [.upsertPage]
  | .upsertSubject _ => [.schemaOfSubject, .removeLabel "", .upsertSubject ""]
  | .linkSubject _ _ _ => [.linkSubject]
  | .setMain _ _ _ => [.setMain]
  | .detachExcept _ _ => [.detachExcept]
  | .outgoing _ => [.outgoing]
  | .createRelation _ _ => [.createRelation ""]
  | .updateRelation _ _ => [.updateRelation]
  | .deleteRelation _ _ => [.deleteRelation]
  | .deletePage _ => [.deletePage]

variable {τ : Type} (s : Endpoint τ)

theorem sends_count {P : Statement → Prop} {form : Form} {parameters : List (String × Parameter)}
    (h : P ⟨form, parameters⟩) (column : String) : Sends P (count s form parameters column) :=
  (Sends.fetch s .writer h).bind fun _ => .pure _

theorem sends_upsertSubject (subject : SubjectNode) :
    Sends (·.form.unnamed ∈ formsOf (.upsertSubject subject)) (upsertSubject s subject) := by
  have hremove (old : String) (parameters : List (String × Parameter)) :
      Sends (·.form.unnamed ∈ formsOf (.upsertSubject subject))
        (executeText s (.removeLabel old) parameters) :=
    .execute s .writer (by simp [formsOf, Form.unnamed])
  have hwrite (parameters : List (String × Parameter)) :
      Sends (·.form.unnamed ∈ formsOf (.upsertSubject subject))
        (executeText s (.upsertSubject subject.schema.text) parameters) :=
    .execute s .writer (by simp [formsOf, Form.unnamed])
  refine (Sends.fetch s .writer (by simp [formsOf, Form.unnamed])).bind fun rows => ?_
  cases rows.head?.bind (·.text? "schema") with
  | none => exact (Sends.pure ()).bind fun _ => hwrite _
  | some old =>
    exact .ite ((hremove old _).bind fun _ => hwrite _) ((Sends.pure ()).bind fun _ => hwrite _)

theorem sends_performOpen (op : Operation) :
    Sends (·.form.unnamed ∈ formsOf op) (performOpen s op) := by
  cases op with
  | upsertSubject subject => exact sends_upsertSubject s subject
  | outgoing source =>
    refine (Sends.fetch s .writer ?_).bind fun rows => ?_
    · exact List.mem_cons_self
    · cases h : rows.mapM relationOfRow <;> exact .nothing fun _ => rfl
  | createRelation source relation =>
    refine (sends_count s ?_ _).bind fun _ => .pure _
    exact List.mem_cons_self
  | detachExcept page keep | deletePage page =>
    refine sends_count s ?_ _
    exact List.mem_cons_self
  | _ =>
    refine .execute s .writer ?_
    exact List.mem_cons_self

theorem sends_leave {P : Statement → Prop} : Sends P (leave : ClientM τ Unit) := by
  refine .nothing fun c => ?_
  unfold leave
  rw [StoreM.bind_of_ok _ (get_eq c)]
  split <;> rfl

theorem sends_answer (call : Call) :
    Sends (fun statement => ∃ op, call = .perform op ∧ statement.form.unnamed ∈ formsOf op)
      (answer s call) := by
  have hopened {P : Statement → Prop} (b : Bool) :
      Sends P (modify fun c => { c with inTransaction := b } : ClientM τ Unit) :=
    .nothing fun _ => rfl
  cases call with
  | start => exact (hopened false).bind fun _ =>
      (Sends.control s .writer _ (by simp)).bind fun _ => hopened true
  | perform op =>
    refine (Sends.nothing fun _ => rfl : Sends _ (get : ClientM τ (Client τ))).bind fun c => ?_
    exact .ite ((sends_performOpen s op).mono fun _ h => ⟨op, rfl, h⟩) (.throw _)
  | commit | rollback => exact sends_leave.bind fun _ => .control s .writer _ (by simp)

theorem sends_countNodes (label : String) :
    Sends (·.form.unnamed = .countNodes "") (countNodes s label) := by
  refine (Sends.fetch s .reader ?_).bind fun _ => .pure _
  rfl

/-- **No name can add a word to what a server is sent.** A quoted name is one identifier that reads
back as the name, and it has no part in the words around it. The words of every statement that a call
sends, or that counts nodes, are therefore those of one of a few texts, which neither the arguments
nor the answers of the server have a part in. -/
theorem sends_fixed_words :
    (∀ name, Reads (quote name) [.identifier (doubled name)] ∧ unquote? (quote name) = some name) ∧
    Function.Injective quote ∧
    (∀ name u v, regionAfter .code u = .code → u.getLast? ≠ some Query.backtick →
      v.head? ≠ some Query.backtick →
      codeWords (u ++ quote name ++ v) = codeWords u ++ codeWords v) ∧
    ∀ (τ : Type) (s : Endpoint τ),
      (∀ call, Sends (fun statement => ∃ op, call = .perform op ∧
          ∃ form ∈ formsOf op, statement.form.unnamed = form ∧
            codeWords statement.form.text = codeWords form.text)
        (answer s call)) ∧
      ∀ label, Sends (fun statement => statement.form.unnamed = .countNodes "" ∧
          codeWords statement.form.text = codeWords (Form.countNodes "").text)
        (countNodes s label) := by
  refine ⟨fun name => ⟨reads_quote name, unquote?_quote name⟩, quote_injective,
    fun name u v hu hl hv => codeWords_around_quote name hu hl hv, fun τ s => ⟨fun call => ?_,
    fun label => ?_⟩⟩
  · refine (sends_answer s call).mono ?_
    rintro statement ⟨op, hop, hform⟩
    exact ⟨op, hop, _, hform, rfl, statement.form.codeWords_text⟩
  · refine (sends_countNodes s label).mono fun statement hform => ⟨hform, ?_⟩
    rw [statement.form.codeWords_text, hform]

/-- A name made to close its own quotes and to delete what a query finds. -/
def closingName : List Char := "x`) DETACH DELETE n //".toList

theorem codeWords_around_closingName :
    codeWords ("MATCH (n:".toList ++ quote closingName ++ ") RETURN n".toList) =
      ["MATCH", "n", "RETURN", "n"].map String.toList := by
  rw [sends_fixed_words.2.2.1 closingName _ _ (by decide +kernel) (by decide) (by decide)]
  decide +kernel

end WikiGraph.Server
