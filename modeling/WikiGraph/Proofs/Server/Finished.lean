import WikiGraph.Proofs.Graph.History
import WikiGraph.Proofs.Server.Sent
/-!
# Finished transactions

What becomes of a transaction when it was finished. In memory, its operations are part of the committed
contents if it was committed, as a whole and at the place of its commit, and are nowhere to be seen
otherwise; on a server it is the server's business what it made of the requests. In both stores the
transaction is over with the first attempt to finish it, even one that fails: it answers with errors
from then on, and a server is sent nothing more in it.
-/
namespace WikiGraph

namespace Server

variable {τ : Type} (s : Endpoint τ) {c : Client τ}

theorem leave_of_open (h : c.inTransaction = true) :
    (leave : ClientM τ Unit) c = (.ok (), { c with inTransaction := false }) := by
  unfold leave
  rw [StoreM.bind_of_ok _ (get_eq c), if_pos h]
  rfl

theorem leave_of_closed (h : c.inTransaction = false) :
    (leave : ClientM τ Unit) c = (.error .transactionClosed, c) := by
  unfold leave
  rw [StoreM.bind_of_ok _ (get_eq c), if_neg (by simp [h])]
  rfl

/-- No request opens or closes a transaction by itself. -/
theorem inTransaction_send (role : Role) (request : Request) :
    (send s role request c).2.inTransaction = c.inTransaction := by
  unfold send
  rw [StoreM.bind_of_ok _ (get_eq c)]
  cases s.outOfReach? c.server <;> rfl

theorem inTransaction_sendControl (role : Role) (name : String) (request : Request) :
    (sendControl s role name request c).2.inTransaction = c.inTransaction := by
  have hsend : (send s role request c).2.inTransaction = c.inTransaction :=
    inTransaction_send s role request
  unfold sendControl
  rcases h : send s role request c with ⟨e | reply, c'⟩ <;> rw [h] at hsend
  · rw [StoreM.bind_of_error _ h]
    exact hsend
  · rw [StoreM.bind_of_ok _ h]
    cases reply <;> exact hsend

/-- Whatever comes of the attempt to finish a transaction, it is over. -/
theorem inTransaction_finish {call : Call} (hcall : call = .commit ∨ call = .rollback) :
    (answer s call c).2.inTransaction = false := by
  have hfinish (name : String) (request : Request) :
      ((leave >>= fun _ => sendControl s .writer name request : ClientM τ Unit) c).2.inTransaction =
        false := by
    cases h : c.inTransaction with
    | true =>
      rw [StoreM.bind_of_ok _ (leave_of_open h)]
      exact inTransaction_sendControl s .writer name request
    | false =>
      rw [StoreM.bind_of_error _ (leave_of_closed h)]
      exact h
  rcases hcall with rfl | rfl
  · exact hfinish "COMMIT" .commit
  · exact hfinish "ROLLBACK" .rollback

/-- A transaction that is over answers every call with an error; nothing is sent for it. -/
theorem answer_of_closed (h : c.inTransaction = false) {call : Call} (hcall : call ≠ .start) :
    answer s call c = (.error .transactionClosed, c) := by
  cases call with
  | start => exact absurd rfl hcall
  | perform op =>
    rw [answer_perform, if_neg (by simp [h])]
    rfl
  | commit | rollback => exact StoreM.bind_of_error _ (leave_of_closed h)

end Server

namespace Memory.Ledger

/-- **The log decides what is visible, and a finished transaction is over.**

1. Whatever was done to a store in memory, its committed contents are what the successful operations of
   the committed transactions make of the empty graph, in the order of the commits, each transaction
   taken once and as a whole.
2. After an attempt to commit a transaction or to roll it back, or after it was dropped, every call on
   it is answered with an error and changes nothing, whatever else is done in between. It is committed
   only if it already was, or by that attempt.
3. The same holds of a transaction on a server, whatever the server made of the attempt, and nothing is
   sent for the further calls. -/
theorem transactions_isolated :
    (∀ moves, (run moves).2.committed = Graph.empty.applyAll (published (run moves).1) ∧
      (commits (run moves).1).Nodup) ∧
    (∀ (before : List Move) (ending : Move) (more : List Move) (t : Nat),
      ending.ended? = some t → t < (run before).2.transactions.length →
      (t ∈ commits (run (before ++ ending :: more)).1 →
        t ∈ commits (run before).1 ∨ ending = .commit t) ∧
      ∀ c ≠ Call.start, ∃ e, (run (before ++ ending :: more)).2.ask t c =
        (.error e, (run (before ++ ending :: more)).2)) ∧
    ∀ (τ : Type) (s : Server.Endpoint τ) (c : Server.Client τ) (ending : Call),
      ending = .commit ∨ ending = .rollback →
      ∀ c' : Server.Client τ, c'.inTransaction = (Server.answer s ending c).2.inTransaction →
      ∀ call ≠ Call.start, Server.answer s call c' = (.error .transactionClosed, c') := by
  refine ⟨fun moves => ⟨(tracks_run moves).committed, (tracks_run moves).once⟩, ?_, ?_⟩
  · intro before ending more t hended ht
    have hrun : run (before ++ ending :: more) =
        more.foldl stepLogged (stepLogged (run before) ending) := by
      rw [run, List.foldl_append, List.foldl_cons]
      rfl
    have hclosed : (stepLogged (run before) ending).2.Closed t := closed_of_ended ht hended
    obtain ⟨hafter, hback⟩ := hclosed.run (stepLogged (run before) ending).1 more
    rw [hrun]
    refine ⟨fun hmem => ?_, fun c hc => hafter.ask hc⟩
    have hmem' := hback hmem
    rw [stepLogged, commits_concat] at hmem'
    rcases List.mem_append.1 hmem' with hold | hnew
    · exact .inl hold
    · exact .inr (Entry.eq_commit (by simpa using hnew))
  · intro τ s c ending hending c' hc' call hcall
    exact Server.answer_of_closed s (hc'.trans (Server.inTransaction_finish s hending)) hcall

def person (name : String) : SubjectNode := ⟨⟨name⟩, name, ⟨"Person"⟩, ∅⟩

/-- Ann is written and committed. Bob is written next, where edges cannot be. -/
def bobPending : List Move :=
  [.start, .perform 0 (.upsertSubject (person "ann")), .commit 0, .failRelationWrites true, .start,
    .perform 1 (.upsertSubject (person "bob")),
    .perform 1 (.createRelation ⟨"ann"⟩ ⟨⟨"r"⟩, ⟨"FRIEND"⟩, ⟨"bob"⟩, ∅⟩)]

def failing : Server.Endpoint Unit where
  outOfReach? _ := none
  reply _ _ server := (.failure ⟨"Neo.TransientError", "unavailable"⟩, server)

/-- Bob is rolled back and then called on again: Ann alone is there, and nobody hears of it. A failed
commit is the end of a transaction, too. -/
theorem bob_rolled_back :
    (run (bobPending ++ [.rollback 1, .commit 1])).2.committed =
      Graph.empty.applyAll [.upsertSubject (person "ann")] ∧
    1 ∉ commits (run (bobPending ++ [.rollback 1, .commit 1])).1 ∧
    (∃ e, (run (bobPending ++ [.rollback 1, .commit 1])).2.ask 1 .commit =
      (.error e, (run (bobPending ++ [.rollback 1, .commit 1])).2)) ∧
    Server.answer failing .rollback
        (Server.answer failing .commit { server := (), inTransaction := true }).2 =
      (.error .transactionClosed,
        (Server.answer failing .commit { server := (), inTransaction := true }).2) := by
  have hpublished : published (run (bobPending ++ [.rollback 1, .commit 1])).1 =
      [.upsertSubject (person "ann")] := by decide +kernel
  obtain ⟨hvisible, hover, hserver⟩ := transactions_isolated
  obtain ⟨hnever, hask⟩ := hover bobPending (.rollback 1) [.commit 1] 1 rfl (by decide +kernel)
  refine ⟨hpublished ▸ (hvisible _).1, fun hmem => ?_, hask .commit (by decide), ?_⟩
  · have hold : 1 ∉ commits (run bobPending).1 := by decide +kernel
    have hother : Move.rollback 1 ≠ .commit 1 := by simp
    exact (hnever hmem).elim hold hother
  · exact hserver Unit failing _ .commit (.inl rfl) _ rfl .rollback (by decide)

end Memory.Ledger
end WikiGraph
