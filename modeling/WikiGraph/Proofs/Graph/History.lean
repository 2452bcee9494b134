import Mathlib.Data.List.Basic
import Mathlib.Tactic.ByContra
import WikiGraph.Proofs.Graph.Integrity
/-!
# Histories of transactions

Transactions of one store in memory come one after the other, since each holds the store until it is
finished; one that is finished can still be called. A `Ledger` is a store with all transactions that
were started on it, and every call is answered by the store with the transaction it is made on at hand
(`Ledger.ask`). A run keeps a log of its moves and of whether each succeeded.

Read from the log alone, the committed contents are what the successful operations of the committed
transactions make of the empty graph, in the order of the commits. An invariant carries that along a
run (`Tracks`): the working copy of the one transaction that may be open is what its own operations make
of the committed contents. A transaction that was finished or dropped is closed for good (`Closed`).
-/
namespace WikiGraph

def Graph.applyAll (g : Graph) (ops : List Operation) : Graph :=
  ops.foldl (fun g op => (g.apply op).2) g

theorem Graph.applyAll_append (g : Graph) (ops more : List Operation) :
    g.applyAll (ops ++ more) = (g.applyAll ops).applyAll more := List.foldl_append

namespace Memory

/-- A store in memory and its transactions, in the order in which they were started. -/
structure Ledger where
  committed : Graph := .empty
  /-- What is left of each transaction: nothing, once it was dropped. -/
  transactions : List (Option MemoryTransaction) := []
  failsRelationWrites : Bool := false

/-- What can be done. A transaction is named by its place in the order of starts. -/
inductive Move where
  | start
  | perform (t : Nat) (op : Operation)
  | commit (t : Nat)
  | rollback (t : Nat)
  | drop (t : Nat)
  | failRelationWrites (fails : Bool)

/-- The transaction that is finished, or dropped, whether this succeeds or not. -/
def Move.ended? : Move → Option Nat
  | .commit t => some t
  | .rollback t => some t
  | .drop t => some t
  | _ => none

/-- A move that was made, and whether it was answered with success. -/
structure Entry where
  move : Move
  succeeded : Bool

namespace Ledger

/-- The store with one of the transactions at hand. -/
def hold (l : Ledger) (t : Nat) : Memory where
  committed := l.committed
  transaction := l.transactions[t]?.join
  failsRelationWrites := l.failsRelationWrites

def putBack (l : Ledger) (t : Nat) (m : Memory) : Ledger where
  committed := m.committed
  transactions := l.transactions.set t m.transaction
  failsRelationWrites := m.failsRelationWrites

/-- The answer to a call on one of the transactions, and the ledger after it. -/
def ask (l : Ledger) (t : Nat) (c : Call) : Except GraphError c.Answer × Ledger :=
  (((l.hold t).answer c).1, l.putBack t ((l.hold t).answer c).2)

def isFree (l : Ledger) : Bool :=
  l.transactions.all fun t => (t.bind MemoryTransaction.working).isNone

/-- Whether a move succeeds, and the ledger after it. No transaction is started while another one is
open. -/
def step (l : Ledger) : Move → Bool × Ledger
  | .start =>
    if l.isFree then
      (true, { l with
        transactions := l.transactions ++ [(l.hold l.transactions.length).start.transaction] })
    else (false, l)
  | .perform t op => ((l.ask t (.perform op)).1.isOk, (l.ask t (.perform op)).2)
  | .commit t => ((l.ask t .commit).1.isOk, (l.ask t .commit).2)
  | .rollback t => ((l.ask t .rollback).1.isOk, (l.ask t .rollback).2)
  | .drop t => (true, l.putBack t (l.hold t).drop)
  | .failRelationWrites fails => (true, { l with failsRelationWrites := fails })

def stepLogged (s : List Entry × Ledger) (move : Move) : List Entry × Ledger :=
  (s.1 ++ [⟨move, (s.2.step move).1⟩], (s.2.step move).2)

/-- The log of moves made one after the other on a new store, and the ledger after them. -/
def run (moves : List Move) : List Entry × Ledger := moves.foldl stepLogged ([], {})

end Ledger

/-! ## Reading a log -/

def Entry.operationOf? (t : Nat) : Entry → Option Operation
  | ⟨.perform u op, true⟩ => if u = t then some op else none
  | _ => none

def Entry.committed? : Entry → Option Nat
  | ⟨.commit t, true⟩ => some t
  | _ => none

def performed (log : List Entry) (t : Nat) : List Operation :=
  log.filterMap (Entry.operationOf? t)

def commits (log : List Entry) : List Nat := log.filterMap Entry.committed?

/-- The operations of the committed transactions, in the order of the commits. -/
def published (log : List Entry) : List Operation := (commits log).flatMap (performed log)

/-- Only a commit commits. -/
theorem Entry.eq_commit {move : Move} {succeeded : Bool} {t : Nat}
    (h : Entry.committed? ⟨move, succeeded⟩ = some t) : move = .commit t := by
  cases move with
  | commit u =>
    cases succeeded with
    | true => exact congrArg Move.commit (Option.some.inj h)
    | false => cases h
  | _ => cases h

theorem performed_concat (log : List Entry) (e : Entry) (t : Nat) :
    performed (log ++ [e]) t = performed log t ++ (e.operationOf? t).toList := by
  unfold performed
  rw [List.filterMap_append]
  cases h : e.operationOf? t <;> simp [h]

theorem commits_concat (log : List Entry) (e : Entry) :
    commits (log ++ [e]) = commits log ++ e.committed?.toList := by
  unfold commits
  rw [List.filterMap_append]
  cases h : e.committed? <;> simp [h]

/-- An entry of a transaction that is not committed adds nothing to what is published. -/
theorem published_concat {log : List Entry} (e : Entry)
    (h : ∀ t ∈ commits log, e.operationOf? t = none) :
    published (log ++ [e]) =
      published log ++ (e.committed?.toList).flatMap (performed (log ++ [e])) := by
  have hsame : (commits log).flatMap (performed (log ++ [e])) = published log := by
    refine List.flatMap_congr fun t ht => ?_
    rw [performed_concat, h t ht, Option.toList_none, List.append_nil]
  rw [published, commits_concat, List.flatMap_append, hsame]

/-- An entry that performs nothing and commits nothing. -/
structure Entry.Quiet (e : Entry) : Prop where
  operation : ∀ t, e.operationOf? t = none
  commit : e.committed? = none

namespace Entry.Quiet

variable {e : Entry} (h : e.Quiet) (log : List Entry)
include h

theorem performed (t : Nat) : performed (log ++ [e]) t = Memory.performed log t := by
  simp [performed_concat, h.operation t]

theorem commits : commits (log ++ [e]) = Memory.commits log := by
  simp [commits_concat, h.commit]

theorem published : published (log ++ [e]) = Memory.published log := by
  simp [published_concat e fun t _ => h.operation t, h.commit]

end Entry.Quiet

/-! ## Calls on a transaction -/

/-- An operation fails and changes nothing, or is applied to the working copy. -/
theorem perform_eq (m : Memory) (op : Operation) :
    (∃ e, m.perform op = (.error e, m)) ∨
    ∃ g m', m.working? = some g ∧ m.perform op = (.ok (g.apply op).1, m') ∧
      m'.committed = m.committed ∧ m'.working? = some (g.apply op).2 := by
  unfold perform
  split
  · exact .inl ⟨_, rfl⟩
  · rename_i t ht
    split
    · exact .inl ⟨_, rfl⟩
    · split
      · exact .inl ⟨_, rfl⟩
      · rename_i g hw
        exact .inr ⟨g, _, by simp [working?, ht, hw], rfl, rfl, rfl⟩

/-- Finishing fails and changes nothing, or finishes the open transaction. -/
theorem finish_eq (m : Memory) (effect : Graph → Graph → Graph) :
    (m.working? = none ∧ ∃ e, m.finish effect = (.error e, m)) ∨
    ∃ g m', m.working? = some g ∧ m.finish effect = (.ok (), m') ∧
      m'.committed = effect m.committed g ∧ m'.working? = none := by
  unfold finish
  split
  · rename_i g fails ht
    exact .inr ⟨g, _, by simp [working?, ht], rfl, rfl, rfl⟩
  · rename_i hn
    refine .inl ⟨?_, _, rfl⟩
    cases ht : m.transaction with
    | none => simp [working?, ht]
    | some t =>
      cases hw : t.working with
      | none => simp [working?, ht, hw]
      | some g => exact absurd (by rw [ht, ← hw]) (hn g t.failsRelationWrites)

namespace Ledger

variable {l l' : Ledger} {t u : Nat} {g : Graph} {working : Option Graph} {log : List Entry}

/-- The transaction is open, with a working copy. -/
def Open (l : Ledger) (t : Nat) (g : Graph) : Prop := (l.hold t).working? = some g

theorem Open.lt_length (h : l.Open t g) : t < l.transactions.length := by
  by_contra hn
  have hnone : l.transactions[t]? = none := List.getElem?_eq_none (by omega)
  simp [Open, hold, working?, hnone] at h

/-- Putting a transaction back as it was changes nothing. -/
theorem putBack_hold (l : Ledger) (t : Nat) : l.putBack t (l.hold t) = l := by
  have hset : l.transactions.set t l.transactions[t]?.join = l.transactions := by
    refine List.ext_getElem? fun i => ?_
    rw [List.getElem?_set]
    by_cases hi : t = i
    · subst hi
      rw [if_pos rfl]
      split
      · rename_i hlt
        simp [hlt]
      · rename_i hge
        exact (List.getElem?_eq_none (by omega)).symm
    · rw [if_neg hi]
  cases l
  simp_all [putBack, hold]

/-- No other transaction than one is touched, and that one is open with the given working copy, or
with none when it is closed. -/
structure Changes (l l' : Ledger) (t : Nat) (working : Option Graph) : Prop where
  length : l'.transactions.length = l.transactions.length
  self : ∀ g, l'.Open t g ↔ working = some g
  others : ∀ u g, u ≠ t → (l'.Open u g ↔ l.Open u g)

theorem changes_putBack (m : Memory) (ht : t < l.transactions.length) :
    l.Changes (l.putBack t m) t m.working? := by
  refine ⟨by simp [putBack], fun g => ?_, fun u g hu => ?_⟩
  · have hget : (l.transactions.set t m.transaction)[t]? = some m.transaction := by
      rw [List.getElem?_set, if_pos rfl, if_pos ht]
    simp [Open, hold, putBack, working?, hget]
  · have hget : (l.transactions.set t m.transaction)[u]? = l.transactions[u]? := by
      rw [List.getElem?_set, if_neg fun e => hu e.symm]
    simp [Open, hold, putBack, working?, hget]

/-- What is closed by a change was not open after all, and nothing else is opened. -/
theorem Changes.open_of_open (h : l.Changes l' t none) (hu : l'.Open u g) : l.Open u g := by
  by_cases e : u = t
  · subst e
    have hnone : none = some g := (h.self g).1 hu
    cases hnone
  · exact (h.others u g e).1 hu

/-- A free store has no open transaction. -/
theorem not_open_of_isFree (hf : l.isFree) : ¬l.Open t g := by
  intro h
  have hlt := h.lt_length
  have hget : l.transactions[t]? = some l.transactions[t] := List.getElem?_eq_getElem hlt
  have hnone := List.all_eq_true.1 hf _ (List.getElem_mem hlt)
  simp only [Open, hold, working?, hget, Option.join_some] at h
  rw [h] at hnone
  cases hnone

theorem ask_of_answer {c : Call} {reply : Except GraphError c.Answer} {m : Memory}
    (h : (l.hold t).answer c = (reply, m)) : l.ask t c = (reply, l.putBack t m) := by
  rw [ask, h]

theorem ask_of_refused {c : Call} {e : GraphError}
    (h : (l.hold t).answer c = (.error e, l.hold t)) : l.ask t c = (.error e, l) := by
  rw [ask_of_answer h, putBack_hold]

/-- What an operation does to the ledger. -/
theorem ask_perform (l : Ledger) (t : Nat) (op : Operation) :
    (∃ e, l.ask t (.perform op) = (.error e, l)) ∨
    ∃ g l', l.Open t g ∧ l.ask t (.perform op) = (.ok (g.apply op).1, l') ∧
      l'.committed = l.committed ∧ l.Changes l' t (some (g.apply op).2) := by
  rcases (l.hold t).perform_eq op with ⟨e, he⟩ | ⟨g, m, hg, hm, hcommitted, hworking⟩
  · exact .inl ⟨e, ask_of_refused he⟩
  · refine .inr ⟨g, l.putBack t m, hg, ask_of_answer hm, hcommitted, ?_⟩
    rw [← hworking]
    exact changes_putBack m (Open.lt_length hg)

/-- What finishing a transaction does to the ledger. -/
theorem putBack_finish (l : Ledger) (t : Nat) (effect : Graph → Graph → Graph) :
    ((∀ g, ¬l.Open t g) ∧ ∃ e, (l.hold t).finish effect = (.error e, l.hold t)) ∨
    ∃ g m, l.Open t g ∧ (l.hold t).finish effect = (.ok (), m) ∧
      m.committed = effect l.committed g ∧ l.Changes (l.putBack t m) t none := by
  rcases (l.hold t).finish_eq effect with ⟨hnone, e, he⟩ | ⟨g, m, hg, hm, hcommitted, hworking⟩
  · refine .inl ⟨fun g hg => ?_, e, he⟩
    rw [Open, hnone] at hg
    cases hg
  · refine .inr ⟨g, m, hg, hm, hcommitted, ?_⟩
    rw [← hworking]
    exact changes_putBack m (Open.lt_length hg)

theorem ask_commit (l : Ledger) (t : Nat) :
    ((∀ g, ¬l.Open t g) ∧ ∃ e, l.ask t .commit = (.error e, l)) ∨
    ∃ g l', l.Open t g ∧ l.ask t .commit = (.ok (), l') ∧ l'.committed = g ∧
      l.Changes l' t none := by
  rcases l.putBack_finish t fun _ working => working with
    ⟨hn, e, he⟩ | ⟨g, m, hg, hm, hcommitted, hchanges⟩
  · exact .inl ⟨hn, e, ask_of_refused he⟩
  · exact .inr ⟨g, l.putBack t m, hg, ask_of_answer hm, hcommitted, hchanges⟩

theorem ask_rollback (l : Ledger) (t : Nat) :
    ((∀ g, ¬l.Open t g) ∧ ∃ e, l.ask t .rollback = (.error e, l)) ∨
    ∃ g l', l.Open t g ∧ l.ask t .rollback = (.ok (), l') ∧ l'.committed = l.committed ∧
      l.Changes l' t none := by
  rcases l.putBack_finish t fun committed _ => committed with
    ⟨hn, e, he⟩ | ⟨g, m, hg, hm, hcommitted, hchanges⟩
  · exact .inl ⟨hn, e, ask_of_refused he⟩
  · exact .inr ⟨g, l.putBack t m, hg, ask_of_answer hm, hcommitted, hchanges⟩

/-- Dropping a transaction leaves the committed contents, and closes no other one. -/
theorem putBack_drop (l : Ledger) (t : Nat) :
    (l.putBack t (l.hold t).drop).committed = l.committed ∧
    l.Changes (l.putBack t (l.hold t).drop) t none := by
  refine ⟨rfl, ?_⟩
  by_cases ht : t < l.transactions.length
  · exact changes_putBack (l.hold t).drop ht
  · have hset : l.transactions.set t none = l.transactions :=
      List.set_eq_of_length_le (by omega)
    have hsame : l.putBack t (l.hold t).drop = l := by
      cases l
      simp_all [putBack, hold, drop]
    rw [hsame]
    refine ⟨rfl, fun g => ⟨fun hg => absurd hg.lt_length ht, fun h => ?_⟩, fun _ _ _ => Iff.rfl⟩
    cases h

/-- A transaction that is started on a free store is the only one open, with the committed contents. -/
theorem open_start (hf : l.isFree) (hg : (l.step .start).2.Open t g) :
    t = l.transactions.length ∧ g = l.committed := by
  have hnot : ¬l.Open t g := not_open_of_isFree hf
  rw [step, if_pos hf] at hg
  simp only [Open, hold, List.getElem?_append, List.getElem?_singleton] at hg
  by_cases hlt : t < l.transactions.length
  · rw [if_pos hlt] at hg
    exact absurd hg hnot
  · rw [if_neg hlt] at hg
    split at hg
    · exact ⟨by omega, (Option.some.inj hg).symm⟩
    · cases hg

/-- What a move can do to a ledger: the outcome of a step, and the ledger after it. -/
inductive Effect (l : Ledger) : Move → Bool × Ledger → Prop where
  | refuses {move : Move} (hended : ∀ t g, move.ended? = some t → ¬l.Open t g) :
    Effect l move (false, l)
  | starts {l' : Ledger} (hcommitted : l'.committed = l.committed)
    (hlength : l'.transactions.length = l.transactions.length + 1)
    (hopen : ∀ t g, l'.Open t g → t = l.transactions.length ∧ g = l.committed) :
    Effect l .start (true, l')
  | performs {t : Nat} {op : Operation} {g : Graph} {l' : Ledger} (hg : l.Open t g)
    (hcommitted : l'.committed = l.committed) (hchanges : l.Changes l' t (some (g.apply op).2)) :
    Effect l (.perform t op) (true, l')
  | commits {t : Nat} {g : Graph} {l' : Ledger} (hg : l.Open t g) (hcommitted : l'.committed = g)
    (hchanges : l.Changes l' t none) : Effect l (.commit t) (true, l')
  /-- A rollback or a drop. -/
  | forgets {t : Nat} {move : Move} {l' : Ledger} (hmove : move = .rollback t ∨ move = .drop t)
    (hcommitted : l'.committed = l.committed) (hchanges : l.Changes l' t none) :
    Effect l move (true, l')
  | sets (fails : Bool) :
    Effect l (.failRelationWrites fails) (true, { l with failsRelationWrites := fails })

/-- **What one move does.** -/
theorem effect_step (l : Ledger) (move : Move) : l.Effect move (l.step move) := by
  cases move with
  | start =>
    by_cases hf : l.isFree
    · have hstep : l.step .start = (true, (l.step .start).2) := by simp [step, hf]
      rw [hstep]
      exact .starts (by simp [step, hf]) (by simp [step, hf]) fun _ _ => open_start hf
    · have hstep : l.step .start = (false, l) := by simp [step, hf]
      rw [hstep]
      exact .refuses fun _ _ he => nomatch he
  | perform t op =>
    rcases l.ask_perform t op with ⟨e, he⟩ | ⟨g, l', hg, hl', hcommitted, hchanges⟩
    · simp only [step, he]
      exact .refuses fun _ _ he => nomatch he
    · simp only [step, hl']
      exact .performs hg hcommitted hchanges
  | commit t =>
    rcases l.ask_commit t with ⟨hn, e, he⟩ | ⟨g, l', hg, hl', hcommitted, hchanges⟩
    · simp only [step, he]
      exact .refuses fun u g hu => Option.some.inj hu ▸ hn g
    · simp only [step, hl']
      exact .commits hg hcommitted hchanges
  | rollback t =>
    rcases l.ask_rollback t with ⟨hn, e, he⟩ | ⟨g, l', hg, hl', hcommitted, hchanges⟩
    · simp only [step, he]
      exact .refuses fun u g hu => Option.some.inj hu ▸ hn g
    · simp only [step, hl']
      exact .forgets (.inl rfl) hcommitted hchanges
  | drop t =>
    obtain ⟨hcommitted, hchanges⟩ := l.putBack_drop t
    exact .forgets (.inr rfl) hcommitted hchanges
  | failRelationWrites fails => exact .sets fails

/-! ## The committed contents -/

/-- The log accounts for the ledger. -/
structure Tracks (log : List Entry) (l : Ledger) : Prop where
  committed : l.committed = Graph.empty.applyAll (published log)
  once : (commits log).Nodup
  working : ∀ t g, l.Open t g → g = l.committed.applyAll (performed log t) ∧ t ∉ commits log
  alone : ∀ t u g h, l.Open t g → l.Open u h → t = u
  unstarted : ∀ t, l.transactions.length ≤ t → performed log t = [] ∧ t ∉ commits log

/-- A quiet entry, with no transaction opened. -/
theorem Tracks.quiet (h : l.Tracks log) {e : Entry} (he : e.Quiet)
    (hcommitted : l'.committed = l.committed)
    (hlength : l'.transactions.length = l.transactions.length)
    (hopen : ∀ t g, l'.Open t g → l.Open t g) : l'.Tracks (log ++ [e]) := by
  refine ⟨?_, ?_, fun t g hg => ?_, fun t u g k hg hk => ?_, fun t ht => ?_⟩
  · rw [hcommitted, he.published, h.committed]
  · rw [he.commits]
    exact h.once
  · rw [hcommitted, he.performed, he.commits]
    exact h.working t g (hopen t g hg)
  · exact h.alone t u g k (hopen t g hg) (hopen u k hk)
  · rw [he.performed, he.commits]
    exact h.unstarted t (by omega)

/-- The transaction started last works on the committed contents. -/
theorem Tracks.start (h : l.Tracks log) (hcommitted : l'.committed = l.committed)
    (hlength : l'.transactions.length = l.transactions.length + 1)
    (hopen : ∀ t g, l'.Open t g → t = l.transactions.length ∧ g = l.committed) :
    l'.Tracks (log ++ [⟨.start, true⟩]) := by
  have he : Entry.Quiet ⟨.start, true⟩ := ⟨fun _ => rfl, rfl⟩
  refine ⟨?_, ?_, fun t g hg => ?_, fun t u g k hg hk => ?_, fun t ht => ?_⟩
  · rw [hcommitted, he.published, h.committed]
  · rw [he.commits]
    exact h.once
  · obtain ⟨rfl, rfl⟩ := hopen t g hg
    obtain ⟨hnothing, hnever⟩ := h.unstarted _ (Nat.le_refl _)
    rw [hcommitted, he.performed, he.commits, hnothing]
    exact ⟨rfl, hnever⟩
  · rw [(hopen t g hg).1, (hopen u k hk).1]
  · rw [he.performed, he.commits]
    exact h.unstarted t (by omega)

/-- An operation is applied to the working copy, and stands in the log. -/
theorem Tracks.perform (h : l.Tracks log) {op : Operation} (ht : l.Open t g)
    (hcommitted : l'.committed = l.committed) (hc : l.Changes l' t (some (g.apply op).2)) :
    l'.Tracks (log ++ [⟨.perform t op, true⟩]) := by
  obtain ⟨hworking, hnever⟩ := h.working t g ht
  have hother : ∀ u ≠ t, performed (log ++ [⟨.perform t op, true⟩]) u = performed log u := by
    intro u hu
    simp [performed_concat, Entry.operationOf?, hu.symm]
  have hself : performed (log ++ [⟨.perform t op, true⟩]) t = performed log t ++ [op] := by
    simp [performed_concat, Entry.operationOf?]
  have hcommits : commits (log ++ [⟨.perform t op, true⟩]) = commits log := by
    simp [commits_concat, Entry.committed?]
  have hpublished : published (log ++ [⟨.perform t op, true⟩]) = published log := by
    rw [published_concat]
    · simp [Entry.committed?]
    · intro u hu
      have hne : t ≠ u := fun e => hnever (e ▸ hu)
      simp [Entry.operationOf?, hne]
  have hopen : ∀ u k, l'.Open u k → u = t := fun u k hk => by
    by_contra hu
    exact hu (h.alone u t k g ((hc.others u k hu).1 hk) ht)
  refine ⟨?_, ?_, fun u k hk => ?_, fun u v j k hj hk => ?_, fun u hu => ?_⟩
  · rw [hcommitted, hpublished, h.committed]
  · rw [hcommits]
    exact h.once
  · obtain rfl := hopen u k hk
    obtain rfl : (g.apply op).2 = k := Option.some.inj ((hc.self k).1 hk)
    rw [hcommitted, hcommits, hself, Graph.applyAll_append, ← hworking]
    exact ⟨rfl, hnever⟩
  · rw [hopen u j hj, hopen v k hk]
  · have hlt : t < l.transactions.length := ht.lt_length
    rw [hc.length] at hu
    rw [hother u (by omega), hcommits]
    exact h.unstarted u hu

/-- The working copy becomes the committed contents, and no transaction is open then. -/
theorem Tracks.commit (h : l.Tracks log) (ht : l.Open t g) (hcommitted : l'.committed = g)
    (hc : l.Changes l' t none) : l'.Tracks (log ++ [⟨.commit t, true⟩]) := by
  obtain ⟨hworking, hnever⟩ := h.working t g ht
  have hperformed (u : Nat) : performed (log ++ [⟨.commit t, true⟩]) u = performed log u := by
    simp [performed_concat, Entry.operationOf?]
  have hcommits : commits (log ++ [⟨.commit t, true⟩]) = commits log ++ [t] := by
    simp [commits_concat, Entry.committed?]
  have hpublished : published (log ++ [⟨.commit t, true⟩]) = published log ++ performed log t := by
    rw [published_concat _ fun u _ => rfl]
    simp [Entry.committed?, hperformed]
  have hopen : ∀ u k, ¬l'.Open u k := by
    intro u k hk
    have hu : u = t := h.alone u t k g (hc.open_of_open hk) ht
    subst hu
    have hnone : none = some k := (hc.self k).1 hk
    cases hnone
  refine ⟨?_, ?_, fun u k hk => absurd hk (hopen u k), fun u _ k _ hk => absurd hk (hopen u k),
    fun u hu => ?_⟩
  · rw [hcommitted, hpublished, Graph.applyAll_append, ← h.committed, ← hworking]
  · rw [hcommits]
    refine List.nodup_append.2 ⟨h.once, by simp, fun u hu v hv => ?_⟩
    rw [List.mem_singleton.1 hv]
    exact fun e => hnever (e ▸ hu)
  · have hlt : t < l.transactions.length := ht.lt_length
    rw [hc.length] at hu
    obtain ⟨hnothing, hout⟩ := h.unstarted u hu
    rw [hperformed, hcommits]
    refine ⟨hnothing, fun hmem => ?_⟩
    rcases List.mem_append.1 hmem with hold | hnew
    · exact hout hold
    · have : u = t := List.mem_singleton.1 hnew
      omega

/-- **One move.** Every move leaves a ledger that its log accounts for. -/
theorem Tracks.step (h : l.Tracks log) (move : Move) :
    (l.step move).2.Tracks (log ++ [⟨move, (l.step move).1⟩]) := by
  generalize hs : l.step move = s
  have he : l.Effect move s := hs ▸ l.effect_step move
  cases he with
  | refuses hended =>
    have he : Entry.Quiet ⟨move, false⟩ := by
      cases move <;> exact ⟨fun _ => rfl, rfl⟩
    exact h.quiet he rfl rfl fun _ _ hg => hg
  | starts hcommitted hlength hopen => exact h.start hcommitted hlength hopen
  | performs hg hcommitted hchanges => exact h.perform hg hcommitted hchanges
  | commits hg hcommitted hchanges => exact h.commit hg hcommitted hchanges
  | forgets hmove hcommitted hchanges =>
    have he : Entry.Quiet ⟨move, true⟩ := by
      rcases hmove with rfl | rfl <;> exact ⟨fun _ => rfl, rfl⟩
    exact h.quiet he hcommitted hchanges.length fun _ _ hg => hchanges.open_of_open hg
  | sets fails => exact h.quiet ⟨fun _ => rfl, rfl⟩ rfl rfl fun _ _ hg => hg

theorem tracks_new : Tracks [] {} := by
  have hopen : ∀ t g, ¬({} : Ledger).Open t g := fun t g hg => by
    have hlt := hg.lt_length
    simp at hlt
  exact ⟨rfl, List.nodup_nil, fun t g hg => absurd hg (hopen t g),
    fun t _ g _ hg => absurd hg (hopen t g), fun t _ => ⟨rfl, List.not_mem_nil⟩⟩

/-- **A run.** By induction on the moves, each of which is one step. -/
theorem tracks_run (moves : List Move) : (run moves).2.Tracks (run moves).1 :=
  List.foldlRecOn moves stepLogged (motive := fun s => s.2.Tracks s.1) tracks_new
    fun _ h move _ => h.step move

/-! ## Closed transactions -/

/-- The transaction was started, and is open no more. -/
def Closed (l : Ledger) (t : Nat) : Prop := t < l.transactions.length ∧ ∀ g, ¬l.Open t g

/-- **A closed transaction answers every call with an error and changes nothing.** -/
theorem Closed.ask (h : l.Closed t) {c : Call} (hc : c ≠ .start) :
    ∃ e, l.ask t c = (.error e, l) := by
  cases c with
  | start => exact absurd rfl hc
  | perform op =>
    rcases l.ask_perform t op with he | ⟨g, l', hg, -⟩
    · exact he
    · exact absurd hg (h.2 g)
  | commit =>
    rcases l.ask_commit t with ⟨-, he⟩ | ⟨g, l', hg, -⟩
    · exact he
    · exact absurd hg (h.2 g)
  | rollback =>
    rcases l.ask_rollback t with ⟨-, he⟩ | ⟨g, l', hg, -⟩
    · exact he
    · exact absurd hg (h.2 g)

/-- No move opens a closed transaction again, or commits it. -/
theorem Closed.step (h : l.Closed t) (move : Move) :
    (l.step move).2.Closed t ∧ Entry.committed? ⟨move, (l.step move).1⟩ ≠ some t := by
  generalize hs : l.step move = s
  have he : l.Effect move s := hs ▸ l.effect_step move
  obtain ⟨hlt, hn⟩ := h
  cases he with
  | refuses hended =>
    refine ⟨⟨hlt, hn⟩, ?_⟩
    cases move <;> simp [Entry.committed?]
  | starts hcommitted hlength hopen =>
    refine ⟨⟨by rw [hlength]; omega, fun g hg => ?_⟩, by simp [Entry.committed?]⟩
    have : t = l.transactions.length := (hopen t g hg).1
    omega
  | @performs u op k l' hk hcommitted hchanges =>
    have hne : t ≠ u := fun e => hn k (e ▸ hk)
    refine ⟨⟨by rw [hchanges.length]; exact hlt, fun g hg => ?_⟩, by simp [Entry.committed?]⟩
    exact hn g ((hchanges.others t g hne).1 hg)
  | @commits u k l' hk hcommitted hchanges =>
    have hne : t ≠ u := fun e => hn k (e ▸ hk)
    refine ⟨⟨by rw [hchanges.length]; exact hlt, fun g hg => hn g (hchanges.open_of_open hg)⟩, ?_⟩
    simp [Entry.committed?, hne.symm]
  | forgets hmove hcommitted hchanges =>
    refine ⟨⟨by rw [hchanges.length]; exact hlt, fun g hg => hn g (hchanges.open_of_open hg)⟩, ?_⟩
    rcases hmove with rfl | rfl <;> simp [Entry.committed?]
  | sets fails => exact ⟨⟨hlt, hn⟩, by simp [Entry.committed?]⟩

/-- What finishes or drops a transaction closes it, succeed or fail. -/
theorem closed_of_ended (ht : t < l.transactions.length) {move : Move}
    (hm : move.ended? = some t) : (l.step move).2.Closed t := by
  generalize hs : l.step move = s
  have he : l.Effect move s := hs ▸ l.effect_step move
  have hchanged {l' : Ledger} (hc : l.Changes l' t none) : l'.Closed t := by
    refine ⟨hc.length ▸ ht, fun g hg => ?_⟩
    have hnone : none = some g := (hc.self g).1 hg
    cases hnone
  cases he with
  | refuses hended => exact ⟨ht, fun g => hended t g hm⟩
  | starts | performs | sets => cases hm
  | commits hg hcommitted hchanges =>
    obtain rfl := Option.some.inj hm
    exact hchanged hchanges
  | forgets hmove hcommitted hchanges =>
    rcases hmove with rfl | rfl
    all_goals
      obtain rfl := Option.some.inj hm
      exact hchanged hchanges

/-- **A finished transaction stays closed**, whatever is done afterwards, and the log tells of no
commit of it that it did not tell of before. -/
theorem Closed.run (h : l.Closed t) (log : List Entry) (more : List Move) :
    (more.foldl stepLogged (log, l)).2.Closed t ∧
    (t ∈ commits (more.foldl stepLogged (log, l)).1 → t ∈ commits log) := by
  induction more generalizing log l with
  | nil => exact ⟨h, fun hmem => hmem⟩
  | cons move more ih =>
    obtain ⟨hafter, hnot⟩ := h.step move
    obtain ⟨hclosed, hback⟩ := ih hafter (log ++ [⟨move, (l.step move).1⟩])
    refine ⟨hclosed, fun hmem => ?_⟩
    have hmem' := hback hmem
    rw [commits_concat] at hmem'
    rcases List.mem_append.1 hmem' with hold | hnew
    · exact hold
    · exact absurd (by simpa using hnew) hnot

end Ledger
end Memory
end WikiGraph
