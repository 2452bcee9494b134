import WikiGraph.Graph.Store
/-!
# Computations in a store

A computation that meets an error stops there, and a caught error goes to its handler: one equation
for each way that the first part of a computation can end. A transaction of its own ends in one of four
ways: it is not started, its work fails, it is not committed, or it is committed.
-/
namespace WikiGraph

namespace StoreM

variable {σ α β : Type} {m m' : σ} {a : α} {e : GraphError}

theorem bind_of_ok {body : StoreM σ α} (next : α → StoreM σ β) (h : body m = (.ok a, m')) :
    (body >>= next) m = next a m' := by
  show (StateT.bind body (ExceptT.bindCont next)) m = _
  simp only [StateT.bind, h]
  rfl

theorem bind_of_error {body : StoreM σ α} (next : α → StoreM σ β) (h : body m = (.error e, m')) :
    (body >>= next) m = (.error e, m') := by
  show (StateT.bind body (ExceptT.bindCont next)) m = _
  simp only [StateT.bind, h]
  rfl

theorem tryCatch_of_ok {body : StoreM σ α} (handler : GraphError → StoreM σ α)
    (h : body m = (.ok a, m')) : (tryCatch body handler : StoreM σ α) m = (.ok a, m') := by
  simp only [tryCatch, tryCatchThe, MonadExceptOf.tryCatch, ExceptT.tryCatch, ExceptT.mk, bind,
    StateT.bind, h]
  rfl

theorem tryCatch_of_error {body : StoreM σ α} (handler : GraphError → StoreM σ α)
    (h : body m = (.error e, m')) : (tryCatch body handler : StoreM σ α) m = handler e m' := by
  simp only [tryCatch, tryCatchThe, MonadExceptOf.tryCatch, ExceptT.tryCatch, ExceptT.mk, bind,
    StateT.bind, h]

end StoreM

namespace Store

variable {σ α : Type} {store : Store σ} {body : StoreM σ α} {s s₁ s₂ s₃ : σ} {a : α}
  {u v : Unit} {e : GraphError} {reply : Except GraphError Unit}

theorem transact_of_not_started (hs : store.start s = (.error e, s₁)) :
    store.transact body s = (.error e, s₁) := StoreM.bind_of_error _ hs

theorem transact_of_committed (hs : store.start s = (.ok u, s₁)) (hb : body s₁ = (.ok a, s₂))
    (hc : store.commit s₂ = (.ok v, s₃)) : store.transact body s = (.ok a, s₃) := by
  unfold transact
  rw [StoreM.bind_of_ok _ hs, StoreM.bind_of_ok _ (StoreM.tryCatch_of_ok _ hb)]
  exact StoreM.bind_of_ok _ hc

theorem transact_of_not_committed (hs : store.start s = (.ok u, s₁)) (hb : body s₁ = (.ok a, s₂))
    (hc : store.commit s₂ = (.error e, s₃)) : store.transact body s = (.error e, s₃) := by
  unfold transact
  rw [StoreM.bind_of_ok _ hs, StoreM.bind_of_ok _ (StoreM.tryCatch_of_ok _ hb)]
  exact StoreM.bind_of_error _ hc

/-- Whatever comes of the rollback, the failure of the work is the one passed on. -/
theorem transact_of_failed (hs : store.start s = (.ok u, s₁)) (hb : body s₁ = (.error e, s₂))
    (hr : store.rollback s₂ = (reply, s₃)) : store.transact body s = (.error e, s₃) := by
  have hback : (tryCatch store.rollback fun _ => pure () : StoreM σ Unit) s₂ = (.ok (), s₃) := by
    cases reply with
    | ok _ => exact StoreM.tryCatch_of_ok _ hr
    | error _ => exact StoreM.tryCatch_of_error _ hr
  unfold transact
  rw [StoreM.bind_of_ok _ hs]
  refine StoreM.bind_of_error _ ((StoreM.tryCatch_of_error _ hb).trans ?_)
  exact StoreM.bind_of_ok _ hback

end Store
end WikiGraph
