import WikiGraph.Proofs.Graph.Comparable
import WikiGraph.Proofs.KeyedFold
import WikiGraph.Proofs.Sync.Transaction
/-!
# Steps that each touch the edges of one identifier

A plan is carried out on a graph, and one may as well work it out on a list. Either way each of its
steps touches the edges of one identifier alone and makes of them what `StepsOn` says. Since no
identifier has two steps, the edges of every declared identifier are what its own step makes of them,
and those of any other are gone, whatever edges there were (`StepsOn.settledBy`).
-/
namespace WikiGraph

/-! ## The edges of one identifier -/

def slot (id : RelationId) (edges : List Relation) : List Relation := edges.filter (·.id = id)

theorem mem_slot {id : RelationId} {edges : List Relation} {e : Relation} :
    e ∈ slot id edges ↔ e ∈ edges ∧ e.id = id := by
  simp [slot]

theorem mem_slot_self {edges : List Relation} {e : Relation} (h : e ∈ edges) :
    e ∈ slot e.id edges := mem_slot.2 ⟨h, rfl⟩

theorem slot_cons (id : RelationId) (e : Relation) (rest : List Relation) :
    slot id (e :: rest) = if e.id = id then e :: slot id rest else slot id rest := by
  by_cases h : e.id = id <;> simp [slot, h]

theorem slot_append (id : RelationId) (a b : List Relation) :
    slot id (a ++ b) = slot id a ++ slot id b := List.filter_append a b

theorem slot_singleton_self (r : Relation) : slot r.id [r] = [r] := by
  rw [slot_cons, if_pos rfl]
  rfl

theorem slot_singleton_of_ne {id : RelationId} {r : Relation} (h : id ≠ r.id) :
    slot id [r] = [] := by
  rw [slot_cons, if_neg h.symm]
  rfl

theorem slot_eq_nil_of_not_mem {id : RelationId} {edges : List Relation}
    (h : id ∉ edges.map Relation.id) : slot id edges = [] :=
  List.filter_eq_nil_iff.2 fun _ he hid =>
    h ((of_decide_eq_true hid) ▸ List.mem_map_of_mem he)

theorem slot_filter_self (id : RelationId) (edges : List Relation) :
    slot id (edges.filter (·.id ≠ id)) = [] :=
  slot_eq_nil_of_not_mem fun h => by
    obtain ⟨e, he, hid⟩ := List.mem_map.1 h
    exact of_decide_eq_true (List.mem_filter.1 he).2 hid

theorem slot_filter_of_ne {id other : RelationId} (h : id ≠ other) (edges : List Relation) :
    slot id (edges.filter (·.id ≠ other)) = slot id edges := by
  unfold slot
  rw [List.filter_filter]
  refine List.filter_congr fun e _ => ?_
  by_cases he : e.id = id <;> simp [he, h]

theorem slot_withProperties_of_ne {id other : RelationId} (h : id ≠ other) (properties : Properties)
    (edges : List Relation) :
    slot id (Graph.withProperties other properties edges) = slot id edges := by
  induction edges with
  | nil => rfl
  | cons e rest ih =>
    unfold Graph.withProperties
    split
    · rename_i he
      have hid : e.id ≠ id := fun e' => h (e'.symm.trans he)
      rw [slot_cons, slot_cons, if_neg hid, if_neg hid]
    · rw [slot_cons, slot_cons, ih]

theorem slot_withProperties_self (id : RelationId) (properties : Properties)
    (edges : List Relation) :
    slot id (Graph.withProperties id properties edges) =
      Graph.withProperties id properties (slot id edges) := by
  induction edges with
  | nil => rfl
  | cons e rest ih =>
    by_cases he : e.id = id
    · rw [Graph.withProperties, if_pos he, slot_cons, if_pos he, slot_cons, if_pos he,
        Graph.withProperties, if_pos he]
    · rw [Graph.withProperties, if_neg he, slot_cons, if_neg he, slot_cons, if_neg he, ih]

theorem find?_eq_head?_slot (id : RelationId) (edges : List Relation) :
    edges.find? (·.id = id) = (slot id edges).head? := List.head?_filter.symm

/-- The first edge of an identifier is the only one. -/
theorem slot_of_find? {id : RelationId} {edges : List Relation} {e : Relation}
    (hn : (edges.map Relation.id).Nodup) (h : edges.find? (·.id = id) = some e) :
    slot id edges = [e] := by
  induction edges with
  | nil => cases h
  | cons a rest ih =>
    rw [List.map_cons, List.nodup_cons] at hn
    by_cases ha : a.id = id
    · rw [List.find?_cons_of_pos (by simpa using ha)] at h
      rw [slot_cons, if_pos ha, slot_eq_nil_of_not_mem (ha ▸ hn.1), Option.some.inj h]
    · rw [List.find?_cons_of_neg (by simpa using ha)] at h
      rw [slot_cons, if_neg ha, ih hn.2 h]

theorem slot_of_find?_eq_none {id : RelationId} {edges : List Relation}
    (h : edges.find? (·.id = id) = none) : slot id edges = [] :=
  List.filter_eq_nil_iff.2 (List.find?_eq_none.1 h)

/-- Identifiers are distinct when each has at most one edge. -/
theorem nodup_of_slots {edges : List Relation} (h : ∀ id, (slot id edges).length ≤ 1) :
    (edges.map Relation.id).Nodup := by
  induction edges with
  | nil => exact List.nodup_nil
  | cons e rest ih =>
    rw [List.map_cons, List.nodup_cons]
    refine ⟨fun hm => ?_, ih fun id => ?_⟩
    · obtain ⟨e', he', hid⟩ := List.mem_map.1 hm
      have hp : 0 < (slot e.id rest).length :=
        List.length_pos_of_mem (mem_slot.2 ⟨he', hid⟩)
      have hl := h e.id
      rw [slot_cons, if_pos rfl, List.length_cons] at hl
      omega
    · have hl := h id
      rw [slot_cons] at hl
      split at hl
      · rw [List.length_cons] at hl
        omega
      · exact hl

/-! ## Plans -/

/-- The identifier whose edges a step touches. -/
def RelationAction.id : RelationAction → RelationId
  | .create r => r.id
  | .update r => r.id
  | .replace r => r.id
  | .delete id => id

namespace RelationPlan

variable {existing : List Relation} {target : RelationList} {r : Relation} {σ : Type}

theorem mem_undeclared {i : RelationId} :
    i ∈ undeclared existing target ↔
      i ∈ existing.map Relation.id ∧ i ∉ target.toList.map Relation.id := by
  unfold undeclared
  constructor
  · intro h
    have hm := List.mem_filter.1 (mem_of_mem_firstBy h)
    exact ⟨hm.1, of_decide_eq_true hm.2⟩
  · rintro ⟨h₁, h₂⟩
    have hm : i ∈ (existing.map Relation.id).filter (· ∉ target.toList.map Relation.id) :=
      List.mem_filter.2 ⟨h₁, decide_eq_true h₂⟩
    rw [← List.map_id (firstBy id _)]
    exact key_mem_firstBy hm

theorem nodup_undeclared (existing : List Relation) (target : RelationList) :
    (undeclared existing target).Nodup := by
  have h := nodup_map_firstBy id
    ((existing.map Relation.id).filter (· ∉ target.toList.map Relation.id))
  rwa [List.map_id] at h

theorem actionFor_id {a : RelationAction} (h : actionFor existing r = some a) : a.id = r.id := by
  unfold actionFor at h
  split at h
  · cases h
    rfl
  · split at h
    · cases h
      rfl
    · split at h
      · cases h
      · cases h
        rfl

/-- The state after the step of a declared relation, if it needs one, in a plan made for the edges
`existing`. -/
def settle (act : σ → RelationAction → σ) (existing : List Relation) (s : σ) (r : Relation) : σ :=
  match actionFor existing r with
  | some a => act s a
  | none => s

/-- A plan is carried out in two rounds: the deletions, and the steps of the declared relations. -/
theorem foldl_actions (act : σ → RelationAction → σ) (existing : List Relation)
    (target : RelationList) (s : σ) :
    (between existing target).actions.foldl act s =
      target.toList.foldl (settle act existing)
        ((undeclared existing target).foldl (fun s id => act s (.delete id)) s) := by
  rw [between, List.foldl_append, List.foldl_map, List.foldl_filterMap]
  congr 1
  funext s r
  unfold settle
  cases actionFor existing r <;> rfl

end RelationPlan

/-! ## Settled edges -/

/-- What becomes of the edges of a declared identifier, when `joinable` says that both ends of the
relation are there. If the first of them joins as declared, they all stay, and that one takes the
declared properties unless it has them. Otherwise they all go and the relation is added, if it can
be. -/
def Relation.settledEdges (joinable : Prop) [Decidable joinable] (r : Relation) :
    List Relation → List Relation
  | [] => if joinable then [r] else []
  | e :: rest =>
    if e.type ≠ r.type ∨ e.target ≠ r.target then if joinable then [r] else []
    else if e.properties.same r.properties then e :: rest
    else { e with properties := r.properties } :: rest

/-- What is left of edges when those of every declared identifier were settled and all others went;
`joinable` says of a relation that both its ends are there. -/
structure SettledBy (joinable : Relation → Prop) [DecidablePred joinable] (target : RelationList)
    (before after : List Relation) : Prop where
  settled : ∀ r ∈ target.toList, slot r.id after = r.settledEdges (joinable r) (slot r.id before)
  gone : ∀ id ∉ target.toList.map Relation.id, slot id after = []

/-- What a step makes of the edges that a state holds, while the state satisfies an invariant. -/
structure StepsOn {σ : Type} (act : σ → RelationAction → σ) (edges : σ → List Relation)
    (joinable : Relation → Prop) [DecidablePred joinable] (inv : σ → Prop) : Prop where
  keeps : ∀ s a, inv s → inv (act s a)
  other : ∀ s a id, id ≠ a.id → slot id (edges (act s a)) = slot id (edges s)
  /-- Without another edge of its identifier, a relation is added if it can be. -/
  create : ∀ s r, inv s → slot r.id (edges s) = [] →
    slot r.id (edges (act s (.create r))) = if joinable r then [r] else []
  /-- The first edge takes the properties, which it does not have. -/
  update : ∀ s r e rest, slot r.id (edges s) = e :: rest → ¬e.properties.same r.properties →
    slot r.id (edges (act s (.update r))) = { e with properties := r.properties } :: rest
  replace : ∀ s r, inv s →
    slot r.id (edges (act s (.replace r))) = if joinable r then [r] else []
  delete : ∀ s id, slot id (edges (act s (.delete id))) = []

namespace StepsOn

variable {σ : Type} {act : σ → RelationAction → σ} {edges : σ → List Relation}
  {joinable : Relation → Prop} [DecidablePred joinable] {inv : σ → Prop} {s : σ} {r : Relation}
  {existing : List Relation}

/-- **The step of a declared relation settles the edges of its identifier**, whatever was done for
other identifiers before. -/
theorem slot_settle (h : StepsOn act edges joinable inv) (hi : inv s)
    (hs : slot r.id (edges s) = slot r.id existing) :
    slot r.id (edges (RelationPlan.settle act existing s r)) =
      r.settledEdges (joinable r) (slot r.id existing) := by
  unfold RelationPlan.settle RelationPlan.actionFor
  rw [find?_eq_head?_slot]
  cases hold : slot r.id existing with
  | nil =>
    simp only [List.head?_nil, Relation.settledEdges]
    exact h.create s r hi (hs.trans hold)
  | cons edge rest =>
    have hslot : slot r.id (edges s) = edge :: rest := hs.trans hold
    simp only [List.head?_cons, Relation.settledEdges]
    by_cases hr : edge.type ≠ r.type ∨ edge.target ≠ r.target
    · rw [if_pos hr, if_pos hr]
      exact h.replace s r hi
    · rw [if_neg hr, if_neg hr]
      by_cases hp : edge.properties.same r.properties
      · rw [if_pos hp, if_pos hp]
        exact hslot
      · rw [if_neg hp, if_neg hp]
        exact h.update s r edge rest hslot hp

/-- The deletions of a plan empty the slots of undeclared identifiers and no other. -/
theorem keyedStep_delete (h : StepsOn act edges joinable inv) (ids : List RelationId) :
    KeyedStep (fun s id => act s (.delete id)) (fun id => id) (fun s id => slot id (edges s))
      (fun _ _ after => after = []) inv ids where
  keeps s id _ hi := h.keeps s (.delete id) hi
  own s id _ _ := h.delete s id
  other s id _ _ k hk := h.other s (.delete id) k hk

/-- The edges of each declared identifier are settled by its own step, if they are still the ones that
the plan was made for. -/
theorem keyedStep_settle (h : StepsOn act edges joinable inv) (existing : List Relation)
    (relations : List Relation) :
    KeyedStep (RelationPlan.settle act existing) Relation.id (fun s id => slot id (edges s))
      (fun r before after => before = slot r.id existing →
        after = r.settledEdges (joinable r) (slot r.id existing)) inv relations where
  keeps s r _ hi := by
    unfold RelationPlan.settle
    split
    · exact h.keeps s _ hi
    · exact hi
  own _ _ _ hi hs := h.slot_settle hi hs
  other s r _ _ id hid := by
    unfold RelationPlan.settle
    split
    · rename_i a ha
      exact h.other s a id (by rwa [RelationPlan.actionFor_id ha])
    · rfl

/-- **What a plan makes of any edges.** Those of every declared identifier are settled, and no edge of
another identifier is left. -/
theorem settledBy (h : StepsOn act edges joinable inv) (hi : inv s) (target : RelationList) :
    inv ((RelationPlan.between (edges s) target).actions.foldl act s) ∧
      SettledBy joinable target (edges s)
        (edges ((RelationPlan.between (edges s) target).actions.foldl act s)) := by
  rw [RelationPlan.foldl_actions]
  obtain ⟨hi₁, hgone, hkept⟩ := (h.keyedStep_delete _).foldl
    (by rw [List.map_id']; exact RelationPlan.nodup_undeclared (edges s) target) hi
  obtain ⟨hi₂, hdone, hrest⟩ := (h.keyedStep_settle (edges s) target.toList).foldl target.distinct hi₁
  rw [List.map_id'] at hkept
  refine ⟨hi₂, fun r hr => hdone r hr (hkept r.id fun hu => ?_), fun id hid => ?_⟩
  · exact (RelationPlan.mem_undeclared.1 hu).2 (List.mem_map_of_mem hr)
  · rw [hrest id hid]
    by_cases he : id ∈ (edges s).map Relation.id
    · exact hgone id (RelationPlan.mem_undeclared.2 ⟨he, hid⟩)
    · rw [hkept id fun hu => he (RelationPlan.mem_undeclared.1 hu).1]
      exact slot_eq_nil_of_not_mem he

end StepsOn
end WikiGraph
