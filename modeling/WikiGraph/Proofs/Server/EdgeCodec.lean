import WikiGraph.Binary64.Rounding
import WikiGraph.Proofs.KeyedFold
import WikiGraph.Proofs.Page.Relations
import WikiGraph.Proofs.Sync.Idempotence
import WikiGraph.Proofs.Server.Sent
/-!
# Edges written and read back

The properties of an edge go out as a map, with the identifier under a key of its own, and come back as
the entries of a map in any order. A driver reads an entry by typed getters that are tried one after the
other, so what is read depends on which of them succeed (`Getters.Faithful`). What was written is read
back, but for a property under the key of the identifier; so a server that has the relations of a
subject already is asked for them, and for nothing else.
-/
namespace WikiGraph.Server

open Cypher

/-! ## Getters -/

/-- The getters of a driver, each for one type of values. -/
structure Getters where
  boolean : Cell → Option Bool
  integer : Cell → Option Int64
  float : Cell → Option Binary64
  text : Cell → Option String

/-- Truth values, integers and texts are got from cells of their kind alone. A float is got from a float,
and may be got from an integer too. -/
structure Getters.Faithful (driver : Getters) : Prop where
  boolean : ∀ cell b, driver.boolean cell = some b ↔ cell = .boolean b
  integer : ∀ cell n, driver.integer cell = some n ↔ cell = .integer n
  text : ∀ cell s, driver.text cell = some s ↔ cell = .text s
  float : ∀ x, driver.float (.float x) = some x
  number : ∀ cell x, driver.float cell = some x → (∃ n, cell = .integer n) ∨ cell = .float x

namespace Getters

/-- The scalar in a cell, by the first getter that succeeds. -/
def scalar? (driver : Getters) (cell : Cell) : Option Scalar :=
  (driver.boolean cell).map .boolean <|> (driver.integer cell).map .integer <|>
    (driver.float cell).map .float <|> (driver.text cell).map .text

/-- The relation that an edge stands for, with its entries read by the getters. -/
def relationOfEdge (driver : Getters) (type : String) (entries : List (String × Cell))
    (target : String) : Except GraphError Relation :=
  match ((entries.find? (·.1 = relationIdKey)).map (·.2)).bind driver.text with
  | none => .error (.serialization "Relation without string id")
  | some id => .ok {
      id := ⟨id⟩
      type := ⟨type⟩
      target := ⟨target⟩
      properties := entries.foldl (addEntry driver.scalar?) ∅ }

variable {driver : Getters}

theorem Faithful.text_eq (h : driver.Faithful) : driver.text = Cell.text? := by
  funext cell
  refine Option.ext fun s => ?_
  rw [h.text]
  cases cell <;> simp [Cell.text?]

/-- Tried in their order, faithful getters find the scalar that is in a cell, and none where there is
none. In particular an integer is found to be an integer before it can be taken for a float. -/
theorem Faithful.scalar?_eq (h : driver.Faithful) : driver.scalar? = Cell.scalar? := by
  funext cell
  have hboolean (hn : ∀ b, cell ≠ .boolean b) : driver.boolean cell = none :=
    Option.eq_none_iff_forall_ne_some.2 fun b hb => hn b ((h.boolean cell b).1 hb)
  have hinteger (hn : ∀ n, cell ≠ .integer n) : driver.integer cell = none :=
    Option.eq_none_iff_forall_ne_some.2 fun n hb => hn n ((h.integer cell n).1 hb)
  have hfloat (hn : ∀ n, cell ≠ .integer n) (hx : ∀ x, cell ≠ .float x) : driver.float cell = none :=
    Option.eq_none_iff_forall_ne_some.2 fun x hb =>
      (h.number cell x hb).elim (fun ⟨n, e⟩ => hn n e) (hx x)
  have htext (hn : ∀ s, cell ≠ .text s) : driver.text cell = none :=
    Option.eq_none_iff_forall_ne_some.2 fun s hb => hn s ((h.text cell s).1 hb)
  unfold scalar?
  cases cell with
  | boolean b =>
    rw [(h.boolean _ b).2 rfl]
    rfl
  | integer n =>
    rw [hboolean (by simp), (h.integer _ n).2 rfl]
    rfl
  | float x =>
    rw [hboolean (by simp), hinteger (by simp), h.float x]
    rfl
  | text s =>
    rw [hboolean (by simp), hinteger (by simp), hfloat (by simp) (by simp), (h.text _ s).2 rfl]
    rfl
  | null | list | map | edge =>
    rw [hboolean (by simp), hinteger (by simp), hfloat (by simp) (by simp), htext (by simp)]
    rfl

/-- What an edge stands for does not depend on the driver. -/
theorem Faithful.relationOfEdge_eq (h : driver.Faithful) : driver.relationOfEdge = Server.relationOfEdge := by
  funext type entries target
  rw [relationOfEdge, h.text_eq, h.scalar?_eq]
  rfl

end Getters

/-! ## The entries of an edge -/

def storedCell : Stored → Cell
  | .one s => .ofScalar s
  | .many scalars => .list (scalars.map .ofScalar)

def entriesOf : Parameter → List (String × Cell)
  | .map m => m.map fun p => (p.1, storedCell p.2)
  | _ => []

theorem entriesOf_edgeParameter (r : Relation) :
    entriesOf (edgeParameter r) = cellsOf (edgeProperties r) := by
  simp [entriesOf, edgeParameter, cellsOf, storedCell]

theorem keys_cellsOf (m : Properties) : (cellsOf m).map Prod.fst = m.keys := by
  rw [cellsOf, List.map_map, ← Std.ExtTreeMap.map_fst_toList_eq_keys]
  rfl

theorem mem_cellsOf {m : Properties} {name : String} {cell : Cell} :
    (name, cell) ∈ cellsOf m ↔ ∃ s, m[name]? = some s ∧ cell = .ofScalar s := by
  simp only [cellsOf, List.mem_map, Prod.mk.injEq, Prod.exists,
    Std.ExtTreeMap.mem_toList_iff_getElem?_eq_some]
  constructor
  · rintro ⟨name, s, hs, rfl, rfl⟩
    exact ⟨s, hs, rfl⟩
  · rintro ⟨s, hs, rfl⟩
    exact ⟨name, s, hs, rfl, rfl⟩

/-- An entry becomes the property of its name. -/
theorem keyedStep_entry (entries : List (String × Cell)) :
    KeyedStep (addEntry Cell.scalar?) Prod.fst (fun m name => m[name]?)
      (fun e before after =>
        after = if e.1 = relationIdKey then before else e.2.scalar?.or before)
      (fun _ => True) entries := by
  refine ⟨fun _ _ _ _ => trivial, fun m e _ _ => ?_, fun m e _ _ k hk => ?_⟩
  · by_cases hid : e.1 = relationIdKey
    · simp [addEntry, hid]
    · cases hs : e.2.scalar? <;> simp [addEntry, hid, hs]
  · by_cases hid : e.1 = relationIdKey
    · simp [addEntry, hid]
    · cases hs : e.2.scalar? with
      | none => simp [addEntry, hid, hs]
      | some s => simp [addEntry, hid, hs, Std.ExtTreeMap.getElem?_insert, Ne.symm hk]

/-- Of entries with distinct names each is read by itself. -/
theorem getElem?_propertiesOfEdge {entries : List (String × Cell)}
    (hn : (entries.map Prod.fst).Nodup) :
    (∀ e ∈ entries, (propertiesOfEdge entries)[e.1]? =
      if e.1 = relationIdKey then none else e.2.scalar?) ∧
    ∀ name ∉ entries.map Prod.fst, (propertiesOfEdge entries)[name]? = none := by
  obtain ⟨-, hown, hother⟩ := (keyedStep_entry entries).foldl hn (s := ∅) trivial
  refine ⟨fun e he => (hown e he).trans ?_, fun name hname => (hother name hname).trans ?_⟩
  · simp
  · simp

/-- **Properties are read back from entries in any order**, but for one under the key of the
identifier. -/
theorem propertiesOfEdge_of_perm {m : Properties} {entries : List (String × Cell)}
    (h : entries.Perm (cellsOf m)) : propertiesOfEdge entries = m.erase relationIdKey := by
  have hkeys : (entries.map Prod.fst).Perm m.keys := keys_cellsOf m ▸ h.map Prod.fst
  have hdistinct : (entries.map Prod.fst).Nodup := hkeys.nodup_iff.2 Std.ExtTreeMap.nodup_keys
  obtain ⟨hown, hother⟩ := getElem?_propertiesOfEdge hdistinct
  refine Std.ExtTreeMap.ext_getElem? fun name => ?_
  rw [Std.ExtTreeMap.getElem?_erase]
  cases hm : m[name]? with
  | none =>
    have hname : name ∉ entries.map Prod.fst := by
      rw [hkeys.mem_iff, Std.ExtTreeMap.mem_keys, Std.ExtTreeMap.mem_iff_isSome_getElem?, hm]
      simp
    rw [hother name hname, ite_self]
  | some s =>
    have hentry : (name, Cell.ofScalar s) ∈ entries := h.mem_iff.2 (mem_cellsOf.2 ⟨s, hm, rfl⟩)
    rw [hown _ hentry]
    by_cases hid : name = relationIdKey
    · simp [hid]
    · simp [hid, Ne.symm hid]

theorem getElem?_edgeProperties_id (r : Relation) :
    (edgeProperties r)[relationIdKey]? = some (.text r.id.text) := by
  simp [edgeProperties]

theorem erase_edgeProperties (r : Relation) :
    (edgeProperties r).erase relationIdKey = r.properties.erase relationIdKey := by
  refine Std.ExtTreeMap.ext_getElem? fun name => ?_
  rw [edgeProperties, Std.ExtTreeMap.getElem?_erase, Std.ExtTreeMap.getElem?_erase,
    Std.ExtTreeMap.getElem?_insert]
  split <;> simp_all

theorem idOfEdge?_of_perm {r : Relation} {entries : List (String × Cell)}
    (h : entries.Perm (cellsOf (edgeProperties r))) : idOfEdge? entries = some r.id.text := by
  have hid : (relationIdKey, Cell.text r.id.text) ∈ entries :=
    h.mem_iff.2 (mem_cellsOf.2 ⟨_, getElem?_edgeProperties_id r, rfl⟩)
  unfold idOfEdge?
  cases hf : entries.find? (·.1 = relationIdKey) with
  | none =>
    have hno := List.find?_eq_none.1 hf _ hid
    simp at hno
  | some e =>
    have hkey : e.1 = relationIdKey := by simpa using List.find?_some hf
    have hmem : (relationIdKey, e.2) ∈ cellsOf (edgeProperties r) :=
      hkey ▸ h.mem_iff.1 (List.mem_of_find?_eq_some hf)
    obtain ⟨s, hs, hcell⟩ := mem_cellsOf.1 hmem
    obtain rfl : Scalar.text r.id.text = s :=
      Option.some.inj ((getElem?_edgeProperties_id r).symm.trans hs)
    simp [hcell, Cell.ofScalar, Cell.text?]

/-- **A relation is read back as it was written**, without a property under the key of the
identifier. -/
theorem relationOfEdge_of_perm {r : Relation} {entries : List (String × Cell)}
    (h : entries.Perm (cellsOf (edgeProperties r))) :
    relationOfEdge r.type.text entries r.target.text = .ok r.withoutIdKey := by
  rw [relationOfEdge, idOfEdge?_of_perm h, propertiesOfEdge_of_perm h, erase_edgeProperties]
  rfl

/-! ## Rows -/

/-- A row carries a relation: its edge, with entries in any order, and its target. -/
def Carries (row : Row) (r : Relation) : Prop :=
  ∃ entries, row.cell? "r" = some (.edge r.type.text entries) ∧
    entries.Perm (entriesOf (edgeParameter r)) ∧ row.text? "target" = some r.target.text

theorem relationOfRow_of_carries {row : Row} {r : Relation} (h : Carries row r) :
    relationOfRow row = .ok r.withoutIdKey := by
  obtain ⟨entries, hedge, hentries, htarget⟩ := h
  rw [entriesOf_edgeParameter] at hentries
  rw [relationOfRow, hedge, htarget]
  exact relationOfEdge_of_perm hentries

theorem mapM_relationOfRow {rows : List Row} {edges : List Relation}
    (h : List.Forall₂ Carries rows edges) (hn : ∀ e ∈ edges, relationIdKey ∉ e.properties) :
    rows.mapM relationOfRow = .ok edges := by
  induction h with
  | nil => rfl
  | cons hrow _ ih =>
    have hedge := Relation.withoutIdKey_of_not_mem (hn _ List.mem_cons_self)
    have hrest := ih fun e he => hn e (List.mem_cons_of_mem _ he)
    rw [List.mapM_cons, relationOfRow_of_carries hrow, hrest, hedge]
    rfl

/-! ## Reconciling what is there already -/

/-- Edges that are the declared relations, in any order, show them. -/
theorem showsRelations_of_perm {edges : List Relation} {target : RelationList}
    (h : edges.Perm target.toList) (hc : ∀ r ∈ target.toList, r.properties.IsComparable) :
    ShowsRelations (fun _ => True) target.toList edges where
  distinct := (h.map Relation.id).nodup_iff.2 target.distinct
  declared e he := ⟨e, h.mem_iff.1 he, Relation.same_self (hc e (h.mem_iff.1 he)), trivial⟩
  present r hr _ := ⟨r, h.mem_iff.2 hr, Relation.same_self (hc r hr)⟩

theorem between_of_perm {edges : List Relation} {target : RelationList}
    (h : edges.Perm target.toList) (hc : ∀ r ∈ target.toList, r.properties.IsComparable) :
    RelationPlan.between edges target = { actions := [], unchanged := target.size } := by
  have hshown := showsRelations_of_perm h hc
  have haction : ∀ r ∈ target.toList, RelationPlan.actionFor edges r = none := fun r hr => by
    rw [Graph.actionFor_of_shows hshown hr, if_pos trivial]
  have hnothing : target.toList.filterMap (RelationPlan.actionFor edges) = [] :=
    List.filterMap_eq_nil_iff.2 haction
  have hall : target.toList.countP (fun r => (RelationPlan.actionFor edges r).isNone) =
      target.size :=
    List.countP_eq_length.2 fun r hr => by rw [haction r hr, Option.isNone_none]
  rw [RelationPlan.between, Graph.undeclared_eq_nil hshown, hnothing, hall]
  rfl

variable {τ : Type} {s : Endpoint τ} {c : Client τ} {after : τ}

/-- A statement that a server in reach answers with a table. -/
theorem fetch_of_table {role : Role} {statement : Cypher.Statement} {table : Table}
    (hreach : s.outOfReach? c.server = none)
    (hreply : s.reply role (.run statement) c.server = (.table table, after))
    (hend : table.ending = none) :
    fetch s role statement c =
      (.ok table.named, { c with server := after, sent := c.sent ++ [(role, .run statement)] }) := by
  have hsend : send s role (.run statement) c =
      (.ok (.table table), { c with server := after, sent := c.sent ++ [(role, .run statement)] }) := by
    unfold send
    rw [StoreM.bind_of_ok _ (get_eq c), hreach]
    simp only [hreply]
    rfl
  unfold fetch
  rw [StoreM.bind_of_ok _ hsend]
  simp only [hend]
  rfl

def outgoingStatement (source : SubjectId) : Cypher.Statement :=
  ⟨.outgoing, [textParameter "id" source.text]⟩

theorem outgoing_of_carries {source : SubjectId} {table : Table} {edges : List Relation}
    (hopen : c.inTransaction = true) (hreach : s.outOfReach? c.server = none)
    (hreply : s.reply .writer (.run (outgoingStatement source)) c.server = (.table table, after))
    (hend : table.ending = none) (hrows : List.Forall₂ Carries table.named edges)
    (hn : ∀ e ∈ edges, relationIdKey ∉ e.properties) :
    (store s).outgoing source c =
      (.ok edges, { c with
        server := after
        sent := c.sent ++ [(.writer, .run (outgoingStatement source))] }) := by
  have hperform : (store s).outgoing source c = performOpen s (.outgoing source) c :=
    (answer_perform s (.outgoing source) c).trans (by rw [if_pos hopen])
  have hfetch : fetchText s .outgoing [textParameter "id" source.text] c =
      (.ok table.named, { c with
        server := after
        sent := c.sent ++ [(.writer, .run (outgoingStatement source))] }) :=
    fetch_of_table hreach hreply hend
  rw [hperform]
  unfold performOpen
  refine (StoreM.bind_of_ok _ hfetch).trans ?_
  simp only [mapM_relationOfRow hrows hn]
  rfl

/-- **Edges are read back as they were written, and then left alone.**

1. What an edge stands for does not depend on the driver, as long as its getters are faithful. The edge
   that a relation was written as, with its properties returned in any order, stands for that relation,
   but for a property under the key of the identifier.
2. When a server has the declared relations of a subject in this form, in any order of rows, a
   reconciliation sends it the question for them and nothing else, and counts every one as unchanged. -/
theorem edges_read_back_and_left_alone :
    (∀ driver : Getters, driver.Faithful → driver.relationOfEdge = relationOfEdge ∧
      ∀ (r : Relation) (entries : List (String × Cell)),
        entries.Perm (entriesOf (edgeParameter r)) →
        driver.relationOfEdge r.type.text entries r.target.text = .ok r.withoutIdKey) ∧
    ∀ (τ : Type) (s : Endpoint τ) (c : Client τ) (source : SubjectId) (target : RelationList)
      (table : Table) (edges : List Relation) (after : τ),
      c.inTransaction = true → s.outOfReach? c.server = none →
      s.reply .writer (.run (outgoingStatement source)) c.server = (.table table, after) →
      table.ending = none → List.Forall₂ Carries table.named edges → edges.Perm target.toList →
      (∀ r ∈ target.toList, r.properties.IsComparable) →
      reconcileRelations (store s) source target c =
        (.ok { unchanged := target.size }, { c with
          server := after
          sent := c.sent ++ [(.writer, .run (outgoingStatement source))] }) := by
  constructor
  · intro driver hfaithful
    refine ⟨hfaithful.relationOfEdge_eq, fun r entries hentries => ?_⟩
    rw [hfaithful.relationOfEdge_eq]
    exact relationOfEdge_of_perm (entriesOf_edgeParameter r ▸ hentries)
  · intro τ s c source target table edges after hopen hreach hreply hend hrows hperm hc
    have hn : ∀ e ∈ edges, relationIdKey ∉ e.properties := fun e he =>
      target.unreserved e (hperm.mem_iff.1 he)
    unfold reconcileRelations
    rw [StoreM.bind_of_ok _ (outgoing_of_carries hopen hreach hreply hend hrows hn),
      between_of_perm hperm hc]
    rfl

/-- A driver that gets a float from an integer, too. -/
def generous : Getters where
  boolean := Cell.boolean?
  integer cell := match cell with
    | .integer n => some n
    | _ => none
  float cell := match cell with
    | .float x => some x
    | .integer n => some (.ofInt n.toInt)
    | _ => none
  text := Cell.text?

theorem faithful_generous : generous.Faithful where
  boolean cell b := by cases cell <;> simp [generous, Cell.boolean?]
  integer cell n := by cases cell <;> simp [generous]
  text cell s := by cases cell <;> simp [generous, Cell.text?]
  float x := rfl
  number cell x h := by
    cases cell with
    | integer n => exact .inl ⟨n, rfl⟩
    | float y => exact .inr (congrArg Cell.float (Option.some.inj h))
    | _ => cases h

/-- A relation with the number one as an integer and as a float, and with a property under the key of
the identifier. -/
def numbered : Relation where
  id := ⟨"r"⟩
  type := ⟨"FRIEND"⟩
  target := ⟨"bob"⟩
  properties := (((∅ : Properties).insert "rank" (.integer 1)).insert "weight"
    (.float (.ofNat 1))).insert "id" (.text "mine")

/-- A server that has nothing but that relation, with its properties from the last to the first. -/
def holding : Endpoint Unit where
  outOfReach? _ := none
  reply _ _ server := (.table {
    columns := ["r", "target"]
    rows := [[.edge "FRIEND" (entriesOf (edgeParameter numbered.withoutIdKey)).reverse,
      .text "bob"]] }, server)

/-- The integer comes back as an integer, and the relation that is there is not written again. -/
theorem numbered_read_back :
    generous.relationOfEdge "FRIEND" (entriesOf (edgeParameter numbered)).reverse "bob" =
      .ok numbered.withoutIdKey ∧
    reconcileRelations (store holding) ⟨"ann"⟩ (.ofList [numbered])
        { server := (), inTransaction := true } =
      (.ok { unchanged := 1 }, {
        server := (), inTransaction := true
        sent := [(.writer, .run (outgoingStatement ⟨"ann"⟩))] }) := by
  obtain ⟨hcodec, hreconcile⟩ := edges_read_back_and_left_alone
  refine ⟨(hcodec generous faithful_generous).2 numbered _ (List.reverse_perm _), ?_⟩
  have hrow : Carries [("r", .edge "FRIEND" (entriesOf (edgeParameter numbered.withoutIdKey)).reverse),
      ("target", .text "bob")] numbered.withoutIdKey :=
    ⟨_, rfl, List.reverse_perm _, rfl⟩
  have hnumbers : ∀ r ∈ (RelationList.ofList [numbered]).toList, ∀ entry ∈ r.properties.toList,
      entry.2.isComparable := by decide +kernel
  exact hreconcile Unit holding _ ⟨"ann"⟩ (.ofList [numbered]) _ [numbered.withoutIdKey] () rfl rfl
    rfl rfl (.cons hrow .nil) (.refl _) fun r hr => Properties.isComparable_of_toList (hnumbers r hr)

end WikiGraph.Server
