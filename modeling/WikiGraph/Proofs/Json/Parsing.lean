import WikiGraph.Json.Reader
import WikiGraph.Proofs.Json.Tokens
/-!
# Reading a written value

The tokens of a value bring the machine that reads it behind that value, whatever stands around it
(`parses_tokensOf`), unless it is nested too deep. With the tokens of its text that makes the text
of a value read as the value: `parse?_render`.
-/
namespace WikiGraph.Json

mutual
/-- The number of arrays and objects that a value is nested in at most, itself included. -/
def depth : Json → Nat
  | array items => depthOfItems items + 1
  | object members => depthOfMembers members + 1
  | _ => 0

def depthOfItems : List Json → Nat
  | [] => 0
  | j :: rest => max j.depth (depthOfItems rest)

def depthOfMembers : List (String × Json) → Nat
  | [] => 0
  | (_, j) :: rest => max j.depth (depthOfMembers rest)
end

theorem depthOfItems_le_iff {items : List Json} {limit : Nat} :
    depthOfItems items ≤ limit ↔ ∀ j ∈ items, j.depth ≤ limit := by
  induction items with
  | nil => simp [depthOfItems]
  | cons j rest ih => rw [depthOfItems, Nat.max_le, ih, List.forall_mem_cons]

theorem depthOfMembers_le_iff {members : List (String × Json)} {limit : Nat} :
    depthOfMembers members ≤ limit ↔ ∀ m ∈ members, m.2.depth ≤ limit := by
  induction members with
  | nil => simp [depthOfMembers]
  | cons m rest ih => rw [depthOfMembers, Nat.max_le, ih, List.forall_mem_cons]

theorem readableItems_iff {items : List Json} :
    readableItems items ↔ ∀ j ∈ items, j.readable := by
  induction items with
  | nil => simp [readableItems]
  | cons j rest ih => simp [readableItems, ih]

theorem readableMembers_iff {members : List (String × Json)} :
    readableMembers members ↔ ∀ m ∈ members, m.2.readable := by
  induction members with
  | nil => simp [readableMembers]
  | cons m rest ih => simp [readableMembers, ih]

def Expectation.WantsValue (e : Expectation) : Prop := e = .value ∨ e = .itemOrEnd

def Expectation.WantsKey (e : Expectation) : Prop := e = .keyOrEnd ∨ e = .key

theorem closed_of_lt {stack : List Frame} (h : stack.length < depthLimit) (j : Json) :
    closed j stack = complete j stack := by
  rw [closed, if_neg (Nat.not_le.2 h)]

/-- A token that is a value or begins one is read as such wherever a value may stand. -/
theorem parseStep_value {stack : List Frame} {e : Expectation} (he : e.WantsValue) {t : Token}
    (ht : t ≠ .closeArray) : parseStep ⟨stack, e⟩ t = readValue stack t := by
  rcases he with rfl | rfl
  · rfl
  · cases t <;> first | rfl | exact absurd rfl ht

theorem parseStep_key {members : List (String × Json)} {sound : Bool} {stack : List Frame}
    {e : Expectation} (he : e.WantsKey) (k : String) :
    parseStep ⟨.object members sound :: stack, e⟩ (.string (some k)) =
      some ⟨.member members (sound && true) k :: stack, .colon⟩ := by
  rcases he with rfl | rfl <;> rfl

theorem depth_le_of_items {n : Nat} {j : Json} {rest : List Json}
    (h : n + 1 + depthOfItems (j :: rest) ≤ depthLimit) :
    n + 1 + j.depth ≤ depthLimit ∧ n + 1 + depthOfItems rest ≤ depthLimit := by
  rw [depthOfItems] at h
  omega

theorem depth_le_of_members {n : Nat} {k : String} {j : Json} {rest : List (String × Json)}
    (h : n + 1 + depthOfMembers ((k, j) :: rest) ≤ depthLimit) :
    n + 1 + j.depth ≤ depthLimit ∧ n + 1 + depthOfMembers rest ≤ depthLimit := by
  rw [depthOfMembers] at h
  omega

/-- A key and a colon, and then the tokens of the value. -/
theorem foldlM_keyed {e : Expectation} (he : e.WantsKey) (k : String) (j : Json)
    (members : List (String × Json)) (stack : List Frame) :
    (tokensOfMembers [(k, j)]).foldlM parseStep ⟨.object members true :: stack, e⟩ =
      j.tokensOf.foldlM parseStep ⟨.member members true k :: stack, .value⟩ := by
  have hcolon : parseStep ⟨.member members (true && true) k :: stack, .colon⟩ .colon =
      some ⟨.member members true k :: stack, .value⟩ := rfl
  have htokens : tokensOfMembers [(k, j)] = .string (some k) :: .colon :: j.tokensOf := by
    simp [tokensOfMembers]
  rw [htokens, foldlM_cons_of_some (parseStep_key he k), foldlM_cons_of_some hcolon]

mutual
/-- **The tokens of a value bring the machine behind the value.** -/
theorem parses_tokensOf : ∀ j : Json, j.readable → ∀ (stack : List Frame) (e : Expectation),
    e.WantsValue → stack.length + j.depth ≤ depthLimit →
    j.tokensOf.foldlM parseStep ⟨stack, e⟩ = complete j stack
  | null, _, stack, e, he, _ | bool b, _, stack, e, he, _ | number n, _, stack, e, he, _
  | string s, _, stack, e, he, _ => by
    rw [tokensOf, List.foldlM_cons, parseStep_value he (by simp), readValue]
    simp [Option.bind_eq_bind]
  | array items, hr, stack, e, he, hd => by
    rw [depth] at hd
    have hopen : parseStep ⟨stack, e⟩ .openArray = some ⟨.array [] :: stack, .itemOrEnd⟩ :=
      parseStep_value he (by simp)
    rw [tokensOf, List.append_assoc, List.singleton_append, foldlM_cons_of_some hopen,
      ← closed_of_lt (by omega)]
    by_cases hi : items = []
    · subst hi
      simp [Option.bind_eq_bind, tokensOfItems, parseStep, closeArray]
    · have hitems := parses_tokensOfItems items hr hi [] stack .itemOrEnd (.inr rfl) (by omega)
      rw [foldlM_append_of_some hitems]
      simp [Option.bind_eq_bind, parseStep, closeArray]
  | object members, hr, stack, e, he, hd => by
    rw [depth] at hd
    have hopen : parseStep ⟨stack, e⟩ .openObject = some ⟨.object [] true :: stack, .keyOrEnd⟩ :=
      parseStep_value he (by simp)
    rw [tokensOf, List.append_assoc, List.singleton_append, foldlM_cons_of_some hopen,
      ← closed_of_lt (by omega)]
    by_cases hm : members = []
    · subst hm
      simp [Option.bind_eq_bind, tokensOfMembers, parseStep, closeObject]
    · have hmembers := parses_tokensOfMembers members hr hm [] stack .keyOrEnd (.inl rfl) (by omega)
      rw [foldlM_append_of_some hmembers]
      simp [Option.bind_eq_bind, parseStep, closeObject]

/-- The tokens of items put them on the array that is open. -/
theorem parses_tokensOfItems : ∀ new : List Json, readableItems new → new ≠ [] →
    ∀ (items : List Json) (stack : List Frame) (e : Expectation), e.WantsValue →
    stack.length + 1 + depthOfItems new ≤ depthLimit →
    (tokensOfItems new).foldlM parseStep ⟨.array items :: stack, e⟩ =
      some ⟨.array (new.reverse ++ items) :: stack, .separator⟩
  | [], _, hne, _, _, _, _, _ => absurd rfl hne
  | [j], hr, _, items, stack, e, he, hd =>
    parses_tokensOf j (Bool.and_eq_true_iff.1 hr).1 (.array items :: stack) e he
      (depth_le_of_items hd).1
  | j :: k :: rest, hr, _, items, stack, e, he, hd => by
    have hfirst : j.tokensOf.foldlM parseStep ⟨.array items :: stack, e⟩ =
        some ⟨.array (j :: items) :: stack, .separator⟩ :=
      parses_tokensOf j (Bool.and_eq_true_iff.1 hr).1 (.array items :: stack) e he
        (depth_le_of_items hd).1
    have hcomma : parseStep ⟨.array (j :: items) :: stack, .separator⟩ .comma =
        some ⟨.array (j :: items) :: stack, .value⟩ := rfl
    have hrest := parses_tokensOfItems (k :: rest) (Bool.and_eq_true_iff.1 hr).2
      (List.cons_ne_nil k rest) (j :: items) stack .value (.inl rfl) (depth_le_of_items hd).2
    have htokens : tokensOfItems (j :: k :: rest) =
        j.tokensOf ++ .comma :: tokensOfItems (k :: rest) := by
      simp [tokensOfItems]
    rw [htokens, foldlM_append_of_some hfirst, foldlM_cons_of_some hcomma, hrest]
    simp

/-- The tokens of members put them on the object that is open. -/
theorem parses_tokensOfMembers : ∀ new : List (String × Json), readableMembers new → new ≠ [] →
    ∀ (members : List (String × Json)) (stack : List Frame) (e : Expectation), e.WantsKey →
    stack.length + 1 + depthOfMembers new ≤ depthLimit →
    (tokensOfMembers new).foldlM parseStep ⟨.object members true :: stack, e⟩ =
      some ⟨.object (new.reverse ++ members) true :: stack, .separator⟩
  | [], _, hne, _, _, _, _, _ => absurd rfl hne
  | [(k, j)], hr, _, members, stack, e, he, hd => by
    have hvalue := parses_tokensOf j (Bool.and_eq_true_iff.1 hr).1
      (.member members true k :: stack) .value (.inl rfl) (depth_le_of_members hd).1
    exact (foldlM_keyed he k j members stack).trans hvalue
  | (k, j) :: m :: rest, hr, _, members, stack, e, he, hd => by
    have hvalue := parses_tokensOf j (Bool.and_eq_true_iff.1 hr).1
      (.member members true k :: stack) .value (.inl rfl) (depth_le_of_members hd).1
    have hfirst : (tokensOfMembers [(k, j)]).foldlM parseStep ⟨.object members true :: stack, e⟩ =
        some ⟨.object ((k, j) :: members) true :: stack, .separator⟩ :=
      (foldlM_keyed he k j members stack).trans hvalue
    have hcomma : parseStep ⟨.object ((k, j) :: members) true :: stack, .separator⟩ .comma =
        some ⟨.object ((k, j) :: members) true :: stack, .key⟩ := rfl
    have hrest := parses_tokensOfMembers (m :: rest) (Bool.and_eq_true_iff.1 hr).2
      (List.cons_ne_nil m rest) ((k, j) :: members) stack .key (.inr rfl) (depth_le_of_members hd).2
    have htokens : tokensOfMembers ((k, j) :: m :: rest) =
        tokensOfMembers [(k, j)] ++ .comma :: tokensOfMembers (m :: rest) := by
      simp [tokensOfMembers]
    rw [htokens, foldlM_append_of_some hfirst, foldlM_cons_of_some hcomma, hrest]
    simp
end

theorem ofTokens?_tokensOf {j : Json} (hr : j.readable) (hd : j.depth ≤ depthLimit) :
    ofTokens? j.tokensOf = some j := by
  rw [ofTokens?, parses_tokensOf j hr [] .value (.inl rfl) (by simpa using hd), complete,
    Option.bind_some]

/-- **The text of a value is read as the value**, if nothing in it is unreadable, it is not nested
too deep and its numbers read back. -/
theorem parse?_render {j : Json} (hr : j.readable) (hd : j.depth ≤ depthLimit)
    (hn : ∀ n ∈ j.numbers, n.ReadsBack) : parse? j.render = some j := by
  rw [parse?, tokens?_render hr hn, Option.bind_some, ofTokens?_tokensOf hr hd]

end WikiGraph.Json
