import WikiGraph.Value
/-!
# Statements

A subject makes statements about its properties. A `StatementList` holds one statement for each
property it mentions; a later statement about a property takes the place of the earlier one.
-/
namespace WikiGraph

/-- One assertion about a property of a subject. -/
structure Statement where
  property : String
  propertyType : String
  value : Option Value
deriving DecidableEq

/-- A list of statements with `s` in the place of the first one about the same property, or at the
end when there is none. -/
def Statement.putInto (s : Statement) : List Statement → List Statement
  | [] => [s]
  | t :: rest => if t.property = s.property then s :: rest else t :: s.putInto rest

theorem Statement.map_property_putInto (s : Statement) (l : List Statement) :
    (s.putInto l).map Statement.property =
      if s.property ∈ l.map Statement.property then l.map Statement.property
      else l.map Statement.property ++ [s.property] := by
  induction l with
  | nil => simp [putInto]
  | cons t rest ih =>
    by_cases h : t.property = s.property
    · simp [putInto, h]
    · have h' : s.property ≠ t.property := fun e => h e.symm
      simp only [putInto, h, if_false, List.map_cons, ih, List.mem_cons, h', false_or]
      split <;> simp

/-- Statements in order, at most one for each property. -/
structure StatementList where
  toList : List Statement
  distinct : (toList.map Statement.property).Nodup

namespace StatementList

def empty : StatementList := ⟨[], by simp⟩

/-- Adds a statement, replacing in place an earlier one about the same property
(`StatementList::insert`). -/
def insert (l : StatementList) (s : Statement) : StatementList where
  toList := s.putInto l.toList
  distinct := by
    rw [Statement.map_property_putInto]
    split
    · exact l.distinct
    · rename_i h
      rw [List.nodup_append]
      refine ⟨l.distinct, by simp, ?_⟩
      intro a ha b hb hab
      simp only [List.mem_singleton] at hb
      exact h (hb ▸ hab ▸ ha)

/-- The list after adding statements one by one. -/
def ofList (statements : List Statement) : StatementList := statements.foldl insert empty

/-- The statement about a property (`StatementList::get`). -/
def get? (l : StatementList) (property : String) : Option Statement :=
  l.toList.find? (·.property = property)

def size (l : StatementList) : Nat := l.toList.length

def isEmpty (l : StatementList) : Bool := l.toList.isEmpty

/-- Every relation that some statement holds, in the order of the statements
(`TypedRelationList::from_statements`). -/
def relations (l : StatementList) : RelationList :=
  RelationList.ofList <| l.toList.flatMap fun s =>
    match s.value with
    | some (.relations rs) => rs
    | _ => []

end StatementList
end WikiGraph
