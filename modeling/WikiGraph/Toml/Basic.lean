import WikiGraph.Binary64.Basic
/-!
# TOML tables

A document is a table that grows by entries and headers. An entry puts a value under a key of the
table that was opened last, or, under a dotted key, into a table inside it. A header opens a table.
No key is set twice and no table is opened twice; a table that was only passed on the way to another
one may still be opened, and dotted keys lead into no table that was opened.
-/
namespace WikiGraph

/-- How a table came to be. -/
inductive TableOrigin where
  /-- Passed on the way to another table. -/
  | implied
  /-- Made by a dotted key. -/
  | dotted
  /-- Opened by a header. -/
  | opened
  /-- Written as a value, and not to be entered again. -/
  | complete
deriving DecidableEq, Repr

/-- A TOML value. -/
inductive Toml where
  | string (s : String)
  | integer (n : Int)
  | float (x : Binary64)
  | boolean (b : Bool)
  /-- A date, a time or both, in the usual form. -/
  | moment (s : String)
  | list (items : List Toml)
  | table (origin : TableOrigin) (members : List (String × Toml))
  /-- Tables opened one after the other under one name, the last one first. -/
  | tables (items : List (List (String × Toml)))

namespace Toml

/-- The members of a table, in the order in which their keys were first set. -/
abbrev Members := List (String × Toml)

def change (key : String) (value : Toml) (members : Members) : Members :=
  members.map fun m => if m.1 = key then (key, value) else m

/-- The members after `f` has changed those of the table at the end of a path. Tables that are not
there are made on the way; of several tables under one name the last is entered. `f` is told how the
table came to be. -/
def within (dotted : Bool) (f : TableOrigin → Members → Option Members) :
    List String → TableOrigin → Members → Option Members
  | [], origin, members => f origin members
  | key :: path, _, members =>
    match members.lookup key with
    | none =>
      let origin : TableOrigin := if dotted then .dotted else .implied
      (within dotted f path origin []).map fun inner => members ++ [(key, .table origin inner)]
    | some (.table origin inner) =>
      if origin = .complete ∨ (dotted ∧ origin = .opened) then none
      else (within dotted f path origin inner).map fun inner =>
        change key (.table origin inner) members
    | some (.tables (last :: before)) =>
      (within dotted f path .opened last).map fun last =>
        change key (.tables (last :: before)) members
    | some _ => none

def add? (key : String) (value : Toml) (members : Members) : Option Members :=
  if (members.lookup key).isSome then none else some (members ++ [(key, value)])

/-- The members of an open table with one more entry, whose key is the end of a path. Where a path
leads to a table, dotted keys must have made it. -/
def enter? (path : List String) (key : String) (value : Toml) (members : Members) :
    Option Members :=
  within true (fun origin inner =>
    if !path.isEmpty ∧ origin ≠ .dotted then none else add? key value inner) path .opened members

/-- The members of a document with a table opened under the key at the end of a path. -/
def open? (path : List String) (key : String) (document : Members) : Option Members :=
  within false (fun _ members =>
    match members.lookup key with
    | none => some (members ++ [(key, .table .opened [])])
    | some (.table .implied inner) => some (change key (.table .opened inner) members)
    | some _ => none) path .opened document

/-- The members of a document with one more table of several under the key at the end of a path. -/
def openAnother? (path : List String) (key : String) (document : Members) : Option Members :=
  within false (fun _ members =>
    match members.lookup key with
    | none => some (members ++ [(key, .tables [[]])])
    | some (.tables items) => some (change key (.tables ([] :: items)) members)
    | some _ => none) path .opened document

/-- A document and the path to the table that was opened last. -/
structure Document where
  members : Members := []
  opened : List String := []

/-- The document with one more entry in the table that was opened last. -/
def Document.enter? (d : Document) (path : List String) (key : String) (value : Toml) :
    Option Document :=
  (within false (fun _ inner => Toml.enter? path key value inner) d.opened .opened d.members).map
    fun members => { d with members }

end Toml
end WikiGraph
