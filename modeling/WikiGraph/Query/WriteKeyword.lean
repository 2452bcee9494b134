import WikiGraph.Text.CaseForm
/-!
# Keywords that write

The clauses and commands that change data or touch administrative state, and the test whether a
word of code spells one of them.
-/
namespace WikiGraph.Query

open WikiGraph.Text

/-- A clause or command that no read-only query holds. -/
inductive WriteKeyword where
  | create | insert | set | delete | detach | remove | merge | drop | call | load | foreach
  | grant | deny | revoke | showInfo | alter | rename | terminate
deriving DecidableEq, Repr

namespace WriteKeyword

/-- Every keyword, in the order of the list they are looked up in. -/
def all : List WriteKeyword :=
  [create, insert, set, delete, detach, remove, merge, drop, call, load, foreach,
    grant, deny, revoke, showInfo, alter, rename, terminate]

/-- The keyword as it is spelled in upper case. -/
def spelling : WriteKeyword → String
  | create => "CREATE"
  | insert => "INSERT"
  | set => "SET"
  | delete => "DELETE"
  | detach => "DETACH"
  | remove => "REMOVE"
  | merge => "MERGE"
  | drop => "DROP"
  | call => "CALL"
  | load => "LOAD"
  | foreach => "FOREACH"
  | grant => "GRANT"
  | deny => "DENY"
  | revoke => "REVOKE"
  | showInfo => "SHOW"
  | alter => "ALTER"
  | rename => "RENAME"
  | terminate => "TERMINATE"

def spelledBy? (word : List Char) : Option WriteKeyword :=
  all.find? fun k => k.spelling.toList = upperCase word

/-- The keyword that the text, or the first of its non-empty ends that does, spells. -/
def endOf? : List Char → Option WriteKeyword
  | [] => none
  | c :: rest => spelledBy? (c :: rest) <|> endOf? rest

/-- The keyword a word of code stands for (`denied_keyword`). A number may end where a keyword
begins, so a word with a leading digit is denied for its ends too. -/
def deniedBy? (word : List Char) : Option WriteKeyword :=
  spelledBy? word <|>
    match word with
    | [] => none
    | c :: rest => if c.isDigit then endOf? rest else none

end WriteKeyword
end WikiGraph.Query
