import WikiGraph.Json.Token
/-!
# Reading JSON values

A machine that takes one token at a time and keeps the arrays and objects that are still open on a
stack. A value nested in more than 127 arrays and objects is followed to its end but has no reading.
-/
namespace WikiGraph.Json

/-- An array or object that is still open; what it holds so far is kept last one first. -/
inductive Frame where
  | array (items : List Json)
  /-- An object between two members; `sound` tells that every key so far has a reading. -/
  | object (members : List (String × Json)) (sound : Bool)
  /-- An object whose last key waits for its value. -/
  | member (members : List (String × Json)) (sound : Bool) (key : String)

/-- What may come next. -/
inductive Expectation where
  | value
  /-- Just behind an opening bracket: a value or the end of the array. -/
  | itemOrEnd
  /-- Behind a value inside an array or object: a comma or its end. -/
  | separator
  /-- Just behind an opening brace: a key or the end of the object. -/
  | keyOrEnd
  | key
  | colon
  | nothing (whole : Json)

/-- The state of the machine. -/
structure Parsing where
  stack : List Frame
  expects : Expectation

/-- The number of arrays and objects that may be open at once. -/
def depthLimit : Nat := 127

/-- The state behind a complete value. -/
def complete (j : Json) : List Frame → Option Parsing
  | [] => some ⟨[], .nothing j⟩
  | .array items :: stack => some ⟨.array (j :: items) :: stack, .separator⟩
  | .member members sound key :: stack =>
    some ⟨.object ((key, j) :: members) sound :: stack, .separator⟩
  | .object _ _ :: _ => none

/-- An array or object that closes above the frames of `stack`. -/
def closed (j : Json) (stack : List Frame) : Option Parsing :=
  complete (if depthLimit ≤ stack.length then .unreadable else j) stack

/-- The machine at a token with which a value begins, or which is one. -/
def readValue (stack : List Frame) (t : Token) : Option Parsing :=
  match t with
  | .null => complete .null stack
  | .bool b => complete (.bool b) stack
  | .number n => complete (n.elim .unreadable .number) stack
  | .string s => complete (s.elim .unreadable .string) stack
  | .openArray => some ⟨.array [] :: stack, .itemOrEnd⟩
  | .openObject => some ⟨.object [] true :: stack, .keyOrEnd⟩
  | _ => none

def closeArray : List Frame → Option Parsing
  | .array items :: stack => closed (.array items.reverse) stack
  | _ => none

def closeObject : List Frame → Option Parsing
  | .object members sound :: stack =>
    closed (if sound then .object members.reverse else .unreadable) stack
  | _ => none

def readKey (stack : List Frame) (key : Option String) : Option Parsing :=
  match stack with
  | .object members sound :: rest =>
    some ⟨.member members (sound && key.isSome) (key.getD "") :: rest, .colon⟩
  | _ => none

/-- The machine on one token. -/
def parseStep (s : Parsing) (t : Token) : Option Parsing :=
  match s.expects, t with
  | .value, t => readValue s.stack t
  | .itemOrEnd, .closeArray => closeArray s.stack
  | .itemOrEnd, t => readValue s.stack t
  | .separator, .closeArray => closeArray s.stack
  | .separator, .closeObject => closeObject s.stack
  | .separator, .comma =>
    match s.stack with
    | .array _ :: _ => some ⟨s.stack, .value⟩
    | .object _ _ :: _ => some ⟨s.stack, .key⟩
    | _ => none
  | .keyOrEnd, .closeObject => closeObject s.stack
  | .keyOrEnd, .string k => readKey s.stack k
  | .key, .string k => readKey s.stack k
  | .colon, .colon => some ⟨s.stack, .value⟩
  | _, _ => none

def ofTokens? (tokens : List Token) : Option Json :=
  (tokens.foldlM parseStep ⟨[], .value⟩).bind fun s =>
    match s.expects with
    | .nothing j => some j
    | _ => none

def parse? (text : List Char) : Option Json := (tokens? text).bind ofTokens?

end WikiGraph.Json
