/-!
# Arguments of the command line

Options come before the name of the command, and what the command is about comes after it. Options
have a long name, some also a letter; letters can be joined. The value of an option follows it
directly, behind an equals sign or as the next argument, where it must not look like an option.
After two hyphens alone nothing is an option. The first fault or request for help decides.
-/
namespace WikiGraph.CommandLine

/-- What the program can be told to do (`Cli`). -/
inductive Command where
  /-- Classifies a query by its keywords. -/
  | check (query : String)
  /-- Runs a query in the reading role. -/
  | query (query : String)
  /-- Saves the page of a file. -/
  | save (pagePath : String)
  /-- Restores the page of a file. -/
  | undelete (pagePath : String)
  | delete (page : String)
deriving DecidableEq, Repr

/-- The name of a command. -/
inductive Verb where
  | check | query | save | undelete | delete
deriving DecidableEq, Repr

namespace Verb

def all : List Verb := [check, query, save, undelete, delete]

def name : Verb → String
  | check => "check"
  | query => "query"
  | save => "save"
  | undelete => "undelete"
  | delete => "delete"

def ofName? (s : String) : Option Verb := all.find? (·.name = s)

/-- Whether the command is about the page of a file, which an option names. -/
def takesPage : Verb → Bool
  | save => true
  | undelete => true
  | _ => false

def about : Verb → String → Command
  | check, s => .check s
  | query, s => .query s
  | save, s => .save s
  | undelete, s => .undelete s
  | delete, s => .delete s

end Verb

/-- What the arguments ask for. -/
inductive Request where
  | run (config : String) (command : Command)
  /-- Help about a command, or about the program. -/
  | help (topic : Option Verb)
  | misuse
deriving DecidableEq, Repr

/-- What one argument is where a certain option is known besides that for help. -/
inductive Argument where
  | help
  /-- The option with its value. -/
  | value (v : String)
  /-- The option without its value, which comes next. -/
  | awaitsValue
  /-- Two hyphens alone. -/
  | ending
  | operand (s : String)
  | unknown
deriving DecidableEq, Repr

/-- An option that takes a value. -/
structure ValueOption where
  long : String
  letter : Option Char := none

def looksLikeOption (arg : String) : Bool :=
  match arg.toList with
  | '-' :: _ :: _ => true
  | _ => false

/-- An argument of letters behind one hyphen. -/
def Argument.ofLetters (option : Option ValueOption) : List Char → Argument
  | 'h' :: _ => .help
  | c :: rest =>
    if (option.bind (·.letter)) = some c then
      match rest with
      | [] => .awaitsValue
      | '=' :: v => .value (String.ofList v)
      | v => .value (String.ofList v)
    else .unknown
  | [] => .unknown

/-- An argument with a long name behind two hyphens. -/
def Argument.ofLong (option : Option ValueOption) (text : List Char) : Argument :=
  let name := String.ofList (text.takeWhile (· ≠ '='))
  let value := text.dropWhile (· ≠ '=')
  if name = "help" ∧ value.isEmpty then .help
  else if option.map (·.long) = some name then
    match value with
    | [] => .awaitsValue
    | _ :: v => .value (String.ofList v)
  else .unknown

def Argument.of (option : Option ValueOption) (arg : String) : Argument :=
  match arg.toList with
  | ['-', '-'] => .ending
  | '-' :: '-' :: text => .ofLong option text
  | '-' :: c :: rest => .ofLetters option (c :: rest)
  | _ => .operand arg

def configOption : ValueOption := { long := "config", letter := some 'c' }

def pageOption : ValueOption := { long := "page" }

/-- The request of a command about `given`, if that is known by now. -/
def Request.complete (config : String) (verb : Verb) : Option String → Request
  | some s => .run config (verb.about s)
  | none => .misuse

/-- The request of arguments among which nothing is an option. -/
def ofOperands (config : String) (verb : Verb) (given : Option String) : List String → Request
  | [] => .complete config verb given
  | [s] => if verb.takesPage ∨ given.isSome then .misuse else .complete config verb (some s)
  | _ => .misuse

/-- The request of the arguments behind the name of a command. -/
def ofCommandArguments (config : String) (verb : Verb) (given : Option String) :
    List String → Request
  | [] => .complete config verb given
  | arg :: rest =>
    match Argument.of (if verb.takesPage then some pageOption else none) arg with
    | .help => .help (some verb)
    | .ending => ofOperands config verb given rest
    | .operand s =>
      if verb.takesPage ∨ given.isSome then .misuse
      else ofCommandArguments config verb (some s) rest
    | .value v =>
      if given.isSome ∨ v = "" then .misuse else ofCommandArguments config verb (some v) rest
    | .awaitsValue =>
      match rest with
      | v :: rest =>
        if given.isSome ∨ v = "" ∨ looksLikeOption v then .misuse
        else ofCommandArguments config verb (some v) rest
      | [] => .misuse
    | .unknown => .misuse

/-- The request for help of the arguments behind the word `help`. -/
def ofHelpArguments : List String → Request
  | [] => .help none
  | ["help"] => .help none
  | [name] =>
    match Verb.ofName? name with
    | some verb => .help (some verb)
    | none => .misuse
  | _ => .misuse

/-- The request of all arguments, where the configuration may be named by now. -/
def ofArguments (config : Option String) : List String → Request
  | [] => .misuse
  | arg :: rest =>
    match Argument.of (some configOption) arg with
    | .help => .help none
    | .value v => if config.isSome then .misuse else ofArguments (some v) rest
    | .awaitsValue =>
      match rest with
      | v :: rest =>
        if config.isSome ∨ looksLikeOption v then .misuse else ofArguments (some v) rest
      | [] => .misuse
    | .operand "help" => ofHelpArguments rest
    | .operand name =>
      match Verb.ofName? name with
      | some verb => ofCommandArguments (config.getD "pagegraph") verb none rest
      | none => .misuse
    | .ending => .misuse
    | .unknown => .misuse

end WikiGraph.CommandLine
