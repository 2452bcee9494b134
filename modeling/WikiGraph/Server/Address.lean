import WikiGraph.Graph.Error
import WikiGraph.Server.Locator
/-!
# Server addresses

An address is a locator with a host. A text that is no locator with a host is taken as the host, its
number and what follows them, with the usual scheme before it. Six schemes lead to a graph server.
-/
namespace WikiGraph.Server

/-- Why an address leads to no server. -/
inductive AddressError where
  | invalid
  | unsupportedScheme (scheme : String)
deriving DecidableEq, Repr

def AddressError.message : AddressError → String
  | .invalid => "Invalid URI"
  | .unsupportedScheme scheme => "Unsupported URI scheme: " ++ scheme

def serverSchemes : List String := ["bolt", "bolt+s", "bolt+ssc", "neo4j", "neo4j+s", "neo4j+ssc"]

def usualScheme : List Char := "bolt://".toList

/-- The locator that an address is taken as. -/
def locatorOf? (uri : List Char) : Option Locator :=
  let completed := (Locator.ofText (usualScheme ++ uri)).toOption.filter (·.hasHost)
  match Locator.ofText uri with
  | .ok l => if l.hasHost then some l else completed
  | .error .noScheme => completed
  | .error .malformed => none

/-- Checks that an address leads to a server. -/
def checkAddress (uri : String) : Except AddressError Unit :=
  match locatorOf? uri.toList with
  | none => .error .invalid
  | some l =>
    if serverSchemes.contains l.scheme then .ok () else .error (.unsupportedScheme l.scheme)

/-- The error of settings whose address leads to no server (`connect_as`). -/
def connect (uri : String) : Except GraphError Unit :=
  match checkAddress uri with
  | .ok () => .ok ()
  | .error e => .error (.connection e.message)

end WikiGraph.Server
