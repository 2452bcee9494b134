/-!
# Connection settings

How to reach the graph server, and the credentials of the two roles: one holds full privileges and
is used for synchronization, the other may only read and runs every query of a user.
-/
namespace WikiGraph.Server

/-- Where the server is and who speaks to it (`GraphConfig`). -/
structure Settings where
  uri : String := "bolt://localhost:7687"
  user : String := "neo4j"
  password : String := "pagegraph-dev"
  readUser : String := "pagegraph_reader"
  readPassword : String := "pagegraph-dev"
  maxConnections : Nat := 16
  fetchSize : Nat := 256
deriving DecidableEq, Repr

end WikiGraph.Server
