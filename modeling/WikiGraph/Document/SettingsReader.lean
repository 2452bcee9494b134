import WikiGraph.Document.Fields
import WikiGraph.Server.Settings
/-!
# Reading connection settings from documents
-/
namespace WikiGraph.Document

/-- Connection settings; each one that is not written has its usual value. -/
def settings? (j : Json) : Option Server.Settings :=
  let usual : Server.Settings := {}
  match fields? ["uri", "user", "password", "read_user", "read_password", "max_connections",
      "fetch_size"] j with
  | some [uri, user, password, readUser, readPassword, maxConnections, fetchSize] => do
    return {
      uri := ← defaulted text? usual.uri uri
      user := ← defaulted text? usual.user user
      password := ← defaulted text? usual.password password
      readUser := ← defaulted text? usual.readUser readUser
      readPassword := ← defaulted text? usual.readPassword readPassword
      maxConnections := ← defaulted (natural? 0x100000000) usual.maxConnections maxConnections
      fetchSize := ← defaulted (natural? 0x10000000000000000) usual.fetchSize fetchSize }
  | _ => none

end WikiGraph.Document
