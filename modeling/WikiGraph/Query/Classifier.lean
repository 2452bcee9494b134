import WikiGraph.Query.Region
import WikiGraph.Query.Reading
import WikiGraph.Query.WriteKeyword
/-!
# Read-only classification of query texts

A query is read-only when no reading of it puts a denied word into code.
-/
namespace WikiGraph.Query

def deniedWord? (text : List Char) : Option WriteKeyword :=
  (codeWords text).findSome? WriteKeyword.deniedBy?

/-- The first keyword that any reading finds, the readings tried in order (`find_write_keyword`). -/
def writeKeyword? (query : List Char) : Option WriteKeyword :=
  Reading.all.findSome? fun m => deniedWord? (m.normalize query)

/-- Whether no reading of the query holds a write keyword in code
(`KeywordQueryClassifier::is_read_only`). -/
def isReadOnly (query : List Char) : Bool := (writeKeyword? query).isNone

end WikiGraph.Query
