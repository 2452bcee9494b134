import WikiGraph.Cypher.Quoting
import WikiGraph.Graph.Node
/-!
# Statements sent to a graph server

Every statement has one of a fixed number of forms. A form is a fixed text, or a fixed text around
one quoted name: labels and relationship types are the only things that cannot be parameters. All
other data goes into parameters.
-/
namespace WikiGraph.Cypher

/-- What a node property holds on the server: a lone scalar as it is, several as a list. -/
inductive Stored where
  | one (s : Scalar)
  | many (s : List Scalar)
deriving DecidableEq, Repr

/-- The stored form of a list of scalars (`scalars_to_bolt`). -/
def Stored.ofScalars : List Scalar → Stored
  | [s] => .one s
  | scalars => .many scalars

/-- The value of a statement parameter. -/
inductive Parameter where
  | scalar (s : Scalar)
  | texts (l : List String)
  | map (m : List (String × Stored))
deriving DecidableEq, Repr

/-- The forms of statements, one for each text that `Neo4jTransaction` and the queries send. -/
inductive Form where
  | upsertPage
  | schemaOfSubject
  | removeLabel (label : String)
  | upsertSubject (schema : String)
  | linkSubject
  | setMain
  | detachExcept
  | outgoing
  | createRelation (type : String)
  | updateRelation
  | deleteRelation
  | deletePage
  | countNodes (label : String)
  | pageMemberships
  | countRelations
  /-- The text of a query written by a user. -/
  | query (text : String)
deriving DecidableEq, Repr

/-- The lines of a statement, each but the first indented by thirteen blanks. -/
def lines (ls : List String) : List Char := ("\n             ".intercalate ls).toList

/-- A statement with a quoted name in it. -/
def around (before : List String) (name : String) (after : List String) : List Char :=
  lines before ++ quote name.toList ++ lines after

/-- The text of a statement. -/
def Form.text : Form → List Char
  | .upsertPage => lines [
      "MERGE (p:Page \x7bid: $id\x7d)",
      "SET p.title = $title, p.created_at = $created_at,",
      "    p.updated_at = $updated_at, p.last_editor = $last_editor"]
  | .schemaOfSubject => lines ["MATCH (s:Subject \x7bid: $id\x7d) RETURN s.schema AS schema"]
  | .removeLabel label => around ["MATCH (s:Subject \x7bid: $id\x7d) REMOVE s:"] label []
  | .upsertSubject schema => around [
      "MERGE (s:Subject \x7bid: $id\x7d)",
      "SET s = $props",
      "SET s:"] schema []
  | .linkSubject => lines [
      "MATCH (p:Page \x7bid: $page_id\x7d)",
      "MATCH (s:Subject \x7bid: $subject_id\x7d)",
      "MERGE (p)-[r:HAS_SUBJECT]->(s)",
      "SET r.is_main = $is_main"]
  | .setMain => lines [
      "MATCH (:Page \x7bid: $page_id\x7d)-[r:HAS_SUBJECT]->(:Subject \x7bid: $subject_id\x7d)",
      "SET r.is_main = $is_main"]
  | .detachExcept => lines [
      "MATCH (:Page \x7bid: $page_id\x7d)-[r:HAS_SUBJECT]->(s:Subject)",
      "WHERE NOT s.id IN $keep",
      "DELETE r",
      "WITH collect(s) AS detached",
      "FOREACH (s IN [x IN detached WHERE NOT (x)<-[:HAS_SUBJECT]-(:Page)] |",
      "  DETACH DELETE s)",
      "RETURN size(detached) AS detached"]
  | .outgoing => lines [
      "MATCH (:Subject \x7bid: $id\x7d)-[r]->(t:Subject)",
      "WHERE r.id IS NOT NULL",
      "RETURN r, t.id AS target"]
  | .createRelation type => around [
      "MATCH (s:Subject \x7bid: $source\x7d)",
      "MATCH (t:Subject \x7bid: $target\x7d)",
      "CREATE (s)-[r:"] type [
      "]->(t)",
      "SET r = $props",
      "RETURN count(r) AS created"]
  | .updateRelation => lines [
      "MATCH (:Subject \x7bid: $source\x7d)-[r \x7bid: $id\x7d]->(:Subject)",
      "SET r = $props"]
  | .deleteRelation => lines [
      "MATCH (:Subject \x7bid: $source\x7d)-[r \x7bid: $id\x7d]->(:Subject)",
      "DELETE r"]
  | .deletePage => lines [
      "MATCH (p:Page \x7bid: $id\x7d)",
      "OPTIONAL MATCH (p)-[:HAS_SUBJECT]->(s:Subject)",
      "WITH p, collect(s) AS subjects",
      "DETACH DELETE p",
      "WITH [x IN subjects WHERE NOT (x)<-[:HAS_SUBJECT]-(:Page)] AS orphans",
      "FOREACH (s IN orphans | DETACH DELETE s)",
      "RETURN size(orphans) AS removed"]
  | .countNodes label => around ["MATCH (n:"] label [") RETURN count(n) AS cnt"]
  | .pageMemberships => lines [
      "MATCH (:Page \x7bid: $id\x7d)-[r:HAS_SUBJECT]->(s:Subject)",
      "RETURN s.id AS id, r.is_main AS is_main",
      "ORDER BY id"]
  | .countRelations => lines [
      "MATCH (:Subject \x7bid: $id\x7d)-[r]->(:Subject)",
      "WHERE r.id IS NOT NULL",
      "RETURN count(r) AS cnt"]
  | .query text => text.toList

/-- A statement with its parameters in the order of their names. -/
structure Statement where
  form : Form
  parameters : List (String × Parameter)
deriving DecidableEq, Repr

def textParameter (name value : String) : String × Parameter := (name, .scalar (.text value))

/-- The properties of a subject node (`subject_props`). The keys the graph uses itself win over
properties of the same name. -/
def subjectProperties (s : SubjectNode) : Parameter :=
  let stored : Std.ExtTreeMap String Stored := s.properties.map fun _ => Stored.ofScalars
  let reserved := ((stored.insert "id" (.one (.text s.id.text))).insert
    "name" (.one (.text s.name))).insert "schema" (.one (.text s.schema.text))
  .map reserved.toList

/-- The properties of an edge: those of the relation, and its identifier under the reserved key
(`relation_props`). -/
def edgeProperties (r : Relation) : Properties :=
  r.properties.insert relationIdKey (.text r.id.text)

def edgeParameter (r : Relation) : Parameter :=
  .map ((edgeProperties r).toList.map fun p => (p.1, .one p.2))

end WikiGraph.Cypher
