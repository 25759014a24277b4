/-!
Statement families and the kinds of query they make up. A statement is known by its leading keyword
alone, in any mix of case.
-/

namespace SqlDriver

/-- What a query as a whole does. -/
inductive QueryKind where
  /-- Works on data, and may run in a transaction. -/
  | data
  /-- Changes the schema, and never runs in a transaction. -/
  | schema
deriving DecidableEq, Repr

/-- The family of one statement. -/
inductive StatementKind where
  /-- Reads data. -/
  | select
  /-- Writes data. -/
  | update
  /-- Changes the schema. -/
  | scheme
deriving DecidableEq, Repr

/-- The usual abbreviation of a kind, as error texts name it. -/
def QueryKind.abbreviation : QueryKind → String
  | .data => "DML"
  | .schema => "DDL"

/-- The name of a family, as a keyword. -/
def StatementKind.keyword : StatementKind → String
  | .select => "SELECT"
  | .update => "UPDATE"
  | .scheme => "SCHEME"

/-- The kind of query that a statement of the family belongs to. -/
def StatementKind.queryKind : StatementKind → QueryKind
  | .select => .data
  | .update => .data
  | .scheme => .schema

/-- The keywords of a family, in lower case. -/
def StatementKind.keywords : StatementKind → List String
  | .select => ["select"]
  | .update => ["insert", "update", "upsert", "delete", "replace"]
  | .scheme => ["create", "alter", "drop"]

/-- The family whose statements begin with the word. Only the letters A to Z have two cases. -/
def StatementKind.ofKeyword? (word : List Char) : Option StatementKind :=
  [StatementKind.select, .update, .scheme].find? fun kind =>
    kind.keywords.contains (String.ofList (word.map Char.toLower))

end SqlDriver
