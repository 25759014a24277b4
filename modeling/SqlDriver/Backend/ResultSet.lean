import SqlDriver.Value.Printer
import SqlDriver.Transaction.Basic

/-!
What a data statement produces: result sets, and reports of the transaction that it leaves open.
-/

namespace SqlDriver

/-- A column of a result set. -/
structure Column where
  name : String
  type : ValueType
deriving DecidableEq, Repr

/-- Rows under named columns. -/
structure ResultSet where
  columns : List Column
  rows : List Row
deriving Repr

/-- No columns and no rows. -/
def ResultSet.empty : ResultSet := ⟨[], []⟩

/-- The number of rows. -/
def ResultSet.size (r : ResultSet) : Nat := r.rows.length

def ResultSet.isEmpty (r : ResultSet) : Bool := r.rows.isEmpty

/-- The text of the first value of the first row. -/
def ResultSet.firstText? (r : ResultSet) : Option String := do
  let row ← r.rows.head?
  let value ← row.head?
  return value.render

/-- The texts of a column's values, rows too short for the column left out. Of several columns of
one name the first is meant; a name without a column has no values. -/
def ResultSet.column (r : ResultSet) (name : String) : List String :=
  match r.columns.findIdx? (·.name = name) with
  | none => []
  | some i => r.rows.filterMap fun row => row[i]?.map Value.render

/-- A single row that gives back the values of a statement's parameters. The columns are named for
the parameters, without dollar signs in front. -/
def ResultSet.ofParameters (parameters : NamedValues) : ResultSet where
  columns := parameters.map fun (name, v) =>
    ⟨String.ofList (name.toList.dropWhile (· = '$')), v.type⟩
  rows := [parameters.map fun (_, v) => v.value]

/-- What comes out of a running data statement. -/
inductive ResultEvent where
  /-- The statement runs in this transaction, which is still open. -/
  | transaction (id : TransactionId)
  | resultSet (set : ResultSet)
deriving Repr

/-- The result sets of one execution of a statement. -/
structure QueryResult where
  resultSets : List ResultSet
deriving Repr

def QueryResult.empty : QueryResult := ⟨[]⟩

def QueryResult.first? (r : QueryResult) : Option ResultSet := r.resultSets.head?

def QueryResult.isEmpty (r : QueryResult) : Bool := r.resultSets.isEmpty

/-! ## JSON form -/

/-- The JSON form of a column: its name and its type. -/
def Column.toJson (column : Column) : Json := .array [.string column.name, column.type.toJson]

def Column.ofJson? : Json → Option Column
  | .array [name, type] => do return ⟨← name.string?, ← ValueType.ofJson? type⟩
  | _ => none

def Row.toJson (row : Row) : Json := .array (row.map Value.toJson)

def Row.ofJson? (document : Json) : Option Row := do
  (← document.array?).mapM Value.ofJson?

def ResultSet.toJson (r : ResultSet) : Json :=
  .object [
    ("columns", .array (r.columns.map Column.toJson)),
    ("rows", .array (r.rows.map Row.toJson))]

/-- The JSON form of a result: the list of its result sets. -/
def QueryResult.toJson (r : QueryResult) : Json := .array (r.resultSets.map ResultSet.toJson)

end SqlDriver
