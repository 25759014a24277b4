import SqlDriver.Query.Descriptor
import SqlDriver.Value.Basic

/-!
Values for the parameters of one query, in rows. The row being filled is sealed by `add`, which
opens a new one; the sealed rows and the last one together are executed as a batch.
-/

namespace SqlDriver

/-- A reference to a parameter: by its name, or by its position counted from one. -/
inductive ParameterRef where
  | name (name : String)
  | index (position : Nat)
deriving DecidableEq, Repr

/-- The values given to parameters so far, at most one for each name. -/
abbrev BoundRow := List (String × TypedValue)

/-- Gives a parameter a value in place of the one it had. -/
def BoundRow.set (row : BoundRow) (name : String) (value : TypedValue) : BoundRow :=
  (name, value) :: row.filter fun entry => entry.1 ≠ name

/-- The rows bound for a query. -/
structure Bindings where
  descriptor : Descriptor
  /-- The sealed rows, oldest first. -/
  sealedRows : List BoundRow
  /-- The row being filled. -/
  current : BoundRow
deriving Repr

/-- One empty row for a query. -/
def Bindings.empty (descriptor : Descriptor) : Bindings := ⟨descriptor, [], []⟩

/-- The name of the parameter referred to. -/
def Bindings.nameOf (b : Bindings) : ParameterRef → Except QueryError String
  | .name name =>
    if b.descriptor.hasParameter name then .ok name else .error (.unknownParameter name)
  | .index position =>
    match b.descriptor.parameterAt? position with
    | some name => .ok name
    | none => .error (.indexOutOfRange position b.descriptor.parameters.length)

/-- Gives a declared parameter a value in the current row. -/
def Bindings.set (b : Bindings) (name : String) (value : TypedValue) : Bindings :=
  { b with current := b.current.set name value }

/-- Binds a value as the type it naturally has, which a null lacks. -/
def Bindings.bind (b : Bindings) (parameter : ParameterRef) (value : Value) :
    Except QueryError Bindings := do
  let name ← b.nameOf parameter
  match value.naturalType with
  | some type => return b.set name ⟨value, type⟩
  | none => throw (.untypedNull name)

/-- Binds a value as the given type. -/
def Bindings.bindAs (b : Bindings) (parameter : ParameterRef) (value : Value)
    (type : ValueType) : Except QueryError Bindings := do
  let name ← b.nameOf parameter
  return b.set name ⟨value, type⟩

/-- Binds the null of a type. -/
def Bindings.bindNull (b : Bindings) (parameter : ParameterRef) (type : ValueType) :
    Except QueryError Bindings :=
  b.bindAs parameter .null type

/-- The declared parameters without a value in the current row, in order. -/
def Bindings.missing (b : Bindings) : List String :=
  b.descriptor.parameters.filter fun name => (b.current.lookup name).isNone

/-- Whether the current row gives every declared parameter a value. -/
def Bindings.check (b : Bindings) : Except QueryError Unit :=
  if b.missing.isEmpty then .ok () else .error (.missingParameters b.missing)

/-- Seals the current row, which must be complete, and opens an empty one. -/
def Bindings.add (b : Bindings) : Except QueryError Bindings := do
  b.check
  return { b with sealedRows := b.sealedRows ++ [b.current], current := [] }

/-- A row's values in the order in which the query declares its parameters. -/
def Bindings.ordered (b : Bindings) (row : BoundRow) : NamedValues :=
  b.descriptor.parameters.filterMap fun name => (row.lookup name).map fun value => (name, value)

/-- The rows to execute. The current row counts, and must be complete, unless it is empty and
follows a sealed one. -/
def Bindings.rowsToExecute (b : Bindings) : Except QueryError (List NamedValues) :=
  if b.current.isEmpty && !b.sealedRows.isEmpty then .ok (b.sealedRows.map b.ordered)
  else do
    b.check
    return (b.sealedRows ++ [b.current]).map b.ordered

/-- The number of sealed rows. -/
def Bindings.batchLength (b : Bindings) : Nat := b.sealedRows.length

/-- Drops every row and opens an empty one. -/
def Bindings.clear (b : Bindings) : Bindings := .empty b.descriptor

end SqlDriver
