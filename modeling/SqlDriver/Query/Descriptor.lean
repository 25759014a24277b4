import SqlDriver.Query.Fault
import SqlDriver.Query.Parameter
import SqlDriver.Json.Basic

/-!
What is known of a query from its text alone: the kind and the families of its statements, and the
text with its placeholders replaced by names, which is what a backend is given.

Between two separators, the first token that is neither blank nor comment must be a keyword; the
tokens after it do not matter, except that reading strictly refuses a quoted run or a block comment
that never ends. The leftmost fault is the one reported.
-/

namespace SqlDriver

/-- How a text is read. -/
inductive ReadingMode where
  /-- A quoted run or a block comment that never ends takes the rest of the text. -/
  | tolerant
  /-- A quoted run or a block comment that never ends is a fault. -/
  | strict
deriving DecidableEq, Repr

def ReadingMode.ofStrict (strict : Bool) : ReadingMode := if strict then .strict else .tolerant

def ReadingMode.isStrict (mode : ReadingMode) : Bool := mode = .strict

/-- What a query text says. -/
structure Descriptor where
  /-- The text as it was given. -/
  raw : String
  /-- The text with its placeholders replaced by the parameters' names. -/
  canonical : String
  kind : QueryKind
  /-- The names of the parameters, in order of their placeholders. -/
  parameters : List String
  statements : List StatementKind
deriving DecidableEq, Repr

/-! ## Statements of a token list -/

/-- The first character of a token. -/
def Token.first : Token → Char
  | .word chars => chars.headD ' '
  | .space char => char
  | .separator => ';'
  | .placeholder => '?'
  | .quoted quote _ _ => quote
  | .lineComment _ _ => '-'
  | .blockComment _ _ => '/'
  | .other char => char

/-- The fault of an unended run, when reading strictly. -/
def Token.openFault? : Token → Option GrammarFault
  | .quoted _ _ false => some .unterminatedQuote
  | .blockComment _ false => some .unterminatedComment
  | _ => none

/-- Whether a token may stand before the keyword of a statement. -/
def Token.isFiller : Token → Bool
  | .space _ => true
  | .lineComment _ _ => true
  | .blockComment _ _ => true
  | _ => false

/-- The family of the statement that begins with a token, after statements of the established
kind. -/
def Token.statement (established : Option QueryKind) (token : Token) :
    Except GrammarFault StatementKind :=
  match token with
  | .word chars =>
    match StatementKind.ofKeyword? chars with
    | none => .error (.unknownKeyword (String.ofList chars))
    | some statement =>
      match established with
      | none => .ok statement
      | some kind =>
        if statement.queryKind = kind then .ok statement
        else .error (.mixedKinds statement.queryKind (String.ofList chars) kind)
  | token => .error (.unexpectedStart token.first)

/-- The families of the statements in some tokens, or the position and the fault of the leftmost
fault. The tokens begin at the byte `offset`; `starting` says that a statement may begin there, and
the statements before them are of the established kind. -/
def Descriptor.statements? (mode : ReadingMode) :
    (offset : Nat) → (starting : Bool) → (established : Option QueryKind) → List Token →
      Except (Nat × GrammarFault) (List StatementKind)
  | _, _, _, [] => .ok []
  | offset, starting, established, token :: rest =>
    let after := offset + utf8Length token.lexeme
    if starting && !token.isFiller && token ≠ .separator then
      match token.statement established with
      | .error fault => .error (offset, fault)
      | .ok statement =>
        match Descriptor.statements? mode after false (some statement.queryKind) rest with
        | .error fault => .error fault
        | .ok statements => .ok (statement :: statements)
    else
      match token.openFault? with
      | some fault =>
        if mode.isStrict then .error (offset, fault)
        else Descriptor.statements? mode after starting established rest
      | none =>
        Descriptor.statements? mode after (starting || token = .separator) established rest

/-- Reads a query text. -/
def Descriptor.parse (mode : ReadingMode) (text : String) : Except QueryError Descriptor :=
  let tokens := Token.scan text.toList
  match Descriptor.statements? mode 0 true none tokens with
  | .error (position, fault) => .error (.grammar position fault)
  | .ok [] => .error (.grammar 0 .noStatements)
  | .ok (first :: others) =>
    let stem := Parameter.stem text.toList
    .ok
      { raw := text
        canonical := String.ofList (Parameter.substitute stem 0 tokens)
        kind := first.queryKind
        parameters := Parameter.names stem (tokens.count .placeholder)
        statements := first :: others }

/-- Whether the query changes the schema. -/
def Descriptor.isSchema (d : Descriptor) : Bool := d.kind = .schema

/-- The JSON form of a descriptor, without the text as it was given. -/
def Descriptor.toJson (d : Descriptor) : Json :=
  .object [
    ("canonical", .string d.canonical),
    ("is_schema", .bool d.isSchema),
    ("kind", .string d.kind.abbreviation),
    ("parameters", .array (d.parameters.map .string)),
    ("statements", .array (d.statements.map fun statement => .string statement.keyword))]

/-! ## Queries on a descriptor -/

/-- The name of the parameter at a position counted from one. -/
def Descriptor.parameterAt? (d : Descriptor) (position : Nat) : Option String :=
  if position = 0 then none else d.parameters[position - 1]?

def Descriptor.hasParameter (d : Descriptor) (name : String) : Bool :=
  d.parameters.contains name

end SqlDriver
