import SqlDriver.Query.Statement

/-!
What can be wrong with a query text or with the values bound to its parameters.
-/

namespace SqlDriver

/-- A fault in a query text. -/
inductive GrammarFault where
  /-- The text holds no statement at all. -/
  | noStatements
  /-- A statement begins with a character that begins no word. -/
  | unexpectedStart (found : Char)
  /-- A statement begins with a word that is no keyword. -/
  | unknownKeyword (word : String)
  /-- A statement of one kind follows statements of the other. -/
  | mixedKinds (kind : QueryKind) (word : String) (established : QueryKind)
  | unterminatedQuote
  | unterminatedComment
deriving DecidableEq, Repr

def GrammarFault.message : GrammarFault → String
  | .noStatements => "query contains no statements"
  | .unexpectedStart found =>
    "expected statement keyword, found '" ++ String.singleton found ++ "'"
  | .unknownKeyword word => "unrecognized statement keyword '" ++ word ++ "'"
  | .mixedKinds kind word established =>
    kind.abbreviation ++ " statement '" ++ word ++ "' cannot be mixed with " ++
      established.abbreviation ++ " statements"
  | .unterminatedQuote => "unterminated quoted literal"
  | .unterminatedComment => "unterminated block comment"

/-- An error of a query text or of its parameters. -/
inductive QueryError where
  /-- A fault of the text at a byte position. -/
  | grammar (position : Nat) (fault : GrammarFault)
  | unknownParameter (name : String)
  /-- A position, counted from one, at which the query declares no parameter. -/
  | indexOutOfRange (index count : Nat)
  /-- The declared parameters without a value, in order. -/
  | missingParameters (names : List String)
  /-- A null was bound without a type. -/
  | untypedNull (name : String)
  /-- A schema query declares parameters. -/
  | schemaParameters (names : List String)
deriving DecidableEq, Repr

def QueryError.message : QueryError → String
  | .grammar position fault =>
    "SQL grammar error at position " ++ toString position ++ ": " ++ fault.message
  | .unknownParameter name => "Unknown parameter: " ++ name
  | .indexOutOfRange index count =>
    "Parameter index " ++ toString index ++ " out of range, query declares " ++ toString count ++
      " parameter(s)"
  | .missingParameters names => "Missing value for parameter(s): " ++ ", ".intercalate names
  | .untypedNull name => "Parameter " ++ name ++ " is bound to NULL without a type"
  | .schemaParameters names =>
    "Schema queries take no parameters, found: " ++ ", ".intercalate names

/-- The name of what went wrong. -/
def QueryError.name : QueryError → String
  | .grammar _ _ => "Grammar"
  | .unknownParameter _ => "UnknownParameter"
  | .indexOutOfRange _ _ => "ParameterIndexOutOfRange"
  | .missingParameters _ => "MissingParameters"
  | .untypedNull _ => "UntypedNull"
  | .schemaParameters _ => "SchemaParameters"

/-- Whether the text is at fault. -/
def QueryError.isGrammar : QueryError → Bool
  | .grammar _ _ => true
  | _ => false

/-- Whether a parameter or its value is at fault. -/
def QueryError.isArgument (e : QueryError) : Bool := !e.isGrammar

end SqlDriver
