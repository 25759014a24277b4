import SqlDriver.Query.Token

/-!
Names for the parameters of a query. All names of a text begin with one stem, the shortest of
`$jp`, `$jp_`, `$jp__`, … that does not occur in the text, so no name can be mistaken for a part of
the text. A stem with `n` underscores occurs exactly when somewhere `$jp` is followed by `n` of
them.
-/

namespace SqlDriver

/-- What every stem begins with. -/
def Parameter.base : List Char := ['$', 'j', 'p']

/-- The number of underscores after each occurrence of the base in a text. -/
def Parameter.underscoreRuns : List Char → List Nat
  | [] => []
  | c :: rest =>
    if Parameter.base.isPrefixOf (c :: rest) then
      ((rest.drop 2).takeWhile (· = '_')).length :: Parameter.underscoreRuns rest
    else Parameter.underscoreRuns rest

/-- The fewest underscores that make a stem absent from the text. -/
def Parameter.underscores (text : List Char) : Nat :=
  (Parameter.underscoreRuns text).foldl (fun fewest run => max fewest (run + 1)) 0

/-- The stem of a text's parameter names. -/
def Parameter.stem (text : List Char) : List Char :=
  Parameter.base ++ List.replicate (Parameter.underscores text) '_'

/-- The name of the parameter at a position counted from one. -/
def Parameter.name (stem : List Char) (position : Nat) : List Char :=
  stem ++ Nat.toDigits 10 position

/-- The names of that many parameters, in order. -/
def Parameter.names (stem : List Char) (count : Nat) : List String :=
  (List.range count).map fun i => String.ofList (Parameter.name stem (i + 1))

/-- The text of some tokens with every placeholder replaced by its name, when `count` placeholders
stand before them. -/
def Parameter.substitute (stem : List Char) : Nat → List Token → List Char
  | _, [] => []
  | count, .placeholder :: rest =>
    Parameter.name stem (count + 1) ++ Parameter.substitute stem (count + 1) rest
  | count, token :: rest => token.lexeme ++ Parameter.substitute stem count rest

end SqlDriver
