/-!
The lexical form of a query text. A text is cut, from left to right and without loss, into words,
quoted runs, comments, separators, placeholders and single other characters. A quoted run or a block
comment that never ends takes the rest of the text and is marked as open.

Main statement: the lexemes of `Token.scan text`, joined, are `text`.
-/

namespace SqlDriver

/-- A piece of a query text. -/
inductive Token where
  /-- A longest run of letters, digits and underscores. -/
  | word (chars : List Char)
  | space (char : Char)
  /-- The semicolon between statements. -/
  | separator
  /-- The question mark that stands for a parameter. -/
  | placeholder
  /-- A literal or a quoted identifier: what follows the opening quote, and whether a closing one
  follows that. -/
  | quoted (quote : Char) (body : List Char) (closed : Bool)
  /-- Two hyphens, what follows them on the line, and whether a line feed ends it. -/
  | lineComment (body : List Char) (ended : Bool)
  /-- What follows the opening mark, inner comments included, and whether the closing mark follows
  that. -/
  | blockComment (body : List Char) (closed : Bool)
  | other (char : Char)
deriving DecidableEq, Repr

/-- The characters of a token as they stand in the text. -/
def Token.lexeme : Token → List Char
  | .word chars => chars
  | .space char => [char]
  | .separator => [';']
  | .placeholder => ['?']
  | .quoted quote body closed => quote :: body ++ bif closed then [quote] else []
  | .lineComment body ended => '-' :: '-' :: body ++ bif ended then ['\n'] else []
  | .blockComment body closed => '/' :: '*' :: body ++ bif closed then ['*', '/'] else []
  | .other char => [char]

/-- The number of bytes of a list of characters in UTF-8. -/
def utf8Length (chars : List Char) : Nat :=
  chars.foldr (fun c length => c.utf8Size + length) 0

/-- A character of a word: an ASCII letter or digit, or the underscore. -/
def Token.isWordChar (c : Char) : Bool :=
  c.isAlphanum || c = '_'

/-- The blanks that may stand anywhere between tokens. -/
def Token.isSpace (c : Char) : Bool :=
  c = ' ' || c = '\t' || c = '\n' || c = '\x0c' || c = '\r'

/-- What a run that is closed by a mark consists of: its body, whether it is closed, and the
characters after it. -/
structure Token.Run where
  body : List Char
  closed : Bool
  rest : List Char

/-- Puts characters in front of the body. -/
def Token.Run.cons (chars : List Char) (run : Token.Run) : Token.Run :=
  { run with body := chars ++ run.body }

/-- The text that a run was read from, given the mark that closes it. -/
def Token.Run.text (closing : List Char) (run : Token.Run) : List Char :=
  run.body ++ (bif run.closed then closing else []) ++ run.rest

theorem Token.Run.text_cons (closing chars : List Char) (run : Token.Run) :
    (run.cons chars).text closing = chars ++ run.text closing := by
  simp [Token.Run.text, Token.Run.cons]

/-- The run up to a closing quote. Where backslashes escape, the character after one never
closes. -/
def Token.quotedRun (quote : Char) (escapes : Bool) : List Char → Token.Run
  | [] => ⟨[], false, []⟩
  | c :: rest =>
    if escapes && c = '\\' then
      match rest with
      | [] => ⟨[c], false, []⟩
      | escaped :: rest => (Token.quotedRun quote escapes rest).cons [c, escaped]
    else if c = quote then ⟨[], true, rest⟩
    else (Token.quotedRun quote escapes rest).cons [c]

/-- The run up to the mark that closes a block comment inside which `depth` further comments are
open. -/
def Token.commentRun : Nat → List Char → Token.Run
  | depth, '/' :: '*' :: rest => (Token.commentRun (depth + 1) rest).cons ['/', '*']
  | 0, '*' :: '/' :: rest => ⟨[], true, rest⟩
  | depth + 1, '*' :: '/' :: rest => (Token.commentRun depth rest).cons ['*', '/']
  | depth, c :: rest => (Token.commentRun depth rest).cons [c]
  | _, [] => ⟨[], false, []⟩

/-- The run up to the end of the line. -/
def Token.lineRun : List Char → Token.Run
  | [] => ⟨[], false, []⟩
  | c :: rest => if c = '\n' then ⟨[], true, rest⟩ else (Token.lineRun rest).cons [c]

/-- The token that begins with a character, and the characters after it. -/
def Token.next (c : Char) (rest : List Char) : Token × List Char :=
  if c = '\'' then
    let run := Token.quotedRun c true rest
    (.quoted c run.body run.closed, run.rest)
  else if c = '"' || c = '\x60' then
    let run := Token.quotedRun c false rest
    (.quoted c run.body run.closed, run.rest)
  else if c = '-' && rest.head? = some '-' then
    let run := Token.lineRun rest.tail
    (.lineComment run.body run.closed, run.rest)
  else if c = '/' && rest.head? = some '*' then
    let run := Token.commentRun 0 rest.tail
    (.blockComment run.body run.closed, run.rest)
  else if c = ';' then (.separator, rest)
  else if c = '?' then (.placeholder, rest)
  else if Token.isSpace c then (.space c, rest)
  else if Token.isWordChar c then
    (.word (c :: rest.takeWhile Token.isWordChar), rest.dropWhile Token.isWordChar)
  else (.other c, rest)

/-! ## Nothing is lost -/

theorem Token.text_quotedRun (quote : Char) (escapes : Bool) (text : List Char) :
    (Token.quotedRun quote escapes text).text [quote] = text := by
  fun_induction Token.quotedRun quote escapes text with
  | case1 => rfl
  | case2 => rfl
  | case3 c _ escaped rest ih => rw [Token.Run.text_cons, ih]; rfl
  | case4 rest => rfl
  | case5 c rest _ _ ih => rw [Token.Run.text_cons, ih]; rfl

theorem Token.text_commentRun (depth : Nat) (text : List Char) :
    (Token.commentRun depth text).text ['*', '/'] = text := by
  fun_induction Token.commentRun depth text with
  | case1 depth rest ih => rw [Token.Run.text_cons, ih]; rfl
  | case2 => rfl
  | case3 depth rest ih => rw [Token.Run.text_cons, ih]; rfl
  | case4 depth c rest _ _ _ ih => rw [Token.Run.text_cons, ih]; rfl
  | case5 => rfl

theorem Token.text_lineRun (text : List Char) : (Token.lineRun text).text ['\n'] = text := by
  fun_induction Token.lineRun text with
  | case1 => rfl
  | case2 => rfl
  | case3 c rest _ ih => rw [Token.Run.text_cons, ih]; rfl

theorem Token.eq_cons_tail_of_head? {rest : List Char} {c : Char} (head : rest.head? = some c) :
    rest = c :: rest.tail := by
  cases rest with
  | nil => simp at head
  | cons d tail => simpa using head

/-- The token's lexeme and the rest are the text. -/
theorem Token.next_append (c : Char) (rest : List Char) :
    (Token.next c rest).1.lexeme ++ (Token.next c rest).2 = c :: rest := by
  have quote (escapes : Bool) := Token.text_quotedRun c escapes rest
  have line := Token.text_lineRun rest.tail
  have comment := Token.text_commentRun 0 rest.tail
  simp only [Token.Run.text] at quote line comment
  unfold Token.next
  split
  · simpa [Token.lexeme] using quote true
  split
  · simpa [Token.lexeme] using quote false
  split
  · rename_i hyphens
    rw [Bool.and_eq_true, decide_eq_true_eq, decide_eq_true_eq] at hyphens
    rw [Token.eq_cons_tail_of_head? hyphens.2, hyphens.1]
    simpa [Token.lexeme] using line
  split
  · rename_i opening
    rw [Bool.and_eq_true, decide_eq_true_eq, decide_eq_true_eq] at opening
    rw [Token.eq_cons_tail_of_head? opening.2, opening.1]
    simpa [Token.lexeme] using comment
  split
  · simp_all [Token.lexeme]
  split
  · simp_all [Token.lexeme]
  split
  · rfl
  split
  · simp [Token.lexeme]
  · rfl

theorem Token.lexeme_next_ne_nil (c : Char) (rest : List Char) :
    (Token.next c rest).1.lexeme ≠ [] := by
  unfold Token.next
  repeat' split
  all_goals simp [Token.lexeme]

/-- What is left after a token is shorter than the text, so that scanning comes to an end. -/
theorem Token.next_length (c : Char) (rest : List Char) :
    (Token.next c rest).2.length ≤ rest.length := by
  have whole := congrArg List.length (Token.next_append c rest)
  have positive := List.length_pos_iff.mpr (Token.lexeme_next_ne_nil c rest)
  simp only [List.length_append, List.length_cons] at whole
  omega

/-! ## Scanning -/

/-- The tokens of a text. -/
def Token.scan : List Char → List Token
  | [] => []
  | c :: rest => (Token.next c rest).1 :: Token.scan (Token.next c rest).2
termination_by text => text.length
decreasing_by
  have := Token.next_length c rest
  simp only [List.length_cons]
  omega

/-- The lexemes of a text's tokens, joined, are the text. -/
theorem Token.flatMap_lexeme_scan (text : List Char) :
    (Token.scan text).flatMap Token.lexeme = text := by
  fun_induction Token.scan text with
  | case1 => rfl
  | case2 c rest ih => rw [List.flatMap_cons, ih, Token.next_append]

end SqlDriver
