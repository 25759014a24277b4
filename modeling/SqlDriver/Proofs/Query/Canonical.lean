import SqlDriver.Proofs.Query.Placeholders
import SqlDriver.Proofs.Query.Rescan

/-!
Canonical texts are read as the texts that they were made from. A name is a dollar sign and a word,
so replacing a placeholder leaves every token before it what it is and joins its word to the word
after it, if there is one: no token that opens, closes or separates anything comes or goes. A
placeholder begins no statement, hence neither do the dollar sign and the word, and the statements
are the same. What is left has no placeholders, so rewriting it changes nothing.
-/

namespace SqlDriver

/-! ## Words and names -/

/-- Puts word characters before some tokens. A word that they meet takes them in. -/
def Token.joinWord (chars : List Char) : List Token → List Token
  | .word more :: rest => .word (chars ++ more) :: rest
  | tokens => .word chars :: tokens

theorem Token.joinWord_other {chars : List Char} {token : Token}
    (other : ∀ more, token ≠ .word more) (rest : List Token) :
    Token.joinWord chars (token :: rest) = .word chars :: token :: rest := by
  cases token with
  | word more => exact absurd rfl (other more)
  | _ => rfl

/-- A word that is put before a text is one with the word that the text begins with, and changes
nothing else of how the text is read. -/
theorem Token.scan_append_word {chars : List Char} (nonempty : chars ≠ [])
    (word : ∀ c ∈ chars, Token.isWordChar c = true) (text : List Char) :
    Token.scan (chars ++ text) = Token.joinWord chars (Token.scan text) := by
  cases text with
  | nil =>
    have alone := Token.scan_word nonempty word (fun d (head : [].head? = some d) => nomatch head)
    rw [alone, Token.scan]
    rfl
  | cons c rest =>
    cases first : Token.isWordChar c with
    | false =>
      rw [Token.scan_cons, Token.joinWord_other (Token.next_other first rest).1, ← Token.scan_cons]
      refine Token.scan_word nonempty word fun d head => ?_
      rw [← Option.some.inj head]
      exact first
    | true =>
      have reads := Token.reads_word first rest
      have whole : chars ++ c :: rest =
          (chars ++ c :: rest.takeWhile Token.isWordChar) ++ rest.dropWhile Token.isWordChar := by
        rw [List.append_assoc, List.cons_append, List.takeWhile_append_dropWhile]
      rw [reads.scan, whole]
      exact Token.scan_word (List.append_ne_nil_of_left_ne_nil nonempty _)
        (List.forall_mem_append.mpr ⟨word, reads.isWordChar⟩) reads.meets

/-! ## Names in the place of placeholders -/

/-- A parameter's name without the dollar sign that it begins with. -/
def Parameter.nameWord (stem : List Char) (position : Nat) : List Char :=
  (Parameter.name stem position).tail

theorem Token.isWordChar_of_isDigit {c : Char} (digit : c.isDigit = true) :
    Token.isWordChar c = true := by
  simp [Token.isWordChar, Char.isAlphanum, digit]

/-- A name is a dollar sign and a word, so it is read as two tokens, neither of which is a
placeholder. -/
theorem Parameter.name_eq (text : List Char) (position : Nat) :
    let word := Parameter.nameWord (Parameter.stem text) position
    Parameter.name (Parameter.stem text) position = '$' :: word ∧
      word ≠ [] ∧ ∀ c ∈ word, Token.isWordChar c = true := by
  refine ⟨rfl, by simp [Parameter.nameWord, Parameter.name, Parameter.stem, Parameter.base], ?_⟩
  intro c member
  have parts : c ∈ ['j', 'p'] ++ List.replicate (Parameter.underscores text) '_' ++
      Nat.toDigits 10 position := member
  rcases List.mem_append.mp parts with stem | digit
  · rcases List.mem_append.mp stem with base | underscore
    · have all : ['j', 'p'].all Token.isWordChar = true := by decide
      exact List.all_eq_true.mp all c base
    · rw [List.eq_of_mem_replicate underscore]
      decide
  · exact Token.isWordChar_of_isDigit (Nat.isDigit_of_mem_toDigits (by decide) (by decide) digit)

/-- The tokens of a text after its placeholders are replaced, when `count` placeholders stand before
them: for each of these a dollar sign and a word, which may take in the word after it. -/
def Token.named (stem : List Char) : Nat → List Token → List Token
  | _, [] => []
  | count, .placeholder :: rest =>
    .other '$' :: Token.joinWord (Parameter.nameWord stem (count + 1))
      (Token.named stem (count + 1) rest)
  | count, token :: rest => token :: Token.named stem count rest

theorem Token.named_cons {token : Token} (other : token ≠ .placeholder) (stem : List Char)
    (count : Nat) (rest : List Token) :
    Token.named stem count (token :: rest) = token :: Token.named stem count rest := by
  cases token with
  | placeholder => exact absurd rfl other
  | _ => rfl

theorem Token.joinWord_no_placeholder {chars : List Char} {tokens : List Token}
    (none : Token.placeholder ∉ tokens) : Token.placeholder ∉ Token.joinWord chars tokens := by
  unfold Token.joinWord
  split
  · simpa using none
  · simpa using none

/-- Once names are in the place of the placeholders, none is left, whatever words have come
together. -/
theorem Token.named_no_placeholder (stem : List Char) (count : Nat) (tokens : List Token) :
    Token.placeholder ∉ Token.named stem count tokens := by
  fun_induction Token.named stem count tokens with
  | case1 => exact List.not_mem_nil
  | case2 count rest ih =>
    rw [List.mem_cons, not_or]
    exact ⟨Token.noConfusion, Token.joinWord_no_placeholder ih⟩
  | case3 count token rest other ih =>
    rw [List.mem_cons, not_or]
    exact ⟨fun same => other same.symm, ih⟩

/-! ## The first character of a rewritten text -/

/-- What a character becomes at the head of a text. -/
def Parameter.leading (c : Char) : Char := if c = '?' then '$' else c

theorem Parameter.leading_other {c : Char} (other : c ≠ '?') : Parameter.leading c = c :=
  if_neg other

/-- A question mark is read as a placeholder, where it is read at all. -/
theorem Token.next_placeholder_iff (c : Char) (rest : List Char) :
    (Token.next c rest).1 = .placeholder ↔ c = '?' := by
  constructor
  · intro placeholder
    have whole := Token.next_append c rest
    rw [placeholder] at whole
    exact (List.cons.inj whole).1.symm
  · rintro rfl
    rfl

/-- The text of some tokens begins, after the placeholders are replaced, as it does before, but for
a dollar sign in the place of a question mark. -/
theorem Parameter.head?_substitute (text : List Char) (count : Nat) (chars : List Char) :
    (Parameter.substitute (Parameter.stem text) count (Token.scan chars)).head? =
      chars.head?.map Parameter.leading := by
  cases chars with
  | nil => rw [Token.scan]; rfl
  | cons c rest =>
    rw [Token.scan_cons, List.head?_cons, Option.map_some]
    by_cases here : (Token.next c rest).1 = .placeholder
    · have question := (Token.next_placeholder_iff c rest).mp here
      rw [here, question]
      rfl
    · have other := mt (Token.next_placeholder_iff c rest).mpr here
      have lexeme := congrArg List.head? (Token.next_append c rest)
      rw [List.head?_append_of_ne_nil _ (Token.lexeme_next_ne_nil c rest)] at lexeme
      rw [Parameter.substitute_cons here,
        List.head?_append_of_ne_nil _ (Token.lexeme_next_ne_nil c rest), lexeme,
        Parameter.leading_other other]
      rfl

/-- What leaves a token as it is still does so after its placeholders are replaced, since neither a
question mark nor a dollar sign goes on with any token. -/
theorem Token.Meets.leading {token : Token} {after after' : List Char} (meets : token.Meets after)
    (head : after'.head? = after.head?.map Parameter.leading) : token.Meets after' := by
  have empty : after = [] → after' = [] := by
    rintro rfl
    exact List.head?_eq_none_iff.mp head
  have kept {mark : Char} (apart : mark ≠ '$') (here : after'.head? = some mark) :
      after.head? = some mark := by
    rw [head, Option.map_eq_some_iff] at here
    obtain ⟨c, first, shown⟩ := here
    by_cases question : c = '?'
    · rw [question] at shown
      exact absurd shown.symm apart
    · rw [Parameter.leading_other question] at shown
      rw [first, shown]
  cases token with
  | word chars =>
    intro c here
    by_cases dollar : c = '$'
    · rw [dollar]
      decide
    · exact meets c (kept dollar here)
  | quoted | lineComment | blockComment => exact fun never => empty (meets never)
  | other c =>
    exact ⟨fun same here => meets.1 same (kept (by decide) here),
      fun same here => meets.2 same (kept (by decide) here)⟩
  | space | separator | placeholder => trivial

theorem Token.scan_dollar (rest : List Char) :
    Token.scan ('$' :: rest) = .other '$' :: Token.scan rest := by
  rw [Token.scan_cons]
  rfl

/-- The tokens of a rewritten text are those of the text, with names in the place of the
placeholders. -/
theorem Token.scan_substitute (text : List Char) (count : Nat) (chars : List Char) :
    let stem := Parameter.stem text
    Token.scan (Parameter.substitute stem count (Token.scan chars)) =
      Token.named stem count (Token.scan chars) := by
  fun_induction Token.scan chars generalizing count with
  | case1 => exact Token.scan.eq_1
  | case2 c rest ih =>
    dsimp only at ih ⊢
    by_cases here : (Token.next c rest).1 = .placeholder
    · obtain ⟨name, nonempty, word⟩ := Parameter.name_eq text (count + 1)
      rw [here, Parameter.substitute, Token.named, name, List.cons_append]
      rw [Token.scan_dollar, Token.scan_append_word nonempty word, ih]
    · have meets := (Token.reads c rest).meets.leading (Parameter.head?_substitute text count _)
      rw [Parameter.substitute_cons here, Token.named_cons here,
        Token.scan_lexeme_append c rest meets, ih]

/-! ## The statements of a text -/

/-- A word after the beginning of a statement is no fault and begins none. -/
theorem Descriptor.statements?_word (mode : ReadingMode) (offset : Nat)
    (established : Option QueryKind) (chars : List Char) (rest : List Token) :
    Descriptor.statements? mode offset false established (.word chars :: rest) =
      Descriptor.statements? mode (offset + utf8Length chars) false established rest := rfl

section

variable {mode : ReadingMode} {established : Option QueryKind} {families : List StatementKind}

/-- Word characters after the beginning of a statement make no difference to the families, whether
they begin a word or are one with a word that was there. -/
theorem Descriptor.statements?_joinWord (chars : List Char) {tokens : List Token}
    (found : ∀ offset,
      Descriptor.statements? mode offset false established tokens = .ok families)
    (offset : Nat) :
    Descriptor.statements? mode offset false established (Token.joinWord chars tokens) =
      .ok families := by
  unfold Token.joinWord
  split
  · rename_i more rest
    have later := found (offset + utf8Length chars)
    rw [Descriptor.statements?_word] at later ⊢
    rw [utf8Length_eq_length, utf8Bytes_append, List.length_append, ← utf8Length_eq_length,
      ← utf8Length_eq_length, ← Nat.add_assoc]
    exact later
  · rw [Descriptor.statements?_word]
    exact found _

/-- The statements of an accepted text are still found after its placeholders are replaced. A
placeholder begins no statement, so each stands after the beginning of one. -/
theorem Descriptor.statements?_named (stem : List Char) {offset : Nat} {starting : Bool}
    {tokens : List Token}
    (found : Descriptor.statements? mode offset starting established tokens = .ok families)
    (offset' count : Nat) :
    Descriptor.statements? mode offset' starting established (Token.named stem count tokens) =
      .ok families := by
  fun_induction Descriptor.statements? mode offset starting established tokens
    generalizing families offset' count with
  | case1 => exact found
  | case2 => cases found
  | case3 => cases found
  | case4 offset starting established token rest _ start statement family rec others =>
    rename_i ih
    cases found
    have word : token ≠ .placeholder := by
      rintro rfl
      cases family
    rw [Token.named_cons word, Descriptor.statements?, if_pos start, family]
    dsimp only
    rw [ih others]
  | case5 => cases found
  | case6 offset starting established token rest _ inside fault unended tolerant =>
    rename_i ih
    have word : token ≠ .placeholder := by
      rintro rfl
      cases unended
    rw [Token.named_cons word, Descriptor.statements?, if_neg inside, unended]
    dsimp only
    rw [if_neg tolerant]
    exact ih found _ _
  | case7 offset starting established token rest _ inside ended =>
    rename_i ih
    by_cases here : token = .placeholder
    · subst here
      obtain rfl : starting = false := by
        simpa [Token.isFiller] using inside
      rw [Token.named]
      exact Descriptor.statements?_joinWord _ (fun offset => ih found offset _) _
    · rw [Token.named_cons here, Descriptor.statements?, if_neg inside, ended]
      exact ih found _ _

end

/-! ## Reading a canonical text -/

/-- What a text is read as whose statements have these families: the rest of the descriptor is put
together from its tokens. -/
theorem Descriptor.parse_of_statements {mode : ReadingMode} {text : String}
    {first : StatementKind} {others : List StatementKind}
    (found : Descriptor.statements? mode 0 true none (Token.scan text.toList) =
      .ok (first :: others)) :
    let tokens := Token.scan text.toList
    let stem := Parameter.stem text.toList
    Descriptor.parse mode text =
      .ok ⟨text, String.ofList (Parameter.substitute stem 0 tokens), first.queryKind,
        Parameter.names stem (tokens.count .placeholder), first :: others⟩ := by
  unfold Descriptor.parse
  dsimp only
  rw [found]

/-- An accepted text holds at least one statement. -/
theorem Descriptor.exists_statements {mode : ReadingMode} {text : String} {d : Descriptor}
    (parsed : Descriptor.parse mode text = .ok d) :
    ∃ first others, Descriptor.statements? mode 0 true none (Token.scan text.toList) =
      .ok (first :: others) := by
  unfold Descriptor.parse at parsed
  dsimp only at parsed
  split at parsed
  · cases parsed
  · cases parsed
  · rename_i found
    exact ⟨_, _, found⟩

theorem Parameter.substitute_no_placeholder {tokens : List Token}
    (none : Token.placeholder ∉ tokens) (stem : List Char) (count : Nat) :
    Parameter.substitute stem count tokens = tokens.flatMap Token.lexeme := by
  induction tokens with
  | nil => rfl
  | cons token rest ih =>
    rw [List.mem_cons, not_or] at none
    rw [Parameter.substitute_cons (Ne.symm none.1), ih none.2, List.flatMap_cons]

/-- A canonical text is read as the text that it was made from, with no parameters left: it has the
same statements and the same kind, and is canonical itself. -/
theorem Descriptor.parse_canonical {mode : ReadingMode} {text : String} {d : Descriptor}
    (parsed : Descriptor.parse mode text = .ok d) :
    Descriptor.parse mode d.canonical = .ok { d with raw := d.canonical, parameters := [] } := by
  obtain ⟨first, others, found⟩ := Descriptor.exists_statements parsed
  have same := (Descriptor.parse_of_statements found).symm.trans parsed
  cases same
  have tokens := Token.scan_substitute text.toList 0 text.toList
  dsimp only at tokens ⊢
  generalize Parameter.stem text.toList = stem at tokens ⊢
  generalize whole : Parameter.substitute stem 0 (Token.scan text.toList) = canonical at tokens ⊢
  have families := Descriptor.statements?_named stem found 0 0
  have none := Token.named_no_placeholder stem 0 (Token.scan text.toList)
  have kept := Parameter.substitute_no_placeholder none (Parameter.stem canonical) 0
  rw [← tokens] at families none kept
  rw [← String.toList_ofList (l := canonical)] at families none kept
  rw [Descriptor.parse_of_statements families, kept, List.count_eq_zero_of_not_mem none,
    Token.flatMap_lexeme_scan, String.toList_ofList]
  rfl

/-- Rewriting is done once and for all. What reading a text makes of it can be read again in the same
mode: it has no parameters, the same kind and the same statements, and is its own canonical text. -/
theorem Descriptor.parse_canonical_fixed {mode : ReadingMode} {text : String} {d : Descriptor}
    (parsed : Descriptor.parse mode text = .ok d) :
    ∃ again, Descriptor.parse mode d.canonical = .ok again ∧
      again.parameters = [] ∧ again.kind = d.kind ∧ again.statements = d.statements ∧
      again.canonical = d.canonical :=
  ⟨_, Descriptor.parse_canonical parsed, rfl, rfl, rfl, rfl⟩

/-- Placeholders between the characters of comment marks, before words and digits, next to a closed
quote, and a tail that never ends. -/
theorem Descriptor.parse_canonical_fixed_open_tail :
    let text := "SELECT -?-?1 /?*?_a, '\\'?'?\"?\"; upDate/*?*/ ?;;insert --?\n/?/* '?"
    ∃ d again, Descriptor.parse .tolerant text = .ok d ∧
      d.canonical =
        "SELECT -$jp1-$jp21 /$jp3*$jp4_a, '\\'?'$jp5\"?\"; upDate/*?*/ $jp6;;insert --?\n/$jp7/* '?" ∧
      Descriptor.parse .tolerant d.canonical = .ok again ∧
      again.parameters = [] ∧ again.kind = .data ∧
      again.statements = [.select, .update, .update] ∧ again.canonical = d.canonical := by
  intro text
  have parsed : Descriptor.parse .tolerant text = .ok ⟨text,
      "SELECT -$jp1-$jp21 /$jp3*$jp4_a, '\\'?'$jp5\"?\"; upDate/*?*/ $jp6;;insert --?\n/$jp7/* '?",
      .data, ["$jp1", "$jp2", "$jp3", "$jp4", "$jp5", "$jp6", "$jp7"],
      [.select, .update, .update]⟩ := by
    decide +kernel
  obtain ⟨again, read, parameters, kind, statements, canonical⟩ :=
    Descriptor.parse_canonical_fixed parsed
  exact ⟨_, again, parsed, rfl, read, parameters, kind, statements, canonical⟩

end SqlDriver
