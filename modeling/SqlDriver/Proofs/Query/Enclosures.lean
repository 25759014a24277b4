import SqlDriver.Proofs.Query.Parts

/-!
What is enclosed in quotes or in a comment is not read. Between a text that ends outside of quotes
and comments and any other, an enclosure is one token, whatever its content; how a text is
classified depends on the form of the enclosure alone. A content only decides how far the second
text is from the first, and which names the parameters get.

A hyphen at the end of the first text is part of a line comment that follows it.
-/

namespace SqlDriver

/-! ## Enclosures -/

/-- The forms in which a content is enclosed. -/
inductive Enclosure where
  /-- A literal in single quotes. -/
  | single
  /-- A name in double quotes. -/
  | double
  /-- A name between backticks. -/
  | back
  /-- A comment up to the end of the line. -/
  | line
  /-- A comment between its marks. -/
  | block
deriving DecidableEq, Repr

/-- A content with a backslash before every backslash and every single quote. -/
def Enclosure.escape (content : List Char) : List Char :=
  content.flatMap fun c => if c = '\\' ∨ c = '\'' then ['\\', c] else [c]

/-- The text of an enclosed content. A line comment has its line feed with it. -/
def Enclosure.text : Enclosure → List Char → List Char
  | .single, content => '\'' :: Enclosure.escape content ++ ['\'']
  | .double, content => '"' :: content ++ ['"']
  | .back, content => '\x60' :: content ++ ['\x60']
  | .line, content => '-' :: '-' :: content ++ ['\n']
  | .block, content => '/' :: '*' :: content ++ ['*', '/']

/-- The text in which an enclosed content stands between two others. -/
def Enclosure.between (e : Enclosure) (a content b : List Char) : String :=
  String.ofList (a ++ e.text content ++ b)

/-- Whether a content can be enclosed in the form. -/
def Enclosure.Admits : Enclosure → List Char → Prop
  | .single, _ => True
  | .double, content => '"' ∉ content
  | .back, content => '\x60' ∉ content
  | .line, content => '\n' ∉ content
  | .block, content => '*' ∉ content ∧ '/' ∉ content

instance (e : Enclosure) (content : List Char) : Decidable (e.Admits content) :=
  match e with
  | .single => inferInstanceAs (Decidable True)
  | .double => inferInstanceAs (Decidable ('"' ∉ content))
  | .back => inferInstanceAs (Decidable ('\x60' ∉ content))
  | .line => inferInstanceAs (Decidable ('\n' ∉ content))
  | .block => inferInstanceAs (Decidable ('*' ∉ content ∧ '/' ∉ content))

/-- The token of an enclosed content. -/
def Enclosure.token : Enclosure → List Char → Token
  | .single, content => .quoted '\'' (Enclosure.escape content) true
  | .double, content => .quoted '"' content true
  | .back, content => .quoted '\x60' content true
  | .line, content => .lineComment content true
  | .block, content => .blockComment content true

/-- The character with which the form begins. -/
def Enclosure.mark : Enclosure → Char
  | .single => '\''
  | .double => '"'
  | .back => '\x60'
  | .line => '-'
  | .block => '/'

/-- A text at the end of which the scanner is outside of quotes and comments. -/
def Token.EndsOutside (text : List Char) : Prop :=
  ∀ token ∈ Token.scan text, token.isEnded = true

instance (text : List Char) : Decidable (Token.EndsOutside text) :=
  inferInstanceAs (Decidable (∀ token ∈ Token.scan text, token.isEnded = true))

/-! ## The token of an enclosure -/

/-- In a literal each quote that is doubled belongs to the contents, so the literal ends with the
quote that was put after them. -/
theorem Token.quotedRun_escape (content after : List Char) :
    Token.quotedRun '\'' true (Enclosure.escape content ++ '\'' :: after) =
      ⟨Enclosure.escape content, true, after⟩ := by
  induction content with
  | nil => exact Token.quotedRun_quote rfl after
  | cons c content ih =>
    rw [Enclosure.escape, List.flatMap_cons, ← Enclosure.escape, List.append_assoc]
    split
    · rw [List.cons_append, List.cons_append, List.nil_append, Token.quotedRun_escaped, ih]
      rfl
    · rename_i plain
      rw [not_or] at plain
      rw [List.singleton_append, Token.quotedRun_cons (by simp [plain.1]) plain.2, ih]
      rfl

/-- A block comment ends with its own mark if its contents hold no part of one. -/
theorem Token.commentRun_append {content : List Char} (star : '*' ∉ content) (slash : '/' ∉ content)
    (after : List Char) :
    Token.commentRun 0 (content ++ '*' :: '/' :: after) = ⟨content, true, after⟩ := by
  induction content with
  | nil => rfl
  | cons c content ih =>
    rw [List.mem_cons, not_or] at star slash
    rw [List.cons_append, Token.commentRun, ih star.2 slash.2]
    · rfl
    · exact fun _ same => absurd same.symm slash.1
    · exact fun _ _ same => absurd same.symm star.1
    · exact fun depth _ inner => absurd inner.symm (Nat.succ_ne_zero depth)

/-- An enclosure is read as its token: whatever its contents would mean elsewhere, they make up one
token with their marks. -/
theorem Enclosure.scan_text {e : Enclosure} {content : List Char} (admits : e.Admits content)
    (after : List Char) :
    Token.scan (e.text content ++ after) = e.token content :: Token.scan after := by
  cases e with
  | single =>
    rw [Enclosure.text, List.append_assoc]
    exact (Token.Reads.single (Token.quotedRun_escape content after)).scan
  | double =>
    rw [Enclosure.text, List.append_assoc]
    exact (Token.Reads.double (.inl rfl) (Token.quotedRun_append admits after)).scan
  | back =>
    rw [Enclosure.text, List.append_assoc]
    exact (Token.Reads.double (.inr rfl) (Token.quotedRun_append admits after)).scan
  | line =>
    rw [Enclosure.text, List.append_assoc]
    exact Token.scan_lineComment admits after
  | block =>
    rw [Enclosure.text, List.append_assoc]
    exact (Token.Reads.block (Token.commentRun_append admits.1 admits.2 after)).scan

/-! ## An enclosure after a text -/

section

variable {e : Enclosure} {a content : List Char}

theorem Enclosure.head?_text (e : Enclosure) (content after : List Char) :
    (e.text content ++ after).head? = some e.mark := by
  cases e <;> rfl

/-- A token that has come to its end stays what it is before an enclosure, unless it is a hyphen
before a line comment. -/
theorem Enclosure.meets_text {token : Token} (ended : token.isEnded = true)
    (apart : e = .line → token ≠ .other '-') (after : List Char) :
    token.Meets (e.text content ++ after) := by
  refine Token.meets_of_ended ended (e.head?_text content after) ?_ (fun mark => apart ?_) ?_
  · cases e <;> rfl
  · cases e with
    | line => rfl
    | single | double | back | block => cases mark
  · cases e <;> decide

/-- Behind a text that ends outside, an enclosure is one token, between the tokens of the text and
those of what comes after it. A hyphen at the end of the text belongs to a line comment. -/
theorem Enclosure.scan_between (outside : Token.EndsOutside a) (e : Enclosure) :
    ∃ front lead, a = front.flatMap Token.lexeme ++ lead ∧
      ∀ content, e.Admits content → ∀ b, Token.scan (e.between a content b).toList =
        front ++ e.token (lead ++ content) :: Token.scan b := by
  simp only [Enclosure.between, String.toList_ofList]
  by_cases hyphen : e = .line ∧ ∃ front, Token.scan a = front ++ [.other '-']
  · obtain ⟨rfl, front, whole⟩ := hyphen
    have same : a = front.flatMap Token.lexeme ++ ['-'] := by
      rw [← Token.flatMap_lexeme_scan a, whole, List.flatMap_append]
      rfl
    refine ⟨front, ['-'], same, fun content admits b => ?_⟩
    -- Of the three hyphens the first two are the mark, and the third is the first of the comment.
    have absent : '\n' ∉ '-' :: content := by
      rw [List.mem_cons, not_or]
      exact ⟨by decide, admits⟩
    have comment := Token.scan_lineComment absent b
    have joined : a ++ Enclosure.line.text content ++ b =
        front.flatMap Token.lexeme ++ '-' :: '-' :: ('-' :: content ++ '\n' :: b) := by
      rw [same]
      simp [Enclosure.text]
    rw [joined, Token.scan_append_of_head? whole (by rfl), comment]
    rfl
  · refine ⟨Token.scan a, [], ?_, fun content admits b => ?_⟩
    · rw [Token.flatMap_lexeme_scan, List.append_nil]
    · rw [List.append_assoc, Token.scan_append, Enclosure.scan_text admits]
      · rfl
      · intro front token whole
        refine Enclosure.meets_text (outside token ?_) (fun line same => hyphen ?_) b
        · rw [whole]
          exact List.mem_append_right _ List.mem_cons_self
        · exact ⟨line, front, same ▸ whole⟩

end

/-! ## The statements around an enclosure -/

/-- Whether the form is that of a comment. -/
def Enclosure.isComment : Enclosure → Bool
  | .line | .block => true
  | .single | .double | .back => false

/-- A statement cannot begin with a quote; otherwise an enclosure is passed over, whatever it holds.
-/
theorem Enclosure.statements?_token (e : Enclosure) (content : List Char) (mode : ReadingMode)
    (offset : Nat) (starting : Bool) (established : Option QueryKind) (rest : List Token) :
    Descriptor.statements? mode offset starting established (e.token content :: rest) =
      if starting && !e.isComment then .error (offset, .unexpectedStart e.mark)
      else Descriptor.statements? mode (offset + utf8Length (e.token content).lexeme) starting
        established rest := by
  cases e <;> cases starting <;> rfl

theorem Enclosure.token_ne_placeholder (e : Enclosure) (content : List Char) :
    e.token content ≠ .placeholder := by
  cases e <;> exact nofun

/-- How a text with an enclosure in it is read: every content is refused for the same fault no
further than where the enclosure begins, or all are answered alike but that what stands behind the
enclosure has its place there. -/
theorem Descriptor.statements?_enclosed (mode : ReadingMode) {a : List Char}
    (outside : Token.EndsOutside a) (e : Enclosure) (b : List Char) :
    ((∃ p fault, p ≤ utf8Length a ∧ ∀ content, e.Admits content →
      Descriptor.statements? mode 0 true none (Token.scan (e.between a content b).toList) =
        .error (p, fault)) ∨
    ∃ answer : Except (Nat × GrammarFault) (List StatementKind), ∀ content, e.Admits content →
      Descriptor.statements? mode 0 true none (Token.scan (e.between a content b).toList) =
        answer.mapError fun fault =>
          (utf8Length a + utf8Length (e.text content) + fault.1, fault.2)) ∧
    ∃ count, ∀ content, e.Admits content →
      (Token.scan (e.between a content b).toList).count .placeholder = count := by
  obtain ⟨front, lead, same, scanned⟩ := Enclosure.scan_between outside e
  have length : Token.width front + utf8Length lead = utf8Length a := by
    rw [same, utf8Length_append, Token.width]
  have behind {content : List Char} (admits : e.Admits content) :
      Token.width front + utf8Length (e.token (lead ++ content)).lexeme =
        utf8Length a + utf8Length (e.text content) := by
    have bytes := congrArg Token.width (scanned content admits [])
    simp only [Enclosure.between, String.toList_ofList, Token.width_append, Token.width_cons,
      Token.width_scan, utf8Length_append] at bytes
    omega
  constructor
  · cases found : Descriptor.statements? mode 0 true none front with
    | error fault =>
      refine Or.inl ⟨fault.1, fault.2, ?_, fun content admits => ?_⟩
      · have := Descriptor.statements?_error_le found
        omega
      · rw [scanned content admits, Descriptor.statements?_append, found]
        rfl
    | ok families =>
      cases refused : Descriptor.startingAfter true front && !e.isComment with
      | true =>
        refine Or.inl ⟨Token.width front, .unexpectedStart e.mark, by omega,
          fun content admits => ?_⟩
        rw [scanned content admits, Descriptor.statements?_append, found]
        dsimp only [Except.bind]
        rw [Enclosure.statements?_token, if_pos refused, Nat.zero_add]
        rfl
      | false =>
        refine Or.inr ⟨(Descriptor.statements? mode 0 (Descriptor.startingAfter true front)
          (Descriptor.establishedAfter none families) (Token.scan b)).map (families ++ ·),
          fun content admits => ?_⟩
        rw [scanned content admits, Descriptor.statements?_append, found]
        dsimp only [Except.bind]
        rw [Enclosure.statements?_token, if_neg (by simp [refused]), Nat.zero_add, behind admits,
          ← Nat.add_zero (utf8Length a + _), Descriptor.statements?_shift]
        cases Descriptor.statements? mode 0 (Descriptor.startingAfter true front)
          (Descriptor.establishedAfter none families) (Token.scan b) <;> rfl
  · refine ⟨front.count .placeholder + (Token.scan b).count .placeholder, fun content admits => ?_⟩
    rw [scanned content admits, List.count_append,
      List.count_cons_of_ne (e.token_ne_placeholder _)]

/-! ## Contents make no difference -/

/-- Whether two texts are answered alike when they differ only in the bytes from `front` on, which
are `width` of the one and `width'` of the other: both are accepted with the same statements and as
many parameters, or both are refused for the same fault at the same place of what they share. -/
inductive Descriptor.SameAnswer (front width width' : Nat) :
    Except QueryError Descriptor → Except QueryError Descriptor → Prop
  | accepted {d d' : Descriptor} (kind : d.kind = d'.kind)
      (statements : d.statements = d'.statements)
      (count : d.parameters.length = d'.parameters.length) :
      Descriptor.SameAnswer front width width' (.ok d) (.ok d')
  | before {p : Nat} (place : p ≤ front) (fault : GrammarFault) :
      Descriptor.SameAnswer front width width' (.error (.grammar p fault))
        (.error (.grammar p fault))
  | behind (p : Nat) (fault : GrammarFault) :
      Descriptor.SameAnswer front width width' (.error (.grammar (front + width + p) fault))
        (.error (.grammar (front + width' + p) fault))

/-- What is enclosed in quotes or in a comment does not influence how a text is classified, wherever
the enclosure stands outside of others and whatever its content and the text after it are. -/
theorem Descriptor.parse_enclosed (mode : ReadingMode) {a : List Char}
    (outside : Token.EndsOutside a) (e : Enclosure) {s t : List Char} (admits : e.Admits s)
    (admits' : e.Admits t) (b : List Char) :
    Descriptor.SameAnswer (utf8Length a) (utf8Length (e.text s)) (utf8Length (e.text t))
      (Descriptor.parse mode (e.between a s b)) (Descriptor.parse mode (e.between a t b)) := by
  obtain ⟨⟨p, fault, place, refused⟩ | ⟨answer, read⟩, count, counted⟩ :=
    Descriptor.statements?_enclosed mode outside e b
  · rw [Descriptor.parse_of_fault (refused s admits), Descriptor.parse_of_fault (refused t admits')]
    exact .before place fault
  · have first := read s admits
    have second := read t admits'
    cases answer with
    | error fault =>
      rw [Descriptor.parse_of_fault first, Descriptor.parse_of_fault second]
      exact .behind fault.1 fault.2
    | ok families =>
      cases families with
      | nil =>
        rw [Descriptor.parse_of_no_statements first, Descriptor.parse_of_no_statements second]
        exact .before (Nat.zero_le _) _
      | cons family others =>
        rw [Descriptor.parse_of_statements first, Descriptor.parse_of_statements second]
        refine .accepted rfl rfl ?_
        simp only [Parameter.names, List.length_map, List.length_range]
        rw [counted s admits, counted t admits']

/-- A literal of all that means something elsewhere, and an empty one. -/
theorem Descriptor.parse_enclosed_marks :
    let a := "SELECT ? -\t".toList
    let s := "'?; drop -- $jp /* \\ \" é".toList
    let b := "; upsert ?".toList
    Token.EndsOutside a ∧ Enclosure.single.Admits s ∧ Enclosure.single.Admits [] ∧
      Descriptor.SameAnswer 11 29 2 (Descriptor.parse .strict (Enclosure.single.between a s b))
        (Descriptor.parse .strict (Enclosure.single.between a [] b)) := by
  intro a s b
  have outside : Token.EndsOutside a := by decide +kernel
  have admits : Enclosure.single.Admits s := by decide
  have empty : Enclosure.single.Admits [] := by decide
  exact ⟨outside, admits, empty, Descriptor.parse_enclosed .strict outside .single admits empty b⟩

end SqlDriver
