import SqlDriver.Proofs.Query.Canonical

/-!
Reading a text in parts. A text may be cut between any two of its tokens: the parts are scanned to
the tokens before and after the cut, and the part before it is scanned in the same way before any
characters that its last token meets. What reading the tokens before the cut leaves to the others is
their position, whether a statement may begin, and the kind of the statements so far.
-/

namespace SqlDriver

/-! ## Scanning -/

theorem Token.meets_nil (token : Token) : token.Meets [] := by
  cases token with
  | word chars => exact fun _ head => nomatch head
  | other c => exact ⟨fun _ => nofun, fun _ => nofun⟩
  | quoted | lineComment | blockComment => exact fun _ => rfl
  | space | separator | placeholder => trivial

/-- Whether characters leave a token as it is depends on the first of them only, or on whether there
are any. -/
theorem Token.Meets.of_head? {token : Token} {after after' : List Char} (meets : token.Meets after)
    (head : after'.head? = after.head?) : token.Meets after' := by
  have empty : after = [] → after' = [] := by
    rintro rfl
    exact List.head?_eq_none_iff.mp head
  cases token with
  | word chars => exact fun c here => meets c (head ▸ here)
  | other c => exact ⟨fun same => head ▸ meets.1 same, fun same => head ▸ meets.2 same⟩
  | quoted | lineComment | blockComment => exact fun never => empty (meets never)
  | space | separator | placeholder => trivial

/-- Whether a token has come to its end where the text after it begins. -/
def Token.isEnded : Token → Bool
  | .quoted _ _ closed => closed
  | .lineComment _ ended => ended
  | .blockComment _ closed => closed
  | _ => true

/-- A token that has come to its end stays what it is before a character that is none of a word and
does not make a mark with it. -/
theorem Token.meets_of_ended {token : Token} {after : List Char} {c : Char}
    (ended : token.isEnded = true) (head : after.head? = some c)
    (word : Token.isWordChar c = false) (line : c = '-' → token ≠ .other '-') (block : c ≠ '*') :
    token.Meets after := by
  cases token with
  | word chars =>
    intro d same
    rw [head] at same
    cases same
    exact word
  | other d =>
    rw [Token.Meets, head]
    constructor
    · rintro rfl same
      exact line (Option.some.inj same) rfl
    · rintro rfl same
      exact block (Option.some.inj same)
  | quoted quote body closed =>
    cases ended
    exact fun never => nomatch never
  | lineComment body closed =>
    cases ended
    exact fun never => nomatch never
  | blockComment body closed =>
    cases ended
    exact fun never => nomatch never
  | space | separator | placeholder => trivial

section

variable {text after : List Char} {front back : List Token} {token : Token}

theorem Token.lexeme_ne_nil_of_mem_scan (member : token ∈ Token.scan text) :
    token.lexeme ≠ [] := by
  fun_induction Token.scan text with
  | case1 => cases member
  | case2 c rest ih =>
    rcases List.mem_cons.mp member with rfl | later
    · exact Token.lexeme_next_ne_nil c rest
    · exact ih later

/-- A token meets the characters that it stands before, in whatever text it was read. -/
theorem Token.meets_of_scan (whole : Token.scan text = front ++ token :: back) :
    token.Meets (back.flatMap Token.lexeme) := by
  fun_induction Token.scan text generalizing front with
  | case1 => simp at whole
  | case2 c rest ih =>
    cases front with
    | nil =>
      obtain ⟨rfl, later⟩ := List.cons.inj whole
      rw [← later, Token.flatMap_lexeme_scan]
      exact (Token.reads c rest).meets
    | cons first front => exact ih (List.cons.inj whole).2

/-- The part of a text before a cut is scanned as it is before the text after the cut, whatever
comes instead, if its last token meets that. -/
theorem Token.scan_append_of_meets (after : List Char) (whole : Token.scan text = front ++ back)
    (meets : ∀ token, front.getLast? = some token → token.Meets after) :
    Token.scan (front.flatMap Token.lexeme ++ after) = front ++ Token.scan after := by
  fun_induction Token.scan text generalizing front with
  | case1 =>
    obtain rfl := (List.append_eq_nil_iff.mp whole.symm).1
    rfl
  | case2 c rest ih =>
    cases front with
    | nil => rfl
    | cons first front =>
      obtain ⟨rfl, later⟩ := List.cons.inj whole
      have inner :
          Token.scan (front.flatMap Token.lexeme ++ after) = front ++ Token.scan after := by
        cases front with
        | nil => rfl
        | cons second front => exact ih later fun token last => meets token last
      rw [List.flatMap_cons, List.append_assoc, Token.scan_lexeme_append c rest, inner,
        List.cons_append]
      cases front with
      | nil => exact meets _ rfl
      | cons second front =>
        -- Only the last token before the cut has other characters after it than it had.
        have nonempty : second.lexeme ≠ [] := by
          refine Token.lexeme_ne_nil_of_mem_scan (?_ : second ∈ Token.scan (Token.next c rest).2)
          rw [later]
          exact List.mem_cons_self
        refine (Token.reads c rest).meets.of_head? ?_
        have behind : (Token.next c rest).2 =
            (second :: (front ++ back)).flatMap Token.lexeme := by
          rw [← Token.flatMap_lexeme_scan (Token.next c rest).2, later]
          rfl
        rw [behind, List.flatMap_cons, List.flatMap_cons, List.append_assoc,
          List.head?_append_of_ne_nil _ nonempty, List.head?_append_of_ne_nil _ nonempty]

/-- A text is scanned as it is before characters that its last token meets. This is what lets texts
be put together and be looked at part by part. -/
theorem Token.scan_append
    (meets : ∀ front token, Token.scan text = front ++ [token] → token.Meets after) :
    Token.scan (text ++ after) = Token.scan text ++ Token.scan after := by
  have cut := Token.scan_append_of_meets after (List.append_nil (Token.scan text)).symm
    fun token last => by
      obtain ⟨front, whole⟩ := List.getLast?_eq_some_iff.mp last
      exact meets front token whole
  rwa [Token.flatMap_lexeme_scan] at cut

/-- The front of a text, up to the end of a token, is read as the same tokens when nothing comes
after it. -/
theorem Token.scan_front (whole : Token.scan text = front ++ back) :
    Token.scan (front.flatMap Token.lexeme) = front := by
  have alone := Token.scan_append_of_meets [] whole fun token _ => token.meets_nil
  rwa [Token.scan, List.append_nil, List.append_nil] at alone

/-- The rest of a text, from the beginning of a token on, is read as the same tokens by itself. -/
theorem Token.scan_back (whole : Token.scan text = front ++ back) :
    Token.scan (back.flatMap Token.lexeme) = back := by
  fun_induction Token.scan text generalizing front with
  | case1 =>
    obtain rfl := (List.append_eq_nil_iff.mp whole.symm).2
    exact Token.scan.eq_1
  | case2 c rest ih =>
    cases front with
    | nil => rw [← List.nil_append back, ← whole, ← Token.scan_cons, Token.flatMap_lexeme_scan]
    | cons first front => exact ih (List.cons.inj whole).2

/-- The text after a cut may be any other that begins with the same character, and the tokens before
the cut stay what they are. -/
theorem Token.scan_append_of_head? (whole : Token.scan text = front ++ back)
    (head : after.head? = (back.flatMap Token.lexeme).head?) :
    Token.scan (front.flatMap Token.lexeme ++ after) = front ++ Token.scan after := by
  refine Token.scan_append_of_meets after whole fun token last => ?_
  obtain ⟨init, rfl⟩ := List.getLast?_eq_some_iff.mp last
  rw [List.append_assoc, List.singleton_append] at whole
  exact (Token.meets_of_scan whole).of_head? head

end

/-! ## Closing a run -/

section

variable {quote c : Char} {escapes : Bool}

theorem Token.quotedRun_quote (straight : (escapes && quote = '\\') = false) (after : List Char) :
    Token.quotedRun quote escapes (quote :: after) = ⟨[], true, after⟩ := by
  unfold Token.quotedRun
  rw [if_neg (by simp [straight]), if_pos rfl]

theorem Token.quotedRun_cons (straight : (escapes && c = '\\') = false) (other : c ≠ quote)
    (text : List Char) :
    Token.quotedRun quote escapes (c :: text) = (Token.quotedRun quote escapes text).cons [c] := by
  conv_lhs => unfold Token.quotedRun
  rw [if_neg (by simp [straight]), if_neg other]

end

theorem Token.quotedRun_escaped (quote c : Char) (text : List Char) :
    Token.quotedRun quote true ('\\' :: c :: text) =
      (Token.quotedRun quote true text).cons ['\\', c] := by
  conv_lhs => unfold Token.quotedRun
  rfl

/-- Without escapes, a run is closed by the first of its quotes, whatever else it holds. -/
theorem Token.quotedRun_append {quote : Char} {body : List Char} (absent : quote ∉ body)
    (after : List Char) :
    Token.quotedRun quote false (body ++ quote :: after) = ⟨body, true, after⟩ := by
  induction body with
  | nil => exact Token.quotedRun_quote rfl after
  | cons c body ih =>
    rw [List.mem_cons, not_or] at absent
    rw [List.cons_append, Token.quotedRun_cons rfl (Ne.symm absent.1), ih absent.2]
    rfl

theorem Token.lineRun_append {body : List Char} (absent : '\n' ∉ body) (after : List Char) :
    Token.lineRun (body ++ '\n' :: after) = ⟨body, true, after⟩ := by
  rw [Token.lineRun_eq_quotedRun]
  exact Token.quotedRun_append absent after

/-- A line comment before its line feed. -/
theorem Token.scan_lineComment {body : List Char} (absent : '\n' ∉ body) (after : List Char) :
    Token.scan ('-' :: '-' :: (body ++ '\n' :: after)) =
      .lineComment body true :: Token.scan after :=
  (Token.Reads.line (Token.lineRun_append absent after)).scan

/-! ## The length of some tokens -/

/-- The number of bytes of some tokens. -/
def Token.width (tokens : List Token) : Nat := utf8Length (tokens.flatMap Token.lexeme)

@[simp] theorem utf8Length_append (front back : List Char) :
    utf8Length (front ++ back) = utf8Length front + utf8Length back := by
  rw [utf8Length_eq_length, utf8Bytes_append, List.length_append, ← utf8Length_eq_length,
    ← utf8Length_eq_length]

@[simp] theorem Token.width_cons (token : Token) (rest : List Token) :
    Token.width (token :: rest) = utf8Length token.lexeme + Token.width rest :=
  utf8Length_append _ _

@[simp] theorem Token.width_append (front back : List Token) :
    Token.width (front ++ back) = Token.width front + Token.width back := by
  rw [Token.width, List.flatMap_append, utf8Length_append]
  rfl

@[simp] theorem Token.width_scan (text : List Char) :
    Token.width (Token.scan text) = utf8Length text := by
  rw [Token.width, Token.flatMap_lexeme_scan]

/-! ## Statements -/

/-- Whether a statement may begin after a token, given whether one may begin with it. -/
def Token.startsAfter (starting : Bool) (token : Token) : Bool :=
  token = .separator || (starting && token.isFiller)

/-- What may begin after a token with which no statement begins: a statement after a separator, and
whatever might have begun before otherwise. -/
theorem Token.startsAfter_pass {starting : Bool} {token : Token}
    (pass : ¬ (starting && !token.isFiller && token ≠ .separator) = true) :
    token.startsAfter starting = (starting || token = .separator) := by
  by_cases separator : token = .separator
  · rw [Token.startsAfter, decide_eq_true separator, Bool.true_or, Bool.or_true]
  · rw [Token.startsAfter, decide_eq_false separator, Bool.false_or, Bool.or_false]
    cases starting with
    | false => rfl
    | true => simpa [separator] using pass

/-- Whether a statement may begin after some tokens. -/
def Descriptor.startingAfter (starting : Bool) (tokens : List Token) : Bool :=
  tokens.foldl Token.startsAfter starting

/-- The kind that statements of some families leave established. -/
def Descriptor.establishedAfter (established : Option QueryKind) (families : List StatementKind) :
    Option QueryKind :=
  families.foldl (fun _ family => some family.queryKind) established

theorem Descriptor.startingAfter_cons (starting : Bool) (token : Token) (rest : List Token) :
    Descriptor.startingAfter starting (token :: rest) =
      Descriptor.startingAfter (token.startsAfter starting) rest := rfl

theorem Descriptor.startingAfter_append (starting : Bool) (front back : List Token) :
    Descriptor.startingAfter starting (front ++ back) =
      Descriptor.startingAfter (Descriptor.startingAfter starting front) back :=
  List.foldl_append

theorem Descriptor.establishedAfter_append (established : Option QueryKind)
    (first others : List StatementKind) :
    Descriptor.establishedAfter established (first ++ others) =
      Descriptor.establishedAfter (Descriptor.establishedAfter established first) others :=
  List.foldl_append

theorem Descriptor.map_nil_append (answer : Except (Nat × GrammarFault) (List StatementKind)) :
    answer.map ([] ++ ·) = answer := by
  cases answer <;> rfl

section

variable (mode : ReadingMode) (offset : Nat) (starting : Bool) (established : Option QueryKind)

theorem Descriptor.statements?_cons (token : Token) (rest : List Token) :
    Descriptor.statements? mode offset starting established (token :: rest) =
      (Descriptor.statements? mode offset starting established [token]).bind fun families =>
        (Descriptor.statements? mode (offset + utf8Length token.lexeme)
          (token.startsAfter starting) (Descriptor.establishedAfter established families)
          rest).map (families ++ ·) := by
  simp only [Descriptor.statements?]
  split
  · rename_i begins
    rw [Bool.and_eq_true, Bool.and_eq_true, Bool.not_eq_true', decide_eq_true_eq] at begins
    obtain ⟨⟨rfl, word⟩, apart⟩ := begins
    have after : token.startsAfter true = false := by
      simp [Token.startsAfter, apart, word]
    rw [after]
    cases token.statement established with
    | error fault => rfl
    | ok family =>
      dsimp only [Except.bind, Descriptor.establishedAfter, List.foldl]
      cases Descriptor.statements? mode (offset + utf8Length token.lexeme) false
        (some family.queryKind) rest <;> rfl
  · rename_i pass
    rw [Token.startsAfter_pass pass]
    cases opened : token.openFault? with
    | none => exact (Descriptor.map_nil_append _).symm
    | some fault =>
      have apart : token ≠ .separator := by
        rintro rfl
        cases opened
      dsimp only
      split
      · rfl
      · rw [decide_eq_false apart, Bool.or_false]
        exact (Descriptor.map_nil_append _).symm

/-- Reading some tokens is reading a first part of them and then the others, from where the first
part has left off. It stops with the fault of the first part, if that has one. -/
theorem Descriptor.statements?_append (front back : List Token) :
    Descriptor.statements? mode offset starting established (front ++ back) =
      (Descriptor.statements? mode offset starting established front).bind fun families =>
        (Descriptor.statements? mode (offset + Token.width front)
          (Descriptor.startingAfter starting front)
          (Descriptor.establishedAfter established families) back).map (families ++ ·) := by
  induction front generalizing offset starting established with
  | nil => exact (Descriptor.map_nil_append _).symm
  | cons token rest ih =>
    rw [List.cons_append, Descriptor.statements?_cons,
      Descriptor.statements?_cons _ _ _ _ token rest, Token.width_cons, ← Nat.add_assoc,
      Descriptor.startingAfter_cons]
    cases Descriptor.statements? mode offset starting established [token] with
    | error fault => rfl
    | ok first =>
      dsimp only [Except.bind]
      rw [ih]
      cases Descriptor.statements? mode (offset + utf8Length token.lexeme)
          (token.startsAfter starting) (Descriptor.establishedAfter established first) rest with
      | error fault => rfl
      | ok others =>
        dsimp only [Except.bind, Except.map]
        rw [Descriptor.establishedAfter_append]
        cases Descriptor.statements? mode (offset + utf8Length token.lexeme + Token.width rest)
            (Descriptor.startingAfter (token.startsAfter starting) rest)
            (Descriptor.establishedAfter (Descriptor.establishedAfter established first) others)
            back with
        | error fault => rfl
        | ok last => exact congrArg Except.ok (List.append_assoc first others last).symm

/-- Where the tokens stand makes no difference but to the position of a fault. -/
theorem Descriptor.statements?_shift (further : Nat) (tokens : List Token) :
    Descriptor.statements? mode (further + offset) starting established tokens =
      (Descriptor.statements? mode offset starting established tokens).mapError
        fun fault => (further + fault.1, fault.2) := by
  induction tokens generalizing offset starting established with
  | nil => rfl
  | cons token rest ih =>
    simp only [Descriptor.statements?, Nat.add_assoc, ih]
    split
    · cases token.statement established with
      | error fault => rfl
      | ok family =>
        dsimp only
        cases Descriptor.statements? mode (offset + utf8Length token.lexeme) false
          (some family.queryKind) rest <;> rfl
    · split
      · split <;> rfl
      · rfl

/-- Where all runs end, reading strictly is no different from reading tolerantly. -/
theorem Descriptor.statements?_of_ended (mode' : ReadingMode) {tokens : List Token}
    (ended : ∀ token ∈ tokens, token.openFault? = none) :
    Descriptor.statements? mode offset starting established tokens =
      Descriptor.statements? mode' offset starting established tokens := by
  induction tokens generalizing offset starting established with
  | nil => rfl
  | cons token rest ih =>
    have later := fun offset starting established =>
      ih offset starting established fun token member => ended token (List.mem_cons_of_mem _ member)
    simp only [Descriptor.statements?, ended token List.mem_cons_self, later]

end

/-- A fault stands where a token begins, so its position is the width of the tokens before it. -/
theorem Descriptor.statements?_error {mode : ReadingMode} {offset : Nat} {starting : Bool}
    {established : Option QueryKind} {tokens : List Token} {p : Nat} {fault : GrammarFault}
    (refused : Descriptor.statements? mode offset starting established tokens = .error (p, fault)) :
    ∃ front back, tokens = front ++ back ∧ p = offset + Token.width front := by
  have later : ∀ {offset : Nat} {token : Token} {rest : List Token},
      (∃ front back, rest = front ++ back ∧
        p = offset + utf8Length token.lexeme + Token.width front) →
      ∃ front back, token :: rest = front ++ back ∧ p = offset + Token.width front := by
    rintro offset token rest ⟨front, back, rfl, same⟩
    exact ⟨token :: front, back, rfl, by rw [same, Token.width_cons, Nat.add_assoc]⟩
  fun_induction Descriptor.statements? mode offset starting established tokens with
  | case1 => cases refused
  | case2 => cases refused; exact ⟨[], _, rfl, rfl⟩
  | case3 offset starting established token rest _ _ _ _ _ inner ih =>
    cases refused
    exact later (ih inner)
  | case4 => cases refused
  | case5 => cases refused; exact ⟨[], _, rfl, rfl⟩
  | case6 offset starting established token rest _ _ _ _ _ ih => exact later (ih refused)
  | case7 offset starting established token rest _ _ _ ih => exact later (ih refused)

theorem Descriptor.statements?_error_le {mode : ReadingMode} {offset : Nat} {starting : Bool}
    {established : Option QueryKind} {tokens : List Token} {p : Nat} {fault : GrammarFault}
    (refused : Descriptor.statements? mode offset starting established tokens = .error (p, fault)) :
    p ≤ offset + Token.width tokens := by
  obtain ⟨front, back, rfl, rfl⟩ := Descriptor.statements?_error refused
  rw [Token.width_append]
  omega

/-! ## Parameters -/

theorem Parameter.substitute_append (stem : List Char) (count : Nat) (front back : List Token) :
    Parameter.substitute stem count (front ++ back) =
      Parameter.substitute stem count front ++
        Parameter.substitute stem (count + front.count .placeholder) back := by
  induction front generalizing count with
  | nil => rfl
  | cons token rest ih =>
    by_cases here : token = .placeholder
    · subst here
      rw [List.cons_append, Parameter.substitute, Parameter.substitute, ih, List.append_assoc,
        List.count_cons_self, Nat.add_right_comm]
      rfl
    · rw [List.cons_append, Parameter.substitute_cons here, Parameter.substitute_cons here, ih,
        List.append_assoc, List.count_cons_of_ne here]

/-! ## Readings -/

/-- What a text is read as when its tokens are read alike: everything else in a descriptor depends
on the tokens alone. -/
theorem Descriptor.parse_congr {mode mode' : ReadingMode} {text : String}
    (same : Descriptor.statements? mode 0 true none (Token.scan text.toList) =
      Descriptor.statements? mode' 0 true none (Token.scan text.toList)) :
    Descriptor.parse mode text = Descriptor.parse mode' text := by
  unfold Descriptor.parse
  dsimp only
  rw [same]

theorem Descriptor.parse_of_fault {mode : ReadingMode} {text : String} {p : Nat}
    {fault : GrammarFault}
    (refused : Descriptor.statements? mode 0 true none (Token.scan text.toList) =
      .error (p, fault)) : Descriptor.parse mode text = .error (.grammar p fault) := by
  unfold Descriptor.parse
  dsimp only
  rw [refused]

theorem Descriptor.parse_of_no_statements {mode : ReadingMode} {text : String}
    (none : Descriptor.statements? mode 0 true none (Token.scan text.toList) = .ok []) :
    Descriptor.parse mode text = .error (.grammar 0 .noStatements) := by
  unfold Descriptor.parse
  dsimp only
  rw [none]

/-- What reading a text says of its statements and of the number of its parameters, which is that of
its placeholders. -/
theorem Descriptor.exists_counts {mode : ReadingMode} {text : String} {d : Descriptor}
    (parsed : Descriptor.parse mode text = .ok d) :
    ∃ first others,
      Descriptor.statements? mode 0 true none (Token.scan text.toList) = .ok (first :: others) ∧
      d.statements = first :: others ∧ d.kind = first.queryKind ∧
      d.parameters.length = (Token.scan text.toList).count .placeholder := by
  obtain ⟨first, others, found⟩ := Descriptor.exists_statements parsed
  have same := (Descriptor.parse_of_statements found).symm.trans parsed
  cases same
  exact ⟨first, others, found, rfl, rfl, by simp [Parameter.names]⟩

end SqlDriver
