import SqlDriver.Proofs.Query.Scanner
import SqlDriver.Proofs.Query.Words

/-!
Reading a query text accepts what the grammar accepts, and answers with the families of its
statements and their kind; what it refuses, it refuses at the leftmost fault.

The reading goes over the tokens. Its state, whether a statement may begin and the kind of the
statements so far, is what is left of the pieces and of the query's kind after the tokens read.
-/

namespace SqlDriver

/-! ## The segments of one token -/

section

variable (position : Nat) (cut : List Segment)

theorem Segment.startsFrom_plains_inside (bytes : List UInt8) :
    Segment.startsFrom false (Segment.plains position bytes ++ cut) =
      Segment.startsFrom false cut := by
  induction bytes generalizing position with
  | nil => rfl
  | cons b bytes ih =>
    unfold Segment.plains
    rw [List.cons_append, Segment.startsFrom_inside (by rfl), ih]

theorem Segment.openFault?_plains {bytes : List UInt8} {s : Segment}
    (member : s ∈ Segment.plains position bytes) : s.kind.openFault? = none := by
  induction bytes generalizing position with
  | nil => cases member
  | cons b bytes ih =>
    unfold Segment.plains at member
    rcases List.mem_cons.mp member with rfl | later
    · rfl
    · exact ih (position + 1) later

/-- Inside a statement a token begins nothing, unless it ends the statement. -/
theorem Token.startsFrom_inside {token : Token} (inside : token ≠ .separator) :
    Segment.startsFrom false (token.segments position ++ cut) = Segment.startsFrom false cut := by
  cases token with
  | separator => exact absurd rfl inside
  | word chars => exact Segment.startsFrom_plains_inside _ _ _
  | other char => exact Segment.startsFrom_plains_inside _ _ _
  | space char => exact Segment.startsFrom_inside (by rfl) cut
  | placeholder => exact Segment.startsFrom_inside (by rfl) cut
  | quoted quote body closed => exact Segment.startsFrom_inside (by rfl) cut
  | lineComment body ended => exact Segment.startsFrom_inside (by rfl) cut
  | blockComment body closed => exact Segment.startsFrom_inside (by rfl) cut

/-- The statements after a token that begins none. A separator lets one begin, and any other token
leaves it at that. -/
theorem Token.startsFrom_pass {token : Token} {starting : Bool}
    (pass : ¬ (starting && !token.isFiller && token ≠ .separator) = true) :
    Segment.startsFrom starting (token.segments position ++ cut) =
      Segment.startsFrom (starting || token = .separator) cut := by
  by_cases separator : token = .separator
  · subst separator
    rw [decide_eq_true rfl, Bool.or_true]
    exact Segment.startsFrom_separator (by rfl) starting cut
  rw [decide_eq_false separator, Bool.or_false]
  cases starting with
  | false => exact Token.startsFrom_inside position cut separator
  | true =>
    have filler : token.isFiller = true := by simpa [separator] using pass
    cases token with
    | space char => exact Segment.startsFrom_filler (by rfl) cut
    | lineComment body ended => exact Segment.startsFrom_filler (by rfl) cut
    | blockComment body closed => exact Segment.startsFrom_filler (by rfl) cut
    | word | separator | placeholder | quoted | other => cases filler

/-- A statement begins with a token that is no blank, comment or separator, where one may begin;
after it none begins up to the next separator. -/
theorem Token.startsFrom_start {token : Token} (nonempty : token.lexeme ≠ [])
    (word : token.isFiller = false) (inside : token ≠ .separator) :
    Segment.startsFrom true (token.segments position ++ cut) =
      position :: Segment.startsFrom false cut := by
  have plain (none : token.kind? = none) : Segment.startsFrom true (token.segments position ++ cut)
      = position :: Segment.startsFrom false cut := by
    obtain ⟨c, rest, lexeme⟩ := List.exists_cons_of_ne_nil nonempty
    obtain ⟨lead, trail, whole, -⟩ := utf8EncodeChar_eq_cons c
    unfold Token.segments
    rw [none, lexeme, utf8Bytes_cons, whole, List.cons_append]
    dsimp only [Segment.plains]
    rw [List.cons_append, Segment.startsFrom_start (by rfl) (by rfl),
      Segment.startsFrom_plains_inside]
  cases token with
  | word chars => exact plain rfl
  | other char => exact plain rfl
  | placeholder => exact Segment.startsFrom_start (by rfl) (by rfl) cut
  | quoted quote body closed => exact Segment.startsFrom_start (by rfl) (by rfl) cut
  | separator => exact absurd rfl inside
  | space | lineComment | blockComment => cases word

theorem Token.openFault?_segments {token : Token} (ended : token.openFault? = none) {s : Segment}
    (member : s ∈ token.segments position) : s.kind.openFault? = none := by
  cases token with
  | word chars => exact Segment.openFault?_plains position member
  | other char => exact Segment.openFault?_plains position member
  | quoted quote body closed =>
    obtain rfl := List.mem_singleton.mp member
    cases closed with
    | true => rfl
    | false => cases ended
  | blockComment body closed =>
    obtain rfl := List.mem_singleton.mp member
    cases closed with
    | true => rfl
    | false => cases ended
  | space | separator | placeholder | lineComment =>
    obtain rfl := List.mem_singleton.mp member
    rfl

/-- A token that never ends is one segment that never ends, and begins where the token does. -/
theorem Token.exists_open_segment {token : Token} {fault : GrammarFault}
    (opened : token.openFault? = some fault) : ∃ s ∈ token.segments position,
      s.start = position ∧ s.kind.openFault? = some fault := by
  cases token with
  | quoted quote body closed =>
    cases closed with
    | true => cases opened
    | false => exact ⟨_, List.mem_singleton_self _, rfl, opened⟩
  | blockComment body closed =>
    cases closed with
    | true => cases opened
    | false => exact ⟨_, List.mem_singleton_self _, rfl, opened⟩
  | word | space | separator | placeholder | lineComment | other => cases opened

end

/-! ## The token at a start -/

/-- The token that begins with a letter of a word is the longest word there. -/
theorem Token.next_word {c : Char} (word : Token.isWordChar c = true) (rest : List Char) :
    (Token.next c rest).1 = .word ((c :: rest).takeWhile Token.isWordChar) := by
  have apart := Token.not_mark_of_isWordChar word
  have other (mark : Char) (member : mark ∈ Segment.marks) : c ≠ mark := by
    rintro rfl
    exact apart member
  have space : ¬ Token.isSpace c = true := by
    intro space
    rw [← Segment.toUInt8_mem_blanks (Token.ascii_of_isWordChar word)] at space
    obtain ⟨mark, member, same⟩ := List.mem_map.mp space
    have inside : mark ∈ Segment.marks := List.mem_append_right _ member
    rw [toUInt8_inj (Segment.ascii_of_mem_marks inside) (Token.ascii_of_isWordChar word)] at same
    exact other mark inside same.symm
  unfold Token.next
  rw [if_neg (other _ (by decide)),
    if_neg (by simp [other '"' (by decide), other '\x60' (by decide)]),
    if_neg (by simp [other '-' (by decide)]),
    if_neg (by simp [other '/' (by decide)]), if_neg (other _ (by decide)),
    if_neg (other _ (by decide)), if_neg space, if_pos word, List.takeWhile_cons_of_pos word]

theorem Token.next_other {c : Char} (other : Token.isWordChar c = false) (rest : List Char) :
    (∀ chars, (Token.next c rest).1 ≠ .word chars) ∧
      ((Token.next c rest).1.isFiller = false → (Token.next c rest).1.first = c) := by
  unfold Token.next
  split
  · exact ⟨fun _ => Token.noConfusion, fun _ => rfl⟩
  split
  · exact ⟨fun _ => Token.noConfusion, fun _ => rfl⟩
  split
  · exact ⟨fun _ => Token.noConfusion, fun word => Bool.noConfusion word⟩
  split
  · exact ⟨fun _ => Token.noConfusion, fun word => Bool.noConfusion word⟩
  split
  · rename_i semicolon
    exact ⟨fun _ => Token.noConfusion, fun _ => semicolon.symm⟩
  split
  · rename_i question
    exact ⟨fun _ => Token.noConfusion, fun _ => question.symm⟩
  split
  · exact ⟨fun _ => Token.noConfusion, fun word => Bool.noConfusion word⟩
  rw [if_neg (by simp [other])]
  exact ⟨fun _ => Token.noConfusion, fun _ => rfl⟩

/-- No statement begins with anything but a word, and the fault names the first character that
stands there. -/
theorem Token.statement_other {token : Token} (other : ∀ chars, token ≠ .word chars)
    (established : Option QueryKind) :
    token.statement established = .error (.unexpectedStart token.first) := by
  cases token with
  | word chars => exact absurd rfl (other chars)
  | space | separator | placeholder | quoted | lineComment | blockComment | other => rfl

section

variable {text : List UInt8} {position : Nat} {chars : List Char}

/-- The word at a position, read off the bytes of the text, is the word that its characters begin
with. -/
theorem Grammar.wordAt_eq (here : text.drop position = utf8Bytes chars) :
    Grammar.wordAt text position = utf8Bytes (chars.takeWhile Token.isWordChar) := by
  rw [Grammar.wordAt, here, Grammar.takeWhile_utf8Bytes]

/-- The statement that begins at a position is known by the keyword there. -/
theorem Grammar.familyAt?_eq (here : text.drop position = utf8Bytes chars) :
    Grammar.familyAt? text position =
      StatementKind.ofKeyword? (chars.takeWhile Token.isWordChar) := by
  rw [Grammar.familyAt?, Grammar.wordAt_eq here]
  exact Grammar.family?_utf8Bytes fun c member => List.all_eq_true.mp List.all_takeWhile c member

/-- The statement that begins with a token: its family, of the established kind if there is one, or
what is wrong with it. -/
theorem Token.statement_cases {c : Char} {rest : List Char} (established : Option QueryKind)
    (here : text.drop position = utf8Bytes (c :: rest))
    (word : (Token.next c rest).1.isFiller = false) :
    (∃ family, (Token.next c rest).1.statement established = .ok family ∧
      Grammar.familyAt? text position = some family ∧
      (∀ kind, established = some kind → Grammar.kindOf family = kind) ∧
      (Token.next c rest).1.openFault? = none) ∨
    ∃ fault, (Token.next c rest).1.statement established = .error fault ∧
      Grammar.StartFault text
        (established.or ((Grammar.familyAt? text position).map Grammar.kindOf)) position
        fault := by
  cases first : Token.isWordChar c with
  | false =>
    obtain ⟨other, found⟩ := Token.next_other first rest
    have answer := Token.statement_other other established
    rw [found word] at answer
    refine Or.inr ⟨_, answer, .unexpected ?_ ?_⟩
    · rw [Grammar.wordAt_eq here, List.takeWhile_cons_of_neg (by simp [first])]
      rfl
    · rw [here, utf8Bytes_cons]
      exact List.prefix_append _ _
  | true =>
    have spelled := Grammar.wordAt_eq here
    have named := Grammar.familyAt?_eq here
    rw [Token.next_word first rest]
    generalize whole : (c :: rest).takeWhile Token.isWordChar = chars at spelled named
    have spelling : textBytes (String.ofList chars) = Grammar.wordAt text position := by
      rw [spelled, textBytes_eq_utf8Bytes]
    unfold Token.statement
    dsimp only
    rw [← named]
    cases found : Grammar.familyAt? text position with
    | none =>
      refine Or.inr ⟨_, rfl, .unknown ?_ spelling found⟩
      rw [spelled, ← whole, List.takeWhile_cons_of_pos first, utf8Bytes_cons]
      simp [String.utf8EncodeChar_ne_nil]
    | some family =>
      cases established with
      | none => exact Or.inl ⟨family, rfl, rfl, (fun _ same => nomatch same), rfl⟩
      | some kind =>
        dsimp only
        rw [← Grammar.kindOf_eq]
        by_cases agrees : Grammar.kindOf family = kind
        · rw [if_pos agrees]
          refine Or.inl ⟨family, rfl, rfl, fun other same => ?_, rfl⟩
          rw [agrees, Option.some.inj same]
        · rw [if_neg agrees]
          exact Or.inr ⟨_, rfl, .mixed spelling found rfl agrees⟩

end

/-! ## Reading one token -/

/-- An answer to the tokens that begin at a position, `starting` or inside of a statement, after
statements of the established kind, is what the grammar says of that part of the text. -/
def Grammar.Answers (mode : ReadingMode) (text : List UInt8) (position : Nat) (starting : Bool)
    (established : Option QueryKind) (tokens : List Token)
    (answer : Except (Nat × GrammarFault) (List StatementKind)) : Prop :=
  Grammar.Verdict mode text (Segment.startsFrom starting (Token.cut position tokens))
    (established.or (Grammar.kind? text (Segment.startsFrom starting (Token.cut position tokens))))
    (Token.cut position tokens) answer

section

variable {mode : ReadingMode} {text : List UInt8} {position : Nat} {token : Token}
  {tokens : List Token} {established : Option QueryKind}
  {answer : Except (Nat × GrammarFault) (List StatementKind)}

/-- Where the first statement of a part begins, its kind is the one established before the part, or
else its own. -/
theorem Token.kind?_start (nonempty : token.lexeme ≠ []) (word : token.isFiller = false)
    (apart : token ≠ .separator) :
    Grammar.kind? text (Segment.startsFrom true (Token.cut position (token :: tokens))) =
      (Grammar.familyAt? text position).map Grammar.kindOf := by
  dsimp only [Token.cut]
  rw [Token.startsFrom_start position _ nonempty word apart]
  rfl

/-- A keyword of the established kind begins a statement: its family is the first of the answer, and
the tokens after it are inside of the statement. -/
theorem Grammar.Answers.begin {family : StatementKind} (nonempty : token.lexeme ≠ [])
    (word : token.isFiller = false) (apart : token ≠ .separator)
    (found : Grammar.familyAt? text position = some family)
    (agrees : ∀ kind, established = some kind → Grammar.kindOf family = kind)
    (ended : token.openFault? = none)
    (later : ∀ s ∈ Token.cut (position + utf8Length token.lexeme) tokens, position < s.start)
    (answers : Grammar.Answers mode text (position + utf8Length token.lexeme) false
      (some (Grammar.kindOf family)) tokens answer) :
    Grammar.Answers mode text position true established (token :: tokens)
      (answer.map (family :: ·)) := by
  have agreed : established.or ((Grammar.familyAt? text position).map Grammar.kindOf) =
      some (Grammar.kindOf family) := by
    rw [found]
    cases established with
    | none => rfl
    | some kind =>
      rw [agrees kind rfl]
      rfl
  have verdict := (Grammar.Verdict.begin answers later found rfl).pass
    fun _ _ member => Token.openFault?_segments position ended member
  unfold Grammar.Answers
  rw [Token.kind?_start nonempty word apart, agreed]
  dsimp only [Token.cut]
  rw [Token.startsFrom_start position _ nonempty word apart]
  exact verdict

/-- What is wrong with the statement that begins with the first token is the leftmost fault. -/
theorem Grammar.Answers.fault {fault : GrammarFault} (nonempty : token.lexeme ≠ [])
    (word : token.isFiller = false) (apart : token ≠ .separator)
    (wrong : Grammar.StartFault text
      (established.or ((Grammar.familyAt? text position).map Grammar.kindOf)) position fault)
    (least : ∀ s ∈ Token.cut position (token :: tokens), position ≤ s.start) :
    Grammar.Answers mode text position true established (token :: tokens)
      (.error (position, fault)) := by
  unfold Grammar.Answers
  rw [Token.kind?_start nonempty word apart]
  refine .first (.start ?_ wrong) least fun q member => Segment.exists_of_mem_startsFrom member
  dsimp only [Token.cut]
  rw [Token.startsFrom_start position _ nonempty word apart]
  exact List.mem_cons_self

/-- A token that begins no statement is passed over, if it ends or the reading does not mind. -/
theorem Grammar.Answers.pass {starting : Bool}
    (pass : ¬ (starting && !token.isFiller && token ≠ .separator) = true)
    (ended : mode = .strict → token.openFault? = none)
    (answers : Grammar.Answers mode text (position + utf8Length token.lexeme)
      (starting || token = .separator) established tokens answer) :
    Grammar.Answers mode text position starting established (token :: tokens) answer := by
  unfold Grammar.Answers
  dsimp only [Token.cut]
  rw [Token.startsFrom_pass _ _ pass]
  exact Grammar.Verdict.pass answers fun strict _ member =>
    Token.openFault?_segments position (ended strict) member

/-- A token that never ends is the leftmost fault of a strict reading, unless it begins a
statement. -/
theorem Grammar.Answers.unended {starting : Bool} {fault : GrammarFault}
    (pass : ¬ (starting && !token.isFiller && token ≠ .separator) = true)
    (strict : mode = .strict) (opened : token.openFault? = some fault)
    (least : ∀ s ∈ Token.cut position (token :: tokens), position ≤ s.start)
    (later : ∀ s ∈ Token.cut (position + utf8Length token.lexeme) tokens, position < s.start) :
    Grammar.Answers mode text position starting established (token :: tokens)
      (.error (position, fault)) := by
  obtain ⟨s, member, rfl, opened⟩ := Token.exists_open_segment position opened
  unfold Grammar.Answers
  dsimp only [Token.cut] at least ⊢
  rw [Token.startsFrom_pass _ _ pass]
  exact .unended strict member opened least later fun _ => Segment.exists_of_mem_startsFrom

end

/-! ## Reading a text -/

/-- Reading a part of a text answers what the grammar says of the part. The part begins at the
position, `starting` or inside of a statement, after statements of the established kind. -/
theorem Descriptor.statements?_verdict (mode : ReadingMode) {text : List UInt8} {position : Nat}
    {chars : List Char} (here : text.drop position = utf8Bytes chars) (starting : Bool)
    (established : Option QueryKind) :
    Grammar.Answers mode text position starting established (Token.scan chars)
      (Descriptor.statements? mode position starting established (Token.scan chars)) := by
  -- One token is read at a time. What was established before it and the statements from it on
  -- determine the query's kind, whichever of the two holds the first statement.
  fun_induction Token.scan chars generalizing position starting established with
  | case1 =>
    unfold Grammar.Answers
    dsimp only [Token.cut, Descriptor.statements?]
    rw [Segment.startsFrom_nil]
    exact .ok rfl (fun _ member => by cases member) (fun _ _ member => by cases member)
  | case2 c rest ih =>
    have nonempty := Token.lexeme_next_ne_nil c rest
    have whole := Token.next_append c rest
    have start := @Token.statement_cases text position c rest established here
    have least {s : Segment} :=
      (Token.cuts_next position c rest (Token.cuts_scan _ _)).le_start (s := s)
    generalize (Token.next c rest).1 = token at nonempty whole start least ih ⊢
    generalize (Token.next c rest).2 = after at whole least ih ⊢
    have next : text.drop (position + utf8Length token.lexeme) = utf8Bytes after := by
      rw [utf8Length_eq_length, ← List.drop_drop, here, ← whole, utf8Bytes_append,
        List.drop_left]
    have later : ∀ s ∈ Token.cut (position + utf8Length token.lexeme) (Token.scan after),
        position < s.start := by
      intro s member
      have bound := (Token.cuts_scan _ after).le_start member
      have positive := utf8Length_pos nonempty
      omega
    dsimp only [Descriptor.statements?]
    split
    · rename_i begins
      rw [Bool.and_eq_true, Bool.and_eq_true, Bool.not_eq_true', decide_eq_true_eq] at begins
      obtain ⟨⟨rfl, word⟩, apart⟩ := begins
      rcases start word with ⟨family, answer, found, agrees, ended⟩ | ⟨fault, answer, wrong⟩
      · have reads := (ih next false (some (Grammar.kindOf family))).begin nonempty word apart found
          agrees ended later
        rw [answer]
        rw [Grammar.kindOf_eq] at reads
        dsimp only
        cases rest : Descriptor.statements? mode (position + utf8Length token.lexeme) false
            (some family.queryKind) (Token.scan after) with
        | error fault => rwa [rest] at reads
        | ok families => rwa [rest] at reads
      · rw [answer]
        exact .fault nonempty word apart wrong fun _ => least
    · rename_i pass
      split
      · rename_i fault opened
        split
        · rename_i strict
          exact .unended pass (of_decide_eq_true strict) opened (fun _ => least) later
        · rename_i tolerant
          have apart : token ≠ .separator := by
            rintro rfl
            cases opened
          have same : (starting || decide (token = .separator)) = starting := by
            rw [decide_eq_false apart, Bool.or_false]
          refine .pass pass (fun strict => absurd (decide_eq_true strict) tolerant) ?_
          rw [same]
          exact ih next starting established
      · rename_i ended
        exact (ih next _ established).pass pass fun _ => ended

/-- A query text is read by its grammar. It has one cut; it is accepted exactly when the cut is that
of a query, and the families of its statements are those found at their starts, all of one kind. A
text that is refused is refused for its leftmost fault, or at its beginning when nothing is wrong
with it but that it holds no statement. -/
theorem Descriptor.parse_classifies (mode : ReadingMode) (text : String) :
    ∃ cut, Segment.Cuts 0 (textBytes text) cut ∧
      (∀ other, Segment.Cuts 0 (textBytes text) other → other = cut) ∧
      ((∃ d, Descriptor.parse mode text = .ok d) ↔ Grammar.Accepts mode (textBytes text) cut) ∧
      (∀ d, Descriptor.parse mode text = .ok d →
        (Segment.starts cut).map (Grammar.familyAt? (textBytes text)) = d.statements.map some ∧
          ∀ family ∈ d.statements, Grammar.kindOf family = d.kind) ∧
      ∀ e, Descriptor.parse mode text = .error e → ∃ p fault, e = .grammar p fault ∧
        ((Grammar.FaultAt mode (textBytes text) cut p fault ∧
            ∀ q other, Grammar.FaultAt mode (textBytes text) cut q other → p ≤ q) ∨
          (p = 0 ∧ fault = .noStatements ∧ Segment.starts cut = [] ∧
            ∀ q other, ¬ Grammar.FaultAt mode (textBytes text) cut q other)) := by
  have cuts : Segment.Cuts 0 (textBytes text) (Token.cut 0 (Token.scan text.toList)) := by
    rw [textBytes_eq]
    exact Token.cuts_scan 0 text.toList
  have verdict := @Descriptor.statements?_verdict mode (textBytes text) 0 text.toList
    (textBytes_eq text) true none
  unfold Grammar.Answers at verdict
  refine ⟨_, cuts, fun other cut => cut.unique cuts, ?_⟩
  generalize Token.cut 0 (Token.scan text.toList) = cut at verdict ⊢
  rw [Option.none_or] at verdict
  unfold Descriptor.parse
  dsimp only
  cases answer : Descriptor.statements? mode 0 true none (Token.scan text.toList) with
  | error fault =>
    obtain ⟨p, fault⟩ := fault
    rw [answer] at verdict
    cases verdict with
    | error wrong least =>
      refine ⟨⟨?_, ?_⟩, ?_, ?_⟩
      · rintro ⟨d, same⟩
        cases same
      · exact fun accepts => absurd wrong accepts.no_fault
      · rintro d same
        cases same
      · rintro e same
        exact ⟨p, fault, (Except.error.inj same).symm, Or.inl ⟨wrong, least⟩⟩
  | ok families =>
    rw [answer] at verdict
    cases families with
    | nil =>
      have empty : Segment.starts cut = [] := by
        cases verdict with
        | ok named _ _ => exact List.map_eq_nil_iff.mp named
      refine ⟨⟨?_, ?_⟩, ?_, ?_⟩
      · rintro ⟨d, same⟩
        cases same
      · exact fun accepts => absurd empty accepts.nonempty
      · rintro d same
        cases same
      · rintro e same
        exact ⟨0, .noStatements, (Except.error.inj same).symm,
          Or.inr ⟨rfl, rfl, empty, verdict.no_fault⟩⟩
    | cons first others =>
      refine ⟨⟨fun _ => verdict.accepts, fun _ => ⟨_, rfl⟩⟩, ?_, ?_⟩
      · rintro d same
        obtain rfl := Except.ok.inj same
        cases verdict with
        | ok named kinds _ =>
          refine ⟨named, fun family member => ?_⟩
          exact Option.some.inj ((kinds family member).symm.trans (kinds first List.mem_cons_self))
      · rintro e same
        cases same

/-- The nine keywords, in any mix of case: the six of data make up one query and the three of the
schema another, and a query of both is refused where the kind changes. -/
theorem Descriptor.parse_classifies_nine_keywords :
    let data := "SELECT 1; Insert; update; UPSERT; delete; Replace"
    let schema := "create t; Alter; DROP"
    let both := "drop t; select 1"
    (∃ d cut, Descriptor.parse .strict data = .ok d ∧ d.kind = .data ∧
      Segment.Cuts 0 (textBytes data) cut ∧ Grammar.Accepts .strict (textBytes data) cut ∧
      (Segment.starts cut).map (Grammar.familyAt? (textBytes data)) =
        [some .select, some .update, some .update, some .update, some .update, some .update]) ∧
    (∃ d cut, Descriptor.parse .strict schema = .ok d ∧ d.kind = .schema ∧
      Segment.Cuts 0 (textBytes schema) cut ∧ Grammar.Accepts .strict (textBytes schema) cut ∧
      (Segment.starts cut).map (Grammar.familyAt? (textBytes schema)) =
        [some .scheme, some .scheme, some .scheme]) ∧
    ∃ cut, Segment.Cuts 0 (textBytes both) cut ∧
      Grammar.FaultAt .strict (textBytes both) cut 8 (.mixedKinds .data "select" .schema) := by
  intro data schema both
  have accepted : Descriptor.parse .strict data = .ok ⟨data, data, .data, [],
      [.select, .update, .update, .update, .update, .update]⟩ := by
    decide +kernel
  have accepted' : Descriptor.parse .strict schema =
      .ok ⟨schema, schema, .schema, [], [.scheme, .scheme, .scheme]⟩ := by
    decide +kernel
  have refused : Descriptor.parse .strict both =
      .error (.grammar 8 (.mixedKinds .data "select" .schema)) := by
    decide +kernel
  obtain ⟨cut, cuts, -, accepts, named, -⟩ := Descriptor.parse_classifies .strict data
  obtain ⟨cut', cuts', -, accepts', named', -⟩ := Descriptor.parse_classifies .strict schema
  obtain ⟨cut'', cuts'', -, -, -, faults⟩ := Descriptor.parse_classifies .strict both
  refine ⟨⟨_, cut, accepted, rfl, cuts, accepts.mp ⟨_, accepted⟩, (named _ accepted).1⟩,
    ⟨_, cut', accepted', rfl, cuts', accepts'.mp ⟨_, accepted'⟩, (named' _ accepted').1⟩,
    cut'', cuts'', ?_⟩
  obtain ⟨p, fault, same, ⟨wrong, -⟩ | ⟨-, none, -⟩⟩ := faults _ refused
  · obtain ⟨rfl, rfl⟩ := QueryError.grammar.inj same
    exact wrong
  · rw [none] at same
    cases same

/-- A query of data. -/
example : Descriptor.parse .tolerant "-- all\nSELECT ';'; uPsErT t" =
    .ok ⟨"-- all\nSELECT ';'; uPsErT t", "-- all\nSELECT ';'; uPsErT t", .data, [],
      [.select, .update]⟩ := by
  decide +kernel

/-- A query of the schema. -/
example : Descriptor.parse .tolerant ";Create TABLE t; /* gone */ DROP t" =
    .ok ⟨";Create TABLE t; /* gone */ DROP t", ";Create TABLE t; /* gone */ DROP t", .schema, [],
      [.scheme, .scheme]⟩ := by
  decide +kernel

end SqlDriver
