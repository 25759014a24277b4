import SqlDriver.Proofs.Query.Parts

/-!
Texts that are joined. After a text in which every quote and block comment ends, a line feed is a
blank, or it ends a line comment, whatever the text ended with; a separator then begins a statement
as the start of a text does. So the second text is read as on its own, but that the kind of the
first one's statements is established before it.
-/

namespace SqlDriver

/-! ## Blanks and comments -/

/-- Whether a token may stand anywhere between statements without being a fault in any mode. -/
def Token.isQuiet (token : Token) : Bool :=
  token.isFiller && token.openFault?.isNone

section

variable {mode : ReadingMode} {offset : Nat} {starting : Bool} {established : Option QueryKind}
  {front quiet : List Token}

/-- Blanks and comments leave everything as it is: no statement begins with them, and none is kept
from beginning after them. -/
theorem Descriptor.statements?_quiet (all : ∀ token ∈ quiet, token.isQuiet = true) :
    Descriptor.statements? mode offset starting established quiet = .ok [] ∧
      Descriptor.startingAfter starting quiet = starting ∧ quiet.count .placeholder = 0 := by
  induction quiet generalizing offset with
  | nil => exact ⟨rfl, rfl, rfl⟩
  | cons token rest ih =>
    have here := all token List.mem_cons_self
    rw [Token.isQuiet, Bool.and_eq_true, Option.isNone_iff_eq_none] at here
    obtain ⟨filler, ended⟩ := here
    obtain ⟨answer, after, count⟩ :=
      @ih (offset + utf8Length token.lexeme) fun token member =>
        all token (List.mem_cons_of_mem _ member)
    have pass : ¬ (starting && !token.isFiller && token ≠ .separator) = true := by simp [filler]
    have separator : token ≠ .separator := by
      rintro rfl
      cases filler
    have placeholder : token ≠ .placeholder := by
      rintro rfl
      cases filler
    have same : token.startsAfter starting = starting := by
      rw [Token.startsAfter_pass pass, decide_eq_false separator, Bool.or_false]
    refine ⟨?_, ?_, ?_⟩
    · rw [Descriptor.statements?, if_neg pass, ended]
      dsimp only
      rw [← Token.startsAfter_pass pass, same, answer]
    · rw [Descriptor.startingAfter_cons, same, after]
    · rw [List.count_cons_of_ne placeholder, count]

/-- Blanks and comments after some tokens make no difference to the statements, and none to where a
statement may begin. -/
theorem Descriptor.statements?_append_quiet (all : ∀ token ∈ quiet, token.isQuiet = true) :
    Descriptor.statements? mode offset starting established (front ++ quiet) =
        Descriptor.statements? mode offset starting established front ∧
      Descriptor.startingAfter starting (front ++ quiet) =
        Descriptor.startingAfter starting front ∧
      (front ++ quiet).count .placeholder = front.count .placeholder := by
  obtain ⟨answer, after, count⟩ := @Descriptor.statements?_quiet mode (offset + Token.width front)
    (Descriptor.startingAfter starting front) established quiet all
  refine ⟨?_, ?_, ?_⟩
  · rw [Descriptor.statements?_append]
    cases found : Descriptor.statements? mode offset starting established front with
    | error fault => rfl
    | ok families =>
      dsimp only [Except.bind]
      rw [(Descriptor.statements?_quiet all).1]
      exact congrArg Except.ok (List.append_nil families)
  · rw [Descriptor.startingAfter_append, after]
  · rw [List.count_append, count, Nat.add_zero]

end

/-! ## A line feed after a text -/

/-- A line comment that no line feed ends has none in its body. -/
theorem Token.not_mem_of_lineRun {body : List Char} (never : (Token.lineRun body).closed = false) :
    '\n' ∉ body := by
  intro member
  obtain ⟨front, back, rfl, absent⟩ := List.eq_append_cons_of_mem member
  rw [Token.lineRun_append absent] at never
  cases never

/-- A token whose quote or block comment ends stays what it is before a line feed, unless it is a
line comment. -/
theorem Token.meets_lineFeed {token : Token} (ended : token.openFault? = none)
    (other : ∀ body, token ≠ .lineComment body false) (after : List Char) :
    token.Meets ('\n' :: after) := by
  have all : token.isEnded = true := by
    cases token with
    | quoted quote body closed => cases closed <;> first | rfl | cases ended
    | lineComment body closed => cases closed <;> first | rfl | exact absurd rfl (other body)
    | blockComment body closed => cases closed <;> first | rfl | cases ended
    | word | space | separator | placeholder | other => rfl
  exact Token.meets_of_ended all rfl (by decide) (fun mark => absurd mark (by decide)) (by decide)

/-- A text with a line feed after it has the same tokens but for blanks and comments at its end. -/
theorem Token.scan_lineFeed {text : List Char}
    (ended : ∀ token ∈ Token.scan text, token.openFault? = none) (after : List Char) :
    ∃ front quiet quiet', Token.scan text = front ++ quiet ∧
      Token.scan (text ++ '\n' :: after) = front ++ quiet' ++ Token.scan after ∧
      (∀ token ∈ quiet, token.isQuiet = true) ∧ ∀ token ∈ quiet', token.isQuiet = true := by
  -- The line feed becomes part of a line comment at the end, and is a blank of its own otherwise.
  by_cases line : ∃ front body, Token.scan text = front ++ [.lineComment body false]
  · obtain ⟨front, body, whole⟩ := line
    have alone := Token.scan_back whole
    have absent : '\n' ∉ body := by
      rw [List.flatMap_singleton, Token.lexeme, cond_false, List.append_nil, Token.scan_cons]
        at alone
      have same : Token.lineComment (Token.lineRun body).body (Token.lineRun body).closed =
          .lineComment body false := (List.cons.inj alone).1
      exact Token.not_mem_of_lineRun (Token.lineComment.inj same).2
    have joined : text ++ '\n' :: after =
        front.flatMap Token.lexeme ++ '-' :: '-' :: (body ++ '\n' :: after) := by
      rw [← Token.flatMap_lexeme_scan text, whole]
      simp [Token.lexeme]
    refine ⟨front, _, [.lineComment body true], whole, ?_, List.forall_mem_singleton.mpr rfl,
      List.forall_mem_singleton.mpr rfl⟩
    rw [joined, Token.scan_append_of_head? whole (by rfl), Token.scan_lineComment absent,
      List.append_assoc]
    rfl
  · have space : Token.scan ('\n' :: after) = .space '\n' :: Token.scan after :=
      (Token.Reads.space (by decide) after).scan
    refine ⟨Token.scan text, [], [.space '\n'], (List.append_nil _).symm, ?_, by simp,
      List.forall_mem_singleton.mpr rfl⟩
    rw [Token.scan_append, space, List.append_assoc]
    · rfl
    · intro front token whole
      refine Token.meets_lineFeed (ended token ?_) (fun body same => line ⟨front, body, ?_⟩) after
      · rw [whole]
        exact List.mem_append_right _ List.mem_cons_self
      · rw [whole, same]

/-! ## The statements before and after a separator -/

section

variable {mode : ReadingMode} {offset : Nat} {starting : Bool} {established : Option QueryKind}
  {tokens : List Token} {families : List StatementKind}

/-- The token with which a statement begins is a word, and so has an end. -/
theorem Token.openFault?_of_statement {token : Token} {family : StatementKind}
    (found : token.statement established = .ok family) : token.openFault? = none := by
  cases token with
  | word chars => rfl
  | space | separator | placeholder | quoted | lineComment | blockComment | other => cases found

/-- A keyword with which a query may begin is refused only after statements of the other kind. -/
theorem Token.statement_established {token : Token} {family : StatementKind}
    (found : token.statement none = .ok family) :
    ∃ word, ∀ kind, token.statement (some kind) =
      if family.queryKind = kind then .ok family
      else .error (.mixedKinds family.queryKind word kind) := by
  cases token with
  | word chars =>
    unfold Token.statement at found
    dsimp only at found
    cases keyword : StatementKind.ofKeyword? chars with
    | none =>
      rw [keyword] at found
      cases found
    | some statement =>
      rw [keyword] at found
      cases found
      refine ⟨String.ofList chars, fun kind => ?_⟩
      unfold Token.statement
      dsimp only
      rw [keyword]
  | space | separator | placeholder | quoted | lineComment | blockComment | other => cases found

/-- In a text that is accepted strictly, every quote and block comment ends, so another text that is
put after it begins outside. -/
theorem Descriptor.ended_of_strict
    (found : Descriptor.statements? .strict offset starting established tokens = .ok families) :
    ∀ token ∈ tokens, token.openFault? = none := by
  induction tokens generalizing offset starting established families with
  | nil => exact fun _ member => nomatch member
  | cons token rest ih =>
    have later {offset : Nat} {starting : Bool} {established : Option QueryKind}
        {families : List StatementKind} := @ih offset starting established families
    refine List.forall_mem_cons.mpr ?_
    simp only [Descriptor.statements?] at found
    split at found
    · cases answer : token.statement established with
      | error fault =>
        rw [answer] at found
        cases found
      | ok family =>
        rw [answer] at found
        dsimp only at found
        split at found
        · cases found
        · rename_i inner
          exact ⟨Token.openFault?_of_statement answer, later inner⟩
    · cases opened : token.openFault? with
      | none =>
        rw [opened] at found
        exact ⟨rfl, later found⟩
      | some fault =>
        rw [opened] at found
        cases found

/-- The statements of a query are all of the kind of the first, because the first establishes it for
those that follow. -/
theorem Descriptor.statements?_one_kind {text : List Char} {first : StatementKind}
    {others : List StatementKind}
    (found : Descriptor.statements? mode 0 true none (Token.scan text) = .ok (first :: others)) :
    ∀ family ∈ first :: others, family.queryKind = first.queryKind := by
  have verdict := @Descriptor.statements?_verdict mode (utf8Bytes text) 0 text rfl true none
  unfold Grammar.Answers at verdict
  rw [found] at verdict
  cases verdict with
  | ok _ kinds _ =>
    intro family member
    rw [← Grammar.kindOf_eq, ← Grammar.kindOf_eq]
    exact Option.some.inj ((kinds family member).symm.trans (kinds first List.mem_cons_self))

/-- Where some statements were found that are all of one kind, that kind is the established one
after them. -/
theorem Descriptor.establishedAfter_of_kind {kind : QueryKind} (nonempty : families ≠ [])
    (same : ∀ family ∈ families, family.queryKind = kind) :
    Descriptor.establishedAfter established families = some kind := by
  obtain ⟨init, last, rfl⟩ := (List.eq_nil_or_concat families).resolve_left nonempty
  rw [List.concat_eq_append, Descriptor.establishedAfter_append]
  exact congrArg some (same last (by simp))

/-- What is established before a text only matters to its first statement, which is refused when it
is of the other kind. -/
theorem Descriptor.statements?_established {first : StatementKind} {others : List StatementKind}
    (kind : QueryKind) (nonempty : ∀ token ∈ tokens, token.lexeme ≠ [])
    (found : Descriptor.statements? mode offset starting none tokens = .ok (first :: others)) :
    (first.queryKind = kind → Descriptor.statements? mode offset starting (some kind) tokens =
      .ok (first :: others)) ∧
    (first.queryKind ≠ kind → ∃ p word later,
      Segment.startsFrom starting (Token.cut offset tokens) = p :: later ∧
      Descriptor.statements? mode offset starting (some kind) tokens =
        .error (p, .mixedKinds first.queryKind word kind)) := by
  induction tokens generalizing offset starting with
  | nil => cases found
  | cons token rest ih =>
    have lexeme := nonempty token List.mem_cons_self
    have later {offset : Nat} {starting : Bool} := @ih offset starting fun token member =>
      nonempty token (List.mem_cons_of_mem _ member)
    simp only [Descriptor.statements?] at found ⊢
    rw [Token.cut]
    split at found
    · rename_i begins
      have whole := begins
      rw [Bool.and_eq_true, Bool.and_eq_true, Bool.not_eq_true', decide_eq_true_eq] at whole
      obtain ⟨⟨rfl, word⟩, apart⟩ := whole
      rw [if_pos begins, Token.startsFrom_start offset _ lexeme word apart]
      cases answer : token.statement none with
      | error fault =>
        rw [answer] at found
        cases found
      | ok family =>
        obtain ⟨word, other⟩ := Token.statement_established answer
        rw [answer] at found
        dsimp only at found
        rw [other]
        split at found
        · cases found
        · cases found
          rename_i inner
          refine ⟨fun same => ?_, fun differs => ?_⟩
          · rw [if_pos same]
            dsimp only
            rw [inner]
          · rw [if_neg differs]
            exact ⟨offset, word, _, rfl, rfl⟩
    · rename_i pass
      rw [if_neg pass, Token.startsFrom_pass _ _ pass]
      cases opened : token.openFault? with
      | none =>
        rw [opened] at found
        exact later found
      | some fault =>
        rw [opened] at found
        dsimp only at found ⊢
        have apart : token ≠ .separator := by
          rintro rfl
          cases opened
        rw [decide_eq_false apart, Bool.or_false]
        split at found
        · cases found
        · rename_i tolerant
          rw [if_neg tolerant]
          exact later found

end

/-- A fault of mixed kinds names the word at its position. -/
theorem Grammar.Fault.word_of_mixed {mode : ReadingMode} {text : List UInt8} {starts : List Nat}
    {kind : Option QueryKind} {cut : List Segment} {p : Nat} {own established : QueryKind}
    {word : String}
    (wrong : Grammar.Fault mode text starts kind cut p (.mixedKinds own word established)) :
    textBytes word = Grammar.wordAt text p := by
  cases wrong with
  | start _ wrong =>
    cases wrong with
    | mixed spelled _ _ _ => exact spelled
  | @unended s _ _ _ _ _ opened =>
    unfold Segment.Kind.openFault? at opened
    split at opened <;> cases opened

/-! ## Two texts with a line feed and a separator between them -/

/-- A statement may begin after a separator, wherever it stands. -/
theorem Descriptor.statements?_separator (mode : ReadingMode) (offset : Nat) (starting : Bool)
    (established : Option QueryKind) (rest : List Token) :
    Descriptor.statements? mode offset starting established (.separator :: rest) =
      Descriptor.statements? mode (offset + 1) true established rest := by
  cases starting <;> rfl

/-- The tokens of two joined texts are read as those of the first, and then as those of the second,
after the kind of the first. -/
theorem Descriptor.statements?_joined {text : List Char} {families : List StatementKind}
    (found : Descriptor.statements? .strict 0 true none (Token.scan text) = .ok families)
    (after : List Char) :
    Descriptor.statements? .strict 0 true none (Token.scan (text ++ '\n' :: ';' :: after)) =
        ((Descriptor.statements? .strict 0 true (Descriptor.establishedAfter none families)
          (Token.scan after)).mapError fun fault => (utf8Length text + 2 + fault.1, fault.2)).map
          (families ++ ·) ∧
      (Token.scan (text ++ '\n' :: ';' :: after)).count .placeholder =
        (Token.scan text).count .placeholder + (Token.scan after).count .placeholder := by
  have separator : Token.scan (';' :: after) = .separator :: Token.scan after :=
    (Token.Reads.separator after).scan
  obtain ⟨front, quiet, quiet', whole, joined, all, all'⟩ :=
    Token.scan_lineFeed (Descriptor.ended_of_strict found) (';' :: after)
  have width : Token.width (front ++ quiet') = utf8Length text + 1 := by
    have bytes := congrArg Token.width joined
    rw [Token.width_append, Token.width_scan, Token.width_scan, utf8Length_append] at bytes
    have head : utf8Length ('\n' :: ';' :: after) = 1 + utf8Length (';' :: after) := rfl
    omega
  obtain ⟨answer, -, count⟩ :=
    @Descriptor.statements?_append_quiet .strict 0 true none front quiet all
  obtain ⟨answer', -, count'⟩ :=
    @Descriptor.statements?_append_quiet .strict 0 true none front quiet' all'
  rw [← whole, found] at answer
  rw [joined, separator]
  constructor
  · rw [Descriptor.statements?_append, answer', ← answer, width]
    dsimp only [Except.bind]
    rw [Descriptor.statements?_separator, ← Descriptor.statements?_shift]
    congr 2
    omega
  · rw [List.count_append, count', whole, count, List.count_cons_of_ne (by decide)]

/-- Reading strictly is compositional. Two texts that are accepted are accepted with a line feed and
a separator between them when they are of one kind, with the statements of both and as many
parameters as both together; otherwise the first statement of the second text is refused, at its
place behind the first text. -/
theorem Descriptor.parse_joined {a b : String} {da db : Descriptor}
    (first : Descriptor.parse .strict a = .ok da) (second : Descriptor.parse .strict b = .ok db) :
    (da.kind = db.kind → ∃ d, Descriptor.parse .strict (a ++ "\n;" ++ b) = .ok d ∧
      d.kind = da.kind ∧ d.statements = da.statements ++ db.statements ∧
      d.parameters.length = da.parameters.length + db.parameters.length) ∧
    (da.kind ≠ db.kind → ∃ cut p later word, Segment.Cuts 0 (textBytes b) cut ∧
      Segment.starts cut = p :: later ∧ textBytes word = Grammar.wordAt (textBytes b) p ∧
      Descriptor.parse .strict (a ++ "\n;" ++ b) =
        .error (.grammar ((textBytes a).length + 2 + p) (.mixedKinds db.kind word da.kind))) := by
  obtain ⟨f, fs, found, families, kind, count⟩ := Descriptor.exists_counts first
  obtain ⟨g, gs, found', families', kind', count'⟩ := Descriptor.exists_counts second
  have text : (a ++ "\n;" ++ b).toList = a.toList ++ '\n' :: ';' :: b.toList := by
    simp
  obtain ⟨answer, counted⟩ := Descriptor.statements?_joined found b.toList
  rw [Descriptor.establishedAfter_of_kind (List.cons_ne_nil f fs)
    (Descriptor.statements?_one_kind found), ← kind, ← text] at answer
  rw [← text] at counted
  obtain ⟨same, other⟩ := Descriptor.statements?_established da.kind
    (fun _ => Token.lexeme_ne_nil_of_mem_scan) found'
  rw [← kind'] at same other
  constructor
  · intro agree
    rw [same agree.symm] at answer
    refine ⟨_, Descriptor.parse_of_statements answer, kind.symm, ?_, ?_⟩
    · rw [families, families']
      rfl
    · rw [count, count', ← counted]
      simp [Parameter.names]
  · intro differ
    obtain ⟨p, word, later, starts, refused⟩ := other (Ne.symm differ)
    have cuts := Token.cuts_scan 0 b.toList
    have verdict := @Descriptor.statements?_verdict .strict (textBytes b) 0 b.toList
      (textBytes_eq b) true (some da.kind)
    unfold Grammar.Answers at verdict
    rw [refused] at verdict answer
    rw [← textBytes_eq] at cuts
    refine ⟨_, p, later, word, cuts, starts, ?_, ?_⟩
    · cases verdict with
      | error wrong _ => exact Grammar.Fault.word_of_mixed wrong
    · rw [textBytes_eq, ← utf8Length_eq_length]
      exact Descriptor.parse_of_fault answer

/-- A text that ends in a line comment, before one of the same kind and before one of the other. -/
theorem Descriptor.parse_joined_after_comment :
    let a := "SELECT ? -- ? ; 'é"
    let b := "/* ; */ upsert ?, ?"
    let c := ";\tDrop t"
    (∃ d, Descriptor.parse .strict (a ++ "\n;" ++ b) = .ok d ∧ d.kind = .data ∧
      d.statements = [.select, .update] ∧ d.parameters.length = 3) ∧
    Descriptor.parse .strict (a ++ "\n;" ++ c) =
      .error (.grammar 23 (.mixedKinds .schema "Drop" .data)) := by
  intro a b c
  have first : Descriptor.parse .strict a = .ok ⟨a, "SELECT $jp1 -- ? ; 'é", .data, ["$jp1"],
      [.select]⟩ := by
    decide +kernel
  have second : Descriptor.parse .strict b = .ok ⟨b, "/* ; */ upsert $jp1, $jp2", .data,
      ["$jp1", "$jp2"], [.update]⟩ := by
    decide +kernel
  have third : Descriptor.parse .strict c = .ok ⟨c, c, .schema, [], [.scheme]⟩ := by
    decide +kernel
  refine ⟨(Descriptor.parse_joined first second).1 rfl, ?_⟩
  obtain ⟨cut, p, later, word, cuts, starts, spelled, refused⟩ :=
    (Descriptor.parse_joined first third).2 (by decide)
  have tokens := Token.cuts_scan 0 c.toList
  rw [← textBytes_eq] at tokens
  have place : Segment.starts (Token.cut 0 (Token.scan c.toList)) = [2] := by
    decide +kernel
  rw [cuts.unique tokens, place] at starts
  cases starts
  have named : word = "Drop" := by
    rw [show Grammar.wordAt (textBytes c) 2 = utf8Bytes "Drop".toList by decide +kernel,
      textBytes_eq_utf8Bytes] at spelled
    exact spelled
  rw [refused, named]
  decide +kernel

end SqlDriver
