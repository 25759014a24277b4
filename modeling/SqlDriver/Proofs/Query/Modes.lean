import SqlDriver.Proofs.Query.Parts

/-!
Reading strictly and reading tolerantly. A run that never ends takes the rest of the text, so it is
the last token and the modes differ in nothing before it. Where a statement begins with an open
quote, both refuse it; otherwise the tolerant reading passes over the open run, and the strict one
refuses the text for it.
-/

namespace SqlDriver

/-! ## The open run of a text -/

section

variable {text : List Char} {front back : List Token} {token : Token} {fault : GrammarFault}

/-- Nothing comes after a run that never ends, as it takes all that is left of the text. -/
theorem Token.back_of_open (whole : Token.scan text = front ++ token :: back)
    (opened : token.openFault? = some fault) : back = [] := by
  have meets := Token.meets_of_scan whole
  have behind : back.flatMap Token.lexeme = [] := by
    cases token with
    | quoted quote body closed =>
      cases closed with
      | true => cases opened
      | false => exact meets rfl
    | blockComment body closed =>
      cases closed with
      | true => cases opened
      | false => exact meets rfl
    | word | space | separator | placeholder | lineComment | other => cases opened
  rw [← List.singleton_append, ← List.append_assoc] at whole
  have again := Token.scan_back whole
  rw [behind, Token.scan] at again
  exact again.symm

theorem Token.openFault?_cases (opened : token.openFault? = some fault) :
    fault = .unterminatedQuote ∨ fault = .unterminatedComment := by
  unfold Token.openFault? at opened
  split at opened
  · exact Or.inl (Option.some.inj opened).symm
  · exact Or.inr (Option.some.inj opened).symm
  · cases opened

/-- All runs of a text end, or all but the last token do. So the two modes can differ only in what
they make of the last token. -/
theorem Token.scan_open (text : List Char) :
    (∀ token ∈ Token.scan text, token.openFault? = none) ∨
    ∃ front last fault, Token.scan text = front ++ [last] ∧ last.openFault? = some fault ∧
      ∀ token ∈ front, token.openFault? = none := by
  cases found : (Token.scan text).find? fun token => token.openFault?.isSome with
  | none =>
    refine Or.inl fun token member => ?_
    simpa using List.find?_eq_none.mp found token member
  | some last =>
    obtain ⟨opened, front, back, whole, ended⟩ := List.find?_eq_some_iff_append.mp found
    obtain ⟨fault, opened⟩ := Option.isSome_iff_exists.mp opened
    obtain rfl := Token.back_of_open whole opened
    exact Or.inr ⟨front, last, fault, whole, opened, fun token member => by
      simpa using ended token member⟩

end

/-! ## The statements in both modes -/

section

variable {mode : ReadingMode} {offset : Nat} {starting : Bool} {established : Option QueryKind}
  {last : Token} {fault : GrammarFault}

/-- Up to the first statement of a text one may begin. -/
theorem Descriptor.startingAfter_of_none {tokens : List Token} (start : starting = true)
    (none : Descriptor.statements? mode offset starting established tokens = .ok []) :
    Descriptor.startingAfter starting tokens = true := by
  fun_induction Descriptor.statements? mode offset starting established tokens with
  | case1 => exact start
  | case2 => cases none
  | case3 => cases none
  | case4 => cases none
  | case5 => cases none
  | case6 offset starting established token rest after pass fault opened tolerant ih =>
    subst start
    rw [Descriptor.startingAfter_cons, Token.startsAfter_pass pass, Bool.true_or]
    exact ih rfl none
  | case7 offset starting established token rest after pass ended ih =>
    subst start
    rw [Descriptor.startingAfter_cons, Token.startsAfter_pass pass]
    exact ih rfl none

variable (offset starting established) in
/-- An open run at the end of a text is refused in both modes where a statement may begin with it,
and only by reading strictly elsewhere. -/
theorem Descriptor.statements?_open (opened : last.openFault? = some fault) :
    (∃ wrong, ∀ mode, Descriptor.statements? mode offset starting established [last] =
      .error (offset, wrong)) ∨
    Descriptor.statements? .tolerant offset starting established [last] = .ok [] ∧
      Descriptor.statements? .strict offset starting established [last] = .error (offset, fault) ∧
      (starting = true → fault = .unterminatedComment) := by
  cases last with
  | quoted quote body closed =>
    cases closed with
    | true => cases opened
    | false =>
      cases opened
      cases starting with
      | true => exact Or.inl ⟨_, fun mode => rfl⟩
      | false => exact Or.inr ⟨rfl, rfl, fun start => nomatch start⟩
  | blockComment body closed =>
    cases closed with
    | true => cases opened
    | false =>
      cases opened
      cases starting <;> exact Or.inr ⟨rfl, rfl, fun _ => rfl⟩
  | word | space | separator | placeholder | lineComment | other => cases opened

end

/-- The modes read a text alike, or the tolerant reading passes over an open run at its end, for
which the strict one refuses it. -/
theorem Descriptor.statements?_modes (text : List Char) :
    (∀ mode, Descriptor.statements? mode 0 true none (Token.scan text) =
      Descriptor.statements? .strict 0 true none (Token.scan text)) ∨
    ∃ front last fault families, Token.scan text = front ++ [last] ∧
      last.openFault? = some fault ∧
      Descriptor.statements? .strict 0 true none front = .ok families ∧
      Descriptor.statements? .tolerant 0 true none (Token.scan text) = .ok families ∧
      Descriptor.statements? .strict 0 true none (Token.scan text) =
        .error (Token.width front, fault) ∧
      (families = [] → fault = .unterminatedComment) := by
  rcases Token.scan_open text with ended | ⟨front, last, fault, whole, opened, ended⟩
  · exact Or.inl fun mode => Descriptor.statements?_of_ended mode 0 true none .strict ended
  -- The tokens before the open run are read alike, so the modes can differ at the run only.
  have alike (mode : ReadingMode) := Descriptor.statements?_of_ended mode 0 true none .strict ended
  have parts (mode : ReadingMode) :=
    Descriptor.statements?_append mode 0 true none front [last]
  rw [whole]
  cases found : Descriptor.statements? .strict 0 true none front with
  | error wrong =>
    refine Or.inl fun mode => ?_
    rw [parts mode, parts .strict, alike mode, found]
    rfl
  | ok families =>
    simp only [alike, found, Except.bind, Nat.zero_add] at parts
    rcases Descriptor.statements?_open (Token.width front) (Descriptor.startingAfter true front)
        (Descriptor.establishedAfter none families) opened with
      ⟨wrong, refused⟩ | ⟨tolerant, strict, filler⟩
    · refine Or.inl fun mode => ?_
      rw [parts mode, parts .strict, refused mode, refused .strict]
    · refine Or.inr ⟨front, last, fault, families, rfl, opened, found, ?_, ?_, ?_⟩
      · rw [parts, tolerant]
        exact congrArg Except.ok (List.append_nil families)
      · rw [parts, strict]
        rfl
      · rintro rfl
        exact filler (Descriptor.startingAfter_of_none rfl found)

/-! ## Up to the open run -/

theorem Token.cut_append (position : Nat) (front back : List Token) :
    Token.cut position (front ++ back) =
      Token.cut position front ++ Token.cut (position + Token.width front) back := by
  induction front generalizing position with
  | nil => rfl
  | cons token rest ih =>
    rw [List.cons_append, Token.cut, ih, Token.cut, List.append_assoc, Token.width_cons,
      Nat.add_assoc]

/-- An open run is one segment, which goes up to the end of the text. -/
theorem Token.segments_open {token : Token} {fault : GrammarFault}
    (opened : token.openFault? = some fault) (position : Nat) :
    ∃ s, token.segments position = [s] ∧ s.start = position ∧ s.kind.openFault? = some fault := by
  obtain ⟨s, member, start, unended⟩ := Token.exists_open_segment position opened
  refine ⟨s, ?_, start, unended⟩
  cases token with
  | quoted | blockComment => rw [Token.segments, List.mem_singleton.mp member]; rfl
  | word | space | separator | placeholder | lineComment | other => cases opened

/-- All that a descriptor counts is in the front of the text, whose cut this is, and all of the back
is copied: the parameters replace the question marks of the front, and the statements are those that
begin in it. -/
structure Descriptor.CopiesBack (d : Descriptor) (front back : String) (cut : List Segment) :
    Prop where
  cuts : Segment.Cuts 0 (textBytes front) cut
  parameters : d.parameters.length = (Grammar.sites cut 0 (textBytes front)).length
  statements : (Segment.starts cut).map (Grammar.familyAt? (textBytes front)) =
    d.statements.map some
  canonical : textBytes d.canonical =
    Grammar.replace ((Grammar.sites cut 0 (textBytes front)).zip (d.parameters.map textBytes)) 0
      (textBytes front) ++ textBytes back

/-- What the tolerant reading of a text with an open run at its end counts, and that it copies the
run back as it stands. -/
theorem Descriptor.copiesBack_open {text : String} {front : List Token} {last : Token}
    {fault : GrammarFault} {first : StatementKind} {others : List StatementKind}
    (whole : Token.scan text.toList = front ++ [last]) (opened : last.openFault? = some fault)
    (before : Descriptor.statements? .strict 0 true none front = .ok (first :: others))
    (found : Descriptor.statements? .tolerant 0 true none (Token.scan text.toList) =
      .ok (first :: others)) {d : Descriptor} (parsed : Descriptor.parse .tolerant text = .ok d) :
    d.CopiesBack (String.ofList (front.flatMap Token.lexeme)) (String.ofList last.lexeme)
      (Token.cut 0 front) := by
  have same := (Descriptor.parse_of_statements found).symm.trans parsed
  cases same
  have other : last ≠ .placeholder := by
    rintro rfl
    cases opened
  have bytes (chars : List Char) : textBytes (String.ofList chars) = utf8Bytes chars :=
    (textBytes_eq_utf8Bytes _ _).mpr rfl
  have scanned := Token.scan_front whole
  have cuts := Token.cuts_scan 0 (front.flatMap Token.lexeme)
  have verdict := @Descriptor.statements?_verdict .strict
    (utf8Bytes (front.flatMap Token.lexeme)) 0 (front.flatMap Token.lexeme) rfl true none
  unfold Grammar.Answers at verdict
  rw [scanned] at cuts verdict
  rw [before] at verdict
  have count : (Token.scan text.toList).count .placeholder = front.count .placeholder := by
    rw [whole, List.count_append, List.count_singleton, if_neg (by simpa using other)]
    rfl
  constructor
  · rw [bytes]
    exact cuts
  · rw [bytes, cuts.sites, ← Token.count_placeholder]
    simp [Parameter.names, count]
  · rw [bytes]
    cases verdict with
    | ok named _ _ => exact named
  · rw [bytes, bytes, bytes, whole, Parameter.substitute_append, utf8Bytes_append,
      Parameter.utf8Bytes_substitute _ 0, cuts.sites, ← whole, count,
      Parameter.map_textBytes_names, Parameter.substitute_cons other]
    simp [Parameter.substitute]

/-- Reading strictly refines reading tolerantly. A text that is accepted strictly is accepted
tolerantly with the same answer. Where only the strict reading refuses a text, it is for an open
run, which is the last segment of the text, and the tolerant reading copies all of it and counts
nothing in it. A text that is refused tolerantly is refused strictly, for the same fault unless
there are no statements; then the strict fault may be an open comment. -/
theorem Descriptor.parse_strict_refines (text : String) :
    (∀ d, Descriptor.parse .strict text = .ok d → Descriptor.parse .tolerant text = .ok d) ∧
    (∀ d e, Descriptor.parse .tolerant text = .ok d → Descriptor.parse .strict text = .error e →
      ∃ front back cut s fault, text = front ++ back ∧
        e = .grammar (textBytes front).length fault ∧
        (fault = .unterminatedQuote ∨ fault = .unterminatedComment) ∧
        Segment.Cuts 0 (textBytes text) (cut ++ [s]) ∧ s.start = (textBytes front).length ∧
        s.kind.openFault? = some fault ∧ d.CopiesBack front back cut) ∧
    ∀ e, Descriptor.parse .tolerant text = .error e →
      Descriptor.parse .strict text = .error e ∨
        e = .grammar 0 .noStatements ∧
          ∃ p, Descriptor.parse .strict text = .error (.grammar p .unterminatedComment) := by
  rcases Descriptor.statements?_modes text.toList with
    alike | ⟨front, last, fault, families, whole, opened, before, tolerant, strict, comment⟩
  · rw [Descriptor.parse_congr (alike .tolerant)]
    refine ⟨fun d parsed => parsed, fun d e accepted refused => ?_, fun e => Or.inl⟩
    rw [accepted] at refused
    cases refused
  · have refused := Descriptor.parse_of_fault strict
    refine ⟨fun d parsed => ?_, fun d e parsed same => ?_, fun e same => ?_⟩
    · rw [refused] at parsed
      cases parsed
    · rw [refused] at same
      cases same
      cases families with
      | nil =>
        rw [Descriptor.parse_of_no_statements tolerant] at parsed
        cases parsed
      | cons first others =>
        have copies := Descriptor.copiesBack_open whole opened before tolerant parsed
        obtain ⟨s, one, start, unended⟩ := Token.segments_open opened (Token.width front)
        have cuts := Token.cuts_scan 0 text.toList
        rw [whole, Token.cut_append, Token.cut, Token.cut, List.append_nil, Nat.zero_add, one,
          ← textBytes_eq] at cuts
        have joined : text = String.ofList (front.flatMap Token.lexeme) ++
            String.ofList last.lexeme := by
          rw [← String.ofList_append, ← String.toList_inj, String.toList_ofList,
            ← Token.flatMap_lexeme_scan text.toList, whole, List.flatMap_append,
            List.flatMap_singleton]
        have length : Token.width front =
            (textBytes (String.ofList (front.flatMap Token.lexeme))).length := by
          rw [textBytes_eq, String.toList_ofList, ← utf8Length_eq_length, Token.width]
        rw [length] at start
        exact ⟨_, _, _, s, fault, joined, by rw [length], Token.openFault?_cases opened, cuts,
          start, unended, copies⟩
    · cases families with
      | nil =>
        rw [Descriptor.parse_of_no_statements tolerant] at same
        cases same
        rw [comment rfl] at refused
        exact Or.inr ⟨rfl, _, refused⟩
      | cons first others =>
        rw [Descriptor.parse_of_statements tolerant] at same
        cases same

/-- A text with a placeholder before a comment that never ends, and one in it. -/
theorem Descriptor.parse_strict_refines_open_comment :
    let text := "SELECT ? /* ?"
    let d : Descriptor := ⟨text, "SELECT $jp1 /* ?", .data, ["$jp1"], [.select]⟩
    Descriptor.parse .tolerant text = .ok d ∧
      Descriptor.parse .strict text = .error (.grammar 9 .unterminatedComment) ∧
      ∃ front back cut, text = front ++ back ∧ (textBytes front).length = 9 ∧
        d.CopiesBack front back cut := by
  intro text d
  have tolerant : Descriptor.parse .tolerant text = .ok d := by decide +kernel
  have strict : Descriptor.parse .strict text = .error (.grammar 9 .unterminatedComment) := by
    decide +kernel
  obtain ⟨front, back, cut, s, fault, joined, place, -, -, -, -, copies⟩ :=
    (Descriptor.parse_strict_refines text).2.1 d _ tolerant strict
  exact ⟨tolerant, strict, front, back, cut, joined, (QueryError.grammar.inj place).1.symm, copies⟩

end SqlDriver
