import SqlDriver.Proofs.Query.Grammar

/-!
The tokens of a text cut its bytes as the grammar does. A word, and a character that means nothing,
are one token each and a plain segment for each of their bytes; any other token is one segment.

The grammar passes over the byte after a backslash, the scanner over the character: the other bytes
of such a character are no marks, so both find the same closing quote.
-/

namespace SqlDriver

/-! ## Bytes that are no marks -/

/-- The characters that may open something. -/
def Segment.marks : List Char :=
  ['\'', '"', '\x60', '-', '/', ';', '?'] ++ Segment.blanks

theorem Segment.ascii_of_mem_marks {mark : Char} (member : mark ∈ Segment.marks) :
    mark.toNat < 128 := by
  have all : (Segment.marks.all fun mark => mark.toNat < 128) = true := by decide
  exact of_decide_eq_true (List.all_eq_true.mp all mark member)

theorem Segment.opening_of_not_mark {b : UInt8} (apart : ∀ mark ∈ Segment.marks, b ≠ mark.toUInt8)
    (next : Option UInt8) : Segment.opening b next = .plain := by
  have blank : b ∉ Segment.blanks.map Char.toUInt8 := by
    intro member
    obtain ⟨mark, inside, same⟩ := List.mem_map.mp member
    exact apart mark (List.mem_append_right _ inside) same.symm
  unfold Segment.opening
  rw [if_neg (apart _ (by decide)),
    if_neg (not_or.mpr ⟨apart _ (by decide), apart _ (by decide)⟩),
    if_neg (fun both => apart _ (by decide) both.1),
    if_neg (fun both => apart _ (by decide) both.1), if_neg (apart _ (by decide)),
    if_neg (apart _ (by decide)), if_neg blank]

/-- A character that is no mark has no mark among its bytes. So bytes may be looked at one by one,
without knowing where characters begin. -/
theorem Segment.opening_of_mem_utf8EncodeChar {c : Char} (apart : c ∉ Segment.marks) {b : UInt8}
    (member : b ∈ String.utf8EncodeChar c) (next : Option UInt8) :
    Segment.opening b next = .plain := by
  refine Segment.opening_of_not_mark (fun mark inside same => apart ?_) next
  rw [same, toUInt8_mem_utf8EncodeChar (Segment.ascii_of_mem_marks inside)] at member
  rw [member]
  exact inside

theorem Token.not_mark_of_isWordChar {c : Char} (word : Token.isWordChar c = true) :
    c ∉ Segment.marks := by
  intro member
  have none : (Segment.marks.all fun mark => !Token.isWordChar mark) = true := by decide
  have other := List.all_eq_true.mp none c member
  rw [word] at other
  cases other

theorem Segment.toUInt8_mem_blanks {c : Char} (ascii : c.toNat < 128) :
    c.toUInt8 ∈ Segment.blanks.map Char.toUInt8 ↔ Token.isSpace c = true := by
  unfold Segment.blanks Token.isSpace
  simp (disch := decide) only [List.map_cons, List.map_nil, List.mem_cons, List.not_mem_nil,
    or_false, toUInt8_inj ascii, Bool.or_eq_true, decide_eq_true_eq, or_assoc]

/-- What a byte opens, when it is an ASCII character and the text goes on with the others: the cases
are those of the scanner, on bytes. -/
theorem Segment.opening_toUInt8 {c : Char} (ascii : c.toNat < 128) (rest : List Char) :
    Segment.opening c.toUInt8 (utf8Bytes rest).head? =
      if c = '\'' then .quote c.toUInt8 true
      else if c = '"' ∨ c = '\x60' then .quote c.toUInt8 false
      else if c = '-' ∧ rest.head? = some '-' then .line
      else if c = '/' ∧ rest.head? = some '*' then .block
      else if c = ';' then .separator
      else if c = '?' then .placeholder
      else if Token.isSpace c then .blank
      else .plain := by
  unfold Segment.opening
  simp (disch := decide) only [toUInt8_inj ascii, head?_utf8Bytes, Segment.toUInt8_mem_blanks ascii]

/-! ## Runs -/

/-- Bytes that neither close a run nor escape are part of it. -/
theorem Segment.Run.append {rest tail : List UInt8} {closing : UInt8} {escapes closed : Bool}
    (run : Segment.Run rest closing escapes closed tail) {bytes : List UInt8}
    (plain : ∀ b ∈ bytes, (escapes = true → b ≠ '\\'.toUInt8) ∧ b ≠ closing) :
    Segment.Run rest closing escapes closed (bytes ++ tail) := by
  induction bytes with
  | nil => exact run
  | cons b bytes ih =>
    obtain ⟨straight, other⟩ := plain b List.mem_cons_self
    exact .byte straight other (ih fun b member => plain b (List.mem_cons_of_mem _ member))

theorem Segment.Comment.append {rest tail : List UInt8} {depth : Nat} {closed : Bool}
    (comment : Segment.Comment rest depth closed tail) {bytes : List UInt8}
    (plain : ∀ b ∈ bytes, b ≠ '/'.toUInt8 ∧ b ≠ '*'.toUInt8) :
    Segment.Comment rest depth closed (bytes ++ tail) := by
  induction bytes with
  | nil => exact comment
  | cons b bytes ih =>
    obtain ⟨slash, star⟩ := plain b List.mem_cons_self
    exact .byte (fun same => absurd same slash) (fun same => absurd same star)
      (ih fun b member => plain b (List.mem_cons_of_mem _ member))

theorem ne_toUInt8_of_wide {b : UInt8} (wide : 128 ≤ b.toNat) {mark : Char}
    (ascii : mark.toNat < 128) : b ≠ mark.toUInt8 := by
  rintro rfl
  rw [toNat_toUInt8_of_ascii ascii] at wide
  omega

/-- The bytes of a run, its closing mark included. -/
def Token.Run.bytes (closing : List Char) (run : Token.Run) : List UInt8 :=
  utf8Bytes (run.body ++ bif run.closed then closing else [])

theorem Token.Run.bytes_cons (closing chars : List Char) (run : Token.Run) :
    (run.cons chars).bytes closing = utf8Bytes chars ++ run.bytes closing := by
  simp [Token.Run.bytes, Token.Run.cons]

/-- The bytes of a run and those after it are the bytes of its text, so nothing is lost between
characters and bytes. -/
theorem Token.Run.bytes_append (closing : List Char) (run : Token.Run) :
    run.bytes closing ++ utf8Bytes run.rest = utf8Bytes (run.text closing) := by
  rw [Token.Run.bytes, ← utf8Bytes_append]
  rfl

/-- A quoted run of characters is one of bytes, closed or not as it is. -/
theorem Token.quotedRun_bytes {quote : Char} (ascii : quote.toNat < 128) (escapes : Bool)
    (text : List Char) :
    let run := Token.quotedRun quote escapes text
    Segment.Run (utf8Bytes run.rest) quote.toUInt8 escapes run.closed (run.bytes [quote]) := by
  fun_induction Token.quotedRun quote escapes text with
  | case1 => exact .unended rfl
  | case2 c escape =>
    rw [Bool.and_eq_true, decide_eq_true_eq] at escape
    obtain ⟨escape, rfl⟩ := escape
    exact .dangling escape rfl
  | case3 c escape escaped rest ih =>
    rw [Bool.and_eq_true, decide_eq_true_eq] at escape
    obtain ⟨escape, rfl⟩ := escape
    obtain ⟨lead, trail, whole, wide⟩ := utf8EncodeChar_eq_cons escaped
    have bytes : utf8Bytes ['\\', escaped] = '\\'.toUInt8 :: lead :: trail := by
      rw [utf8Bytes_cons, utf8Bytes_cons, whole, utf8Bytes_nil, List.append_nil]
      rfl
    dsimp only
    rw [Token.Run.bytes_cons, bytes]
    refine .escaped lead escape (ih.append fun b member => ?_)
    exact ⟨fun _ => ne_toUInt8_of_wide (wide b member) (by decide),
      ne_toUInt8_of_wide (wide b member) ascii⟩
  | case4 rest straight =>
    have closing : utf8Bytes [quote] = [quote.toUInt8] := by
      rw [utf8Bytes_cons, utf8EncodeChar_of_ascii ascii]
      rfl
    dsimp only [Token.Run.bytes]
    rw [cond_true, List.nil_append, closing]
    refine .ended fun escape same => straight ?_
    rw [toUInt8_inj ascii (by decide)] at same
    rw [escape, same]
    rfl
  | case5 c rest straight other ih =>
    dsimp only
    rw [Token.Run.bytes_cons, utf8Bytes_cons, utf8Bytes_nil, List.append_nil]
    refine ih.append fun b member => ⟨fun escape same => straight ?_, fun same => other ?_⟩
    · rw [same, toUInt8_mem_utf8EncodeChar (by decide)] at member
      rw [escape, member]
      rfl
    · rw [same, toUInt8_mem_utf8EncodeChar ascii] at member
      exact member

/-- The rest of a line is a run up to a line feed, without escapes. -/
theorem Token.lineRun_eq_quotedRun (text : List Char) :
    Token.lineRun text = Token.quotedRun '\n' false text := by
  fun_induction Token.lineRun text with
  | case1 => rfl
  | case2 rest =>
    unfold Token.quotedRun
    rw [if_neg (by simp), if_pos rfl]
  | case3 c rest other ih =>
    unfold Token.quotedRun
    rw [if_neg (by simp), if_neg other, ih]

/-- A comment of characters is one of bytes, opened equally deep. -/
theorem Token.commentRun_bytes (depth : Nat) (text : List Char) :
    let run := Token.commentRun depth text
    Segment.Comment (utf8Bytes run.rest) depth run.closed (run.bytes ['*', '/']) := by
  fun_induction Token.commentRun depth text with
  | case1 depth rest ih =>
    dsimp only
    rw [Token.Run.bytes_cons]
    exact .inner ih
  | case2 rest => exact .ended
  | case3 depth rest ih =>
    dsimp only
    rw [Token.Run.bytes_cons]
    exact .outer ih
  | case4 depth c rest slash ended outer ih =>
    dsimp only
    rw [Token.Run.bytes_cons, utf8Bytes_cons, utf8Bytes_nil, List.append_nil]
    by_cases narrow : c = '/' ∨ c = '*'
    · have ascii : c.toNat < 128 := by
        rcases narrow with rfl | rfl <;> decide
      have follows {mark : Char} (narrow : mark.toNat < 128)
          (head : ((Token.commentRun depth rest).bytes ['*', '/'] ++
            utf8Bytes (Token.commentRun depth rest).rest).head? = some mark.toUInt8) :
          rest = mark :: rest.tail := by
        rw [Token.Run.bytes_append, Token.text_commentRun, head?_utf8Bytes narrow] at head
        exact Token.eq_cons_tail_of_head? head
      rw [utf8EncodeChar_of_ascii ascii, List.singleton_append]
      refine .byte (fun same star => ?_) (fun same ending => ?_) ih
      · rw [toUInt8_inj ascii (by decide)] at same
        exact slash _ same (follows (by decide) star)
      · rw [toUInt8_inj ascii (by decide)] at same
        have whole := follows (by decide) ending
        cases depth with
        | zero => exact ended _ rfl same whole
        | succ depth => exact outer depth _ rfl same whole
    · refine ih.append fun b member => ⟨fun same => narrow ?_, fun same => narrow ?_⟩
      · rw [same, toUInt8_mem_utf8EncodeChar (by decide)] at member
        exact Or.inl member
      · rw [same, toUInt8_mem_utf8EncodeChar (by decide)] at member
        exact Or.inr member
  | case5 depth => exact .unended depth rfl

/-! ## Tokens -/

/-- The kind of the one segment that a token is; a word and a character without a meaning are plain
bytes. -/
def Token.kind? : Token → Option Segment.Kind
  | .word _ => none
  | .space _ => some .blank
  | .separator => some .separator
  | .placeholder => some .placeholder
  | .quoted _ _ closed => some (.quoted closed)
  | .lineComment _ _ => some .lineComment
  | .blockComment _ closed => some (.blockComment closed)
  | .other _ => none

/-- A plain segment for each byte. -/
def Segment.plains : Nat → List UInt8 → List Segment
  | _, [] => []
  | position, b :: rest => ⟨position, .plain, [b]⟩ :: Segment.plains (position + 1) rest

/-- The segments of a token at a position. -/
def Token.segments (position : Nat) (token : Token) : List Segment :=
  match token.kind? with
  | some kind => [⟨position, kind, utf8Bytes token.lexeme⟩]
  | none => Segment.plains position (utf8Bytes token.lexeme)

/-- The segments of some tokens, the first of which is at the position. -/
def Token.cut : Nat → List Token → List Segment
  | _, [] => []
  | position, token :: rest =>
    token.segments position ++ Token.cut (position + utf8Length token.lexeme) rest

/-- Plain bytes are each a segment of their own, so a cut may be carried on to the left over any
number of them. -/
theorem Segment.Cuts.plains {position : Nat} {rest bytes : List UInt8} {segments : List Segment}
    (cut : Segment.Cuts (position + bytes.length) rest segments)
    (plain : ∀ b ∈ bytes, ∀ next, Segment.opening b next = .plain) :
    Segment.Cuts position (bytes ++ rest) (Segment.plains position bytes ++ segments) := by
  induction bytes generalizing position with
  | nil => exact cut
  | cons b bytes ih =>
    rw [List.length_cons, Nat.add_comm bytes.length, ← Nat.add_assoc] at cut
    refine @Segment.Cuts.cons _ _ b [] (bytes ++ rest) _ _ rfl ?_
      (ih cut fun b member => plain b (List.mem_cons_of_mem _ member))
    rw [plain b List.mem_cons_self]
    exact .plain

/-- A token of one segment, when its first character is ASCII. What opens the segment is seen from
that character's byte and the next one. -/
theorem Token.cuts_segment {position : Nat} {token : Token} {kind : Segment.Kind} {c : Char}
    {body after : List Char} {segments : List Segment}
    (cut : Segment.Cuts (position + utf8Length token.lexeme) (utf8Bytes after) segments)
    (one : token.kind? = some kind) (ascii : c.toNat < 128) (lexeme : token.lexeme = c :: body)
    (completes : Segment.Completes (utf8Bytes after)
      (Segment.opening c.toUInt8 (utf8Bytes (body ++ after)).head?) kind (utf8Bytes body)) :
    Segment.Cuts position (utf8Bytes (token.lexeme ++ after))
      (token.segments position ++ segments) := by
  have bytes : utf8Bytes token.lexeme = c.toUInt8 :: utf8Bytes body := by
    rw [lexeme, utf8Bytes_cons, utf8EncodeChar_of_ascii ascii]
    rfl
  rw [utf8Length_eq_length, bytes] at cut
  unfold Token.segments
  rw [one, utf8Bytes_append, bytes]
  rw [utf8Bytes_append] at completes
  exact .cons rfl completes cut

/-! ### One lemma for each token -/

/-- A token is the one segment that its first character opens, and takes what the segment takes. -/
def Token.IsSegment (c : Char) (rest : List Char) (next : Token × List Char) : Prop :=
  ∃ kind body, next.1.kind? = some kind ∧ c.toNat < 128 ∧ next.1.lexeme = c :: body ∧
    Segment.Completes (utf8Bytes next.2) (Segment.opening c.toUInt8 (utf8Bytes rest).head?) kind
      (utf8Bytes body)

/-- A token is made of bytes that open nothing: either it is a single character that might have
opened something if the text went on differently, or none of its bytes ever opens anything. -/
def Token.IsPlain (c : Char) (rest : List Char) (token : Token) : Prop :=
  token.kind? = none ∧
    ((c.toNat < 128 ∧ token.lexeme = [c] ∧
        Segment.opening c.toUInt8 (utf8Bytes rest).head? = .plain) ∨
      ∀ b ∈ utf8Bytes token.lexeme, ∀ next, Segment.opening b next = .plain)

section

variable {c : Char} {rest : List Char}

/-- A quote of either sort opens a run up to the next such quote; in a literal a backslash escapes
what comes after it. -/
theorem Token.isSegment_quoted (ascii : c.toNat < 128) {escapes : Bool}
    (opens : Segment.opening c.toUInt8 (utf8Bytes rest).head? = .quote c.toUInt8 escapes) :
    Token.IsSegment c rest (.quoted c (Token.quotedRun c escapes rest).body
      (Token.quotedRun c escapes rest).closed, (Token.quotedRun c escapes rest).rest) := by
  refine ⟨_, _, rfl, ascii, rfl, ?_⟩
  rw [opens]
  exact .quote (Token.quotedRun_bytes ascii escapes rest)

/-- Two hyphens open a comment up to the end of the line. -/
theorem Token.isSegment_lineComment (follows : rest.head? = some '-') :
    Token.IsSegment '-' rest (.lineComment (Token.lineRun rest.tail).body
      (Token.lineRun rest.tail).closed, (Token.lineRun rest.tail).rest) := by
  refine ⟨_, _, rfl, by decide, rfl, ?_⟩
  rw [Segment.opening_toUInt8 (by decide), if_neg (by decide), if_neg (by decide),
    if_pos ⟨rfl, follows⟩, Token.lineRun_eq_quotedRun]
  exact .line (@Token.quotedRun_bytes '\n' (by decide) false rest.tail)

/-- A slash and a star open a comment that nests. The star may not be taken for the beginning of the
closing mark. -/
theorem Token.isSegment_blockComment (follows : rest.head? = some '*') :
    Token.IsSegment '/' rest (.blockComment (Token.commentRun 0 rest.tail).body
      (Token.commentRun 0 rest.tail).closed, (Token.commentRun 0 rest.tail).rest) := by
  refine ⟨_, _, rfl, by decide, rfl, ?_⟩
  rw [Segment.opening_toUInt8 (by decide), if_neg (by decide), if_neg (by decide),
    if_neg (by simp), if_pos ⟨rfl, follows⟩]
  exact .block (Token.commentRun_bytes 0 rest.tail)

theorem Token.isSegment_separator : Token.IsSegment ';' rest (.separator, rest) :=
  ⟨_, _, rfl, by decide, rfl, .separator⟩

theorem Token.isSegment_placeholder : Token.IsSegment '?' rest (.placeholder, rest) :=
  ⟨_, _, rfl, by decide, rfl, .placeholder⟩

theorem Token.isSegment_space (space : Token.isSpace c = true) :
    Token.IsSegment c rest (.space c, rest) := by
  unfold Token.isSpace at space
  simp only [Bool.or_eq_true, decide_eq_true_eq] at space
  rcases space with (((rfl | rfl) | rfl) | rfl) | rfl <;>
    exact ⟨_, _, rfl, by decide, rfl, .blank⟩

/-- None of the bytes of a word opens anything, and the word goes on as far as it can. -/
theorem Token.isPlain_word (word : Token.isWordChar c = true) :
    Token.IsPlain c rest (.word (c :: rest.takeWhile Token.isWordChar)) := by
  refine ⟨rfl, Or.inr fun b member next => ?_⟩
  obtain ⟨d, inside, member⟩ := List.mem_flatMap.mp member
  refine Segment.opening_of_mem_utf8EncodeChar (Token.not_mark_of_isWordChar ?_) member next
  rcases List.mem_cons.mp inside with rfl | later
  · exact word
  · exact List.all_eq_true.mp List.all_takeWhile d later

/-- A character that begins no other token opens nothing. A hyphen or a slash does so only because
of the character after it. -/
theorem Token.isPlain_other
    (plain : c.toNat < 128 → Segment.opening c.toUInt8 (utf8Bytes rest).head? = .plain) :
    Token.IsPlain c rest (.other c) := by
  refine ⟨rfl, ?_⟩
  by_cases mark : c ∈ Segment.marks
  · have ascii := Segment.ascii_of_mem_marks mark
    exact Or.inl ⟨ascii, rfl, plain ascii⟩
  · refine Or.inr fun b member => Segment.opening_of_mem_utf8EncodeChar mark ?_
    dsimp only [Token.lexeme] at member
    rw [utf8Bytes_cons, utf8Bytes_nil, List.append_nil] at member
    exact member

end

/-- A token is one segment that its first character opens, or plain bytes. The lemmas before this
one have a case each. -/
theorem Token.next_opens (c : Char) (rest : List Char) :
    Token.IsSegment c rest (Token.next c rest) ∨
      Token.IsPlain c rest (Token.next c rest).1 := by
  unfold Token.next
  split
  · rename_i single
    subst single
    exact Or.inl (Token.isSegment_quoted (by decide) rfl)
  rename_i single
  split
  · rename_i double
    rw [Bool.or_eq_true, decide_eq_true_eq, decide_eq_true_eq] at double
    rcases double with rfl | rfl <;> exact Or.inl (Token.isSegment_quoted (by decide) rfl)
  rename_i double
  rw [Bool.or_eq_true, decide_eq_true_eq, decide_eq_true_eq] at double
  split
  · rename_i hyphens
    rw [Bool.and_eq_true, decide_eq_true_eq, decide_eq_true_eq] at hyphens
    obtain ⟨rfl, follows⟩ := hyphens
    exact Or.inl (Token.isSegment_lineComment follows)
  rename_i hyphens
  rw [Bool.and_eq_true, decide_eq_true_eq, decide_eq_true_eq] at hyphens
  split
  · rename_i slash
    rw [Bool.and_eq_true, decide_eq_true_eq, decide_eq_true_eq] at slash
    obtain ⟨rfl, follows⟩ := slash
    exact Or.inl (Token.isSegment_blockComment follows)
  rename_i slash
  rw [Bool.and_eq_true, decide_eq_true_eq, decide_eq_true_eq] at slash
  split
  · rename_i semicolon
    subst semicolon
    exact Or.inl Token.isSegment_separator
  rename_i semicolon
  split
  · rename_i question
    subst question
    exact Or.inl Token.isSegment_placeholder
  rename_i question
  split
  · rename_i space
    exact Or.inl (Token.isSegment_space space)
  rename_i space
  refine Or.inr ?_
  split
  · rename_i word
    exact Token.isPlain_word word
  · refine Token.isPlain_other fun ascii => ?_
    rw [Segment.opening_toUInt8 ascii, if_neg single, if_neg double, if_neg hyphens, if_neg slash,
      if_neg semicolon, if_neg question, if_neg space]

/-- One token more on the left of a cut. -/
theorem Token.cuts_next (position : Nat) (c : Char) (rest : List Char) {segments : List Segment}
    (cut : Segment.Cuts (position + utf8Length (Token.next c rest).1.lexeme)
      (utf8Bytes (Token.next c rest).2) segments) :
    Segment.Cuts position (utf8Bytes (c :: rest))
      ((Token.next c rest).1.segments position ++ segments) := by
  have whole := Token.next_append c rest
  rw [← whole]
  rcases Token.next_opens c rest with ⟨kind, body, one, ascii, lexeme, completes⟩ | ⟨many, plain⟩
  · refine Token.cuts_segment cut one ascii lexeme ?_
    rw [lexeme, List.cons_append] at whole
    rw [(List.cons.inj whole).2]
    exact completes
  unfold Token.segments
  rw [many, utf8Bytes_append]
  rcases plain with ⟨ascii, lexeme, plain⟩ | plain
  · rw [utf8Length_eq_length] at cut
    rw [lexeme, List.singleton_append] at whole
    have byte : utf8Bytes [c] = [c.toUInt8] := by
      rw [utf8Bytes_cons, utf8EncodeChar_of_ascii ascii]
      rfl
    rw [lexeme, byte] at cut ⊢
    refine @Segment.Cuts.cons _ _ c.toUInt8 [] _ _ _ rfl ?_ cut
    rw [List.nil_append, (List.cons.inj whole).2, plain]
    exact .plain
  · rw [utf8Length_eq_length] at cut
    exact cut.plains plain

/-- The tokens of a text cut its bytes. As there is one cut only, whatever is said of segments is
said of what the scanner reads. -/
theorem Token.cuts_scan (position : Nat) (text : List Char) :
    Segment.Cuts position (utf8Bytes text) (Token.cut position (Token.scan text)) := by
  fun_induction Token.scan text generalizing position with
  | case1 => exact .nil position
  | case2 c rest ih => exact Token.cuts_next position c rest (ih _)

end SqlDriver
