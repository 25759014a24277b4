import SqlDriver.Proofs.Query.Ends
import SqlDriver.Proofs.Query.Joined

/-!
The reading of a text by the positions of its bytes comes to the reading by its characters. Between
two tokens the reader stands at a boundary, with what it has read the same as what the tokens before
say; what it does inside of a token brings it to the next one. So every slice that is taken has
boundaries for its bounds, and the position of every fault is one.
-/

namespace SqlDriver

/-! ## Single tokens -/

section

variable (mode : ReadingMode) (offset : Nat) {starting : Bool} (established : Option QueryKind)
  {token : Token}

/-- A token with which no statement begins is passed over, unless it never ends and the reading
minds that. -/
theorem Descriptor.statements?_pass
    (pass : ¬ (starting && !token.isFiller && token ≠ .separator) = true) :
    Descriptor.statements? mode offset starting established [token] =
      match token.openFault? with
      | some fault => if mode.isStrict then .error (offset, fault) else .ok []
      | none => .ok [] := by
  simp only [Descriptor.statements?]
  refine (if_neg pass).trans ?_
  cases token.openFault? <;> rfl

/-- A token with which a statement begins gives its family, or a fault where it stands. -/
theorem Descriptor.statements?_begin (word : token.isFiller = false) (apart : token ≠ .separator) :
    Descriptor.statements? mode offset true established [token] =
      match token.statement established with
      | .error fault => .error (offset, fault)
      | .ok family => .ok [family] := by
  simp only [Descriptor.statements?]
  refine (if_pos (by simp [word, apart])).trans ?_
  cases token.statement established <;> rfl

theorem Segment.Run.rest_eq_nil {rest tail : List UInt8} {closing : UInt8} {escapes closed : Bool}
    (run : Segment.Run rest closing escapes closed tail) (never : closed = false) : rest = [] := by
  induction run with
  | unended none => exact none
  | ended straight => cases never
  | dangling escape none => exact none
  | escaped byte escape run ih => exact ih never
  | byte straight other run ih => exact ih never

theorem Segment.Comment.rest_eq_nil {rest tail : List UInt8} {depth : Nat} {closed : Bool}
    (comment : Segment.Comment rest depth closed tail) (never : closed = false) : rest = [] := by
  induction comment with
  | unended depth none => exact none
  | ended => cases never
  | inner comment ih => exact ih never
  | outer comment ih => exact ih never
  | byte slash star comment ih => exact ih never

end

/-! ## Steps of a run -/

section

variable {mode : ReadingMode} {text : String} {r next : Reader}

theorem Reader.step_of_drop (mode : ReadingMode) {byte : UInt8} {tail : List UInt8}
    (here : (textBytes text).drop r.position = byte :: tail) :
    r.step mode text = r.follow mode text (Segment.opening byte tail.head?) := by
  obtain ⟨inside, first, -⟩ := Reader.byte_of_drop here
  rw [Reader.step, List.getElem?_eq_getElem inside, first, Reader.next_of_drop here]

theorem Reader.lt_of_step {result : Except (Nat × GrammarFault) Reader}
    (stepped : r.step mode text = some result) : r.position < (textBytes text).length := by
  rw [Reader.step] at stepped
  cases here : (textBytes text)[r.position]? with
  | none =>
    rw [here] at stepped
    cases stepped
  | some byte => exact (List.getElem?_eq_some_iff.mp here).1

theorem Reader.run_of_step (stepped : r.step mode text = some (.ok next)) :
    r.run mode text = next.run mode text := by
  rw [Reader.run, if_pos (Reader.lt_of_step stepped)]
  split
  · rename_i none
    cases none.symm.trans stepped
  · rename_i fault failed
    cases failed.symm.trans stepped
  · rename_i next' moved
    cases moved.symm.trans stepped
    rfl

theorem Reader.run_of_fault {fault : Nat × GrammarFault}
    (stepped : r.step mode text = some (.error fault)) :
    r.run mode text = some (.error fault) := by
  rw [Reader.run, if_pos (Reader.lt_of_step stepped)]
  split
  · rename_i none
    cases none.symm.trans stepped
  · rename_i fault' failed
    cases failed.symm.trans stepped
    rfl
  · rename_i next' moved
    cases moved.symm.trans stepped

/-- Inside of a statement, bytes that open nothing are passed over one by one. For a word, or for a
character of several bytes, that takes several steps where the scanner takes one. -/
theorem Reader.run_plain {bytes rest : List UInt8}
    (here : (textBytes text).drop r.position = bytes ++ rest) (inside : r.starting = false)
    (plain : ∀ byte ∈ bytes, ∀ after, Segment.opening byte after = .plain) :
    r.run mode text = (r.moveTo (r.position + bytes.length)).run mode text := by
  induction bytes generalizing r with
  | nil => rfl
  | cons byte bytes ih =>
    have stepped : r.step mode text = some (.ok (r.moveTo (r.position + 1))) := by
      rw [Reader.step_of_drop mode here, plain byte List.mem_cons_self, Reader.follow, inside]
      rfl
    obtain ⟨-, -, after⟩ := Reader.byte_of_drop here
    have passed := ih (r := r.moveTo (r.position + 1)) after inside fun other member =>
      plain other (List.mem_cons_of_mem _ member)
    rw [Reader.run_of_step stepped, passed, Reader.length_one]
    rfl

end

/-! ## Between two tokens -/

/-- A reader that has read some tokens, which a text begins with. -/
structure Reader.HasRead (mode : ReadingMode) (text : String) (front : List Token) (r : Reader) :
    Prop where
  found : Descriptor.statements? mode 0 true none front = .ok r.statements
  position : r.position = Token.width front
  starting : r.starting = Descriptor.startingAfter true front
  kind : r.kind = Descriptor.establishedAfter none r.statements
  parameters : r.parameters =
    Parameter.names (Parameter.stem text.toList) (front.count .placeholder)
  /-- What is not copied yet has no placeholders in it. -/
  copied : ∃ done pending, front.flatMap Token.lexeme = done ++ pending ∧
    r.copied = utf8Length done ∧ r.canonical ++ String.ofList pending =
      String.ofList (Parameter.substitute (Parameter.stem text.toList) 0 front)

/-- What a reader makes of a token: the token's fault, or it comes to the next one. -/
def Reader.Takes (mode : ReadingMode) (text : String) (front : List Token) (r : Reader)
    (token : Token) : Prop :=
  (∃ fault, Descriptor.statements? mode r.position r.starting r.kind [token] = .error fault ∧
    r.run mode text = some (.error fault)) ∨
  ∃ next, Reader.HasRead mode text (front ++ [token]) next ∧
    r.run mode text = next.run mode text

theorem Parameter.names_succ (stem : List Char) (count : Nat) :
    Parameter.names stem (count + 1) =
      Parameter.names stem count ++ [String.ofList (Parameter.name stem (count + 1))] := by
  rw [Parameter.names, List.range_succ, List.map_append]
  rfl

namespace Reader.HasRead

variable {mode : ReadingMode} {text : String} {front : List Token} {r : Reader}

/-- A reader begins with nothing read, where a statement may begin. -/
theorem start (mode : ReadingMode) (text : String) : Reader.HasRead mode text [] .start where
  found := rfl
  position := rfl
  starting := rfl
  kind := rfl
  parameters := rfl
  copied := ⟨[], [], rfl, rfl, rfl⟩

section

variable {token : Token} {families : List StatementKind}

theorem found_append (h : Reader.HasRead mode text front r)
    (read : Descriptor.statements? mode r.position r.starting r.kind [token] = .ok families) :
    Descriptor.statements? mode 0 true none (front ++ [token]) =
      .ok (r.statements ++ families) := by
  rw [Descriptor.statements?_append, h.found]
  dsimp only [Except.bind]
  rw [Nat.zero_add, ← h.position, ← h.starting, ← h.kind, read]
  rfl

theorem position_append (h : Reader.HasRead mode text front r) (token : Token) :
    r.position + utf8Length token.lexeme = Token.width (front ++ [token]) := by
  rw [Token.width_append, h.position, Token.width_cons]
  rfl

/-- A token other than a placeholder was read, and the reader stands after it. -/
theorem advance (h : Reader.HasRead mode text front r)
    (read : Descriptor.statements? mode r.position r.starting r.kind [token] = .ok families)
    (other : token ≠ .placeholder) :
    Reader.HasRead mode text (front ++ [token])
      { r with
        position := r.position + utf8Length token.lexeme
        starting := token.startsAfter r.starting
        statements := r.statements ++ families
        kind := Descriptor.establishedAfter r.kind families } := by
  constructor
  case found => exact h.found_append read
  case position => exact h.position_append token
  case starting =>
    rw [Descriptor.startingAfter_append, ← h.starting]
    rfl
  case kind => rw [Descriptor.establishedAfter_append, ← h.kind]
  case parameters =>
    rw [List.count_append, List.count_singleton, if_neg (by simpa using other), Nat.add_zero]
    exact h.parameters
  case copied =>
    obtain ⟨done, pending, whole, copied, canonical⟩ := h.copied
    refine ⟨done, pending ++ token.lexeme, ?_, copied, ?_⟩
    · rw [List.flatMap_append, whole, List.append_assoc, List.flatMap_singleton]
    · rw [String.ofList_append, ← String.append_assoc, canonical, Parameter.substitute_append,
        String.ofList_append, Parameter.substitute_cons other, Parameter.substitute,
        List.append_nil]

/-- A token with which no statement begins was passed over, and leaves it open whether one may
begin. -/
theorem pass (h : Reader.HasRead mode text front r)
    (read : Descriptor.statements? mode r.position r.starting r.kind [token] = .ok [])
    (other : token ≠ .placeholder) (still : token.startsAfter r.starting = r.starting) :
    Reader.HasRead mode text (front ++ [token])
      (r.moveTo (r.position + utf8Length token.lexeme)) := by
  have read := h.advance read other
  rw [still, List.append_nil] at read
  exact read

end

/-- A placeholder was replaced: what was copied so far ends in the name, and the name is the next
parameter. -/
theorem replace (h : Reader.HasRead mode text front r) {rest : List Char}
    (whole : text.toList = front.flatMap Token.lexeme ++ rest) (inside : r.starting = false) :
    ∃ next, r.placeholder text = some (.ok next) ∧
      Reader.HasRead mode text (front ++ [.placeholder]) next := by
  obtain ⟨done, pending, split, copied, canonical⟩ := h.copied
  have sliced : Text.slice? text r.copied r.position = some (String.ofList pending) := by
    rw [split, List.append_assoc] at whole
    rw [copied, h.position, Token.width, split]
    exact Text.slice?_eq whole
  have count : r.parameters.length = front.count .placeholder := by
    rw [h.parameters]
    simp [Parameter.names]
  have read : Descriptor.statements? mode r.position r.starting r.kind [.placeholder] = .ok [] := by
    rw [inside]
    rfl
  have position : r.position + 1 = Token.width (front ++ [.placeholder]) :=
    h.position_append .placeholder
  rw [Reader.placeholder, sliced]
  refine ⟨_, rfl, ?_⟩
  constructor
  case found => exact (h.found_append read).trans (by rw [List.append_nil])
  case position => exact position
  case starting =>
    rw [Descriptor.startingAfter_append, ← h.starting, inside]
    rfl
  case kind => exact h.kind
  case parameters =>
    rw [List.count_append, List.count_singleton_self, Parameter.names_succ, ← h.parameters,
      ← count]
  case copied =>
    refine ⟨(front ++ [Token.placeholder]).flatMap Token.lexeme, [], (List.append_nil _).symm,
      ?_, ?_⟩
    · exact position
    · rw [canonical, count, Parameter.substitute_append, ← String.ofList_append, Nat.zero_add,
        String.ofList_nil, String.append_empty, Parameter.substitute, Parameter.substitute,
        List.append_nil]

/-! ## What each token comes to -/

section

variable {c : Char} {rest : List Char}

/-- From the position of a reader on the text holds just what has not been read. -/
theorem drop_eq (h : Reader.HasRead mode text front r)
    (whole : text.toList = front.flatMap Token.lexeme ++ rest) :
    (textBytes text).drop r.position = utf8Bytes rest := by
  rw [textBytes_eq, whole, utf8Bytes_append, h.position, Token.width, utf8Length_eq_length,
    List.drop_left]

theorem le_length (h : Reader.HasRead mode text front r)
    (whole : text.toList = front.flatMap Token.lexeme ++ rest) :
    r.position ≤ (textBytes text).length := by
  rw [textBytes_eq, ← utf8Length_eq_length, whole, utf8Length_append, h.position, Token.width]
  exact Nat.le_add_right _ _

/-- Where a statement begins with no word, the character that stands there is named; it can be,
since the position is a boundary of the text. -/
theorem unexpectedStart (h : Reader.HasRead mode text front r)
    (whole : text.toList = front.flatMap Token.lexeme ++ c :: rest) :
    Reader.unexpectedStart text r.position =
      some (.error (r.position, .unexpectedStart c)) := by
  have stop : text.utf8ByteSize = utf8Length (front.flatMap Token.lexeme ++ c :: rest) := by
    rw [← whole, utf8Length_eq_utf8ByteSize, String.ofList_toList]
  have sliced : Text.slice? text r.position text.utf8ByteSize =
      some (String.ofList (c :: rest)) := by
    rw [stop, h.position, Token.width]
    exact Text.slice?_eq (whole.trans (by rw [List.append_nil]))
  rw [Reader.unexpectedStart, sliced, Option.map_some, String.toList_ofList]
  rfl

variable {token : Token}

/-- A token that is passed over is skipped by the reader as it is by the scanner, without any fault.
-/
theorem takes_pass (h : Reader.HasRead mode text front r)
    (pass : ¬ (r.starting && !token.isFiller && token ≠ .separator) = true)
    (ended : token.openFault? = none ∨ mode.isStrict = false)
    (apart : token ≠ .separator) (other : token ≠ .placeholder)
    (moved : r.run mode text =
      (r.moveTo (r.position + utf8Length token.lexeme)).run mode text) :
    Reader.Takes mode text front r token := by
  have still : token.startsAfter r.starting = r.starting := by
    rw [Token.startsAfter_pass pass, decide_eq_false apart, Bool.or_false]
  refine Or.inr ⟨_, h.pass ?_ other still, moved⟩
  rw [Descriptor.statements?_pass mode r.position r.kind pass]
  rcases ended with none | tolerant
  · rw [none]
  · cases token.openFault? with
    | none => rfl
    | some fault =>
      dsimp only
      rw [tolerant]
      rfl

/-- What is opened is skipped, or it never ends and is a fault, unless the reading does not mind;
then it takes all that is left. -/
theorem takes_resumed (h : Reader.HasRead mode text front r) {ends : Option Nat} {closed : Bool}
    {fault : GrammarFault}
    (pass : ¬ (r.starting && !token.isFiller && token ≠ .separator) = true)
    (apart : token ≠ .separator) (other : token ≠ .placeholder)
    (opened : token.openFault? = if closed then none else some fault)
    (ended : ends = if closed then some (r.position + utf8Length token.lexeme) else none)
    (last : closed = false →
      (textBytes text).length = r.position + utf8Length token.lexeme)
    (stepped : r.step mode text =
      some ((Reader.resume mode (textBytes text) r.position fault ends).map r.moveTo)) :
    Reader.Takes mode text front r token := by
  cases closed with
  | true =>
    rw [ended] at stepped
    exact h.takes_pass pass (Or.inl opened) apart other (Reader.run_of_step stepped)
  | false =>
    rw [ended] at stepped
    cases strict : mode.isStrict with
    | true =>
      refine Or.inl ⟨(r.position, fault), ?_, Reader.run_of_fault (stepped.trans ?_)⟩
      · rw [Descriptor.statements?_pass mode r.position r.kind pass, opened]
        exact if_pos strict
      · simp only [Bool.false_eq_true, if_false, Reader.resume, strict, if_true, Except.map]
    | false =>
      refine h.takes_pass pass (Or.inr strict) apart other (Reader.run_of_step (stepped.trans ?_))
      simp only [Bool.false_eq_true, if_false, Reader.resume, strict, Except.map, last rfl]

/-- A statement that begins with no word is a fault, and the same one for both readings. -/
theorem takes_unexpected (h : Reader.HasRead mode text front r)
    (whole : text.toList = front.flatMap Token.lexeme ++ c :: rest)
    (starting : r.starting = true) (word : token.isFiller = false) (apart : token ≠ .separator)
    (unexpected : token.statement r.kind = .error (.unexpectedStart c))
    (stepped : r.step mode text = Reader.unexpectedStart text r.position) :
    Reader.Takes mode text front r token := by
  refine Or.inl ⟨_, ?_, Reader.run_of_fault (stepped.trans (h.unexpectedStart whole))⟩
  rw [starting, Descriptor.statements?_begin mode r.position r.kind word apart, unexpected]

end

section

variable {c : Char} {rest : List Char}

/-! ### One lemma for each kind of segment -/

/-- The bytes of a token come next, the first of them apart from the others. -/
structure Before (text : String) (r : Reader) (token : Token) (first : UInt8)
    (tail after : List UInt8) : Prop where
  here : (textBytes text).drop r.position = first :: (tail ++ after)
  width : utf8Length token.lexeme = tail.length + 1
  inside : r.position ≤ (textBytes text).length

/-- If nothing comes after a token, it ends where the text does. -/
theorem Before.last {token : Token} {first : UInt8} {tail after : List UInt8}
    (before : Before text r token first tail after) (none : after = []) :
    (textBytes text).length = r.position + utf8Length token.lexeme := by
  rw [Reader.length_of_drop before.here before.inside, none, List.append_nil, before.width]
  rfl

/-- Where some tokens have been read, the bytes of the next one come next. -/
theorem before (h : Reader.HasRead mode text front r)
    (whole : text.toList = front.flatMap Token.lexeme ++ c :: rest) (ascii : c.toNat < 128)
    {token : Token} {body after : List Char} (lexeme : token.lexeme = c :: body)
    (split : token.lexeme ++ after = c :: rest) :
    Before text r token c.toUInt8 (utf8Bytes body) (utf8Bytes after) where
  here := by
    rw [lexeme, List.cons_append] at split
    rw [h.drop_eq whole, ← split, utf8Bytes_cons, utf8EncodeChar_of_ascii ascii, utf8Bytes_append]
    rfl
  width := by
    rw [lexeme, utf8Length_eq_length, utf8Bytes_cons, utf8EncodeChar_of_ascii ascii]
    rfl
  inside := h.le_length whole

section

variable {first : UInt8} {tail after : List UInt8}

/-- A quoted run is skipped inside of a statement. Where a statement may begin, its quote is no
keyword. -/
theorem takes_quoted (h : Reader.HasRead mode text front r)
    (whole : text.toList = front.flatMap Token.lexeme ++ c :: rest) {chars : List Char}
    {closing : UInt8} {escapes closed : Bool}
    (before : Before text r (.quoted c chars closed) first tail after)
    (run : Segment.Run after closing escapes closed tail)
    (stepped : r.step mode text = r.follow mode text (.quote closing escapes)) :
    Reader.Takes mode text front r (.quoted c chars closed) := by
  rw [Reader.follow] at stepped
  cases starting : r.starting with
  | true =>
    rw [starting] at stepped
    exact h.takes_unexpected whole starting rfl (by simp) rfl stepped
  | false =>
    rw [starting] at stepped
    obtain ⟨-, -, next⟩ := Reader.byte_of_drop before.here
    refine h.takes_resumed (by simp [starting]) (by simp) (by simp) (by cases closed <;> rfl) ?_
      (fun never => before.last (run.rest_eq_nil never)) stepped
    rw [Reader.quotedEnd_of_run run next, before.width, Nat.add_assoc, Nat.add_comm 1]

/-- A line comment is skipped up to the line feed, or to the end of the text. -/
theorem takes_lineComment (h : Reader.HasRead mode text front r) {chars : List Char}
    {closed ended : Bool}
    (before : Before text r (.lineComment chars closed) '-'.toUInt8 ('-'.toUInt8 :: tail) after)
    (run : Segment.Run after '\n'.toUInt8 false ended tail)
    (stepped : r.step mode text = r.follow mode text .line) :
    Reader.Takes mode text front r (.lineComment chars closed) := by
  refine h.takes_pass (by simp [Token.isFiller]) (Or.inl rfl) (by simp) (by simp)
    (Reader.run_of_step (stepped.trans ?_))
  rw [Reader.follow, Reader.lineEnd_of_run run before.here]
  cases ended with
  | true =>
    have stop : r.position + 2 + tail.length =
        r.position + utf8Length (Token.lineComment chars closed).lexeme := by
      rw [before.width, List.length_cons]
      omega
    rw [if_pos rfl, stop]
  | false => rw [if_neg Bool.false_ne_true, before.last (run.rest_eq_nil rfl)]

/-- A block comment is skipped together with the comments inside of it. -/
theorem takes_blockComment (h : Reader.HasRead mode text front r) {chars : List Char}
    {closed : Bool}
    (before : Before text r (.blockComment chars closed) first ('*'.toUInt8 :: tail) after)
    (comment : Segment.Comment after 0 closed tail)
    (stepped : r.step mode text = r.follow mode text .block) :
    Reader.Takes mode text front r (.blockComment chars closed) := by
  obtain ⟨-, -, star⟩ := Reader.byte_of_drop before.here
  obtain ⟨-, -, next⟩ := Reader.byte_of_drop star
  refine h.takes_resumed (by simp [Token.isFiller]) (by simp) (by simp)
    (by cases closed <;> rfl) ?_ (fun never => before.last (comment.rest_eq_nil never)) stepped
  have stop : r.position + 2 + tail.length =
      r.position + utf8Length (Token.blockComment chars closed).lexeme := by
    rw [before.width, List.length_cons]
    omega
  rw [← stop]
  exact Reader.commentEnd_of_comment comment next

/-- After a separator a statement may begin. -/
theorem takes_separator (h : Reader.HasRead mode text front r)
    (stepped : r.step mode text = r.follow mode text .separator) :
    Reader.Takes mode text front r .separator := by
  have read : Descriptor.statements? mode r.position r.starting r.kind [.separator] = .ok [] := by
    cases r.starting <;> rfl
  refine Or.inr ⟨_, h.advance read (by simp), Reader.run_of_step (stepped.trans ?_)⟩
  rw [Reader.follow, List.append_nil]
  rfl

/-- A placeholder is replaced inside of a statement. Where a statement may begin, it is no
keyword. -/
theorem takes_placeholder (h : Reader.HasRead mode text front r)
    (whole : text.toList = front.flatMap Token.lexeme ++ '?' :: rest)
    (stepped : r.step mode text = r.follow mode text .placeholder) :
    Reader.Takes mode text front r .placeholder := by
  rw [Reader.follow] at stepped
  cases starting : r.starting with
  | true =>
    rw [starting] at stepped
    exact h.takes_unexpected whole starting rfl (by simp) rfl stepped
  | false =>
    rw [starting] at stepped
    obtain ⟨next, replaced, read⟩ := h.replace whole starting
    exact Or.inr ⟨next, read, Reader.run_of_step (stepped.trans replaced)⟩

theorem takes_space (h : Reader.HasRead mode text front r) {space : Char}
    (before : Before text r (.space space) first [] after)
    (stepped : r.step mode text = r.follow mode text .blank) :
    Reader.Takes mode text front r (.space space) := by
  refine h.takes_pass (by simp [Token.isFiller]) (Or.inl rfl) (by simp) (by simp)
    (Reader.run_of_step (stepped.trans ?_))
  rw [before.width]
  rfl

end

/-- A token that its first byte opens is taken, with one lemma for each kind of opening. The two
readings then stand at the same place with the same things read. -/
theorem takes_segment (h : Reader.HasRead mode text front r)
    (whole : text.toList = front.flatMap Token.lexeme ++ c :: rest)
    (segment : Token.IsSegment c rest (Token.next c rest)) :
    Reader.Takes mode text front r (Token.next c rest).1 := by
  obtain ⟨kind, body, one, ascii, lexeme, completes⟩ := segment
  have before := h.before whole ascii lexeme (Token.next_append c rest)
  have stepped : r.step mode text =
      r.follow mode text (Segment.opening c.toUInt8 (utf8Bytes rest).head?) := by
    refine Reader.step_of_drop mode ?_
    rw [h.drop_eq whole, utf8Bytes_cons, utf8EncodeChar_of_ascii ascii]
    rfl
  generalize (Token.next c rest).1 = token at *
  generalize utf8Bytes (Token.next c rest).2 = after at *
  generalize Segment.opening c.toUInt8 (utf8Bytes rest).head? = opening at completes stepped
  generalize utf8Bytes body = bytes at *
  cases completes with
  | quote run =>
    cases token <;> cases one
    obtain ⟨rfl, -⟩ := List.cons.inj lexeme
    exact h.takes_quoted whole before run stepped
  | line run =>
    cases token <;> cases one
    obtain ⟨rfl, -⟩ := List.cons.inj lexeme
    exact h.takes_lineComment before run stepped
  | block comment =>
    cases token <;> cases one
    exact h.takes_blockComment before comment stepped
  | separator =>
    cases token <;> cases one
    exact h.takes_separator stepped
  | placeholder =>
    cases token <;> cases one
    obtain ⟨rfl, -⟩ := List.cons.inj lexeme
    exact h.takes_placeholder whole stepped
  | blank =>
    cases token <;> cases one
    exact h.takes_space before stepped
  | plain => cases token <;> cases one

/-- A word or a character without a meaning where a statement may begin: the reader finds the same
keyword as the scanner, or the same fault. -/
theorem takes_statement (h : Reader.HasRead mode text front r)
    (whole : text.toList = front.flatMap Token.lexeme ++ c :: rest)
    (many : (Token.next c rest).1.kind? = none) (starting : r.starting = true)
    (stepped : r.step mode text = r.statement text) :
    Reader.Takes mode text front r (Token.next c rest).1 := by
  have here := h.drop_eq whole
  have spelled := Grammar.wordAt_eq here
  have stop := Reader.wordEnd_eq (h.le_length whole)
  have plain : (Token.next c rest).1.isFiller = false ∧ (Token.next c rest).1 ≠ .separator ∧
      (Token.next c rest).1 ≠ .placeholder := by
    generalize (Token.next c rest).1 = token at many
    cases token with
    | word | other => exact ⟨rfl, nofun, nofun⟩
    | _ => cases many
  obtain ⟨word, apart, other⟩ := plain
  rw [spelled, ← utf8Length_eq_length] at stop
  cases first : Token.isWordChar c with
  | false =>
    obtain ⟨unworded, found⟩ := Token.next_other first rest
    rw [List.takeWhile_cons_of_neg (by simp [first])] at stop
    refine h.takes_unexpected whole starting word apart ?_ (stepped.trans ?_)
    · rw [Token.statement_other unworded, found word]
    · rw [Reader.statement]
      exact if_pos stop
  | true =>
    rw [Token.next_word first] at apart other word ⊢
    have split := List.takeWhile_append_dropWhile (p := Token.isWordChar) (l := c :: rest)
    have nonempty : (c :: rest).takeWhile Token.isWordChar ≠ [] := by
      rw [List.takeWhile_cons_of_pos first]
      exact List.cons_ne_nil _ _
    generalize (c :: rest).takeWhile Token.isWordChar = chars at *
    have sliced : Text.slice? text r.position (r.position + utf8Length chars) =
        some (String.ofList chars) := by
      rw [← split] at whole
      rw [h.position, Token.width, ← utf8Length_append]
      exact Text.slice?_eq whole
    have longer := utf8Length_pos nonempty
    rw [Reader.statement, stop, if_neg (by omega), sliced, Option.map_some,
      String.toList_ofList] at stepped
    have read := Descriptor.statements?_begin mode r.position r.kind word apart
    rw [← starting] at read
    cases begun : (Token.word chars).statement r.kind with
    | error fault =>
      rw [begun] at stepped read
      exact Or.inl ⟨_, read, Reader.run_of_fault stepped⟩
    | ok family =>
      rw [begun] at stepped read
      refine Or.inr ⟨_, h.advance read other, Reader.run_of_step (stepped.trans ?_)⟩
      rw [starting]
      rfl

/-- A word or a character without a meaning. Inside a statement it is passed over, one character at
a time by the reader and as a whole word by the scanner. -/
theorem takes_plain (h : Reader.HasRead mode text front r)
    (whole : text.toList = front.flatMap Token.lexeme ++ c :: rest)
    (plain : Token.IsPlain c rest (Token.next c rest).1) :
    Reader.Takes mode text front r (Token.next c rest).1 := by
  obtain ⟨many, plain⟩ := plain
  have here := h.drop_eq whole
  have split := Token.next_append c rest
  obtain ⟨lead, trail, encoded, -⟩ := utf8EncodeChar_eq_cons c
  have first : (textBytes text).drop r.position = lead :: (trail ++ utf8Bytes rest) := by
    rw [here, utf8Bytes_cons, encoded]
    rfl
  have stepped := Reader.step_of_drop mode first
  have opening : Segment.opening lead (trail ++ utf8Bytes rest).head? = .plain := by
    rcases plain with ⟨ascii, -, plain⟩ | plain
    · rw [utf8EncodeChar_of_ascii ascii] at encoded
      obtain ⟨rfl, rfl⟩ := List.cons.inj encoded
      exact plain
    · refine plain lead ?_ _
      obtain ⟨head, body, lexeme⟩ := List.exists_cons_of_ne_nil (Token.lexeme_next_ne_nil c rest)
      rw [lexeme, List.cons_append] at split
      obtain ⟨rfl, -⟩ := List.cons.inj split
      rw [lexeme, utf8Bytes_cons, encoded]
      exact List.mem_cons_self
  rw [opening, Reader.follow] at stepped
  cases starting : r.starting with
  | true =>
    rw [starting] at stepped
    exact h.takes_statement whole many starting stepped
  | false =>
    rw [starting] at stepped
    have moved : r.run mode text =
        (r.moveTo (r.position + utf8Length (Token.next c rest).1.lexeme)).run mode text := by
      rcases plain with ⟨ascii, lexeme, -⟩ | plain
      · rw [lexeme, utf8Length_eq_length, utf8Bytes_cons, utf8EncodeChar_of_ascii ascii]
        exact Reader.run_of_step stepped
      · rw [← split, utf8Bytes_append] at here
        rw [utf8Length_eq_length]
        exact Reader.run_plain here starting plain
    generalize (Token.next c rest).1 = token at many moved
    cases token with
    | word | other => exact h.takes_pass (by simp [starting]) (Or.inl rfl) (by simp) (by simp) moved
    | _ => cases many

/-- Every token is taken: it is one that its first byte opens, or it is plain. -/
theorem takes (h : Reader.HasRead mode text front r)
    (whole : text.toList = front.flatMap Token.lexeme ++ c :: rest) :
    Reader.Takes mode text front r (Token.next c rest).1 := by
  rcases Token.next_opens c rest with segment | plain
  · exact h.takes_segment whole segment
  · exact h.takes_plain whole plain

end

/-! ## The whole text -/

theorem ends_at {tokens : List Token} (split : tokens.flatMap Token.lexeme = text.toList) :
    text.utf8ByteSize = Token.width tokens := by
  rw [Token.width, split, utf8Length_eq_utf8ByteSize, String.ofList_toList]

/-- At the end of a text it has been read as its characters are, so the two descriptors, or the two
faults, are the same. -/
theorem finish (h : Reader.HasRead mode text (Token.scan text.toList) r) :
    (r.finish text).map Reader.report = some (Descriptor.parse mode text) := by
  obtain ⟨done, pending, split, copied, canonical⟩ := h.copied
  have sliced : Text.slice? text r.copied text.utf8ByteSize = some (String.ofList pending) := by
    rw [ends_at (Token.flatMap_lexeme_scan _), Token.width, split, copied]
    rw [Token.flatMap_lexeme_scan] at split
    exact Text.slice?_eq (split.trans (by rw [List.append_nil]))
  have found := h.found
  have kind := h.kind
  cases families : r.statements with
  | nil =>
    rw [families] at found kind
    rw [Reader.finish, kind, Descriptor.parse_of_no_statements found]
    rfl
  | cons first others =>
    rw [families] at found kind
    rw [Descriptor.establishedAfter_of_kind (List.cons_ne_nil first others)
      (Descriptor.statements?_one_kind found)] at kind
    rw [Reader.finish, kind]
    dsimp only
    rw [sliced, Descriptor.parse_of_statements found, Option.map_some, canonical, h.parameters,
      families]
    rfl

/-- From between two tokens on, a text is read as its characters are. The induction is on the
characters that are left. -/
theorem run_eq {rest : List Char} (h : Reader.HasRead mode text front r)
    (scanned : Token.scan text.toList = front ++ Token.scan rest) :
    (r.run mode text).map Reader.report = some (Descriptor.parse mode text) := by
  have whole := Token.flatMap_lexeme_scan text.toList
  rw [scanned, List.flatMap_append, Token.flatMap_lexeme_scan] at whole
  fun_induction Token.scan rest generalizing front r with
  | case1 =>
    rw [List.append_nil] at scanned whole
    have ended : ¬ r.position < (textBytes text).length := by
      rw [h.position, ← ends_at whole]
      exact Nat.lt_irrefl _
    rw [← scanned] at h
    rw [Reader.run, if_neg ended]
    exact h.finish
  | case2 c rest ih =>
    rcases h.takes whole.symm with ⟨fault, read, failed⟩ | ⟨next, read, moved⟩
    · have refused : Descriptor.statements? mode 0 true none (Token.scan text.toList) =
          .error fault := by
        rw [scanned, Descriptor.statements?_append, h.found]
        dsimp only [Except.bind]
        rw [Nat.zero_add, ← h.position, ← h.starting, ← h.kind, Descriptor.statements?_cons, read]
        rfl
      rw [failed, Descriptor.parse_of_fault refused]
      rfl
    · rw [moved]
      refine ih read ?_ ?_
      · rw [scanned, List.append_assoc]
        rfl
      · rw [List.flatMap_append, List.flatMap_singleton, List.append_assoc, Token.next_append]
        exact whole

end Reader.HasRead

/-- The position of a fault is a boundary of the text, since faults are found where tokens begin. -/
theorem Descriptor.isBoundary_of_fault {mode : ReadingMode} {text : String} {p : Nat}
    {fault : GrammarFault} (refused : Descriptor.parse mode text = .error (.grammar p fault)) :
    Text.IsBoundary text p := by
  unfold Descriptor.parse at refused
  dsimp only at refused
  split at refused
  · rename_i position wrong found
    cases refused
    obtain ⟨front, back, split, rfl⟩ := Descriptor.statements?_error found
    have whole := Token.flatMap_lexeme_scan text.toList
    rw [split, List.flatMap_append] at whole
    rw [Nat.zero_add]
    exact Text.isBoundary_of_front whole.symm
  · cases refused
    exact Text.isBoundary_of_front (List.nil_append text.toList).symm
  · cases refused

/-- Reading a text by the positions of its bytes neither cuts a character nor runs away. From
wherever it stands, a step moves the position strictly forward, and to at most the end of the text.
A slice exists only between boundaries in order, and all that are taken exist: there is a result,
for every text and in both modes, and it is that of the text's characters. The position of every
fault is in the text, and is a boundary. -/
theorem Reader.read_cuts_no_character (mode : ReadingMode) (text : String) :
    (∀ r next : Reader, r.step mode text = some (.ok next) →
      r.position < next.position ∧ next.position ≤ text.utf8ByteSize) ∧
    (∀ start stop, (Text.slice? text start stop).isSome ↔
      start ≤ stop ∧ Text.IsBoundary text start ∧ Text.IsBoundary text stop) ∧
    Reader.read mode text = some (Descriptor.parse mode text) ∧
    ∀ p fault, Descriptor.parse mode text = .error (.grammar p fault) →
      p ≤ text.utf8ByteSize ∧ Text.IsBoundary text p := by
  refine ⟨fun r next stepped => Reader.step_forward stepped, Text.isSome_slice?_iff text,
    (Reader.HasRead.start mode text).run_eq (List.nil_append _).symm, fun p fault refused => ?_⟩
  have boundary := Descriptor.isBoundary_of_fault refused
  exact ⟨boundary.le, boundary⟩

/-- After an escaped character of two bytes, a character that begins no statement. A step from the
middle of it goes to its end, and the fault is where it begins. -/
theorem Reader.read_cuts_no_character_accented :
    let text := "select '\\é'; é"
    let middle : Reader := { Reader.start with position := 15, starting := false }
    middle.step .strict text = some (.ok (middle.moveTo 16)) ∧ 15 < 16 ∧
      16 ≤ text.utf8ByteSize ∧
      Reader.read .strict text = some (.error (.grammar 14 (.unexpectedStart 'é'))) ∧
      14 ≤ text.utf8ByteSize ∧ Text.IsBoundary text 14 := by
  intro text middle
  have stepped : middle.step .strict text = some (.ok (middle.moveTo 16)) := rfl
  have refused : Descriptor.parse .strict text =
      .error (.grammar 14 (.unexpectedStart 'é')) := by decide +kernel
  have whole := Reader.read_cuts_no_character .strict text
  obtain ⟨forward, inside⟩ := whole.1 middle (middle.moveTo 16) stepped
  obtain ⟨le, boundary⟩ := whole.2.2.2 14 (.unexpectedStart 'é') refused
  exact ⟨stepped, forward, inside, whole.2.2.1.trans (congrArg some refused), le, boundary⟩

end SqlDriver
