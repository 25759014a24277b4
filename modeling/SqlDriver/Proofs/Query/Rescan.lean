import SqlDriver.Proofs.Query.Classification

/-!
Tokens that are read again. A token depends on the characters after it only in this: a word ends
before the first character that is none of a word, an open run takes everything, and a hyphen or a
slash may open a comment with the next character. So what a character is read as is a relation with
one rule for each kind of token, each of which says what must not come next; and a token that was
read from one text is read from any other text that begins with its lexeme, if the characters after
it leave it what it is.
-/

namespace SqlDriver

/-! ## Runs before other characters -/

/-- The run with other characters after it. -/
def Token.Run.before (run : Token.Run) (after : List Char) : Token.Run :=
  { run with rest := after }

theorem Token.Run.text_before (closing after : List Char) (run : Token.Run) :
    (run.before after).text closing = run.body ++ (bif run.closed then closing else []) ++ after :=
  rfl

theorem Token.Run.before_cons (chars after : List Char) (run : Token.Run) :
    (run.cons chars).before after = (run.before after).cons chars := rfl

theorem Token.Run.before_self {run : Token.Run} {after : List Char} (rest : run.rest = after) :
    run.before after = run := by
  rw [Token.Run.before, ← rest]

/-- A run that never ends takes the rest of the text, so nothing can be put after it without
becoming a part of it. -/
theorem Token.quotedRun_rest (quote : Char) (escapes : Bool) (text : List Char)
    (never : (Token.quotedRun quote escapes text).closed = false) :
    (Token.quotedRun quote escapes text).rest = [] := by
  fun_induction Token.quotedRun quote escapes text with
  | case1 => rfl
  | case2 => rfl
  | case3 c _ escaped rest ih => exact ih never
  | case4 rest => cases never
  | case5 c rest _ _ ih => exact ih never

theorem Token.lineRun_rest (text : List Char) (never : (Token.lineRun text).closed = false) :
    (Token.lineRun text).rest = [] := by
  rw [Token.lineRun_eq_quotedRun] at never ⊢
  exact Token.quotedRun_rest '\n' false text never

theorem Token.commentRun_rest (depth : Nat) (text : List Char)
    (never : (Token.commentRun depth text).closed = false) :
    (Token.commentRun depth text).rest = [] := by
  fun_induction Token.commentRun depth text with
  | case1 depth rest ih => exact ih never
  | case2 => cases never
  | case3 depth rest ih => exact ih never
  | case4 depth c rest _ _ _ ih => exact ih never
  | case5 => rfl

/-- A closed run is read again before any characters: what closes it is decided by what it holds. -/
theorem Token.quotedRun_before {quote : Char} {escapes : Bool} {text : List Char}
    (closed : (Token.quotedRun quote escapes text).closed = true) (after : List Char) :
    Token.quotedRun quote escapes
        (((Token.quotedRun quote escapes text).before after).text [quote]) =
      (Token.quotedRun quote escapes text).before after := by
  fun_induction Token.quotedRun quote escapes text with
  | case1 => cases closed
  | case2 => cases closed
  | case3 c escape escaped rest ih =>
    have inner := ih closed
    rw [Token.Run.before_cons, Token.Run.text_cons]
    generalize (Token.quotedRun quote escapes rest).before after = run at inner ⊢
    rw [List.cons_append, List.cons_append, List.nil_append]
    unfold Token.quotedRun
    rw [if_pos escape]
    exact congrArg (Token.Run.cons [c, escaped]) inner
  | case4 rest straight =>
    rw [Token.Run.text_before, List.nil_append, cond_true, List.singleton_append]
    unfold Token.quotedRun
    rw [if_neg straight, if_pos rfl]
    rfl
  | case5 c rest straight other ih =>
    have inner := ih closed
    rw [Token.Run.before_cons, Token.Run.text_cons]
    generalize (Token.quotedRun quote escapes rest).before after = run at inner ⊢
    rw [List.singleton_append]
    unfold Token.quotedRun
    rw [if_neg straight, if_neg other, inner]

theorem Token.head?_text_before {closing : List Char} (nonempty : closing ≠ []) {run : Token.Run}
    (closed : run.closed = true) (after : List Char) :
    ((run.before after).text closing).head? = (run.text closing).head? := by
  have body : run.body ++ closing ≠ [] := by simp [nonempty]
  rw [Token.Run.text_before, Token.Run.text, closed, cond_true, List.head?_append_of_ne_nil _ body,
    List.head?_append_of_ne_nil _ body]

/-- A closed comment is read again before any characters, too. -/
theorem Token.commentRun_before {depth : Nat} {text : List Char}
    (closed : (Token.commentRun depth text).closed = true) (after : List Char) :
    Token.commentRun depth
        (((Token.commentRun depth text).before after).text ['*', '/']) =
      (Token.commentRun depth text).before after := by
  fun_induction Token.commentRun depth text with
  | case1 depth rest ih =>
    rw [Token.Run.before_cons, Token.Run.text_cons, List.cons_append, List.cons_append,
      List.nil_append, Token.commentRun, ih closed]
  | case2 => rfl
  | case3 depth rest ih =>
    rw [Token.Run.before_cons, Token.Run.text_cons, List.cons_append, List.cons_append,
      List.nil_append, Token.commentRun, ih closed]
  | case4 depth c rest inner ended outer ih =>
    have head := Token.head?_text_before (by decide : ['*', '/'] ≠ [])
      (show (Token.commentRun depth rest).closed = true from closed) after
    rw [Token.text_commentRun] at head
    have cut := ih closed
    rw [Token.Run.before_cons, Token.Run.text_cons, List.singleton_append]
    generalize (Token.commentRun depth rest).before after = run at head cut ⊢
    generalize run.text ['*', '/'] = text at head cut ⊢
    have same {mark : Char} {others : List Char} (whole : text = mark :: others) :
        rest = mark :: rest.tail := by
      rw [whole] at head
      exact Token.eq_cons_tail_of_head? head.symm
    rw [Token.commentRun, cut]
    · exact fun _ slash whole => inner _ slash (same whole)
    · exact fun _ zero star whole => ended _ zero star (same whole)
    · exact fun _ _ succ star whole => outer _ _ succ star (same whole)
  | case5 => cases closed

/-- A run is read again before other characters, if an open run has none after it. -/
theorem Token.quotedRun_meets {quote : Char} {escapes : Bool} {text after : List Char}
    (meets : (Token.quotedRun quote escapes text).closed = false → after = []) :
    Token.quotedRun quote escapes
        (((Token.quotedRun quote escapes text).before after).text [quote]) =
      (Token.quotedRun quote escapes text).before after := by
  cases closed : (Token.quotedRun quote escapes text).closed with
  | true => exact Token.quotedRun_before closed after
  | false =>
    rw [meets closed, Token.Run.before_self (Token.quotedRun_rest quote escapes text closed),
      Token.text_quotedRun]

theorem Token.lineRun_meets {text after : List Char}
    (meets : (Token.lineRun text).closed = false → after = []) :
    Token.lineRun (((Token.lineRun text).before after).text ['\n']) =
      (Token.lineRun text).before after := by
  rw [Token.lineRun_eq_quotedRun text] at meets ⊢
  rw [Token.lineRun_eq_quotedRun]
  exact Token.quotedRun_meets meets

theorem Token.commentRun_meets {depth : Nat} {text after : List Char}
    (meets : (Token.commentRun depth text).closed = false → after = []) :
    Token.commentRun depth (((Token.commentRun depth text).before after).text ['*', '/']) =
      (Token.commentRun depth text).before after := by
  cases closed : (Token.commentRun depth text).closed with
  | true => exact Token.commentRun_before closed after
  | false =>
    rw [meets closed, Token.Run.before_self (Token.commentRun_rest depth text closed),
      Token.text_commentRun]

/-! ## Tokens before other characters -/

/-- Whether a token stays what it is when these characters come after it. -/
def Token.Meets (after : List Char) : Token → Prop
  | .word _ => ∀ c, after.head? = some c → Token.isWordChar c = false
  | .quoted _ _ closed => closed = false → after = []
  | .lineComment _ ended => ended = false → after = []
  | .blockComment _ closed => closed = false → after = []
  | .other c => (c = '-' → after.head? ≠ some '-') ∧ (c = '/' → after.head? ≠ some '*')
  | .space _ | .separator | .placeholder => True

/-- What a character is read as with the characters after it, and what is left of these. -/
inductive Token.Reads : Char → List Char → Token → List Char → Prop
  | single {rest : List Char} {run : Token.Run} (cut : Token.quotedRun '\'' true rest = run) :
      Token.Reads '\'' rest (.quoted '\'' run.body run.closed) run.rest
  | double {c : Char} {rest : List Char} {run : Token.Run} (double : c = '"' ∨ c = '\x60')
      (cut : Token.quotedRun c false rest = run) :
      Token.Reads c rest (.quoted c run.body run.closed) run.rest
  | line {rest : List Char} {run : Token.Run} (cut : Token.lineRun rest = run) :
      Token.Reads '-' ('-' :: rest) (.lineComment run.body run.closed) run.rest
  | block {rest : List Char} {run : Token.Run} (cut : Token.commentRun 0 rest = run) :
      Token.Reads '/' ('*' :: rest) (.blockComment run.body run.closed) run.rest
  | separator (rest : List Char) : Token.Reads ';' rest .separator rest
  | placeholder (rest : List Char) : Token.Reads '?' rest .placeholder rest
  | space {c : Char} (space : Token.isSpace c = true) (rest : List Char) :
      Token.Reads c rest (.space c) rest
  | word {c : Char} {chars after : List Char}
      (word : ∀ d ∈ c :: chars, Token.isWordChar d = true)
      (ends : (Token.word (c :: chars)).Meets after) :
      Token.Reads c (chars ++ after) (.word (c :: chars)) after
  | other {c : Char} {rest : List Char} (unmarked : c ∉ ['\'', '"', '\x60', ';', '?'])
      (space : Token.isSpace c = false) (word : Token.isWordChar c = false)
      (meets : (Token.other c).Meets rest) : Token.Reads c rest (.other c) rest

theorem Token.reads_word {c : Char} (word : Token.isWordChar c = true) (rest : List Char) :
    Token.Reads c rest (.word (c :: rest.takeWhile Token.isWordChar))
      (rest.dropWhile Token.isWordChar) := by
  have ends : (Token.word (c :: rest.takeWhile Token.isWordChar)).Meets
      (rest.dropWhile Token.isWordChar) := by
    intro d head
    have stops := List.head?_dropWhile_not Token.isWordChar rest
    rw [head] at stops
    exact stops
  have reads := Token.Reads.word
    (List.forall_mem_cons.mpr ⟨word, List.all_eq_true.mp List.all_takeWhile⟩) ends
  rwa [List.takeWhile_append_dropWhile] at reads

/-- Every character is read in one of the ways that `Token.Reads` lists, with the token that it
begins and the characters after it. -/
theorem Token.reads (c : Char) (rest : List Char) :
    Token.Reads c rest (Token.next c rest).1 (Token.next c rest).2 := by
  unfold Token.next
  split
  · rename_i single
    subst single
    exact .single rfl
  rename_i single
  split
  · rename_i double
    rw [Bool.or_eq_true, decide_eq_true_eq, decide_eq_true_eq] at double
    exact .double double rfl
  rename_i double
  split
  · rename_i hyphens
    rw [Bool.and_eq_true, decide_eq_true_eq, decide_eq_true_eq] at hyphens
    obtain ⟨rfl, follows⟩ := hyphens
    obtain ⟨rest, rfl⟩ : ∃ tail, rest = '-' :: tail := ⟨_, Token.eq_cons_tail_of_head? follows⟩
    exact .line rfl
  rename_i hyphens
  split
  · rename_i slash
    rw [Bool.and_eq_true, decide_eq_true_eq, decide_eq_true_eq] at slash
    obtain ⟨rfl, follows⟩ := slash
    obtain ⟨rest, rfl⟩ : ∃ tail, rest = '*' :: tail := ⟨_, Token.eq_cons_tail_of_head? follows⟩
    exact .block rfl
  rename_i slash
  split
  · rename_i semicolon
    subst semicolon
    exact .separator rest
  rename_i semicolon
  split
  · rename_i question
    subst question
    exact .placeholder rest
  rename_i question
  split
  · rename_i space
    exact .space space rest
  rename_i space
  split
  · rename_i word
    exact Token.reads_word word rest
  · rename_i word
    refine .other ?_ (Bool.eq_false_iff.mpr space) (Bool.eq_false_iff.mpr word) ?_
    · simp only [Bool.or_eq_true, decide_eq_true_eq, not_or] at double
      simp [single, double, semicolon, question]
    · rw [Bool.and_eq_true, decide_eq_true_eq, decide_eq_true_eq, not_and] at hyphens slash
      exact ⟨hyphens, slash⟩

/-- A character is read in no other way, so `Token.Reads` describes just what the scanner does. -/
theorem Token.Reads.next_eq {c : Char} {rest after : List Char} {token : Token}
    (reads : Token.Reads c rest token after) : Token.next c rest = (token, after) := by
  cases reads with
  | single cut =>
    subst cut
    rfl
  | double double cut =>
    subst cut
    rcases double with rfl | rfl <;> rfl
  | line cut =>
    subst cut
    rfl
  | block cut =>
    subst cut
    rfl
  | separator => rfl
  | placeholder => rfl
  | space space =>
    have blank := space
    unfold Token.isSpace at blank
    simp only [Bool.or_eq_true, decide_eq_true_eq] at blank
    rcases blank with (((rfl | rfl) | rfl) | rfl) | rfl <;> rfl
  | @word c chars after word ends =>
    have stop : after.takeWhile Token.isWordChar = [] := by
      cases after with
      | nil => rfl
      | cons d after => exact List.takeWhile_cons_of_neg (by simp [ends d rfl])
    have read := Token.next_word (word c List.mem_cons_self) (chars ++ after)
    rw [← List.cons_append, List.takeWhile_append_of_pos word, stop, List.append_nil] at read
    have whole := Token.next_append c (chars ++ after)
    rw [read] at whole
    exact Prod.ext read (List.append_cancel_left whole)
  | other unmarked space word meets =>
    simp only [List.mem_cons, List.not_mem_nil, or_false, not_or] at unmarked
    obtain ⟨single, double, back, semicolon, question⟩ := unmarked
    have hyphens : ¬ (c = '-' && rest.head? = some '-') = true := by
      rw [Bool.and_eq_true, decide_eq_true_eq, decide_eq_true_eq, not_and]
      exact meets.1
    have slash : ¬ (c = '/' && rest.head? = some '*') = true := by
      rw [Bool.and_eq_true, decide_eq_true_eq, decide_eq_true_eq, not_and]
      exact meets.2
    rw [Token.next, if_neg single, if_neg (by simp [double, back]), if_neg hyphens, if_neg slash,
      if_neg semicolon, if_neg question, if_neg (by simp [space]), if_neg (by simp [word])]

/-- A token is what it is before the characters that it was read before: they leave it as it is. -/
theorem Token.Reads.meets {c : Char} {rest after : List Char} {token : Token}
    (reads : Token.Reads c rest token after) : token.Meets after := by
  cases reads with
  | single cut =>
    subst cut
    exact Token.quotedRun_rest '\'' true rest
  | double double cut =>
    subst cut
    exact Token.quotedRun_rest c false rest
  | line cut =>
    subst cut
    exact Token.lineRun_rest _
  | block cut =>
    subst cut
    exact Token.commentRun_rest 0 _
  | separator => trivial
  | placeholder => trivial
  | space => trivial
  | word word ends => exact ends
  | other unmarked space word meets => exact meets

/-- A token is read again before any characters that leave it what it is. Of what it was read
before, only the first character could have made a difference. -/
theorem Token.Reads.again {c : Char} {rest left after : List Char} {token : Token}
    (reads : Token.Reads c rest token left) (meets : token.Meets after) :
    ∃ chars, token.lexeme ++ after = c :: chars ∧ Token.Reads c chars token after := by
  cases reads with
  | @single rest run cut =>
    subst cut
    exact ⟨_, rfl, .single (Token.quotedRun_meets meets)⟩
  | double double cut =>
    subst cut
    exact ⟨_, rfl, .double double (Token.quotedRun_meets meets)⟩
  | line cut =>
    subst cut
    exact ⟨'-' :: _, rfl, .line (Token.lineRun_meets meets)⟩
  | block cut =>
    subst cut
    exact ⟨'*' :: _, rfl, .block (Token.commentRun_meets meets)⟩
  | separator => exact ⟨after, rfl, .separator after⟩
  | placeholder => exact ⟨after, rfl, .placeholder after⟩
  | space space => exact ⟨after, rfl, .space space after⟩
  | word word ends => exact ⟨_, rfl, .word word meets⟩
  | other unmarked space word before => exact ⟨after, rfl, .other unmarked space word meets⟩

theorem Token.Reads.isWordChar {c : Char} {rest after chars : List Char}
    (reads : Token.Reads c rest (.word chars) after) : ∀ d ∈ chars, Token.isWordChar d = true := by
  cases reads with
  | word word ends => exact word

/-! ## Scanning again -/

theorem Token.Reads.scan {c : Char} {rest after : List Char} {token : Token}
    (reads : Token.Reads c rest token after) :
    Token.scan (c :: rest) = token :: Token.scan after := by
  rw [Token.scan, reads.next_eq]

theorem Token.scan_cons (c : Char) (rest : List Char) :
    Token.scan (c :: rest) = (Token.next c rest).1 :: Token.scan (Token.next c rest).2 :=
  (Token.reads c rest).scan

/-- A token is scanned again before any characters that leave it what it is, and these are scanned
as they are by themselves. -/
theorem Token.scan_lexeme_append (c : Char) (rest : List Char) {after : List Char}
    (meets : (Token.next c rest).1.Meets after) :
    Token.scan ((Token.next c rest).1.lexeme ++ after) =
      (Token.next c rest).1 :: Token.scan after := by
  obtain ⟨chars, whole, reads⟩ := (Token.reads c rest).again meets
  rw [whole, reads.scan]

/-- A word before characters of which the first is none of a word. -/
theorem Token.scan_word {chars after : List Char} (nonempty : chars ≠ [])
    (word : ∀ c ∈ chars, Token.isWordChar c = true) (ends : (Token.word chars).Meets after) :
    Token.scan (chars ++ after) = .word chars :: Token.scan after := by
  obtain ⟨c, rest, rfl⟩ := List.exists_cons_of_ne_nil nonempty
  exact (Token.Reads.word word ends).scan

end SqlDriver
