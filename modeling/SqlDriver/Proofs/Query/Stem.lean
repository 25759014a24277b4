import SqlDriver.Query.Parameter
import SqlDriver.Proofs.Query.Utf8

/-!
The stem of a text's parameter names is the shortest that the text does not hold. A stem with `m`
underscores is a part of the text exactly when somewhere the base is followed by `m` of them, so the
stems that are parts of the text are those with fewer underscores than the one chosen. All of this
is first told of characters; a stem is ASCII, so it is the same for bytes.
-/

namespace SqlDriver

/-! ## ASCII parts of a text -/

theorem head?_utf8Bytes_cons_ne {c mark : Char} (ascii : mark.toNat < 128) (apart : c ≠ mark)
    (rest : List Char) : (utf8Bytes (c :: rest)).head? ≠ some mark.toUInt8 := by
  intro head
  rw [head?_utf8Bytes ascii] at head
  exact apart (Option.some.inj head)

/-- An ASCII text stands at the head of a text's bytes when it stands at the head of the text. For a
text that is not ASCII this would have to be said of boundaries. -/
theorem isPrefix_utf8Bytes {part : List Char} (ascii : ∀ c ∈ part, c.toNat < 128)
    (text : List Char) : utf8Bytes part <+: utf8Bytes text ↔ part <+: text := by
  induction part generalizing text with
  | nil => exact iff_of_true List.nil_prefix List.nil_prefix
  | cons mark part ih =>
    have narrow := ascii mark List.mem_cons_self
    have later := ih fun c member => ascii c (List.mem_cons_of_mem _ member)
    cases text with
    | nil => simp [utf8EncodeChar_of_ascii narrow]
    | cons c text =>
      by_cases same : c = mark
      · subst same
        rw [utf8Bytes_cons, utf8Bytes_cons, utf8EncodeChar_of_ascii narrow, List.singleton_append,
          List.singleton_append, List.prefix_cons_inj, List.prefix_cons_inj, later]
      · refine iff_of_false (fun front => ?_) fun front => ?_
        · obtain ⟨after, whole⟩ := front
          apply head?_utf8Bytes_cons_ne narrow same text
          rw [← whole, utf8Bytes_cons, utf8EncodeChar_of_ascii narrow]
          rfl
        · exact same (List.cons_prefix_cons.mp front).1.symm

/-- Bytes that are not ASCII hold no beginning of an ASCII text, so a part of that kind lies behind
them. -/
theorem isInfix_append_of_wide {mark : Char} {part : List Char} (ascii : mark.toNat < 128)
    {wide : List UInt8} (bound : ∀ b ∈ wide, 128 ≤ b.toNat) (bytes : List UInt8)
    (inside : utf8Bytes (mark :: part) <:+: wide ++ bytes) :
    utf8Bytes (mark :: part) <:+: bytes := by
  induction wide with
  | nil => exact inside
  | cons b wide ih =>
    rcases List.infix_cons_iff.mp inside with front | later
    · rw [utf8Bytes_cons, utf8EncodeChar_of_ascii ascii] at front
      have same : mark.toUInt8 = b := (List.cons_prefix_cons.mp front).1
      have := bound b List.mem_cons_self
      rw [← same, toNat_toUInt8_of_ascii ascii] at this
      omega
    · exact ih (fun b member => bound b (List.mem_cons_of_mem _ member)) later

/-- An ASCII text is a part of a text's bytes when it is a part of the text: it can not begin within
a character. -/
theorem isInfix_utf8Bytes {part : List Char} (ascii : ∀ c ∈ part, c.toNat < 128)
    (text : List Char) : utf8Bytes part <:+: utf8Bytes text ↔ part <:+: text := by
  cases part with
  | nil => exact iff_of_true List.nil_infix List.nil_infix
  | cons mark part =>
    have narrow := ascii mark List.mem_cons_self
    induction text with
    | nil => simp [utf8EncodeChar_of_ascii narrow]
    | cons c text ih =>
      rw [List.infix_cons_iff, ← isPrefix_utf8Bytes ascii, ← propext ih]
      by_cases single : c.toNat < 128
      · rw [utf8Bytes_cons c, utf8EncodeChar_of_ascii single, List.singleton_append,
          List.infix_cons_iff]
      · have wide := fun b => le_of_mem_utf8EncodeChar (b := b) (Nat.le_of_not_lt single)
        constructor
        · intro inside
          exact Or.inr (isInfix_append_of_wide narrow wide _ inside)
        · rintro (front | later)
          · exact front.isInfix
          · exact later.trans (List.suffix_append _ _).isInfix

/-! ## The stems that are parts of a text -/

/-- The bytes of the stem with that many underscores. -/
def Parameter.stemBytes (count : Nat) : List UInt8 :=
  utf8Bytes (Parameter.base ++ List.replicate count '_')

theorem Parameter.ascii_stem (count : Nat) :
    ∀ c ∈ Parameter.base ++ List.replicate count '_', c.toNat < 128 := by
  intro c member
  rcases List.mem_append.mp member with base | underscore
  · have all : Parameter.base.all (fun c => c.toNat < 128) = true := rfl
    exact of_decide_eq_true (List.all_eq_true.mp all c base)
  · rw [List.eq_of_mem_replicate underscore]
    decide

theorem Parameter.replicate_isPrefix (count : Nat) (text : List Char) :
    List.replicate count '_' <+: text ↔ count ≤ (text.takeWhile (· = '_')).length := by
  induction count generalizing text with
  | zero => exact iff_of_true List.nil_prefix (Nat.zero_le _)
  | succ count ih =>
    cases text with
    | nil => simp [List.replicate_succ]
    | cons c text =>
      rw [List.replicate_succ, List.cons_prefix_cons, ih, List.takeWhile_cons]
      by_cases same : c = '_'
      · subst same
        simp
      · simp [same, Ne.symm same]

/-- A stem stands at the head of a text when the base does, with enough underscores after it. -/
theorem Parameter.stem_isPrefix (count : Nat) (c : Char) (rest : List Char) :
    Parameter.base ++ List.replicate count '_' <+: c :: rest ↔
      Parameter.base <+: c :: rest ∧ count ≤ ((rest.drop 2).takeWhile (· = '_')).length := by
  constructor
  · intro front
    have base : Parameter.base <+: c :: rest := (List.prefix_append _ _).trans front
    obtain ⟨after, whole⟩ := base
    have tail : rest.drop 2 = after := (congrArg (List.drop 3) whole).symm
    rw [← whole, List.prefix_append_right_inj] at front
    rw [tail, ← Parameter.replicate_isPrefix]
    exact ⟨⟨after, whole⟩, front⟩
  · rintro ⟨⟨after, whole⟩, enough⟩
    have tail : rest.drop 2 = after := (congrArg (List.drop 3) whole).symm
    rw [tail, ← Parameter.replicate_isPrefix] at enough
    rw [← whole, List.prefix_append_right_inj]
    exact enough

/-- The base with some underscores is a part of a text when somewhere the base stands with at least
as many. -/
theorem Parameter.stem_isInfix (count : Nat) (text : List Char) :
    Parameter.base ++ List.replicate count '_' <:+: text ↔
      ∃ run ∈ Parameter.underscoreRuns text, count ≤ run := by
  induction text with
  | nil => simp [Parameter.base, Parameter.underscoreRuns]
  | cons c rest ih =>
    rw [List.infix_cons_iff, Parameter.stem_isPrefix, ih, Parameter.underscoreRuns]
    by_cases here : Parameter.base <+: c :: rest
    · rw [if_pos (List.isPrefixOf_iff_prefix.mpr here), List.exists_mem_cons_iff,
        and_iff_right here]
    · rw [if_neg (mt List.isPrefixOf_iff_prefix.mp here), or_iff_right fun both => here both.1]

/-- The stem that is chosen has more underscores than any base in the text has after it, and no more
than needed. -/
theorem Parameter.lt_underscores (count : Nat) (text : List Char) :
    count < Parameter.underscores text ↔ ∃ run ∈ Parameter.underscoreRuns text, count ≤ run := by
  have fold (runs : List Nat) (fewest : Nat) :
      count < runs.foldl (fun fewest run => max fewest (run + 1)) fewest ↔
        count < fewest ∨ ∃ run ∈ runs, count ≤ run := by
    induction runs generalizing fewest with
    | nil => simp
    | cons run runs ih =>
      have raised : count < max fewest (run + 1) ↔ count < fewest ∨ count ≤ run := by omega
      rw [List.foldl_cons, ih, List.exists_mem_cons_iff, raised, or_assoc]
  rw [Parameter.underscores, fold, or_iff_right (Nat.not_lt_zero count)]

/-- A stem is a part of a text when it has fewer underscores than the one chosen. So the chosen one
is the shortest that is not. -/
theorem Parameter.stemBytes_isInfix (count : Nat) (text : List Char) :
    Parameter.stemBytes count <:+: utf8Bytes text ↔ count < Parameter.underscores text := by
  rw [Parameter.stemBytes, isInfix_utf8Bytes (Parameter.ascii_stem count), Parameter.stem_isInfix,
    Parameter.lt_underscores]

/-! ## Lengthening a stem -/

/-- Lengthening a stem by one underscore after the other, as long as it is a part of the text. -/
inductive Parameter.Lengthens (text : List UInt8) : List UInt8 → List UInt8 → Prop
  | absent {stem : List UInt8} (absent : ¬ stem <:+: text) : Parameter.Lengthens text stem stem
  | present {stem found : List UInt8} (present : stem <:+: text)
      (longer : Parameter.Lengthens text (stem ++ ['_'.toUInt8]) found) :
      Parameter.Lengthens text stem found

theorem Parameter.stemBytes_succ (count : Nat) :
    Parameter.stemBytes (count + 1) = Parameter.stemBytes count ++ ['_'.toUInt8] := by
  rw [Parameter.stemBytes, List.replicate_succ', ← List.append_assoc, utf8Bytes_append]
  rfl

/-- Lengthening comes to an end, at the first stem that is no part of the text. The induction is on
how many underscores are missing. -/
theorem Parameter.lengthens {text : List UInt8} {fewest : Nat}
    (present : ∀ count, Parameter.stemBytes count <:+: text ↔ count < fewest) {count : Nat}
    (begins : count ≤ fewest) :
    Parameter.Lengthens text (Parameter.stemBytes count) (Parameter.stemBytes fewest) := by
  induction left : fewest - count generalizing count with
  | zero =>
    obtain rfl : count = fewest := by omega
    exact .absent (mt (present count).mp (Nat.lt_irrefl _))
  | succ more ih =>
    have longer := @ih (count + 1) (by omega) (by omega)
    rw [Parameter.stemBytes_succ] at longer
    exact .present ((present count).mpr (by omega)) longer

end SqlDriver
