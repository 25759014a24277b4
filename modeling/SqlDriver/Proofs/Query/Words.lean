import SqlDriver.Proofs.Query.Starts

/-!
Words by bytes and words by characters. The characters of a word are ASCII, so the longest word at
the head of a text is the same read either way, and so is the family it names.
-/

namespace SqlDriver

/-- What holds of the 128 characters of ASCII holds of any such character. So facts about single
characters are decided by looking at all of them. -/
theorem of_ascii {P : Char → Prop} (all : ∀ n : Fin 128, P (Char.ofNat n)) {c : Char}
    (ascii : c.toNat < 128) : P c := by
  have one := all ⟨c.toNat, ascii⟩
  rw [Char.ofNat_toNat] at one
  exact one

/-- The characters of words are ASCII, so that a word is as long in bytes as in characters. -/
theorem Token.ascii_of_isWordChar {c : Char} (word : Token.isWordChar c = true) :
    c.toNat < 128 := by
  have ranges : ((decide (c.val ≥ 'A'.val ∧ c.val ≤ 'Z'.val) ||
      (c.val ≥ 'a'.val && c.val ≤ 'z'.val)) || (c.val ≥ '0'.val && c.val ≤ '9'.val) ||
      c = '_') = true := word
  simp only [Bool.or_eq_true, Bool.and_eq_true, decide_eq_true_eq, UInt32.le_iff_toNat_le]
    at ranges
  rcases ranges with ((⟨_, high⟩ | ⟨_, high⟩) | ⟨_, high⟩) | rfl
  · exact Nat.lt_of_le_of_lt high (by decide)
  · exact Nat.lt_of_le_of_lt high (by decide)
  · exact Nat.lt_of_le_of_lt high (by decide)
  · decide

/-- Word bytes are the bytes of word characters. -/
theorem Grammar.isWordByte_toUInt8 {c : Char} (ascii : c.toNat < 128) :
    Grammar.isWordByte c.toUInt8 = Token.isWordChar c := by
  revert c
  refine @of_ascii _ ?_
  decide

/-- Bytes are lowered as characters are. -/
theorem Grammar.lower_toUInt8 {c : Char} (ascii : c.toNat < 128) :
    c.toLower.toNat < 128 ∧ Grammar.lower c.toUInt8 = c.toLower.toUInt8 := by
  revert c
  refine @of_ascii _ ?_
  decide

theorem Grammar.not_isWordByte_of_wide {b : UInt8} (wide : 128 ≤ b.toNat) :
    Grammar.isWordByte b = false := by
  rw [Bool.eq_false_iff]
  unfold Grammar.isWordByte
  simp only [ne_eq, Bool.or_eq_true, Bool.and_eq_true, decide_eq_true_eq, UInt8.le_iff_toNat_le]
  rintro (((⟨_, high⟩ | ⟨_, high⟩) | ⟨_, high⟩) | rfl)
  · exact absurd (Nat.le_trans wide high) (by decide)
  · exact absurd (Nat.le_trans wide high) (by decide)
  · exact absurd (Nat.le_trans wide high) (by decide)
  · exact absurd wide (by decide)

/-- The bytes' first word is the characters' first word: it ends at the first byte of the first
character that is none of a word. -/
theorem Grammar.takeWhile_utf8Bytes (chars : List Char) :
    (utf8Bytes chars).takeWhile Grammar.isWordByte =
      utf8Bytes (chars.takeWhile Token.isWordChar) := by
  induction chars with
  | nil => rfl
  | cons c rest ih =>
    by_cases ascii : c.toNat < 128
    · rw [utf8Bytes_cons, utf8EncodeChar_of_ascii ascii, List.singleton_append,
        List.takeWhile_cons, List.takeWhile_cons, Grammar.isWordByte_toUInt8 ascii, ih]
      split
      · rw [utf8Bytes_cons, utf8EncodeChar_of_ascii ascii, List.singleton_append]
      · rfl
    · obtain ⟨lead, trail, whole, -⟩ := utf8EncodeChar_eq_cons c
      have wide := le_of_mem_utf8EncodeChar (b := lead) (Nat.le_of_not_lt ascii) (by simp [whole])
      have other : ¬ Token.isWordChar c = true := fun word =>
        ascii (Token.ascii_of_isWordChar word)
      rw [utf8Bytes_cons, whole, List.cons_append,
        List.takeWhile_cons_of_neg (by simp [Grammar.not_isWordByte_of_wide wide]),
        List.takeWhile_cons_of_neg other]
      rfl

theorem Grammar.map_lower_utf8Bytes {chars : List Char}
    (word : ∀ c ∈ chars, Token.isWordChar c = true) :
    (utf8Bytes chars).map Grammar.lower = utf8Bytes (chars.map Char.toLower) := by
  induction chars with
  | nil => rfl
  | cons c rest ih =>
    have ascii := Token.ascii_of_isWordChar (word c List.mem_cons_self)
    obtain ⟨low, same⟩ := Grammar.lower_toUInt8 ascii
    rw [utf8Bytes_cons, utf8EncodeChar_of_ascii ascii, List.singleton_append, List.map_cons,
      List.map_cons, utf8Bytes_cons, utf8EncodeChar_of_ascii low, List.singleton_append, same,
      ih fun d member => word d (List.mem_cons_of_mem _ member)]

theorem textBytes_eq_utf8Bytes (text : String) (chars : List Char) :
    textBytes text = utf8Bytes chars ↔ text = String.ofList chars := by
  rw [← String.toByteArray_inj, ByteArray.ext_iff, ← Array.toList_inj,
    ← String.toList_ofList (l := chars), ← textBytes_eq, String.toList_ofList]
  rfl

/-- Texts with the same bytes are the same, so keywords may be compared by their bytes. -/
theorem textBytes_injective : Function.Injective textBytes := by
  intro text other same
  rw [textBytes_eq other, textBytes_eq_utf8Bytes] at same
  rw [same, String.ofList_toList]

/-! ## The parser's tables -/

/-- The keywords that the parser knows, family by family, are those of the grammar: the same nine
words, each of the same family. -/
theorem Grammar.keywords_eq : Grammar.keywords =
    [StatementKind.select, .update, .scheme].flatMap fun family =>
      family.keywords.map fun keyword => (textBytes keyword, family) :=
  rfl

/-- The parser takes each family for the kind that the grammar says. -/
theorem Grammar.kindOf_eq (family : StatementKind) :
    Grammar.kindOf family = family.queryKind := by
  cases family <;> rfl

/-- Among words of one family, each with the family beside it, a word is found with that family or
not at all. -/
theorem Grammar.lookup_family (word : String) (family : StatementKind) (keywords : List String) :
    (keywords.map fun keyword => (textBytes keyword, family)).lookup (textBytes word) =
      if keywords.contains word then some family else none := by
  induction keywords with
  | nil => rfl
  | cons keyword rest ih =>
    rw [List.map_cons, List.lookup_cons, List.contains_cons]
    by_cases same : word = keyword
    · subst same
      simp
    · have apart : textBytes word ≠ textBytes keyword :=
        fun equal => same (textBytes_injective equal)
      rw [beq_false_of_ne apart, beq_false_of_ne same, Bool.false_or]
      exact ih

/-- Looking a word up among the words of all families is searching for the family that has it, which
is how the parser goes about it. -/
theorem Grammar.lookup_families (word : String) (families : List StatementKind) :
    (families.flatMap fun family =>
      family.keywords.map fun keyword => (textBytes keyword, family)).lookup (textBytes word) =
    families.find? fun family => family.keywords.contains word := by
  induction families with
  | nil => rfl
  | cons family rest ih =>
    rw [List.flatMap_cons, List.lookup_append, Grammar.lookup_family, ih, List.find?_cons]
    cases family.keywords.contains word <;> rfl

/-- A word of the text has the family of its characters: the grammar's keywords are the parser's, in
any mix of case. -/
theorem Grammar.family?_utf8Bytes {chars : List Char}
    (word : ∀ c ∈ chars, Token.isWordChar c = true) :
    Grammar.family? (utf8Bytes chars) = StatementKind.ofKeyword? chars := by
  have spelled : (utf8Bytes chars).map Grammar.lower =
      textBytes (String.ofList (chars.map Char.toLower)) := by
    rw [Grammar.map_lower_utf8Bytes word, eq_comm, textBytes_eq_utf8Bytes]
  rw [Grammar.family?, spelled, Grammar.keywords_eq, Grammar.lookup_families]
  rfl

end SqlDriver
