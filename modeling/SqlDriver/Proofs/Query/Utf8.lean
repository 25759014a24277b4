import SqlDriver.Query.Token
import Mathlib.Data.List.Basic

/-!
The bytes of a text in UTF-8. All marks of a query text are ASCII characters, and an ASCII character
is one byte that occurs in the encoding of no other character: a reading of the bytes meets a mark
exactly where a reading of the characters does.
-/

namespace SqlDriver

/-- The characters' encodings, joined. -/
def utf8Bytes (chars : List Char) : List UInt8 :=
  chars.flatMap String.utf8EncodeChar

@[simp] theorem utf8Bytes_nil : utf8Bytes [] = [] := rfl

@[simp] theorem utf8Bytes_cons (c : Char) (chars : List Char) :
    utf8Bytes (c :: chars) = String.utf8EncodeChar c ++ utf8Bytes chars := rfl

@[simp] theorem utf8Bytes_append (front back : List Char) :
    utf8Bytes (front ++ back) = utf8Bytes front ++ utf8Bytes back := by
  simp [utf8Bytes]

theorem utf8Length_eq_length (chars : List Char) :
    utf8Length chars = (utf8Bytes chars).length := by
  induction chars with
  | nil => rfl
  | cons c rest ih =>
    rw [utf8Bytes_cons, List.length_append, String.length_utf8EncodeChar, ← ih]
    rfl

theorem utf8Length_pos {chars : List Char} (nonempty : chars ≠ []) : 0 < utf8Length chars := by
  obtain ⟨c, rest, rfl⟩ := List.exists_cons_of_ne_nil nonempty
  exact Nat.add_pos_left c.utf8Size_pos _

/-- The bytes of a string. -/
def textBytes (text : String) : List UInt8 :=
  text.toByteArray.data.toList

/-- The bytes of a string are those of its characters, one after the other. -/
theorem textBytes_eq (text : String) : textBytes text = utf8Bytes text.toList := by
  rw [textBytes, ← String.utf8Encode_toList, List.utf8Encode, List.toList_data_toByteArray]
  rfl

/-! ## ASCII characters and the others -/

/-- A character of ASCII is encoded as one byte, its own number. -/
theorem utf8EncodeChar_of_ascii {c : Char} (ascii : c.toNat < 128) :
    String.utf8EncodeChar c = [c.toUInt8] := by
  refine String.utf8EncodeChar_eq_singleton (Char.utf8Size_eq_one_iff.mpr ?_)
  rw [UInt32.le_iff_toNat_le]
  exact Nat.le_of_lt_succ ascii

/-- No byte of a longer encoding is ASCII. This is why bytes can be looked at without decoding them.
-/
theorem le_of_mem_utf8EncodeChar {c : Char} (wide : 128 ≤ c.toNat) {b : UInt8}
    (member : b ∈ String.utf8EncodeChar c) : 128 ≤ b.toNat := by
  have large : ¬ c.val.toNat ≤ 127 := by
    change ¬ c.toNat ≤ 127
    omega
  have above (high low modulus : Nat) (bound : high < modulus) (fits : low + modulus ≤ 256)
      (ascii : 128 ≤ low) : 128 ≤ (UInt8.ofNat (high + low)).toNat := by
    rw [UInt8.toNat_ofNat']
    omega
  unfold String.utf8EncodeChar at member
  simp only [large, if_false] at member
  split at member
  · rcases List.mem_pair.mp member with rfl | rfl
    · exact above _ 0xc0 0x20 (Nat.mod_lt _ (by omega)) (by omega) (by omega)
    · exact above _ 0x80 0x40 (Nat.mod_lt _ (by omega)) (by omega) (by omega)
  split at member
  · simp only [List.mem_cons, List.not_mem_nil, or_false] at member
    rcases member with rfl | rfl | rfl
    · exact above _ 0xe0 0x10 (Nat.mod_lt _ (by omega)) (by omega) (by omega)
    · exact above _ 0x80 0x40 (Nat.mod_lt _ (by omega)) (by omega) (by omega)
    · exact above _ 0x80 0x40 (Nat.mod_lt _ (by omega)) (by omega) (by omega)
  · simp only [List.mem_cons, List.not_mem_nil, or_false] at member
    rcases member with rfl | rfl | rfl | rfl
    · exact above _ 0xf0 0x08 (Nat.mod_lt _ (by omega)) (by omega) (by omega)
    · exact above _ 0x80 0x40 (Nat.mod_lt _ (by omega)) (by omega) (by omega)
    · exact above _ 0x80 0x40 (Nat.mod_lt _ (by omega)) (by omega) (by omega)
    · exact above _ 0x80 0x40 (Nat.mod_lt _ (by omega)) (by omega) (by omega)

theorem toNat_toUInt8_of_ascii {c : Char} (ascii : c.toNat < 128) : c.toUInt8.toNat = c.toNat := by
  change c.toNat % 256 = c.toNat
  omega

/-- The byte of an ASCII character occurs in its own encoding only. -/
theorem toUInt8_mem_utf8EncodeChar {c mark : Char} (ascii : mark.toNat < 128) :
    mark.toUInt8 ∈ String.utf8EncodeChar c ↔ c = mark := by
  constructor
  · intro member
    by_cases narrow : c.toNat < 128
    · rw [utf8EncodeChar_of_ascii narrow, List.mem_singleton] at member
      have same := congrArg UInt8.toNat member
      rw [toNat_toUInt8_of_ascii ascii, toNat_toUInt8_of_ascii narrow] at same
      exact Char.toNat_inj.mp same.symm
    · have wide := le_of_mem_utf8EncodeChar (Nat.le_of_not_lt narrow) member
      rw [toNat_toUInt8_of_ascii ascii] at wide
      omega
  · rintro rfl
    rw [utf8EncodeChar_of_ascii ascii]
    exact List.mem_singleton_self _

theorem toUInt8_inj {c mark : Char} (narrow : c.toNat < 128) (ascii : mark.toNat < 128) :
    c.toUInt8 = mark.toUInt8 ↔ c = mark := by
  rw [← toUInt8_mem_utf8EncodeChar ascii, utf8EncodeChar_of_ascii narrow, List.mem_singleton,
    eq_comm]

/-- An encoding is one byte and after it bytes that are not ASCII. -/
theorem utf8EncodeChar_eq_cons (c : Char) :
    ∃ lead trail, String.utf8EncodeChar c = lead :: trail ∧ ∀ b ∈ trail, 128 ≤ b.toNat := by
  by_cases ascii : c.toNat < 128
  · exact ⟨c.toUInt8, [], utf8EncodeChar_of_ascii ascii, by simp⟩
  · obtain ⟨lead, trail, whole⟩ :=
      List.exists_cons_of_ne_nil (String.utf8EncodeChar_ne_nil (c := c))
    refine ⟨lead, trail, whole, fun b member => ?_⟩
    refine le_of_mem_utf8EncodeChar (Nat.le_of_not_lt ascii) ?_
    rw [whole]
    exact List.mem_cons_of_mem _ member

/-- A text's bytes begin with the byte of an ASCII character when the text begins with it, and not
otherwise. -/
theorem head?_utf8Bytes {mark : Char} (ascii : mark.toNat < 128) (chars : List Char) :
    (utf8Bytes chars).head? = some mark.toUInt8 ↔ chars.head? = some mark := by
  cases chars with
  | nil => simp
  | cons c rest =>
    obtain ⟨lead, trail, whole, wide⟩ := utf8EncodeChar_eq_cons c
    rw [utf8Bytes_cons, whole, List.cons_append, List.head?_cons, List.head?_cons,
      Option.some_inj, Option.some_inj, ← toUInt8_mem_utf8EncodeChar ascii, whole, List.mem_cons]
    constructor
    · exact fun same => Or.inl same.symm
    · rintro (same | member)
      · exact same.symm
      · have := wide _ member
        rw [toNat_toUInt8_of_ascii ascii] at this
        omega

end SqlDriver
