import SqlDriver.Proofs.Query.Reader
import SqlDriver.Proofs.Query.Classification

/-!
A reader of bytes finds the ends of things where the cut of the text has them. What is skipped is
known by the bytes that stand at the position: a run up to its closing byte, a line, a block comment
or a word, and after it the rest of the text.
-/

namespace SqlDriver

section

variable {bytes rest tail : List UInt8} {byte : UInt8} {position : Nat}

/-- The byte at a position, and where the bytes after it stand. -/
theorem Reader.byte_of_drop (here : bytes.drop position = byte :: rest) :
    ∃ inside : position < bytes.length, bytes[position] = byte ∧
      bytes.drop (position + 1) = rest := by
  have first : bytes[position]? = some byte := by
    rw [← Nat.add_zero position, ← List.getElem?_drop, here]
    rfl
  obtain ⟨inside, found⟩ := List.getElem?_eq_some_iff.mp first
  refine ⟨inside, found, ?_⟩
  rw [← List.tail_drop, here]
  rfl

/-- The byte after a position. -/
theorem Reader.next_of_drop (here : bytes.drop position = byte :: rest) :
    bytes[position + 1]? = rest.head? := by
  rw [← List.getElem?_drop, here, List.head?_eq_getElem?]
  rfl

theorem Reader.length_of_drop (here : bytes.drop position = tail)
    (inside : position ≤ bytes.length) : bytes.length = position + tail.length := by
  rw [← here, List.length_drop]
  omega

theorem Reader.length_one (byte : UInt8) :
    position + (byte :: tail).length = position + 1 + tail.length := by
  rw [List.length_cons]
  omega

theorem Reader.length_two (byte byte' : UInt8) :
    position + (byte :: byte' :: tail).length = position + 2 + tail.length := by
  rw [List.length_cons, List.length_cons]
  omega

/-- A run ends after its last byte, if it is closed, and nowhere otherwise. A mark that is doubled,
or that a backslash stands before, does not close it. -/
theorem Reader.quotedEnd_of_run {closing : UInt8} {escapes closed : Bool}
    (run : Segment.Run rest closing escapes closed tail)
    (here : bytes.drop position = tail ++ rest) :
    Reader.quotedEnd bytes closing escapes position =
      if closed then some (position + tail.length) else none := by
  induction run generalizing position with
  | unended none =>
    rw [none, List.append_nil, List.drop_eq_nil_iff] at here
    rw [Reader.quotedEnd, dif_neg (Nat.not_lt_of_le here)]
    rfl
  | ended straight =>
    obtain ⟨inside, first, -⟩ := Reader.byte_of_drop here
    have plain : ¬ (escapes = true ∧ bytes[position] = '\\'.toUInt8) := by
      rintro ⟨escape, same⟩
      exact straight escape (first.symm.trans same)
    rw [Reader.quotedEnd, dif_pos inside, if_neg plain, if_pos first]
    rfl
  | dangling escape none =>
    have whole : bytes.drop position = '\\'.toUInt8 :: rest := here
    obtain ⟨inside, first, last⟩ := Reader.byte_of_drop whole
    rw [none, List.drop_eq_nil_iff] at last
    rw [Reader.quotedEnd, dif_pos inside, if_pos ⟨escape, first⟩, Reader.quotedEnd,
      dif_neg (by omega)]
    rfl
  | @escaped closed tail byte escape run ih =>
    obtain ⟨inside, first, second⟩ := Reader.byte_of_drop here
    obtain ⟨-, -, after⟩ := Reader.byte_of_drop second
    rw [Reader.quotedEnd, dif_pos inside, if_pos ⟨escape, first⟩, ih after, Reader.length_two]
  | @byte closed tail byte straight other run ih =>
    obtain ⟨inside, first, after⟩ := Reader.byte_of_drop here
    have plain : ¬ (escapes = true ∧ bytes[position] = '\\'.toUInt8) := by
      rintro ⟨escape, same⟩
      exact straight escape (first.symm.trans same)
    have apart : bytes[position] ≠ closing := fun same => other (first.symm.trans same)
    rw [Reader.quotedEnd, dif_pos inside, if_neg plain, if_neg apart, ih after, Reader.length_one]

/-- A block comment ends after its last byte, if it is closed. The depth counts the comments that
are open at the position. -/
theorem Reader.commentEnd_of_comment {depth : Nat} {closed : Bool}
    (comment : Segment.Comment rest depth closed tail)
    (here : bytes.drop position = tail ++ rest) :
    Reader.commentEnd bytes (depth + 1) position =
      if closed then some (position + tail.length) else none := by
  induction comment generalizing position with
  | unended depth none =>
    rw [none, List.append_nil, List.drop_eq_nil_iff] at here
    rw [Reader.commentEnd, dif_neg (Nat.not_lt_of_le here)]
    rfl
  | ended =>
    obtain ⟨inside, first, -⟩ := Reader.byte_of_drop here
    have second : bytes[position + 1]? = some '/'.toUInt8 := Reader.next_of_drop here
    have other : '*'.toUInt8 ≠ '/'.toUInt8 := by decide
    rw [Reader.commentEnd, dif_pos inside, first, if_neg fun opens => other opens.1,
      if_pos ⟨rfl, second⟩, if_pos rfl]
    rfl
  | @inner depth closed tail comment ih =>
    obtain ⟨inside, first, later⟩ := Reader.byte_of_drop here
    obtain ⟨-, -, after⟩ := Reader.byte_of_drop later
    have second : bytes[position + 1]? = some '*'.toUInt8 := Reader.next_of_drop here
    rw [Reader.commentEnd, dif_pos inside, if_pos ⟨first, second⟩, ih after, Reader.length_two]
  | @outer depth closed tail comment ih =>
    obtain ⟨inside, first, later⟩ := Reader.byte_of_drop here
    obtain ⟨-, -, after⟩ := Reader.byte_of_drop later
    have second : bytes[position + 1]? = some '/'.toUInt8 := Reader.next_of_drop here
    have other : '*'.toUInt8 ≠ '/'.toUInt8 := by decide
    rw [Reader.commentEnd, dif_pos inside, first, if_neg fun opens => other opens.1,
      if_pos ⟨rfl, second⟩, if_neg (by omega), Nat.add_sub_cancel, ih after, Reader.length_two]
  | @byte depth closed tail byte slash star comment ih =>
    obtain ⟨inside, first, after⟩ := Reader.byte_of_drop here
    have second : bytes[position + 1]? = (tail ++ rest).head? := Reader.next_of_drop here
    rw [Reader.commentEnd, dif_pos inside, first, second, if_neg fun opens => slash opens.1 opens.2,
      if_neg fun closes => star closes.1 closes.2, ih after, Reader.length_one]

/-- The line feed that closes a run is the first one in it. -/
theorem Reader.findIdx?_lineFeed {ended : Bool}
    (run : Segment.Run rest '\n'.toUInt8 false ended tail) :
    ((tail ++ rest).findIdx? fun byte => byte = '\n'.toUInt8).map (· + 1) =
      if ended then some tail.length else none := by
  induction run with
  | unended none =>
    rw [none]
    rfl
  | ended straight => rfl
  | dangling escape none => cases escape
  | escaped byte escape run ih => cases escape
  | @byte ended tail byte straight other run ih =>
    rw [List.cons_append, List.findIdx?_cons, if_neg (by simpa using other), ih]
    cases ended <;> rfl

/-- A line that begins with two other bytes ends after its line feed, or at the end of the text if
there is none. -/
theorem Reader.lineEnd_of_run {ended : Bool}
    (run : Segment.Run rest '\n'.toUInt8 false ended tail)
    (here : bytes.drop position = '-'.toUInt8 :: '-'.toUInt8 :: (tail ++ rest)) :
    Reader.lineEnd bytes position =
      if ended then position + 2 + tail.length else bytes.length := by
  have found := Reader.findIdx?_lineFeed run
  rw [Reader.lineEnd, here, List.findIdx?_cons, if_neg (by decide), List.findIdx?_cons,
    if_neg (by decide), found]
  cases ended with
  | true =>
    change position + (tail.length + 1) + 1 = position + 2 + tail.length
    omega
  | false => rfl

/-- A word ends after its last byte. -/
theorem Reader.wordEnd_eq (inside : position ≤ bytes.length) :
    Reader.wordEnd bytes position = position + (Grammar.wordAt bytes position).length := by
  have length : bytes.length = position + (bytes.drop position).length := by
    rw [List.length_drop]
    omega
  rw [Reader.wordEnd, Grammar.wordAt, length]
  generalize bytes.drop position = tail
  induction tail with
  | nil => rfl
  | cons byte tail ih =>
    by_cases word : Grammar.isWordByte byte = true
    · rw [List.findIdx?_cons, if_neg (by simp [word]), List.takeWhile_cons_of_pos word]
      cases found : tail.findIdx? fun byte => !Grammar.isWordByte byte with
      | none =>
        rw [found] at ih
        dsimp only [Option.map_none, List.length_cons] at ih ⊢
        omega
      | some length =>
        rw [found] at ih
        dsimp only [Option.map_some, List.length_cons] at ih ⊢
        omega
    · rw [List.findIdx?_cons, if_pos (by simp [word]), List.takeWhile_cons_of_neg word]
      rfl

end

end SqlDriver
