import SqlDriver.Proofs.Query.Utf8

/-!
Slices of a text by byte positions. A position may be used to cut a text only where it is a boundary:
between two characters, or at either end. The boundaries are the lengths of the fronts of a text, so
a slice whose bounds are known as such lengths is known.
-/

namespace SqlDriver

/-- Whether a byte position is a boundary between characters of a text, or an end of it. -/
def Text.IsBoundary (text : String) (position : Nat) : Prop :=
  String.Pos.Raw.IsValid text ⟨position⟩

/-- The part of a text between two byte positions. There is none if one of them is not a boundary
of the text, or if they are not in order. -/
def Text.slice? (text : String) (start stop : Nat) : Option String :=
  match text.pos? ⟨start⟩, text.pos? ⟨stop⟩ with
  | some first, some last => (text.slice? first last).map String.Slice.copy
  | _, _ => none

theorem Text.IsBoundary.pos? {text : String} {position : Nat}
    (boundary : Text.IsBoundary text position) :
    text.pos? ⟨position⟩ = some (text.pos ⟨position⟩ boundary) := by
  have valid := String.Pos.Raw.isValidForSlice_eq_true_iff.mpr boundary.toSlice
  rw [String.pos?, String.Slice.pos?, dif_pos valid]
  rfl

/-- Where a position can be found in a text, it is a boundary of it. -/
theorem Text.isBoundary_of_pos? {text : String} {position : Nat} {found : text.Pos}
    (here : text.pos? ⟨position⟩ = some found) : Text.IsBoundary text position := by
  obtain ⟨inner, here, -⟩ := Option.map_eq_some_iff.mp here
  rw [String.Slice.pos?] at here
  split at here
  · rename_i valid
    exact (String.Pos.Raw.isValidForSlice_eq_true_iff.mp valid).ofSlice
  · cases here

theorem Text.IsBoundary.le {text : String} {position : Nat}
    (boundary : Text.IsBoundary text position) : position ≤ text.utf8ByteSize :=
  boundary.le_utf8ByteSize

/-- There is a slice exactly between boundaries in order, and none where it would begin or end
within a character. -/
theorem Text.isSome_slice?_iff (text : String) (start stop : Nat) :
    (Text.slice? text start stop).isSome ↔
      start ≤ stop ∧ Text.IsBoundary text start ∧ Text.IsBoundary text stop := by
  rw [Text.slice?]
  constructor
  · intro found
    split at found
    · rename_i first last here there
      have start_boundary := Text.isBoundary_of_pos? here
      have stop_boundary := Text.isBoundary_of_pos? there
      cases start_boundary.pos?.symm.trans here
      cases stop_boundary.pos?.symm.trans there
      rw [Option.isSome_map, String.slice?] at found
      split at found
      · rename_i ordered
        exact ⟨ordered, start_boundary, stop_boundary⟩
      · cases found
    · cases found
  · rintro ⟨ordered, start_boundary, stop_boundary⟩
    have between : text.pos ⟨start⟩ start_boundary ≤ text.pos ⟨stop⟩ stop_boundary := ordered
    rw [start_boundary.pos?, stop_boundary.pos?]
    dsimp only
    rw [String.slice?, dif_pos between]
    rfl

theorem utf8Length_eq_utf8ByteSize (chars : List Char) :
    utf8Length chars = (String.ofList chars).utf8ByteSize := by
  rw [utf8Length_eq_length, ← String.toList_ofList (l := chars), ← textBytes_eq,
    String.toList_ofList]
  rfl

section

variable {text : String} {front middle back : List Char}

/-- The length of a front of a text is a boundary, as the front ends with a whole character. -/
theorem Text.isBoundary_of_front (whole : text.toList = front ++ back) :
    Text.IsBoundary text (utf8Length front) := by
  rw [Text.IsBoundary, String.Pos.Raw.isValid_iff_exists_append]
  refine ⟨String.ofList front, String.ofList back, ?_, ?_⟩
  · rw [← String.ofList_append, ← whole, String.ofList_toList]
  · rw [utf8Length_eq_utf8ByteSize]
    rfl

/-- The slice between the ends of two fronts is what the longer one has more. -/
theorem Text.slice?_eq (whole : text.toList = front ++ (middle ++ back)) :
    Text.slice? text (utf8Length front) (utf8Length (front ++ middle)) =
      some (String.ofList middle) := by
  have start_boundary := Text.isBoundary_of_front whole
  have stop_boundary : Text.IsBoundary text (utf8Length (front ++ middle)) :=
    Text.isBoundary_of_front (whole.trans (List.append_assoc ..).symm)
  have lengths : utf8Length (front ++ middle) =
      (String.ofList front).toByteArray.size + (String.ofList middle).toByteArray.size := by
    rw [utf8Length_eq_utf8ByteSize, String.ofList_append, String.utf8ByteSize_append]
    rfl
  have ordered : text.pos _ start_boundary ≤ text.pos _ stop_boundary := by
    change utf8Length front ≤ utf8Length (front ++ middle)
    rw [lengths, utf8Length_eq_utf8ByteSize]
    exact Nat.le_add_right _ _
  have bytes : text.toByteArray = (String.ofList front).toByteArray ++
      ((String.ofList middle).toByteArray ++ (String.ofList back).toByteArray) := by
    rw [← String.toByteArray_append, ← String.toByteArray_append, ← String.ofList_append,
      ← String.ofList_append, ← whole, String.ofList_toList]
  rw [Text.slice?, start_boundary.pos?, stop_boundary.pos?]
  dsimp only
  rw [String.slice?, dif_pos ordered, Option.map_some, Option.some_inj, ← String.toByteArray_inj,
    String.Slice.toByteArray_copy]
  simp only [String.str_slice, String.startInclusive_slice, String.endExclusive_slice, bytes]
  change ByteArray.extract _ (utf8Length front) (utf8Length (front ++ middle)) = _
  rw [lengths, utf8Length_eq_utf8ByteSize]
  exact (ByteArray.extract_append_size_add (i := 0)).trans (ByteArray.extract_append_eq_left rfl)

end

end SqlDriver
