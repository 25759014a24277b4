import SqlDriver.Query.Descriptor
import SqlDriver.Proofs.Query.Utf8
import Mathlib.Data.List.Basic

/-!
The grammar of query texts, told of their bytes and apart from any way of reading them. A text is
cut, from left to right, into segments; the separators among the segments cut it into pieces; a
statement begins at the first byte of a piece that is neither blank nor comment, and the word that
stands there must be a keyword.

A text has at most one cut. Where a segment ends may depend on one byte after it, so the relations
below carry the rest of the text.
-/

namespace SqlDriver

/-! ## Segments -/

/-- What a segment is. A plain segment is a single byte. -/
inductive Segment.Kind where
  | quoted (closed : Bool)
  | lineComment
  | blockComment (closed : Bool)
  | separator
  | placeholder
  | blank
  | plain

structure Segment where
  /-- The position of its first byte in the text. -/
  start : Nat
  kind : Segment.Kind
  bytes : List UInt8

/-- Whether the segment may stand before the first word of a statement. -/
def Segment.Kind.isFiller : Segment.Kind → Bool
  | .blank | .lineComment | .blockComment _ => true
  | _ => false

def Segment.Kind.isSeparator : Segment.Kind → Bool
  | .separator => true
  | _ => false

/-- The fault of a segment that never ends. -/
def Segment.Kind.openFault? : Segment.Kind → Option GrammarFault
  | .quoted false => some .unterminatedQuote
  | .blockComment false => some .unterminatedComment
  | _ => none

/-- What a byte opens. -/
inductive Segment.Opening where
  | quote (closing : UInt8) (escapes : Bool)
  | line
  | block
  | separator
  | placeholder
  | blank
  | plain

/-- The blanks of ASCII. -/
def Segment.blanks : List Char := [' ', '\t', '\n', '\x0c', '\r']

/-- What a byte opens when `next` follows it. -/
def Segment.opening (byte : UInt8) (next : Option UInt8) : Segment.Opening :=
  if byte = '\''.toUInt8 then .quote byte true
  else if byte = '"'.toUInt8 ∨ byte = '\x60'.toUInt8 then .quote byte false
  else if byte = '-'.toUInt8 ∧ next = some '-'.toUInt8 then .line
  else if byte = '/'.toUInt8 ∧ next = some '*'.toUInt8 then .block
  else if byte = ';'.toUInt8 then .separator
  else if byte = '?'.toUInt8 then .placeholder
  else if byte ∈ Segment.blanks.map Char.toUInt8 then .blank
  else .plain

/-! ## Where a segment ends -/

section

variable (rest : List UInt8)

/-- What a run takes up to its closing byte, and whether it has one; without one it takes all of the
text. Where backslashes escape, the byte after one is passed over. -/
inductive Segment.Run (closing : UInt8) (escapes : Bool) : Bool → List UInt8 → Prop where
  | unended : rest = [] → Segment.Run closing escapes false []
  | ended : (escapes = true → closing ≠ '\\'.toUInt8) →
      Segment.Run closing escapes true [closing]
  | dangling : escapes = true → rest = [] → Segment.Run closing escapes false ['\\'.toUInt8]
  | escaped {closed tail} (byte : UInt8) : escapes = true →
      Segment.Run closing escapes closed tail →
      Segment.Run closing escapes closed ('\\'.toUInt8 :: byte :: tail)
  | byte {closed tail} {byte : UInt8} : (escapes = true → byte ≠ '\\'.toUInt8) → byte ≠ closing →
      Segment.Run closing escapes closed tail → Segment.Run closing escapes closed (byte :: tail)

/-- What a block comment takes when `depth` further comments are open inside it, and whether it is
closed. -/
inductive Segment.Comment : Nat → Bool → List UInt8 → Prop where
  | unended (depth : Nat) : rest = [] → Segment.Comment depth false []
  | ended : Segment.Comment 0 true ['*'.toUInt8, '/'.toUInt8]
  | inner {depth closed tail} : Segment.Comment (depth + 1) closed tail →
      Segment.Comment depth closed ('/'.toUInt8 :: '*'.toUInt8 :: tail)
  | outer {depth closed tail} : Segment.Comment depth closed tail →
      Segment.Comment (depth + 1) closed ('*'.toUInt8 :: '/'.toUInt8 :: tail)
  | byte {depth closed tail} {byte : UInt8} :
      (byte = '/'.toUInt8 → (tail ++ rest).head? ≠ some '*'.toUInt8) →
      (byte = '*'.toUInt8 → (tail ++ rest).head? ≠ some '/'.toUInt8) →
      Segment.Comment depth closed tail → Segment.Comment depth closed (byte :: tail)

/-- The kind of a segment, and what it takes after its first byte. -/
inductive Segment.Completes : Segment.Opening → Segment.Kind → List UInt8 → Prop where
  | quote {closing escapes closed tail} : Segment.Run rest closing escapes closed tail →
      Segment.Completes (.quote closing escapes) (.quoted closed) tail
  | line {ended tail} : Segment.Run rest '\n'.toUInt8 false ended tail →
      Segment.Completes .line .lineComment ('-'.toUInt8 :: tail)
  | block {closed tail} : Segment.Comment rest 0 closed tail →
      Segment.Completes .block (.blockComment closed) ('*'.toUInt8 :: tail)
  | separator : Segment.Completes .separator .separator []
  | placeholder : Segment.Completes .placeholder .placeholder []
  | blank : Segment.Completes .blank .blank []
  | plain : Segment.Completes .plain .plain []

end

/-- The segments are the cut of a text whose first byte is at the position. -/
inductive Segment.Cuts : Nat → List UInt8 → List Segment → Prop where
  | nil (position : Nat) : Segment.Cuts position [] []
  | cons {position text byte tail rest kind segments} : text = byte :: (tail ++ rest) →
      Segment.Completes rest (Segment.opening byte (tail ++ rest).head?) kind tail →
      Segment.Cuts (position + (tail.length + 1)) rest segments →
      Segment.Cuts position text (⟨position, kind, byte :: tail⟩ :: segments)

/-! ## There is one cut -/

/-- Two runs from one place are the same: where the first closing mark stands that counts is decided
by the bytes up to it. -/
theorem Segment.Run.unique {closing : UInt8} {escapes closed closed' : Bool}
    {tail tail' rest rest' : List UInt8} (run : Segment.Run rest closing escapes closed tail)
    (run' : Segment.Run rest' closing escapes closed' tail')
    (same : tail ++ rest = tail' ++ rest') : closed = closed' ∧ tail = tail' := by
  induction run generalizing closed' tail' with
  | unended none =>
    subst none
    obtain ⟨rfl, rfl⟩ := List.append_eq_nil_iff.mp same.symm
    cases run'
    exact ⟨rfl, rfl⟩
  | ended plain =>
    cases run' with
    | unended none => simp [none] at same
    | ended => exact ⟨rfl, rfl⟩
    | dangling escape _ => exact absurd (List.cons.inj same).1 (plain escape)
    | escaped _ escape _ => exact absurd (List.cons.inj same).1 (plain escape)
    | byte _ other _ => exact absurd (List.cons.inj same).1.symm other
  | dangling escape none =>
    subst none
    cases run' with
    | unended none => simp [none] at same
    | ended plain => exact absurd (List.cons.inj same).1.symm (plain escape)
    | dangling => exact ⟨rfl, rfl⟩
    | escaped => simp at same
    | byte plain _ _ => exact absurd (List.cons.inj same).1.symm (plain escape)
  | escaped byte escape _ ih =>
    cases run' with
    | unended none => simp [none] at same
    | ended plain => exact absurd (List.cons.inj same).1.symm (plain escape)
    | dangling _ none => simp [none] at same
    | escaped _ _ inner =>
      obtain ⟨next, same⟩ := List.cons.inj (List.cons.inj same).2
      obtain ⟨rfl, rfl⟩ := ih inner same
      exact ⟨rfl, by rw [next]⟩
    | byte plain _ _ => exact absurd (List.cons.inj same).1.symm (plain escape)
  | byte plain other _ ih =>
    cases run' with
    | unended none => simp [none] at same
    | ended => exact absurd (List.cons.inj same).1 other
    | dangling escape _ => exact absurd (List.cons.inj same).1 (plain escape)
    | escaped _ escape _ => exact absurd (List.cons.inj same).1 (plain escape)
    | byte _ _ inner =>
      obtain ⟨first, same⟩ := List.cons.inj same
      obtain ⟨rfl, rfl⟩ := ih inner same
      exact ⟨rfl, by rw [first]⟩

/-- Two comments from one place, opened equally deep, are the same. -/
theorem Segment.Comment.unique {depth : Nat} {closed closed' : Bool}
    {tail tail' rest rest' : List UInt8} (comment : Segment.Comment rest depth closed tail)
    (comment' : Segment.Comment rest' depth closed' tail')
    (same : tail ++ rest = tail' ++ rest') : closed = closed' ∧ tail = tail' := by
  induction comment generalizing closed' tail' with
  | unended _ none =>
    subst none
    obtain ⟨rfl, rfl⟩ := List.append_eq_nil_iff.mp same.symm
    cases comment'
    exact ⟨rfl, rfl⟩
  | ended =>
    cases comment' with
    | unended _ none => simp [none] at same
    | ended => exact ⟨rfl, rfl⟩
    | inner => exact absurd (List.cons.inj same).1 (by decide)
    | byte _ star _ =>
      obtain ⟨first, same⟩ := List.cons.inj same
      exact (star first.symm (congrArg List.head? same.symm)).elim
  | inner _ ih =>
    cases comment' with
    | unended _ none => simp [none] at same
    | ended => exact absurd (List.cons.inj same).1 (by decide)
    | inner inside =>
      obtain ⟨rfl, rfl⟩ := ih inside (List.cons.inj (List.cons.inj same).2).2
      exact ⟨rfl, rfl⟩
    | outer => exact absurd (List.cons.inj same).1 (by decide)
    | byte slash _ _ =>
      obtain ⟨first, same⟩ := List.cons.inj same
      exact (slash first.symm (congrArg List.head? same.symm)).elim
  | outer _ ih =>
    cases comment' with
    | unended _ none => simp [none] at same
    | inner => exact absurd (List.cons.inj same).1 (by decide)
    | outer inside =>
      obtain ⟨rfl, rfl⟩ := ih inside (List.cons.inj (List.cons.inj same).2).2
      exact ⟨rfl, rfl⟩
    | byte _ star _ =>
      obtain ⟨first, same⟩ := List.cons.inj same
      exact (star first.symm (congrArg List.head? same.symm)).elim
  | byte slash star _ ih =>
    cases comment' with
    | unended _ none => simp [none] at same
    | ended =>
      obtain ⟨first, same⟩ := List.cons.inj same
      exact (star first (congrArg List.head? same)).elim
    | inner =>
      obtain ⟨first, same⟩ := List.cons.inj same
      exact (slash first (congrArg List.head? same)).elim
    | outer =>
      obtain ⟨first, same⟩ := List.cons.inj same
      exact (star first (congrArg List.head? same)).elim
    | byte _ _ inside =>
      obtain ⟨first, same⟩ := List.cons.inj same
      obtain ⟨rfl, rfl⟩ := ih inside same
      exact ⟨rfl, by rw [first]⟩

/-- What an opening is completed to is decided by the bytes after it. -/
theorem Segment.Completes.unique {opening : Segment.Opening} {kind kind' : Segment.Kind}
    {tail tail' rest rest' : List UInt8} (first : Segment.Completes rest opening kind tail)
    (second : Segment.Completes rest' opening kind' tail')
    (same : tail ++ rest = tail' ++ rest') : kind = kind' ∧ tail = tail' := by
  cases first with
  | quote run =>
    cases second with
    | quote run' =>
      obtain ⟨rfl, rfl⟩ := run.unique run' same
      exact ⟨rfl, rfl⟩
  | line run =>
    cases second with
    | line run' =>
      obtain ⟨_, rfl⟩ := run.unique run' (List.cons.inj same).2
      exact ⟨rfl, rfl⟩
  | block comment =>
    cases second with
    | block comment' =>
      obtain ⟨rfl, rfl⟩ := comment.unique comment' (List.cons.inj same).2
      exact ⟨rfl, rfl⟩
  | separator => cases second; exact ⟨rfl, rfl⟩
  | placeholder => cases second; exact ⟨rfl, rfl⟩
  | blank => cases second; exact ⟨rfl, rfl⟩
  | plain => cases second; exact ⟨rfl, rfl⟩

/-- A text has at most one cut, by induction along the text: the kind of each segment is decided by
its first bytes, and its end by those after them. -/
theorem Segment.Cuts.unique {position : Nat} {text : List UInt8} {segments segments' : List Segment}
    (cut : Segment.Cuts position text segments) (cut' : Segment.Cuts position text segments') :
    segments = segments' := by
  induction cut generalizing segments' with
  | nil =>
    cases cut' with
    | nil => rfl
    | cons whole => cases whole
  | cons whole completes _ ih =>
    cases cut' with
    | nil => cases whole
    | cons whole' completes' after =>
      obtain ⟨rfl, same⟩ := List.cons.inj (whole.symm.trans whole')
      rw [← same] at completes'
      obtain ⟨rfl, rfl⟩ := completes.unique completes' same
      obtain rfl := List.append_cancel_left same
      rw [ih after]

theorem Segment.Cuts.le_start {position : Nat} {text : List UInt8} {segments : List Segment}
    (cut : Segment.Cuts position text segments) {s : Segment} (member : s ∈ segments) :
    position ≤ s.start := by
  induction cut with
  | nil => cases member
  | cons _ _ _ ih =>
    rcases List.mem_cons.mp member with rfl | later
    · exact Nat.le_refl _
    · have := ih later
      omega

end SqlDriver
