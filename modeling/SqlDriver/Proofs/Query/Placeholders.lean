import SqlDriver.Proofs.Query.Scanner
import SqlDriver.Proofs.Query.Words

/-!
What reading a query text makes of it. The question marks outside of quotes and comments are its
placeholders; the canonical text has the name of a parameter in the place of each of them, in order,
and every other byte as it was.

The places are told of the bytes of the text and of its cut, apart from the tokens. A placeholder is
a segment of its own, so it can be followed through the cut, where the proofs go.
-/

namespace SqlDriver

/-! ## Question marks outside of quotes and comments -/

/-- Whether the bytes of a segment stand outside of quotes and comments. -/
def Segment.Kind.isBare : Segment.Kind → Bool
  | .quoted _ | .lineComment | .blockComment _ => false
  | .separator | .placeholder | .blank | .plain => true

def Segment.Kind.isPlaceholder : Segment.Kind → Bool
  | .placeholder => true
  | _ => false

/-- Whether the byte at a position of the text is one of the segment's. -/
def Segment.covers (s : Segment) (p : Nat) : Bool :=
  s.start ≤ p && p < s.start + s.bytes.length

/-- Whether the byte at a position of the text stands outside of quotes and comments. -/
def Grammar.isBareAt (cut : List Segment) (p : Nat) : Bool :=
  cut.any fun s => s.kind.isBare && s.covers p

/-- The positions of the question marks that stand outside of quotes and comments, in a text whose
first byte is at the position. -/
def Grammar.sites (cut : List Segment) (position : Nat) (text : List UInt8) : List Nat :=
  ((text.zipIdx position).filter fun entry =>
    entry.1 = '?'.toUInt8 && Grammar.isBareAt cut entry.2).map Prod.snd

/-- A text, whose first byte is at the position, with other bytes in the place of those at the
marked positions. -/
def Grammar.replace (marks : List (Nat × List UInt8)) (position : Nat) (text : List UInt8) :
    List UInt8 :=
  (text.zipIdx position).flatMap fun entry => (marks.lookup entry.2).getD [entry.1]

/-- The positions of the segments that are placeholders. -/
def Segment.placeholders (cut : List Segment) : List Nat :=
  (cut.filter fun s => s.kind.isPlaceholder).map Segment.start

theorem Segment.opening_question (next : Option UInt8) :
    Segment.opening '?'.toUInt8 next = .placeholder := by
  unfold Segment.opening
  rw [if_neg (by decide), if_neg (by decide), if_neg (fun both => absurd both.1 (by decide)),
    if_neg (fun both => absurd both.1 (by decide)), if_neg (by decide), if_pos rfl]

/-- Only a question mark is a placeholder. -/
theorem Segment.eq_question_of_opening {b : UInt8} {next : Option UInt8}
    (opens : Segment.opening b next = .placeholder) : b = '?'.toUInt8 := by
  unfold Segment.opening at opens
  split at opens
  · cases opens
  split at opens
  · cases opens
  split at opens
  · cases opens
  split at opens
  · cases opens
  split at opens
  · cases opens
  split at opens
  · assumption
  split at opens <;> cases opens

/-- A segment outside of quotes and comments is one byte, and a question mark only as a
placeholder. -/
theorem Segment.Completes.bare {b : UInt8} {tail rest : List UInt8} {kind : Segment.Kind}
    (completes : Segment.Completes rest (Segment.opening b (tail ++ rest).head?) kind tail)
    (bare : kind.isBare = true) :
    tail = [] ∧ (b = '?'.toUInt8 ↔ kind.isPlaceholder = true) := by
  have question : b = '?'.toUInt8 → Segment.opening b (tail ++ rest).head? = .placeholder := by
    rintro rfl
    exact Segment.opening_question _
  generalize opens : Segment.opening b (tail ++ rest).head? = opening at completes question
  cases completes with
  | quote | line | block => cases bare
  | placeholder => exact ⟨rfl, iff_of_true (Segment.eq_question_of_opening opens) rfl⟩
  | separator | blank | plain =>
    exact ⟨rfl, iff_of_false (fun same => nomatch question same) Bool.false_ne_true⟩

/-! ## Through a cut -/

section

variable {s : Segment} {cut : List Segment} {position : Nat} {front text : List UInt8}

/-- The question marks of a text are those of a front part, and those of the rest at their places.
-/
theorem Grammar.sites_append :
    Grammar.sites cut position (front ++ text) =
      Grammar.sites cut position front ++ Grammar.sites cut (position + front.length) text := by
  rw [Grammar.sites, List.zipIdx_append, List.filter_append, List.map_append]
  rfl

theorem Grammar.sites_congr {cut' : List Segment}
    (same : ∀ p, position ≤ p → p < position + text.length →
      Grammar.isBareAt cut p = Grammar.isBareAt cut' p) :
    Grammar.sites cut position text = Grammar.sites cut' position text := by
  have kept : ∀ entry ∈ text.zipIdx position,
      (entry.1 = '?'.toUInt8 && Grammar.isBareAt cut entry.2) =
        (entry.1 = '?'.toUInt8 && Grammar.isBareAt cut' entry.2) := by
    rintro ⟨b, p⟩ member
    obtain ⟨low, high, -⟩ := List.mem_zipIdx member
    rw [same p low high]
  exact congrArg (List.map Prod.snd) (List.filter_congr kept)

/-- The first segment alone decides on its own bytes, the others on theirs. -/
theorem Grammar.isBareAt_cons_of_covers (later : ∀ t ∈ cut, s.start + s.bytes.length ≤ t.start)
    {p : Nat} (covers : s.covers p = true) : Grammar.isBareAt (s :: cut) p = s.kind.isBare := by
  have others : Grammar.isBareAt cut p = false := by
    rw [Grammar.isBareAt, List.any_eq_false]
    intro t member
    have := later t member
    simp only [Segment.covers, Bool.and_eq_true, decide_eq_true_eq] at covers ⊢
    omega
  rw [Grammar.isBareAt, List.any_cons, covers, Bool.and_true]
  exact (congrArg (s.kind.isBare || ·) others).trans (Bool.or_false _)

theorem Grammar.isBareAt_cons_of_not_covers {p : Nat} (covers : s.covers p = false) :
    Grammar.isBareAt (s :: cut) p = Grammar.isBareAt cut p := by
  rw [Grammar.isBareAt, List.any_cons, covers, Bool.and_false, Bool.false_or]
  rfl

end

/-- The question marks outside of quotes and comments are the placeholders of the cut. The one side
looks at single bytes, and the other one at whole segments. -/
theorem Segment.Cuts.sites {position : Nat} {text : List UInt8} {cut : List Segment}
    (cuts : Segment.Cuts position text cut) :
    Grammar.sites cut position text = Segment.placeholders cut := by
  induction cuts with
  | nil => rfl
  | @cons position text b tail rest kind cut whole completes after ih =>
    have later : ∀ t ∈ cut, position + (b :: tail).length ≤ t.start := fun t => after.le_start
    have split : Grammar.sites (⟨position, kind, b :: tail⟩ :: cut) position text =
        Grammar.sites (⟨position, kind, b :: tail⟩ :: cut) position (b :: tail) ++
          Segment.placeholders cut := by
      rw [whole, ← List.cons_append, Grammar.sites_append, ← ih]
      congr 1
      refine Grammar.sites_congr fun p low _ => Grammar.isBareAt_cons_of_not_covers ?_
      simp only [Segment.covers, Bool.and_eq_false_iff, decide_eq_false_iff_not]
      omega
    rw [split]
    cases bare : kind.isBare with
    | true =>
      obtain ⟨rfl, question⟩ := completes.bare bare
      have here : Grammar.isBareAt (⟨position, kind, [b]⟩ :: cut) position = true := by
        rw [Grammar.isBareAt_cons_of_covers later (by simp [Segment.covers])]
        exact bare
      simp only [Grammar.sites, List.zipIdx_singleton, Segment.placeholders, List.filter_cons, here,
        Bool.and_true, decide_eq_true_eq, question, List.filter_nil]
      split <;> rfl
    | false =>
      have none : Grammar.sites (⟨position, kind, b :: tail⟩ :: cut) position (b :: tail) = [] := by
        rw [Grammar.sites, List.map_eq_nil_iff, List.filter_eq_nil_iff]
        rintro ⟨c, p⟩ member
        obtain ⟨low, high, -⟩ := List.mem_zipIdx member
        have covers : Segment.covers ⟨position, kind, b :: tail⟩ p = true := by
          simp only [Segment.covers, Bool.and_eq_true, decide_eq_true_eq]
          exact ⟨low, high⟩
        simp only [Grammar.isBareAt_cons_of_covers later covers, bare, Bool.and_false]
        exact Bool.false_ne_true
      have other : kind.isPlaceholder = false := by
        cases kind with
        | placeholder => cases bare
        | _ => rfl
      rw [none, Segment.placeholders, Segment.placeholders,
        List.filter_cons_of_neg (by simp [other])]
      rfl

/-! ## Names in the place of placeholders -/

section

variable {marks : List (Nat × List UInt8)} {position : Nat} {bytes text : List UInt8}

theorem Grammar.replace_cons (b : UInt8) :
    Grammar.replace marks position (b :: text) =
      (marks.lookup position).getD [b] ++ Grammar.replace marks (position + 1) text := by
  rw [Grammar.replace, List.zipIdx_cons, List.flatMap_cons]
  rfl

/-- Bytes before all marks are copied, up to where the first one stands. -/
theorem Grammar.replace_copy (later : ∀ mark ∈ marks, position + bytes.length ≤ mark.1) :
    Grammar.replace marks position (bytes ++ text) =
      bytes ++ Grammar.replace marks (position + bytes.length) text := by
  induction bytes generalizing position with
  | nil => rfl
  | cons b bytes ih =>
    have further : ∀ mark ∈ marks, position + 1 + bytes.length ≤ mark.1 := by
      intro mark member
      have := later mark member
      rw [List.length_cons] at this
      omega
    have unmarked : marks.lookup position = none := by
      rw [List.lookup_eq_none_iff]
      intro mark member
      have := further mark member
      rw [bne_iff_ne]
      omega
    rw [List.cons_append, Grammar.replace_cons, unmarked, ih further, List.length_cons,
      Nat.add_comm bytes.length 1, ← Nat.add_assoc]
    rfl

/-- A mark is of no account after its position, so marks that were replaced may be forgotten. -/
theorem Grammar.replace_past {mark : Nat × List UInt8} (past : mark.1 < position) :
    Grammar.replace (mark :: marks) position text = Grammar.replace marks position text := by
  refine List.flatMap_congr fun entry member => ?_
  have low := List.le_snd_of_mem_zipIdx member
  have apart : (entry.2 == mark.1) = false := beq_false_of_ne (by omega)
  rw [List.lookup_cons, apart]

theorem Grammar.replace_mark (name : List UInt8) (b : UInt8) :
    Grammar.replace ((position, name) :: marks) position (b :: text) =
      name ++ Grammar.replace marks (position + 1) text := by
  rw [Grammar.replace_cons, List.lookup_cons_self, Option.getD_some,
    Grammar.replace_past (show position < position + 1 by omega)]

end

/-- A token that is no placeholder holds none, even if there are question marks in it. -/
theorem Token.placeholders_segments {token : Token} (other : token ≠ .placeholder) (position : Nat)
    (cut : List Segment) :
    Segment.placeholders (token.segments position ++ cut) = Segment.placeholders cut := by
  have plains (position : Nat) (bytes : List UInt8) :
      Segment.placeholders (Segment.plains position bytes ++ cut) = Segment.placeholders cut := by
    induction bytes generalizing position with
    | nil => rfl
    | cons b bytes ih =>
      rw [Segment.plains, List.cons_append, Segment.placeholders,
        List.filter_cons_of_neg Bool.false_ne_true]
      exact ih (position + 1)
  cases token with
  | placeholder => exact absurd rfl other
  | word chars => exact plains position _
  | other char => exact plains position _
  | space | separator | quoted | lineComment | blockComment => rfl

theorem Token.count_placeholder (position : Nat) (tokens : List Token) :
    tokens.count .placeholder = (Segment.placeholders (Token.cut position tokens)).length := by
  induction tokens generalizing position with
  | nil => rfl
  | cons token rest ih =>
    rw [Token.cut]
    by_cases here : token = .placeholder
    · subst here
      rw [List.count_cons_self, ih]
      rfl
    · rw [List.count_cons_of_ne here, ih, Token.placeholders_segments here]

theorem Token.le_of_mem_placeholders {position p : Nat} {tokens : List Token}
    (member : p ∈ Segment.placeholders (Token.cut position tokens)) : position ≤ p := by
  induction tokens generalizing position with
  | nil => cases member
  | cons token rest ih =>
    rw [Token.cut] at member
    by_cases here : token = .placeholder
    · subst here
      rcases List.mem_cons.mp member with rfl | later
      · exact Nat.le_refl _
      · exact Nat.le_of_add_right_le (ih later)
    · rw [Token.placeholders_segments here] at member
      exact Nat.le_of_add_right_le (ih member)

/-- The names of `count` parameters, from a position on that is counted from one. -/
def Parameter.nameBytes (stem : List Char) (position count : Nat) : List (List UInt8) :=
  (List.range' position count).map fun i => utf8Bytes (Parameter.name stem i)

theorem Parameter.substitute_cons {token : Token} (other : token ≠ .placeholder)
    (stem : List Char) (count : Nat) (rest : List Token) :
    Parameter.substitute stem count (token :: rest) =
      token.lexeme ++ Parameter.substitute stem count rest := by
  cases token with
  | placeholder => exact absurd rfl other
  | _ => rfl

/-- Substituting names into tokens replaces the placeholders of their cut: what the parser does with
tokens is a replacement of bytes at the places of the question marks. -/
theorem Parameter.utf8Bytes_substitute (stem : List Char) (position count : Nat)
    (tokens : List Token) :
    utf8Bytes (Parameter.substitute stem count tokens) =
      Grammar.replace ((Segment.placeholders (Token.cut position tokens)).zip
        (Parameter.nameBytes stem (count + 1) (tokens.count .placeholder))) position
        (utf8Bytes (tokens.flatMap Token.lexeme)) := by
  induction tokens generalizing position count with
  | nil => rfl
  | cons token rest ih =>
    rw [Token.cut, List.flatMap_cons, utf8Bytes_append]
    by_cases here : token = .placeholder
    · subst here
      rw [Parameter.substitute, utf8Bytes_append, List.count_cons_self, ih (position + 1)]
      exact (Grammar.replace_mark _ _).symm
    · rw [Parameter.substitute_cons here, utf8Bytes_append, List.count_cons_of_ne here,
        Token.placeholders_segments here, Grammar.replace_copy, ih, utf8Length_eq_length]
      intro mark member
      rw [← utf8Length_eq_length]
      exact Token.le_of_mem_placeholders (List.of_mem_zip member).1

theorem Parameter.map_textBytes_names (stem : List Char) (count : Nat) :
    (Parameter.names stem count).map textBytes = Parameter.nameBytes stem 1 count := by
  rw [Parameter.names, Parameter.nameBytes, List.map_map, List.range'_eq_map_range, List.map_map]
  refine List.map_congr_left fun i _ => ?_
  rw [Function.comp_apply, Function.comp_apply, Nat.add_comm 1 i]
  exact (textBytes_eq_utf8Bytes _ _).mpr rfl

/-! ## Reading a text -/

/-- What a text that is accepted is rewritten to, and what its descriptor says besides. -/
theorem Descriptor.parse_ok {mode : ReadingMode} {text : String} {d : Descriptor}
    (parsed : Descriptor.parse mode text = .ok d) :
    let tokens := Token.scan text.toList
    let stem := Parameter.stem text.toList
    d.raw = text ∧ d.canonical = String.ofList (Parameter.substitute stem 0 tokens) ∧
      d.parameters = Parameter.names stem (tokens.count .placeholder) := by
  unfold Descriptor.parse at parsed
  dsimp only at parsed
  split at parsed
  · cases parsed
  · cases parsed
  · cases parsed
    exact ⟨rfl, rfl, rfl⟩

/-- The bytes of the rewritten text, by the places of the question marks in the cut. Neither tokens
nor characters are mentioned, so this can be held against the text itself. -/
theorem Descriptor.parse_bytes {mode : ReadingMode} {text : String} {d : Descriptor}
    (parsed : Descriptor.parse mode text = .ok d) :
    ∃ cut, Segment.Cuts 0 (textBytes text) cut ∧
      let sites := Grammar.sites cut 0 (textBytes text)
      let names := Parameter.nameBytes (Parameter.stem text.toList) 1 sites.length
      d.parameters.map textBytes = names ∧
        textBytes d.canonical = Grammar.replace (sites.zip names) 0 (textBytes text) := by
  obtain ⟨-, canonical, parameters⟩ := Descriptor.parse_ok parsed
  have cuts := Token.cuts_scan 0 text.toList
  rw [← textBytes_eq] at cuts
  refine ⟨_, cuts, ?_⟩
  dsimp only
  rw [cuts.sites, ← Token.count_placeholder, parameters, Parameter.map_textBytes_names]
  refine ⟨rfl, ?_⟩
  rw [(textBytes_eq_utf8Bytes _ _).mpr canonical, Parameter.utf8Bytes_substitute _ 0,
    Token.flatMap_lexeme_scan, textBytes_eq]

/-- Reading a text touches its placeholders and nothing else. A text has one cut; there are as many
parameters as question marks outside of its quotes and comments, the canonical text has the name of
the parameter in the place of each of these, in order, and all other bytes as they were, and the raw
text is kept. -/
theorem Descriptor.parse_replaces_placeholders {mode : ReadingMode} {text : String} {d : Descriptor}
    (parsed : Descriptor.parse mode text = .ok d) :
    ∃ cut, Segment.Cuts 0 (textBytes text) cut ∧
      (∀ other, Segment.Cuts 0 (textBytes text) other → other = cut) ∧
      let sites := Grammar.sites cut 0 (textBytes text)
      d.parameters.length = sites.length ∧
        textBytes d.canonical =
          Grammar.replace (sites.zip (d.parameters.map textBytes)) 0 (textBytes text) ∧
        d.raw = text := by
  obtain ⟨cut, cuts, names, canonical⟩ := Descriptor.parse_bytes parsed
  have count := congrArg List.length names
  rw [List.length_map, Parameter.nameBytes, List.length_map, List.length_range'] at count
  have raw := (Descriptor.parse_ok parsed).1
  refine ⟨cut, cuts, fun other cuts' => cuts'.unique cuts, count, ?_, raw⟩
  rw [names]
  exact canonical

/-- Question marks in a literal, a comment and outside of both, next to characters of more than one
byte. -/
theorem Descriptor.parse_replaces_two_of_four :
    let text := "SELECT 'é\\'?', ? -- ?\n+ ?1"
    ∃ d, Descriptor.parse .strict text = .ok d ∧
      d.canonical = "SELECT 'é\\'?', $jp1 -- ?\n+ $jp21" ∧
      ∃ cut, Segment.Cuts 0 (textBytes text) cut ∧
        Grammar.sites cut 0 (textBytes text) = [16, 25] ∧
        textBytes d.canonical =
          Grammar.replace [(16, textBytes "$jp1"), (25, textBytes "$jp2")] 0 (textBytes text) := by
  intro text
  have parsed : Descriptor.parse .strict text = .ok ⟨text, "SELECT 'é\\'?', $jp1 -- ?\n+ $jp21",
      .data, ["$jp1", "$jp2"], [.select]⟩ := by
    decide +kernel
  obtain ⟨cut, cuts, unique, -, canonical, -⟩ := Descriptor.parse_replaces_placeholders parsed
  have tokens : Segment.Cuts 0 (textBytes text) (Token.cut 0 (Token.scan text.toList)) := by
    rw [textBytes_eq]
    exact Token.cuts_scan 0 text.toList
  have sites : Grammar.sites cut 0 (textBytes text) = [16, 25] := by
    rw [← unique _ tokens]
    decide +kernel
  rw [sites] at canonical
  exact ⟨_, parsed, rfl, cut, cuts, sites, canonical⟩

end SqlDriver
