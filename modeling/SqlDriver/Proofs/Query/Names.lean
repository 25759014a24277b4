import Mathlib.Data.List.Nodup
import SqlDriver.Proofs.Query.Placeholders
import SqlDriver.Proofs.Query.Stem

/-!
Names that cannot be mistaken for a part of the text. All names of a text begin with its stem, and
the stem begins with a character that neither it nor a decimal has a second time. So an occurrence
of the stem in the rewritten text that is not where a name was put would lie within the copied text,
across no seam; and the text does not hold the stem. The names can therefore be found again, and the
text be read back.
-/

namespace SqlDriver

/-! ## Occurrences -/

/-- The positions at which a part stands in a text. -/
def Grammar.occurrences (part text : List UInt8) : List Nat :=
  (List.range text.length).filter fun p => part.isPrefixOf (text.drop p)

/-- The decimal form of a number. -/
def Parameter.decimal (n : Nat) : List UInt8 := textBytes (toString n)

/-- Puts question marks back for the names in a text, when `count` of them stand before it: from
left to right, the next occurrence of the stem together with the decimal that follows it, which is
that of the next number. Where another decimal follows, nothing is put back. -/
def Parameter.restore? (stem : List UInt8) (count : Nat) : List UInt8 → Option (List UInt8)
  | [] => some []
  | b :: rest =>
    if stem.isPrefixOf (b :: rest) then
      let name := stem ++ Parameter.decimal (count + 1)
      if name.isPrefixOf (b :: rest) then
        (Parameter.restore? stem (count + 1) (rest.drop (name.length - 1))).map ('?'.toUInt8 :: ·)
      else none
    else (Parameter.restore? stem count rest).map (b :: ·)
termination_by text => text.length
decreasing_by
  · simp only [List.length_drop, List.length_cons]
    omega
  · simp

theorem Grammar.occurrences_cons (part : List UInt8) (b : UInt8) (text : List UInt8) :
    Grammar.occurrences part (b :: text) =
      (if part.isPrefixOf (b :: text) then [0] else []) ++
        (Grammar.occurrences part text).map (· + 1) := by
  have later : (List.map Nat.succ (List.range text.length)).filter
      (fun p => part.isPrefixOf ((b :: text).drop p)) =
        (Grammar.occurrences part text).map (· + 1) := by
    rw [List.filter_map]
    rfl
  rw [Grammar.occurrences, List.length_cons, List.range_succ_eq_map, List.filter_cons, later,
    List.drop_zero]
  split <;> rfl

/-- A part does not begin among bytes that are not its first, so all its occurrences are in what
comes after them. -/
theorem Grammar.occurrences_append {first : UInt8} {front : List UInt8} (apart : first ∉ front)
    (part text : List UInt8) :
    Grammar.occurrences (first :: part) (front ++ text) =
      (Grammar.occurrences (first :: part) text).map (· + front.length) := by
  induction front with
  | nil => simp
  | cons b front ih =>
    rw [List.mem_cons, not_or] at apart
    have elsewhere : ¬ (first :: part).isPrefixOf (b :: (front ++ text)) = true := by
      rw [List.isPrefixOf_iff_prefix, List.cons_prefix_cons]
      exact fun both => apart.1 both.1
    rw [List.cons_append, Grammar.occurrences_cons, if_neg elsewhere, ih apart.2, List.nil_append,
      List.map_map, List.length_cons]
    rfl

theorem Parameter.restore?_copy {stem : List UInt8} {b : UInt8} {text : List UInt8}
    (elsewhere : ¬ stem <+: b :: text) (count : Nat) :
    Parameter.restore? stem count (b :: text) =
      (Parameter.restore? stem count text).map (b :: ·) := by
  rw [Parameter.restore?, if_neg (mt List.isPrefixOf_iff_prefix.mp elsewhere)]

/-- Where a numbered name stands, the question mark is put back, and the next number is expected. -/
theorem Parameter.restore?_name (first : UInt8) (part : List UInt8) (count : Nat)
    (text : List UInt8) :
    Parameter.restore? (first :: part) count
        (first :: part ++ Parameter.decimal (count + 1) ++ text) =
      (Parameter.restore? (first :: part) (count + 1) text).map ('?'.toUInt8 :: ·) := by
  have stem : first :: part <+: first :: (part ++ Parameter.decimal (count + 1) ++ text) := by
    rw [List.append_assoc]
    exact List.prefix_append (first :: part) _
  have name : first :: part ++ Parameter.decimal (count + 1) <+:
      first :: (part ++ Parameter.decimal (count + 1) ++ text) :=
    List.prefix_append (first :: part ++ Parameter.decimal (count + 1)) _
  have after : (part ++ Parameter.decimal (count + 1) ++ text).drop
      ((first :: part ++ Parameter.decimal (count + 1)).length - 1) = text := by
    rw [List.cons_append, List.length_cons, Nat.add_sub_cancel, List.drop_left]
  rw [List.cons_append, List.cons_append, Parameter.restore?,
    if_pos (List.isPrefixOf_iff_prefix.mpr stem)]
  dsimp only
  rw [if_pos (List.isPrefixOf_iff_prefix.mpr name), after]

/-! ## Marks on question marks -/

/-- The marks stand on question marks of a text, whose first byte is at the position, in order. -/
inductive Grammar.Marked : Nat → List UInt8 → List (Nat × List UInt8) → Prop
  | nil (position : Nat) : Grammar.Marked position [] []
  | copy {position : Nat} {text : List UInt8} {marks : List (Nat × List UInt8)} (b : UInt8)
      (later : Grammar.Marked (position + 1) text marks) :
      Grammar.Marked position (b :: text) marks
  | mark {position : Nat} {text : List UInt8} {marks : List (Nat × List UInt8)}
      (name : List UInt8) (later : Grammar.Marked (position + 1) text marks) :
      Grammar.Marked position ('?'.toUInt8 :: text) ((position, name) :: marks)

/-- Names given to the question marks outside of quotes and comments mark just these. -/
theorem Grammar.marked_sites (cut : List Segment) (position : Nat) (text : List UInt8)
    (names : List (List UInt8)) (enough : names.length = (Grammar.sites cut position text).length) :
    Grammar.Marked position text ((Grammar.sites cut position text).zip names) := by
  induction text generalizing position names with
  | nil => exact .nil position
  | cons b text ih =>
    rw [Grammar.sites, List.zipIdx_cons, List.filter_cons] at enough ⊢
    split at enough
    · rename_i here
      rw [if_pos here]
      rw [Bool.and_eq_true, decide_eq_true_eq] at here
      obtain ⟨rfl, -⟩ := here
      rw [List.map_cons, List.length_cons] at enough
      obtain ⟨name, names, rfl⟩ := List.exists_cons_of_length_eq_add_one enough
      exact .mark name (ih (position + 1) names (Nat.succ.inj enough))
    · rename_i elsewhere
      rw [if_neg elsewhere]
      exact .copy b (ih (position + 1) names enough)

namespace Grammar.Marked

variable {position : Nat} {text : List UInt8} {marks : List (Nat × List UInt8)}

theorem le (marked : Grammar.Marked position text marks) {mark : Nat × List UInt8}
    (member : mark ∈ marks) : position ≤ mark.1 := by
  induction marked with
  | nil => cases member
  | copy b later ih => exact Nat.le_of_add_right_le (ih member)
  | mark name later ih =>
    rcases List.mem_cons.mp member with rfl | after
    · exact Nat.le_refl _
    · exact Nat.le_of_add_right_le (ih after)

theorem replace_cons (later : Grammar.Marked (position + 1) text marks) (b : UInt8)
    (rest : List UInt8) :
    Grammar.replace marks position (b :: rest) = b :: Grammar.replace marks (position + 1) rest :=
  @Grammar.replace_copy marks position [b] rest fun _ member => later.le member

variable {first : UInt8} {part : List UInt8}

/-- What does not hold the first byte of the names lies in no seam between a name and the text that
was copied. -/
theorem isPrefix_of_replace (marked : Grammar.Marked position text marks)
    (begin : ∀ mark ∈ marks, ∃ rest, mark.2 = first :: rest) (apart : first ∉ part)
    (front : part <+: Grammar.replace marks position text) : part <+: text := by
  induction marked generalizing part with
  | nil => exact front
  | copy b later ih =>
    rw [later.replace_cons] at front
    cases part with
    | nil => exact List.nil_prefix
    | cons c part =>
      obtain ⟨rfl, after⟩ := List.cons_prefix_cons.mp front
      rw [List.mem_cons, not_or] at apart
      exact List.cons_prefix_cons.mpr ⟨rfl, ih begin apart.2 after⟩
  | mark name later ih =>
    obtain ⟨rest, same⟩ := begin _ List.mem_cons_self
    rw [Grammar.replace_mark] at front
    cases part with
    | nil => exact List.nil_prefix
    | cons c part =>
      dsimp only at same
      rw [same, List.cons_append] at front
      obtain ⟨rfl, -⟩ := List.cons_prefix_cons.mp front
      exact absurd List.mem_cons_self apart

/-- No name begins at a byte that was copied, in a text that does not hold what the names begin
with. -/
theorem not_isPrefix_replace (later : Grammar.Marked (position + 1) text marks)
    (begin : ∀ mark ∈ marks, ∃ rest, mark.2 = first :: rest) (apart : first ∉ part) {b : UInt8}
    (absent : ¬ first :: part <:+: b :: text) :
    ¬ first :: part <+: b :: Grammar.replace marks (position + 1) text := by
  intro front
  obtain ⟨rfl, after⟩ := List.cons_prefix_cons.mp front
  have copied := later.isPrefix_of_replace begin apart after
  exact absent (List.cons_prefix_cons.mpr ⟨rfl, copied⟩).isInfix

end Grammar.Marked

/-! ## Numbered names -/

/-- The names that begin with a stem and go on with a number, `count` of them from a number on. -/
def Parameter.numbered (stem : List UInt8) (number count : Nat) : List (List UInt8) :=
  (List.range' number count).map fun i => stem ++ Parameter.decimal i

theorem Parameter.numbered_succ (stem : List UInt8) (number count : Nat) :
    Parameter.numbered stem number (count + 1) =
      (stem ++ Parameter.decimal number) :: Parameter.numbered stem (number + 1) count := by
  rw [Parameter.numbered, List.range'_succ, List.map_cons]
  rfl

theorem Parameter.decimal_eq (n : Nat) : Parameter.decimal n = utf8Bytes (Nat.toDigits 10 n) := by
  rw [Parameter.decimal, textBytes_eq_utf8Bytes]
  exact Nat.toString_eq_ofList_toDigits

theorem Parameter.dollar_not_mem_decimal (n : Nat) : '$'.toUInt8 ∉ Parameter.decimal n := by
  rw [Parameter.decimal_eq]
  intro member
  obtain ⟨c, digit, byte⟩ := List.mem_flatMap.mp member
  rw [toUInt8_mem_utf8EncodeChar (by decide)] at byte
  subst byte
  exact absurd (Nat.isDigit_of_mem_toDigits (by decide) (by decide) digit) (by decide)

/-- Different numbers are written differently, which is what keeps the names apart. -/
theorem Parameter.decimal_inj {m n : Nat} (same : Parameter.decimal m = Parameter.decimal n) :
    m = n := by
  rw [Parameter.decimal_eq n, Parameter.decimal, textBytes_eq_utf8Bytes,
    Nat.toString_eq_ofList_toDigits] at same
  have value := congrArg (fun text => Nat.ofDigitChars 10 text.toList 0) same
  simpa using value

/-- Names that are numbered one after the other are all different. -/
theorem Parameter.nodup_numbered (stem : List UInt8) (number count : Nat) :
    (Parameter.numbered stem number count).Nodup := by
  refine List.Nodup.map_on (fun m _ n _ same => ?_) List.nodup_range'
  exact Parameter.decimal_inj (List.append_cancel_left same)

/-- The names that a text is rewritten with, as bytes: the stem with the numbers from one on. -/
theorem Parameter.nameBytes_stem (text : List Char) (number count : Nat) :
    Parameter.nameBytes (Parameter.stem text) number count =
      Parameter.numbered (Parameter.stemBytes (Parameter.underscores text)) number count := by
  refine List.map_congr_left fun i _ => ?_
  rw [Parameter.decimal_eq]
  exact utf8Bytes_append _ _

/-- A dollar stands at the head of a stem and nowhere else in it, so two names do not overlap. -/
theorem Parameter.stemBytes_eq_cons (count : Nat) :
    ∃ part, Parameter.stemBytes count = '$'.toUInt8 :: part ∧ '$'.toUInt8 ∉ part := by
  refine ⟨utf8Bytes ('j' :: 'p' :: List.replicate count '_'), ?_, fun member => ?_⟩
  · rw [Parameter.stemBytes, Parameter.base, List.cons_append, utf8Bytes_cons,
      utf8EncodeChar_of_ascii (by decide)]
    rfl
  · obtain ⟨c, part, byte⟩ := List.mem_flatMap.mp member
    rw [toUInt8_mem_utf8EncodeChar (by decide)] at byte
    subst byte
    rcases List.mem_cons.mp part with j | part
    · exact absurd j (by decide)
    rcases List.mem_cons.mp part with p | underscore
    · exact absurd p (by decide)
    · exact absurd (List.eq_of_mem_replicate underscore) (by decide)

section

variable {part : List UInt8} {position count : Nat} {text : List UInt8}
  {marks : List (Nat × List UInt8)}

theorem Parameter.numbered_begin {first : UInt8}
    (named : marks.map Prod.snd = Parameter.numbered (first :: part) count marks.length) :
    ∀ mark ∈ marks, ∃ rest, mark.2 = first :: rest := by
  intro mark member
  have name := List.mem_map_of_mem (f := Prod.snd) member
  rw [named, Parameter.numbered] at name
  obtain ⟨i, -, same⟩ := List.mem_map.mp name
  exact ⟨part ++ Parameter.decimal i, same.symm⟩

/-- The stem stands where the names were put, behind what the text before became, and nowhere else:
no name begins at a byte that was copied, and no second one within a name. -/
theorem Grammar.Marked.occurrences (marked : Grammar.Marked position text marks)
    (apart : '$'.toUInt8 ∉ part) (absent : ¬ '$'.toUInt8 :: part <:+: text)
    (named : marks.map Prod.snd =
      Parameter.numbered ('$'.toUInt8 :: part) (count + 1) marks.length) :
    Grammar.occurrences ('$'.toUInt8 :: part) (Grammar.replace marks position text) =
      marks.map fun mark =>
        (Grammar.replace marks position (text.take (mark.1 - position))).length := by
  induction marked generalizing count with
  | nil => rfl
  | @copy position text marks b later ih =>
    have elsewhere :=
      later.not_isPrefix_replace (Parameter.numbered_begin named) apart absent
    rw [later.replace_cons, Grammar.occurrences_cons,
      if_neg (mt List.isPrefixOf_iff_prefix.mp elsewhere), ih (mt List.infix_cons absent) named,
      List.nil_append, List.map_map]
    refine List.map_congr_left fun mark member => ?_
    have after := later.le member
    rw [Function.comp_apply, show mark.1 - position = mark.1 - (position + 1) + 1 by omega,
      List.take_succ_cons, later.replace_cons, List.length_cons]
  | @mark position text marks name later ih =>
    rw [List.map_cons, List.length_cons, Parameter.numbered_succ, List.cons.injEq] at named
    obtain ⟨rfl, named⟩ := named
    have tail : '$'.toUInt8 ∉ part ++ Parameter.decimal (count + 1) := by
      rw [List.mem_append, not_or]
      exact ⟨apart, Parameter.dollar_not_mem_decimal _⟩
    have here : '$'.toUInt8 :: part <+: '$'.toUInt8 :: (part ++ Parameter.decimal (count + 1) ++
        Grammar.replace marks (position + 1) text) := by
      rw [List.append_assoc]
      exact List.prefix_append ('$'.toUInt8 :: part) _
    rw [Grammar.replace_mark, List.cons_append, List.cons_append, Grammar.occurrences_cons,
      if_pos (List.isPrefixOf_iff_prefix.mpr here), Grammar.occurrences_append tail,
      ih (mt List.infix_cons absent) named, List.map_map, List.map_map, List.map_cons, Nat.sub_self,
      List.take_zero]
    refine congrArg (0 :: ·) (List.map_congr_left fun mark member => ?_)
    have after := later.le member
    rw [Function.comp_apply, Function.comp_apply,
      show mark.1 - position = mark.1 - (position + 1) + 1 by omega, List.take_succ_cons,
      Grammar.replace_mark, List.length_append, List.length_append, List.length_cons,
      List.length_append]
    omega

/-- Putting question marks back undoes the replacement. That the stem does not occur in the text is
needed here: otherwise a part of the text would be taken for a name. -/
theorem Grammar.Marked.restore? (marked : Grammar.Marked position text marks)
    (apart : '$'.toUInt8 ∉ part) (absent : ¬ '$'.toUInt8 :: part <:+: text)
    (named : marks.map Prod.snd =
      Parameter.numbered ('$'.toUInt8 :: part) (count + 1) marks.length) :
    Parameter.restore? ('$'.toUInt8 :: part) count (Grammar.replace marks position text) =
      some text := by
  induction marked generalizing count with
  | nil => rw [Grammar.replace, List.zipIdx_nil, List.flatMap_nil, Parameter.restore?]
  | @copy position text marks b later ih =>
    have elsewhere :=
      later.not_isPrefix_replace (Parameter.numbered_begin named) apart absent
    rw [later.replace_cons, Parameter.restore?_copy elsewhere, ih (mt List.infix_cons absent) named]
    rfl
  | @mark position text marks name later ih =>
    rw [List.map_cons, List.length_cons, Parameter.numbered_succ, List.cons.injEq] at named
    obtain ⟨rfl, named⟩ := named
    rw [Grammar.replace_mark, Parameter.restore?_name, ih (mt List.infix_cons absent) named]
    rfl

/-- The marks that number the question marks outside of quotes and comments from one on. -/
theorem Grammar.marked_numbered (cut : List Segment) (position : Nat) (text stem : List UInt8) :
    let sites := Grammar.sites cut position text
    let marks := sites.zip (Parameter.numbered stem 1 sites.length)
    Grammar.Marked position text marks ∧ marks.map Prod.fst = sites ∧
      marks.map Prod.snd = Parameter.numbered stem 1 marks.length := by
  intro sites marks
  have enough : (Parameter.numbered stem 1 sites.length).length = sites.length := by
    rw [Parameter.numbered, List.length_map, List.length_range']
  have places : marks.map Prod.fst = sites := List.map_fst_zip (Nat.le_of_eq enough.symm)
  have count : marks.length = sites.length := by rw [← places, List.length_map]
  refine ⟨Grammar.marked_sites cut position text _ enough, places, ?_⟩
  rw [count]
  exact List.map_snd_zip (Nat.le_of_eq enough)

end

/-! ## Reading a text back -/

/-- The names of an accepted text are new to it, and the text can be read back from its canonical
form. Lengthening the stem ends with the fewest underscores that make it absent from the text; the
parameters are this stem with the numbers from one on, all different, none of them a part of the
text. In the canonical text the stem stands where names were put and nowhere else, and putting
question marks back there gives the text. -/
theorem Descriptor.parse_names_fresh {mode : ReadingMode} {text : String} {d : Descriptor}
    (parsed : Descriptor.parse mode text = .ok d) :
    ∃ cut fewest, Segment.Cuts 0 (textBytes text) cut ∧
      Parameter.Lengthens (textBytes text) (Parameter.stemBytes 0) (Parameter.stemBytes fewest) ∧
      (∀ count, Parameter.stemBytes count <:+: textBytes text ↔ count < fewest) ∧
      let sites := Grammar.sites cut 0 (textBytes text)
      let marks := sites.zip (d.parameters.map textBytes)
      d.parameters.map textBytes =
          Parameter.numbered (Parameter.stemBytes fewest) 1 sites.length ∧
        d.parameters.Nodup ∧
        (∀ name ∈ d.parameters, ¬ textBytes name <:+: textBytes text) ∧
        textBytes d.canonical = Grammar.replace marks 0 (textBytes text) ∧
        Grammar.occurrences (Parameter.stemBytes fewest) (textBytes d.canonical) =
          sites.map (fun p => (Grammar.replace marks 0 ((textBytes text).take p)).length) ∧
        Parameter.restore? (Parameter.stemBytes fewest) 0 (textBytes d.canonical) =
          some (textBytes text) := by
  obtain ⟨cut, cuts, names, canonical⟩ := Descriptor.parse_bytes parsed
  rw [Parameter.nameBytes_stem] at names canonical
  have present (count : Nat) : Parameter.stemBytes count <:+: textBytes text ↔
      count < Parameter.underscores text.toList := by
    rw [textBytes_eq]
    exact Parameter.stemBytes_isInfix count text.toList
  generalize Parameter.underscores text.toList = fewest at names canonical present
  have absent : ¬ Parameter.stemBytes fewest <:+: textBytes text :=
    mt (present fewest).mp (Nat.lt_irrefl _)
  have longer := Parameter.lengthens present (Nat.zero_le fewest)
  refine ⟨cut, fewest, cuts, longer, present, names, ?_, ?_, ?_⟩
  · apply List.Nodup.of_map textBytes
    rw [names]
    exact Parameter.nodup_numbered _ _ _
  · intro name member inside
    have named := List.mem_map_of_mem (f := textBytes) member
    rw [names] at named
    obtain ⟨i, -, whole⟩ := List.mem_map.mp named
    rw [← whole] at inside
    exact absent ((List.prefix_append _ _).isInfix.trans inside)
  obtain ⟨part, stem, apart⟩ := Parameter.stemBytes_eq_cons fewest
  rw [names, canonical]
  rw [stem] at absent ⊢
  obtain ⟨marked, places, named⟩ :=
    Grammar.marked_numbered cut 0 (textBytes text) ('$'.toUInt8 :: part)
  refine ⟨rfl, ?_, marked.restore? apart absent named⟩
  rw [marked.occurrences apart absent named]
  generalize List.zip _ _ = marks at places ⊢
  rw [← places, List.map_map]
  rfl

/-- A text that holds the first two stems, and the beginning of one before each placeholder. -/
theorem Descriptor.parse_names_fresh_third_stem :
    let text := "SELECT '$jp_é', $?0, $j? -- $jp ?"
    ∃ d, Descriptor.parse .strict text = .ok d ∧
      d.canonical = "SELECT '$jp_é', $$jp__10, $j$jp__2 -- $jp ?" ∧
      Grammar.occurrences (Parameter.stemBytes 2) (textBytes d.canonical) = [18, 29] ∧
      Parameter.restore? (Parameter.stemBytes 2) 0 (textBytes d.canonical) =
        some (textBytes text) := by
  intro text
  have parsed : Descriptor.parse .strict text = .ok ⟨text,
      "SELECT '$jp_é', $$jp__10, $j$jp__2 -- $jp ?", .data, ["$jp__1", "$jp__2"], [.select]⟩ := by
    decide +kernel
  obtain ⟨cut, fewest, cuts, -, present, -, -, -, -, -, back⟩ :=
    Descriptor.parse_names_fresh parsed
  have second : Parameter.stemBytes 1 <:+: textBytes text := by decide +kernel
  have third : ¬ Parameter.stemBytes 2 <:+: textBytes text := by decide +kernel
  obtain rfl : fewest = 2 := by
    rw [present] at second third
    omega
  refine ⟨_, parsed, rfl, ?_, back⟩
  decide +kernel

end SqlDriver
