import Mathlib.Data.List.TakeWhile
import SqlDriver.Proofs.Query.Canonical
import SqlDriver.Proofs.Query.Names

/-!
References to parameters. What takes a canonical text reads a reference as a dollar sign and the
longest word after it. A name is put in the place of its question mark whatever byte comes next, so
a word that follows the question mark is read as part of the name; the reference is to the parameter
exactly where none does.
-/

namespace SqlDriver

/-! ## Names and words in a text -/

/-- The name that is read at a position: a dollar sign and the longest word after it. -/
def Grammar.nameAt? (text : List UInt8) (p : Nat) : Option (List UInt8) :=
  if text[p]? = some '$'.toUInt8 then some ('$'.toUInt8 :: Grammar.wordAt text (p + 1)) else none

/-- Whether bytes are a dollar sign and a word. -/
def Grammar.IsName (name : List UInt8) : Prop :=
  ∃ word, name = '$'.toUInt8 :: word ∧ ∀ b ∈ word, Grammar.isWordByte b = true

theorem Grammar.wordAt_cons (b : UInt8) (text : List UInt8) (p : Nat) :
    Grammar.wordAt (b :: text) (p + 1) = Grammar.wordAt text p := rfl

theorem Grammar.nameAt?_cons (b : UInt8) (text : List UInt8) (p : Nat) :
    Grammar.nameAt? (b :: text) (p + 1) = Grammar.nameAt? text p := by
  rw [Grammar.nameAt?, Grammar.nameAt?, List.getElem?_cons_succ, Grammar.wordAt_cons]

theorem Grammar.nameAt?_append (front text : List UInt8) (p : Nat) :
    Grammar.nameAt? (front ++ text) (front.length + p) = Grammar.nameAt? text p := by
  induction front with
  | nil => rw [List.nil_append, List.length_nil, Nat.zero_add]
  | cons b front ih =>
    rw [List.cons_append, List.length_cons, Nat.add_right_comm, Grammar.nameAt?_cons, ih]

/-- A name is read together with the word after it, so it is read as itself only where no word
follows. -/
theorem Grammar.IsName.nameAt?_append {name : List UInt8} (named : Grammar.IsName name)
    (text : List UInt8) :
    Grammar.nameAt? (name ++ text) 0 = some (name ++ Grammar.wordAt text 0) := by
  obtain ⟨word, rfl, bytes⟩ := named
  have whole : Grammar.wordAt (word ++ text) 0 = word ++ Grammar.wordAt text 0 :=
    List.takeWhile_append_of_pos bytes
  rw [List.cons_append, List.cons_append, Grammar.nameAt?, Grammar.wordAt_cons, whole]
  exact if_pos rfl

/-- The names of a text's parameters are each a dollar sign and a word, so they can be read as names
at all. -/
theorem Parameter.isName_nameBytes {text : List Char} {position count : Nat} {name : List UInt8}
    (member : name ∈ Parameter.nameBytes (Parameter.stem text) position count) :
    Grammar.IsName name := by
  obtain ⟨i, -, rfl⟩ := List.mem_map.mp member
  obtain ⟨whole, -, word⟩ := Parameter.name_eq text i
  have bytes := Grammar.takeWhile_utf8Bytes (Parameter.nameWord (Parameter.stem text) i)
  rw [List.takeWhile_eq_self_iff.mpr word, List.takeWhile_eq_self_iff] at bytes
  refine ⟨_, ?_, bytes⟩
  rw [whole, utf8Bytes_cons, utf8EncodeChar_of_ascii (by decide)]
  rfl

/-! ## Names in the place of question marks -/

namespace Grammar.Marked

variable {position : Nat} {text : List UInt8} {marks : List (Nat × List UInt8)}

/-- The word at the head of a text stays as it is: neither a question mark nor a name goes on with
it. -/
theorem wordAt_replace (marked : Grammar.Marked position text marks)
    (names : ∀ mark ∈ marks, Grammar.IsName mark.2) :
    Grammar.wordAt (Grammar.replace marks position text) 0 = Grammar.wordAt text 0 := by
  induction marked with
  | nil => rfl
  | @copy position text marks b later ih =>
    have rest : (Grammar.replace marks (position + 1) text).takeWhile Grammar.isWordByte =
        text.takeWhile Grammar.isWordByte := ih names
    rw [later.replace_cons, Grammar.wordAt, Grammar.wordAt, List.drop_zero, List.drop_zero,
      List.takeWhile_cons, List.takeWhile_cons, rest]
  | @mark position text marks name later ih =>
    obtain ⟨word, rfl, -⟩ := names _ List.mem_cons_self
    rw [Grammar.replace_mark]
    rfl

/-- Where a name was put, it is read together with the word that follows the question mark. What
stands before it makes no difference. -/
theorem nameAt?_replace (marked : Grammar.Marked position text marks)
    (names : ∀ mark ∈ marks, Grammar.IsName mark.2) :
    ∀ mark ∈ marks,
      Grammar.nameAt? (Grammar.replace marks position text)
          (Grammar.replace marks position (text.take (mark.1 - position))).length =
        some (mark.2 ++ Grammar.wordAt text (mark.1 - position + 1)) := by
  induction marked with
  | nil => exact fun _ member => nomatch member
  | @copy position text marks b later ih =>
    intro mark member
    have after := later.le member
    rw [show mark.1 - position = mark.1 - (position + 1) + 1 by omega, List.take_succ_cons,
      later.replace_cons, later.replace_cons, List.length_cons, Grammar.nameAt?_cons,
      Grammar.wordAt_cons]
    exact ih names mark member
  | @mark position text marks name later ih =>
    have others : ∀ mark ∈ marks, Grammar.IsName mark.2 :=
      fun mark member => names mark (List.mem_cons_of_mem _ member)
    intro mark member
    rw [Grammar.replace_mark]
    rcases List.mem_cons.mp member with rfl | member
    · rw [Nat.sub_self, List.take_zero, Grammar.wordAt_cons, ← later.wordAt_replace others]
      exact (names _ List.mem_cons_self).nameAt?_append _
    · have after := later.le member
      rw [show mark.1 - position = mark.1 - (position + 1) + 1 by omega, List.take_succ_cons,
        Grammar.replace_mark, List.length_append, Grammar.nameAt?_append, Grammar.wordAt_cons]
      exact ih others mark member

end Grammar.Marked

/-! ## The references of a descriptor -/

/-- The names of an accepted text, marked on the question marks that they replace, in the order of
the parameters. -/
theorem Descriptor.parse_marks {mode : ReadingMode} {text : String} {d : Descriptor}
    (parsed : Descriptor.parse mode text = .ok d) :
    ∃ cut, Segment.Cuts 0 (textBytes text) cut ∧
      let sites := Grammar.sites cut 0 (textBytes text)
      let marks := sites.zip (d.parameters.map textBytes)
      Grammar.Marked 0 (textBytes text) marks ∧ (∀ mark ∈ marks, Grammar.IsName mark.2) ∧
        marks.map Prod.fst = sites ∧ marks.map Prod.snd = d.parameters.map textBytes ∧
        textBytes d.canonical = Grammar.replace marks 0 (textBytes text) := by
  obtain ⟨cut, cuts, names, canonical⟩ := Descriptor.parse_bytes parsed
  refine ⟨cut, cuts, ?_⟩
  rw [names, canonical]
  have enough : (Parameter.nameBytes (Parameter.stem text.toList) 1
      (Grammar.sites cut 0 (textBytes text)).length).length =
        (Grammar.sites cut 0 (textBytes text)).length := by
    rw [Parameter.nameBytes, List.length_map, List.length_range']
  exact ⟨Grammar.marked_sites cut 0 _ _ enough,
    fun mark member => Parameter.isName_nameBytes (List.of_mem_zip member).2,
    List.map_fst_zip (Nat.le_of_eq enough.symm), List.map_snd_zip (Nat.le_of_eq enough), rfl⟩

/-- No two parameters of an accepted text have the same name. -/
theorem Descriptor.nodup_names {mode : ReadingMode} {text : String} {d : Descriptor}
    (parsed : Descriptor.parse mode text = .ok d) : (d.parameters.map textBytes).Nodup := by
  obtain ⟨cut, -, names, -⟩ := Descriptor.parse_bytes parsed
  rw [names, Parameter.nameBytes_stem]
  exact Parameter.nodup_numbered _ _ _

/-- What is read in the canonical text where the names were put, given the cut of the raw text. -/
def Descriptor.references (d : Descriptor) (cut : List Segment) : List (Option (List UInt8)) :=
  let raw := textBytes d.raw
  let sites := Grammar.sites cut 0 raw
  let marks := sites.zip (d.parameters.map textBytes)
  sites.map fun p =>
    Grammar.nameAt? (textBytes d.canonical) (Grammar.replace marks 0 (raw.take p)).length

/-- A reference of an accepted text is read as the parameter's name and the word after the question
mark. So the parameters are read, all different and in order, when no question mark has a word after
it, and only then. -/
theorem Descriptor.parse_references {mode : ReadingMode} {text : String} {d : Descriptor}
    (parsed : Descriptor.parse mode text = .ok d) :
    ∃ cut, Segment.Cuts 0 (textBytes text) cut ∧
      let sites := Grammar.sites cut 0 (textBytes text)
      let names := d.parameters.map textBytes
      names.length = sites.length ∧ names.Nodup ∧
        d.references cut = (sites.zip names).map (fun mark =>
          some (mark.2 ++ Grammar.wordAt (textBytes text) (mark.1 + 1))) ∧
        (d.references cut = names.map some ↔
          ∀ p ∈ sites, Grammar.wordAt (textBytes text) (p + 1) = []) := by
  obtain ⟨raw, -, -⟩ := Descriptor.parse_ok parsed
  obtain ⟨cut, cuts, marked, named, sites, names, canonical⟩ := Descriptor.parse_marks parsed
  refine ⟨cut, cuts, ?_⟩
  have references : d.references cut =
      (((Grammar.sites cut 0 (textBytes text)).zip (d.parameters.map textBytes)).map fun mark =>
        some (mark.2 ++ Grammar.wordAt (textBytes text) (mark.1 + 1))) := by
    refine Eq.trans ?_ (List.map_congr_left (marked.nameAt?_replace named))
    unfold Descriptor.references
    rw [raw, canonical]
    dsimp only
    generalize List.zip _ _ = marks at sites ⊢
    rw [← sites, List.map_map]
    rfl
  have distinct := Descriptor.nodup_names parsed
  dsimp only
  rw [references]
  generalize List.zip _ _ = marks at sites names ⊢
  rw [← sites, ← names, List.forall_mem_map, List.map_map]
  refine ⟨by rw [List.length_map, List.length_map], names ▸ distinct, rfl, ?_⟩
  rw [List.map_inj_left]
  refine forall₂_congr fun mark _ => ?_
  rw [Function.comp_apply, Option.some_inj, List.append_right_eq_self]

/-- A name read with nothing, and one read with a digit and a letter after it. -/
theorem Descriptor.parse_references_one_merged :
    let text := "SELECT (?), ?1a"
    ∃ d cut, Descriptor.parse .strict text = .ok d ∧ Segment.Cuts 0 (textBytes text) cut ∧
      d.parameters = ["$jp1", "$jp2"] ∧
      d.references cut = [some (textBytes "$jp1"), some (textBytes "$jp21a")] := by
  intro text
  have parsed : Descriptor.parse .strict text = .ok ⟨text, "SELECT ($jp1), $jp21a", .data,
      ["$jp1", "$jp2"], [.select]⟩ := by
    decide +kernel
  obtain ⟨cut, cuts, -, -, read, -⟩ := Descriptor.parse_references parsed
  have tokens := Token.cuts_scan 0 text.toList
  rw [← textBytes_eq] at tokens
  refine ⟨_, cut, parsed, cuts, rfl, read.trans ?_⟩
  rw [cuts.unique tokens]
  decide +kernel

/-- With ten question marks, the name of the first is read as that of the last when a zero follows
it. -/
theorem Descriptor.reference_of_first_is_tenth :
    let text := "SELECT ?0, ?, ?, ?, ?, ?, ?, ?, ?, ?"
    ∃ d cut, Descriptor.parse .strict text = .ok d ∧ Segment.Cuts 0 (textBytes text) cut ∧
      d.parameters[0]? = some "$jp1" ∧ d.parameters[9]? = some "$jp10" ∧
      (d.references cut)[0]? = some (some (textBytes "$jp10")) ∧
      (d.references cut)[9]? = some (some (textBytes "$jp10")) ∧
      d.references cut ≠ (d.parameters.map textBytes).map some := by
  intro text
  have tokens := Token.cuts_scan 0 text.toList
  rw [← textBytes_eq] at tokens
  have parsed : Descriptor.parse .strict text = .ok ⟨text,
      "SELECT $jp10, $jp2, $jp3, $jp4, $jp5, $jp6, $jp7, $jp8, $jp9, $jp10", .data,
      ["$jp1", "$jp2", "$jp3", "$jp4", "$jp5", "$jp6", "$jp7", "$jp8", "$jp9", "$jp10"],
      [.select]⟩ := by
    decide +kernel
  refine ⟨_, _, parsed, tokens, rfl, rfl, ?_⟩
  decide +kernel

end SqlDriver
