import SqlDriver.Proofs.Query.Grammar

/-!
Which statements a cut holds, and what is wrong with them. The separators cut a text into pieces; in
each piece the first byte that is neither blank nor comment is where a statement begins, and the
longest word there names its family. The kind of a query is that of its first statement.

`Grammar.Verdict` is what a reading of a part of a text may answer. A part is given by its segments,
by the starts among them and by the kind of the whole query; the lemmas on it say how the answer on
a part follows from the answer on what comes after its first segments.
-/

namespace SqlDriver

/-! ## Pieces -/

/-- The parts of a cut between its separators. -/
def Segment.pieces (cut : List Segment) : List (List Segment) :=
  cut.splitOnP fun s => s.kind.isSeparator

/-- Where the statement of a piece begins, when the piece is not just blanks and comments. -/
def Segment.start? (piece : List Segment) : Option Nat :=
  (piece.find? fun s => !s.kind.isFiller).map Segment.start

/-- Where the statements of a text begin. -/
def Segment.starts (cut : List Segment) : List Nat :=
  (Segment.pieces cut).filterMap Segment.start?

/-- Where the statements begin when a cut is read from its first segment on, `starting` or inside of
a statement. -/
def Segment.startsFrom (starting : Bool) (cut : List Segment) : List Nat :=
  bif starting then Segment.starts cut else (Segment.pieces cut).tail.filterMap Segment.start?

theorem Segment.pieces_separator {s : Segment} (separator : s.kind.isSeparator = true)
    (cut : List Segment) : Segment.pieces (s :: cut) = [] :: Segment.pieces cut := by
  unfold Segment.pieces
  rw [List.splitOnP_cons_eq_if_modifyHead, if_pos separator]

theorem Segment.pieces_cons {s : Segment} (inside : s.kind.isSeparator = false)
    (cut : List Segment) : ∃ piece pieces, Segment.pieces cut = piece :: pieces ∧
      Segment.pieces (s :: cut) = (s :: piece) :: pieces := by
  obtain ⟨piece, pieces, whole⟩ :=
    List.exists_cons_of_ne_nil (List.splitOnP_ne_nil (fun s => s.kind.isSeparator) cut)
  refine ⟨piece, pieces, whole, ?_⟩
  unfold Segment.pieces
  rw [List.splitOnP_cons_eq_if_modifyHead, if_neg (by simp [inside]), whole, List.modifyHead_cons]

@[simp] theorem Segment.startsFrom_nil (starting : Bool) : Segment.startsFrom starting [] = [] := by
  cases starting <;> rfl

/-- After a separator a statement may begin, whether one could before it or not. -/
theorem Segment.startsFrom_separator {s : Segment} (separator : s.kind.isSeparator = true)
    (starting : Bool) (cut : List Segment) :
    Segment.startsFrom starting (s :: cut) = Segment.startsFrom true cut := by
  unfold Segment.startsFrom Segment.starts
  rw [Segment.pieces_separator separator]
  cases starting <;> rfl

/-- Inside a statement nothing begins before the next separator, so at most one statement begins in
each piece. -/
theorem Segment.startsFrom_inside {s : Segment} (inside : s.kind.isSeparator = false)
    (cut : List Segment) : Segment.startsFrom false (s :: cut) = Segment.startsFrom false cut := by
  obtain ⟨piece, pieces, whole, longer⟩ := Segment.pieces_cons inside cut
  unfold Segment.startsFrom
  rw [whole, longer]
  rfl

theorem Segment.startsFrom_filler {s : Segment} (filler : s.kind.isFiller = true)
    (cut : List Segment) : Segment.startsFrom true (s :: cut) = Segment.startsFrom true cut := by
  have inside : s.kind.isSeparator = false := by
    unfold Segment.Kind.isFiller at filler
    unfold Segment.Kind.isSeparator
    split at filler <;> simp_all
  obtain ⟨piece, pieces, whole, longer⟩ := Segment.pieces_cons inside cut
  have passed : Segment.start? (s :: piece) = Segment.start? piece := by
    unfold Segment.start?
    rw [List.find?_cons_of_neg (by simp [filler])]
  unfold Segment.startsFrom Segment.starts
  rw [cond_true, cond_true, whole, longer, List.filterMap_cons, List.filterMap_cons, passed]

/-- What is neither a blank nor a comment begins a statement where one may begin. -/
theorem Segment.startsFrom_start {s : Segment} (inside : s.kind.isSeparator = false)
    (word : s.kind.isFiller = false) (cut : List Segment) :
    Segment.startsFrom true (s :: cut) = s.start :: Segment.startsFrom false cut := by
  obtain ⟨piece, pieces, whole, longer⟩ := Segment.pieces_cons inside cut
  have begins : Segment.start? (s :: piece) = some s.start := by
    unfold Segment.start?
    rw [List.find?_cons_of_pos (by simp [word])]
    rfl
  unfold Segment.startsFrom Segment.starts
  rw [cond_true, cond_false, whole, longer, List.filterMap_cons, begins]
  rfl

/-- Statements begin where segments do, and so between characters. -/
theorem Segment.exists_of_mem_startsFrom {starting : Bool} {cut : List Segment} {p : Nat}
    (member : p ∈ Segment.startsFrom starting cut) : ∃ s ∈ cut, s.start = p := by
  induction cut generalizing starting with
  | nil => simp at member
  | cons s rest ih =>
    have later {starting : Bool} (member : p ∈ Segment.startsFrom starting rest) :
        ∃ t ∈ s :: rest, t.start = p := by
      obtain ⟨t, inside, here⟩ := ih member
      exact ⟨t, List.mem_cons_of_mem _ inside, here⟩
    by_cases separator : s.kind.isSeparator = true
    · rw [Segment.startsFrom_separator separator] at member
      exact later member
    rw [Bool.not_eq_true] at separator
    cases starting with
    | false =>
      rw [Segment.startsFrom_inside separator] at member
      exact later member
    | true =>
      by_cases filler : s.kind.isFiller = true
      · rw [Segment.startsFrom_filler filler] at member
        exact later member
      rw [Bool.not_eq_true] at filler
      rw [Segment.startsFrom_start separator filler] at member
      rcases List.mem_cons.mp member with rfl | after
      · exact ⟨s, List.mem_cons_self, rfl⟩
      · exact later after

/-! ## The word at a start -/

/-- An ASCII letter or digit, or the underscore. -/
def Grammar.isWordByte (b : UInt8) : Bool :=
  ('a'.toUInt8 ≤ b && b ≤ 'z'.toUInt8) || ('A'.toUInt8 ≤ b && b ≤ 'Z'.toUInt8) ||
    ('0'.toUInt8 ≤ b && b ≤ '9'.toUInt8) || b = '_'.toUInt8

def Grammar.lower (b : UInt8) : UInt8 :=
  if 'A'.toUInt8 ≤ b ∧ b ≤ 'Z'.toUInt8 then b + 32 else b

/-- The longest word that begins at a position; empty where none does. -/
def Grammar.wordAt (text : List UInt8) (p : Nat) : List UInt8 :=
  (text.drop p).takeWhile Grammar.isWordByte

/-- The keywords of the grammar in lower case, each with the family of the statements that begin
with it. -/
def Grammar.keywords : List (List UInt8 × StatementKind) :=
  [(textBytes "select", .select),
    (textBytes "insert", .update), (textBytes "update", .update), (textBytes "upsert", .update),
    (textBytes "delete", .update), (textBytes "replace", .update),
    (textBytes "create", .scheme), (textBytes "alter", .scheme), (textBytes "drop", .scheme)]

/-- The kind of the queries that hold statements of a family. -/
def Grammar.kindOf : StatementKind → QueryKind
  | .select => .data
  | .update => .data
  | .scheme => .schema

/-- The family that has the word for a keyword, whatever the case of its letters. -/
def Grammar.family? (word : List UInt8) : Option StatementKind :=
  Grammar.keywords.lookup (word.map Grammar.lower)

/-- The family of the statement that begins at a position. -/
def Grammar.familyAt? (text : List UInt8) (p : Nat) : Option StatementKind :=
  Grammar.family? (Grammar.wordAt text p)

/-- The kind of a query whose statements begin at the positions. -/
def Grammar.kind? (text : List UInt8) (starts : List Nat) : Option QueryKind :=
  (starts.head?.bind (Grammar.familyAt? text)).map Grammar.kindOf

/-! ## Faults -/

/-- What is wrong with the statement that begins at a position of a query of the kind. -/
inductive Grammar.StartFault (text : List UInt8) (kind : Option QueryKind) (p : Nat) :
    GrammarFault → Prop where
  | unexpected {found : Char} : Grammar.wordAt text p = [] →
      String.utf8EncodeChar found <+: text.drop p →
      Grammar.StartFault text kind p (.unexpectedStart found)
  | unknown {word : String} : Grammar.wordAt text p ≠ [] →
      textBytes word = Grammar.wordAt text p → Grammar.familyAt? text p = none →
      Grammar.StartFault text kind p (.unknownKeyword word)
  | mixed {family : StatementKind} {word : String} {established : QueryKind} :
      textBytes word = Grammar.wordAt text p →
      Grammar.familyAt? text p = some family → kind = some established →
      Grammar.kindOf family ≠ established →
      Grammar.StartFault text kind p (.mixedKinds (Grammar.kindOf family) word established)

/-- What is wrong at a position of a text: with the statement that begins there, or else, reading
strictly, with the segment that begins there. -/
inductive Grammar.Fault (mode : ReadingMode) (text : List UInt8) (starts : List Nat)
    (kind : Option QueryKind) (cut : List Segment) (p : Nat) : GrammarFault → Prop where
  | start {fault} : p ∈ starts → Grammar.StartFault text kind p fault →
      Grammar.Fault mode text starts kind cut p fault
  | unended {s : Segment} {fault} : mode = .strict → s ∈ cut → s.start = p → p ∉ starts →
      s.kind.openFault? = some fault → Grammar.Fault mode text starts kind cut p fault

/-- What is wrong at a position of a text with that cut. -/
def Grammar.FaultAt (mode : ReadingMode) (text : List UInt8) (cut : List Segment) (p : Nat)
    (fault : GrammarFault) : Prop :=
  let starts := Segment.starts cut
  Grammar.Fault mode text starts (Grammar.kind? text starts) cut p fault

/-- A text with that cut is a query. -/
structure Grammar.Accepts (mode : ReadingMode) (text : List UInt8) (cut : List Segment) : Prop where
  nonempty : Segment.starts cut ≠ []
  keyword : ∀ p ∈ Segment.starts cut, ∃ family, Grammar.familyAt? text p = some family
  one_kind : ∃ kind, ∀ p ∈ Segment.starts cut, ∀ family,
    Grammar.familyAt? text p = some family → Grammar.kindOf family = kind
  ended : mode = .strict → ∀ s ∈ cut, s.kind.openFault? = none

theorem Grammar.family?_nil : Grammar.family? [] = none := by
  decide

/-- Nothing is wrong with a statement of the query's kind: it begins with a known keyword, and is
not mixed with others. -/
theorem Grammar.no_startFault {text : List UInt8} {kind : Option QueryKind} {p : Nat}
    {family : StatementKind} {fault : GrammarFault} (found : Grammar.familyAt? text p = some family)
    (agrees : kind = some (Grammar.kindOf family)) : ¬ Grammar.StartFault text kind p fault := by
  intro wrong
  cases wrong with
  | unexpected empty _ =>
    unfold Grammar.familyAt? at found
    rw [empty, Grammar.family?_nil] at found
    cases found
  | unknown _ _ unknown =>
    rw [unknown] at found
    cases found
  | mixed _ other established differs =>
    obtain rfl := Option.some.inj (found.symm.trans other)
    exact differs (Option.some.inj (agrees.symm.trans established))

/-- Nothing is wrong anywhere in a query, so a text is not both accepted and refused for a fault. -/
theorem Grammar.Accepts.no_fault {mode : ReadingMode} {text : List UInt8} {cut : List Segment}
    {p : Nat} {fault : GrammarFault} (accepts : Grammar.Accepts mode text cut) :
    ¬ Grammar.FaultAt mode text cut p fault := by
  intro wrong
  cases wrong with
  | unended strict member _ _ opened =>
    rw [accepts.ended strict _ member] at opened
    cases opened
  | start member wrong =>
    obtain ⟨family, found⟩ := accepts.keyword p member
    obtain ⟨kind, agree⟩ := accepts.one_kind
    obtain ⟨first, later, whole⟩ := List.exists_cons_of_ne_nil accepts.nonempty
    have here : first ∈ Segment.starts cut := by
      rw [whole]
      exact List.mem_cons_self
    obtain ⟨leading, leads⟩ := accepts.keyword first here
    refine Grammar.no_startFault found ?_ wrong
    rw [Grammar.kind?, whole, List.head?_cons, Option.bind_some, leads, Option.map_some,
      agree first here leading leads, agree p member family found]

/-! ## Verdicts -/

/-- What a reading of a part of a text answers: the families of its statements, all of the query's
kind, or the leftmost fault. -/
inductive Grammar.Verdict (mode : ReadingMode) (text : List UInt8) (starts : List Nat)
    (kind : Option QueryKind) (cut : List Segment) :
    Except (Nat × GrammarFault) (List StatementKind) → Prop where
  | ok {families : List StatementKind} :
      starts.map (Grammar.familyAt? text) = families.map some →
      (∀ family ∈ families, kind = some (Grammar.kindOf family)) →
      (mode = .strict → ∀ s ∈ cut, s.kind.openFault? = none) →
      Grammar.Verdict mode text starts kind cut (.ok families)
  | error {p : Nat} {fault : GrammarFault} : Grammar.Fault mode text starts kind cut p fault →
      (∀ q other, Grammar.Fault mode text starts kind cut q other → p ≤ q) →
      Grammar.Verdict mode text starts kind cut (.error (p, fault))

section

variable {mode : ReadingMode} {text : List UInt8} {starts : List Nat} {kind : Option QueryKind}
  {cut : List Segment} {answer : Except (Nat × GrammarFault) (List StatementKind)}

/-- Segments are passed over when no statement begins in them and they end, and the verdict on what
comes after them stands. -/
theorem Grammar.Verdict.pass {front : List Segment}
    (verdict : Grammar.Verdict mode text starts kind cut answer)
    (ended : mode = .strict → ∀ s ∈ front, s.kind.openFault? = none) :
    Grammar.Verdict mode text starts kind (front ++ cut) answer := by
  have back {q : Nat} {other : GrammarFault}
      (wrong : Grammar.Fault mode text starts kind (front ++ cut) q other) :
      Grammar.Fault mode text starts kind cut q other := by
    cases wrong with
    | start member wrong => exact .start member wrong
    | unended strict member here apart opened =>
      rcases List.mem_append.mp member with early | late
      · rw [ended strict _ early] at opened
        cases opened
      · exact .unended strict late here apart opened
  cases verdict with
  | ok families kinds closed =>
    refine .ok families kinds fun strict s member => ?_
    rcases List.mem_append.mp member with early | late
    · exact ended strict s early
    · exact closed strict s late
  | error wrong least =>
    refine .error ?_ fun q other wrong => least q other (back wrong)
    cases wrong with
    | start member wrong => exact .start member wrong
    | unended strict member here apart opened =>
      exact .unended strict (List.mem_append_right _ member) here apart opened

/-- A statement of the query's kind begins before the part, and its family comes before the others.
-/
theorem Grammar.Verdict.begin {p : Nat} {family : StatementKind}
    (verdict : Grammar.Verdict mode text starts kind cut answer)
    (after : ∀ s ∈ cut, p < s.start) (found : Grammar.familyAt? text p = some family)
    (agrees : kind = some (Grammar.kindOf family)) :
    Grammar.Verdict mode text (p :: starts) kind cut (answer.map (family :: ·)) := by
  cases verdict with
  | ok families kinds closed =>
    refine .ok ?_ ?_ closed
    · rw [List.map_cons, List.map_cons, found, families]
    · intro other member
      rcases List.mem_cons.mp member with rfl | later
      · exact agrees
      · exact kinds other later
  | error wrong least =>
    refine .error ?_ fun q other wrong => ?_
    · cases wrong with
      | start member wrong => exact .start (List.mem_cons_of_mem _ member) wrong
      | unended strict member here apart opened =>
        refine .unended strict member here ?_ opened
        have := after _ member
        rw [List.mem_cons, not_or]
        exact ⟨by omega, apart⟩
    · cases wrong with
      | start member wrong =>
        rcases List.mem_cons.mp member with rfl | later
        · exact absurd wrong (Grammar.no_startFault found agrees)
        · exact least q other (.start later wrong)
      | unended strict member here apart opened =>
        exact least q other
          (.unended strict member here (fun later => apart (List.mem_cons_of_mem _ later)) opened)

/-- A fault at the first position of a part is its leftmost fault, whatever else is wrong after it.
-/
theorem Grammar.Verdict.first {p : Nat} {fault : GrammarFault}
    (wrong : Grammar.Fault mode text starts kind cut p fault) (after : ∀ s ∈ cut, p ≤ s.start)
    (inside : ∀ q ∈ starts, ∃ s ∈ cut, s.start = q) :
    Grammar.Verdict mode text starts kind cut (.error (p, fault)) := by
  refine .error wrong fun q other wrong => ?_
  cases wrong with
  | start member _ =>
    obtain ⟨s, here, rfl⟩ := inside q member
    exact after s here
  | unended _ member here _ _ =>
    have := after _ member
    omega

/-- A segment that never ends is the leftmost fault of a part that begins with it, when no statement
begins there. -/
theorem Grammar.Verdict.unended {front : List Segment} {s : Segment} {fault : GrammarFault}
    (strict : mode = .strict) (member : s ∈ front) (opened : s.kind.openFault? = some fault)
    (least : ∀ t ∈ front ++ cut, s.start ≤ t.start) (later : ∀ t ∈ cut, s.start < t.start)
    (inside : ∀ q ∈ starts, ∃ t ∈ cut, t.start = q) :
    Grammar.Verdict mode text starts kind (front ++ cut) (.error (s.start, fault)) := by
  have apart : s.start ∉ starts := by
    intro started
    obtain ⟨t, behind, same⟩ := inside s.start started
    have := later t behind
    omega
  refine .first (.unended strict (List.mem_append_left _ member) rfl apart opened) least ?_
  intro q started
  obtain ⟨t, behind, same⟩ := inside q started
  exact ⟨t, List.mem_append_right _ behind, same⟩

/-- Where the reading answers with families, there is one for each start, of the query's kind, and
it is the one that the grammar finds there. -/
theorem Grammar.Verdict.exists_family {families : List StatementKind}
    (verdict : Grammar.Verdict mode text starts kind cut (.ok families)) {p : Nat}
    (member : p ∈ starts) :
    ∃ family ∈ families, Grammar.familyAt? text p = some family ∧
      kind = some (Grammar.kindOf family) := by
  cases verdict with
  | ok named kinds _ =>
    have image := List.mem_map_of_mem (f := Grammar.familyAt? text) member
    rw [named] at image
    obtain ⟨family, inside, same⟩ := List.mem_map.mp image
    exact ⟨family, inside, same.symm, kinds family inside⟩

theorem Grammar.Verdict.no_fault {families : List StatementKind}
    (verdict : Grammar.Verdict mode text starts kind cut (.ok families)) (p : Nat)
    (fault : GrammarFault) : ¬ Grammar.Fault mode text starts kind cut p fault := by
  intro wrong
  cases wrong with
  | start member wrong =>
    obtain ⟨family, _, found, agrees⟩ := verdict.exists_family member
    exact Grammar.no_startFault found agrees wrong
  | unended strict member _ _ opened =>
    cases verdict with
    | ok _ _ ended =>
      rw [ended strict _ member] at opened
      cases opened

end

/-- A text on which the reading answers with a family is a query: every statement of it has the kind
of the first, and nothing else is wrong with it. -/
theorem Grammar.Verdict.accepts {mode : ReadingMode} {text : List UInt8} {cut : List Segment}
    {first : StatementKind} {others : List StatementKind}
    (verdict : Grammar.Verdict mode text (Segment.starts cut)
      (Grammar.kind? text (Segment.starts cut)) cut (.ok (first :: others))) :
    Grammar.Accepts mode text cut where
  nonempty := by
    cases verdict with
    | ok named _ _ =>
      intro none
      rw [none] at named
      cases named
  keyword p member := by
    obtain ⟨family, _, found, _⟩ := verdict.exists_family member
    exact ⟨family, found⟩
  one_kind := by
    refine ⟨Grammar.kindOf first, fun p member family found => ?_⟩
    obtain ⟨other, _, here, agrees⟩ := verdict.exists_family member
    obtain rfl := Option.some.inj (found.symm.trans here)
    cases verdict with
    | ok _ kinds _ =>
      exact Option.some.inj (agrees.symm.trans (kinds first List.mem_cons_self))
  ended := by
    cases verdict with
    | ok _ _ ended => exact ended

end SqlDriver
