import SqlDriver.Proofs.Query.Slices
import SqlDriver.Proofs.Query.Starts

/-!
A reading of a query text by the positions of its bytes. The reader looks at one byte and the next
one, skips what that byte opens, and takes parts of the text out by their positions. Such a position
may be in the middle of a character: a backslash in a literal skips two bytes, whatever they are, and
inside of a statement each byte of a character is a step of its own. A slice that can not be taken
leaves the reading without any result.

Every step goes forward and stays in the text, so the reading ends.
-/

namespace SqlDriver

/-- What comes of reading, if every slice can be taken: it may be a fault and its position. -/
abbrev Reader.Result (α : Type) := Option (Except (Nat × GrammarFault) α)

/-- A reader of bytes. -/
structure Reader where
  position : Nat
  /-- Whether a statement may begin here. -/
  starting : Bool
  /-- Where the part of the text begins that has not been copied yet. -/
  copied : Nat
  canonical : String
  parameters : List String
  statements : List StatementKind
  kind : Option QueryKind

/-- A reader at the beginning of a text. -/
def Reader.start : Reader := ⟨0, true, 0, "", [], [], none⟩

def Reader.moveTo (r : Reader) (position : Nat) : Reader := { r with position := position }

/-! ## Where things end -/

/-- The position after the closing byte of a run, if there is one. Where backslashes escape, two
bytes are skipped from one. -/
def Reader.quotedEnd (bytes : List UInt8) (closing : UInt8) (escapes : Bool) (position : Nat) :
    Option Nat :=
  if inside : position < bytes.length then
    if escapes = true ∧ bytes[position] = '\\'.toUInt8 then
      Reader.quotedEnd bytes closing escapes (position + 2)
    else if bytes[position] = closing then some (position + 1)
    else Reader.quotedEnd bytes closing escapes (position + 1)
  else none
termination_by bytes.length - position

/-- The position after the mark that closes the outermost of `depth` block comments, if there is
one. -/
def Reader.commentEnd (bytes : List UInt8) (depth position : Nat) : Option Nat :=
  if inside : position < bytes.length then
    if bytes[position] = '/'.toUInt8 ∧ bytes[position + 1]? = some '*'.toUInt8 then
      Reader.commentEnd bytes (depth + 1) (position + 2)
    else if bytes[position] = '*'.toUInt8 ∧ bytes[position + 1]? = some '/'.toUInt8 then
      if depth - 1 = 0 then some (position + 2)
      else Reader.commentEnd bytes (depth - 1) (position + 2)
    else Reader.commentEnd bytes depth (position + 1)
  else none
termination_by bytes.length - position

/-- The position after the line feed that ends a line, or the end of the text. -/
def Reader.lineEnd (bytes : List UInt8) (start : Nat) : Nat :=
  match (bytes.drop start).findIdx? fun byte => byte = '\n'.toUInt8 with
  | some length => start + length + 1
  | none => bytes.length

/-- The position of the first byte after a word, or the end of the text. -/
def Reader.wordEnd (bytes : List UInt8) (start : Nat) : Nat :=
  match (bytes.drop start).findIdx? fun byte => !Grammar.isWordByte byte with
  | some length => start + length
  | none => bytes.length

/-- Where reading goes on after what was opened at `start`: at its end, or, where it has none and
reading is tolerant, at the end of the text. -/
def Reader.resume (mode : ReadingMode) (bytes : List UInt8) (start : Nat) (fault : GrammarFault) :
    Option Nat → Except (Nat × GrammarFault) Nat
  | some stop => .ok stop
  | none => if mode.isStrict then .error (start, fault) else .ok bytes.length

/-! ## Steps -/

/-- The fault of a statement that begins with no word, with the character that stands there. -/
def Reader.unexpectedStart (text : String) (position : Nat) : Reader.Result Reader :=
  (Text.slice? text position text.utf8ByteSize).map fun rest =>
    .error (position, .unexpectedStart (rest.toList.headD ' '))

/-- Reads the word that a statement begins with. -/
def Reader.statement (text : String) (r : Reader) : Reader.Result Reader :=
  let stop := Reader.wordEnd (textBytes text) r.position
  if stop = r.position then Reader.unexpectedStart text r.position
  else
    (Text.slice? text r.position stop).map fun word =>
      match (Token.word word.toList).statement r.kind with
      | .error fault => .error (r.position, fault)
      | .ok statement =>
        .ok
          { r with
            position := stop
            starting := false
            statements := r.statements ++ [statement]
            kind := some statement.queryKind }

/-- Replaces a placeholder by the name of its parameter. -/
def Reader.placeholder (text : String) (r : Reader) : Reader.Result Reader :=
  (Text.slice? text r.copied r.position).map fun part =>
    let stem := Parameter.stem text.toList
    let name := String.ofList (Parameter.name stem (r.parameters.length + 1))
    .ok
      { r with
        position := r.position + 1
        copied := r.position + 1
        canonical := r.canonical ++ part ++ name
        parameters := r.parameters ++ [name] }

/-- Skips or takes what is opened at the position. -/
def Reader.follow (mode : ReadingMode) (text : String) (r : Reader) :
    Segment.Opening → Reader.Result Reader
  | .quote closing escapes =>
    if r.starting then Reader.unexpectedStart text r.position
    else
      some ((Reader.resume mode (textBytes text) r.position .unterminatedQuote
        (Reader.quotedEnd (textBytes text) closing escapes (r.position + 1))).map r.moveTo)
  | .line => some (.ok (r.moveTo (Reader.lineEnd (textBytes text) r.position)))
  | .block =>
    some ((Reader.resume mode (textBytes text) r.position .unterminatedComment
      (Reader.commentEnd (textBytes text) 1 (r.position + 2))).map r.moveTo)
  | .separator => some (.ok { r with position := r.position + 1, starting := true })
  | .placeholder =>
    if r.starting then Reader.unexpectedStart text r.position else r.placeholder text
  | .blank => some (.ok (r.moveTo (r.position + 1)))
  | .plain => if r.starting then r.statement text else some (.ok (r.moveTo (r.position + 1)))

/-- Reads on from a position in the text, by the byte there and the next one. -/
def Reader.step (mode : ReadingMode) (text : String) (r : Reader) : Reader.Result Reader :=
  match (textBytes text)[r.position]? with
  | none => none
  | some byte => r.follow mode text (Segment.opening byte (textBytes text)[r.position + 1]?)

/-- What was read up to the end of the text. -/
def Reader.finish (text : String) (r : Reader) : Reader.Result Descriptor :=
  match r.kind with
  | none => some (.error (0, .noStatements))
  | some kind =>
    (Text.slice? text r.copied text.utf8ByteSize).map fun part =>
      .ok
        { raw := text
          canonical := r.canonical ++ part
          kind := kind
          parameters := r.parameters
          statements := r.statements }

/-! ## Every step goes forward -/

section

variable {bytes : List UInt8} {start stop : Nat}

/-- A run ends after it began, and at the end of the text at the latest. -/
theorem Reader.quotedEnd_bounds {closing : UInt8} {escapes : Bool}
    (ends : Reader.quotedEnd bytes closing escapes start = some stop) :
    start < stop ∧ stop ≤ bytes.length := by
  fun_induction Reader.quotedEnd bytes closing escapes start with
  | case1 position inside escaped ih =>
    have := ih ends
    omega
  | case2 position inside straight closes =>
    cases ends
    omega
  | case3 position inside straight other ih =>
    have := ih ends
    omega
  | case4 position outside => cases ends

/-- A block comment ends after it began, however deep others are opened in it. -/
theorem Reader.commentEnd_bounds {depth : Nat}
    (ends : Reader.commentEnd bytes depth start = some stop) :
    start < stop ∧ stop ≤ bytes.length := by
  fun_induction Reader.commentEnd bytes depth start with
  | case1 depth position inside opens ih =>
    have := ih ends
    omega
  | case2 depth position inside straight closes outermost =>
    cases ends
    have next := (List.getElem?_eq_some_iff.mp closes.2).1
    omega
  | case3 depth position inside straight closes inner ih =>
    have := ih ends
    omega
  | case4 depth position inside straight other ih =>
    have := ih ends
    omega
  | case5 depth position outside => cases ends

theorem Reader.lineEnd_bounds (inside : start < bytes.length) :
    start < Reader.lineEnd bytes start ∧ Reader.lineEnd bytes start ≤ bytes.length := by
  rw [Reader.lineEnd]
  cases found : (bytes.drop start).findIdx? fun byte => byte = '\n'.toUInt8 with
  | none => exact ⟨inside, Nat.le_refl _⟩
  | some length =>
    obtain ⟨before, -⟩ := List.findIdx?_eq_some_iff_getElem.mp found
    rw [List.length_drop] at before
    dsimp only
    omega

theorem Reader.wordEnd_bounds (inside : start < bytes.length) :
    start ≤ Reader.wordEnd bytes start ∧ Reader.wordEnd bytes start ≤ bytes.length := by
  rw [Reader.wordEnd]
  cases found : (bytes.drop start).findIdx? fun byte => !Grammar.isWordByte byte with
  | none => exact ⟨Nat.le_of_lt inside, Nat.le_refl _⟩
  | some length =>
    obtain ⟨before, -⟩ := List.findIdx?_eq_some_iff_getElem.mp found
    rw [List.length_drop] at before
    dsimp only
    omega

theorem Reader.resume_bounds {mode : ReadingMode} {opened : Nat} {fault : GrammarFault}
    {ends : Option Nat} (inside : opened < bytes.length)
    (bounds : ∀ position, ends = some position → opened < position ∧ position ≤ bytes.length)
    (resumed : Reader.resume mode bytes opened fault ends = .ok stop) :
    opened < stop ∧ stop ≤ bytes.length := by
  cases ends with
  | some position =>
    cases resumed
    exact bounds stop rfl
  | none =>
    rw [Reader.resume] at resumed
    split at resumed <;> cases resumed
    exact ⟨inside, Nat.le_refl _⟩

end

section

variable {mode : ReadingMode} {text : String} {r next : Reader}

theorem Reader.unexpectedStart_ne_ok {position : Nat} :
    Reader.unexpectedStart text position ≠ some (.ok next) := by
  intro unexpected
  obtain ⟨rest, -, same⟩ := Option.map_eq_some_iff.mp unexpected
  cases same

/-- Reading the keyword of a statement goes past its first byte, as there is a word. -/
theorem Reader.statement_forward (inside : r.position < (textBytes text).length)
    (read : r.statement text = some (.ok next)) :
    r.position < next.position ∧ next.position ≤ (textBytes text).length := by
  have bounds := Reader.wordEnd_bounds inside
  rw [Reader.statement] at read
  split at read
  · exact (Reader.unexpectedStart_ne_ok read).elim
  · rename_i apart
    obtain ⟨word, -, same⟩ := Option.map_eq_some_iff.mp read
    split at same <;> cases same
    dsimp only
    omega

/-- Whatever is opened, the position moves strictly forward, and to at most the end of the text. -/
theorem Reader.follow_forward {opening : Segment.Opening}
    (inside : r.position < (textBytes text).length)
    (followed : r.follow mode text opening = some (.ok next)) :
    r.position < next.position ∧ next.position ≤ (textBytes text).length := by
  have moved : ∀ {stop : Except (Nat × GrammarFault) Nat},
      (∀ position, stop = .ok position → r.position < position ∧
        position ≤ (textBytes text).length) →
      some (stop.map r.moveTo) = some (.ok next) →
      r.position < next.position ∧ next.position ≤ (textBytes text).length := by
    intro stop bounds same
    cases stop with
    | error fault => cases same
    | ok position =>
      cases same
      exact bounds position rfl
  have one : r.position < r.position + 1 ∧ r.position + 1 ≤ (textBytes text).length := by omega
  cases opening with
  | quote closing escapes =>
    rw [Reader.follow] at followed
    split at followed
    · exact (Reader.unexpectedStart_ne_ok followed).elim
    · refine moved (fun position resumed => ?_) followed
      refine Reader.resume_bounds inside (fun stop ends => ?_) resumed
      have := Reader.quotedEnd_bounds ends
      omega
  | line =>
    cases followed
    exact Reader.lineEnd_bounds inside
  | block =>
    refine moved (fun position resumed => ?_) followed
    refine Reader.resume_bounds inside (fun stop ends => ?_) resumed
    have := Reader.commentEnd_bounds ends
    omega
  | separator =>
    cases followed
    exact one
  | placeholder =>
    rw [Reader.follow] at followed
    split at followed
    · exact (Reader.unexpectedStart_ne_ok followed).elim
    · obtain ⟨part, -, same⟩ := Option.map_eq_some_iff.mp followed
      cases same
      exact one
  | blank =>
    cases followed
    exact one
  | plain =>
    rw [Reader.follow] at followed
    split at followed
    · exact Reader.statement_forward inside followed
    · cases followed
      exact one

/-- A step moves the position strictly forward, and to at most the end of the text, so there are no
more steps than bytes. -/
theorem Reader.step_forward (stepped : r.step mode text = some (.ok next)) :
    r.position < next.position ∧ next.position ≤ (textBytes text).length := by
  rw [Reader.step] at stepped
  cases here : (textBytes text)[r.position]? with
  | none =>
    rw [here] at stepped
    cases stepped
  | some byte =>
    rw [here] at stepped
    exact Reader.follow_forward (List.getElem?_eq_some_iff.mp here).1 stepped

end

/-! ## The whole text -/

/-- Reads on to the end of the text. -/
def Reader.run (mode : ReadingMode) (text : String) (r : Reader) : Reader.Result Descriptor :=
  if r.position < (textBytes text).length then
    match stepped : r.step mode text with
    | none => none
    | some (.error fault) => some (.error fault)
    | some (.ok next) =>
      have := Reader.step_forward stepped
      Reader.run mode text next
  else r.finish text
termination_by (textBytes text).length - r.position
decreasing_by omega

/-- The error that a fault of a text is reported as. -/
def Reader.report (result : Except (Nat × GrammarFault) Descriptor) :
    Except QueryError Descriptor :=
  result.mapError fun fault => .grammar fault.1 fault.2

/-- Reads a query text by its bytes. -/
def Reader.read (mode : ReadingMode) (text : String) : Option (Except QueryError Descriptor) :=
  (Reader.start.run mode text).map Reader.report

end SqlDriver
