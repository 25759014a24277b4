import Mathlib.Data.List.DropRight
import Mathlib.Data.List.Forall2
import SqlDriver.Proofs.Client.Runs

/-!
The rows bound for a query, and the calls that made them. A call that is refused changes nothing, so
the rows follow from the calls that succeed. Those since the rows were last dropped fall into
segments, one for each sealed row and one for the row being filled, and a row holds what was bound
last in its segment.
-/

namespace SqlDriver

/-! ## Calls -/

/-- A call on the rows of a query. -/
inductive Bindings.Call where
  | change (change : Bindings.Change)
  /-- Checks that the row being filled is complete. -/
  | validate

/-- The rows after a call that succeeds. -/
def Bindings.perform (b : Bindings) : Bindings.Call → Except QueryError Bindings
  | .change (.bind parameter value) => b.bind parameter value
  | .change (.bindAs parameter value type) => b.bindAs parameter value type
  | .change (.bindNull parameter type) => b.bindNull parameter type
  | .change .add => b.add
  | .change .clear => .ok b.clear
  | .validate => b.check.map fun _ => b

/-- The rows after a call; one that is refused leaves them as they were. -/
def Bindings.after (b : Bindings) (call : Bindings.Call) : Bindings :=
  (b.perform call).toOption.getD b

/-- The rows after some calls, beginning with one empty row. -/
def Bindings.run (d : Descriptor) (calls : List Bindings.Call) : Bindings :=
  calls.foldl Bindings.after (Bindings.empty d)

/-- The calls that succeed when some are made one after another. -/
def Bindings.successes : Bindings → List Bindings.Call → List Bindings.Call
  | _, [] => []
  | b, call :: rest =>
    match b.perform call with
    | .ok b' => call :: b'.successes rest
    | .error _ => b.successes rest

/-! ## Histories -/

def Bindings.Call.isClear : Bindings.Call → Bool
  | .change .clear => true
  | _ => false

def Bindings.Call.isAdd : Bindings.Call → Bool
  | .change .add => true
  | _ => false

def Bindings.Call.isBind : Bindings.Call → Bool
  | .change (.bind _ _) | .change (.bindAs _ _ _) | .change (.bindNull _ _) => true
  | _ => false

/-- The segments of a history: the calls since the rows were last dropped, cut where a row was
sealed. -/
def Bindings.segments (history : List Bindings.Call) : List (List Bindings.Call) :=
  (history.rtakeWhile fun call => !call.isClear).splitOnP Bindings.Call.isAdd

/-- The segments whose rows are executed: the closed ones, and the open one if something was bound
in it or there is no other. -/
def Bindings.executed (closed : List (List Bindings.Call)) (opened : List Bindings.Call) :
    List (List Bindings.Call) :=
  closed ++ if opened.any Bindings.Call.isBind || closed.isEmpty then [opened] else []

/-- The name that a reference stands for in a query. -/
def Descriptor.nameOf? (d : Descriptor) : ParameterRef → Option String
  | .name name => if d.hasParameter name then some name else none
  | .index position => d.parameterAt? position

/-- The parameter that a call binds, and the value with its type. -/
def Bindings.Call.binding? (d : Descriptor) : Bindings.Call → Option (String × TypedValue)
  | .change (.bind parameter value) => do
    let name ← d.nameOf? parameter
    let type ← value.naturalType
    return (name, ⟨value, type⟩)
  | .change (.bindAs parameter value type) =>
    (d.nameOf? parameter).map fun name => (name, ⟨value, type⟩)
  | .change (.bindNull parameter type) =>
    (d.nameOf? parameter).map fun name => (name, .null type)
  | _ => none

/-- What was bound last to a parameter in a segment. -/
def Bindings.latest (d : Descriptor) (segment : List Bindings.Call) (name : String) :
    Option TypedValue :=
  (segment.filterMap (Bindings.Call.binding? d)).reverse.lookup name

/-- Whether a row lists all declared parameters in their order, each with what was bound last to it
in a segment. -/
structure Bindings.RowOf (d : Descriptor) (segment : List Bindings.Call) (row : NamedValues) :
    Prop where
  names : row.map Prod.fst = d.parameters
  values : ∀ entry ∈ row, Bindings.latest d segment entry.1 = some entry.2

/-- A reference by name in place of one by position. -/
def Descriptor.byName (d : Descriptor) : ParameterRef → ParameterRef
  | .name name => .name name
  | .index position =>
    match d.parameterAt? position with
    | some name => .name name
    | none => .index position

/-- The call that refers to its parameter by name. -/
def Bindings.Call.named (d : Descriptor) : Bindings.Call → Bindings.Call
  | .change (.bind parameter value) => .change (.bind (d.byName parameter) value)
  | .change (.bindAs parameter value type) => .change (.bindAs (d.byName parameter) value type)
  | .change (.bindNull parameter type) => .change (.bindNull (d.byName parameter) type)
  | call => call

/-! ## What a call does -/

section

variable {b b' : Bindings} {call : Bindings.Call} {name : String} {value : TypedValue}

theorem Bindings.nameOf_toOption (b : Bindings) (parameter : ParameterRef) :
    (b.nameOf parameter).toOption = b.descriptor.nameOf? parameter := by
  cases parameter with
  | name name =>
    rw [Bindings.nameOf, Descriptor.nameOf?]
    split <;> rfl
  | index position =>
    rw [Bindings.nameOf, Descriptor.nameOf?]
    split
    · rename_i found
      rw [found]
      rfl
    · rename_i absent
      rw [absent]
      rfl

/-- A bind puts its value in the row being filled, or it is refused. Which of the two is decided by
the declared parameters and the value alone. -/
theorem Bindings.perform_bind (b : Bindings) (bind : call.isBind = true) :
    (b.perform call).toOption =
      (call.binding? b.descriptor).map fun entry => b.set entry.1 entry.2 := by
  have typed (parameter : ParameterRef) (value : Value) (type : ValueType) :
      (b.bindAs parameter value type).toOption =
        ((b.descriptor.nameOf? parameter).map fun name => (name, TypedValue.mk value type)).map
          fun entry => b.set entry.1 entry.2 := by
    rw [← Bindings.nameOf_toOption, Bindings.bindAs]
    cases b.nameOf parameter <;> rfl
  cases call with
  | validate => cases bind
  | change change =>
    cases change with
    | bind parameter value =>
      rw [Bindings.perform, Bindings.Call.binding?, ← Bindings.nameOf_toOption, Bindings.bind]
      cases b.nameOf parameter with
      | error error => rfl
      | ok name => cases value.naturalType <;> rfl
    | bindAs parameter value type => exact typed parameter value type
    | bindNull parameter type => exact typed parameter .null type
    | add => cases bind
    | clear => cases bind

theorem Bindings.isBind_of_binding? {d : Descriptor} {entry : String × TypedValue}
    (given : call.binding? d = some entry) : call.isBind = true := by
  cases call with
  | validate => cases given
  | change change => cases change <;> first | rfl | cases given

end

/-- What a call that succeeds does. -/
inductive Bindings.Performs (b : Bindings) : Bindings.Call → Bindings → Prop
  | bind {call : Bindings.Call} {name : String} {value : TypedValue}
      (given : call.binding? b.descriptor = some (name, value)) :
      Bindings.Performs b call (b.set name value)
  | add (complete : b.missing = []) :
      Bindings.Performs b (.change .add)
        { b with sealedRows := b.sealedRows ++ [b.current], current := [] }
  | clear : Bindings.Performs b (.change .clear) b.clear
  | validate (complete : b.missing = []) : Bindings.Performs b .validate b

/-- A call that succeeds does one of four things: it binds a value, seals the row being filled,
clears everything or checks the row. -/
theorem Bindings.performs {b b' : Bindings} {call : Bindings.Call}
    (done : b.perform call = .ok b') : b.Performs call b' := by
  cases bind : call.isBind with
  | true =>
    have answer := b.perform_bind bind
    rw [done] at answer
    cases given : call.binding? b.descriptor with
    | none =>
      rw [given] at answer
      cases answer
    | some entry =>
      rw [given] at answer
      cases answer
      exact .bind given
  | false =>
    cases call with
    | validate =>
      rw [Bindings.perform, Bindings.check] at done
      split at done
      · rename_i complete
        cases done
        exact .validate (List.isEmpty_iff.mp complete)
      · cases done
    | change change =>
      cases change with
      | bind | bindAs | bindNull => cases bind
      | add =>
        rw [Bindings.perform, Bindings.add, Bindings.check] at done
        split at done
        · rename_i complete
          cases done
          exact .add (List.isEmpty_iff.mp complete)
        · cases done
      | clear =>
        cases done
        exact .clear

/-! ## Rows by their values -/

/-- The value of each parameter in a row. -/
def BoundRow.view (row : BoundRow) : String → Option TypedValue := fun name => row.lookup name

/-- A row is put in order by the values in it, so rows with the same values are put in the same
order, however they were filled. -/
theorem Bindings.ordered_eq (b : Bindings) :
    b.ordered = (fun view => b.descriptor.parameters.filterMap fun name =>
      (view name).map fun value => (name, value)) ∘ BoundRow.view := rfl

section

variable {row : BoundRow} {name : String} {value : TypedValue}

theorem BoundRow.lookup_filter_ne {other : String} (apart : other ≠ name) :
    (row.filter fun entry => entry.1 ≠ name).lookup other = row.lookup other := by
  induction row with
  | nil => rfl
  | cons entry row ih =>
    by_cases same : entry.1 = name
    · have differs : (other == entry.1) = false := by simp [same, apart]
      rw [List.filter_cons_of_neg (by simp [same]), ih, List.lookup_cons, differs]
    · rw [List.filter_cons_of_pos (by simp [same]), List.lookup_cons, List.lookup_cons, ih]

/-- Binding a value changes the value of its own parameter, and of no other. -/
theorem BoundRow.view_set :
    (row.set name value).view = Function.update row.view name (some value) := by
  funext other
  by_cases same : other = name
  · subst same
    rw [Function.update_self, BoundRow.view, BoundRow.set, List.lookup_cons_self]
  · have differs : (other == name) = false := by simp [same]
    rw [Function.update_of_ne same, BoundRow.view, BoundRow.set, List.lookup_cons, differs]
    exact BoundRow.lookup_filter_ne same

theorem BoundRow.view_eq_none : (row.view = fun _ => none) ↔ row = [] := by
  constructor
  · intro none
    cases row with
    | nil => rfl
    | cons entry row =>
      have first := congrFun none entry.1
      rw [BoundRow.view, List.lookup_cons_self] at first
      cases first
  · rintro rfl
    rfl

/-- One more bind in a segment is the latest for its parameter; any other call leaves the latest
values as they were. -/
theorem Bindings.latest_concat (d : Descriptor) (segment : List Bindings.Call)
    (call : Bindings.Call) :
    Bindings.latest d (segment ++ [call]) =
      match call.binding? d with
      | none => Bindings.latest d segment
      | some (name, value) => Function.update (Bindings.latest d segment) name (some value) := by
  funext other
  rw [Bindings.latest, List.filterMap_append]
  cases given : call.binding? d with
  | none => rw [List.filterMap_cons_none given, List.filterMap_nil, List.append_nil]; rfl
  | some entry =>
    obtain ⟨name, value⟩ := entry
    rw [List.filterMap_cons_some given, List.filterMap_nil, List.reverse_concat]
    dsimp only
    by_cases same : other = name
    · rw [same, List.lookup_cons_self, Function.update_self]
    · have differs : (other == name) = false := by simp [same]
      rw [List.lookup_cons, differs, Function.update_of_ne same]
      rfl

end

/-! ## Segments -/

/-- What comes last is in the last part, unless it is a mark between parts. -/
theorem splitOnP_concat {α : Type} {p : α → Bool} {last : α} (other : p last = false)
    {front : List α} {closed : List (List α)} {opened : List α}
    (cut : front.splitOnP p = closed ++ [opened]) :
    (front ++ [last]).splitOnP p = closed ++ [opened ++ [last]] := by
  induction front generalizing closed opened with
  | nil =>
    obtain ⟨rfl, same⟩ := List.append_eq_singleton_iff.mp cut.symm |>.resolve_right (by simp)
    rw [List.nil_append, List.splitOnP_cons_eq_if_modifyHead, other]
    cases same
    rfl
  | cons first front ih =>
    have parts := List.splitOnP_ne_nil p front
    rw [List.splitOnP_cons_eq_if_modifyHead] at cut
    rw [List.cons_append, List.splitOnP_cons_eq_if_modifyHead]
    cases mark : p first with
    | true =>
      rw [mark, if_pos rfl] at cut
      cases closed with
      | nil => exact absurd (List.cons.inj cut).2 parts
      | cons part closed =>
        obtain ⟨rfl, later⟩ := List.cons.inj cut
        rw [if_pos rfl, ih later]
        rfl
    | false =>
      rw [mark, if_neg Bool.false_ne_true] at cut
      obtain ⟨part, others, found⟩ := List.exists_cons_of_ne_nil parts
      rw [found, List.modifyHead_cons] at cut
      rw [if_neg Bool.false_ne_true]
      cases closed with
      | nil =>
        obtain ⟨rfl, rfl⟩ := List.cons.inj cut
        rw [@ih [] part found]
        rfl
      | cons head closed =>
        obtain ⟨rfl, rfl⟩ := List.cons.inj cut
        rw [@ih (part :: closed) opened found]
        rfl

/-- Clearing leaves one open segment without a call in it, whatever was there before. -/
theorem Bindings.segments_clear (history : List Bindings.Call) :
    Bindings.segments (history ++ [.change .clear]) = [[]] := by
  rw [Bindings.segments, List.rtakeWhile_concat_neg _ _ _ (by decide), List.splitOnP_nil]

/-- Sealing a row closes its segment, and opens the next one. -/
theorem Bindings.segments_add (history : List Bindings.Call) :
    Bindings.segments (history ++ [.change .add]) = Bindings.segments history ++ [[]] := by
  rw [Bindings.segments, List.rtakeWhile_concat_pos _ _ _ (by rfl),
    List.splitOnP_append_cons _ _ rfl, List.splitOnP_nil]
  rfl

/-- A call that neither seals nor clears goes to the end of the open segment. -/
theorem Bindings.segments_concat {history opened : List Bindings.Call}
    {closed : List (List Bindings.Call)} {call : Bindings.Call} (clear : call.isClear = false)
    (add : call.isAdd = false) (cut : Bindings.segments history = closed ++ [opened]) :
    Bindings.segments (history ++ [call]) = closed ++ [opened ++ [call]] := by
  rw [Bindings.segments, List.rtakeWhile_concat_pos _ _ _ (by simp [clear])]
  exact splitOnP_concat add cut

/-! ## The rows follow the history -/

/-- Whether a row holds what was bound last in a segment, which is something for every declared
parameter. -/
def Bindings.Fills (d : Descriptor) (segment : List Bindings.Call) (row : BoundRow) : Prop :=
  row.view = Bindings.latest d segment ∧
    ∀ name ∈ d.parameters, (Bindings.latest d segment name).isSome

/-- Whether the sealed rows hold what was bound last in some closed segments, and the row being
filled what was bound last in an open one. -/
structure Bindings.Holds (b : Bindings) (closed : List (List Bindings.Call))
    (opened : List Bindings.Call) : Prop where
  sealedRows : List.Forall₂ (Bindings.Fills b.descriptor) closed b.sealedRows
  current : b.current.view = Bindings.latest b.descriptor opened
  unbound : b.current = [] ↔ opened.any Bindings.Call.isBind = false

/-- Whether some rows are what a history made of one empty row. -/
def Bindings.Follows (b : Bindings) (d : Descriptor) (history : List Bindings.Call) : Prop :=
  b.descriptor = d ∧ ∃ closed opened, Bindings.segments history = closed ++ [opened] ∧
    b.Holds closed opened

section

variable {b b' : Bindings} {d : Descriptor} {history opened : List Bindings.Call}
  {closed : List (List Bindings.Call)} {call : Bindings.Call}

theorem Bindings.holds_empty (d : Descriptor) : (Bindings.empty d).Holds [] [] :=
  ⟨.nil, rfl, by simp [Bindings.empty]⟩

/-- The row being filled can be sealed when nothing is missing from it: it then has the latest value
that its segment has bound to each parameter. -/
theorem Bindings.Holds.fills (holds : b.Holds closed opened) (complete : b.missing = []) :
    Bindings.Fills b.descriptor opened b.current := by
  refine ⟨holds.current, fun name declared => ?_⟩
  rw [← holds.current, BoundRow.view, Option.isSome_iff_ne_none]
  intro absent
  have member : name ∈ b.missing := by
    rw [Bindings.missing, List.mem_filter, absent]
    exact ⟨declared, rfl⟩
  rw [complete] at member
  cases member

/-- Some rows and the row being filled are those of the closed segments and the open one. -/
theorem Bindings.Holds.all_fill (holds : b.Holds closed opened) (complete : b.missing = []) :
    List.Forall₂ (Bindings.Fills b.descriptor) (closed ++ [opened])
      (b.sealedRows ++ [b.current]) :=
  List.rel_append holds.sealedRows (.cons (holds.fills complete) .nil)

/-- A call that succeeds adds itself to the history: a bind to the open segment, while sealing
closes the segment and clearing drops them all. -/
theorem Bindings.Performs.follows (performs : b.Performs call b') (follows : b.Follows d history) :
    b'.Follows d (history ++ [call]) := by
  obtain ⟨rfl, closed, opened, cut, holds⟩ := follows
  cases performs with
  | @bind _ name value given =>
    have binds := Bindings.isBind_of_binding? given
    have apart : call.isClear = false ∧ call.isAdd = false := by
      cases call with
      | validate => cases binds
      | change change => cases change <;> first | exact ⟨rfl, rfl⟩ | cases binds
    refine ⟨rfl, closed, opened ++ [call], Bindings.segments_concat apart.1 apart.2 cut,
      holds.sealedRows, ?_, ?_⟩
    · rw [Bindings.set, BoundRow.view_set, holds.current]
      dsimp only
      rw [Bindings.latest_concat, given]
    · rw [Bindings.set, BoundRow.set]
      simp [binds]
  | add complete =>
    refine ⟨rfl, closed ++ [opened], [], ?_, holds.all_fill complete, rfl, by simp⟩
    rw [Bindings.segments_add, cut]
  | clear => exact ⟨rfl, [], [], Bindings.segments_clear history, Bindings.holds_empty _⟩
  | validate complete =>
    refine ⟨rfl, closed, opened ++ [.validate], Bindings.segments_concat rfl rfl cut,
      holds.sealedRows, ?_, ?_⟩
    · rw [Bindings.latest_concat, holds.current]
      rfl
    · rw [holds.unbound, List.any_append]
      simp [Bindings.Call.isBind]

/-- The rows follow the calls that succeed, however many there are; the calls that are refused in
between are no part of the history. -/
theorem Bindings.Follows.foldl (follows : b.Follows d history) (calls : List Bindings.Call) :
    (calls.foldl Bindings.after b).Follows d (history ++ b.successes calls) := by
  induction calls generalizing b history with
  | nil =>
    rw [Bindings.successes, List.append_nil]
    exact follows
  | cons call calls ih =>
    rw [List.foldl_cons, Bindings.successes, Bindings.after]
    cases done : b.perform call with
    | error error => exact ih follows
    | ok b' =>
      have later := ih ((Bindings.performs done).follows follows)
      rw [List.append_assoc] at later
      exact later

/-- From the first call on, the rows of a prepared statement are those of its history. -/
theorem Bindings.run_follows (d : Descriptor) (calls : List Bindings.Call) :
    (Bindings.run d calls).Follows d ((Bindings.empty d).successes calls) := by
  have start : (Bindings.empty d).Follows d [] := ⟨rfl, [], [], rfl, Bindings.holds_empty d⟩
  exact start.foldl calls

/-- No value is lost when a complete row is put in order, and none is added: the parameters are
those that are declared. -/
theorem Bindings.Fills.rowOf {segment : List Bindings.Call} {row : BoundRow}
    (fills : Bindings.Fills b.descriptor segment row) :
    Bindings.RowOf b.descriptor segment (b.ordered row) := by
  obtain ⟨view, complete⟩ := fills
  rw [← view] at complete
  constructor
  · -- Putting in order skips the parameters without a value, of which there are none.
    rw [Bindings.ordered, List.map_filterMap]
    conv_rhs => rw [← List.filterMap_some (l := b.descriptor.parameters)]
    refine List.filterMap_congr fun name declared => ?_
    obtain ⟨value, found⟩ := Option.isSome_iff_exists.mp (complete name declared)
    rw [BoundRow.view] at found
    rw [found]
    rfl
  · rintro ⟨name, value⟩ member
    rw [Bindings.ordered, List.mem_filterMap] at member
    obtain ⟨declared, -, found⟩ := member
    obtain ⟨bound, here, same⟩ := Option.map_eq_some_iff.mp found
    cases same
    rw [← view]
    exact here

/-- The rows to execute are those of the segments that count: the closed ones, and the open one if
something is bound in it or there is no other. -/
theorem Bindings.Holds.rows (holds : b.Holds closed opened) {rows : List NamedValues}
    (ready : b.rowsToExecute = .ok rows) :
    List.Forall₂ (Bindings.RowOf b.descriptor) (Bindings.executed closed opened) rows := by
  have ordered {segments : List (List Bindings.Call)} {bound : List BoundRow}
      (fill : List.Forall₂ (Bindings.Fills b.descriptor) segments bound) :
      List.Forall₂ (Bindings.RowOf b.descriptor) segments (bound.map b.ordered) :=
    List.forall₂_map_right_iff.mpr (fill.imp fun _ _ => Bindings.Fills.rowOf)
  have many : closed.isEmpty = b.sealedRows.isEmpty := by
    rw [Bool.eq_iff_iff, List.isEmpty_iff_length_eq_zero, List.isEmpty_iff_length_eq_zero,
      holds.sealedRows.length_eq]
  -- The row being filled counts in the code when it is not empty, and in the history when something
  -- was bound since the last row was sealed.
  rw [Bindings.rowsToExecute] at ready
  rw [Bindings.executed, many]
  split at ready
  · rename_i trailing
    rw [Bool.and_eq_true, List.isEmpty_iff, Bool.not_eq_true'] at trailing
    cases ready
    rw [holds.unbound.mp trailing.1, trailing.2]
    simpa using ordered holds.sealedRows
  · rename_i counts
    have last : (opened.any Bindings.Call.isBind || b.sealedRows.isEmpty) = true := by
      rw [Bool.and_eq_true, List.isEmpty_iff, holds.unbound, Bool.not_eq_true'] at counts
      rw [Bool.or_eq_true]
      by_cases bound : opened.any Bindings.Call.isBind = true
      · exact .inl bound
      · exact .inr (by simpa [bound] using counts)
    rw [Bindings.check] at ready
    split at ready
    · rename_i complete
      cases ready
      rw [if_pos last]
      exact ordered (holds.all_fill (List.isEmpty_iff.mp complete))
    · cases ready

end

/-! ## References -/

/-- What a parameter is called by makes no difference to a call: by its position or by its name,
with the dollar sign or without. -/
theorem Bindings.perform_named (b : Bindings) (call : Bindings.Call) :
    b.perform (call.named b.descriptor) = b.perform call := by
  have same (parameter : ParameterRef) :
      b.nameOf (b.descriptor.byName parameter) = b.nameOf parameter := by
    cases parameter with
    | name name => rfl
    | index position =>
      rw [Descriptor.byName]
      split
      · rename_i name found
        have declared : b.descriptor.hasParameter name = true := by
          rw [Descriptor.parameterAt?] at found
          split at found
          · cases found
          · rw [Descriptor.hasParameter, List.contains_iff_mem]
            exact List.mem_of_getElem? found
        rw [Bindings.nameOf, Bindings.nameOf, if_pos declared, found]
      · rfl
  have typed (parameter : ParameterRef) (value : Value) (type : ValueType) :
      b.bindAs (b.descriptor.byName parameter) value type = b.bindAs parameter value type := by
    rw [Bindings.bindAs, same]
    rfl
  cases call with
  | validate => rfl
  | change change =>
    cases change with
    | bind parameter value =>
      rw [Bindings.Call.named, Bindings.perform, Bindings.bind, same]
      rfl
    | bindAs parameter value type => exact typed parameter value type
    | bindNull parameter type => exact typed parameter .null type
    | add => rfl
    | clear => rfl

theorem Bindings.descriptor_after (b : Bindings) (call : Bindings.Call) :
    (b.after call).descriptor = b.descriptor := by
  rw [Bindings.after]
  cases done : b.perform call with
  | error error => rfl
  | ok b' => cases Bindings.performs done <;> rfl

theorem Bindings.foldl_named (b : Bindings) (calls : List Bindings.Call) :
    (calls.map (Bindings.Call.named b.descriptor)).foldl Bindings.after b =
      calls.foldl Bindings.after b := by
  induction calls generalizing b with
  | nil => rfl
  | cons call calls ih =>
    have here : b.after (call.named b.descriptor) = b.after call := by
      rw [Bindings.after, Bindings.perform_named]
      rfl
    rw [List.map_cons, List.foldl_cons, List.foldl_cons, here, ← ih, Bindings.descriptor_after]

/-! ## The order of binds -/

/-- Whether the rows have the same values, whatever the order in which they were given. -/
structure Bindings.Alike (b b' : Bindings) : Prop where
  descriptor : b'.descriptor = b.descriptor
  sealedRows : b'.sealedRows.map BoundRow.view = b.sealedRows.map BoundRow.view
  current : b'.current.view = b.current.view

section

variable {b b' : Bindings}

theorem Bindings.after_bind (b : Bindings) {call : Bindings.Call} (bind : call.isBind = true) :
    b.after call = match call.binding? b.descriptor with
      | some (name, value) => b.set name value
      | none => b := by
  rw [Bindings.after, Bindings.perform_bind b bind]
  cases call.binding? b.descriptor <;> rfl

theorem Bindings.after_add (b : Bindings) :
    b.after (.change .add) = if b.missing.isEmpty then
      { b with sealedRows := b.sealedRows ++ [b.current], current := [] } else b := by
  rw [Bindings.after, Bindings.perform, Bindings.add, Bindings.check]
  split <;> rfl

theorem Bindings.after_validate (b : Bindings) : b.after .validate = b := by
  rw [Bindings.after, Bindings.perform]
  cases b.check <;> rfl

theorem Bindings.Alike.missing (alike : b.Alike b') : b'.missing = b.missing := by
  unfold Bindings.missing
  rw [alike.descriptor]
  refine List.filter_congr fun name _ => ?_
  have same := congrFun alike.current name
  rw [BoundRow.view, BoundRow.view] at same
  rw [same]

/-- Rows with the same values stay so under every call, since no call looks at the order in which
values were bound. -/
theorem Bindings.Alike.after (alike : b.Alike b') (call : Bindings.Call) :
    (b.after call).Alike (b'.after call) := by
  cases bind : call.isBind with
  | true =>
    rw [Bindings.after_bind b bind, Bindings.after_bind b' bind, alike.descriptor]
    cases call.binding? b.descriptor with
    | none => exact alike
    | some entry =>
      refine ⟨alike.descriptor, alike.sealedRows, ?_⟩
      simp only [Bindings.set, BoundRow.view_set, alike.current]
  | false =>
    cases call with
    | validate =>
      rw [Bindings.after_validate, Bindings.after_validate]
      exact alike
    | change change =>
      cases change with
      | bind | bindAs | bindNull => cases bind
      | add =>
        rw [Bindings.after_add, Bindings.after_add, alike.missing]
        split
        · refine ⟨alike.descriptor, ?_, rfl⟩
          simp [alike.sealedRows, alike.current]
        · exact alike
      | clear => exact ⟨alike.descriptor, rfl, rfl⟩

theorem Bindings.Alike.foldl (alike : b.Alike b') (calls : List Bindings.Call) :
    (calls.foldl Bindings.after b).Alike (calls.foldl Bindings.after b') := by
  induction calls generalizing b b' with
  | nil => exact alike
  | cons call calls ih => exact ih (alike.after call)

theorem Bindings.Alike.batchLength (alike : b.Alike b') : b'.batchLength = b.batchLength := by
  have same := congrArg List.length alike.sealedRows
  rwa [List.length_map, List.length_map] at same

/-- Rows with the same values are executed alike, and are refused alike as long as they are not
complete. -/
theorem Bindings.Alike.rowsToExecute (alike : b.Alike b') :
    b'.rowsToExecute = b.rowsToExecute := by
  have unbound : b'.current.isEmpty = b.current.isEmpty := by
    rw [Bool.eq_iff_iff, List.isEmpty_iff, List.isEmpty_iff, ← BoundRow.view_eq_none,
      ← BoundRow.view_eq_none, alike.current]
  have many : b'.sealedRows.isEmpty = b.sealedRows.isEmpty := by
    have length : b'.sealedRows.length = b.sealedRows.length := alike.batchLength
    rw [Bool.eq_iff_iff, List.isEmpty_iff_length_eq_zero, List.isEmpty_iff_length_eq_zero, length]
  have check : b'.check = b.check := by
    rw [Bindings.check, Bindings.check, alike.missing]
  have ordered {rows rows' : List BoundRow}
      (same : rows'.map BoundRow.view = rows.map BoundRow.view) :
      rows'.map b'.ordered = rows.map b.ordered := by
    rw [Bindings.ordered_eq, Bindings.ordered_eq, ← List.map_map, ← List.map_map, same,
      alike.descriptor]
  have all : (b'.sealedRows ++ [b'.current]).map BoundRow.view =
      (b.sealedRows ++ [b.current]).map BoundRow.view := by
    rw [List.map_append, List.map_append, alike.sealedRows, List.map_singleton, alike.current,
      List.map_singleton]
  rw [Bindings.rowsToExecute, Bindings.rowsToExecute, unbound, many, check,
    ordered alike.sealedRows, ordered all]

/-- Two binds to different parameters leave the same values in either order. If one of them is
refused, it is so in either order. -/
theorem Bindings.alike_swap (b : Bindings) {x y : Bindings.Call} (bind : x.isBind = true)
    (bind' : y.isBind = true)
    (apart : ∀ name value value', x.binding? b.descriptor = some (name, value) →
      y.binding? b.descriptor ≠ some (name, value')) :
    ((b.after x).after y).Alike ((b.after y).after x) := by
  rw [Bindings.after_bind (b.after x) bind', Bindings.after_bind (b.after y) bind,
    Bindings.descriptor_after, Bindings.descriptor_after, Bindings.after_bind b bind,
    Bindings.after_bind b bind']
  cases first : x.binding? b.descriptor with
  | none => cases y.binding? b.descriptor <;> exact ⟨rfl, rfl, rfl⟩
  | some entry =>
    cases second : y.binding? b.descriptor with
    | none => exact ⟨rfl, rfl, rfl⟩
    | some entry' =>
      refine ⟨rfl, rfl, ?_⟩
      have differs : entry.1 ≠ entry'.1 := by
        intro same
        refine apart entry.1 entry.2 entry'.2 first ?_
        rw [second, same]
      simp only [Bindings.set, BoundRow.view_set]
      exact Function.update_comm differs.symm _ _ _

end

/-- The rows are those of the history of the calls that succeed: a sealed row for each closed
segment, and whenever the rows can be executed, the open segment has one among them if something was
bound in it or there is no other; each row lists all declared parameters in their order, each with
what was bound last to it in its segment. A position stands for the name that is declared there, and
two binds to different parameters, one right after the other, may change places. -/
theorem Bindings.rows_follow_history (d : Descriptor) (calls : List Bindings.Call) :
    (∃ closed opened,
      Bindings.segments ((Bindings.empty d).successes calls) = closed ++ [opened] ∧
      (Bindings.run d calls).batchLength = closed.length ∧
      ∀ rows, (Bindings.run d calls).rowsToExecute = .ok rows →
        List.Forall₂ (Bindings.RowOf d) (Bindings.executed closed opened) rows) ∧
    Bindings.run d (calls.map (Bindings.Call.named d)) = Bindings.run d calls ∧
    ∀ before x y later, calls = before ++ x :: y :: later →
      x.isBind = true → y.isBind = true →
      (∀ name value value', x.binding? d = some (name, value) →
        y.binding? d ≠ some (name, value')) →
      (Bindings.run d (before ++ y :: x :: later)).batchLength =
          (Bindings.run d calls).batchLength ∧
        (Bindings.run d (before ++ y :: x :: later)).rowsToExecute =
          (Bindings.run d calls).rowsToExecute := by
  refine ⟨?_, Bindings.foldl_named (Bindings.empty d) calls, ?_⟩
  · obtain ⟨same, closed, opened, cut, holds⟩ := Bindings.run_follows d calls
    refine ⟨closed, opened, cut, holds.sealedRows.length_eq.symm, fun rows ready => ?_⟩
    rw [← same]
    exact holds.rows ready
  · rintro before x y later rfl bind bind' apart
    have same : (Bindings.run d before).descriptor = d := (Bindings.run_follows d before).1
    have swapped := Bindings.alike_swap (Bindings.run d before) bind bind' (by rwa [same])
    have alike : (Bindings.run d (before ++ x :: y :: later)).Alike
        (Bindings.run d (before ++ y :: x :: later)) := by
      rw [Bindings.run, Bindings.run, List.foldl_append, List.foldl_append]
      exact swapped.foldl later
    exact ⟨alike.batchLength, alike.rowsToExecute⟩

/-- A row that was sealed late, since it was incomplete at first, and one that was not sealed. -/
theorem Bindings.rows_follow_history_unsealed :
    let text := "UPSERT INTO t (a, b) VALUES (?, ?)"
    let d : Descriptor := ⟨text, "UPSERT INTO t (a, b) VALUES ($jp1, $jp2)", .data,
      ["$jp1", "$jp2"], [.update]⟩
    let first : List Bindings.Call := [.change (.bind (.name "$jp1") (.bool true)), .change .add,
      .change (.bindNull (.name "$jp2") .text), .change (.bind (.index 1) (.bool false)),
      .change .add, .validate, .change (.bind (.index 2) .null)]
    let second : Bindings.Call := .change (.bind (.index 2) (.text "é"))
    let third : Bindings.Call := .change (.bindNull (.index 1) .bool)
    Descriptor.parse .strict text = .ok d ∧ ∃ rows closed opened,
      (Bindings.run d (first ++ [second, third])).rowsToExecute = .ok rows ∧
      Bindings.segments ((Bindings.empty d).successes (first ++ [second, third])) =
        closed ++ [opened] ∧
      closed.length = 1 ∧ rows.length = 2 ∧
      List.Forall₂ (Bindings.RowOf d) (Bindings.executed closed opened) rows ∧
      (Bindings.run d (first ++ [third, second])).rowsToExecute = .ok rows := by
  intro text d first second third
  have two : (Bindings.run d (first ++ [second, third])).rowsToExecute.toOption.map List.length =
      some 2 := by
    decide +kernel
  have one : (Bindings.run d (first ++ [second, third])).batchLength = 1 := by decide +kernel
  cases ready : (Bindings.run d (first ++ [second, third])).rowsToExecute with
  | error error =>
    rw [ready] at two
    cases two
  | ok rows =>
    rw [ready] at two
    obtain ⟨⟨closed, opened, cut, length, follow⟩, -, swap⟩ :=
      Bindings.rows_follow_history d (first ++ [second, third])
    have apart (name : String) (value value' : TypedValue)
        (given : second.binding? d = some (name, value)) :
        third.binding? d ≠ some (name, value') := by
      have here : "$jp2" = name := congrArg Prod.fst (Option.some.inj given)
      intro given'
      have there : "$jp1" = name := congrArg Prod.fst (Option.some.inj given')
      exact absurd (here.trans there.symm) (by decide)
    have swapped := (swap first second third [] rfl rfl rfl apart).2
    exact ⟨by decide +kernel, rows, closed, opened, rfl, cut, length.symm.trans one,
      Option.some.inj two, follow rows ready, swapped.trans ready⟩

end SqlDriver
