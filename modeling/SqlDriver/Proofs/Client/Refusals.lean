import SqlDriver.Proofs.Client.Groups
import SqlDriver.Proofs.Client.History

/-!
Calls on the rows of a query that are refused. A bind is refused for what it refers to, or because
it gives a null without a type; the row being filled cannot be sealed, nor the rows be executed,
while a declared parameter is unbound in it. The reasons are those of the history of the calls that
succeed, and a call that is refused is as if it had not been made.
-/

namespace SqlDriver

/-! ## What is unbound -/

/-- Whether a call binds the parameter of that name. -/
def Bindings.Call.binds (d : Descriptor) (name : String) (call : Bindings.Call) : Bool :=
  (call.binding? d).any fun entry => entry.1 = name

/-- The declared parameters that no call of a segment binds, in their order. -/
def Bindings.unbound (d : Descriptor) (segment : List Bindings.Call) : List String :=
  d.parameters.filter fun name => !segment.any (Bindings.Call.binds d name)

/-- A segment leaves a parameter without a value exactly if no call in it binds the parameter. -/
theorem Bindings.latest_isNone (d : Descriptor) (segment : List Bindings.Call) (name : String) :
    (Bindings.latest d segment name).isNone = !segment.any (Bindings.Call.binds d name) := by
  induction segment using List.reverseRecOn with
  | nil => rfl
  | append_singleton segment call ih =>
    rw [Bindings.latest_concat, List.any_append, List.any_cons, List.any_nil, Bool.or_false,
      Bindings.Call.binds]
    cases given : call.binding? d with
    | none =>
      rw [Option.any_none, Bool.or_false]
      exact ih
    | some entry =>
      obtain ⟨bound, value⟩ := entry
      rw [Option.any_some]
      by_cases same : name = bound
      · subst same
        dsimp only
        rw [Function.update_self, decide_eq_true rfl, Bool.or_true]
        rfl
      · dsimp only
        rw [Function.update_of_ne same, decide_eq_false (Ne.symm same), Bool.or_false]
        exact ih

/-- What is missing from the row being filled is what the open segment leaves unbound, in the order
in which the parameters are declared. -/
theorem Bindings.Holds.missing {b : Bindings} {closed : List (List Bindings.Call)}
    {opened : List Bindings.Call} (holds : b.Holds closed opened) :
    b.missing = Bindings.unbound b.descriptor opened := by
  refine List.filter_congr fun name _ => ?_
  rw [← Bindings.latest_isNone, ← holds.current]
  rfl

/-! ## Reasons -/

/-- The parameter that a call refers to, if it is a bind. -/
def Bindings.Call.parameter? : Bindings.Call → Option ParameterRef
  | .change (.bind parameter _) => some parameter
  | .change (.bindAs parameter _ _) => some parameter
  | .change (.bindNull parameter _) => some parameter
  | _ => none

/-- Whether a call needs the row being filled to be complete. -/
def Bindings.Call.needsComplete : Bindings.Call → Bool
  | .change .add => true
  | .validate => true
  | _ => false

/-- Why a call is refused while some parameters are unbound in the row being filled. -/
inductive Bindings.Refuses (d : Descriptor) (unbound : List String) :
    Bindings.Call → QueryError → Prop
  | unknown {call : Bindings.Call} {name : String} (refers : call.parameter? = some (.name name))
      (undeclared : name ∉ d.parameters) :
      Bindings.Refuses d unbound call (.unknownParameter name)
  /-- Positions are counted from one. -/
  | outOfRange {call : Bindings.Call} {position : Nat}
      (refers : call.parameter? = some (.index position))
      (outside : position = 0 ∨ d.parameters.length < position) :
      Bindings.Refuses d unbound call (.indexOutOfRange position d.parameters.length)
  | untypedNull {parameter : ParameterRef} {name : String}
      (refers : d.nameOf? parameter = some name) :
      Bindings.Refuses d unbound (.change (.bind parameter .null)) (.untypedNull name)
  | incomplete {call : Bindings.Call} (needs : call.needsComplete = true)
      (lacks : unbound ≠ []) : Bindings.Refuses d unbound call (.missingParameters unbound)

/-- What is wrong with a reference that stands for no parameter. -/
inductive Descriptor.Misses (d : Descriptor) : ParameterRef → QueryError → Prop
  | unknown {name : String} (undeclared : name ∉ d.parameters) :
      Descriptor.Misses d (.name name) (.unknownParameter name)
  | outOfRange {position : Nat} (outside : position = 0 ∨ d.parameters.length < position) :
      Descriptor.Misses d (.index position) (.indexOutOfRange position d.parameters.length)

section

variable {b : Bindings} {parameter : ParameterRef} {error : QueryError}

/-- Positions are counted from one, up to the number of the declared parameters. -/
theorem Descriptor.parameterAt?_eq_none (d : Descriptor) (position : Nat) :
    d.parameterAt? position = none ↔ position = 0 ∨ d.parameters.length < position := by
  rw [Descriptor.parameterAt?]
  split
  · rename_i zero
    exact iff_of_true rfl (Or.inl zero)
  · rename_i positive
    rw [List.getElem?_eq_none_iff]
    omega

/-- A reference is refused exactly when it stands for no parameter, and with the reason that says
how it misses. -/
theorem Bindings.nameOf_eq_error_iff :
    b.nameOf parameter = .error error ↔ b.descriptor.Misses parameter error := by
  cases parameter with
  | name name =>
    have declared : b.descriptor.hasParameter name = true ↔ name ∈ b.descriptor.parameters :=
      List.contains_iff_mem
    rw [Bindings.nameOf]
    constructor
    · intro refused
      split at refused
      · cases refused
      · rename_i undeclared
        cases refused
        exact .unknown (mt declared.mpr undeclared)
    · rintro (undeclared | _)
      exact if_neg (mt declared.mp undeclared)
  | index position =>
    rw [Bindings.nameOf]
    constructor
    · intro refused
      split at refused
      · cases refused
      · rename_i absent
        cases refused
        exact .outOfRange ((b.descriptor.parameterAt?_eq_none position).mp absent)
    · rintro (_ | outside)
      rw [(b.descriptor.parameterAt?_eq_none position).mpr outside]

theorem Bindings.nameOf_eq_ok_iff {name : String} :
    b.nameOf parameter = .ok name ↔ b.descriptor.nameOf? parameter = some name := by
  rw [← Bindings.nameOf_toOption]
  cases b.nameOf parameter with
  | error error => constructor <;> intro refused <;> cases refused
  | ok found => exact ⟨fun same => by cases same; rfl, fun same => by cases same; rfl⟩

/-- A reference is wrong in the same way for every bind that it stands in. -/
theorem Descriptor.Misses.refuses {d : Descriptor} (misses : d.Misses parameter error)
    (unbound : List String) {call : Bindings.Call} (refers : call.parameter? = some parameter) :
    Bindings.Refuses d unbound call error := by
  cases misses with
  | unknown undeclared => exact .unknown refers undeclared
  | outOfRange outside => exact .outOfRange refers outside

/-- A bind that is refused for more than its reference gives a null without a type. -/
theorem Bindings.Refuses.misses {d : Descriptor} {unbound : List String} {call : Bindings.Call}
    (refuses : Bindings.Refuses d unbound call error)
    (refers : call.parameter? = some parameter) :
    d.Misses parameter error ∨ ∃ name, d.nameOf? parameter = some name ∧
      call = .change (.bind parameter .null) ∧ error = .untypedNull name := by
  cases refuses with
  | unknown refers' undeclared =>
    cases refers.symm.trans refers'
    exact Or.inl (.unknown undeclared)
  | outOfRange refers' outside =>
    cases refers.symm.trans refers'
    exact Or.inl (.outOfRange outside)
  | untypedNull named =>
    cases refers
    exact Or.inr ⟨_, named, rfl, rfl⟩
  | incomplete needs lacks =>
    cases call with
    | validate => cases refers
    | change change =>
      cases change with
      | add => cases refers
      | bind | bindAs | bindNull | clear => cases needs

/-! ## Calls -/

/-- A row is refused for all the parameters that it leaves unbound at once, and only if there is
one. -/
theorem Bindings.check_eq_error_iff :
    b.check = .error error ↔ b.missing ≠ [] ∧ error = .missingParameters b.missing := by
  rw [Bindings.check]
  split
  · rename_i complete
    refine iff_of_false ?_ fun incomplete => incomplete.1 (List.isEmpty_iff.mp complete)
    intro refused
    cases refused
  · rename_i incomplete
    rw [List.isEmpty_iff] at incomplete
    constructor
    · intro refused
      cases refused
      exact ⟨incomplete, rfl⟩
    · rintro ⟨-, rfl⟩
      rfl

/-- A bind with a type is refused only for its reference. -/
theorem Bindings.bindAs_eq_error_iff {value : Value} {type : ValueType} :
    b.bindAs parameter value type = .error error ↔ b.descriptor.Misses parameter error := by
  rw [← Bindings.nameOf_eq_error_iff, Bindings.bindAs]
  cases b.nameOf parameter with
  | error error' =>
    constructor <;>
    · intro refused
      cases refused
      rfl
  | ok name => constructor <;> intro refused <;> cases refused

/-- A bind without a type is refused for its reference, or because its value is null. The reference
is looked at first, so a null for a parameter that is not there is refused for the reference. -/
theorem Bindings.bind_eq_error_iff {value : Value} :
    b.bind parameter value = .error error ↔ b.descriptor.Misses parameter error ∨
      ∃ name, b.descriptor.nameOf? parameter = some name ∧ value = .null ∧
        error = .untypedNull name := by
  rw [Bindings.bind]
  cases named : b.nameOf parameter with
  | error error' =>
    rw [← Bindings.nameOf_eq_error_iff, named]
    constructor
    · intro refused
      cases refused
      exact Or.inl rfl
    · rintro (refused | ⟨name, found, -, -⟩)
      · cases refused
        rfl
      · rw [Bindings.nameOf_eq_ok_iff.mpr found] at named
        cases named
  | ok name =>
    have found := Bindings.nameOf_eq_ok_iff.mp named
    rw [← Bindings.nameOf_eq_error_iff, named, found]
    have typed : value.naturalType = none ↔ value = .null := by
      cases value <;> simp [Value.naturalType]
    cases type : value.naturalType with
    | some type =>
      constructor
      · intro refused
        cases refused
      · rintro (refused | ⟨-, -, null, -⟩)
        · cases refused
        · rw [typed.mpr null] at type
          cases type
    | none =>
      have null := typed.mp type
      subst null
      constructor
      · intro refused
        cases refused
        exact Or.inr ⟨name, rfl, rfl, rfl⟩
      · rintro (refused | ⟨other, same, -, rfl⟩)
        · cases refused
        · cases same
          rfl

/-- A call that needs a complete row is refused exactly when the row is not complete: sealing and
checking are refused for the same reason. -/
theorem Bindings.perform_needsComplete {call : Bindings.Call} (needs : call.needsComplete = true) :
    b.perform call = .error error ↔ b.check = .error error := by
  cases call with
  | validate =>
    rw [Bindings.perform]
    cases b.check with
    | ok complete => constructor <;> intro refused <;> cases refused
    | error error' =>
      constructor <;>
      · intro refused
        cases refused
        rfl
  | change change =>
    cases change with
    | bind | bindAs | bindNull | clear => cases needs
    | add =>
      rw [Bindings.perform, Bindings.add]
      cases b.check with
      | ok complete => constructor <;> intro refused <;> cases refused
      | error error' =>
        constructor <;>
        · intro refused
          cases refused
          rfl

theorem Bindings.refuses_needsComplete {d : Descriptor} {unbound : List String}
    {call : Bindings.Call} (needs : call.needsComplete = true) :
    Bindings.Refuses d unbound call error ↔
      unbound ≠ [] ∧ error = .missingParameters unbound := by
  have noBind : call.parameter? = none := by
    cases call with
    | validate => rfl
    | change change =>
      cases change with
      | add => rfl
      | bind | bindAs | bindNull | clear => cases needs
  constructor
  · intro refuses
    cases refuses with
    | unknown refers | outOfRange refers =>
      rw [noBind] at refers
      cases refers
    | untypedNull named => cases needs
    | incomplete needs lacks => exact ⟨lacks, rfl⟩
  · rintro ⟨lacks, rfl⟩
    exact .incomplete needs lacks

/-- Calls are refused for these reasons and for no other, so a call that has none of them succeeds.
-/
theorem Bindings.perform_eq_error_iff {call : Bindings.Call} :
    b.perform call = .error error ↔ Bindings.Refuses b.descriptor b.missing call error := by
  have complete (needs : call.needsComplete = true) :
      b.perform call = .error error ↔ Bindings.Refuses b.descriptor b.missing call error := by
    rw [Bindings.perform_needsComplete needs, Bindings.check_eq_error_iff,
      Bindings.refuses_needsComplete needs]
  have typed {parameter : ParameterRef} {value : Value} {type : ValueType}
      (refers : call.parameter? = some parameter)
      (other : call ≠ .change (.bind parameter .null)) :
      b.bindAs parameter value type = .error error ↔
        Bindings.Refuses b.descriptor b.missing call error := by
    rw [Bindings.bindAs_eq_error_iff]
    refine ⟨fun misses => misses.refuses _ refers, fun refuses => ?_⟩
    rcases refuses.misses refers with misses | ⟨-, -, same, -⟩
    · exact misses
    · exact absurd same other
  cases call with
  | validate => exact complete rfl
  | change change =>
    cases change with
    | bind parameter value =>
      rw [Bindings.perform, Bindings.bind_eq_error_iff]
      constructor
      · rintro (misses | ⟨name, named, rfl, rfl⟩)
        · exact misses.refuses _ rfl
        · exact .untypedNull named
      · intro refuses
        rcases refuses.misses rfl with misses | ⟨name, named, same, rfl⟩
        · exact Or.inl misses
        · cases same
          exact Or.inr ⟨name, named, rfl, rfl⟩
    | bindAs parameter value type => exact typed rfl (by intro same; cases same)
    | bindNull parameter type => exact typed rfl (by intro same; cases same)
    | add => exact complete rfl
    | clear =>
      refine iff_of_false (by intro refused; cases refused) ?_
      intro refuses
      cases refuses with
      | incomplete needs lacks => cases needs
      | unknown refers | outOfRange refers => cases refers

/-- The rows are refused when the one being filled counts and is not complete. It does not count if
nothing is bound in it and others were sealed. -/
theorem Bindings.rowsToExecute_eq_error_iff :
    b.rowsToExecute = .error error ↔
      (b.missing ≠ [] ∧ ¬ (b.current = [] ∧ b.sealedRows ≠ [])) ∧
        error = .missingParameters b.missing := by
  rw [Bindings.rowsToExecute]
  split
  · rename_i trailing
    rw [Bool.and_eq_true, List.isEmpty_iff, Bool.not_eq_true', List.isEmpty_eq_false_iff]
      at trailing
    refine iff_of_false ?_ fun refused => refused.1.2 trailing
    intro refused
    cases refused
  · rename_i counts
    rw [Bool.and_eq_true, List.isEmpty_iff, Bool.not_eq_true', List.isEmpty_eq_false_iff] at counts
    rw [and_iff_left counts, ← Bindings.check_eq_error_iff]
    cases b.check with
    | ok complete => constructor <;> intro refused <;> cases refused
    | error error' =>
      constructor <;>
      · intro refused
        cases refused
        rfl

end

/-! ## Without effect -/

/-- What calls answer when they are made one after another. -/
def Bindings.answers : Bindings → List Bindings.Call → List (Except QueryError Unit)
  | _, [] => []
  | b, call :: rest => (b.perform call).map (fun _ => ()) :: (b.after call).answers rest

section

variable {b : Bindings} {call : Bindings.Call} {error : QueryError}

/-- A call that is refused leaves everything as it was, also what it would have replaced. -/
theorem Bindings.after_of_refused (refused : b.perform call = .error error) : b.after call = b := by
  rw [Bindings.after, refused]
  rfl

theorem Bindings.answers_append (b : Bindings) (calls later : List Bindings.Call) :
    b.answers (calls ++ later) =
      b.answers calls ++ (calls.foldl Bindings.after b).answers later := by
  induction calls generalizing b with
  | nil => rfl
  | cons call calls ih => exact congrArg _ (ih (b.after call))

/-- A change to a prepared statement is the call on its rows: it answers as the call does, and leaves
the rows that the call leaves. -/
theorem PreparedStatement.apply_eq (s : PreparedStatement) (change : Bindings.Change) :
    s.apply change = ⟨s.bindings.after (.change change)⟩ ∧
      ∀ error, s.respond change = .failed (.query error) ↔
        s.bindings.perform (.change change) = .error error := by
  have changed (call : Bindings → Except QueryError Bindings) :
      (s.change call).2 = ⟨(call s.bindings).toOption.getD s.bindings⟩ ∧
        ∀ error, (s.change call).1 = .failed (.query error) ↔ call s.bindings = .error error := by
    rw [PreparedStatement.change]
    cases call s.bindings with
    | ok bindings => exact ⟨rfl, fun error => by constructor <;> intro refused <;> cases refused⟩
    | error error' =>
      refine ⟨rfl, fun error => ?_⟩
      constructor <;>
      · intro refused
        cases refused
        rfl
  cases change with
  | bind parameter value => exact changed (·.bind parameter value)
  | bindAs parameter value type => exact changed (·.bindAs parameter value type)
  | bindNull parameter type => exact changed (·.bindNull parameter type)
  | add => exact changed Bindings.add
  | clear => exact ⟨rfl, fun error => by constructor <;> intro refused <;> cases refused⟩

end

/-- Calls are refused exactly and without effect. After any calls, a bind is refused if and only if
the name that it refers to is not declared, its position is zero or above the number of parameters,
or it gives a null without a type; sealing and checking the row being filled are refused if and only
if the calls that succeeded since the last row was sealed leave declared parameters unbound; and so
are the rows, unless nothing was bound since then and there is a sealed row. The error names the
parameters that are unbound, in the order of the declaration. A call that is refused leaves every
row and every later answer as if it had not been made, as it does for a prepared statement. -/
theorem Bindings.refused_without_effect (d : Descriptor) (calls : List Bindings.Call) :
    let b := Bindings.run d calls
    ∃ closed opened,
      Bindings.segments ((Bindings.empty d).successes calls) = closed ++ [opened] ∧
      let unbound := Bindings.unbound d opened
      (∀ call error, b.perform call = .error error ↔ Bindings.Refuses d unbound call error) ∧
      (∀ error, b.rowsToExecute = .error error ↔
        (unbound ≠ [] ∧ ¬ (opened.any Bindings.Call.isBind = false ∧ closed ≠ [])) ∧
          error = .missingParameters unbound) ∧
      (∀ call error, b.perform call = .error error → ∀ later,
        Bindings.run d (calls ++ call :: later) = Bindings.run d (calls ++ later) ∧
          (Bindings.empty d).answers (calls ++ call :: later) =
            (Bindings.empty d).answers calls ++ .error error :: b.answers later) ∧
      ∀ change error, PreparedStatement.respond ⟨b⟩ change = .failed (.query error) →
        Bindings.Refuses d unbound (.change change) error ∧
          PreparedStatement.apply ⟨b⟩ change = ⟨b⟩ := by
  intro b
  obtain ⟨same, closed, opened, cut, holds⟩ := Bindings.run_follows d calls
  have missing : b.missing = Bindings.unbound d opened := by rw [holds.missing, same]
  have sealed : closed ≠ [] ↔ b.sealedRows ≠ [] := by
    rw [← List.length_pos_iff, holds.sealedRows.length_eq, List.length_pos_iff]
  have reasons (call : Bindings.Call) (error : QueryError) :
      b.perform call = .error error ↔
        Bindings.Refuses d (Bindings.unbound d opened) call error := by
    rw [Bindings.perform_eq_error_iff, missing, same]
  refine ⟨closed, opened, cut, reasons, ?_, ?_, ?_⟩
  · intro error
    rw [Bindings.rowsToExecute_eq_error_iff, missing, ← holds.unbound, sealed]
  · intro call error refused later
    have kept : b.after call = b := Bindings.after_of_refused refused
    constructor
    · rw [Bindings.run, Bindings.run, List.foldl_append, List.foldl_append, List.foldl_cons]
      exact congrArg (later.foldl Bindings.after) kept
    · rw [Bindings.answers_append, Bindings.answers]
      change _ ++ (b.perform call).map _ :: (b.after call).answers later = _
      rw [kept, refused]
      rfl
  · intro change error failed
    obtain ⟨applied, responds⟩ := PreparedStatement.apply_eq ⟨b⟩ change
    have refused := (responds error).mp failed
    refine ⟨(reasons _ error).mp refused, ?_⟩
    rw [applied]
    exact congrArg _ (Bindings.after_of_refused refused)

/-- A row that is sealed late, since it was incomplete at first, and one that is left incomplete. -/
theorem Bindings.refused_without_effect_incomplete :
    let d : Descriptor := ⟨"SELECT ?, ?", "SELECT $jp1, $jp2", .data, ["$jp1", "$jp2"], [.select]⟩
    let add : Bindings.Call := .change .add
    let calls : List Bindings.Call := [.change (.bind (.index 1) (.bool true)), add,
      .change (.bindNull (.name "$jp2") .text), add, .change (.bind (.index 2) (.text "é"))]
    let later : List Bindings.Call := [.change (.bindNull (.index 1) .bool), add]
    Descriptor.parse .tolerant "SELECT ?, ?" = .ok d ∧ ∃ closed opened,
      Bindings.segments ((Bindings.empty d).successes calls) = closed ++ [opened] ∧
      Bindings.unbound d opened = ["$jp1"] ∧
      (Bindings.run d calls).rowsToExecute = .error (.missingParameters ["$jp1"]) ∧
      (Bindings.run d calls).perform add = .error (.missingParameters ["$jp1"]) ∧
      Bindings.run d (calls ++ add :: later) = Bindings.run d (calls ++ later) ∧
      (Bindings.run d (calls ++ later)).batchLength = 2 ∧
      (Bindings.run d calls).perform (.change (.bind (.index 3) .null)) =
        .error (.indexOutOfRange 3 2) ∧
      PreparedStatement.apply ⟨Bindings.run d calls⟩ .add = ⟨Bindings.run d calls⟩ := by
  intro d add calls later
  obtain ⟨closed, opened, cut, reasons, rows, effect, statement⟩ :=
    Bindings.refused_without_effect d calls
  have missing : (Bindings.run d calls).missing = ["$jp1"] := by decide +kernel
  have begun : (Bindings.run d calls).current.length = 1 := by decide +kernel
  have two : (Bindings.run d (calls ++ later)).batchLength = 2 := by decide +kernel
  have refused : (Bindings.run d calls).perform add = .error (.missingParameters ["$jp1"]) := by
    rw [Bindings.perform_needsComplete rfl, Bindings.check_eq_error_iff, missing]
    exact ⟨List.cons_ne_nil _ _, rfl⟩
  have lacks : Bindings.unbound d opened = ["$jp1"] := by
    obtain ⟨-, names⟩ := (Bindings.refuses_needsComplete rfl).mp ((reasons add _).mp refused)
    exact (QueryError.missingParameters.inj names).symm
  have unready : (Bindings.run d calls).rowsToExecute = .error (.missingParameters ["$jp1"]) := by
    rw [Bindings.rowsToExecute_eq_error_iff, missing]
    refine ⟨⟨List.cons_ne_nil _ _, fun trailing => ?_⟩, rfl⟩
    rw [trailing.1] at begun
    cases begun
  have absent : PreparedStatement.respond ⟨Bindings.run d calls⟩ .add =
      .failed (.query (.missingParameters ["$jp1"])) :=
    ((PreparedStatement.apply_eq _ _).2 _).mpr refused
  exact ⟨by decide +kernel, closed, opened, cut, lacks, unready, refused,
    (effect add _ refused later).1, two, (reasons _ _).mpr (.outOfRange rfl (Or.inr (by decide))),
    (statement .add _ absent).2⟩

end SqlDriver
