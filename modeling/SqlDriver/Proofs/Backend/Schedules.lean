import Mathlib.Algebra.Ring.Nat
import Mathlib.Data.List.Basic
import SqlDriver.Backend.Basic

/-!
When the refusals that were set for one kind of request come about. The backend keeps them in a queue
and counts the first one down, request by request. Told from outside, every refusal has a number from
the start: that of the request which is refused. A refusal lets through as many requests as it was
set to, and counts only from the time when the one before it has come about, and when it was set
itself.

Main statement: a queue that is counted down refuses exactly the requests that are due.
-/

namespace SqlDriver

/-- Something that concerns the refusals of one kind of request. -/
inductive Injection.Turn where
  /-- A refusal is set, after letting `skip` requests through. -/
  | ordered (skip : Nat) (status : Status)
  /-- A request is made, and refused with the status if there is one. -/
  | met (refusal : Option Status)

/-- A refusal that was set when `made` requests of its kind had been made. -/
structure Injection.Order where
  made : Nat
  skip : Nat
  status : Status

/-- How the requests were met, in order. -/
def Injection.answers (history : List Injection.Turn) : List (Option Status) :=
  history.filterMap fun
    | .met refusal => some refusal
    | .ordered _ _ => none

/-- The refusals that were set, in order, when `made` requests had been made before. -/
def Injection.orders : (made : Nat) → List Injection.Turn → List Injection.Order
  | _, [] => []
  | made, .ordered skip status :: rest => ⟨made, skip, status⟩ :: Injection.orders made rest
  | made, .met _ :: rest => Injection.orders (made + 1) rest

/-- The requests that are refused, counted from one, and with which status. A refusal counts from
when it was set, and not before the one ahead of it has come about, which is at request `last`. -/
def Injection.schedule : (last : Nat) → List Injection.Order → List (Nat × Status)
  | _, [] => []
  | last, order :: rest =>
    let due := max last order.made + order.skip + 1
    (due, order.status) :: Injection.schedule due rest

/-- What was set and asked, without what came of it. -/
def Injection.Turn.erase : Injection.Turn → Option (Nat × Status)
  | .ordered skip status => some (skip, status)
  | .met _ => none

/-! ## Refusals that were set before the first request -/

/-- Where every refusal was set before the count began, each comes about after all that it and
those before it let through and refuse. -/
theorem Injection.mem_schedule_iff {orders : List Injection.Order} {last : Nat}
    (early : ∀ order ∈ orders, order.made ≤ last) {request : Nat} {status : Status} :
    (request, status) ∈ Injection.schedule last orders ↔
      ∃ i order, orders[i]? = some order ∧ order.status = status ∧
        request = last + ((orders.take (i + 1)).map fun order => order.skip + 1).sum := by
  induction orders generalizing last with
  | nil => simp [Injection.schedule]
  | cons first rest ih =>
    have start : max last first.made = last := Nat.max_eq_left (early first List.mem_cons_self)
    have later : ∀ order ∈ rest, order.made ≤ last + first.skip + 1 := by
      intro order member
      have := early order (List.mem_cons_of_mem _ member)
      omega
    simp only [Injection.schedule, List.mem_cons, Prod.mk.injEq, start, ih later]
    constructor
    · rintro (⟨rfl, rfl⟩ | ⟨i, order, found, rfl, rfl⟩)
      · exact ⟨0, first, rfl, rfl, by simp; omega⟩
      · refine ⟨i + 1, order, found, rfl, ?_⟩
        rw [List.take_succ_cons, List.map_cons, List.sum_cons]
        omega
    · rintro ⟨i, order, found, rfl, rfl⟩
      cases i with
      | zero =>
        cases found
        exact Or.inl ⟨by simp; omega, rfl⟩
      | succ i =>
        refine Or.inr ⟨i, order, found, rfl, ?_⟩
        rw [List.take_succ_cons, List.map_cons, List.sum_cons]
        omega

/-! ## One more turn -/

theorem Injection.answers_append (history turns : List Injection.Turn) :
    Injection.answers (history ++ turns) =
      Injection.answers history ++ Injection.answers turns :=
  List.filterMap_append

/-- Refusals are ordered after as many requests as were made before, so the orders of a longer
history start from the number of its answers. -/
theorem Injection.orders_append (made : Nat) (history turns : List Injection.Turn) :
    Injection.orders made (history ++ turns) = Injection.orders made history ++
      Injection.orders (made + (Injection.answers history).length) turns := by
  induction history generalizing made with
  | nil => rfl
  | cons turn history ih =>
    cases turn with
    | ordered skip status => exact congrArg (_ :: ·) (ih made)
    | met refusal =>
      have counted : (Injection.answers (.met refusal :: history)).length =
          (Injection.answers history).length + 1 := rfl
      rw [List.cons_append, Injection.orders, ih, Injection.orders, counted]
      congr 2
      omega

/-- The last request that is refused, or where the count began. -/
def Injection.finalDue (last : Nat) (dues : List (Nat × Status)) : Nat :=
  (dues.getLast?.map Prod.fst).getD last

theorem Injection.finalDue_cons (last : Nat) (due : Nat × Status) (rest : List (Nat × Status)) :
    Injection.finalDue last (due :: rest) = Injection.finalDue due.1 rest := by
  rw [Injection.finalDue, Injection.finalDue, List.getLast?_cons]
  cases rest.getLast? <;> rfl

/-- A new order is due after everything that is due before it and after everything that was already
asked, counted from the later of the two. -/
theorem Injection.schedule_concat (last : Nat) (orders : List Injection.Order)
    (order : Injection.Order) :
    Injection.schedule last (orders ++ [order]) = Injection.schedule last orders ++
      [(max (Injection.finalDue last (Injection.schedule last orders)) order.made + order.skip + 1,
        order.status)] := by
  induction orders generalizing last with
  | nil => rfl
  | cons first rest ih =>
    rw [List.cons_append, Injection.schedule, Injection.schedule, List.cons_append, ih,
      Injection.finalDue_cons]

/-! ## The queue -/

/-- The requests that a queue will refuse when `made` were made before. -/
def Injection.waiting : (made : Nat) → List Injection → List (Nat × Status)
  | _, [] => []
  | made, first :: rest =>
    (made + first.skip + 1, first.status) :: Injection.waiting (made + first.skip + 1) rest

/-- What is waiting is still to come. -/
theorem Injection.lt_of_mem_waiting {made : Nat} {queue : List Injection} {due : Nat × Status}
    (member : due ∈ Injection.waiting made queue) : made < due.1 := by
  induction queue generalizing made with
  | nil => cases member
  | cons first rest ih =>
    rcases List.mem_cons.mp member with rfl | later
    · dsimp only
      omega
    · have := ih later
      omega

theorem Injection.le_finalDue_waiting (made : Nat) (queue : List Injection) :
    made ≤ Injection.finalDue made (Injection.waiting made queue) := by
  induction queue generalizing made with
  | nil => exact Nat.le_refl made
  | cons first rest ih =>
    rw [Injection.waiting, Injection.finalDue_cons]
    have := ih (made + first.skip + 1)
    dsimp only
    omega

theorem Injection.waiting_concat (made : Nat) (queue : List Injection) (injection : Injection) :
    Injection.waiting made (queue ++ [injection]) = Injection.waiting made queue ++
      [(Injection.finalDue made (Injection.waiting made queue) + injection.skip + 1,
        injection.status)] := by
  induction queue generalizing made with
  | nil => rfl
  | cons first rest ih =>
    rw [List.cons_append, Injection.waiting, Injection.waiting, List.cons_append, ih,
      Injection.finalDue_cons]

/-- What is due last, when all that came about before is of no account. This is what makes a
schedule depend on the orders alone, though the queue forgets what is past. -/
theorem Injection.max_finalDue {past : List (Nat × Status)} {made : Nat}
    (bygone : ∀ due ∈ past, due.1 ≤ made) (queue : List Injection) :
    max (Injection.finalDue 0 (past ++ Injection.waiting made queue)) made =
      Injection.finalDue made (Injection.waiting made queue) := by
  cases queue with
  | nil =>
    have bound : Injection.finalDue 0 past ≤ made := by
      rw [Injection.finalDue]
      cases final : past.getLast? with
      | none => exact Nat.zero_le made
      | some due => exact bygone due (List.mem_of_getLast? final)
    rw [Injection.waiting, List.append_nil]
    exact Nat.max_eq_right bound
  | cons first rest =>
    have same : Injection.finalDue 0 (past ++ Injection.waiting made (first :: rest)) =
        Injection.finalDue made (Injection.waiting made (first :: rest)) := by
      rw [Injection.waiting, Injection.finalDue, Injection.finalDue, List.getLast?_append,
        List.getLast?_cons]
      rfl
    rw [same]
    exact Nat.max_eq_left (Injection.le_finalDue_waiting made _)

/-- A request is refused if it is the one that comes first in the queue; all others are due as
before. -/
theorem Injection.consult_own {call : CallKind} {queue left : List Injection}
    {refusal : Option Status} (own : ∀ injection ∈ queue, injection.call = call)
    (consulted : Injection.consult call queue = (refusal, left)) :
    (∀ injection ∈ left, injection.call = call) ∧ ∀ made, Injection.waiting made queue =
      (refusal.map fun status => (made + 1, status)).toList ++
        Injection.waiting (made + 1) left := by
  cases queue with
  | nil =>
    cases consulted
    exact ⟨own, fun made => rfl⟩
  | cons first rest =>
    have mine : first.call = call := own first List.mem_cons_self
    have others : ∀ injection ∈ rest, injection.call = call :=
      fun injection member => own injection (List.mem_cons_of_mem _ member)
    rw [Injection.consult, if_pos mine] at consulted
    cases skips : first.skip with
    | zero =>
      rw [skips] at consulted
      cases consulted
      refine ⟨others, fun made => ?_⟩
      rw [Injection.waiting, skips]
      rfl
    | succ fewer =>
      rw [skips] at consulted
      cases consulted
      refine ⟨List.forall_mem_cons.mpr ⟨mine, others⟩, fun made => ?_⟩
      have due : made + 1 + fewer + 1 = made + (fewer + 1) + 1 := by omega
      rw [Injection.waiting, Injection.waiting, skips, due]
      rfl

/-- What a turn does to the queue of its kind. -/
inductive Injection.Plays (call : CallKind) (queue : List Injection) :
    List Injection.Turn → List Injection → Prop
  | none : Injection.Plays call queue [] queue
  | ordered (skip : Nat) (status : Status) :
      Injection.Plays call queue [.ordered skip status] (queue ++ [⟨call, skip, status⟩])
  | met {refusal : Option Status} {left : List Injection}
      (consulted : Injection.consult call queue = (refusal, left)) :
      Injection.Plays call queue [.met refusal] left

/-- The queue after a history: the requests that were made were refused as they were due, and what
has not come about yet waits in the queue. -/
structure Injection.Follows (call : CallKind) (history : List Injection.Turn)
    (queue : List Injection) : Prop where
  own : ∀ injection ∈ queue, injection.call = call
  met : ∀ k refusal, (Injection.answers history)[k]? = some refusal → ∀ status,
    refusal = some status ↔ (k + 1, status) ∈ Injection.schedule 0 (Injection.orders 0 history)
  left : ∃ past, Injection.schedule 0 (Injection.orders 0 history) =
      past ++ Injection.waiting (Injection.answers history).length queue ∧
    ∀ due ∈ past, due.1 ≤ (Injection.answers history).length

namespace Injection.Follows

variable {call : CallKind} {history : List Injection.Turn} {queue : List Injection}

/-- A kind of request follows its schedule from the start, with nothing in its queue. -/
theorem empty (call : CallKind) : Injection.Follows call [] [] where
  own := by intro injection member; cases member
  met := by intro k refusal found; cases found
  left := ⟨[], rfl, by intro due member; cases member⟩

/-- A refusal that is set comes about behind all others that are waiting, and no earlier than the
requests that were already made. -/
theorem ordered (h : Injection.Follows call history queue) (skip : Nat) (status : Status) :
    Injection.Follows call (history ++ [.ordered skip status])
      (queue ++ [⟨call, skip, status⟩]) := by
  obtain ⟨past, scheduled, bygone⟩ := h.left
  have answers : Injection.answers (history ++ [.ordered skip status]) =
      Injection.answers history := by
    rw [Injection.answers_append]
    exact List.append_nil _
  have orders : Injection.orders 0 (history ++ [.ordered skip status]) =
      Injection.orders 0 history ++ [⟨(Injection.answers history).length, skip, status⟩] := by
    rw [Injection.orders_append, Nat.zero_add]
    rfl
  have whole : Injection.schedule 0 (Injection.orders 0 (history ++ [.ordered skip status])) =
      past ++ Injection.waiting (Injection.answers history).length
        (queue ++ [⟨call, skip, status⟩]) := by
    rw [orders, Injection.schedule_concat, scheduled, Injection.max_finalDue bygone,
      Injection.waiting_concat, List.append_assoc]
  constructor
  case own =>
    intro injection member
    rcases List.mem_append.mp member with member | member
    · exact h.own injection member
    · rw [List.mem_singleton.mp member]
  case met =>
    intro k refusal found other
    rw [answers] at found
    rw [h.met k refusal found other, whole, scheduled, Injection.waiting_concat,
      ← List.append_assoc]
    refine ⟨List.mem_append_left _, fun member => ?_⟩
    rcases List.mem_append.mp member with earlier | added
    · exact earlier
    · -- What is added is due after every request that was made.
      have made := (List.getElem?_eq_some_iff.mp found).1
      have late := Injection.le_finalDue_waiting (Injection.answers history).length queue
      have due := congrArg Prod.fst (List.mem_singleton.mp added)
      dsimp only at due
      omega
  case left =>
    rw [answers]
    exact ⟨past, whole, bygone⟩

/-- A request is refused if it is due, and counted otherwise: the first of the queue is met when its
count is used up. -/
theorem meets (h : Injection.Follows call history queue) {refusal : Option Status}
    {left : List Injection} (consulted : Injection.consult call queue = (refusal, left)) :
    Injection.Follows call (history ++ [.met refusal]) left := by
  obtain ⟨past, scheduled, bygone⟩ := h.left
  have answers : Injection.answers (history ++ [.met refusal]) =
      Injection.answers history ++ [refusal] := Injection.answers_append _ _
  have orders : Injection.orders 0 (history ++ [.met refusal]) = Injection.orders 0 history := by
    rw [Injection.orders_append]
    exact List.append_nil _
  generalize made : (Injection.answers history).length = count at scheduled bygone
  obtain ⟨own, moved⟩ := Injection.consult_own h.own consulted
  generalize current : (refusal.map fun status => (count + 1, status)).toList = now
  have due_now : ∀ due, due ∈ now ↔ refusal = some due.2 ∧ due.1 = count + 1 := by
    rintro ⟨request, status⟩
    rw [← current, Option.mem_toList, Option.map_eq_some_iff]
    constructor
    · rintro ⟨status', same, equal⟩
      cases equal
      exact ⟨same, rfl⟩
    · rintro ⟨same, rfl⟩
      exact ⟨status, same, rfl⟩
  have moved : past ++ Injection.waiting count queue =
      (past ++ now) ++ Injection.waiting (count + 1) left := by
    rw [moved count, current, List.append_assoc]
  have passed : ∀ due ∈ past ++ now, due.1 ≤ count + 1 := by
    intro due member
    rcases List.mem_append.mp member with member | member
    · exact Nat.le_succ_of_le (bygone due member)
    · exact Nat.le_of_eq ((due_now due).mp member).2
  have length : (Injection.answers (history ++ [.met refusal])).length = count + 1 := by
    rw [answers, List.length_append, made]
    rfl
  constructor
  case own => exact own
  case met =>
    intro k answer found status
    rw [answers] at found
    rw [orders]
    rcases Nat.lt_or_ge k count with earlier | latest
    · rw [List.getElem?_append_left (by omega)] at found
      exact h.met k answer found status
    · have here : k = count := by
        have := (List.getElem?_eq_some_iff.mp found).1
        rw [List.length_append, made] at this
        exact Nat.le_antisymm (Nat.le_of_lt_succ this) latest
      subst here
      rw [List.getElem?_append_right (by omega), made, Nat.sub_self] at found
      cases found
      rw [scheduled, moved, List.mem_append, List.mem_append]
      constructor
      · intro same
        exact Or.inl (Or.inr ((due_now (k + 1, status)).mpr ⟨same, rfl⟩))
      · rintro ((member | member) | member)
        · exact absurd (bygone _ member) (Nat.not_succ_le_self k)
        · exact ((due_now _).mp member).1
        · exact absurd (Injection.lt_of_mem_waiting member) (Nat.lt_irrefl _)
  case left =>
    rw [orders, length]
    exact ⟨past ++ now, scheduled.trans moved, passed⟩

/-- The queue goes on following its schedule through all the turns of one event. -/
theorem plays (h : Injection.Follows call history queue) {turns : List Injection.Turn}
    {left : List Injection} (played : Injection.Plays call queue turns left) :
    Injection.Follows call (history ++ turns) left := by
  cases played with
  | none =>
    rw [List.append_nil]
    exact h
  | ordered skip status => exact h.ordered skip status
  | met consulted => exact h.meets consulted

end Injection.Follows

/-! ## What decides the answers -/

theorem Injection.orders_of_erase {history history' : List Injection.Turn}
    (same : history.map Injection.Turn.erase = history'.map Injection.Turn.erase) (made : Nat) :
    Injection.orders made history = Injection.orders made history' := by
  induction history generalizing history' made with
  | nil =>
    rw [List.map_nil, eq_comm, List.map_eq_nil_iff] at same
    rw [same]
  | cons turn history ih =>
    cases history' with
    | nil => cases same
    | cons turn' history' =>
      obtain ⟨first, rest⟩ := List.cons.inj same
      cases turn with
      | ordered skip status =>
        cases turn' with
        | ordered skip' status' =>
          cases first
          exact congrArg (_ :: ·) (ih rest made)
        | met refusal => cases first
      | met refusal =>
        cases turn' with
        | ordered skip status => cases first
        | met refusal' => exact ih rest (made + 1)

/-- Histories in which the same is set and asked, and answered alike, are the same. Whatever the
other kinds of request have met leaves no trace in them. -/
theorem Injection.eq_of_erase {history history' : List Injection.Turn}
    (same : history.map Injection.Turn.erase = history'.map Injection.Turn.erase)
    (alike : ∀ (k : Nat) refusal refusal', (Injection.answers history)[k]? = some refusal →
      (Injection.answers history')[k]? = some refusal' → refusal = refusal') :
    history = history' := by
  induction history generalizing history' with
  | nil =>
    rw [List.map_nil, eq_comm, List.map_eq_nil_iff] at same
    rw [same]
  | cons turn history ih =>
    cases history' with
    | nil => cases same
    | cons turn' history' =>
      obtain ⟨first, rest⟩ := List.cons.inj same
      cases turn with
      | ordered skip status =>
        cases turn' with
        | ordered skip' status' =>
          cases first
          rw [ih rest alike]
        | met refusal => cases first
      | met refusal =>
        cases turn' with
        | ordered skip status => cases first
        | met refusal' =>
          obtain rfl := alike 0 refusal refusal' rfl rfl
          rw [ih rest fun k => alike (k + 1)]

/-- The answers are decided by what was set and asked, since they are refused exactly where the
schedule says so. -/
theorem Injection.Follows.eq {call : CallKind} {history history' : List Injection.Turn}
    {queue queue' : List Injection} (h : Injection.Follows call history queue)
    (h' : Injection.Follows call history' queue')
    (same : history.map Injection.Turn.erase = history'.map Injection.Turn.erase) :
    history = history' := by
  refine Injection.eq_of_erase same fun k refusal refusal' found found' => ?_
  have scheduled := Injection.orders_of_erase same 0
  ext status
  rw [h.met k refusal found status, h'.met k refusal' found' status, scheduled]

end SqlDriver
