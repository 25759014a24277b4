import Mathlib.Algebra.BigOperators.Group.Multiset.Basic
import Mathlib.Tactic.Abel
import SqlDriver.Proofs.Backend.Alike
import SqlDriver.Proofs.Backend.Background

/-!
What the journal of a backend will hold once all its streams have ended. A stream still owes the
entries of its marks, and after its end those of the sessions that are given back then. Whatever
happens at a backend on its own, and in whatever order, moves entries from what is owed into the
journal, so the two together stay the same. When nothing is left in the background, the prospect is
the journal. Two backends with the same prospect therefore come to the same, each in its own time.
-/

namespace SqlDriver

/-- The entries that playing a script to its end will add. -/
def Script.owes (script : Script Mark Reply) : Multiset Entry := ↑(Script.entries script)

/-- The entries that giving sessions back will add. -/
def Session.owes (sessions : List Session) : Multiset Entry :=
  (sessions.map fun session => {Entry.released session.number}).sum

/-- The entry that dropping a guard will add. -/
def Guard.owes : Option Guard → Multiset Entry
  | some (.lease session) => {.released session.number}
  | _ => 0

/-- The entries that bringing a background stream to its end will add. -/
def Drain.owes (drain : Drain Mark Reply Guard) : Multiset Entry :=
  Script.owes drain.script + Guard.owes drain.guard

def Background.owes (task : Background) : Multiset Entry :=
  Drain.owes task.drain + Session.owes task.waiting

/-- What the journal holds, with what is owed in the background. -/
def Backend.prospect (b : Backend) : Multiset Entry :=
  (b.journal : Multiset Entry) + (b.background.map Background.owes).sum

theorem Session.owes_cons (session : Session) (rest : List Session) :
    Session.owes (session :: rest) = {.released session.number} + Session.owes rest := by
  rw [Session.owes, List.map_cons, List.sum_cons]
  rfl

namespace Backend

variable (b : Backend)

theorem prospect_record (entry : Entry) : (b.record entry).prospect = b.prospect + {entry} := by
  rw [prospect, prospect, record, ← Multiset.coe_add, Multiset.coe_singleton]
  abel

/-- Tasks that are taken into the background add what they owe to the prospect, and nothing to the
journal yet. -/
theorem prospect_append (tasks : List Background) :
    { b with background := b.background ++ tasks }.prospect =
      b.prospect + (tasks.map Background.owes).sum := by
  rw [prospect, prospect, List.map_append, List.sum_append, add_assoc]

/-- A stream that is left to the background owes what it did while it was pulled by a call, with
what dropping its guard will add. -/
theorem prospect_leave (script : Script Mark Reply) (guard : Option Guard) :
    Backend.prospect { b with background := b.background ++ [⟨⟨script, guard⟩, []⟩] } =
      b.prospect + Script.owes script + Guard.owes guard := by
  have none : Session.owes [] = 0 := rfl
  rw [prospect_append, List.map_singleton, List.sum_singleton, Background.owes, Drain.owes, none,
    add_zero, add_assoc]

/-- Entries of the tasks that are taken out of the background. -/
theorem prospect_takeAll : { b with background := [] }.prospect +
    (b.background.map Background.owes).sum = b.prospect := by
  rw [prospect, prospect, List.map_nil, List.sum_nil, add_zero]

/-- The first task is taken out of the background with what it owes; whoever pulls it owes that now.
-/
theorem prospect_takeFirst {task : Background} {rest : List Background}
    (first : b.background = task :: rest) :
    { b with background := rest }.prospect + task.owes = b.prospect := by
  rw [prospect, prospect, first, List.map_cons, List.sum_cons]
  abel

/-- Dropping a guard adds at once what the guard owed. -/
theorem prospect_dropGuard (guard : Option Guard) :
    (SqlDriver.dropGuard guard b).prospect = b.prospect + Guard.owes guard := by
  cases guard with
  | none => exact (add_zero _).symm
  | some guard =>
    cases guard with
    | lease session => exact b.prospect_record (.released session.number)
    | sign stream => exact (add_zero _).symm
    | nothing => exact (add_zero _).symm

/-- What the part of a script that is played owed is in the journal then. So playing moves entries
from what is owed into the journal, and the sum of both stays. -/
theorem prospect_played {b b' : Backend} {script left : Script Mark Reply} {taken : List Reply}
    (played : Script.Played script b taken left b') :
    b'.prospect + Script.owes left = b.prospect + Script.owes script := by
  obtain ⟨entries, rfl, split⟩ := played.extends
  rw [Script.owes, Script.owes, split, prospect, prospect, extend, ← Multiset.coe_add,
    ← Multiset.coe_add]
  abel

/-- A pull changes neither the journal with what the script still owes, nor what the background
owes. -/
theorem prospect_poll (script : Script Mark Reply) :
    (Script.poll script b).2.2.prospect + Script.owes (Script.poll script b).2.1 =
      b.prospect + Script.owes script := by
  have pulls := Script.pulls script b
  generalize Script.poll script b = pulled at pulls
  cases pulls with
  | @item item rest last played =>
    have same : Script.owes (.yield item :: rest) = Script.owes rest := rfl
    rw [← prospect_played played, same]
    rfl
  | stalled played held => exact prospect_played played
  | ended played => exact prospect_played played

/-- Pulling to the end brings into the journal all that the script owed, except for what a held mark
has left. -/
theorem prospect_drain (script : Script Mark Reply) :
    (Script.drain script b).2.prospect + (Script.drain script b).1.elim 0 Script.owes =
      b.prospect + Script.owes script := by
  have pulls := Script.pullsOut script b
  generalize Script.drain script b = left at pulls
  cases pulls with
  | held played held => exact prospect_played played
  | ended played => exact prospect_played played

/-! ## The background -/

theorem prospect_releaseAll (sessions : List Session) :
    (sessions.foldl release b).prospect = b.prospect + Session.owes sessions := by
  induction sessions generalizing b with
  | nil => exact (add_zero _).symm
  | cons session rest ih =>
    rw [List.foldl_cons, ih, release, prospect_record, Session.owes_cons, add_assoc]

/-- What goes on in the background owes its entries there; otherwise the sessions that waited are
given back at once. -/
theorem prospect_resume (waiting : List Session) (left : Option (Drain Mark Reply Guard)) :
    (b.resume waiting left).prospect =
      b.prospect + left.elim 0 Drain.owes + Session.owes waiting := by
  cases left with
  | none => rw [resume, prospect_releaseAll, Option.elim_none, add_zero]
  | some drain =>
    rw [resume, prospect_append, List.map_singleton, List.sum_singleton, Background.owes,
      Option.elim_some, add_assoc]

/-- A background stream that runs as far as it can either still owes the rest, or owes nothing and
its guard is dropped. -/
theorem prospect_run (drain : Drain Mark Reply Guard) :
    (drain.run b).2.prospect + (drain.run b).1.elim 0 Drain.owes = b.prospect + drain.owes := by
  have drains := b.prospect_drain drain.script
  rw [Drain.run]
  generalize Script.drain drain.script b = left at drains
  obtain ⟨left, b'⟩ := left
  cases left with
  | none =>
    have dropped := b'.prospect_dropGuard drain.guard
    simp only [Option.elim_none, add_zero] at drains ⊢
    exact dropped.trans (by rw [drains, Drain.owes, add_assoc])
  | some rest =>
    simp only [Option.elim_some, Drain.owes] at drains ⊢
    rw [← add_assoc, drains, add_assoc]

/-- A background stream that is pulled once owes the rest after it. -/
theorem prospect_pull (drain : Drain Mark Reply Guard) :
    (drain.pull b).2.prospect + (drain.pull b).1.elim 0 Drain.owes = b.prospect + drain.owes := by
  have polls := b.prospect_poll drain.script
  have whole : ∀ rest b', Script.poll drain.script b = (.ended, rest, b') → rest = [] :=
    fun _ _ => Script.rest_of_ended
  rw [Drain.pull]
  generalize Script.poll drain.script b = pulled at polls whole
  obtain ⟨polled, rest, b'⟩ := pulled
  cases polled with
  | ended =>
    obtain rfl := whole rest b' rfl
    have dropped := b'.prospect_dropGuard drain.guard
    simp only [Option.elim_none, add_zero]
    refine dropped.trans ?_
    rw [Drain.owes, ← add_assoc, ← polls]
    exact congrArg (· + _) (add_zero _).symm
  | _ =>
    simp only [Option.elim_some, Drain.owes] at polls ⊢
    rw [← add_assoc, polls, add_assoc]

/-- Running a task that was taken out of the background comes to what it owed. -/
theorem prospect_runTask (task : Background) :
    (b.runTask task).prospect = b.prospect + task.owes := by
  rw [runTask, prospect_resume, prospect_run, Background.owes, add_assoc]

theorem prospect_pullTask (task : Background) :
    (b.pullTask task).prospect = b.prospect + task.owes := by
  rw [pullTask, prospect_resume, prospect_pull, Background.owes, add_assoc]

theorem prospect_runTasks (tasks : List Background) :
    (tasks.foldl runTask b).prospect = b.prospect + (tasks.map Background.owes).sum := by
  induction tasks generalizing b with
  | nil => exact (add_zero _).symm
  | cons task rest ih =>
    rw [List.foldl_cons, ih, prospect_runTask, List.map_cons, List.sum_cons, add_assoc]

/-- Nothing that may happen at a backend on its own changes its prospect: every such event plays
streams of the background, changes the gate, or changes the order of the background. -/
theorem prospect_stir (stir : Stir) : (b.stir stir).prospect = b.prospect := by
  cases stir with
  | openGate => rfl
  | closeGate => rfl
  | settle => exact (prospect_runTasks _ b.background).trans b.prospect_takeAll
  | pullFirst =>
    rw [Backend.stir, pullFirst]
    split
    · rfl
    · rename_i task rest first
      rw [prospect_pullTask, prospect_takeFirst b first]
  | rotate =>
    rw [Backend.stir, rotate]
    split
    · rfl
    · rename_i task rest first
      rw [← b.prospect_takeFirst first]
      have put := prospect_append { b with background := rest } [task]
      rw [List.map_singleton, List.sum_singleton] at put
      exact put

/-- However long a call is held up, the prospect stays what it is. -/
theorem prospect_stirAll (stirs : List Stir) : (b.stirAll stirs).prospect = b.prospect := by
  induction stirs generalizing b with
  | nil => rfl
  | cons stir rest ih => exact (ih (b.stir stir)).trans (b.prospect_stir stir)

end Backend

/-! ## Coming to the same -/

/-- Nothing goes on at a backend, and nothing would be held up. -/
structure Backend.AtRest (b : Backend) : Prop where
  background : b.background = []
  gateOpen : b.gateOpen = true

/-- Backends that come to the same once their streams have ended, the second if it then does what is
owed besides. -/
structure Backend.Converge (b b' : Backend) (owed : Multiset Entry) : Prop where
  prospect : b.prospect = b'.prospect + owed
  calls : Journal.asOfCalls b.journal = Journal.asOfCalls b'.journal
  injections : b.injections = b'.injections
  resultSets : b.resultSets = b'.resultSets
  reports : b.reports = b'.reports

/-- A backend at rest has nothing in prospect but its journal, since nothing is left in the
background. -/
theorem Backend.AtRest.prospect_eq {b : Backend} (rest : b.AtRest) :
    b.prospect = (b.journal : Multiset Entry) := by
  rw [Backend.prospect, rest.background, List.map_nil, List.sum_nil, add_zero]

/-- With the gate open, the background goes on to its end, and the backend is at rest after it. -/
theorem Backend.atRest_settled (b : Backend) : (b.stirAll [.openGate, .settle]).AtRest where
  background := Backend.settle_of_gateOpen (b := b.openGate) rfl
  gateOpen := Backend.runTasks_gateOpen (b := { b.openGate with background := [] }) rfl b.background

namespace Backend.Converge

variable {b b' : Backend} {owed : Multiset Entry}

/-- It does not matter what happens at each of the backends on its own, or in which order: they keep
coming to the same. -/
theorem stirAll (h : b.Converge b' owed) (stirs stirs' : List Stir) :
    (b.stirAll stirs).Converge (b'.stirAll stirs') owed := by
  have work : b.StreamWork (b.stirAll stirs) := (Idles.refl.stirAll stirs).streamWork
  have work' : b'.StreamWork (b'.stirAll stirs') := (Idles.refl.stirAll stirs').streamWork
  exact {
    prospect := by rw [prospect_stirAll, prospect_stirAll, h.prospect]
    calls := by rw [work.asOfCalls, work'.asOfCalls, h.calls]
    injections := by rw [work.injections, work'.injections, h.injections]
    resultSets := by rw [work.resultSets, work'.resultSets, h.resultSets]
    reports := by rw [work.reports, work'.reports, h.reports] }

/-- What is owed besides may be done. -/
theorem release {session : Session} (h : b.Converge b' {.released session.number}) :
    b.Converge (b'.release session) 0 where
  prospect := by rw [h.prospect, Backend.release, prospect_record, add_zero]
  calls := by rw [(StreamWork.release b' session).asOfCalls, h.calls]
  injections := h.injections
  resultSets := h.resultSets
  reports := h.reports

/-- Backends that come to the same, once they are at rest, have the same entries in their journals,
though maybe in another order. So from then on they are alike. -/
theorem alike (h : b.Converge b' 0) (rest : b.AtRest) (rest' : b'.AtRest) : b.Alike b' where
  journal := {
    perm := by
      have same := h.prospect
      rw [rest.prospect_eq, rest'.prospect_eq, add_zero] at same
      exact Multiset.coe_eq_coe.mp same
    calls := h.calls }
  injections := h.injections
  gateOpen := rest.gateOpen.trans rest'.gateOpen.symm
  resultSets := h.resultSets
  reports := h.reports
  background := rest.background.trans rest'.background.symm

end Backend.Converge

end SqlDriver
