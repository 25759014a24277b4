import Mathlib.Data.Finset.Card
import Mathlib.Data.List.Induction
import Mathlib.Data.List.TakeWhile
import SqlDriver.Proofs.Query.Placeholders
import SqlDriver.Query.Cache

/-!
What a cache hands out, and for how long. A cache answers as reading the text does. It holds the
texts that were read last, up to its capacity: a text is given up as soon as that many others have
been read since. So whether a parse hands out the descriptor of the parse before is decided by the
calls in between, and what the cache holds after any calls is known in closed form.
-/

namespace SqlDriver

/-! ## Texts that have been read -/

/-- Whether a descriptor is what reading its raw text in a mode makes of it. -/
def Descriptor.IsRead (mode : ReadingMode) (d : Descriptor) : Prop :=
  Descriptor.parse mode d.raw = .ok d

/-- What parsing a text through a cache may do. -/
inductive Cache.Parses (cache : Cache) (text : String) :
    Except QueryError Handle × Cache → Prop
  | held (handle : Handle) (member : handle ∈ cache.entries)
      (raw : handle.descriptor.raw = text) : Cache.Parses cache text (.ok handle, cache.touch handle)
  | unreadable (error : QueryError) (parsed : Descriptor.parse cache.mode text = .error error) :
      Cache.Parses cache text (.error error, cache)
  | read (descriptor : Descriptor)
      (unheld : ∀ handle ∈ cache.entries, handle.descriptor.raw ≠ text)
      (parsed : Descriptor.parse cache.mode text = .ok descriptor) :
      Cache.Parses cache text
        (.ok ⟨cache.made, descriptor⟩,
          { cache.touch ⟨cache.made, descriptor⟩ with made := cache.made + 1 })

/-- Every way in which a cache may answer: the text is refused, it is held already, or it is read
and put in, in the place of the text that was asked for longest ago if there is no room. -/
theorem Cache.parses (cache : Cache) (text : String) :
    cache.Parses text (cache.parse text) := by
  rw [Cache.parse]
  cases found : cache.find? text with
  | some handle =>
    have raw := List.find?_some found
    exact .held handle (List.mem_of_find?_eq_some found) (of_decide_eq_true raw)
  | none =>
    dsimp only
    cases parsed : Descriptor.parse cache.mode text with
    | error error => exact .unreadable error parsed
    | ok descriptor =>
      refine .read descriptor (fun handle member same => ?_) parsed
      exact List.find?_eq_none.mp found handle member (decide_eq_true same)

/-- A cache that reads in a mode, and holds only what it has read. -/
structure Cache.Valid (mode : ReadingMode) (cache : Cache) : Prop where
  reads : cache.mode = mode
  entries : ∀ handle ∈ cache.entries, handle.descriptor.IsRead mode

namespace Cache.Valid

variable {mode : ReadingMode} {cache : Cache}

theorem empty (capacity : Nat) (mode : ReadingMode) :
    Cache.Valid mode (.ofCapacity capacity mode) :=
  ⟨rfl, fun _ member => nomatch member⟩

theorem clear (valid : Cache.Valid mode cache) : Cache.Valid mode cache.clear :=
  ⟨valid.reads, fun _ member => nomatch member⟩

theorem touch (valid : Cache.Valid mode cache) {handle : Handle}
    (read : handle.descriptor.IsRead mode) : Cache.Valid mode (cache.touch handle) where
  reads := valid.reads
  entries other member := by
    rcases List.mem_cons.mp (List.mem_of_mem_take member) with rfl | held
    · exact read
    · exact valid.entries other (List.mem_of_mem_filter held)

/-- A cache hands out what reading the text makes of it, whether it holds it already or not, and is
valid after it. -/
theorem parse (valid : Cache.Valid mode cache) (text : String) :
    Cache.Valid mode (cache.parse text).2 ∧
      ∀ handle, (cache.parse text).1 = .ok handle →
        handle.descriptor.raw = text ∧ handle.descriptor.IsRead mode := by
  have parses := cache.parses text
  generalize cache.parse text = result at parses
  cases parses with
  | held handle member raw =>
    have read := valid.entries handle member
    refine ⟨valid.touch read, fun other same => ?_⟩
    cases same
    exact ⟨raw, read⟩
  | unreadable error parsed => exact ⟨valid, fun other same => nomatch same⟩
  | read descriptor unheld parsed =>
    have raw := (Descriptor.parse_ok parsed).1
    have read : descriptor.IsRead mode := by
      rw [Descriptor.IsRead, raw, ← valid.reads]
      exact parsed
    have touched : Cache.Valid mode (cache.touch ⟨cache.made, descriptor⟩) := valid.touch read
    refine ⟨⟨touched.reads, touched.entries⟩, fun other same => ?_⟩
    cases same
    exact ⟨raw, read⟩

/-- A cache answers as reading the text does. Nothing in an answer tells whether the text was held.
-/
theorem answer (valid : Cache.Valid mode cache) (text : String) :
    (cache.parse text).1.map Handle.descriptor = Descriptor.parse mode text := by
  have parses := cache.parses text
  generalize cache.parse text = result at parses
  cases parses with
  | held handle member raw =>
    have read : Descriptor.parse mode handle.descriptor.raw = .ok handle.descriptor :=
      valid.entries handle member
    rw [← raw, read]
    rfl
  | unreadable error parsed =>
    rw [← valid.reads, parsed]
    rfl
  | read descriptor unheld parsed =>
    rw [← valid.reads, parsed]
    rfl

end Cache.Valid

/-! ## Texts by recency -/

/-- The texts, each once, in the order in which they come first. -/
def Cache.recency : List String → List String
  | [] => []
  | text :: earlier => text :: (Cache.recency earlier).filter (· ≠ text)

section

variable {text : String} {texts : List String}

theorem Cache.mem_recency : text ∈ Cache.recency texts ↔ text ∈ texts := by
  induction texts with
  | nil => exact Iff.rfl
  | cons first rest ih =>
    rw [Cache.recency, List.mem_cons, List.mem_cons, List.mem_filter, ih, decide_eq_true_iff]
    by_cases same : text = first <;> simp [same]

/-- A text stands once among those by recency, where it was asked for last. -/
theorem Cache.nodup_recency (texts : List String) : (Cache.recency texts).Nodup := by
  induction texts with
  | nil => exact List.nodup_nil
  | cons first rest ih =>
    rw [Cache.recency, List.nodup_cons, List.mem_filter]
    exact ⟨fun kept => of_decide_eq_true kept.2 rfl, ih.filter _⟩

theorem Cache.length_recency (texts : List String) :
    (Cache.recency texts).length = texts.toFinset.card := by
  rw [← List.toFinset_card_of_nodup (Cache.nodup_recency texts)]
  congr 1
  ext text
  rw [List.mem_toFinset, List.mem_toFinset, Cache.mem_recency]

/-- The texts that come later in a list are those that have not come before: what was asked for
earlier counts only where it was not asked for since. -/
theorem Cache.recency_append (front back : List String) :
    Cache.recency (front ++ back) =
      Cache.recency front ++ (Cache.recency back).filter (· ∉ front) := by
  induction front with
  | nil =>
    rw [List.nil_append, Cache.recency, List.nil_append, List.filter_eq_self.mpr]
    intro text _
    exact decide_eq_true List.not_mem_nil
  | cons first rest ih =>
    rw [List.cons_append, Cache.recency, ih, List.filter_append, List.filter_filter, Cache.recency,
      List.cons_append]
    congr 3
    funext text
    by_cases same : text = first <;> simp [same]

/-- A text that comes first after some others is among the first `count` exactly when fewer than
that many different ones come before it. -/
theorem Cache.mem_take_recency {front : List String} (fresh : text ∉ front) (back : List String)
    (count : Nat) :
    text ∈ (Cache.recency (front ++ text :: back)).take count ↔ front.toFinset.card < count := by
  have first : (Cache.recency (text :: back)).filter (· ∉ front) =
      text :: ((Cache.recency back).filter (· ≠ text)).filter (· ∉ front) := by
    rw [Cache.recency, List.filter_cons_of_pos (by exact decide_eq_true fresh)]
  have before : text ∉ Cache.recency front := mt Cache.mem_recency.mp fresh
  rw [Cache.recency_append, first, List.take_append, ← Cache.length_recency, List.mem_append]
  constructor
  · rintro (early | late)
    · exact (before (List.mem_of_mem_take early)).elim
    · exact Nat.lt_of_sub_ne_zero fun none => by rw [none] at late; cases late
  · intro room
    obtain ⟨more, left⟩ := Nat.exists_eq_succ_of_ne_zero (Nat.sub_ne_zero_of_lt room)
    rw [left]
    exact Or.inr List.mem_cons_self

/-- Taking out a text that occurs at most once needs no more than one text to replace it. -/
theorem Cache.take_filter_take (distinct : texts.Nodup) (count : Nat) :
    ((texts.take (count + 1)).filter (· ≠ text)).take count =
      (texts.filter (· ≠ text)).take count := by
  induction texts generalizing count with
  | nil => rfl
  | cons first rest ih =>
    obtain ⟨once, distinct⟩ := List.nodup_cons.mp distinct
    rw [List.take_succ_cons]
    by_cases same : first = text
    · subst same
      have others : ∀ texts : List String, first ∉ texts → texts.filter (· ≠ first) = texts :=
        fun texts absent => List.filter_eq_self.mpr fun other member =>
          decide_eq_true fun equal => absent (equal ▸ member)
      rw [List.filter_cons_of_neg (by simp), List.filter_cons_of_neg (by simp),
        others rest once, others _ (mt List.mem_of_mem_take once), List.take_take, Nat.min_self]
    · rw [List.filter_cons_of_pos (by exact decide_eq_true same),
        List.filter_cons_of_pos (by exact decide_eq_true same)]
      cases count with
      | zero => rfl
      | succ count => rw [List.take_succ_cons, List.take_succ_cons, ih distinct]

end

/-- Holding a text as the most recently used one leaves out the one that was used the longest ago,
if there is no room for all. -/
theorem Cache.texts_touch {cache : Cache} {texts : List String}
    (recent : cache.entries.map (·.descriptor.raw) = (Cache.recency texts).take cache.capacity)
    (handle : Handle) :
    (cache.touch handle).entries.map (·.descriptor.raw) =
      (Cache.recency (handle.descriptor.raw :: texts)).take cache.capacity := by
  have others : (cache.entries.filter fun other =>
      other.descriptor.raw ≠ handle.descriptor.raw).map (·.descriptor.raw) =
        ((Cache.recency texts).take cache.capacity).filter (· ≠ handle.descriptor.raw) := by
    rw [← recent, List.filter_map]
    rfl
  rw [Cache.touch, Cache.recency, List.map_take, List.map_cons, others]
  cases cache.capacity with
  | zero => rfl
  | succ count =>
    rw [List.take_succ_cons, List.take_succ_cons,
      Cache.take_filter_take (Cache.nodup_recency texts)]

/-! ## Runs -/

/-- A call on a cache. -/
inductive Cache.Call where
  | parse (text : String)
  | clear
deriving DecidableEq

/-- The cache after a call. -/
def Cache.step (cache : Cache) : Cache.Call → Cache
  | .parse text => (cache.parse text).2
  | .clear => cache.clear

/-- The cache after some calls, beginning with an empty one. -/
def Cache.run (capacity : Nat) (mode : ReadingMode) (calls : List Cache.Call) : Cache :=
  calls.foldl Cache.step (.ofCapacity capacity mode)

/-- The text that a call parses with success. -/
def Cache.Call.text? (mode : ReadingMode) : Cache.Call → Option String
  | .parse text => (Descriptor.parse mode text).toOption.map fun _ => text
  | .clear => none

/-- The texts parsed with success since the cache was last cleared, the latest first. -/
def Cache.reads (mode : ReadingMode) (calls : List Cache.Call) : List String :=
  (calls.reverse.takeWhile (· ≠ .clear)).filterMap (Cache.Call.text? mode)

/-- Among the calls a parse of the text answered with the handle, and then came the `later` ones. -/
def Cache.Answered (capacity : Nat) (mode : ReadingMode) (calls : List Cache.Call) (text : String)
    (handle : Handle) (later : List Cache.Call) : Prop :=
  ∃ before, calls = before ++ .parse text :: later ∧
    ((Cache.run capacity mode before).parse text).1 = .ok handle

theorem Cache.run_append (capacity : Nat) (mode : ReadingMode) (calls later : List Cache.Call) :
    Cache.run capacity mode (calls ++ later) =
      later.foldl Cache.step (Cache.run capacity mode calls) :=
  List.foldl_append

section

variable {mode : ReadingMode} {calls later : List Cache.Call} {text : String}

theorem Cache.Call.text?_of_read {d : Descriptor} (parsed : Descriptor.parse mode text = .ok d) :
    (Cache.Call.parse text).text? mode = some text := by
  rw [Cache.Call.text?, parsed]
  rfl

/-- A text that can not be read does not count as read, and so takes no place in a cache. -/
theorem Cache.Call.text?_of_unreadable {error : QueryError}
    (parsed : Descriptor.parse mode text = .error error) :
    (Cache.Call.parse text).text? mode = none := by
  rw [Cache.Call.text?, parsed]
  rfl

/-- Calls that do not clear the cache read on: what was read before them still counts, behind what
they have read. -/
theorem Cache.reads_append (uncleared : .clear ∉ later) :
    Cache.reads mode (calls ++ later) = Cache.reads mode later ++ Cache.reads mode calls := by
  have all : ∀ call ∈ later.reverse, decide (call ≠ Cache.Call.clear) = true :=
    fun call member => decide_eq_true fun same => uncleared (same ▸ List.mem_reverse.mp member)
  rw [Cache.reads, List.reverse_append, List.takeWhile_append_of_pos all, List.filterMap_append,
    Cache.reads, List.takeWhile_eq_self_iff.mpr all]
  rfl

/-- What was read before the cache was cleared does not count. -/
theorem Cache.reads_append_of_cleared (cleared : .clear ∈ later) :
    Cache.reads mode (calls ++ later) = Cache.reads mode later := by
  rw [Cache.reads, List.reverse_append, List.takeWhile_append, if_neg, Cache.reads]
  intro whole
  have all := (List.takeWhile_prefix _).eq_of_length whole
  have passes := List.takeWhile_eq_self_iff.mp all _ (List.mem_reverse.mpr cleared)
  exact of_decide_eq_true passes rfl

theorem Cache.reads_concat_clear : Cache.reads mode (calls ++ [.clear]) = [] :=
  Cache.reads_append_of_cleared (List.mem_singleton_self _)

theorem Cache.reads_concat_parse :
    Cache.reads mode (calls ++ [.parse text]) =
      ((Cache.Call.parse text).text? mode).toList ++ Cache.reads mode calls := by
  rw [Cache.reads_append (by simp), Cache.Call.text?]
  cases parsed : Descriptor.parse mode text with
  | error error =>
    rw [List.append_left_inj]
    exact List.filterMap_cons_none (Cache.Call.text?_of_unreadable parsed)
  | ok d =>
    rw [List.append_left_inj]
    exact List.filterMap_cons_some (Cache.Call.text?_of_read parsed)

theorem Cache.mem_of_mem_reads (member : text ∈ Cache.reads mode calls) : .parse text ∈ calls := by
  obtain ⟨call, taken, read⟩ := List.mem_filterMap.mp member
  have given := List.mem_reverse.mp ((List.takeWhile_sublist _).mem taken)
  cases call with
  | clear => cases read
  | parse other =>
    obtain ⟨d, -, same⟩ := Option.map_eq_some_iff.mp read
    rwa [← same]

end

/-- What a cache holds after some calls. -/
structure Cache.Recalls (capacity : Nat) (mode : ReadingMode) (calls : List Cache.Call)
    (cache : Cache) : Prop where
  room : cache.capacity = capacity
  valid : Cache.Valid mode cache
  recent : cache.entries.map (·.descriptor.raw) =
    (Cache.recency (Cache.reads mode calls)).take capacity
  numbered : ∀ handle ∈ cache.entries, handle.serial < cache.made

namespace Cache.Recalls

variable {capacity : Nat} {mode : ReadingMode} {calls : List Cache.Call} {cache : Cache}
  {text : String} {handle : Handle}

theorem empty (capacity : Nat) (mode : ReadingMode) :
    Cache.Recalls capacity mode [] (.ofCapacity capacity mode) where
  room := rfl
  valid := .empty capacity mode
  recent := List.take_nil.symm
  numbered _ member := nomatch member

/-- A text that is read becomes the most recently used one. -/
theorem touch (h : Cache.Recalls capacity mode calls cache)
    (read : handle.descriptor.IsRead mode) (raw : handle.descriptor.raw = text) {made : Nat}
    (more : cache.made ≤ made) (fresh : handle.serial < made) :
    Cache.Recalls capacity mode (calls ++ [.parse text])
      { cache.touch handle with made := made } where
  room := h.room
  valid := ⟨(h.valid.touch read).reads, (h.valid.touch read).entries⟩
  recent := by
    have recent := h.recent
    rw [← h.room] at recent
    have parsed : Descriptor.parse mode text = .ok handle.descriptor := raw ▸ read
    rw [Cache.reads_concat_parse, Cache.Call.text?_of_read parsed, ← raw, ← h.room]
    exact Cache.texts_touch recent handle
  numbered other member := by
    rcases List.mem_cons.mp (List.mem_of_mem_take member) with rfl | held
    · exact fresh
    · exact Nat.lt_of_lt_of_le (h.numbered other (List.mem_of_mem_filter held)) more

/-- Every call leaves a cache that recalls what was read, by recency, up to its capacity. -/
theorem step (h : Cache.Recalls capacity mode calls cache) (call : Cache.Call) :
    Cache.Recalls capacity mode (calls ++ [call]) (cache.step call) := by
  cases call with
  | clear =>
    refine ⟨h.room, h.valid.clear, ?_, fun _ member => nomatch member⟩
    rw [Cache.reads_concat_clear]
    exact List.take_nil.symm
  | parse text =>
    have parses := cache.parses text
    rw [Cache.step]
    generalize cache.parse text = result at parses
    cases parses with
    | held handle member raw =>
      exact h.touch (h.valid.entries handle member) raw (Nat.le_refl _) (h.numbered handle member)
    | unreadable error parsed =>
      refine ⟨h.room, h.valid, ?_, h.numbered⟩
      rw [h.valid.reads] at parsed
      rw [Cache.reads_concat_parse, Cache.Call.text?_of_unreadable parsed]
      exact h.recent
    | read descriptor unheld parsed =>
      have raw := (Descriptor.parse_ok parsed).1
      have read : (⟨cache.made, descriptor⟩ : Handle).descriptor.IsRead mode := by
        rw [Descriptor.IsRead, raw, ← h.valid.reads]
        exact parsed
      exact h.touch read raw (Nat.le_succ _) (Nat.lt_succ_self _)

/-- A text is held exactly when fewer others than there is room for were read after it. So what a
cache holds can be told from the calls alone. -/
theorem held_iff (h : Cache.Recalls capacity mode calls cache) :
    (∃ handle ∈ cache.entries, handle.descriptor.raw = text) ↔
      text ∈ (Cache.recency (Cache.reads mode calls)).take capacity := by
  rw [← h.recent, List.mem_map]

/-- A cache holds as many texts as were read, as far as there is room. -/
theorem size (h : Cache.Recalls capacity mode calls cache) :
    cache.size = min capacity (Cache.reads mode calls).toFinset.card := by
  have same := congrArg List.length h.recent
  rwa [List.length_map, List.length_take, Cache.length_recency] at same

end Cache.Recalls

/-- After every run a cache recalls the texts of that run. -/
theorem Cache.recalls_run (capacity : Nat) (mode : ReadingMode) (calls : List Cache.Call) :
    Cache.Recalls capacity mode calls (Cache.run capacity mode calls) := by
  induction calls using List.reverseRecOn with
  | nil => exact .empty capacity mode
  | append_singleton calls call ih =>
    rw [Cache.run_append]
    exact ih.step call

/-! ## The same descriptor -/

section

variable {capacity : Nat} {mode : ReadingMode} {calls later : List Cache.Call} {cache : Cache}
  {text : String} {handle earlier : Handle}

/-- A text that was parsed stays held as long as there is room for what was read after it, which is
counted without repetitions. -/
theorem Cache.held_iff_recent (parsed : ∃ d, Descriptor.parse mode text = .ok d)
    (last : .parse text ∉ later) (before : List Cache.Call) :
    text ∈ (Cache.recency (Cache.reads mode (before ++ .parse text :: later))).take capacity ↔
      .clear ∉ later ∧ (Cache.reads mode later).toFinset.card < capacity := by
  have fresh : text ∉ Cache.reads mode later := mt Cache.mem_of_mem_reads last
  obtain ⟨d, parsed⟩ := parsed
  rw [List.append_cons]
  by_cases cleared : .clear ∈ later
  · rw [Cache.reads_append_of_cleared cleared]
    exact iff_of_false (fun held => fresh (Cache.mem_recency.mp (List.mem_of_mem_take held)))
      fun kept => kept.1 cleared
  · rw [Cache.reads_append cleared, Cache.reads_concat_parse, Cache.Call.text?_of_read parsed]
    exact (Cache.mem_take_recency fresh _ _).trans (and_iff_right cleared).symm

/-- What a cache holds for a text is what it answered the last parse of the text with. -/
def Cache.HoldsOnly (cache : Cache) (text : String) (earlier : Handle) : Prop :=
  ∀ handle ∈ cache.entries, handle.descriptor.raw = text → handle = earlier

theorem Cache.HoldsOnly.of_parse (valid : Cache.Valid mode cache)
    (answer : (cache.parse text).1 = .ok earlier) :
    (cache.parse text).2.HoldsOnly text earlier := by
  have raw := ((valid.parse text).2 earlier answer).1
  have touched : (cache.touch earlier).HoldsOnly text earlier := by
    intro handle member same
    rcases List.mem_cons.mp (List.mem_of_mem_take member) with rfl | other
    · rfl
    · have differs := List.of_mem_filter other
      exact absurd (same.trans raw.symm) (of_decide_eq_true differs)
  have parses := cache.parses text
  generalize cache.parse text = result at parses answer
  cases parses with
  | held handle member raw =>
    cases answer
    exact touched
  | unreadable error parsed => cases answer
  | read descriptor unheld parsed =>
    cases answer
    exact touched

/-- As long as its text is not parsed again, a descriptor that is held for it is the only one that
may be. -/
theorem Cache.HoldsOnly.step (only : cache.HoldsOnly text earlier) {call : Cache.Call}
    (other : call ≠ .parse text) : (cache.step call).HoldsOnly text earlier := by
  cases call with
  | clear => exact fun _ member => nomatch member
  | parse text' =>
    have parses := cache.parses text'
    rw [Cache.step]
    generalize cache.parse text' = result at parses
    cases parses with
    | held handle member raw =>
      intro handle' member' same
      rcases List.mem_cons.mp (List.mem_of_mem_take member') with rfl | held
      · exact only handle' member same
      · exact only handle' (List.mem_of_mem_filter held) same
    | unreadable error parsed => exact only
    | read descriptor unheld parsed =>
      intro handle' member' same
      rcases List.mem_cons.mp (List.mem_of_mem_take member') with rfl | held
      · have raw : descriptor.raw = text' := (Descriptor.parse_ok parsed).1
        exact absurd (congrArg Cache.Call.parse (raw.symm.trans same)) other
      · exact only handle' (List.mem_of_mem_filter held) same

theorem Cache.HoldsOnly.foldl (only : cache.HoldsOnly text earlier) (last : .parse text ∉ later) :
    (later.foldl Cache.step cache).HoldsOnly text earlier := by
  induction later generalizing cache with
  | nil => exact only
  | cons call later ih =>
    obtain ⟨other, last⟩ := List.ne_and_not_mem_of_not_mem_cons last
    exact ih (only.step other.symm) last

theorem Cache.made_step_le (cache : Cache) (call : Cache.Call) :
    cache.made ≤ (cache.step call).made := by
  cases call with
  | clear => exact Nat.le_refl _
  | parse text =>
    have parses := cache.parses text
    rw [Cache.step]
    generalize cache.parse text = result at parses
    cases parses with
    | held handle member raw => exact Nat.le_refl _
    | unreadable error parsed => exact Nat.le_refl _
    | read descriptor unheld parsed => exact Nat.le_succ _

theorem Cache.made_foldl_le (cache : Cache) (calls : List Cache.Call) :
    cache.made ≤ (calls.foldl Cache.step cache).made := by
  induction calls generalizing cache with
  | nil => exact Nat.le_refl _
  | cons call calls ih => exact Nat.le_trans (cache.made_step_le call) (ih _)

theorem Cache.Recalls.serial_lt (h : Cache.Recalls capacity mode calls cache)
    (answer : (cache.parse text).1 = .ok handle) : handle.serial < (cache.parse text).2.made := by
  have parses := cache.parses text
  generalize cache.parse text = result at parses answer
  cases parses with
  | held handle' member raw =>
    cases answer
    exact h.numbered _ member
  | unreadable error parsed => cases answer
  | read descriptor unheld parsed =>
    cases answer
    exact Nat.lt_succ_self _

theorem Cache.run_parse (capacity : Nat) (mode : ReadingMode) (before later : List Cache.Call)
    (text : String) :
    Cache.run capacity mode (before ++ .parse text :: later) =
      later.foldl Cache.step ((Cache.run capacity mode before).parse text).2 := by
  rw [Cache.run_append]
  rfl

/-- The descriptors that were handed out are those made so far, so the next one to be made is none
of them. -/
theorem Cache.Answered.serial_lt
    (answered : Cache.Answered capacity mode calls text handle later) :
    handle.serial < (Cache.run capacity mode calls).made := by
  obtain ⟨before, rfl, answer⟩ := answered
  rw [Cache.run_parse]
  exact Nat.lt_of_lt_of_le ((Cache.recalls_run capacity mode before).serial_lt answer)
    (Cache.made_foldl_le _ later)

theorem Cache.Answered.holdsOnly
    (answered : Cache.Answered capacity mode calls text earlier later)
    (last : .parse text ∉ later) : (Cache.run capacity mode calls).HoldsOnly text earlier := by
  obtain ⟨before, rfl, first⟩ := answered
  rw [Cache.run_parse]
  exact (Cache.HoldsOnly.of_parse (Cache.recalls_run capacity mode before).valid first).foldl last

/-- A parse hands out the descriptor of the last parse of its text, unless the cache was cleared in
between or had no room for what was read in between. -/
theorem Cache.Answered.serial_eq_iff
    (answered : Cache.Answered capacity mode calls text earlier later)
    (last : .parse text ∉ later)
    (answer : ((Cache.run capacity mode calls).parse text).1 = .ok handle) :
    handle.serial = earlier.serial ↔
      .clear ∉ later ∧ (Cache.reads mode later).toFinset.card < capacity := by
  have made := answered.serial_lt
  have only := answered.holdsOnly last
  have recalls := Cache.recalls_run capacity mode calls
  have read := recalls.valid.answer text
  rw [answer] at read
  obtain ⟨before, rfl, -⟩ := answered
  rw [← Cache.held_iff_recent ⟨_, read.symm⟩ last before, ← recalls.held_iff]
  have parses := (Cache.run capacity mode (before ++ .parse text :: later)).parses text
  generalize (Cache.run capacity mode (before ++ .parse text :: later)).parse text = result
    at parses answer
  cases parses with
  | held handle' member raw =>
    cases answer
    exact iff_of_true (congrArg Handle.serial (only _ member raw)) ⟨_, member, raw⟩
  | unreadable error parsed => cases answer
  | read descriptor unheld parsed =>
    cases answer
    exact iff_of_false (Nat.ne_of_gt made) fun ⟨other, member, raw⟩ => unheld other member raw

theorem Cache.snd_parse_of_error {error : QueryError}
    (failed : (cache.parse text).1 = .error error) :
    (cache.parse text).2 = cache := by
  have parses := cache.parses text
  generalize cache.parse text = result at parses failed
  cases parses with
  | held handle member raw => cases failed
  | unreadable error parsed => rfl
  | read descriptor unheld parsed => cases failed

/-- A text that was read and is read again was parsed at some call for the last time; what it was
answered with then is what may still be held. -/
theorem Cache.exists_answered (parsed : ∃ d, Descriptor.parse mode text = .ok d)
    (given : .parse text ∈ calls) :
    ∃ earlier later, Cache.Answered capacity mode calls text earlier later ∧
      .parse text ∉ later := by
  obtain ⟨later, before, reversed, last⟩ :=
    List.eq_append_cons_of_mem (List.mem_reverse.mpr given)
  have whole : calls = before.reverse ++ .parse text :: later.reverse := by
    rw [← List.reverse_reverse calls, reversed, List.reverse_append, List.reverse_cons,
      List.append_assoc]
    rfl
  obtain ⟨d, parsed⟩ := parsed
  have answer := (Cache.recalls_run capacity mode before.reverse).valid.answer text
  rw [parsed] at answer
  cases answered : ((Cache.run capacity mode before.reverse).parse text).1 with
  | error error =>
    rw [answered] at answer
    cases answer
  | ok earlier =>
    exact ⟨earlier, later.reverse, ⟨before.reverse, whole, answered⟩, mt List.mem_reverse.mp last⟩

/-- A descriptor that is not the one of the last parse of its text is the next to be made: a cache
hands out what it holds, or reads again. -/
theorem Cache.serial_eq_made
    (answer : ((Cache.run capacity mode calls).parse text).1 = .ok handle)
    (renewed : ∀ earlier later, Cache.Answered capacity mode calls text earlier later →
      .parse text ∉ later → handle.serial ≠ earlier.serial) :
    handle.serial = (Cache.run capacity mode calls).made := by
  have recalls := Cache.recalls_run capacity mode calls
  have read := recalls.valid.answer text
  rw [answer] at read
  have parses := (Cache.run capacity mode calls).parses text
  generalize (Cache.run capacity mode calls).parse text = result at parses answer
  cases parses with
  | held handle' member raw =>
    cases answer
    have held := recalls.held_iff.mp ⟨_, member, raw⟩
    have given := Cache.mem_of_mem_reads (Cache.mem_recency.mp (List.mem_of_mem_take held))
    obtain ⟨earlier, later, answered, last⟩ := Cache.exists_answered ⟨_, read.symm⟩ given
    have same := answered.holdsOnly last _ member raw
    exact (renewed earlier later answered last (congrArg Handle.serial same)).elim
  | unreadable error parsed => cases answer
  | read descriptor unheld parsed =>
    cases answer
    rfl

end

/-- A cache is transparent, and gives up what was not read for the longest time. A parse answers as
reading the text does. One that fails leaves the cache as it is, which never holds more than there
is room for: as many descriptors as different texts were parsed with success since it was last
cleared, if that is not more than its capacity. A parse that succeeds hands out the descriptor of the
last parse of its text exactly when the cache was not cleared since and fewer different texts than
its capacity were read in between; otherwise it hands out one that never was before. So without
capacity every parse makes a new one. -/
theorem Cache.parse_by_recency (capacity : Nat) (mode : ReadingMode) (calls : List Cache.Call)
    (text : String) :
    let cache := Cache.run capacity mode calls
    let answer := (cache.parse text).1
    answer.map Handle.descriptor = Descriptor.parse mode text ∧
      (∀ error, answer = .error error → (cache.parse text).2 = cache) ∧
      cache.size = min capacity (Cache.reads mode calls).toFinset.card ∧
      ∀ handle, answer = .ok handle →
        (∀ earlier later, Cache.Answered capacity mode calls text earlier later →
            .parse text ∉ later →
            (handle.serial = earlier.serial ↔
              .clear ∉ later ∧ (Cache.reads mode later).toFinset.card < capacity)) ∧
          ((∀ earlier later, Cache.Answered capacity mode calls text earlier later →
              .parse text ∉ later → handle.serial ≠ earlier.serial) →
            ∀ text' other later, Cache.Answered capacity mode calls text' other later →
              handle.serial ≠ other.serial) := by
  intro cache answer
  have recalls := Cache.recalls_run capacity mode calls
  refine ⟨recalls.valid.answer text, fun error failed => ?_, recalls.size, fun handle done =>
    ⟨fun earlier later answered last => answered.serial_eq_iff last done,
      fun renewed text' other later answered => ?_⟩⟩
  · exact Cache.snd_parse_of_error failed
  · have made := Cache.serial_eq_made done renewed
    exact Nat.ne_of_gt (Nat.lt_of_lt_of_eq answered.serial_lt made.symm)

/-- With room for two, the text that was parsed again is kept over a failure and a third text, and
the other one is not. -/
theorem Cache.parse_by_recency_room_for_two :
    let calls : List Cache.Call := [.parse "SELECT 1", .parse "SELECT 2", .parse "SELECT 1",
      .parse "1", .parse "SELECT 3"]
    let cache := Cache.run 2 .tolerant calls
    ∃ kept renewed, (cache.parse "SELECT 1").1 = .ok kept ∧ kept.serial = 0 ∧
      (cache.parse "SELECT 2").1 = .ok renewed ∧
      (∀ text other later, Cache.Answered 2 .tolerant calls text other later →
        renewed.serial ≠ other.serial) ∧
      cache.size = 2 ∧ (cache.parse "1").2 = cache := by
  intro calls cache
  let first : Handle := ⟨0, "SELECT 1", "SELECT 1", .data, [], [.select]⟩
  let renewed : Handle := ⟨3, "SELECT 2", "SELECT 2", .data, [], [.select]⟩
  have answer₁ : (cache.parse "SELECT 1").1 = .ok first := by decide +kernel
  have answer₂ : (cache.parse "SELECT 2").1 = .ok renewed := by decide +kernel
  have refused : (cache.parse "1").1 = .error (.grammar 0 (.unknownKeyword "1")) := by
    decide +kernel
  have answered : Cache.Answered 2 .tolerant calls "SELECT 1" first
      [.parse "1", .parse "SELECT 3"] :=
    ⟨[.parse "SELECT 1", .parse "SELECT 2"], rfl, by decide +kernel⟩
  have made : (Cache.run 2 .tolerant calls).made = 3 := by decide +kernel
  obtain ⟨-, -, size, same⟩ := Cache.parse_by_recency 2 .tolerant calls "SELECT 1"
  obtain ⟨-, unchanged, -, -⟩ := Cache.parse_by_recency 2 .tolerant calls "1"
  obtain ⟨-, -, -, new⟩ := Cache.parse_by_recency 2 .tolerant calls "SELECT 2"
  refine ⟨first, renewed, answer₁, ?_, answer₂, ?_, ?_, unchanged _ refused⟩
  · exact ((same first answer₁).1 first _ answered (by decide)).mpr ⟨by decide, by decide +kernel⟩
  · refine (new renewed answer₂).2 fun earlier later answered _ => Nat.ne_of_gt ?_
    exact Nat.lt_of_lt_of_eq answered.serial_lt made
  · exact size.trans (by decide +kernel)

end SqlDriver
