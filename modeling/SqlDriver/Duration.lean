/-!
Spans of time in whole seconds and nanoseconds, as deadlines are given.
-/

namespace SqlDriver

/-- A span of time. -/
structure Duration where
  seconds : UInt64
  nanoseconds : Nat
  nanoseconds_le : nanoseconds ≤ 999999999
deriving DecidableEq, Repr

/-- The span of that many whole seconds. -/
def Duration.ofSeconds (seconds : UInt64) : Duration := ⟨seconds, 0, by decide⟩

/-- The span of that many milliseconds. -/
def Duration.ofMilliseconds (count : Nat) : Duration :=
  ⟨UInt64.ofNat (count / 1000), count % 1000 * 1000000, by omega⟩

/-- The span of seconds and nanoseconds, a whole second of nanoseconds being carried over; absent
when the seconds no longer fit 64 bits. -/
def Duration.of? (seconds nanoseconds : Nat) : Option Duration :=
  let total := seconds + nanoseconds / 1000000000
  if total < UInt64.size then
    some ⟨UInt64.ofNat total, nanoseconds % 1000000000, by omega⟩
  else none

end SqlDriver
