import SqlDriver.Query.Descriptor

/-!
Descriptors of recently parsed texts. A cache holds at most as many as its capacity, and to make
room it gives up the one that was used the longest ago. A cache without capacity holds nothing, and
then every parse makes a descriptor of its own.
-/

namespace SqlDriver

/-- A descriptor that a parse handed out. Two handles with one serial number are the same one. -/
structure Handle where
  serial : Nat
  descriptor : Descriptor
deriving DecidableEq, Repr

/-- A cache of descriptors by their raw text. -/
structure Cache where
  capacity : Nat
  mode : ReadingMode
  /-- The descriptors held, the most recently used first. -/
  entries : List Handle
  /-- The number of descriptors made so far. -/
  made : Nat
deriving Repr

/-- An empty cache. -/
def Cache.ofCapacity (capacity : Nat) (mode : ReadingMode) : Cache :=
  ⟨capacity, mode, [], 0⟩

/-- An empty cache of the usual size, for tolerant reading. -/
def Cache.default : Cache := .ofCapacity 256 .tolerant

/-- The descriptor held for a text. -/
def Cache.find? (cache : Cache) (text : String) : Option Handle :=
  cache.entries.find? fun handle => handle.descriptor.raw = text

/-- Holds a handle as the most recently used one. -/
def Cache.touch (cache : Cache) (handle : Handle) : Cache :=
  let others := cache.entries.filter fun other => other.descriptor.raw ≠ handle.descriptor.raw
  { cache with entries := (handle :: others).take cache.capacity }

/-- Reads a text, or hands out the descriptor held for it. A text that cannot be read leaves the
cache as it is. -/
def Cache.parse (cache : Cache) (text : String) : Except QueryError Handle × Cache :=
  match cache.find? text with
  | some handle => (.ok handle, cache.touch handle)
  | none =>
    match Descriptor.parse cache.mode text with
    | .error e => (.error e, cache)
    | .ok descriptor =>
      let handle : Handle := ⟨cache.made, descriptor⟩
      (.ok handle, { cache.touch handle with made := cache.made + 1 })

def Cache.isEnabled (cache : Cache) : Bool := cache.capacity ≠ 0

/-- The number of descriptors held. -/
def Cache.size (cache : Cache) : Nat := cache.entries.length

def Cache.isEmpty (cache : Cache) : Bool := cache.size = 0

/-- Gives up every descriptor held. -/
def Cache.clear (cache : Cache) : Cache := { cache with entries := [] }

end SqlDriver
