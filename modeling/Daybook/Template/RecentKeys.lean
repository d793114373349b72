/-!
# Recently used keys

A ring of fixed capacity holds the keys that were used last.  The slots fill up from the first; then
each key overwrites the oldest one.

* `RecentKeys`: the ring; `RecentKeys.empty`, `RecentKeys.push`.
* `RecentKeys.keys`: the keys from the oldest to the newest.
* `RecentKeys.count`: how often a key is in the ring.
* `RecentBuffer`: a ring that can be frozen, after which it takes no more keys.
-/

namespace Daybook.Template

/-- The keys that were used last. -/
structure RecentKeys where
  capacity : Nat
  /-- The filled slots. -/
  slots : List String
  /-- The slot of the next key. -/
  writeIndex : Nat
deriving DecidableEq, Repr

namespace RecentKeys

/-- The capacity of the rings in a snapshot. -/
def standardCapacity : Nat := 50

/-- A ring without keys. -/
def empty (capacity : Nat) : RecentKeys := ⟨capacity, [], 0⟩

/-- Puts a key into the next slot. -/
def push (r : RecentKeys) (key : String) : RecentKeys :=
  { r with
    slots := if r.slots.length < r.capacity then r.slots ++ [key] else r.slots.set r.writeIndex key
    writeIndex := (r.writeIndex + 1) % r.capacity }

/-- Puts several keys in, one after another. -/
def pushAll (r : RecentKeys) (keys : List String) : RecentKeys :=
  keys.foldl push r

/-- The keys from the oldest to the newest. -/
def keys (r : RecentKeys) : List String :=
  if r.slots.length < r.capacity then r.slots
  else r.slots.drop r.writeIndex ++ r.slots.take r.writeIndex

/-- The number of keys. -/
def length (r : RecentKeys) : Nat :=
  r.slots.length

/-- How often a key is in the ring. -/
def count (r : RecentKeys) (key : String) : Nat :=
  r.slots.count key

/-- Whether two rings have the same capacity, the same next slot and the same keys. -/
def same (r s : RecentKeys) : Bool :=
  r.capacity == s.capacity && r.writeIndex == s.writeIndex && r.keys == s.keys

end RecentKeys

/-- A ring that can be frozen. -/
structure RecentBuffer where
  ring : RecentKeys
  frozen : Bool
deriving DecidableEq, Repr

/-- Why a ring is refused. -/
inductive BufferError where
  | badCapacity
  | frozen
deriving DecidableEq, Repr

/-- The wording of an error. -/
def BufferError.message : BufferError → String
  | badCapacity => "capacity must be a positive integer"
  | frozen => "RecentTemplateBuffer is frozen; copy() it to modify"

namespace RecentBuffer

/-- A ring without keys. -/
def make (capacity : Int) : Except BufferError RecentBuffer :=
  if capacity < 1 then .error .badCapacity
  else .ok ⟨RecentKeys.empty capacity.toNat, false⟩

/-- Puts a key into the next slot. -/
def push (b : RecentBuffer) (key : String) : Except BufferError RecentBuffer :=
  if b.frozen then .error .frozen else .ok { b with ring := b.ring.push key }

/-- A ring that takes no more keys. -/
def freeze (b : RecentBuffer) : RecentBuffer :=
  { b with frozen := true }

/-- A copy that takes keys again. -/
def copy (b : RecentBuffer) : RecentBuffer :=
  { b with frozen := false }

end RecentBuffer

end Daybook.Template
