/-!
# Tables in order of insertion

A `Table` maps keys to values and remembers the order in which keys came in: a new key goes to the
end, a known one keeps its place.  A `Tally` is a table of counts.

* `Table.get?`, `Table.alter`, `Table.insert`, `Table.erase`: lookup and change.
* `Table.get?_alter_self`, `Table.get?_alter_of_ne`: what a change does to lookups.
* `Table.same`: equality of what two tables map, in whatever order.
* `Tally.count`, `Tally.add`, `Tally.addAll`: counts.
-/

namespace Daybook

/-- A map from keys to values with the keys in order of insertion. -/
structure Table (κ α : Type) where
  entries : List (κ × α)
deriving DecidableEq, Repr

namespace Table

variable {κ α : Type}

/-- The table without entries. -/
def empty : Table κ α := ⟨[]⟩

instance : Inhabited (Table κ α) := ⟨empty⟩

/-- The keys in order of insertion. -/
def keys (t : Table κ α) : List κ :=
  t.entries.map (·.1)

/-- The values in the order of their keys. -/
def values (t : Table κ α) : List α :=
  t.entries.map (·.2)

/-- The number of entries. -/
def size (t : Table κ α) : Nat :=
  t.entries.length

variable [DecidableEq κ]

/-- The value of the first entry with a key. -/
def find (k : κ) : List (κ × α) → Option α
  | [] => none
  | e :: rest => if e.1 = k then some e.2 else find k rest

/-- The value at a key. -/
def get? (t : Table κ α) (k : κ) : Option α :=
  find k t.entries

/-- Whether a key is in the table. -/
def contains (t : Table κ α) (k : κ) : Bool :=
  (t.get? k).isSome

/-- Replaces the value of the first entry with a key, or adds an entry at the end. -/
def alterEntries (k : κ) (f : Option α → α) : List (κ × α) → List (κ × α)
  | [] => [(k, f none)]
  | e :: rest => if e.1 = k then (e.1, f (some e.2)) :: rest else e :: alterEntries k f rest

/-- Sets the value at a key to `f` of the present value. -/
def alter (t : Table κ α) (k : κ) (f : Option α → α) : Table κ α :=
  ⟨alterEntries k f t.entries⟩

/-- Sets the value at a key. -/
def insert (t : Table κ α) (k : κ) (a : α) : Table κ α :=
  t.alter k fun _ => a

/-- Sets the value at a key that is not yet in the table. -/
def insertNew (t : Table κ α) (k : κ) (a : α) : Table κ α :=
  t.alter k fun old => old.getD a

/-- Removes a key. -/
def erase (t : Table κ α) (k : κ) : Table κ α :=
  ⟨t.entries.filter fun e => e.1 ≠ k⟩

theorem find_alterEntries_self (k : κ) (f : Option α → α) (l : List (κ × α)) :
    find k (alterEntries k f l) = some (f (find k l)) := by
  induction l with
  | nil => simp [alterEntries, find]
  | cons e l ih =>
    by_cases h : e.1 = k
    · simp [alterEntries, find, h]
    · simp [alterEntries, find, h, ih]

theorem find_alterEntries_of_ne {k k' : κ} (hk : k ≠ k') (f : Option α → α) (l : List (κ × α)) :
    find k' (alterEntries k f l) = find k' l := by
  induction l with
  | nil => simp [alterEntries, find, hk]
  | cons e l ih =>
    by_cases h : e.1 = k
    · have h' : e.1 ≠ k' := fun h' => hk (h.symm.trans h')
      simp [alterEntries, find, h, hk]
    · simp [alterEntries, find, h, ih]

/-- After a change, the key has the changed value. -/
@[simp] theorem get?_alter_self (t : Table κ α) (k : κ) (f : Option α → α) :
    (t.alter k f).get? k = some (f (t.get? k)) :=
  find_alterEntries_self k f t.entries

/-- A change leaves all other keys as they were. -/
theorem get?_alter_of_ne (t : Table κ α) {k k' : κ} (hk : k ≠ k') (f : Option α → α) :
    (t.alter k f).get? k' = t.get? k' :=
  find_alterEntries_of_ne hk f t.entries

/-- Whether two tables map the same keys to equal values. -/
def same (eq : α → α → Bool) (s t : Table κ α) : Bool :=
  s.size == t.size && s.entries.all fun e => (t.get? e.1).any (eq e.2)

end Table

/-- Whether two lists have the same members. -/
def sameMembers {α : Type} [DecidableEq α] (xs ys : List α) : Bool :=
  xs.all (ys.contains ·) && ys.all (xs.contains ·)

/-- The members of both lists, those of the second that are new in front. -/
def uniteMembers {α : Type} [DecidableEq α] (xs ys : List α) : List α :=
  ys.foldl (fun acc y => acc.insert y) xs

/-- A table of counts. -/
abbrev Tally (κ : Type) := Table κ Nat

namespace Tally

variable {κ : Type} [DecidableEq κ]

/-- The count of a key; a key that is not in the table counts nought. -/
def count (t : Tally κ) (k : κ) : Nat :=
  (t.get? k).getD 0

/-- Adds to the count of a key. -/
def add (t : Tally κ) (k : κ) (n : Nat) : Tally κ :=
  t.alter k fun old => old.getD 0 + n

/-- Adds all counts of another table. -/
def addAll (t other : Tally κ) : Tally κ :=
  other.entries.foldl (fun acc e => add acc e.1 e.2) t

end Tally

end Daybook
