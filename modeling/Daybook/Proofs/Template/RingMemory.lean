import Daybook.Proofs.Template.RingCalls
import Mathlib.Data.List.Count

/-!
# Rings in memory

A ring takes a row of cells when it is made, all of them free, and from then on writes over them.  The
cell of the next key, the number of filled cells and whether the ring is frozen are kept apart from the
row.  A copy takes a row of its own; if it wrote to the row of the other ring, each of the two would
overwrite the keys of the other.

Every ring that is made or copied gets a new row, so the ring at a place writes to the row at that
place.  Memory is therefore what is had by laying out rings as values, one by one (`Memory.lay`), and a
call to memory comes to what a call to the values comes to (`Memory.call_lay`).

* `Template.Memory`: rows of cells, and the rings that write to them; `Template.Memory.call`.
* `Template.RecentKeys.Good.cells_push`: a push writes to one cell, whether the ring is full or not.
* `Template.RecentKeys.Good.filterMap_cells`: the cells are read in the order of the keys.
* `Template.Memory.call_lay`, `Template.Memory.views_lay`: memory and values agree.
* `Template.rings_show_last_keys`: what rings show after any calls.
-/

namespace Daybook.Template

/-! ## Memory -/

/-- A ring in memory. -/
structure RingInMemory where
  /-- The row that the ring writes to. -/
  row : ℕ
  /-- The cell of the next key. -/
  writeIndex : ℕ
  /-- The number of filled cells. -/
  length : ℕ
  frozen : Bool

/-- Rows of cells, and the rings that write to them. -/
structure Memory where
  rows : List (List (Option String))
  rings : List RingInMemory

namespace Memory

/-- The memory without rings. -/
def empty : Memory := ⟨[], []⟩

/-- The cells that a ring writes to. -/
def cells (m : Memory) (r : RingInMemory) : List (Option String) :=
  m.rows[r.row]?.getD []

/-- A new ring with cells of its own. -/
def allocate (m : Memory) (cells : List (Option String)) (writeIndex length : ℕ) : Memory where
  rows := m.rows ++ [cells]
  rings := m.rings ++ [⟨m.rows.length, writeIndex, length, false⟩]

/-- The ring at a place writes a key to its next cell. -/
def write (m : Memory) (place : ℕ) (r : RingInMemory) (key : String) : Memory where
  rows := m.rows.set r.row ((m.cells r).set r.writeIndex (some key))
  rings := m.rings.set place
    { r with
      writeIndex := (r.writeIndex + 1) % (m.cells r).length
      length := if r.length < (m.cells r).length then r.length + 1 else r.length }

/-- What a call makes of memory.  A call that names no ring changes nothing. -/
def call (m : Memory) : RingCall → Except BufferError Memory
  | .make capacity =>
    if capacity < 1 then .error .badCapacity
    else .ok (m.allocate (List.replicate capacity.toNat none) 0 0)
  | .push place key =>
    match m.rings[place]? with
    | none => .ok m
    | some r => if r.frozen then .error .frozen else .ok (m.write place r key)
  | .copy place =>
    match m.rings[place]? with
    | none => .ok m
    | some r => .ok (m.allocate (m.cells r) r.writeIndex r.length)
  | .freeze place =>
    match m.rings[place]? with
    | none => .ok m
    | some r => .ok { m with rings := m.rings.set place { r with frozen := true } }

/-- The keys in the cells of a ring, from the oldest to the newest. -/
def keys (m : Memory) (r : RingInMemory) : List String :=
  (if r.length < (m.cells r).length then (m.cells r).take r.length
    else (m.cells r).drop r.writeIndex ++ (m.cells r).take r.writeIndex).filterMap id

/-- What a ring in memory shows. -/
def view (m : Memory) (r : RingInMemory) : RingView where
  capacity := (m.cells r).length
  writeIndex := r.writeIndex
  length := r.length
  frozen := r.frozen
  keys := m.keys r
  count key := (m.cells r).count (some key)

/-- What the rings show. -/
def views (m : Memory) : List RingView :=
  m.rings.map m.view

end Memory

/-! ## Cells -/

theorem filterMap_id_map_some {α : Type} (l : List α) : (l.map some).filterMap id = l := by
  rw [List.filterMap_map, Function.id_comp, List.filterMap_some]

namespace RecentKeys

/-- The cells of a ring: its filled slots, and as many free ones as there is room for. -/
def cells (r : RecentKeys) : List (Option String) :=
  r.slots.map some ++ List.replicate (r.capacity - r.slots.length) none

variable {r : RecentKeys}

theorem cells_of_full (hfull : ¬r.slots.length < r.capacity) : r.cells = r.slots.map some := by
  rw [cells, Nat.sub_eq_zero_of_le (Nat.le_of_not_lt hfull), List.replicate_zero, List.append_nil]

namespace Good

theorem length_cells (h : r.Good) : r.cells.length = r.capacity := by
  rw [cells, List.length_append, List.length_map, List.length_replicate]
  exact Nat.add_sub_cancel' h.length_le

/-- **A push writes to one cell.** -/
theorem cells_push (h : r.Good) (key : String) :
    (r.push key).cells = r.cells.set r.writeIndex (some key) := by
  by_cases hroom : r.slots.length < r.capacity
  · -- The next cell is the first free one.
    have hslots : (r.push key).slots = r.slots ++ [key] := if_pos hroom
    have hfree : r.capacity - r.slots.length = r.capacity - (r.slots.length + 1) + 1 := by omega
    rw [cells, hslots, cells, h.writeIndex_eq hroom, hfree, List.replicate_succ, List.map_append,
      List.length_append, List.set_append_right _ _ (List.length_map ..).le, List.length_map,
      Nat.sub_self, List.append_assoc]
    rfl
  · have hslots : (r.push key).slots = r.slots.set r.writeIndex key := if_neg hroom
    have hstill : ¬(r.push key).slots.length < (r.push key).capacity := by
      rw [hslots, List.length_set]
      exact hroom
    rw [cells_of_full hstill, cells_of_full hroom, hslots, List.map_set]

/-- The cells read from the oldest to the newest. -/
theorem filterMap_cells (h : r.Good) :
    (if r.length < r.cells.length then r.cells.take r.length
      else r.cells.drop r.writeIndex ++ r.cells.take r.writeIndex).filterMap id = r.keys := by
  rw [h.length_cells, keys, length]
  split
  · rw [cells, List.take_left' (List.length_map ..), filterMap_id_map_some]
  · rename_i hfull
    rw [cells_of_full hfull, ← List.map_drop, ← List.map_take, ← List.map_append,
      filterMap_id_map_some]

end Good

/-- A push fills one cell more, unless all are filled. -/
theorem length_push (r : RecentKeys) (key : String) :
    (r.push key).length = if r.length < r.capacity then r.length + 1 else r.length := by
  rw [length, length, push]
  split
  · exact List.length_append
  · exact List.length_set

/-- A free cell holds no key. -/
theorem count_cells (r : RecentKeys) (key : String) : r.cells.count (some key) = r.count key := by
  have hsome : Function.Injective (some : String → Option String) := fun _ _ => Option.some.inj
  have hfree : some key ∉ List.replicate (r.capacity - r.slots.length) none := by simp
  rw [cells, List.count_append, List.count_map_of_injective _ _ hsome,
    List.count_eq_zero_of_not_mem hfree, Nat.add_zero, count]

end RecentKeys

/-! ## Memory and values -/

namespace Memory

/-- A ring in memory that writes to the row of its place. -/
def inRow (place : ℕ) (b : RecentBuffer) : RingInMemory :=
  ⟨place, b.ring.writeIndex, b.ring.length, b.frozen⟩

/-- Rings laid out in memory, each in a row of its own. -/
def lay (rings : List RecentBuffer) : Memory where
  rows := rings.map (·.ring.cells)
  rings := rings.mapIdx inRow

variable {rings : List RecentBuffer} {place : ℕ} {b : RecentBuffer}

theorem getElem?_rings_lay (rings : List RecentBuffer) (place : ℕ) :
    (lay rings).rings[place]? = rings[place]?.map (inRow place) :=
  List.getElem?_mapIdx

theorem cells_lay (h : rings[place]? = some b) : (lay rings).cells (inRow place b) = b.ring.cells := by
  rw [cells, inRow, lay, List.getElem?_map, h]
  rfl

/-- A new ring comes into a row behind all others. -/
theorem lay_concat (hfrozen : b.frozen = false) :
    lay (rings ++ [b]) = (lay rings).allocate b.ring.cells b.ring.writeIndex b.ring.length := by
  rw [lay, List.map_append, List.mapIdx_concat, inRow, hfrozen, allocate, lay, List.length_map]
  rfl

/-- A ring that changes leaves the rows of the others as they are. -/
theorem lay_set : lay (rings.set place b) =
    ⟨(lay rings).rows.set place b.ring.cells, (lay rings).rings.set place (inRow place b)⟩ := by
  rw [lay, List.map_set, List.mapIdx_set, lay]

/-- A ring writes a key as it takes it. -/
theorem write_lay (hb : rings[place]? = some b) (hgood : b.ring.Good) (key : String) :
    (lay rings).write place (inRow place b) key =
      lay (rings.set place { b with ring := b.ring.push key }) := by
  rw [lay_set, write, cells_lay hb, hgood.length_cells, hgood.cells_push]
  have hlength := b.ring.length_push key
  rw [inRow, inRow, hlength]
  rfl

/-- **Rings in memory behave as values.** -/
theorem call_lay (hgood : ∀ b ∈ rings, b.ring.Good) (c : RingCall) :
    (lay rings).call c = (RecentBuffer.kind.call rings c).map lay := by
  cases c with
  | make capacity =>
    change _ = ((RecentBuffer.make capacity).map fun b => rings ++ [b]).map lay
    rw [call, RecentBuffer.make]
    split
    · rfl
    · exact congrArg Except.ok (lay_concat (b := ⟨RecentKeys.empty _, false⟩) rfl).symm
  | push place key =>
    rw [call, RingKind.call, getElem?_rings_lay]
    cases hb : rings[place]? with
    | none => rfl
    | some b =>
      change (if b.frozen then _ else _) =
        ((b.push key).map fun pushed => rings.set place pushed).map lay
      rw [RecentBuffer.push]
      split
      · rfl
      · exact congrArg Except.ok (write_lay hb (hgood b (List.mem_of_getElem? hb)) key)
  | copy place =>
    rw [call, RingKind.call, getElem?_rings_lay]
    cases hb : rings[place]? with
    | none => rfl
    | some b =>
      dsimp only [Option.map_some]
      rw [cells_lay hb]
      exact congrArg Except.ok (lay_concat (b := b.copy) rfl).symm
  | freeze place =>
    rw [call, RingKind.call, getElem?_rings_lay]
    cases hb : rings[place]? with
    | none => rfl
    | some b =>
      -- A ring that is frozen keeps its cells.
      have hrows : (lay rings).rows.set place b.freeze.ring.cells = (lay rings).rows := by
        refine set_eq_self_of_getElem? ?_
        rw [lay, List.getElem?_map, hb]
        rfl
      refine congrArg Except.ok ?_
      change _ = lay (rings.set place b.freeze)
      rw [lay_set, hrows]
      rfl

/-- What one ring in memory shows. -/
theorem view_lay (hb : rings[place]? = some b) (hgood : b.ring.Good) :
    (lay rings).view (inRow place b) = b.view := by
  have hkeys : (lay rings).keys (inRow place b) = b.ring.keys := by
    rw [keys, cells_lay hb]
    exact hgood.filterMap_cells
  have hcount : (fun key => b.ring.cells.count (some key)) = b.ring.count :=
    funext b.ring.count_cells
  rw [view, hkeys, cells_lay hb, hgood.length_cells, hcount]
  rfl

/-- **Rings in memory show what they show as values.** -/
theorem views_lay (hgood : ∀ b ∈ rings, b.ring.Good) : (lay rings).views = rings.map (·.view) := by
  refine List.ext_getElem? fun place => ?_
  rw [views, List.getElem?_map, List.getElem?_map, getElem?_rings_lay, Option.map_map]
  cases hb : rings[place]? with
  | none => rfl
  | some b => exact congrArg some (view_lay hb (hgood b (List.mem_of_getElem? hb)))

end Memory

/-! ## After any calls -/

/-- The memory that calls lead to, where there was no ring before. -/
def memoryAfter (calls : List RingCall) : Memory :=
  afterCalls Memory.call .empty calls

theorem good_of_mem_map_toBuffer {given : List Given} {b : RecentBuffer}
    (h : b ∈ given.map Given.toBuffer) : b.ring.Good := by
  obtain ⟨g, -, rfl⟩ := List.mem_map.mp h
  exact g.holds_toBuffer.good

theorem Memory.call_lay_toBuffer (given : List Given) (c : RingCall) :
    (lay (given.map Given.toBuffer)).call c =
      (Given.kind.call given c).map fun given' => lay (given'.map Given.toBuffer) := by
  rw [call_lay fun _ => good_of_mem_map_toBuffer, Given.hom_toBuffer.map_call]
  cases Given.kind.call given c <;> rfl

/-- **After any calls, memory is had by laying out the rings as values.** -/
theorem memoryAfter_eq (calls : List RingCall) : memoryAfter calls = .lay (ringsAfter calls) := by
  rw [ringsAfter_eq]
  exact afterCalls_map Memory.call_lay_toBuffer [] calls

theorem views_lay_toBuffer (given : List Given) :
    (Memory.lay (given.map Given.toBuffer)).views = (given.map Given.toBuffer).map (·.view) :=
  Memory.views_lay fun _ => good_of_mem_map_toBuffer

/-- After any calls, rings show the same in memory and as values. -/
theorem views_memoryAfter (calls : List RingCall) :
    (memoryAfter calls).views = (ringsAfter calls).map (·.view) := by
  rw [memoryAfter_eq, ringsAfter_eq, views_lay_toBuffer]

/-- A call is refused in memory for the reason that it is refused for values, or leads to the same. -/
theorem map_views_call_memoryAfter (calls : List RingCall) (c : RingCall) :
    ((memoryAfter calls).call c).map Memory.views =
      (RecentBuffer.kind.call (ringsAfter calls) c).map (List.map (·.view)) := by
  rw [memoryAfter_eq, ringsAfter_eq, Memory.call_lay_toBuffer, Given.hom_toBuffer.map_call]
  cases Given.kind.call (givenAfter calls) c with
  | error e => rfl
  | ok given => exact congrArg Except.ok (views_lay_toBuffer given)

/-- **Rings show the last keys that they were given.**  A new ring with pushes into it shows the last
keys that were pushed, as many as there is room for.  After any calls, rings show the last of what they
were given, as values and in memory, and a further call is refused for the same reason or leads to the
same.  A copy goes on from what the other ring was given, and what is pushed into one of the two does
not show in the other.  Rings with the same room that hold the same keys and of which both or none take
more, wherever the next key goes, hold the same keys after pushes that give the same to both, whatever
is pushed into other rings in between. -/
theorem rings_show_last_keys :
    (∀ (capacity : ℕ) (keys : List String), 1 ≤ capacity →
      (ringsAfter (.make capacity :: keys.map (.push 0)))[0]?.map (·.view) = some
        { capacity := capacity
          writeIndex := keys.length % capacity
          length := min keys.length capacity
          frozen := false
          keys := keys.rtake capacity
          count := fun key => (keys.rtake capacity).count key }) ∧
    ∀ calls : List RingCall,
      (ringsAfter calls).map (·.view) = (givenAfter calls).map (·.view) ∧
      (memoryAfter calls).views = (ringsAfter calls).map (·.view) ∧
      (∀ c, (RecentBuffer.kind.call (ringsAfter calls) c).map (List.map (·.view)) =
          (Given.kind.call (givenAfter calls) c).map (List.map (·.view)) ∧
        ((memoryAfter calls).call c).map Memory.views =
          (RecentBuffer.kind.call (ringsAfter calls) c).map (List.map (·.view))) ∧
      (∀ place g, (givenAfter calls)[place]? = some g → ∀ keys : List (ℕ × String),
        let later := ringsAfter (calls ++ .copy place :: RingCall.pushes keys)
        let copied := (ringsAfter calls).length
        later[place]?.map (·.view) = some (g.pushEach (keysTo place keys)).view ∧
          later[copied]?.map (·.view) =
            some (Given.pushEach { g with frozen := false } (keysTo copied keys)).view) ∧
      ∀ i j b b', (ringsAfter calls)[i]? = some b → (ringsAfter calls)[j]? = some b' →
        b.ring.capacity = b'.ring.capacity → b.ring.keys = b'.ring.keys → b.frozen = b'.frozen →
        ∀ keys : List (ℕ × String), keysTo i keys = keysTo j keys →
          let later := ringsAfter (calls ++ RingCall.pushes keys)
          ∃ a a', later[i]? = some a ∧ later[j]? = some a' ∧ a.ring.keys = a'.ring.keys ∧
            a.ring.count = a'.ring.count := by
  constructor
  · intro capacity keys h
    rw [← List.getElem?_map, ringsAfter_eq, map_view_toBuffer, List.getElem?_map,
      getElem?_givenAfter_make h]
    rfl
  · intro calls
    have hviews : (ringsAfter calls).map (·.view) = (givenAfter calls).map (·.view) := by
      rw [ringsAfter_eq, map_view_toBuffer]
    exact ⟨hviews, views_memoryAfter calls,
      fun c => ⟨map_view_call calls c, map_views_call_memoryAfter calls c⟩,
      fun place g hg keys => view_after_copy hg keys,
      fun i j b b' hi hj hcapacity hkeys hfrozen keys hsame =>
        exists_after_pushes hi hj hcapacity hkeys hfrozen hsame⟩

/-- A full ring that overwrote a key.  A copy of it takes one key and it takes another one itself.  A
ring that overwrote nothing holds the same keys, and its next cell is a different one. -/
theorem rings_show_last_keys_of_three_rings :
    let full : List RingCall := [.make 2, .push 0 "a", .push 0 "b", .push 0 "c"]
    let copied := ringsAfter (full ++ .copy 0 :: RingCall.pushes [(1, "d"), (0, "e")])
    let calls := full ++ [.make 2, .push 1 "b", .push 1 "c"]
    let keys := [(1, "f"), (2, "g"), (0, "f")]
    let later := ringsAfter (calls ++ RingCall.pushes keys)
    (ringsAfter full)[0]?.map (·.view.keys) = some ["b", "c"] ∧
    copied[0]?.map (·.view.keys) = some ["c", "e"] ∧
    copied[1]?.map (·.view.keys) = some ["c", "d"] ∧
    (ringsAfter calls).map (·.ring.keys) = [["b", "c"], ["b", "c"]] ∧
    (ringsAfter calls).map (·.ring.writeIndex) = [1, 0] ∧
    (memoryAfter calls).views = (ringsAfter calls).map (·.view) ∧
    keysTo 0 keys = keysTo 1 keys ∧
    ∃ a a', later[0]? = some a ∧ later[1]? = some a' ∧ a.ring.keys = a'.ring.keys ∧
      a.ring.count = a'.ring.count := by
  intro full copied calls keys later
  obtain ⟨hnew, hafter⟩ := rings_show_last_keys
  have hkeysOf {o : Option RecentBuffer} {v : RingView} (h : o.map (·.view) = some v) :
      o.map (·.view.keys) = some v.keys := by
    have hmap := congrArg (Option.map RingView.keys) h
    rwa [Option.map_map] at hmap
  obtain ⟨-, -, -, hcopies, -⟩ := hafter full
  obtain ⟨hfirst, hcopy⟩ :=
    hcopies 0 ⟨2, by decide, ["a", "b", "c"], false⟩ rfl [(1, "d"), (0, "e")]
  obtain ⟨-, hmemory, -, -, halike⟩ := hafter calls
  have hsame : keysTo 0 keys = keysTo 1 keys := by decide
  exact ⟨hkeysOf (hnew 2 ["a", "b", "c"] (by decide)), hkeysOf hfirst, hkeysOf hcopy, by decide,
    by decide, hmemory, hsame, halike 0 1 _ _ rfl rfl rfl (by decide) rfl keys hsame⟩

end Daybook.Template
