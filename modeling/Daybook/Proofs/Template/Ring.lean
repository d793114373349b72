import Daybook.Template.RecentKeys
import Mathlib.Data.List.DropRight

/-!
# The ring of recently used keys

A ring overwrites its oldest slot once it is full, and says which keys it holds by reading its slots
from the oldest to the newest.  Seen from outside it is a list that is cut to its last keys.

* `Template.RecentKeys.Good`: the slots fill up in order, and the next slot is the one after the
  newest key.
* `Template.RecentKeys.keys_push`: a push adds a key at the end and, if the ring is full, takes the
  oldest one away.
* `Template.RecentKeys.Holds`: a ring holds the last keys of a list.
  `Template.RecentKeys.Holds.pushAll_keys`: the keys of one ring pushed into another give the last
  keys of both lists together.
* `Template.RecentKeys.Good.same_refilled_iff`: when a ring that is filled anew with the keys of
  another is the same.
-/

namespace Daybook.Template

/-! ## The last members of a list -/

/-- Cutting the front part first makes no difference to the last members. -/
theorem rtake_rtake_append {α : Type} (n : Nat) (l l' : List α) :
    (l.rtake n ++ l').rtake n = (l ++ l').rtake n := by
  simp only [List.rtake_eq_reverse_take_reverse, List.reverse_append, List.reverse_reverse,
    List.take_append, List.take_take]
  simp

/-- Cutting the back part first makes no difference to the last members. -/
theorem rtake_append_rtake {α : Type} (n : Nat) (l l' : List α) :
    (l ++ l'.rtake n).rtake n = (l ++ l').rtake n := by
  simp only [List.rtake_eq_reverse_take_reverse, List.reverse_append, List.reverse_reverse,
    List.take_append, List.take_take, List.length_take, List.length_reverse]
  simp
  omega

namespace RecentKeys

/-! ## One push -/

/-- Whether the slots fill up in order and the next slot is the one after the newest key. -/
structure Good (r : RecentKeys) : Prop where
  capacity_pos : 0 < r.capacity
  length_le : r.slots.length ≤ r.capacity
  writeIndex_lt : r.writeIndex < r.capacity
  writeIndex_eq : r.slots.length < r.capacity → r.writeIndex = r.slots.length

theorem good_empty {capacity : Nat} (h : 0 < capacity) : (empty capacity).Good where
  capacity_pos := h
  length_le := Nat.zero_le _
  writeIndex_lt := h
  writeIndex_eq _ := rfl

theorem length_keys (r : RecentKeys) : r.keys.length = r.slots.length := by
  unfold keys
  split
  · rfl
  · rw [List.length_append, List.length_drop, List.length_take]
    omega

/-- The slots of a ring hold its keys, wherever the next one goes. -/
theorem count_keys (r : RecentKeys) (key : String) : r.keys.count key = r.count key := by
  unfold keys count
  split
  · rfl
  · rw [List.count_append, Nat.add_comm, ← List.count_append, List.take_append_drop]

theorem Good.push {r : RecentKeys} (h : r.Good) (key : String) : (r.push key).Good := by
  have hnext : (r.writeIndex + 1) % r.capacity < r.capacity := Nat.mod_lt _ h.capacity_pos
  by_cases hfull : r.slots.length < r.capacity
  · refine ⟨h.capacity_pos, ?_, hnext, ?_⟩
    · simp only [RecentKeys.push, if_pos hfull, List.length_append, List.length_singleton]
      exact hfull
    · simp only [RecentKeys.push, if_pos hfull, List.length_append, List.length_singleton]
      intro hroom
      rw [h.writeIndex_eq hfull, Nat.mod_eq_of_lt hroom]
  · refine ⟨h.capacity_pos, ?_, hnext, ?_⟩
    · simp only [RecentKeys.push, if_neg hfull, List.length_set]
      exact h.length_le
    · simp only [RecentKeys.push, if_neg hfull, List.length_set]
      intro hroom
      exact absurd hroom hfull

/-- In a ring with room, a push adds the key at the end. -/
theorem keys_push_of_lt {r : RecentKeys} (h : r.Good) (hroom : r.slots.length < r.capacity)
    (key : String) : (r.push key).keys = r.keys ++ [key] := by
  have hslots : (r.push key).slots = r.slots ++ [key] := if_pos hroom
  have hkeys : r.keys = r.slots := if_pos hroom
  by_cases hlast : r.slots.length + 1 < r.capacity
  · have hlength : (r.push key).slots.length < (r.push key).capacity := by
      rw [hslots, List.length_append]
      exact hlast
    rw [keys, if_pos hlength, hslots, hkeys]
  · -- The push fills the last slot, so the next one is the first again.
    have hfull : ¬(r.push key).slots.length < (r.push key).capacity := by
      rw [hslots, List.length_append]
      exact hlast
    have hindex : (r.push key).writeIndex = 0 := by
      have hcapacity : r.slots.length + 1 = r.capacity := by omega
      rw [push, h.writeIndex_eq hroom, hcapacity, Nat.mod_self]
    rw [keys, if_neg hfull, hslots, hindex, hkeys, List.drop_zero, List.take_zero, List.append_nil]

/-- In a full ring, a push takes the oldest key away. -/
theorem keys_push_of_full {r : RecentKeys} (h : r.Good) (hfull : ¬r.slots.length < r.capacity)
    (key : String) : (r.push key).keys = r.keys.drop 1 ++ [key] := by
  have hlength : r.slots.length = r.capacity := by have := h.length_le; omega
  have hindex : r.writeIndex < r.slots.length := hlength ▸ h.writeIndex_lt
  have hslots : (r.push key).slots = r.slots.set r.writeIndex key := if_neg hfull
  have hstill : ¬(r.push key).slots.length < (r.push key).capacity := by
    rw [hslots, List.length_set]
    exact hfull
  have hset : r.slots.set r.writeIndex key =
      r.slots.take r.writeIndex ++ key :: r.slots.drop (r.writeIndex + 1) :=
    List.set_eq_take_append_cons_drop.trans (if_pos hindex)
  have htake : (r.slots.take r.writeIndex).length = r.writeIndex :=
    List.length_take_of_le hindex.le
  have hkeys : r.keys.drop 1 =
      r.slots.drop (r.writeIndex + 1) ++ r.slots.take r.writeIndex := by
    rw [keys, if_neg hfull, List.drop_append_of_le_length (by rw [List.length_drop]; omega),
      List.drop_drop]
  rw [keys, if_neg hstill, hslots, hset, hkeys]
  by_cases hlast : r.writeIndex + 1 = r.capacity
  · have hwrap : (r.push key).writeIndex = 0 := by rw [push, hlast, Nat.mod_self]
    have hend : r.slots.drop (r.writeIndex + 1) = [] :=
      List.drop_eq_nil_of_le (by rw [hlast, hlength])
    rw [hwrap, hend, List.drop_zero, List.take_zero, List.append_nil, List.nil_append]
  · have hnext : (r.push key).writeIndex = r.writeIndex + 1 := by
      have := h.writeIndex_lt
      exact Nat.mod_eq_of_lt (by omega)
    have hcut : (r.slots.take r.writeIndex ++ [key]).length = r.writeIndex + 1 := by
      rw [List.length_append, htake, List.length_singleton]
    rw [hnext, List.append_cons, List.drop_left' hcut, List.take_left' hcut, List.append_assoc]

/-- **A push adds a key at the end and cuts the keys to the capacity.** -/
theorem keys_push {r : RecentKeys} (h : r.Good) (key : String) :
    (r.push key).keys = (r.keys ++ [key]).rtake r.capacity := by
  by_cases hroom : r.slots.length < r.capacity
  · have hshort : (r.keys ++ [key]).length - r.capacity = 0 := by
      rw [List.length_append, length_keys, List.length_singleton]
      omega
    rw [keys_push_of_lt h hroom, List.rtake, hshort, List.drop_zero]
  · have hlength := h.length_le
    have hpos := h.capacity_pos
    have hlong : (r.keys ++ [key]).length - r.capacity = 1 := by
      rw [List.length_append, length_keys, List.length_singleton]
      omega
    rw [keys_push_of_full h hroom, List.rtake, hlong,
      List.drop_append_of_le_length (by rw [length_keys]; omega)]

/-! ## Many pushes -/

/-- Whether a ring holds the last keys of a list, as many as there is room for. -/
structure Holds (r : RecentKeys) (l : List String) : Prop where
  good : r.Good
  keys_eq : r.keys = l.rtake r.capacity

theorem holds_empty {capacity : Nat} (h : 0 < capacity) : (empty capacity).Holds [] where
  good := good_empty h
  keys_eq := by simp [empty, keys]

namespace Holds

variable {r other : RecentKeys} {l l' : List String}

theorem push (h : r.Holds l) (key : String) : (r.push key).Holds (l ++ [key]) where
  good := h.good.push key
  keys_eq := by rw [keys_push h.good, h.keys_eq, rtake_rtake_append]; rfl

theorem pushAll (h : r.Holds l) (keys : List String) : (r.pushAll keys).Holds (l ++ keys) := by
  induction keys generalizing r l with
  | nil =>
    rw [List.append_nil]
    exact h
  | cons key rest ih =>
    have hrest := ih (h.push key)
    rwa [List.append_assoc, List.singleton_append] at hrest

theorem capacity_pushAll (r : RecentKeys) (keys : List String) :
    (r.pushAll keys).capacity = r.capacity := by
  induction keys generalizing r with
  | nil => rfl
  | cons key rest ih => exact ih (r.push key)

/-- The next slot after several pushes. -/
theorem writeIndex_pushAll {r : RecentKeys} (h : r.Good) (keys : List String) :
    (r.pushAll keys).writeIndex = (r.writeIndex + keys.length) % r.capacity := by
  induction keys generalizing r with
  | nil => exact (Nat.mod_eq_of_lt h.writeIndex_lt).symm
  | cons key rest ih =>
    have hrest : ((r.push key).pushAll rest).writeIndex =
        ((r.writeIndex + 1) % r.capacity + rest.length) % r.capacity := ih (h.push key)
    rw [Nat.mod_add_mod, Nat.add_right_comm, Nat.add_assoc, ← List.length_cons] at hrest
    exact hrest

/-- **The keys of one ring pushed into another** are the last keys of both lists together. -/
theorem pushAll_keys (h : r.Holds l) (h' : other.Holds l')
    (hcapacity : other.capacity = r.capacity) : (r.pushAll other.keys).Holds (l ++ l') where
  good := (h.pushAll other.keys).good
  keys_eq := by
    rw [(h.pushAll other.keys).keys_eq, h'.keys_eq, capacity_pushAll, hcapacity,
      rtake_append_rtake]

end Holds

/-- A ring that is filled anew with the keys of another holds these keys. -/
theorem Good.keys_refilled {r : RecentKeys} (h : r.Good) :
    ((empty r.capacity).pushAll r.keys).keys = r.keys := by
  have hshort : r.keys.length - r.capacity = 0 := by
    rw [length_keys]
    exact Nat.sub_eq_zero_of_le h.length_le
  rw [((holds_empty h.capacity_pos).pushAll r.keys).keys_eq, Holds.capacity_pushAll,
    List.nil_append, empty, List.rtake, hshort, List.drop_zero]

/-- **A ring that is filled anew** with the keys of another is the same, unless the other one is full
and its next slot is not the first. -/
theorem Good.same_refilled_iff {r : RecentKeys} (h : r.Good) :
    ((empty r.capacity).pushAll r.keys).same r ↔ (r.length = r.capacity → r.writeIndex = 0) := by
  have hcapacity : ((empty r.capacity).pushAll r.keys).capacity = r.capacity :=
    Holds.capacity_pushAll _ _
  have hindex : ((empty r.capacity).pushAll r.keys).writeIndex = r.slots.length % r.capacity := by
    rw [Holds.writeIndex_pushAll (good_empty h.capacity_pos), length_keys]
    exact congrArg (· % r.capacity) (Nat.zero_add _)
  rw [same, hcapacity, h.keys_refilled, hindex, length, beq_self_eq_true, beq_self_eq_true,
    Bool.true_and, Bool.and_true, beq_iff_eq]
  by_cases hfull : r.slots.length = r.capacity
  · rw [hfull, Nat.mod_self]
    exact ⟨fun heq _ => heq.symm, fun heq => (heq rfl).symm⟩
  · have hroom : r.slots.length < r.capacity := lt_of_le_of_ne h.length_le hfull
    rw [Nat.mod_eq_of_lt hroom]
    exact ⟨fun _ heq => absurd heq hfull, fun _ => (h.writeIndex_eq hroom).symm⟩

end RecentKeys

end Daybook.Template
