import Daybook.Proofs.Template.Ring

/-!
# Calls to rings

Rings are made, take keys, are copied and are frozen, in any order.  What a ring shows at any time is
told by the keys that it was given up to then.  A copy was given what the other ring had been given
when it was copied; from then on each of them goes by its own keys.

* `Template.RingCall`, `Template.afterCalls`: calls, one after another.
* `Template.RingKind`: how one ring behaves; `Template.RingKind.call` is what a call makes of many of
  them.
* `Template.RingKind.Hom.map_call`, `Template.afterCalls_map`: what agrees ring by ring agrees after
  any calls.
* `Template.Given`: what a ring was given.  `Template.Given.view_toBuffer`: a ring shows the last keys
  that it was given.  `Template.ringsAfter_eq`: after any calls, rings are those that were given what
  the calls gave them.
* `Template.getElem?_ringsAfter_pushes`: what pushes to rings give to each of them.
* `Template.view_after_copy`, `Template.exists_after_pushes`: a copy and the other ring go on apart, and
  rings that hold the same keys go on alike.
-/

namespace Daybook.Template

/-- Writing what is there already changes nothing. -/
theorem set_eq_self_of_getElem? {α : Type} {l : List α} {i : ℕ} {a : α} (h : l[i]? = some a) :
    l.set i a = l := by
  obtain ⟨hlt, rfl⟩ := List.getElem?_eq_some_iff.mp h
  exact List.set_getElem_self hlt

/-! ## Calls -/

/-- A call to rings.  A ring is named by its place among those that were made. -/
inductive RingCall where
  | make (capacity : Int)
  | push (place : ℕ) (key : String)
  | copy (place : ℕ)
  | freeze (place : ℕ)

/-- Pushes, each with the place of its ring. -/
def RingCall.pushes (keys : List (ℕ × String)) : List RingCall :=
  keys.map fun k => .push k.1 k.2

/-- What calls lead to, one after another.  A call that is refused changes nothing. -/
def afterCalls {σ : Type} (call : σ → RingCall → Except BufferError σ) (s : σ)
    (calls : List RingCall) : σ :=
  calls.foldl (fun s c => (call s c).toOption.getD s) s

section

variable {σ τ : Type} {call : σ → RingCall → Except BufferError σ}
  {call' : τ → RingCall → Except BufferError τ}

theorem afterCalls_singleton (s : σ) (c : RingCall) :
    afterCalls call s [c] = (call s c).toOption.getD s := rfl

theorem afterCalls_append (s : σ) (calls calls' : List RingCall) :
    afterCalls call s (calls ++ calls') = afterCalls call (afterCalls call s calls) calls' :=
  List.foldl_append

/-- What one call keeps, any calls keep. -/
theorem afterCalls_map {f : σ → τ} (h : ∀ s c, call' (f s) c = (call s c).map f) (s : σ)
    (calls : List RingCall) : afterCalls call' (f s) calls = f (afterCalls call s calls) := by
  induction calls generalizing s with
  | nil => rfl
  | cons c rest ih =>
    have hstep : (call' (f s) c).toOption.getD (f s) = f ((call s c).toOption.getD s) := by
      rw [h]
      cases call s c <;> rfl
    rw [afterCalls, List.foldl_cons, hstep]
    exact ih _

end

/-- How one ring behaves. -/
structure RingKind (α : Type) where
  make : Int → Except BufferError α
  push : α → String → Except BufferError α
  copy : α → α
  freeze : α → α

namespace RingKind

variable {α β : Type}

/-- What a call makes of rings.  A call that names no ring changes nothing. -/
def call (k : RingKind α) (rings : List α) : RingCall → Except BufferError (List α)
  | .make capacity => (k.make capacity).map fun r => rings ++ [r]
  | .push place key =>
    match rings[place]? with
    | none => .ok rings
    | some r => (k.push r key).map fun pushed => rings.set place pushed
  | .copy place =>
    match rings[place]? with
    | none => .ok rings
    | some r => .ok (rings ++ [k.copy r])
  | .freeze place =>
    match rings[place]? with
    | none => .ok rings
    | some r => .ok (rings.set place (k.freeze r))

/-- Whether rings of one kind behave as those of another that they stand for. -/
structure Hom (k : RingKind α) (k' : RingKind β) (f : α → β) : Prop where
  map_make : ∀ capacity, k'.make capacity = (k.make capacity).map f
  map_push : ∀ r key, k'.push (f r) key = (k.push r key).map f
  map_copy : ∀ r, k'.copy (f r) = f (k.copy r)
  map_freeze : ∀ r, k'.freeze (f r) = f (k.freeze r)

/-- **What agrees for one ring agrees for many.** -/
theorem Hom.map_call {k : RingKind α} {k' : RingKind β} {f : α → β} (h : k.Hom k' f)
    (rings : List α) (c : RingCall) :
    k'.call (rings.map f) c = (k.call rings c).map (List.map f) := by
  cases c with
  | make capacity =>
    rw [call, call, h.map_make]
    cases k.make capacity with
    | error e => rfl
    | ok r =>
      show Except.ok (rings.map f ++ [f r]) = .ok ((rings ++ [r]).map f)
      rw [List.map_append, List.map_singleton]
  | push place key =>
    rw [call, call, List.getElem?_map]
    cases rings[place]? with
    | none => rfl
    | some r =>
      dsimp only [Option.map_some]
      rw [h.map_push]
      cases k.push r key with
      | error e => rfl
      | ok pushed => exact congrArg Except.ok List.map_set.symm
  | copy place =>
    rw [call, call, List.getElem?_map]
    cases rings[place]? with
    | none => rfl
    | some r =>
      show Except.ok (rings.map f ++ [k'.copy (f r)]) = .ok ((rings ++ [k.copy r]).map f)
      rw [h.map_copy, List.map_append, List.map_singleton]
  | freeze place =>
    rw [call, call, List.getElem?_map]
    cases rings[place]? with
    | none => rfl
    | some r =>
      show Except.ok ((rings.map f).set place (k'.freeze (f r))) =
        .ok ((rings.set place (k.freeze r)).map f)
      rw [h.map_freeze, List.map_set]

end RingKind

/-! ## What a ring shows -/

/-- What a ring shows. -/
structure RingView where
  capacity : ℕ
  writeIndex : ℕ
  length : ℕ
  frozen : Bool
  /-- The keys from the oldest to the newest. -/
  keys : List String
  /-- How often a key is in the ring. -/
  count : String → ℕ

namespace RecentBuffer

/-- What a ring shows. -/
def view (b : RecentBuffer) : RingView where
  capacity := b.ring.capacity
  writeIndex := b.ring.writeIndex
  length := b.ring.length
  frozen := b.frozen
  keys := b.ring.keys
  count := b.ring.count

/-- How a ring behaves. -/
def kind : RingKind RecentBuffer where
  make := make
  push := push
  copy := copy
  freeze := freeze

end RecentBuffer

/-! ## What a ring was given -/

/-- What a ring was given.  Nothing is ever forgotten. -/
structure Given where
  capacity : ℕ
  capacity_pos : 0 < capacity
  /-- All keys, those that came first in front. -/
  keys : List String
  frozen : Bool

namespace Given

/-- What a new ring was given. -/
def make (capacity : Int) : Except BufferError Given :=
  if h : capacity < 1 then .error .badCapacity
  else .ok ⟨capacity.toNat, by omega, [], false⟩

/-- One more key at the end. -/
def push (g : Given) (key : String) : Except BufferError Given :=
  if g.frozen then .error .frozen else .ok { g with keys := g.keys ++ [key] }

/-- How what a ring was given changes. -/
def kind : RingKind Given where
  make := make
  push := push
  copy g := { g with frozen := false }
  freeze g := { g with frozen := true }

/-- What a ring shows: the last keys that it was given, as many as there is room for. -/
def view (g : Given) : RingView where
  capacity := g.capacity
  writeIndex := g.keys.length % g.capacity
  length := min g.keys.length g.capacity
  frozen := g.frozen
  keys := g.keys.rtake g.capacity
  count key := (g.keys.rtake g.capacity).count key

/-- The ring that was given these keys. -/
def toBuffer (g : Given) : RecentBuffer where
  ring := (RecentKeys.empty g.capacity).pushAll g.keys
  frozen := g.frozen

theorem holds_toBuffer (g : Given) : g.toBuffer.ring.Holds g.keys :=
  (RecentKeys.holds_empty g.capacity_pos).pushAll g.keys

/-- **A ring shows the last keys that it was given.** -/
theorem view_toBuffer (g : Given) : g.toBuffer.view = g.view := by
  have hcapacity : g.toBuffer.ring.capacity = g.capacity := RecentKeys.Holds.capacity_pushAll _ _
  have hkeys : g.toBuffer.ring.keys = g.keys.rtake g.capacity := by
    rw [g.holds_toBuffer.keys_eq, hcapacity]
  have hindex : g.toBuffer.ring.writeIndex = g.keys.length % g.capacity := by
    rw [toBuffer, RecentKeys.Holds.writeIndex_pushAll (RecentKeys.good_empty g.capacity_pos),
      RecentKeys.empty, Nat.zero_add]
  have hlength : g.toBuffer.ring.length = min g.keys.length g.capacity := by
    rw [RecentKeys.length, ← RecentKeys.length_keys, hkeys, List.rtake, List.length_drop]
    omega
  have hcount : g.toBuffer.ring.count = fun key => (g.keys.rtake g.capacity).count key := by
    funext key
    rw [← RecentKeys.count_keys, hkeys]
  rw [RecentBuffer.view, hcapacity, hindex, hlength, hkeys, hcount]
  rfl

/-- Rings behave as what they were given says. -/
theorem hom_toBuffer : kind.Hom RecentBuffer.kind toBuffer where
  map_make capacity := by
    change RecentBuffer.make capacity = (make capacity).map toBuffer
    rw [RecentBuffer.make, make]
    split <;> rfl
  map_push := by
    rintro ⟨capacity, hpos, keys, frozen⟩ key
    have hring : (RecentKeys.empty capacity).pushAll (keys ++ [key]) =
        ((RecentKeys.empty capacity).pushAll keys).push key := List.foldl_append
    cases frozen with
    | true => rfl
    | false => exact congrArg (fun ring => Except.ok (RecentBuffer.mk ring false)) hring.symm
  map_copy _ := rfl
  map_freeze _ := rfl

/-! ### More keys -/

/-- What a ring was given after some keys more, which a frozen one refuses. -/
def pushEach (g : Given) (keys : List String) : Given :=
  { g with keys := if g.frozen then g.keys else g.keys ++ keys }

theorem pushEach_nil (g : Given) : g.pushEach [] = g := by
  rw [pushEach, List.append_nil, ite_self]

theorem pushEach_append (g : Given) (keys keys' : List String) :
    (g.pushEach keys).pushEach keys' = g.pushEach (keys ++ keys') := by
  rcases g with ⟨capacity, hpos, given, frozen⟩
  cases frozen with
  | true => rfl
  | false => simp only [pushEach, Bool.false_eq_true, if_false, List.append_assoc]

/-- One push is accepted or changes nothing. -/
theorem push_toOption_getD (g : Given) (key : String) :
    (g.push key).toOption.getD g = g.pushEach [key] := by
  rcases g with ⟨capacity, hpos, given, frozen⟩
  cases frozen <;> rfl

/-- **Rings that hold the same keys go on alike**, whatever they were given before. -/
theorem keys_view_pushEach {g g' : Given} (hcapacity : g.capacity = g'.capacity)
    (hfrozen : g.frozen = g'.frozen) (hkeys : g.view.keys = g'.view.keys) (keys : List String) :
    (g.pushEach keys).view.keys = (g'.pushEach keys).view.keys := by
  change g.keys.rtake g.capacity = g'.keys.rtake g'.capacity at hkeys
  change (if g.frozen then g.keys else g.keys ++ keys).rtake g.capacity =
    (if g'.frozen then g'.keys else g'.keys ++ keys).rtake g'.capacity
  rw [← hfrozen]
  split
  · exact hkeys
  · rw [← rtake_rtake_append, hkeys, hcapacity, rtake_rtake_append]

end Given

/-! ## After any calls -/

/-- The rings that calls lead to, where there were none before. -/
def ringsAfter (calls : List RingCall) : List RecentBuffer :=
  afterCalls RecentBuffer.kind.call [] calls

/-- What the rings were given that calls lead to. -/
def givenAfter (calls : List RingCall) : List Given :=
  afterCalls Given.kind.call [] calls

/-- **After any calls, rings are those that were given what the calls gave them.** -/
theorem ringsAfter_eq (calls : List RingCall) :
    ringsAfter calls = (givenAfter calls).map Given.toBuffer :=
  afterCalls_map Given.hom_toBuffer.map_call [] calls

theorem map_view_toBuffer (given : List Given) :
    (given.map Given.toBuffer).map (·.view) = given.map (·.view) := by
  rw [List.map_map]
  exact List.map_congr_left fun g _ => g.view_toBuffer

/-- A call is refused for the reason that what the rings were given says, or leads to what it says. -/
theorem map_view_call (calls : List RingCall) (c : RingCall) :
    (RecentBuffer.kind.call (ringsAfter calls) c).map (List.map (·.view)) =
      (Given.kind.call (givenAfter calls) c).map (List.map (·.view)) := by
  rw [ringsAfter_eq, Given.hom_toBuffer.map_call]
  cases Given.kind.call (givenAfter calls) c with
  | error e => rfl
  | ok given => exact congrArg Except.ok (map_view_toBuffer given)

/-! ### More keys -/

/-- The keys that pushes give to the ring at a place. -/
def keysTo (place : ℕ) (keys : List (ℕ × String)) : List String :=
  (keys.filter (·.1 = place)).map (·.2)

/-- One push reaches the ring that it names and no other. -/
theorem getElem?_afterCalls_push (given : List Given) (i : ℕ) (key : String) (place : ℕ) :
    (afterCalls Given.kind.call given [.push i key])[place]? =
      given[place]?.map fun g => if i = place then g.pushEach [key] else g := by
  cases hg : given[i]? with
  | none =>
    have hsame : afterCalls Given.kind.call given [.push i key] = given := by
      rw [afterCalls_singleton, RingKind.call, hg]
      rfl
    rw [hsame]
    by_cases hi : i = place
    · rw [← hi, hg]
      rfl
    · simp only [if_neg hi, Option.map_id']
  | some g =>
    have hset : afterCalls Given.kind.call given [.push i key] = given.set i (g.pushEach [key]) := by
      rw [afterCalls_singleton, RingKind.call, hg, ← g.push_toOption_getD]
      change ((g.push key).map fun pushed => given.set i pushed).toOption.getD given = _
      cases g.push key with
      | error e => exact (set_eq_self_of_getElem? hg).symm
      | ok pushed => rfl
    obtain ⟨hlt, -⟩ := List.getElem?_eq_some_iff.mp hg
    rw [hset, List.getElem?_set]
    by_cases hi : i = place
    · rw [if_pos hi, if_pos hlt, ← hi, hg, Option.map_some, if_pos rfl]
    · simp only [if_neg hi, Option.map_id']

/-- **Pushes give every ring its own keys**, in whatever order they come. -/
theorem getElem?_afterCalls_pushes (given : List Given) (keys : List (ℕ × String)) (place : ℕ) :
    (afterCalls Given.kind.call given (RingCall.pushes keys))[place]? =
      given[place]?.map (·.pushEach (keysTo place keys)) := by
  induction keys generalizing given with
  | nil => simp [afterCalls, RingCall.pushes, keysTo, Given.pushEach_nil]
  | cons k rest ih =>
    have hcons : RingCall.pushes (k :: rest) = [.push k.1 k.2] ++ RingCall.pushes rest := rfl
    rw [hcons, afterCalls_append, ih, getElem?_afterCalls_push, Option.map_map]
    refine congrArg (Option.map · _) (funext fun g => ?_)
    rw [Function.comp_apply]
    by_cases hk : k.1 = place
    · have hkeys : keysTo place (k :: rest) = [k.2] ++ keysTo place rest := by
        simp [keysTo, hk]
      rw [if_pos hk, Given.pushEach_append, hkeys]
    · have hkeys : keysTo place (k :: rest) = keysTo place rest := by
        simp [keysTo, hk]
      rw [if_neg hk, hkeys]

theorem getElem?_givenAfter_pushes (calls : List RingCall) (keys : List (ℕ × String)) (place : ℕ) :
    (givenAfter (calls ++ RingCall.pushes keys))[place]? =
      (givenAfter calls)[place]?.map (·.pushEach (keysTo place keys)) := by
  rw [givenAfter, afterCalls_append, getElem?_afterCalls_pushes, givenAfter]

/-- Rings after pushes are those that were given the keys that the pushes give them. -/
theorem getElem?_ringsAfter_pushes (calls : List RingCall) (keys : List (ℕ × String)) (place : ℕ) :
    (ringsAfter (calls ++ RingCall.pushes keys))[place]? =
      (givenAfter calls)[place]?.map fun g => (g.pushEach (keysTo place keys)).toBuffer := by
  rw [ringsAfter_eq, List.getElem?_map, getElem?_givenAfter_pushes, Option.map_map]
  rfl

/-- A new ring was given what was pushed into it. -/
theorem getElem?_givenAfter_make {capacity : ℕ} (h : 1 ≤ capacity) (keys : List String) :
    (givenAfter (.make capacity :: keys.map (.push 0)))[0]? = some ⟨capacity, h, keys, false⟩ := by
  have hnew : givenAfter [.make capacity] = [⟨capacity, h, [], false⟩] := by
    have hmake : Given.kind.make capacity = .ok ⟨capacity, h, [], false⟩ := dif_neg (by omega)
    rw [givenAfter, afterCalls_singleton, RingKind.call, hmake]
    rfl
  have hpushes : keys.map (RingCall.push 0) = RingCall.pushes (keys.map (Prod.mk 0)) := by
    rw [RingCall.pushes, List.map_map]
    rfl
  have hkeys : keysTo 0 (keys.map (Prod.mk 0)) = keys := by
    rw [keysTo, List.filter_eq_self.mpr (by simp), List.map_map]
    exact List.map_id keys
  rw [← List.singleton_append, hpushes, getElem?_givenAfter_pushes, hnew, hkeys]
  rfl

/-- A copy was given what the other ring was given, and takes keys. -/
theorem givenAfter_copy {calls : List RingCall} {place : ℕ} {g : Given}
    (h : (givenAfter calls)[place]? = some g) :
    givenAfter (calls ++ [.copy place]) = givenAfter calls ++ [{ g with frozen := false }] := by
  rw [givenAfter, afterCalls_append, ← givenAfter, afterCalls_singleton, RingKind.call, h]
  rfl

/-- **A copy and the ring that was copied** each go by the keys that they are given from then on. -/
theorem view_after_copy {calls : List RingCall} {place : ℕ} {g : Given}
    (h : (givenAfter calls)[place]? = some g) (keys : List (ℕ × String)) :
    let later := ringsAfter (calls ++ .copy place :: RingCall.pushes keys)
    let copied := (ringsAfter calls).length
    later[place]?.map (·.view) = some (g.pushEach (keysTo place keys)).view ∧
      later[copied]?.map (·.view) =
        some (Given.pushEach { g with frozen := false } (keysTo copied keys)).view := by
  intro later copied
  have hlater (i : ℕ) : later[i]? = (givenAfter calls ++ [{ g with frozen := false }])[i]?.map
      fun g => (g.pushEach (keysTo i keys)).toBuffer := by
    have hcalls : calls ++ .copy place :: RingCall.pushes keys =
        calls ++ [.copy place] ++ RingCall.pushes keys := by simp
    rw [← givenAfter_copy h, ← getElem?_ringsAfter_pushes, ← hcalls]
  have hcopied : copied = (givenAfter calls).length := by
    rw [show copied = (ringsAfter calls).length from rfl, ringsAfter_eq, List.length_map]
  obtain ⟨hlt, -⟩ := List.getElem?_eq_some_iff.mp h
  rw [hlater, hlater, List.getElem?_append_left hlt, h, hcopied, List.getElem?_concat_length]
  exact ⟨congrArg some (Given.view_toBuffer _), congrArg some (Given.view_toBuffer _)⟩

/-- **Rings that hold the same keys go on alike**, wherever the next key goes. -/
theorem exists_after_pushes {calls : List RingCall} {i j : ℕ} {b b' : RecentBuffer}
    (hi : (ringsAfter calls)[i]? = some b) (hj : (ringsAfter calls)[j]? = some b')
    (hcapacity : b.ring.capacity = b'.ring.capacity) (hkeys : b.ring.keys = b'.ring.keys)
    (hfrozen : b.frozen = b'.frozen) {keys : List (ℕ × String)}
    (hsame : keysTo i keys = keysTo j keys) :
    let later := ringsAfter (calls ++ RingCall.pushes keys)
    ∃ a a', later[i]? = some a ∧ later[j]? = some a' ∧ a.ring.keys = a'.ring.keys ∧
      a.ring.count = a'.ring.count := by
  rw [ringsAfter_eq, List.getElem?_map] at hi hj
  obtain ⟨g, hg, rfl⟩ := Option.map_eq_some_iff.mp hi
  obtain ⟨g', hg', rfl⟩ := Option.map_eq_some_iff.mp hj
  have hroom : g.view.capacity = g'.view.capacity := by
    rw [← g.view_toBuffer, ← g'.view_toBuffer]
    exact hcapacity
  have hshown : g.view.keys = g'.view.keys := by
    rw [← g.view_toBuffer, ← g'.view_toBuffer]
    exact hkeys
  have hlater := Given.keys_view_pushEach hroom hfrozen hshown (keysTo i keys)
  rw [← Given.view_toBuffer, ← Given.view_toBuffer] at hlater
  intro later
  rw [getElem?_ringsAfter_pushes, getElem?_ringsAfter_pushes, hg, hg', ← hsame]
  refine ⟨_, _, rfl, rfl, hlater, funext fun key => ?_⟩
  rw [← RecentKeys.count_keys, ← RecentKeys.count_keys]
  exact congrArg (List.count key) hlater

end Daybook.Template
