import Daybook.Table
import Mathlib.Data.List.Nodup
import Mathlib.Data.List.Perm.Subperm

/-!
# Tables: lookups, distinct keys and tallies

What the operations on tables do to lookups, and when a table of counts is the recount of a list.

* `Table.Distinct`: no key has two entries.  It holds of every table that is built by changes
  from the empty one, and it is what makes going through the entries the same as looking keys up.
* `Table.get?_alter`, `Table.get?_erase`: lookups after a change and after a removal.
* `Table.Keyed`: every value carries its own key.
* `Table.get?_foldl_alter`: lookups after one change for each entry of another table.
* `Table.foldl_alter_empty`: such changes from the empty table on.
* `Table.JoinOf`: a table is the join of two others.
* `Table.Distinct.same_map_iff`: when a table with changed values states the same as before.
* `Table.Distinct.get?_eq_of_same`: tables that state the same have the same lookups.
* `Tally.Tallies`: the keys of a tally are the members of a list, each with the number of its
  occurrences.  `Tally.Tallies.addEach` and `Tally.Tallies.addAll` say that a tally of a list
  stays one when further keys, or the counts of another tally, are added.
* `mem_uniteMembers`: the members of a union.
-/

namespace Daybook

namespace Table

variable {κ α β : Type}

/-- Whether no key has two entries. -/
def Distinct (t : Table κ α) : Prop :=
  t.keys.Nodup

theorem distinct_empty : (empty : Table κ α).Distinct :=
  List.nodup_nil

theorem size_eq_length_keys (t : Table κ α) : t.size = t.keys.length :=
  (List.length_map _).symm

variable [DecidableEq κ]

/-! ## Entries and lookups -/

theorem find_eq_none_iff {k : κ} {l : List (κ × α)} : find k l = none ↔ k ∉ l.map (·.1) := by
  induction l with
  | nil => simp [find]
  | cons e l ih =>
    by_cases h : e.1 = k
    · simp [find, h]
    · have h' : ¬k = e.1 := fun h' => h h'.symm
      simp [find, h, h', ih]

theorem mem_of_find_eq_some {k : κ} {a : α} {l : List (κ × α)} (h : find k l = some a) :
    (k, a) ∈ l := by
  induction l with
  | nil => cases h
  | cons e l ih =>
    by_cases he : e.1 = k
    · rw [find, if_pos he] at h
      rw [← he, ← Option.some.inj h]
      exact List.mem_cons_self
    · rw [find, if_neg he] at h
      exact List.mem_cons_of_mem e (ih h)

/-- Where no key has two entries, every entry can be looked up. -/
theorem find_of_mem {k : κ} {a : α} {l : List (κ × α)} (hl : (l.map (·.1)).Nodup)
    (h : (k, a) ∈ l) : find k l = some a := by
  induction l with
  | nil => cases h
  | cons e l ih =>
    rw [List.map_cons, List.nodup_cons] at hl
    rcases List.mem_cons.mp h with rfl | h
    · simp [find]
    · have hne : e.1 ≠ k := by
        intro he
        apply hl.1
        rw [he]
        exact List.mem_map.mpr ⟨(k, a), h, rfl⟩
      rw [find, if_neg hne]
      exact ih hl.2 h

@[simp] theorem get?_empty (k : κ) : (empty : Table κ α).get? k = none := rfl

theorem get?_eq_none_iff {t : Table κ α} {k : κ} : t.get? k = none ↔ k ∉ t.keys :=
  find_eq_none_iff

theorem contains_iff_mem_keys {t : Table κ α} {k : κ} : t.contains k ↔ k ∈ t.keys := by
  rw [contains, Option.isSome_iff_ne_none, ne_eq, get?_eq_none_iff, not_not]

/-- What holds of all keys of a table is a matter of its entries. -/
theorem forall_isSome_get?_iff (t : Table κ α) (P : κ → Prop) :
    (∀ k, (t.get? k).isSome → P k) ↔ ∀ e ∈ t.entries, P e.1 := by
  refine ⟨fun h e he => h e.1 ?_, fun h k hk => ?_⟩
  · exact contains_iff_mem_keys.mpr (List.mem_map_of_mem he)
  · obtain ⟨e, he, rfl⟩ := List.mem_map.mp (contains_iff_mem_keys.mp hk)
    exact h e he

theorem contains_of_get?_eq_some {t : Table κ α} {k : κ} {a : α} (h : t.get? k = some a) :
    t.contains k := by
  rw [contains, h, Option.isSome_some]

theorem Distinct.get?_eq_some_iff {t : Table κ α} (ht : t.Distinct) {k : κ} {a : α} :
    t.get? k = some a ↔ (k, a) ∈ t.entries :=
  ⟨mem_of_find_eq_some, find_of_mem ht⟩

/-- What a change does to lookups. -/
theorem get?_alter (t : Table κ α) (k k' : κ) (f : Option α → α) :
    (t.alter k f).get? k' = if k' = k then some (f (t.get? k)) else t.get? k' := by
  by_cases h : k' = k
  · rw [if_pos h, h, get?_alter_self]
  · rw [if_neg h, get?_alter_of_ne t (Ne.symm h)]

theorem get?_insert (t : Table κ α) (k k' : κ) (a : α) :
    (t.insert k a).get? k' = if k' = k then some a else t.get? k' :=
  get?_alter t k k' fun _ => a

theorem contains_alter (t : Table κ α) (k k' : κ) (f : Option α → α) :
    (t.alter k f).contains k' ↔ k' = k ∨ t.contains k' := by
  by_cases h : k' = k
  · simp [contains, h]
  · simp [contains, get?_alter, h]

/-- An entry of a table with a new value is that value or was there before. -/
theorem mem_entries_of_mem_insert {t : Table κ α} {k : κ} {a : α} {e : κ × α}
    (h : e ∈ (t.insert k a).entries) : e ∈ t.entries ∨ e = (k, a) := by
  obtain ⟨l⟩ := t
  change e ∈ alterEntries k (fun _ => a) l at h
  show e ∈ l ∨ e = (k, a)
  induction l with
  | nil => exact .inr (List.mem_singleton.mp h)
  | cons first l ih =>
    rw [alterEntries] at h
    split at h
    · rename_i hfirst
      rcases List.mem_cons.mp h with rfl | h
      · exact .inr (by rw [hfirst])
      · exact .inl (List.mem_cons_of_mem first h)
    · rcases List.mem_cons.mp h with rfl | h
      · exact .inl List.mem_cons_self
      · exact (ih h).imp_left (List.mem_cons_of_mem first)

theorem find_filter_ne (k k' : κ) (l : List (κ × α)) :
    find k' (l.filter fun e => e.1 ≠ k) = if k' = k then none else find k' l := by
  induction l with
  | nil => simp [find]
  | cons e l ih =>
    by_cases he : e.1 = k
    · rw [List.filter_cons_of_neg (by simpa using he), ih]
      by_cases h : k' = k
      · rw [if_pos h, if_pos h]
      · rw [if_neg h, if_neg h, find, if_neg (fun h' => h (h'.symm.trans he))]
    · rw [List.filter_cons_of_pos (by simpa using he), find, ih]
      by_cases h : e.1 = k'
      · rw [if_pos h, if_neg (fun h' => he (h.trans h')), find, if_pos h]
      · rw [if_neg h, find, if_neg h]

/-- What a removal does to lookups. -/
theorem get?_erase (t : Table κ α) (k k' : κ) :
    (t.erase k).get? k' = if k' = k then none else t.get? k' :=
  find_filter_ne k k' t.entries

/-! ## Distinct keys -/

/-- A known key keeps its place, and a new one goes to the end. -/
theorem keys_alterEntries (k : κ) (f : Option α → α) (l : List (κ × α)) :
    (alterEntries k f l).map (·.1) =
      if k ∈ l.map (·.1) then l.map (·.1) else l.map (·.1) ++ [k] := by
  induction l with
  | nil => simp [alterEntries]
  | cons e l ih =>
    by_cases he : e.1 = k
    · simp [alterEntries, he]
    · have he' : ¬k = e.1 := fun h => he h.symm
      rw [alterEntries, if_neg he, List.map_cons, ih, List.map_cons]
      by_cases hk : k ∈ l.map (·.1)
      · rw [if_pos hk, if_pos (List.mem_cons_of_mem _ hk)]
      · rw [if_neg hk, if_neg (by rw [List.mem_cons, not_or]; exact ⟨he', hk⟩), List.cons_append]

theorem alterEntries_of_not_mem {k : κ} {l : List (κ × α)} (h : k ∉ l.map (·.1))
    (f : Option α → α) : alterEntries k f l = l ++ [(k, f none)] := by
  induction l with
  | nil => rfl
  | cons e l ih =>
    rw [List.map_cons, List.mem_cons, not_or] at h
    rw [alterEntries, if_neg (Ne.symm h.1), ih h.2, List.cons_append]

theorem Distinct.alter {t : Table κ α} (ht : t.Distinct) (k : κ) (f : Option α → α) :
    (t.alter k f).Distinct := by
  have hkeys := keys_alterEntries k f t.entries
  rw [Distinct, keys, Table.alter, hkeys]
  by_cases hk : k ∈ t.entries.map (·.1)
  · rw [if_pos hk]
    exact ht
  · rw [if_neg hk]
    exact List.nodup_append.mpr ⟨ht, List.nodup_singleton k, fun a ha b hb hab =>
      hk (by rw [← List.mem_singleton.mp hb, ← hab]; exact ha)⟩

theorem Distinct.erase {t : Table κ α} (ht : t.Distinct) (k : κ) : (t.erase k).Distinct :=
  ht.sublist (List.Sublist.map _ List.filter_sublist)

/-- Changes one after another keep the keys distinct. -/
theorem Distinct.foldl_alter {ι : Type} {t : Table κ α} (ht : t.Distinct) (key : ι → κ)
    (f : ι → Option α → α) (l : List ι) :
    (l.foldl (fun acc i => acc.alter (key i) (f i)) t).Distinct := by
  induction l generalizing t with
  | nil => exact ht
  | cons i l ih => exact ih (ht.alter (key i) (f i))

/-- Removing a key that is there takes one entry away. -/
theorem Distinct.size_erase {t : Table κ α} (ht : t.Distinct) {k : κ} (hk : k ∈ t.keys) :
    (t.erase k).size = t.size - 1 := by
  have hkeys : (t.erase k).keys = t.keys.erase k := by
    rw [ht.erase_eq_filter, keys, Table.erase, keys, List.filter_map]
    congr 1
    refine List.filter_congr fun e _ => ?_
    simp [bne, BEq.beq]
  rw [size_eq_length_keys, size_eq_length_keys, hkeys, List.length_erase_of_mem hk]

/-- Whether every value carries its own key. -/
def Keyed (key : α → κ) (t : Table κ α) : Prop :=
  ∀ ⦃k a⦄, t.get? k = some a → key a = k

theorem Keyed.alter {key : α → κ} {t : Table κ α} (ht : t.Keyed key) {k : κ} {f : Option α → α}
    (hf : key (f (t.get? k)) = k) : (t.alter k f).Keyed key := by
  intro k' a h
  rw [get?_alter] at h
  split at h
  · rename_i hk
    rw [← Option.some.inj h, hf, hk]
  · exact ht h

theorem Keyed.erase {key : α → κ} {t : Table κ α} (ht : t.Keyed key) (k : κ) :
    (t.erase k).Keyed key := by
  intro k' a h
  rw [get?_erase] at h
  split at h
  · cases h
  · exact ht h

theorem Keyed.of_mem {key : α → κ} {t : Table κ α} (ht : t.Keyed key) (hd : t.Distinct)
    {e : κ × α} (he : e ∈ t.entries) : key e.2 = e.1 :=
  ht (hd.get?_eq_some_iff.mpr he)

/-- Values that carry their own keys show the keys of the table. -/
theorem Keyed.map_values {key : α → κ} {t : Table κ α} (ht : t.Keyed key) (hd : t.Distinct) :
    t.values.map key = t.keys := by
  rw [values, keys, List.map_map]
  exact List.map_congr_left fun e he => ht.of_mem hd he

/-! ## One change for each entry -/

/-- The keys after changes one after another. -/
theorem contains_foldl_alter {ι : Type} (key : ι → κ) (f : ι → Option α → α) (l : List ι)
    (t : Table κ α) (k : κ) :
    (l.foldl (fun acc i => acc.alter (key i) (f i)) t).contains k ↔
      t.contains k ∨ k ∈ l.map key := by
  induction l generalizing t with
  | nil => simp
  | cons i l ih =>
    rw [List.foldl_cons, ih, contains_alter, List.map_cons, List.mem_cons]
    tauto

/-- One change for each entry of a list without repeated keys: a key of the list is changed once,
from its value before, and any other key keeps its value. -/
theorem get?_foldl_alter {l : List (κ × β)} (hl : (l.map (·.1)).Nodup)
    (f : κ → β → Option α → α) (t : Table κ α) (k : κ) :
    (l.foldl (fun acc e => acc.alter e.1 (f e.1 e.2)) t).get? k =
      match find k l with
      | none => t.get? k
      | some b => some (f k b (t.get? k)) := by
  induction l generalizing t with
  | nil => rfl
  | cons e l ih =>
    rw [List.map_cons, List.nodup_cons] at hl
    rw [List.foldl_cons, ih hl.2, get?_alter]
    by_cases he : e.1 = k
    · have hk : find k l = none := find_eq_none_iff.mpr (he ▸ hl.1)
      rw [hk, if_pos he.symm, find, if_pos he, he]
    · rw [if_neg (Ne.symm he), find, if_neg he]

/-- One change for each entry of a list without repeated keys, from the empty table on: the entries
are those of the list, in their order. -/
theorem foldl_alter_empty {l : List (κ × β)} (hl : (l.map (·.1)).Nodup)
    (f : κ → β → Option α → α) :
    l.foldl (fun acc e => acc.alter e.1 (f e.1 e.2)) (empty : Table κ α) =
      ⟨l.map fun e => (e.1, f e.1 e.2 none)⟩ := by
  suffices hfold : ∀ t : Table κ α, (∀ k ∈ l.map (·.1), k ∉ t.keys) →
      l.foldl (fun acc e => acc.alter e.1 (f e.1 e.2)) t =
        ⟨t.entries ++ l.map fun e => (e.1, f e.1 e.2 none)⟩ from hfold empty fun _ _ => nofun
  induction l with
  | nil =>
    intro t _
    rw [List.map_nil, List.append_nil]
    rfl
  | cons e l ih =>
    intro t hnew
    rw [List.map_cons, List.nodup_cons] at hl
    have halter : t.alter e.1 (f e.1 e.2) = ⟨t.entries ++ [(e.1, f e.1 e.2 none)]⟩ :=
      congrArg Table.mk (alterEntries_of_not_mem (hnew e.1 List.mem_cons_self) _)
    rw [List.foldl_cons, halter, ih hl.2, List.map_cons, List.append_assoc, List.singleton_append]
    intro k hk
    rw [keys, List.map_append, List.mem_append, not_or]
    refine ⟨hnew k (List.mem_cons_of_mem _ hk), fun hmem => hl.1 ?_⟩
    have hkey : k = e.1 := List.mem_singleton.mp hmem
    rwa [hkey] at hk

/-- A table whose entries come into the empty table as they are is filled anew. -/
theorem Distinct.foldl_alter_self {t : Table κ α} (ht : t.Distinct) (f : κ → α → Option α → α)
    (hf : ∀ e ∈ t.entries, f e.1 e.2 none = e.2) :
    t.entries.foldl (fun acc e => acc.alter e.1 (f e.1 e.2)) empty = t := by
  have hentries : t.entries.map (fun e => (e.1, f e.1 e.2 none)) = t.entries := by
    conv_rhs => rw [← List.map_id t.entries]
    exact List.map_congr_left fun e he => by rw [hf e he, id]
  rw [foldl_alter_empty ht, hentries]

/-- A value that is joined to the one that is there, if there is one. -/
def joinTo (join : α → α → α) (added : α) : Option α → α
  | none => added
  | some a => join a added

/-- Joining the entries of another table in, key by key. -/
theorem get?_foldl_join {other : Table κ α} (ho : other.Distinct) (join : α → α → α)
    (f : κ → α → Option α → α) (hnone : ∀ k b, f k b none = b)
    (hsome : ∀ k a b, f k b (some a) = join a b) (t : Table κ α) (k : κ) :
    (other.entries.foldl (fun acc e => acc.alter e.1 (f e.1 e.2)) t).get? k =
      Option.merge join (t.get? k) (other.get? k) := by
  rw [get?_foldl_alter ho, show other.get? k = find k other.entries from rfl]
  cases find k other.entries with
  | none => cases t.get? k <;> rfl
  | some b =>
    cases t.get? k with
    | none => exact congrArg some (hnone k b)
    | some a => exact congrArg some (hsome k a b)

/-- Whether a table is the join of two others, key by key. -/
def JoinOf (join : α → α → α) (first second t : Table κ α) : Prop :=
  ∀ k, t.get? k = Option.merge join (first.get? k) (second.get? k)

theorem joinOf_empty (join : α → α → α) (t : Table κ α) : JoinOf join t .empty t := by
  intro k
  rw [get?_empty]
  cases t.get? k <;> rfl

/-- A value that is joined to the second of two tables is joined to their join. -/
theorem JoinOf.alter {join : α → α → α} (hassoc : ∀ a b c, join (join a b) c = join a (join b c))
    {first second t : Table κ α} (h : JoinOf join first second t) (k : κ) (added : α) :
    JoinOf join first (second.alter k (joinTo join added)) (t.alter k (joinTo join added)) := by
  intro k'
  rw [get?_alter, get?_alter]
  by_cases hk : k' = k
  · rw [if_pos hk, if_pos hk, hk, h k]
    cases first.get? k with
    | none => cases second.get? k <;> rfl
    | some a =>
      cases second.get? k with
      | none => rfl
      | some b => exact congrArg some (hassoc a b added)
  · rw [if_neg hk, if_neg hk, h k']

/-! ## The same facts -/

/-- A table whose values were changed states the same as before if each value does. -/
theorem Distinct.same_map_iff {t : Table κ α} (ht : t.Distinct) (eq : α → α → Bool)
    (g : κ → α → α) :
    (Table.mk (t.entries.map fun e => (e.1, g e.1 e.2))).same eq t ↔
      ∀ e ∈ t.entries, eq (g e.1 e.2) e.2 := by
  have hlookup : ∀ e ∈ t.entries, t.get? e.1 = some e.2 :=
    fun e he => ht.get?_eq_some_iff.mpr he
  rw [same, Bool.and_eq_true, beq_iff_eq, size, size, List.length_map, List.all_map,
    List.all_eq_true]
  refine ⟨fun h e he => ?_, fun h => ⟨rfl, fun e he => ?_⟩⟩
  · have hsame := h.2 e he
    rwa [Function.comp_apply, hlookup e he, Option.any_some] at hsame
  · rw [Function.comp_apply, hlookup e he, Option.any_some]
    exact h e he

theorem Distinct.same_self {t : Table κ α} (ht : t.Distinct) {eq : α → α → Bool}
    (heq : ∀ e ∈ t.entries, eq e.2 e.2) : t.same eq t := by
  have hsame := (ht.same_map_iff eq fun _ a => a).mpr heq
  rwa [List.map_id''] at hsame
  exact fun _ => rfl

/-- A value of a table is found in every table that states the same. -/
theorem exists_get?_of_same {s t : Table κ α} {eq : α → α → Bool} (h : s.same eq t) {k : κ} {a : α}
    (ha : s.get? k = some a) : ∃ b, t.get? k = some b ∧ eq a b := by
  rw [same, Bool.and_eq_true, List.all_eq_true] at h
  have hany := h.2 (k, a) (mem_of_find_eq_some ha)
  exact (Option.any_eq_true _ _).mp hany

/-- Tables that state the same have the same keys. -/
theorem Distinct.contains_iff_of_same {s t : Table κ α} (hs : s.Distinct) {eq : α → α → Bool}
    (h : s.same eq t) (k : κ) : s.contains k ↔ t.contains k := by
  have hsub : s.keys ⊆ t.keys := by
    intro k hk
    obtain ⟨a, ha⟩ := Option.isSome_iff_exists.mp (contains_iff_mem_keys.mpr hk)
    obtain ⟨b, hb, -⟩ := exists_get?_of_same h ha
    exact contains_iff_mem_keys.mp (contains_of_get?_eq_some hb)
  have hlength : t.keys.length ≤ s.keys.length := by
    rw [same, Bool.and_eq_true, beq_iff_eq] at h
    rw [← size_eq_length_keys, ← size_eq_length_keys]
    exact Nat.le_of_eq h.1.symm
  -- No key of the first table comes twice, so none is left over in the second.
  have hperm := (List.Nodup.subperm hs hsub).perm_of_length_le hlength
  rw [contains_iff_mem_keys, contains_iff_mem_keys]
  exact hperm.mem_iff

theorem Distinct.get?_eq_of_same [DecidableEq α] {s t : Table κ α} (hs : s.Distinct)
    (h : s.same (· == ·) t) (k : κ) : s.get? k = t.get? k := by
  cases ha : s.get? k with
  | none =>
    have hiff := hs.contains_iff_of_same h k
    rw [contains, contains, ha] at hiff
    symm
    simpa using hiff
  | some a =>
    obtain ⟨b, hb, heq⟩ := exists_get?_of_same h ha
    rw [hb, eq_of_beq heq]

end Table

/-! ## Members -/

theorem sameMembers_iff {α : Type} [DecidableEq α] {xs ys : List α} :
    sameMembers xs ys ↔ ∀ x, x ∈ xs ↔ x ∈ ys := by
  simp only [sameMembers, Bool.and_eq_true, List.all_eq_true, List.contains_iff_mem]
  exact ⟨fun h x => ⟨h.1 x, h.2 x⟩, fun h => ⟨fun x => (h x).mp, fun x => (h x).mpr⟩⟩

theorem mem_uniteMembers {α : Type} [DecidableEq α] {xs ys : List α} {x : α} :
    x ∈ uniteMembers xs ys ↔ x ∈ xs ∨ x ∈ ys := by
  unfold uniteMembers
  induction ys generalizing xs with
  | nil => simp
  | cons y ys ih =>
    rw [List.foldl_cons, ih, List.mem_insert_iff, List.mem_cons]
    tauto

/-! ## Tallies -/

namespace Tally

open Table

variable {κ : Type} [DecidableEq κ]

/-- Counts each key of a list once. -/
def addEach (t : Tally κ) (l : List κ) : Tally κ :=
  l.foldl (fun acc k => acc.add k 1) t

theorem contains_add (t : Tally κ) (k : κ) (n : Nat) (k' : κ) :
    (t.add k n).contains k' ↔ k' = k ∨ t.contains k' :=
  contains_alter t k k' _

theorem contains_addAll (t other : Tally κ) (k : κ) :
    (t.addAll other).contains k ↔ t.contains k ∨ other.contains k := by
  rw [contains_iff_mem_keys (t := other)]
  exact contains_foldl_alter (fun e : κ × Nat => e.1) (fun e old => old.getD 0 + e.2) _ t k

theorem get?_addAll {t other : Tally κ} (ho : other.Distinct) (k : κ) :
    Table.get? (t.addAll other) k =
      Option.merge (· + ·) (Table.get? t k) (Table.get? other k) :=
  get?_foldl_join ho (· + ·) (fun _ n old => old.getD 0 + n) (fun _ n => Nat.zero_add n)
    (fun _ _ _ => rfl) t k

/-- Counts add up. -/
theorem count_addAll {t other : Tally κ} (ho : other.Distinct) (k : κ) :
    (t.addAll other).count k = t.count k + other.count k := by
  rw [count, count, count, get?_addAll ho]
  cases Table.get? t k <;> cases Table.get? other k <;> simp [Option.merge]

/-- A tally is known by its keys and its counts. -/
theorem get?_eq_of_count_eq {t t' : Tally κ} {k : κ} (hcontains : t.contains k ↔ t'.contains k)
    (hcount : t.count k = t'.count k) : Table.get? t k = Table.get? t' k := by
  rw [count, count] at hcount
  unfold Table.contains at hcontains
  cases h : Table.get? t k with
  | none =>
    rw [h] at hcontains
    symm
    simpa using hcontains
  | some n =>
    rw [h] at hcontains hcount
    obtain ⟨n', h'⟩ := Option.isSome_iff_exists.mp (hcontains.mp rfl)
    rw [h'] at hcount ⊢
    exact congrArg some hcount

/-- Whether a tally is the recount of a list: its keys are the members of the list, each with the
number of its occurrences. -/
structure Tallies (t : Tally κ) (l : List κ) : Prop where
  distinct : t.Distinct
  get? : ∀ k, Table.get? t k = if k ∈ l then some (l.count k) else none

theorem tallies_empty : Tallies (Table.empty : Tally κ) [] where
  distinct := distinct_empty
  get? k := by simp

namespace Tallies

variable {t other : Tally κ} {l l' : List κ}

theorem count_eq (h : t.Tallies l) (k : κ) : t.count k = l.count k := by
  rw [Tally.count, h.get? k]
  by_cases hk : k ∈ l
  · rw [if_pos hk, Option.getD_some]
  · rw [if_neg hk, Option.getD_none, List.count_eq_zero_of_not_mem hk]

theorem contains_iff (h : t.Tallies l) (k : κ) : t.contains k ↔ k ∈ l := by
  rw [contains, h.get? k]
  split <;> simpa

/-- Counting one more key. -/
theorem add (h : t.Tallies l) (k : κ) : (t.add k 1).Tallies (l ++ [k]) where
  distinct := h.distinct.alter k _
  get? k' := by
    rw [Tally.add, get?_alter]
    by_cases hk : k' = k
    · have hcount : (Table.get? t k).getD 0 = l.count k := h.count_eq k
      rw [if_pos hk, hk, if_pos (List.mem_append_right l (List.mem_singleton_self k)), hcount,
        List.count_append, List.count_singleton_self]
    · have hcount : (l ++ [k]).count k' = l.count k' := by
        rw [List.count_append, List.count_eq_zero_of_not_mem (mt List.mem_singleton.mp hk),
          Nat.add_zero]
      rw [if_neg hk, h.get? k', hcount]
      simp [hk]

/-- Counting a list of further keys. -/
theorem addEach (h : t.Tallies l) (l' : List κ) : (t.addEach l').Tallies (l ++ l') := by
  induction l' generalizing t l with
  | nil =>
    rw [List.append_nil]
    exact h
  | cons k l' ih =>
    have hk := ih (h.add k)
    rwa [List.append_assoc, List.singleton_append] at hk

/-- Adding the counts of another recount. -/
theorem addAll (h : t.Tallies l) (h' : other.Tallies l') :
    (t.addAll other).Tallies (l ++ l') where
  distinct := h.distinct.foldl_alter (fun e : κ × Nat => e.1) (fun e old => old.getD 0 + e.2) _
  get? k := by
    rw [get?_addAll h'.distinct, h.get? k, h'.get? k, List.count_append]
    by_cases hk : k ∈ l
    · by_cases hk' : k ∈ l'
      · simp [hk, hk']
      · simp [hk, hk', List.count_eq_zero_of_not_mem hk']
    · by_cases hk' : k ∈ l'
      · simp [hk, hk', List.count_eq_zero_of_not_mem hk]
      · simp [hk, hk']

end Tallies

end Tally

end Daybook
