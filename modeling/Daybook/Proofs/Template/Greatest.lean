import Daybook.Proofs.Calendar.Iso
import Daybook.Proofs.Template.Store
import Mathlib.Data.Prod.Lex
import Mathlib.Data.Set.Card

/-!
# The templates that are kept are the greatest

Templates are given up one at a time, each time the least of those that are left.  The order is a
linear one, and templates of different keys are never level, so the order in which a table lists its
templates has no part in what is given up: what is left are the greatest.

* `Template.standing`, `Template.evictedBefore_iff`: the order in which templates are given up.
* `Template.HoldsGreatest`: whether a table has the greatest of a pool of templates.
  `Template.HoldsGreatest.map_standing_eq`: which templates these are depends on what they are
  compared by alone.
* `Template.standing_lt_of_evict`: a template that is given up is less than each one that is left.
* `Template.holdsGreatest_prune`: after giving templates up, the five greatest are left.
-/

namespace Daybook

open Calendar

/-- Days are written alike only if they are the same. -/
theorem Calendar.Date.iso_inj {a b : Date} (h : a.iso = b.iso) : a = b := by
  have hnot : ¬a.rank < b.rank := fun hlt =>
    (Date.iso_lt_iso_iff.mpr (decide_eq_true hlt)).ne h
  have hnot' : ¬b.rank < a.rank := fun hlt =>
    (Date.iso_lt_iso_iff.mpr (decide_eq_true hlt)).ne h.symm
  exact Date.eq_of_rank_eq (by omega)

namespace Template

/-! ## The order of templates -/

/-- What templates are compared by: how often they were used, the day of the last use, and the
key. -/
def standing (t : Template) : ℕ ×ₗ String ×ₗ String :=
  toLex (t.usageCount, toLex (t.lastUsed.iso, t.key))

/-- **The template that is given up first** is the one that stands lower. -/
theorem evictedBefore_iff {s t : Template} : s.evictedBefore t ↔ s.standing < t.standing := by
  rw [standing, standing, Prod.Lex.toLex_lt_toLex, Prod.Lex.toLex_lt_toLex, Date.iso_lt_iso_iff,
    evictedBefore]
  by_cases hcount : s.usageCount = t.usageCount
  · by_cases hday : s.lastUsed = t.lastUsed
    · have hsame : ¬t.lastUsed.lt t.lastUsed := fun h =>
        lt_irrefl _ (Date.iso_lt_iso_iff.mpr h)
      simp [hcount, hday, hsame]
    · have hiso : s.lastUsed.iso ≠ t.lastUsed.iso := mt Date.iso_inj hday
      simp [hcount, hday, hiso]
  · simp [hcount]

theorem standing_eq_iff {s t : Template} :
    s.standing = t.standing ↔
      s.usageCount = t.usageCount ∧ s.lastUsed = t.lastUsed ∧ s.key = t.key := by
  rw [standing, standing, toLex_inj, Prod.mk.injEq, toLex_inj, Prod.mk.injEq]
  exact ⟨fun h => ⟨h.1, Date.iso_inj h.2.1, h.2.2⟩, fun h => ⟨h.1, congrArg _ h.2.1, h.2.2⟩⟩

/-- Two templates of one key stand the same together, whichever is added to the other. -/
theorem standing_joinTemplate_comm (payee : String) {s t : Template} (hkey : s.key = t.key) :
    (joinTemplate payee s t).standing = (joinTemplate payee t s).standing := by
  refine standing_eq_iff.mpr ⟨Nat.add_comm _ _, ?_, hkey.symm⟩
  have hlast : ∀ x y : Template, (joinTemplate payee x y).lastUsed = y.lastUsed.latest x.lastUsed :=
    fun x y => by
      rw [joinTemplate, Date.latest]
      split <;> rfl
  rw [hlast, hlast]
  unfold Date.latest Date.lt
  simp only [decide_eq_true_eq]
  -- neither day is before the other only if they are the same
  split_ifs with hlt hgt hgt
  · omega
  · rfl
  · rfl
  · exact Date.eq_of_rank_eq (by omega)

/-! ## The greatest of a pool -/

/-- Whether a table has the `n` greatest templates of a pool, or all if there are fewer: they are of
the pool, as many as can be, and each of the pool that is left out stands lower than each that the
table has. -/
structure HoldsGreatest (n : ℕ) (pool : String → Option Template) (t : TemplateTable) : Prop where
  distinct : t.Distinct
  pooled : ∀ ⦃k tm⦄, t.get? k = some tm → pool k = some tm
  size_eq : t.size = min n {k | (pool k).isSome}.ncard
  standing_lt : ∀ ⦃k k' tm tm'⦄, t.get? k = some tm → pool k' = some tm' → t.get? k' = none →
    tm'.standing < tm.standing

namespace HoldsGreatest

variable {n : ℕ} {pool pool' : String → Option Template} {t t' : TemplateTable}

theorem get?_eq (h : HoldsGreatest n pool t) (k : String) :
    t.get? k = if k ∈ t.keys then pool k else none := by
  split
  · rename_i hk
    obtain ⟨tm, htm⟩ := Option.isSome_iff_exists.mp (Table.contains_iff_mem_keys.mpr hk)
    rw [htm, h.pooled htm]
  · rename_i hk
    exact Table.get?_eq_none_iff.mpr hk

/-- Of pools in which each key stands the same, no key is kept from the one that is left out from
the other. -/
theorem mem_keys (h : HoldsGreatest n pool t) (h' : HoldsGreatest n pool' t')
    (hpool : ∀ k, (pool k).map standing = (pool' k).map standing) {k : String}
    (hk : k ∈ t.keys) : k ∈ t'.keys := by
  have hsome : ∀ k, (pool k).isSome = (pool' k).isSome := fun k => by
    simpa using congrArg Option.isSome (hpool k)
  have hsize : t.size = t'.size := by
    rw [h.size_eq, h'.size_eq]
    simp only [hsome]
  by_contra hk'
  -- Both tables have the same number of keys, so another key is in the second one only.
  obtain ⟨k', hmem', hmem⟩ : ∃ k' ∈ t'.keys, k' ∉ t.keys := by
    by_contra hall
    push Not at hall
    have hlength : t.keys.length ≤ t'.keys.length := by
      rw [← Table.size_eq_length_keys, ← Table.size_eq_length_keys, hsize]
    exact hk' (((List.Nodup.subperm h'.distinct hall).perm_of_length_le hlength).mem_iff.mpr hk)
  obtain ⟨tm, htm⟩ := Option.isSome_iff_exists.mp (Table.contains_iff_mem_keys.mpr hk)
  obtain ⟨tm', htm'⟩ := Option.isSome_iff_exists.mp (Table.contains_iff_mem_keys.mpr hmem')
  have hother := hpool k
  rw [h.pooled htm, Option.map_some] at hother
  obtain ⟨other, hother, hstanding⟩ := Option.map_eq_some_iff.mp hother.symm
  have hother' := hpool k'
  rw [h'.pooled htm', Option.map_some] at hother'
  obtain ⟨other', hother', hstanding'⟩ := Option.map_eq_some_iff.mp hother'
  have hbelow := h.standing_lt htm hother' (Table.get?_eq_none_iff.mpr hmem)
  have habove := h'.standing_lt htm' hother (Table.get?_eq_none_iff.mpr hk')
  rw [hstanding] at habove
  rw [hstanding'] at hbelow
  exact lt_asymm hbelow habove

/-- **Which templates are the greatest** depends on what they are compared by alone. -/
theorem map_standing_eq (h : HoldsGreatest n pool t) (h' : HoldsGreatest n pool' t')
    (hpool : ∀ k, (pool k).map standing = (pool' k).map standing) (k : String) :
    (t.get? k).map standing = (t'.get? k).map standing := by
  have hiff : k ∈ t.keys ↔ k ∈ t'.keys :=
    ⟨h.mem_keys h' hpool, h'.mem_keys h fun k => (hpool k).symm⟩
  rw [h.get?_eq, h'.get?_eq]
  by_cases hk : k ∈ t.keys
  · rw [if_pos hk, if_pos (hiff.mp hk), hpool]
  · rw [if_neg hk, if_neg (mt hiff.mpr hk)]

/-- A pool has its greatest templates in one way. -/
theorem get?_unique (h : HoldsGreatest n pool t) (h' : HoldsGreatest n pool t') (k : String) :
    t.get? k = t'.get? k := by
  have hiff : k ∈ t.keys ↔ k ∈ t'.keys :=
    ⟨h.mem_keys h' fun _ => rfl, h'.mem_keys h fun _ => rfl⟩
  rw [h.get?_eq, h'.get?_eq]
  simp only [hiff]

end HoldsGreatest

/-! ## What is left after giving templates up -/

/-- No template is less than the one that is given up first. -/
theorem standing_firstEvicted_le {l : List Template} {victim : Template}
    (h : firstEvicted l = some victim) : ∀ tm ∈ l, victim.standing ≤ tm.standing := by
  induction l generalizing victim with
  | nil => cases h
  | cons first rest ih =>
    rw [firstEvicted] at h
    cases hrest : firstEvicted rest with
    | none =>
      rw [hrest] at h
      cases h
      have hnil : rest = [] := by
        by_contra hne
        exact firstEvicted_ne_none hne hrest
      rw [hnil]
      intro tm htm
      rw [List.mem_singleton.mp htm]
    | some least =>
      rw [hrest] at h
      dsimp only at h
      have hleast := ih hrest
      rw [List.forall_mem_cons]
      split at h
      · rename_i hbefore
        cases h
        exact ⟨(evictedBefore_iff.mp hbefore).le, hleast⟩
      · rename_i hbefore
        cases h
        have hle : first.standing ≤ least.standing :=
          not_lt.mp (mt evictedBefore_iff.mpr hbefore)
        exact ⟨le_refl _, fun tm htm => hle.trans (hleast tm htm)⟩

/-- **A template that is given up is less than each one that is left.** -/
theorem standing_lt_of_evict {t : TemplateTable} (hd : t.Distinct) (hkeyed : t.Keyed key) {n : ℕ}
    {k k' : String} {tm tm' : Template} (hleft : (evict n t).get? k = some tm)
    (hthere : t.get? k' = some tm') (hgone : (evict n t).get? k' = none) :
    tm'.standing < tm.standing := by
  induction n generalizing t with
  | zero =>
    rw [evict, hthere] at hgone
    cases hgone
  | succ n ih =>
    rw [evict] at hleft hgone
    cases hvictim : firstEvicted t.values with
    | none =>
      rw [hvictim] at hgone
      dsimp only at hgone
      rw [hthere] at hgone
      cases hgone
    | some victim =>
      rw [hvictim] at hleft hgone
      dsimp only at hleft hgone
      have hstays := get?_of_get?_evict hleft
      rw [Table.get?_erase] at hstays
      split at hstays
      · cases hstays
      rename_i hne
      by_cases hfirst : k' = victim.key
      · -- It is the least of all, and level with none, as it has another key.
        obtain ⟨e, he, rfl⟩ := List.mem_map.mp (mem_of_firstEvicted hvictim)
        have hsame : t.get? e.2.key = some e.2 := by
          rw [hkeyed.of_mem hd he]
          exact hd.get?_eq_some_iff.mpr he
        have heq : tm' = e.2 := by
          rw [hfirst, hsame] at hthere
          exact (Option.some.inj hthere).symm
        have hmem : tm ∈ t.values := List.mem_map_of_mem (hd.get?_eq_some_iff.mp hstays)
        have hle := standing_firstEvicted_le hvictim tm hmem
        rw [heq]
        refine lt_of_le_of_ne hle fun hstanding => hne ?_
        rw [(standing_eq_iff.mp hstanding).2.2]
        exact (hkeyed hstays).symm
      · refine ih (hd.erase _) (hkeyed.erase _) hleft ?_ hgone
        rw [Table.get?_erase, if_neg hfirst, hthere]

/-- The keys that a table has a value for are as many as its entries. -/
theorem ncard_isSome_get? {t : TemplateTable} (hd : t.Distinct) :
    {k | (t.get? k).isSome}.ncard = t.size := by
  have hset : {k | (t.get? k).isSome} = (t.keys.toFinset : Set String) := by
    ext k
    rw [Set.mem_ofPred_eq, List.coe_toFinset, Set.mem_ofPred_eq]
    exact Table.contains_iff_mem_keys
  rw [hset, Set.ncard_coe_finset, List.toFinset_card_of_nodup hd, Table.size_eq_length_keys]

/-- **After giving templates up, the five greatest are left.** -/
theorem holdsGreatest_prune {t : TemplateTable} (hd : t.Distinct) (hkeyed : t.Keyed key) :
    HoldsGreatest maxPerPayee t.get? (prune t) where
  distinct := distinct_evict hd _
  pooled _ _ h := get?_of_get?_evict h
  size_eq := by rw [size_prune hd hkeyed, ncard_isSome_get? hd, Nat.min_comm]
  standing_lt _ _ _ _ hleft hthere hgone := standing_lt_of_evict hd hkeyed hleft hthere hgone

end Template

end Daybook
