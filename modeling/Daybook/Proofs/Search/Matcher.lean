import Mathlib.Logic.Function.Basic
import Daybook.Proofs.Table
import Daybook.Search.Matcher

/-!
# Remembered results

A matcher remembers results by the folded query, the version of the set and the cap.  No two sets of
a matcher have the same version, so a remembered result is what a search would give anew.  To say
this, a function `prepared` gives the candidates behind each version; it grows with every set that
the matcher prepares and never changes below the next version.

* `Matcher.Remembers`: every remembered result is the one for the candidates of its version.
* `Matcher.Prepared`: whether a set is one that the matcher prepared.
* `Matcher.Grows`: what may happen to a matcher between two searches.
* `Matcher.Remembers.rankCapped_eq`: a search gives what it would give anew.
-/

namespace Daybook.Search.Matcher

variable {prepared prepared' : Nat → List Candidate} {m m' : Matcher}

/-- Whether every remembered result is what its query gives among the candidates of its version. -/
structure Remembers (prepared : Nat → List Candidate) (m : Matcher) : Prop where
  version_lt : ∀ e ∈ m.cache.entries, e.1.2.1 < m.nextVersion
  result_eq : ∀ e ∈ m.cache.entries,
    e.2 = (rankAll e.1.1.toList (prepared e.1.2.1)).take e.1.2.2

/-- Whether a set is one that the matcher prepared. -/
structure Prepared (prepared : Nat → List Candidate) (m : Matcher) (set : CandidateSet) : Prop where
  version_lt : set.version < m.nextVersion
  candidates_eq : set.candidates = prepared set.version

/-- Whether a matcher can have come from another one: versions are only added. -/
structure Grows (prepared : Nat → List Candidate) (m : Matcher) (prepared' : Nat → List Candidate)
    (m' : Matcher) : Prop where
  nextVersion_le : m.nextVersion ≤ m'.nextVersion
  prepared_eq : ∀ v < m.nextVersion, prepared' v = prepared v

theorem Grows.refl (prepared : Nat → List Candidate) (m : Matcher) :
    Grows prepared m prepared m where
  nextVersion_le := Nat.le_refl _
  prepared_eq _ _ := rfl

theorem Grows.trans {prepared'' : Nat → List Candidate} {m'' : Matcher}
    (h : Grows prepared m prepared' m') (h' : Grows prepared' m' prepared'' m'') :
    Grows prepared m prepared'' m'' where
  nextVersion_le := Nat.le_trans h.nextVersion_le h'.nextVersion_le
  prepared_eq v hv :=
    (h'.prepared_eq v (Nat.lt_of_lt_of_le hv h.nextVersion_le)).trans (h.prepared_eq v hv)

/-- A set stays prepared. -/
theorem Prepared.grows {set : CandidateSet} (h : Prepared prepared m set)
    (hgrows : Grows prepared m prepared' m') : Prepared prepared' m' set where
  version_lt := Nat.lt_of_lt_of_le h.version_lt hgrows.nextVersion_le
  candidates_eq := h.candidates_eq.trans (hgrows.prepared_eq _ h.version_lt).symm

/-! ## What a matcher does -/

/-- A matcher without results. -/
theorem remembers_of_cache_eq_empty (prepared : Nat → List Candidate) (h : m.cache = .empty) :
    m.Remembers prepared where
  version_lt e he := absurd he (by rw [h]; exact List.not_mem_nil)
  result_eq e he := absurd he (by rw [h]; exact List.not_mem_nil)

theorem cache_of_make {maxResults maxCacheSize : Int} (h : make maxResults maxCacheSize = .ok m) :
    m.cache = .empty := by
  unfold make at h
  split_ifs at h
  cases h
  rfl

/-- A new matcher remembers nothing. -/
theorem remembers_of_make {maxResults maxCacheSize : Int} (h : make maxResults maxCacheSize = .ok m)
    (prepared : Nat → List Candidate) : m.Remembers prepared :=
  remembers_of_cache_eq_empty prepared (cache_of_make h)

theorem mem_of_mem_shrink {n : Nat} {t : Table CacheKey (List Ranked)}
    {e : CacheKey × List Ranked} (h : e ∈ (shrink n t).entries) : e ∈ t.entries := by
  unfold shrink at h
  split_ifs at h
  · exact List.mem_of_mem_drop h
  · exact h

namespace Remembers

/-- Preparing a set takes a version that no remembered result has. -/
theorem index (h : m.Remembers prepared) (items : List String) (usage : Table String Int) :
    let after := m.index items usage
    let prepared' := Function.update prepared m.nextVersion after.1.candidates
    Grows prepared m prepared' after.2 ∧ after.2.Remembers prepared' ∧
      Prepared prepared' after.2 after.1 := by
  intro after prepared'
  have hold : ∀ v < m.nextVersion, prepared' v = prepared v := fun v hv =>
    Function.update_of_ne (Nat.ne_of_lt hv) _ _
  refine ⟨⟨Nat.le_succ _, hold⟩, ⟨fun e he => ?_, fun e he => ?_⟩, ⟨Nat.lt_succ_self _, ?_⟩⟩
  · exact Nat.lt_succ_of_lt (h.version_lt e he)
  · rw [hold _ (h.version_lt e he)]
    exact h.result_eq e he
  · exact (Function.update_self m.nextVersion after.1.candidates prepared).symm

/-- A result is remembered under the version of the set that was searched. -/
theorem store (h : m.Remembers prepared) {set : CandidateSet} (hset : Prepared prepared m set)
    (query : String) (cap : Nat) :
    (m.store (query, set.version, cap)
      ((rankAll query.toList set.candidates).take cap)).Remembers prepared := by
  refine ⟨fun e he => ?_, fun e he => ?_⟩ <;>
    rcases Table.mem_entries_of_mem_insert (mem_of_mem_shrink he) with hmem | rfl
  · exact h.version_lt e hmem
  · exact hset.version_lt
  · exact h.result_eq e hmem
  · rw [hset.candidates_eq]

/-- **A search gives what it would give anew**, and what it remembers is right. -/
theorem rankCapped_eq (h : m.Remembers prepared) {set : CandidateSet}
    (hset : Prepared prepared m set) (query : String) (cap : Nat) :
    (m.rankCapped query set cap).1 = topMatches query cap set.candidates ∧
      (m.rankCapped query set cap).2.Remembers prepared ∧
      (m.rankCapped query set cap).2.nextVersion = m.nextVersion := by
  unfold rankCapped topMatches
  by_cases hempty : set.candidates.isEmpty
  · rw [if_pos hempty, if_pos hempty]
    exact ⟨rfl, h, rfl⟩
  rw [if_neg hempty, if_neg hempty]
  by_cases hblank : (Text.fold query).toList.all Text.isBlank
  · simp only [if_pos hblank, and_true, true_and]
    exact h
  simp only [if_neg hblank]
  cases hfound : m.cache.get? (Text.fold query, set.version, cap) with
  | some result =>
    have hresult := h.result_eq _ (Table.mem_of_find_eq_some hfound)
    rw [← hset.candidates_eq] at hresult
    exact ⟨hresult, h, rfl⟩
  | none => exact ⟨rfl, h.store hset _ cap, rfl⟩

end Remembers

end Daybook.Search.Matcher
