import Daybook.Proofs.Search.Score
import Daybook.Search.Candidates
import Mathlib.Data.List.Basic

/-!
# The character index loses no match

Before names are scored, those that miss a character of the query are left out, by a map from
characters to the names that hold them.

* `get?_holders`: what the map knows about a character.
* `indicesIn_eq`: intersecting what it knows about the characters of a query leaves the names that
  hold all of them, in the order of the list.
* `scoredMatches_eq`: a name that has a score is among them, so scoring these names is scoring all.
-/

namespace Daybook.Search

/-! ## The characters of a name -/

theorem contains_addPlaces (text : List Char) (pos : Nat) (places : Places) (c : Char) :
    (addPlaces pos places text).contains c ↔ places.contains c ∨ c ∈ text := by
  induction text generalizing pos places with
  | nil => simp [addPlaces]
  | cons x xs ih =>
    rw [addPlaces, ih, Table.contains_alter, List.mem_cons]
    tauto

theorem distinct_addPlaces (text : List Char) (pos : Nat) {places : Places}
    (h : places.Distinct) : (addPlaces pos places text).Distinct := by
  induction text generalizing pos places with
  | nil => exact h
  | cons x xs ih => exact ih (pos + 1) (h.alter x _)

theorem mem_keys_placesOf {text : List Char} {c : Char} : c ∈ (placesOf text).keys ↔ c ∈ text := by
  rw [← Table.contains_iff_mem_keys, placesOf, contains_addPlaces]
  simp [Table.contains]

theorem nodup_keys_placesOf (text : List Char) : (placesOf text).keys.Nodup :=
  distinct_addPlaces text 0 Table.distinct_empty

/-! ## The candidates that hold a character -/

/-- The places of the candidates that hold a character, found without the map. -/
def holding (candidates : List Candidate) (c : Char) : List Nat :=
  (List.range candidates.length).filter fun i => candidates[i]?.any (c ∈ ·.folded)

theorem mem_holding {candidates : List Candidate} {c : Char} {i : Nat} :
    i ∈ holding candidates c ↔ ∃ x, candidates[i]? = some x ∧ c ∈ x.folded := by
  rw [holding, List.mem_filter, List.mem_range, Option.any_eq_true]
  simp only [decide_eq_true_eq]
  exact ⟨And.right, fun ⟨x, hx, hc⟩ => ⟨(List.getElem?_eq_some_iff.mp hx).1, x, hx, hc⟩⟩

theorem holding_concat (candidates : List Candidate) (x : Candidate) (c : Char) :
    holding (candidates ++ [x]) c =
      holding candidates c ++ if c ∈ x.folded then [candidates.length] else [] := by
  have hold : ∀ i ∈ List.range candidates.length,
      (candidates ++ [x])[i]?.any (c ∈ ·.folded) = candidates[i]?.any (c ∈ ·.folded) := by
    intro i hi
    rw [List.getElem?_append_left (List.mem_range.mp hi)]
  rw [holding, List.length_append, List.length_singleton, List.range_succ, List.filter_append,
    List.filter_congr hold, holding]
  by_cases hc : c ∈ x.folded <;> simp [hc]

theorem get?_addHolder {cs : List Char} (hcs : cs.Nodup) (index : Nat)
    (held : Table Char (List Nat)) (c : Char) :
    (addHolder index held cs).get? c =
      if c ∈ cs then some ((held.get? c).getD [] ++ [index]) else held.get? c := by
  rw [addHolder]
  induction cs generalizing held with
  | nil => simp
  | cons x xs ih =>
    obtain ⟨hx, hxs⟩ := List.nodup_cons.mp hcs
    rw [List.foldl_cons, ih hxs, Table.get?_alter]
    by_cases hc : c = x
    · subst hc
      simp [hx]
    · simp [hc]

/-- **The map from characters to candidates** knows exactly the characters that some candidate
holds, each with all candidates that hold it. -/
theorem get?_holders (candidates : List Candidate) (c : Char) :
    (holders candidates).get? c =
      if holding candidates c = [] then none else some (holding candidates c) := by
  induction candidates using List.reverseRecOn with
  | nil => rfl
  | append_singleton candidates x ih =>
    have hlast : holders (candidates ++ [x]) =
        addHolder candidates.length (holders candidates) (placesOf x.folded).keys := by
      simp [holders, List.zipIdx_append]
    rw [hlast, get?_addHolder (nodup_keys_placesOf x.folded), holding_concat, ih]
    simp only [mem_keys_placesOf]
    by_cases hc : c ∈ x.folded
    · by_cases hnone : holding candidates c = [] <;> simp [hc, hnone]
    · simp [hc]

theorem get?_holders_eq_some {candidates : List Candidate} {c : Char} {found : List Nat}
    (h : (holders candidates).get? c = some found) : found = holding candidates c := by
  rw [get?_holders] at h
  split at h
  · cases h
  · exact (Option.some.inj h).symm

theorem get?_holders_eq_none {candidates : List Candidate} {c : Char}
    (h : (holders candidates).get? c = none) : holding candidates c = [] := by
  rw [get?_holders] at h
  by_contra hne
  rw [if_neg hne] at h
  cases h

/-! ## The candidates that hold every character of a query -/

/-- Looking up every member of a list gives all values, or a member has none. -/
theorem mapM_option_cases {α β : Type} (f : α → Option β) (l : List α) :
    (∃ a ∈ l, f a = none ∧ l.mapM f = none) ∨
      ∃ values, l.mapM f = some values ∧ l.map f = values.map some := by
  induction l with
  | nil => exact .inr ⟨[], rfl, rfl⟩
  | cons a l ih =>
    rw [List.mapM_cons]
    cases hfa : f a with
    | none => exact .inl ⟨a, List.mem_cons_self, hfa, rfl⟩
    | some b =>
      rcases ih with ⟨x, hx, hnone, hmap⟩ | ⟨values, hmap, hvalues⟩
      · exact .inl ⟨x, List.mem_cons_of_mem a hx, hnone, by rw [hmap]; rfl⟩
      · refine .inr ⟨b :: values, by rw [hmap]; rfl, ?_⟩
        rw [List.map_cons, hfa, hvalues, List.map_cons]

/-- The places that all of some lists share, each list holding a character. -/
theorem all_contains_iff {candidates : List Candidate} {cs : List Char} {pools : List (List Nat)}
    (h : cs.map (holders candidates).get? = pools.map some) (i : Nat) :
    pools.all (·.contains i) ↔ ∀ c ∈ cs, i ∈ holding candidates c := by
  induction cs generalizing pools with
  | nil =>
    rw [List.map_eq_nil_iff.mp h.symm]
    simp
  | cons c cs ih =>
    cases pools with
    | nil => cases h
    | cons pool pools =>
      obtain ⟨hpool, hpools⟩ := List.cons.inj h
      rw [List.all_cons, Bool.and_eq_true, ih hpools, List.contains_iff_mem,
        get?_holders_eq_some hpool, List.forall_mem_cons]

/-- **What the index gives**: the places of the candidates that hold every character of the query, in
the order of the list. -/
theorem indicesIn_eq (candidates : List Candidate) (query : List Char) :
    indicesIn candidates query =
      (List.range candidates.length).filter fun i =>
        query.all fun c => i ∈ holding candidates c := by
  have hdistinct : ∀ i, (query.all fun c => i ∈ holding candidates c) =
      query.eraseDups.all fun c => i ∈ holding candidates c := fun i => by
    rw [Bool.eq_iff_iff]
    simp only [List.all_eq_true, List.mem_eraseDups]
  simp only [indicesIn, hdistinct]
  rcases mapM_option_cases (fun c => (holders candidates).get? c) query.eraseDups with
    ⟨c, hc, hnone, hmap⟩ | ⟨pools, hmap, hpools⟩
  · rw [hmap]
    refine (List.filter_eq_nil_iff.mpr fun i _ hall => ?_).symm
    have hi := of_decide_eq_true (List.all_eq_true.mp hall c hc)
    rw [get?_holders_eq_none hnone] at hi
    exact List.not_mem_nil hi
  · rw [hmap]
    cases hcs : query.eraseDups with
    | nil =>
      rw [hcs] at hpools
      rw [List.map_eq_nil_iff.mp hpools.symm]
      simp
    | cons c cs =>
      rw [hcs] at hpools
      cases pools with
      | nil => cases hpools
      | cons first others =>
        obtain ⟨hfirst, hothers⟩ := List.cons.inj hpools
        dsimp only
        rw [get?_holders_eq_some hfirst, holding, List.filter_filter]
        refine List.filter_congr fun i hi => ?_
        have hfound : candidates[i]?.any (c ∈ ·.folded) ↔ i ∈ holding candidates c := by
          rw [holding, List.mem_filter]
          exact (and_iff_right hi).symm
        rw [Bool.eq_iff_iff, Bool.and_eq_true, all_contains_iff hothers, hfound,
          List.all_cons, Bool.and_eq_true, decide_eq_true_eq, and_comm]
        simp only [List.all_eq_true, decide_eq_true_eq]

theorem mem_indicesIn {candidates : List Candidate} {query : List Char} {i : Nat} :
    i ∈ indicesIn candidates query ↔ ∃ x, candidates[i]? = some x ∧ ∀ c ∈ query, c ∈ x.folded := by
  rw [indicesIn_eq, List.mem_filter, List.mem_range, List.all_eq_true]
  simp only [decide_eq_true_eq, mem_holding]
  constructor
  · rintro ⟨hi, hall⟩
    refine ⟨candidates[i], List.getElem?_eq_getElem hi, fun c hc => ?_⟩
    obtain ⟨x, hx, hmem⟩ := hall c hc
    rw [List.getElem?_eq_getElem hi] at hx
    exact Option.some.inj hx ▸ hmem
  · rintro ⟨x, hx, hall⟩
    exact ⟨(List.getElem?_eq_some_iff.mp hx).1, fun c hc => ⟨x, hx, hall c hc⟩⟩

theorem ascending_indicesIn (candidates : List Candidate) (query : List Char) :
    (indicesIn candidates query).Pairwise (· < ·) := by
  rw [indicesIn_eq]
  exact List.pairwise_lt_range.filter _

/-! ## Scoring what the index gives -/

/-- A name with a score holds every character of the query. -/
theorem subset_of_score?_isSome {query name : List Char} (h : (score? query name).isSome) :
    query ⊆ name := by
  by_contra hsubset
  rw [score?_eq_none fun hsublist => hsubset hsublist.subset] at h
  cases h

/-- A candidate with its score, if it has one. -/
def scored (query : List Char) (c : Candidate) : Option (Rat × Candidate) :=
  (score? query c.folded).map fun s => (s, c)

/-- **The index discards no name that scores.** -/
theorem scoredMatches_eq (query : List Char) (candidates : List Candidate) :
    scoredMatches query candidates = candidates.filterMap (scored query) := by
  have hall : (List.range candidates.length).map (candidates[·]?) = candidates.map some := by
    refine List.ext_getElem? fun i => ?_
    by_cases hi : i < candidates.length <;> simp [hi]
  have hfound : candidates.filterMap (scored query) =
      (List.range candidates.length).filterMap fun i => candidates[i]?.bind (scored query) := by
    have hbind := congrArg (List.filterMap fun c => c.bind (scored query)) hall
    rw [List.filterMap_map, List.filterMap_map] at hbind
    exact hbind.symm
  rw [hfound, scoredMatches, indicesIn_eq, List.filterMap_filter]
  refine List.filterMap_congr fun i hi => ?_
  have hlt := List.mem_range.mp hi
  rw [List.getElem?_toArray, List.getElem?_eq_getElem hlt]
  split
  · simp [scored, Option.map_eq_bind]
  · rename_i hmissing
    have hnone : score? query candidates[i].folded = none := by
      by_contra hsome
      refine hmissing (List.all_eq_true.mpr fun c hc => decide_eq_true (mem_holding.mpr ?_))
      exact ⟨_, List.getElem?_eq_getElem hlt,
        subset_of_score?_isSome (Option.isSome_iff_ne_none.mpr hsome) hc⟩
    simp [scored, hnone]

end Daybook.Search
