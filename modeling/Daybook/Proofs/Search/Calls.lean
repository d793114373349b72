import Daybook.Proofs.Search.Matcher

/-!
# Calls to a matcher

Whatever a matcher was asked before, a search in a set that it prepared gives what a search in the
plain list of names gives, which is never remembered.  The number of remembered results stays below
the ceiling: a result is added only where none was known for its key, so the table is too long by one
entry at most, and dropping the oldest quarter drops at least one.  The new result stands at the end
of the table and is not among those that are dropped, down to a ceiling of one.

* `Matcher.size_shrink_insert`, `Matcher.get?_shrink_insert`: a new result in a table of bounded size.
* `Matcher.get?_rankCapped`: a result is remembered once it has been given.
* `MatcherCall`, `Session`: calls to a matcher, which name the sets that it prepared.
* `Session.Sound`: what holds between calls; `Session.Sound.call`, `Session.Sound.after`.
* `Session.call_after`: what a call comes to after any others.
-/

namespace Daybook.Search

open Text

namespace Matcher

variable {m m' : Matcher}

/-! ## One more result -/

section

variable {t : Table CacheKey (List Ranked)} {key : CacheKey} {maxSize : Nat}

theorem entries_insert_of_get?_eq_none (h : t.get? key = none) (result : List Ranked) :
    (t.insert key result).entries = t.entries ++ [(key, result)] :=
  Table.alterEntries_of_not_mem (Table.get?_eq_none_iff.mp h) fun _ => result

/-- A table with one more result is no longer than it may be. -/
theorem size_shrink_insert (hsize : t.size ≤ maxSize) (h : t.get? key = none)
    (result : List Ranked) : (shrink maxSize (t.insert key result)).size ≤ maxSize := by
  have hlength : (t.insert key result).size = t.size + 1 := by
    rw [Table.size, entries_insert_of_get?_eq_none h, List.length_append]
    rfl
  unfold shrink
  split_ifs with hlong
  · rw [Table.size, List.length_drop, ← Table.size, hlength]
    omega
  · omega

/-- The new result is not dropped. -/
theorem get?_shrink_insert (hpos : 0 < maxSize) (h : t.get? key = none) (result : List Ranked) :
    (shrink maxSize (t.insert key result)).get? key = some result := by
  unfold shrink
  split_ifs with hlong
  · rw [Table.size, entries_insert_of_get?_eq_none h, List.length_append, List.length_singleton]
      at hlong
    -- at least two entries, of which the last one is not in the oldest quarter
    have hdrop : (t.entries.length + 1 + 3) / 4 ≤ t.entries.length := by omega
    have hold : key ∉ (t.entries.drop ((t.entries.length + 1 + 3) / 4)).map (·.1) := fun hmem =>
      Table.get?_eq_none_iff.mp h (((List.drop_sublist _ _).map _).subset hmem)
    rw [Table.get?, Table.size, entries_insert_of_get?_eq_none h, List.length_append,
      List.length_singleton, List.drop_append_of_le_length hdrop,
      ← Table.alterEntries_of_not_mem hold fun _ => result, Table.find_alterEntries_self]
  · rw [Table.get?_insert, if_pos rfl]

end

/-! ## One search -/

/-- A search leaves the matcher as it is, or remembers a result for a key that had none. -/
theorem rankCapped_cases (m : Matcher) (query : String) (set : CandidateSet) (cap : Nat) :
    (m.rankCapped query set cap).2 = m ∨
      ∃ key result, m.cache.get? key = none ∧
        (m.rankCapped query set cap).2 = m.store key result := by
  unfold rankCapped
  by_cases hempty : set.candidates.isEmpty
  · rw [if_pos hempty]
    exact .inl rfl
  rw [if_neg hempty]
  by_cases hblank : (fold query).toList.all isBlank
  · simp only [if_pos hblank, true_or]
  simp only [if_neg hblank]
  cases hfound : m.cache.get? (fold query, set.version, cap) with
  | some result => exact .inl rfl
  | none => exact .inr ⟨_, _, hfound, rfl⟩

/-- **A result is remembered once it has been given**, unless the set is empty or the query blank. -/
theorem get?_rankCapped (hpos : 0 < m.maxCacheSize) (query : String) {set : CandidateSet}
    (hset : set.candidates ≠ []) (hquery : (fold query).toList.all isBlank = false) (cap : Nat) :
    (m.rankCapped query set cap).2.cache.get? (fold query, set.version, cap) =
      some (m.rankCapped query set cap).1 := by
  unfold rankCapped
  rw [if_neg (by simpa using hset)]
  simp only [hquery, Bool.false_eq_true, if_false]
  cases hfound : m.cache.get? (fold query, set.version, cap) with
  | some result => exact hfound
  | none => exact get?_shrink_insert hpos hfound _

/-- Whether a matcher has the limits of another one, and its table is no longer than it may be. -/
structure Within (m m' : Matcher) : Prop where
  maxResults_eq : m'.maxResults = m.maxResults
  maxCacheSize_eq : m'.maxCacheSize = m.maxCacheSize
  size_le : m'.cacheSize ≤ m.maxCacheSize

theorem Within.rankCapped (h : Within m m') (query : String) (set : CandidateSet) (cap : Nat) :
    Within m (m'.rankCapped query set cap).2 := by
  rcases m'.rankCapped_cases query set cap with hsame | ⟨key, result, hnone, hstore⟩
  · rw [hsame]
    exact h
  · rw [hstore]
    refine ⟨h.maxResults_eq, h.maxCacheSize_eq, ?_⟩
    rw [store, cacheSize, h.maxCacheSize_eq]
    exact size_shrink_insert h.size_le hnone result

theorem capOf_congr (h : m'.maxResults = m.maxResults) (limit : Option Int) :
    m'.capOf limit = m.capOf limit := by
  unfold capOf
  rw [h]

/-- What a matcher that was just made knows of its limits. -/
theorem of_make {maxResults maxCacheSize : Int} (h : make maxResults maxCacheSize = .ok m) :
    (m.maxCacheSize : Int) = maxCacheSize ∧ 0 < m.maxCacheSize ∧ m.cache = .empty := by
  unfold make at h
  split_ifs at h with hresults hsize
  cases h
  exact ⟨by dsimp only; omega, by dsimp only; omega, rfl⟩

end Matcher

/-! ## Sessions -/

/-- A call to a matcher.  A set is named by its place among those that the matcher prepared. -/
inductive MatcherCall where
  | index (items : List String) (usage : Table String Int)
  | rankSet (place : Nat) (query : String) (limit : Option Int)
  | rankNames (query : String) (items : List String) (usage : Table String Int)
    (limit : Option Int)
  | clearCache

/-- The names that calls have sets prepared of, each with their usage. -/
def namesPrepared (calls : List MatcherCall) : List (List String × Table String Int) :=
  calls.filterMap fun c =>
    match c with
    | .index items usage => some (items, usage)
    | _ => none

/-- What a search comes to in the plain list of its names, where `made` holds those of the prepared
sets. -/
def MatcherCall.answerAnew (m : Matcher) (made : List (List String × Table String Int)) :
    MatcherCall → Option (Except MatchError (List Ranked))
  | .rankSet place query limit =>
    made[place]?.map fun names => m.rankNames query names.1 names.2 limit
  | .rankNames query items usage limit => some (m.rankNames query items usage limit)
  | _ => none

/-- A matcher with the sets that it prepared, the earliest first. -/
structure Session where
  matcher : Matcher
  sets : List CandidateSet

namespace Session

/-- The answer of a call, if it is a search, and what it leaves behind. -/
def call (s : Session) : MatcherCall → Option (Except MatchError (List Ranked)) × Session
  | .index items usage =>
    let after := s.matcher.index items usage
    (none, ⟨after.2, s.sets ++ [after.1]⟩)
  | .rankSet place query limit =>
    match s.sets[place]? with
    | none => (none, s)
    | some set =>
      let after := s.matcher.rankSet query set limit
      (some after.1, ⟨after.2, s.sets⟩)
  | .rankNames query items usage limit => (some (s.matcher.rankNames query items usage limit), s)
  | .clearCache => (none, ⟨s.matcher.clearCache, s.sets⟩)

/-- What calls lead to, one after another. -/
def after (s : Session) (calls : List MatcherCall) : Session :=
  calls.foldl (fun s c => (s.call c).2) s

/-- Whether a session goes on from a matcher with all in order: its sets hold the given names, and
its results are right and not too many. -/
structure Sound (m : Matcher) (made : List (List String × Table String Int)) (s : Session) :
    Prop where
  within : m.Within s.matcher
  candidates_eq : s.sets.map (·.candidates) = made.map fun n => n.1.map (Candidate.ofName n.2)
  remembers : ∃ prepared, s.matcher.Remembers prepared ∧
    ∀ set ∈ s.sets, Matcher.Prepared prepared s.matcher set

variable {m : Matcher} {made : List (List String × Table String Int)} {s : Session}

theorem sound_start (h : m.cache = .empty) : Sound m [] ⟨m, []⟩ where
  within := ⟨rfl, rfl, by rw [Matcher.cacheSize, h]; exact Nat.zero_le _⟩
  candidates_eq := rfl
  remembers := ⟨fun _ => [], Matcher.remembers_of_cache_eq_empty _ h, nofun⟩

namespace Sound

/-- The set at a place holds the names that it was prepared of. -/
theorem getElem?_sets (h : s.Sound m made) (place : Nat) :
    s.sets[place]?.map (·.candidates) =
      made[place]?.map fun n => n.1.map (Candidate.ofName n.2) := by
  rw [← List.getElem?_map, h.candidates_eq, List.getElem?_map]

/-- A search in a prepared set that may go on. -/
theorem rankCapped (h : s.Sound m made) {set : CandidateSet} (hset : set ∈ s.sets)
    (query : String) (cap : Nat) :
    (s.matcher.rankCapped query set cap).1 = topMatches query cap set.candidates ∧
      Sound m made ⟨(s.matcher.rankCapped query set cap).2, s.sets⟩ := by
  obtain ⟨prepared, hremembers, hprepared⟩ := h.remembers
  obtain ⟨hresult, hafter, hnext⟩ := hremembers.rankCapped_eq (hprepared set hset) query cap
  refine ⟨hresult, h.within.rankCapped query set cap, h.candidates_eq, prepared, hafter, ?_⟩
  exact fun other hother => (hprepared other hother).grows ⟨Nat.le_of_eq hnext.symm, fun _ _ => rfl⟩

/-- **One call** answers as if nothing were remembered and leaves all in order. -/
theorem call (h : s.Sound m made) (c : MatcherCall) :
    (s.call c).1 = c.answerAnew m made ∧ (s.call c).2.Sound m (made ++ namesPrepared [c]) := by
  have hnames (query : String) (items : List String) (usage : Table String Int)
      (limit : Option Int) :
      s.matcher.rankNames query items usage limit = m.rankNames query items usage limit := by
    rw [Matcher.rankNames, Matcher.rankNames, Matcher.capOf_congr h.within.maxResults_eq]
  cases c with
  | index items usage =>
    obtain ⟨prepared, hremembers, hprepared⟩ := h.remembers
    obtain ⟨hgrows, hafter, hnew⟩ := hremembers.index items usage
    refine ⟨rfl, ⟨h.within.maxResults_eq, h.within.maxCacheSize_eq, h.within.size_le⟩, ?_, _,
      hafter, ?_⟩
    · rw [Session.call, List.map_append, List.map_append, h.candidates_eq]
      rfl
    · intro set hset
      rcases List.mem_append.mp hset with hset | hset
      · exact (hprepared set hset).grows hgrows
      · rw [List.mem_singleton.mp hset]
        exact hnew
  | rankSet place query limit =>
    have hsame : made ++ namesPrepared [.rankSet place query limit] = made := List.append_nil _
    have hplace := h.getElem?_sets place
    rw [hsame, Session.call, MatcherCall.answerAnew]
    cases hset : s.sets[place]? with
    | none =>
      rw [hset, Option.map_none] at hplace
      rw [Option.map_eq_none_iff.mp hplace.symm]
      exact ⟨rfl, h⟩
    | some set =>
      rw [hset, Option.map_some] at hplace
      obtain ⟨names, hmade, hcandidates⟩ := Option.map_eq_some_iff.mp hplace.symm
      rw [hmade, Option.map_some, Matcher.rankNames]
      dsimp only
      rw [Matcher.rankSet, Matcher.capOf_congr h.within.maxResults_eq]
      cases hcap : m.capOf limit with
      | error e => exact ⟨rfl, h⟩
      | ok cap =>
        obtain ⟨hresult, hafter⟩ := h.rankCapped (List.mem_of_getElem? hset) query cap
        exact ⟨congrArg (some ∘ Except.ok) (hresult.trans (by rw [hcandidates])), hafter⟩
  | rankNames query items usage limit =>
    rw [show made ++ namesPrepared [.rankNames query items usage limit] = made from
      List.append_nil _]
    exact ⟨congrArg some (hnames query items usage limit), h⟩
  | clearCache =>
    obtain ⟨prepared, -, hprepared⟩ := h.remembers
    rw [show made ++ namesPrepared [.clearCache] = made from List.append_nil _]
    refine ⟨rfl, ⟨h.within.maxResults_eq, h.within.maxCacheSize_eq, Nat.zero_le _⟩,
      h.candidates_eq, prepared, Matcher.remembers_of_cache_eq_empty _ rfl, fun set hset => ?_⟩
    exact ⟨(hprepared set hset).version_lt, (hprepared set hset).candidates_eq⟩

/-- **Any calls** leave all in order. -/
theorem after (h : s.Sound m made) (calls : List MatcherCall) :
    (s.after calls).Sound m (made ++ namesPrepared calls) := by
  induction calls generalizing s made with
  | nil =>
    rw [show made ++ namesPrepared [] = made from List.append_nil _]
    exact h
  | cons c rest ih =>
    have hmade : made ++ namesPrepared (c :: rest) =
        made ++ namesPrepared [c] ++ namesPrepared rest := by
      rw [List.append_assoc, namesPrepared, namesPrepared, namesPrepared, ← List.filterMap_append]
      rfl
    rw [hmade]
    exact ih (h.call c).2

end Sound

/-- **What is remembered does not show, is bounded and lasts.**  After any calls to a new matcher, a
search comes to what it comes to in the plain list of its names; no more results are remembered than
the ceiling allows; and a search in a prepared set leaves its result among those that are remembered,
unless the set is empty, the query blank or the limit refused. -/
theorem call_after {maxResults maxCacheSize : Int} {m : Matcher}
    (h : Matcher.make maxResults maxCacheSize = .ok m) (calls : List MatcherCall)
    (c : MatcherCall) :
    let s := (Session.mk m []).after calls
    (s.call c).1 = c.answerAnew m (namesPrepared calls) ∧
    ((s.call c).2.matcher.cacheSize : Int) ≤ maxCacheSize ∧
    ∀ place query limit, c = .rankSet place query limit →
      ∀ names cap, (namesPrepared calls)[place]? = some names → m.capOf limit = .ok cap →
        names.1 ≠ [] → (fold query).toList.all isBlank = false →
          ∃ set, s.sets[place]? = some set ∧
            (s.call c).2.matcher.cache.get? (fold query, set.version, cap) =
              some (topMatches query cap (names.1.map (Candidate.ofName names.2))) := by
  intro s
  obtain ⟨hceiling, hpos, hempty⟩ := Matcher.of_make h
  have hs : s.Sound m (namesPrepared calls) := (sound_start hempty).after calls
  obtain ⟨hanswer, hafter⟩ := hs.call c
  refine ⟨hanswer, by have := hafter.within.size_le; omega, ?_⟩
  rintro place query limit rfl names cap hnames hcap hsome hquery
  have hplace := hs.getElem?_sets place
  rw [hnames, Option.map_some] at hplace
  obtain ⟨set, hset, hcandidates⟩ := Option.map_eq_some_iff.mp hplace
  have hsize : 0 < s.matcher.maxCacheSize := hs.within.maxCacheSize_eq ▸ hpos
  have hfilled : set.candidates ≠ [] := by
    rw [hcandidates]
    exact mt List.map_eq_nil_iff.mp hsome
  have hcapped : s.matcher.capOf limit = .ok cap :=
    (Matcher.capOf_congr hs.within.maxResults_eq limit).trans hcap
  refine ⟨set, hset, ?_⟩
  rw [← hcandidates, ← (hs.rankCapped (List.mem_of_getElem? hset) query cap).1,
    ← Matcher.get?_rankCapped hsize query hfilled hquery cap]
  simp only [Session.call, hset, Matcher.rankSet, hcapped]

/-- A matcher that remembers one result is asked for two sets in turn; the second search drops the
result of the first and keeps its own. -/
theorem call_after_two_sets :
    let calls : List MatcherCall := [.index ["cash", "card"] .empty, .index ["cat"] .empty,
      .rankSet 0 "ca" none]
    let search : MatcherCall := .rankSet 1 "ca" (some 3)
    ∃ m, Matcher.make 50 1 = .ok m ∧
      (let s := (Session.mk m []).after calls
      (s.call search).1 = some (m.rankNames "ca" ["cat"] .empty (some 3)) ∧
      ((s.call search).2.matcher.cacheSize : Int) ≤ 1 ∧
      s.matcher.cacheSize = 1 ∧
      ∃ set, s.sets[1]? = some set ∧
        (s.call search).2.matcher.cache.get? (fold "ca", set.version, 3) =
          some (topMatches "ca" 3 (["cat"].map (Candidate.ofName .empty)))) := by
  intro calls search
  obtain ⟨hanswer, hsize, hlasts⟩ := call_after (rfl : Matcher.make 50 1 = .ok _) calls search
  exact ⟨_, rfl, hanswer, hsize, by decide +kernel,
    hlasts 1 "ca" (some 3) rfl (["cat"], .empty) 3 rfl rfl (by decide) (by decide +kernel)⟩

end Session

end Daybook.Search
