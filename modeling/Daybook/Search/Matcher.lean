import Daybook.Search.Candidates

/-!
# The matcher

A matcher ranks candidates for queries and remembers the results for sets that it prepared itself.
When it remembers too many, it forgets the oldest quarter.

* `Matcher`: the state; `Matcher.make`.
* `Matcher.index`: prepares a set of names.
* `Matcher.rankCapped`, `Matcher.rankSet`: the best matches in a prepared set.
* `Matcher.rankNames`: the best matches in a plain list.
* `rankOnce`: the best matches without a matcher.
-/

namespace Daybook.Search

open Text

/-- What results are remembered by: the folded query, the version of the set and the cap. -/
abbrev CacheKey := String × Nat × Nat

/-- A matcher. -/
structure Matcher where
  /-- The cap of a request that gives none. -/
  maxResults : Nat
  maxCacheSize : Nat
  /-- The version of the next set. -/
  nextVersion : Nat
  /-- The remembered results, the oldest first. -/
  cache : Table CacheKey (List Ranked)

/-- Why a request is refused. -/
inductive MatchError where
  | badMaxResults
  | badMaxCacheSize
  | badLimit
deriving DecidableEq, Repr

/-- The wording of an error. -/
def MatchError.message : MatchError → String
  | badMaxResults => "max_results must be a positive integer"
  | badMaxCacheSize => "max_cache_size must be a positive integer"
  | badLimit => "limit must be a positive integer"

namespace Matcher

/-- The cap of a matcher that is not told one. -/
def standardMaxResults : Int := 50

/-- The number of results that a matcher remembers if it is not told. -/
def standardMaxCacheSize : Int := 1000

/-- A matcher that remembers nothing yet. -/
def make (maxResults maxCacheSize : Int) : Except MatchError Matcher :=
  if maxResults < 1 then .error .badMaxResults
  else if maxCacheSize < 1 then .error .badMaxCacheSize
  else .ok ⟨maxResults.toNat, maxCacheSize.toNat, 1, .empty⟩

/-- Prepares a set of names. -/
def index (m : Matcher) (items : List String) (usage : Table String Int) :
    CandidateSet × Matcher :=
  (.ofNames items usage m.nextVersion, { m with nextVersion := m.nextVersion + 1 })

/-- The number of remembered results. -/
def cacheSize (m : Matcher) : Nat :=
  m.cache.size

/-- Forgets all results. -/
def clearCache (m : Matcher) : Matcher :=
  { m with cache := .empty }

/-- Forgets the oldest quarter of the results, at least one, if there are too many. -/
def shrink (maxSize : Nat) (cache : Table CacheKey (List Ranked)) : Table CacheKey (List Ranked) :=
  if maxSize < cache.size then ⟨cache.entries.drop ((cache.size + 3) / 4)⟩ else cache

/-- Remembers a result. -/
def store (m : Matcher) (key : CacheKey) (result : List Ranked) : Matcher :=
  { m with cache := shrink m.maxCacheSize (m.cache.insert key result) }

/-- The cap of a request. -/
def capOf (m : Matcher) (limit : Option Int) : Except MatchError Nat :=
  match limit with
  | none => .ok m.maxResults
  | some n => if n < 1 then .error .badLimit else .ok n.toNat

end Matcher

/-- The answer to a blank query: the first names, without a score. -/
def unranked (cap : Nat) (candidates : List Candidate) : List Ranked :=
  (candidates.take cap).map fun c => ⟨c.item, 0⟩

/-- The best `cap` matches of a query, computed anew. -/
def topMatches (query : String) (cap : Nat) (candidates : List Candidate) : List Ranked :=
  if candidates.isEmpty then []
  else
    let q := (fold query).toList
    if q.all isBlank then unranked cap candidates else (rankAll q candidates).take cap

namespace Matcher

/-- The best `cap` matches of a query in a set that this matcher prepared. -/
def rankCapped (m : Matcher) (query : String) (set : CandidateSet) (cap : Nat) :
    List Ranked × Matcher :=
  if set.candidates.isEmpty then ([], m)
  else
    let folded := fold query
    let q := folded.toList
    if q.all isBlank then (unranked cap set.candidates, m)
    else
      let key := (folded, set.version, cap)
      match m.cache.get? key with
      | some result => (result, m)
      | none =>
        let result := (rankAll q set.candidates).take cap
        (result, m.store key result)

/-- The best matches of a query in a set that this matcher prepared, up to a limit. -/
def rankSet (m : Matcher) (query : String) (set : CandidateSet) (limit : Option Int) :
    Except MatchError (List Ranked) × Matcher :=
  match m.capOf limit with
  | .error e => (.error e, m)
  | .ok cap =>
    let (result, m') := m.rankCapped query set cap
    (.ok result, m')

/-- The best matches of a query in a plain list, which are not remembered. -/
def rankNames (m : Matcher) (query : String) (items : List String) (usage : Table String Int)
    (limit : Option Int) : Except MatchError (List Ranked) :=
  match m.capOf limit with
  | .error e => .error e
  | .ok cap => .ok (topMatches query cap (items.map (Candidate.ofName usage)))

end Matcher

/-- The best matches of a query in a plain list; without a cap, all of them. -/
def rankOnce (query : String) (items : List String) (usage : Table String Int)
    (maxResults : Option Int) : Except MatchError (List Ranked) :=
  match Matcher.make (maxResults.getD (max 1 items.length)) Matcher.standardMaxCacheSize with
  | .error e => .error e
  | .ok m => m.rankNames query items usage none

end Daybook.Search
