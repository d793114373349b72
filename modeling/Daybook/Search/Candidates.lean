import Daybook.Search.Score
import Daybook.Table

/-!
# Candidates

Names that a query is matched against, prepared once for many queries.

* `Candidate`: a name with its folded form, its collation key and its usage.
* `CandidateSet`: candidates with a version by which results are remembered.
* `holders`: which candidates hold a character.
* `CandidateSet.indicesFor`: the candidates that hold every character of a query.
* `rankAll`: all candidates that match a query, the best first.
-/

namespace Daybook.Search

open Text

/-- A name that can be offered. -/
structure Candidate where
  item : String
  folded : List Char
  collation : CollationKey
  /-- How often the name is used. -/
  usage : Int
deriving DecidableEq, Repr

/-- A name prepared for matching. -/
def Candidate.ofName (usage : Table String Int) (item : String) : Candidate :=
  ⟨item, (fold item).toList, collationKey item, (usage.get? item).getD 0⟩

/-- Candidates with a version that no other set of the same matcher has. -/
structure CandidateSet where
  candidates : List Candidate
  version : Nat
deriving DecidableEq, Repr

/-- A set of names. -/
def CandidateSet.ofNames (items : List String) (usage : Table String Int) (version : Nat) :
    CandidateSet :=
  ⟨items.map (Candidate.ofName usage), version⟩

/-! ## The candidates that hold a character -/

/-- Adds a candidate to those that hold each of some characters. -/
def addHolder (index : Nat) (held : Table Char (List Nat)) (cs : List Char) :
    Table Char (List Nat) :=
  cs.foldl (fun t c => t.alter c fun known => known.getD [] ++ [index]) held

/-- For each character, the candidates whose folded form holds it, by their places in the list. -/
def holders (candidates : List Candidate) : Table Char (List Nat) :=
  candidates.zipIdx.foldl (fun t c => addHolder c.2 t (placesOf c.1.folded).keys) .empty

/-- The places of the candidates that hold every character of a folded query.  Those that hold one
character stand in ascending order, and so do those that they have in common. -/
def indicesIn (candidates : List Candidate) (query : List Char) : List Nat :=
  let held := holders candidates
  match query.eraseDups.mapM fun c => held.get? c with
  | none => []
  | some [] => List.range candidates.length
  | some (first :: others) => first.filter fun i => others.all (·.contains i)

/-- The places of the candidates that hold every character of a folded query, ascending. -/
def CandidateSet.indicesFor (s : CandidateSet) (query : List Char) : List Nat :=
  indicesIn s.candidates query

/-! ## Ranking -/

/-- A name with its score. -/
structure Ranked where
  item : String
  score : Rat
deriving DecidableEq, Repr

/-- Whether a scored candidate comes before another or is level with it: the better score first, then
the more used, then by collation. -/
def scoredLe (a b : Rat × Candidate) : Bool :=
  if a.1 ≠ b.1 then b.1 < a.1
  else if a.2.usage ≠ b.2.usage then b.2.usage < a.2.usage
  else a.2.collation.le b.2.collation

/-- The candidates that match a folded query, each with its score, in the order of the list. -/
def scoredMatches (query : List Char) (candidates : List Candidate) : List (Rat × Candidate) :=
  let found := candidates.toArray
  (indicesIn candidates query).filterMap fun i => do
    let c ← found[i]?
    let s ← score? query c.folded
    return (s, c)

/-- All candidates that match a folded query, the best first. -/
def rankAll (query : List Char) (candidates : List Candidate) : List Ranked :=
  ((scoredMatches query candidates).mergeSort scoredLe).map fun r => ⟨r.2.item, r.1⟩

end Daybook.Search
