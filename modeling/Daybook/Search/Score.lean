import Daybook.Table
import Daybook.Text.Collation

/-!
# Scores

How well a query fits a name.  Scores fall into three bands, so that a weaker kind of match never
outranks a stronger one: equality, the start of the name, and a subsequence of it.  Query and name
are compared in their folded form.

A subsequence is looked up by the places of the characters of the name.  For each place at which the
query can start, its other characters are taken one after another, each at its first place behind the
one before.  Starts are tried from the left, and the first one that fails ends the search, because a
later start leaves fewer characters to the right.

* `placesOf`: the places of the characters of a name.
* `gapBehind`: the characters that are skipped when a query is read off a name from a given start.
* `bestPoints`: the best value of a subsequence over all places where it can start.
* `score?`: the score of a name, if it matches at all.
-/

namespace Daybook.Search

/-- The score of a name that equals the query. -/
def exactScore : Rat := 3000

/-- The least score of a name that starts with the query. -/
def prefixBase : Rat := 2000

/-- The value of a subsequence without gaps that starts late and inside a word. -/
def subsequenceBase : Int := 1000

/-- What a subsequence gains by starting at the start of a word. -/
def boundaryBonus : Int := 5

/-- Whether a word starts behind a character. -/
def endsWord (c : Char) : Bool :=
  c == ' ' || c == '-' || c == '_' || c == ':' || c == '/'

/-- Whether a word starts at a place of a text. -/
def startsWord (text : List Char) (place : Nat) : Bool :=
  place == 0 || text[place - 1]?.any endsWord

/-! ## Places -/

/-- The characters of a text, each with the places at which it stands, in order. -/
abbrev Places := Table Char (List Nat)

/-- Adds the places of the characters that stand from place `pos` on. -/
def addPlaces (pos : Nat) (places : Places) : List Char → Places
  | [] => places
  | c :: cs => addPlaces (pos + 1) (places.alter c fun known => known.getD [] ++ [pos]) cs

/-- The places of the characters of a text. -/
def placesOf (text : List Char) : Places :=
  addPlaces 0 .empty text

/-- The places of one character. -/
def placesAt (places : Places) (c : Char) : List Nat :=
  (places.get? c).getD []

/-- How many of some ascending places do not lie behind `pos`. -/
def countUpTo (pos : Nat) (places : List Nat) : Nat :=
  (places.takeWhile (· ≤ pos)).length

/-! ## Subsequences -/

/-- How many characters are skipped when characters are read off a text behind place `pos`, each at
its first place behind the one before; `gap` were skipped already.  `none` if one is missing. -/
def gapBehind (places : Places) (pos gap : Nat) : List Char → Option Nat
  | [] => some gap
  | c :: cs =>
    let found := placesAt places c
    match found[countUpTo pos found]? with
    | none => none
    | some next => gapBehind places next (gap + (next - pos - 1)) cs

/-- The value of a subsequence that starts at place `start` and skips `gap` characters. -/
def points (start gap : Nat) (atWord : Bool) : Int :=
  subsequenceBase - gap + (10 - start : Nat) + if atWord then boundaryBonus else 0

/-- The greater of a value and another one, if there is any. -/
def raise (best : Option Int) (value : Int) : Int :=
  match best with
  | none => value
  | some b => max b value

/-- The best value of a query with the characters `cs` behind its first one, over the places of the
first one up to the first that fails; `best` is the best value so far. -/
def bestPoints (text : List Char) (places : Places) (cs : List Char) (best : Option Int) :
    List Nat → Option Int
  | [] => best
  | start :: later =>
    match gapBehind places start 0 cs with
    | none => best
    | some gap =>
      bestPoints text places cs (raise best (points start gap (startsWord text start))) later

/-- The score of a folded name for a folded query; `none` if the query is not a subsequence of the
name. -/
def score? (query name : List Char) : Option Rat :=
  if name = query then some exactScore
  else if query.isPrefixOf name then some (prefixBase + 900 / (name.length : Rat))
  else
    match query with
    | [] => none
    | c :: cs =>
      let places := placesOf name
      (bestPoints name places cs none (placesAt places c)).map fun p => ((max 1 p : Int) : Rat)

end Daybook.Search
