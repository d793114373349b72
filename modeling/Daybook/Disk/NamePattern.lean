import Daybook.Text.Trim

/-!
# Patterns for names

A star stands for any characters, a question mark for one, and brackets for one of a set.

* `NamePiece`: a part of a pattern; `readPattern`: the parts of a written pattern.
* `setRanges`: the ranges of characters that brackets hold.
* `acceptsName`: whether a name fits a pattern.
* `hasWildcard`: whether a text is a pattern at all.
-/

namespace Daybook

open Text

/-- A part of a pattern. -/
inductive NamePiece where
  /-- Any number of characters. -/
  | run
  /-- Any one character. -/
  | any
  | char (c : Char)
  /-- One character that is in one of the ranges or, if `negated`, in none. -/
  | set (negated : Bool) (ranges : List (Char × Char))
deriving DecidableEq, Repr

/-- Whether a text holds a character that makes it a pattern. -/
def hasWildcard (text : String) : Bool :=
  text.toList.any fun c => c == '*' || c == '?' || c == '['

/-! ## Brackets -/

/-- What stands between an opening bracket and the closing one, and what follows.  A closing bracket
in front, perhaps behind an exclamation mark, does not close. -/
def bracketBody? (cs : List Char) : Option (List Char × List Char) :=
  let front := if cs.head? = some '!' then 1 else 0
  let front := if (cs.drop front).head? = some ']' then front + 1 else front
  match (cs.drop front).dropWhile (· != ']') with
  | [] => none
  | _ :: rest => some (cs.take front ++ (cs.drop front).takeWhile (· != ']'), rest)

/-- What follows the closing bracket is shorter than what follows the opening one. -/
theorem length_of_bracketBody? {cs body rest : List Char}
    (h : bracketBody? cs = some (body, rest)) : rest.length < cs.length := by
  unfold bracketBody? at h
  simp only at h
  split at h
  · simp at h
  · rename_i x tail heq
    simp only [Option.some.injEq, Prod.mk.injEq] at h
    have hle := length_dropWhile_le (· != ']')
      (cs.drop (if (cs.drop (if cs.head? = some '!' then 1 else 0)).head? = some ']'
        then (if cs.head? = some '!' then 1 else 0) + 1 else if cs.head? = some '!' then 1 else 0))
    rw [heq] at hle
    simp only [List.length_cons, List.length_drop] at hle
    rw [← h.2]
    omega

/-- Cuts the inside of brackets at the hyphens that make ranges: those with at least `least`
characters in front of them, and two after the hyphen before. -/
def rangeChunks (least : Nat) (cs : List Char) : List (List Char) :=
  match _h : (cs.drop least).dropWhile (· != '-') with
  | [] => [cs]
  | _ :: rest =>
    (cs.take least ++ (cs.drop least).takeWhile (· != '-')) :: rangeChunks 2 rest
termination_by cs.length
decreasing_by
  have hle := length_dropWhile_le (· != '-') (cs.drop least)
  rw [_h] at hle
  simp only [List.length_cons, List.length_drop] at hle
  omega

/-- Chunks of which the last is not empty: a hyphen at the end stands for itself. -/
def closeChunks : List (List Char) → List (List Char)
  | [] => []
  | [chunk] => [chunk]
  | [chunk, []] => [chunk ++ ['-']]
  | chunk :: rest => chunk :: closeChunks rest

/-- Chunks without the ranges whose ends are in the wrong order. -/
def dropEmptyRanges : List (List Char) → List (List Char)
  | [] => []
  | chunk :: rest =>
    match dropEmptyRanges rest, chunk.getLast? with
    | (first :: next) :: others, some last =>
      if first < last then (chunk.dropLast ++ next) :: others
      else chunk :: (first :: next) :: others
    | others, _ => chunk :: others

/-- The ranges of characters in a row, where `none` is a hyphen between the ends of a range. -/
def rowRanges : List (Option Char) → List (Char × Char)
  | [] => []
  | some a :: none :: some b :: rest => (a, b) :: rowRanges rest
  | some a :: rest => (a, a) :: rowRanges rest
  | none :: rest => ('-', '-') :: rowRanges rest

/-- The characters in a row, with `none` between chunks. -/
def chunkRow : List (List Char) → List (Option Char)
  | [] => []
  | [chunk] => chunk.map some
  | chunk :: rest => chunk.map some ++ none :: chunkRow rest

/-- The set that the inside of brackets stands for.  An exclamation mark in front negates it. -/
def bracketSet (body : List Char) : NamePiece :=
  let least := if body.head? = some '!' then 2 else 1
  match chunkRow (dropEmptyRanges (closeChunks (rangeChunks least body))) with
  | some '!' :: rest => .set true (rowRanges rest)
  | row => .set false (rowRanges row)

/-! ## Patterns -/

/-- The parts of a written pattern.  A bracket that nothing closes stands for itself. -/
def readPattern (cs : List Char) : List NamePiece :=
  match cs with
  | [] => []
  | c :: rest =>
    if c = '*' then .run :: readPattern rest
    else if c = '?' then .any :: readPattern rest
    else if c = '[' then
      match _h : bracketBody? rest with
      | none => .char '[' :: readPattern rest
      | some (body, after) => bracketSet body :: readPattern after
    else .char c :: readPattern rest
termination_by cs.length
decreasing_by
  all_goals simp only [List.length_cons]
  all_goals first
    | omega
    | exact Nat.lt_succ_of_lt (length_of_bracketBody? _h)

/-- Whether a part that stands for one character admits a character. -/
def NamePiece.admits (c : Char) : NamePiece → Bool
  | run => false
  | any => true
  | char x => x == c
  | set negated ranges => (ranges.any fun r => r.1 ≤ c && c ≤ r.2) != negated

/-- The ends of a text, the whole first. -/
def textEnds : List Char → List (List Char)
  | [] => [[]]
  | c :: rest => (c :: rest) :: textEnds rest

/-- What can be left of a text behind one more part, where `rests` are the ends of the text that can
be left in front of it.  The longest comes first, and all ends of it follow a run. -/
def NamePiece.leave (rests : List (List Char)) : NamePiece → List (List Char)
  | run =>
    match rests with
    | [] => []
    | longest :: _ => textEnds longest
  | piece =>
    rests.filterMap fun cs =>
      match cs with
      | [] => none
      | c :: rest => if piece.admits c then some rest else none

/-- Whether characters fit the parts of a pattern, from the first to the last. -/
def acceptsChars (pieces : List NamePiece) (cs : List Char) : Bool :=
  (pieces.foldl NamePiece.leave [cs]).any (·.isEmpty)

/-- Whether a name is hidden. -/
def isHidden (name : String) : Bool :=
  name.toList.head? == some '.'

/-- Whether a name fits a pattern.  A hidden name only fits a pattern that starts with a dot. -/
def acceptsName (pattern name : String) : Bool :=
  (isHidden pattern || !isHidden name) &&
    acceptsChars (readPattern pattern.toList) name.toList

end Daybook
