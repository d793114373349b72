import Daybook.Text.Letter
import Daybook.Text.Trim

/-!
# Tags in comments

A comment or note can hold tags `key:value`.  A key stands at the start or after a comma or a blank;
its value runs up to the next comma.

* `TagMatch`: a tag with the places of its key and its value.
* `findTags`: the tags of a comment, from left to right.
-/

namespace Daybook.Journal

open Text

/-- Whether a character can start a tag key. -/
def startsTagKey (c : Char) : Bool :=
  isWord c && !isDigit c

/-- Whether a character can continue a tag key. -/
def continuesTagKey (c : Char) : Bool :=
  isWord c || c == '-'

/-- A tag inside a comment. -/
structure TagMatch where
  key : List Char
  /-- Where the key starts. -/
  keyStart : Nat
  /-- The text up to the next comma. -/
  value : List Char
deriving DecidableEq, Repr

/-- Where the value of a tag starts. -/
def TagMatch.valueStart (m : TagMatch) : Nat :=
  m.keyStart + m.key.length + 1

/-- The tag that starts at position `pos`, where `cs` stands, with what follows it. -/
def tagAt? (pos : Nat) (cs : List Char) : Option (TagMatch × List Char) :=
  match cs with
  | [] => none
  | c :: _ =>
    if startsTagKey c then
      let key := cs.takeWhile continuesTagKey
      match cs.dropWhile continuesTagKey with
      | ':' :: rest =>
        let value := rest.takeWhile (· != ',')
        some (⟨key, pos, value⟩, rest.dropWhile (· != ','))
      | _ => none
    else none

/-- What follows a tag is shorter than what the tag starts. -/
theorem length_lt_of_tagAt? {pos : Nat} {cs rest : List Char} {m : TagMatch}
    (h : tagAt? pos cs = some (m, rest)) : rest.length < cs.length := by
  unfold tagAt? at h
  split at h
  · simp at h
  · rename_i c cs
    split at h
    · simp only at h
      split at h
      · rename_i rest' heq
        simp only [Option.some.injEq, Prod.mk.injEq] at h
        have h1 := length_dropWhile_le continuesTagKey (c :: cs)
        rw [heq] at h1
        have h2 := length_dropWhile_le (fun x => x != ',') rest'
        rw [← h.2]
        simp only [List.length_cons] at h1 ⊢
        omega
      · simp at h
    · simp at h

/-- The tags from position `pos` on; `mayStart` says whether a key may start there.  A tag is followed
by a comma or the end, so no key starts right after it. -/
def findTagsFrom (pos : Nat) (mayStart : Bool) (cs : List Char) : List TagMatch :=
  match h : if mayStart then tagAt? pos cs else none with
  | some (m, rest) =>
    m :: findTagsFrom (m.valueStart + m.value.length) false rest
  | none =>
    match cs with
    | [] => []
    | c :: rest => findTagsFrom (pos + 1) (c == ',' || isBlank c) rest
termination_by cs.length
decreasing_by
  · split at h
    · exact length_lt_of_tagAt? h
    · simp at h
  · simp

/-- The tags of a comment. -/
def findTags (cs : List Char) : List TagMatch :=
  findTagsFrom 0 true cs

end Daybook.Journal
