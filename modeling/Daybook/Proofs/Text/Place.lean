import Daybook.Pattern
import Daybook.Proofs.Text.Trim

/-!
# Where parts of a text stand

* `StandsAt`: whether a part stands at a position of a text.
* `StandsAt.trans`: a part of a part stands further to the right.
* `StandsAt.slice_eq`, `standsAt_slice`: what is cut out of a text.
* `standsAt_trimChars`: what trimming leaves.
-/

namespace Daybook.Text

variable {text part inner : List Char} {pos i : Nat}

/-- Whether `part` stands at position `pos` of a text. -/
def StandsAt (text : List Char) (pos : Nat) (part : List Char) : Prop :=
  ∃ before after, text = before ++ (part ++ after) ∧ before.length = pos

theorem standsAt_self (text : List Char) : StandsAt text 0 text :=
  ⟨[], [], (List.append_nil text).symm, rfl⟩

theorem standsAt_append (before part : List Char) : StandsAt (before ++ part) before.length part :=
  ⟨before, [], by rw [List.append_nil], rfl⟩

/-- A part of a part. -/
theorem StandsAt.trans (h : StandsAt text pos part) (h' : StandsAt part i inner) :
    StandsAt text (pos + i) inner := by
  obtain ⟨before, after, rfl, rfl⟩ := h
  obtain ⟨before', after', rfl, rfl⟩ := h'
  exact ⟨before ++ before', after' ++ after, by simp only [List.append_assoc],
    List.length_append⟩

/-- A part ends within the text. -/
theorem StandsAt.add_length_le (h : StandsAt text pos part) : pos + part.length ≤ text.length := by
  obtain ⟨before, after, rfl, rfl⟩ := h
  simp only [List.length_append]
  omega

/-- What is cut out where a part stands. -/
theorem StandsAt.slice_eq (h : StandsAt text pos part) :
    Match.slice text pos (pos + part.length) = part := by
  obtain ⟨before, after, rfl, rfl⟩ := h
  rw [Match.slice, List.drop_left, Nat.add_sub_cancel_left, List.take_left]

/-- What is cut out stands where it was cut out. -/
theorem standsAt_slice {start : Nat} (h : start ≤ text.length) (stop : Nat) :
    StandsAt text start (Match.slice text start stop) := by
  refine ⟨text.take start, (text.drop start).drop (stop - start), ?_, ?_⟩
  · rw [Match.slice, List.take_append_drop, List.take_append_drop]
  · rw [List.length_take, Nat.min_eq_left h]

/-- What trimming leaves stands behind the blanks in front. -/
theorem standsAt_trimChars (cs : List Char) : StandsAt cs (leadingBlanks cs) (trimChars cs) := by
  obtain ⟨blanks, hblanks⟩ : trimChars cs <+: trimStart cs := List.rdropWhile_prefix isBlank _
  refine ⟨cs.takeWhile isBlank, blanks, ?_, rfl⟩
  rw [hblanks, trimStart, List.takeWhile_append_dropWhile]

end Daybook.Text
