import Daybook.Text.Trim
import Mathlib.Data.List.Basic

/-!
# The pieces of a text

* `splitAt_append`: a separator between two texts keeps their pieces apart.
* `forall_mem_splitAt_iff`: which characters the pieces have; `not_mem_of_mem_splitAt`: no piece holds a
  separator.
* `splitAt_intercalate`, `intercalate_splitAt`: texts that are joined have the pieces of each of them,
  and the pieces of a text can be joined to the text again.
-/

namespace Daybook.Text

theorem splitAt_cons (separator c : Char) (cs : List Char) :
    splitAt separator (c :: cs) =
      if c = separator then [] :: splitAt separator cs
      else (c :: (splitAt separator cs).headD []) :: (splitAt separator cs).tail :=
  rfl

theorem splitAt_ne_nil (separator : Char) (cs : List Char) : splitAt separator cs ≠ [] := by
  cases cs with
  | nil => exact List.cons_ne_nil _ _
  | cons c cs =>
    rw [splitAt_cons]
    split <;> exact List.cons_ne_nil _ _

/-- A separator between two texts keeps their pieces apart. -/
theorem splitAt_append (separator : Char) (cs cs' : List Char) :
    splitAt separator (cs ++ separator :: cs') =
      splitAt separator cs ++ splitAt separator cs' := by
  induction cs with
  | nil => rw [List.nil_append, splitAt_cons, if_pos rfl]; rfl
  | cons c cs ih =>
    rw [List.cons_append, splitAt_cons, splitAt_cons, ih]
    split
    · rfl
    · cases hpieces : splitAt separator cs with
      | nil => exact absurd hpieces (splitAt_ne_nil separator cs)
      | cons piece pieces => rfl

/-- A text without separators is one piece. -/
theorem splitAt_of_not_mem {separator : Char} {cs : List Char} (h : separator ∉ cs) :
    splitAt separator cs = [cs] := by
  induction cs with
  | nil => rfl
  | cons c cs ih =>
    rw [List.mem_cons, not_or] at h
    rw [splitAt_cons, if_neg (Ne.symm h.1), ih h.2]
    rfl

/-- All pieces of a text have only certain characters if it has no others besides separators. -/
theorem forall_mem_splitAt_iff {separator : Char} {cs : List Char} {p : Char → Prop} :
    (∀ piece ∈ splitAt separator cs, ∀ c ∈ piece, p c) ↔ ∀ c ∈ cs, c = separator ∨ p c := by
  induction cs with
  | nil =>
    refine iff_of_true (fun piece hpiece c hc => ?_) fun c hc => nomatch hc
    rw [List.mem_singleton.mp hpiece] at hc
    cases hc
  | cons c cs ih =>
    rw [splitAt_cons, List.forall_mem_cons, ← ih]
    by_cases hc : c = separator
    · rw [if_pos hc, List.forall_mem_cons]
      exact ⟨fun h => ⟨.inl hc, h.2⟩, fun h => ⟨List.forall_mem_nil _, h.2⟩⟩
    · rw [if_neg hc, or_iff_right hc]
      cases hpieces : splitAt separator cs with
      | nil => exact absurd hpieces (splitAt_ne_nil separator cs)
      | cons piece pieces =>
        rw [List.headD_cons, List.tail_cons, List.forall_mem_cons, List.forall_mem_cons,
          List.forall_mem_cons, and_assoc]

/-- No piece of a text holds the character that the text is cut at. -/
theorem not_mem_of_mem_splitAt {separator : Char} {cs piece : List Char}
    (h : piece ∈ splitAt separator cs) : separator ∉ piece := by
  have hall : ∀ piece ∈ splitAt separator cs, ∀ c ∈ piece, c ≠ separator :=
    forall_mem_splitAt_iff.mpr fun c _ => em (c = separator)
  exact fun hmem => hall piece h separator hmem rfl

/-- Texts that are joined have the pieces of each of them. -/
theorem splitAt_intercalate (separator : Char) {texts : List (List Char)} (h : texts ≠ []) :
    splitAt separator ([separator].intercalate texts) = texts.flatMap (splitAt separator) := by
  induction texts with
  | nil => exact absurd rfl h
  | cons text texts ih =>
    cases texts with
    | nil => rw [List.intercalate_singleton, List.flatMap_singleton]
    | cons next texts =>
      rw [List.intercalate_cons_cons, List.append_assoc, List.singleton_append, splitAt_append,
        ih (List.cons_ne_nil next texts)]
      rfl

/-- The pieces of a text can be joined to the text again. -/
theorem intercalate_splitAt (separator : Char) (cs : List Char) :
    [separator].intercalate (splitAt separator cs) = cs := by
  induction cs with
  | nil => rfl
  | cons c cs ih =>
    rw [splitAt_cons]
    cases hpieces : splitAt separator cs with
    | nil => exact absurd hpieces (splitAt_ne_nil separator cs)
    | cons piece pieces =>
      rw [hpieces] at ih
      split
      · rename_i hc
        rw [List.intercalate_cons_cons, ih, hc]
        rfl
      · rw [List.headD_cons, List.tail_cons, ← ih]
        cases pieces with
        | nil => simp only [List.intercalate_singleton]
        | cons next pieces => simp only [List.intercalate_cons_cons, List.cons_append]

/-- Texts with the same pieces are the same. -/
theorem splitAt_injective (separator : Char) : Function.Injective (splitAt separator) :=
  Function.LeftInverse.injective (intercalate_splitAt separator)

end Daybook.Text
