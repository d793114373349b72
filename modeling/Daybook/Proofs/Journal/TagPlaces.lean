import Daybook.Journal.Tag
import Daybook.Proofs.Text.Place

/-!
# Where the tags of a comment stand

* `tagAt?_eq_some`: the text that a tag is read from.
* `exists_standsAt_of_mem_findTagsFrom`: every tag stands where it says.
* `pairwise_findTagsFrom`: the tags of a comment stand one behind the other.
* `findTags_eq_trimStart`: no tag starts among the blanks in front.
-/

namespace Daybook.Journal

open Text

/-- The text of a tag: its key, a colon and its value. -/
def TagMatch.text (m : TagMatch) : List Char :=
  m.key ++ ':' :: m.value

/-- Where a tag ends. -/
def TagMatch.stop (m : TagMatch) : Nat :=
  m.valueStart + m.value.length

theorem TagMatch.stop_eq (m : TagMatch) : m.stop = m.keyStart + m.text.length := by
  rw [stop, valueStart, text, List.length_append, List.length_cons]
  omega

theorem TagMatch.standsAt_key (m : TagMatch) : StandsAt m.text 0 m.key :=
  ⟨[], ':' :: m.value, rfl, rfl⟩

theorem TagMatch.standsAt_value (m : TagMatch) : StandsAt m.text (m.key.length + 1) m.value := by
  have h := standsAt_append (m.key ++ [':']) m.value
  rw [List.length_append, List.append_assoc] at h
  exact h

variable {pos : Nat} {cs : List Char} {mayStart : Bool}

/-- A tag is read from the text in front of the rest. -/
theorem tagAt?_eq_some {rest : List Char} {m : TagMatch} (h : tagAt? pos cs = some (m, rest)) :
    m.keyStart = pos ∧ cs = m.text ++ rest := by
  unfold tagAt? at h
  split at h
  · cases h
  split at h
  · dsimp only at h
    split at h
    · rename_i x xs _ behind hbehind
      cases h
      refine ⟨rfl, ?_⟩
      rw [TagMatch.text, List.append_assoc, List.cons_append, List.takeWhile_append_dropWhile,
        ← hbehind, List.takeWhile_append_dropWhile]
    · cases h
  · cases h

/-- A tag that is found stands in front of the rest, if one may start there at all. -/
theorem eq_of_tagAt?_if {rest : List Char} {m : TagMatch}
    (h : (if mayStart then tagAt? pos cs else none) = some (m, rest)) :
    m.keyStart = pos ∧ cs = m.text ++ rest := by
  split at h
  · exact tagAt?_eq_some h
  · cases h

/-- **Every tag stands where it says.** -/
theorem exists_standsAt_of_mem_findTagsFrom :
    ∀ m ∈ findTagsFrom pos mayStart cs, ∃ i, m.keyStart = pos + i ∧ StandsAt cs i m.text := by
  fun_induction findTagsFrom pos mayStart cs with
  | case1 pos mayStart cs first rest h ih =>
    obtain ⟨hfirst, rfl⟩ := eq_of_tagAt?_if h
    intro m hm
    rcases List.mem_cons.mp hm with rfl | hm
    · exact ⟨0, hfirst, [], rest, rfl, rfl⟩
    · obtain ⟨i, hi, hplace⟩ := ih m hm
      refine ⟨first.text.length + i, ?_, (standsAt_append first.text rest).trans hplace⟩
      rw [hi, ← hfirst, ← Nat.add_assoc, ← first.stop_eq, TagMatch.stop]
  | case2 => nofun
  | case3 pos mayStart c rest h ih =>
    intro m hm
    obtain ⟨i, hi, hplace⟩ := ih m hm
    exact ⟨1 + i, by rw [hi, Nat.add_assoc], (standsAt_append [c] rest).trans hplace⟩

/-- **Tags stand one behind the other.** -/
theorem pairwise_findTagsFrom :
    (findTagsFrom pos mayStart cs).Pairwise fun m n => m.stop ≤ n.keyStart := by
  fun_induction findTagsFrom pos mayStart cs with
  | case1 pos mayStart cs first rest h ih =>
    refine List.pairwise_cons.mpr ⟨fun m hm => ?_, ih⟩
    obtain ⟨i, hi, -⟩ := exists_standsAt_of_mem_findTagsFrom m hm
    rw [hi]
    exact Nat.le_add_right _ _
  | case2 => exact .nil
  | case3 pos mayStart c rest h ih => exact ih

theorem pairwise_findTags (cs : List Char) :
    (findTags cs).Pairwise fun m n => m.stop ≤ n.keyStart :=
  pairwise_findTagsFrom

/-! ## Blanks in front -/

/-- No blank can stand inside a word. -/
theorem isWord_of_isBlank {c : Char} (h : isBlank c = true) : isWord c = false := by
  have hcodes : ∀ n ∈ blankCodes, isWord (Char.ofNat n) = false := by decide +kernel
  have hno := hcodes c.toNat (toNat_mem_blankCodes h)
  rwa [Char.ofNat_toNat] at hno

theorem findTagsFrom_cons_of_isBlank {c : Char} (h : isBlank c = true) (pos : Nat)
    (cs : List Char) : findTagsFrom pos true (c :: cs) = findTagsFrom (pos + 1) true cs := by
  have hnone : tagAt? pos (c :: cs) = none := if_neg (by
    rw [startsTagKey, isWord_of_isBlank h, Bool.false_and]
    decide)
  rw [findTagsFrom]
  split
  · rename_i hsome
    rw [if_pos rfl, hnone] at hsome
    cases hsome
  · dsimp only
    rw [h, Bool.or_true]

theorem findTagsFrom_append_of_isBlank {blanks : List Char} (h : ∀ x ∈ blanks, isBlank x = true)
    (pos : Nat) (cs : List Char) :
    findTagsFrom pos true (blanks ++ cs) = findTagsFrom (pos + blanks.length) true cs := by
  induction blanks generalizing pos with
  | nil => rfl
  | cons x xs ih =>
    rw [List.cons_append, findTagsFrom_cons_of_isBlank (h x List.mem_cons_self),
      ih fun y hy => h y (List.mem_cons_of_mem _ hy), List.length_cons]
    congr 1
    omega

/-- **No tag starts among the blanks in front of a comment.** -/
theorem findTags_eq_trimStart (cs : List Char) :
    findTags cs = findTagsFrom (leadingBlanks cs) true (trimStart cs) := by
  have hblank : ∀ x ∈ cs.takeWhile isBlank, isBlank x = true := fun _ => List.mem_takeWhile_imp
  have hfront := findTagsFrom_append_of_isBlank hblank 0 (cs.dropWhile isBlank)
  rw [List.takeWhile_append_dropWhile, Nat.zero_add] at hfront
  exact hfront

/-- Every tag of a comment stands where it says, behind the blanks in front. -/
theorem standsAt_of_mem_findTags {m : TagMatch} (h : m ∈ findTags cs) :
    leadingBlanks cs ≤ m.keyStart ∧ StandsAt cs m.keyStart m.text := by
  rw [findTags_eq_trimStart] at h
  obtain ⟨i, hi, hplace⟩ := exists_standsAt_of_mem_findTagsFrom m h
  have hstart := standsAt_append (cs.takeWhile isBlank) (cs.dropWhile isBlank)
  rw [List.takeWhile_append_dropWhile] at hstart
  exact ⟨hi ▸ Nat.le_add_right _ _, hi ▸ hstart.trans hplace⟩

end Daybook.Journal
