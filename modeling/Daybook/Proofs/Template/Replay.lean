import Daybook.Proofs.Template.Ring
import Daybook.Proofs.Template.Store

/-!
# Uses one after another

A template that is given up forgets its uses, and when its accounts are used again it starts from one.
What it counts is therefore not all uses of its key but those since it was last there anew.  The ring of
recently used keys forgets nothing when a template is given up, so it can hold uses from before.

* `Template.tableAfter`: the templates of a payee after uses, one after another.
* `Template.CountedSince`: whether a template was there anew with the first of the later uses and was
  not given up since.  `Template.exists_countedSince`: every template counts the uses since then.
* `Template.count_rtake_append_le_iff`: when the last members of a list hold a key no more often than
  the back part of the list does.
-/

namespace Daybook.Template

open Journal

/-- The templates of a payee after uses, one after another. -/
def tableAfter (payee : String) (uses : List Transaction) : TemplateTable :=
  uses.foldl (fun t u => prune (recordUse payee u.date u.postings t)) .empty

theorem tableAfter_concat (payee : String) (uses : List Transaction) (u : Transaction) :
    tableAfter payee (uses ++ [u]) =
      prune (recordUse payee u.date u.postings (tableAfter payee uses)) := by
  rw [tableAfter, List.foldl_append, List.foldl_cons, List.foldl_nil, tableAfter]

/-- Whether the template of a key was not there before the later uses and was there after each of
them. -/
structure CountedSince (payee k : String) (earlier later : List Transaction) : Prop where
  absent : (tableAfter payee earlier).contains k = false
  kept : ∀ n, 0 < n → n ≤ later.length →
    (tableAfter payee (earlier ++ later.take n)).contains k

variable {payee k : String} {earlier later uses : List Transaction} {u : Transaction}
  {tm : Template}

theorem CountedSince.singleton (h : (tableAfter payee uses).contains k = false)
    (hlast : (tableAfter payee (uses ++ [u])).contains k) : CountedSince payee k uses [u] where
  absent := h
  kept n hpos hn := by
    have hone : n = 1 := le_antisymm hn hpos
    rw [hone]
    exact hlast

theorem CountedSince.concat (h : CountedSince payee k earlier later)
    (hlast : (tableAfter payee (earlier ++ (later ++ [u]))).contains k) :
    CountedSince payee k earlier (later ++ [u]) where
  absent := h.absent
  kept n hpos hn := by
    rcases Nat.lt_or_ge later.length n with hlong | hshort
    · have hall : (later ++ [u]).length ≤ n := by
        rw [List.length_append, List.length_singleton]
        exact hlong
      rw [List.take_of_length_le hall]
      exact hlast
    · rw [List.take_append_of_le_length hshort]
      exact h.kept n hpos hshort

/-- **A template counts the uses since it was last there anew.** -/
theorem exists_countedSince (h : (tableAfter payee uses).get? k = some tm) :
    ∃ earlier later, uses = earlier ++ later ∧ CountedSince payee k earlier later ∧
      tm.usageCount = later.countP (·.templateKey = k) := by
  induction uses using List.reverseRecOn generalizing tm with
  | nil => cases h
  | append_singleton uses u ih =>
    have hlast : (tableAfter payee (uses ++ [u])).contains k := Table.contains_of_get?_eq_some h
    rw [tableAfter_concat] at h
    have hcounted := get?_of_get?_evict h
    rw [recordUse_eq, Table.get?_alter] at hcounted
    split at hcounted
    · -- The use is one of the key: it goes on counting, or the template is there anew.
      rename_i hk
      cases hold : (tableAfter payee uses).get? u.templateKey with
      | none =>
        rw [hold] at hcounted
        refine ⟨uses, [u], rfl, .singleton ?_ hlast, ?_⟩
        · rw [hk, Table.contains, hold]
          rfl
        · rw [← Option.some.inj hcounted, hk]
          simp [Table.joinTo, ofUse]
      | some old =>
        rw [hold] at hcounted
        obtain ⟨earlier, later, rfl, hsince, hcount⟩ := ih (hk ▸ hold)
        rw [List.append_assoc] at hlast
        refine ⟨earlier, later ++ [u], List.append_assoc .., hsince.concat hlast, ?_⟩
        rw [← Option.some.inj hcounted, List.countP_append, ← hcount]
        simp [Table.joinTo, joinUse, ofUse, hk]
    · rename_i hk
      obtain ⟨earlier, later, rfl, hsince, hcount⟩ := ih hcounted
      rw [List.append_assoc] at hlast
      refine ⟨earlier, later ++ [u], List.append_assoc .., hsince.concat hlast, ?_⟩
      rw [List.countP_append, ← hcount]
      simp [Ne.symm hk]

/-! ## Keys in the ring -/

theorem rtake_append {α : Type} (n : Nat) (l l' : List α) :
    (l ++ l').rtake n = l.rtake (n - l'.length) ++ l'.rtake n := by
  simp only [List.rtake_eq_reverse_take_reverse, List.reverse_append, List.take_append,
    List.length_reverse]

/-- The last members of a list hold a key no more often than the back part of the list, unless they
reach a key in the front part. -/
theorem count_rtake_append_le_iff (n : Nat) (l l' : List String) (k : String) :
    ((l ++ l').rtake n).count k ≤ l'.count k ↔ k ∉ l.rtake (n - l'.length) := by
  rw [rtake_append, List.count_append, ← List.count_eq_zero]
  rcases Nat.lt_or_ge n l'.length with hlong | hshort
  · have hsub : (l'.rtake n).count k ≤ l'.count k := (List.drop_sublist _ _).count_le k
    rw [Nat.sub_eq_zero_of_le hlong.le, List.rtake_zero, List.count_nil, Nat.zero_add]
    exact iff_of_true hsub rfl
  · have hall : l'.rtake n = l' := by
      rw [List.rtake, Nat.sub_eq_zero_of_le hshort, List.drop_zero]
    rw [hall]
    omega

end Daybook.Template
