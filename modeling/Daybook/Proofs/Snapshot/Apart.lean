import Daybook.Proofs.Snapshot.Totals
import Mathlib.Data.List.Pairwise

/-!
# Merging texts that have nothing in common

A text is left out of a merged list only if its fingerprint is there already.  Where no two texts
have a common fingerprint, none is left out: the transactions stand one after another, and all
counts are added up.

* `Snapshot.Apart`: whether two snapshots have no fingerprint in common.
* `Snapshot.transactions_mergeAll_of_apart`, `Snapshot.addsUp_mergeAll_of_apart`: texts that have
  nothing in common, merged.
-/

namespace Daybook

namespace Snapshot

variable {s s' : Snapshot} {l : List Snapshot}

/-- Whether two snapshots have no fingerprint in common. -/
def Apart (s t : Snapshot) : Prop :=
  ∀ f ∈ s.sources, f ∉ t.sources

instance (s t : Snapshot) : Decidable (s.Apart t) :=
  inferInstanceAs (Decidable (∀ f ∈ s.sources, f ∉ t.sources))

instance : Std.Symm Apart where
  symm _ _ h f hf' hf := h f hf hf'

/-- Members of a list without a common fingerprint are the same if they share one. -/
theorem eq_of_mem_sources (hapart : l.Pairwise Apart) (hs : s ∈ l) (hs' : s' ∈ l) {f : String}
    (hf : f ∈ s.sources) (hf' : f ∈ s'.sources) : s = s' := by
  by_contra hne
  exact hapart.forall hs hs' hne f hf hf'

section

variable (htext : ∀ s ∈ l, ∃ options text, ofText options text = .ok s) (hapart : l.Pairwise Apart)
include htext hapart

theorem TextFamily.of_pairwise_apart : TextFamily {s | s ∈ l} where
  exists_text := htext
  same s hs t ht hsources := by
    obtain ⟨options, text, hof⟩ := htext s hs
    obtain ⟨f, hf⟩ := Snapshot.exists_sources_eq hof
    have hmem : f ∈ s.sources := hf ▸ List.mem_singleton_self f
    rw [eq_of_mem_sources hapart hs ht hmem (hsources ▸ hmem)]
    exact same_self_of_reachable (.ofText (htext t ht).choose_spec.choose_spec)

/-- **Each text counts once**: the counts of a merged list are those of all its members added up. -/
theorem addsUp_mergeAll_of_apart : AddsUp (mergeAll l) l := by
  have hfamily := TextFamily.of_pairwise_apart htext hapart
  refine ListsOnce.addsUp_mergeAll hfamily (fun _ hs => hs) ⟨?_, fun _ hs => hs, fun s hs =>
    ⟨s, hs, same_self_of_reachable (hfamily.reachable hs)⟩⟩
  refine hapart.imp_of_mem fun {s t} hs ht hapart hsame => ?_
  obtain ⟨f, hf⟩ := hfamily.exists_sources_eq hs
  have hmem : f ∈ s.sources := hf ▸ List.mem_singleton_self f
  exact hapart f hmem (((sameTotals_of_same (hfamily.reachable hs) hsame).sources f).mp hmem)

/-- The transactions of a merged list are those of its members, one after another. -/
theorem transactions_mergeAll_of_apart :
    (mergeAll l).transactions = l.flatMap (·.transactions) := by
  induction l using List.reverseRecOn with
  | nil => rfl
  | append_singleton l s ih =>
    rw [List.forall_mem_append, List.forall_mem_singleton] at htext
    obtain ⟨hl, -, hlast⟩ := List.pairwise_append.mp hapart
    obtain ⟨options, text, hof⟩ := htext.2
    obtain ⟨f, hf⟩ := Snapshot.exists_sources_eq hof
    have hnew : f ∉ (mergeAll l).sources := by
      rw [mem_sources_mergeAll]
      rintro ⟨t, ht, hft⟩
      exact hlast t ht s (List.mem_singleton_self s) f hft (hf ▸ List.mem_singleton_self f)
    rcases sources_mergeAll_concat hf l with ⟨hmem, -⟩ | ⟨hadded, -⟩
    · exact absurd hmem hnew
    · rw [hadded, transactions_absorb, ih htext.1 hl, List.flatMap_append, List.flatMap_singleton]

end

end Snapshot

end Daybook
