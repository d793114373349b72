import Daybook.Proofs.Search.Ranking
import Daybook.Proofs.Snapshot.TopTemplates
import Daybook.Snapshot.Query

/-!
# The order of templates

The templates of a payee are listed by how often they were used lately, then by how often they were
used at all, then by the day of their last use, and at last by their keys.  No two of them are level,
because a snapshot keeps each template under its own key; so the list is the same in whatever order the
templates came in, and sorting by one thing after another, the least important one first, leads to it
as well.

* `Snapshot.recentUses`: how often a key is among the recently used ones of a payee.
* `Template.relevance`, `Snapshot.templateLe_iff`: what templates are listed by.
* `Snapshot.sortedInTurn`: templates sorted by one thing after another.
* `Snapshot.templatesFor_perm`, `Snapshot.pairwise_templatesFor`: what is listed, and in which order.
* `Snapshot.eq_templatesFor`: a list of the same templates in the same order is the same list.
-/

namespace Daybook

open Text Calendar Template

/-! ## Recent uses -/

namespace Snapshot

/-- How often a key is among the recently used ones of a payee. -/
def recentUses (s : Snapshot) (payee key : String) : ℕ :=
  (((s.recent.get? payee).map RecentKeys.keys).getD []).count key

end Snapshot

/-! ## What templates are listed by -/

/-- What templates are listed by, one after another: the recent uses, all uses and the day of the last
use, each the greater first, and the key. -/
def Template.relevance (recent : ℕ) (t : Template) : ℕᵒᵈ ×ₗ ℕᵒᵈ ×ₗ Stringᵒᵈ ×ₗ String :=
  toLex (OrderDual.toDual recent, toLex (OrderDual.toDual t.usageCount,
    toLex (OrderDual.toDual t.lastUsed.iso, t.key)))

theorem Template.key_eq_of_relevance_eq {m n : ℕ} {a b : Template}
    (h : a.relevance m = b.relevance n) : a.key = b.key := by
  simp only [relevance, toLex_inj, Prod.mk.injEq] at h
  exact h.2.2.2

namespace Snapshot

variable {recent : Template → ℕ} {a b : Template} {ts ts' : List Template}

theorem templateLe_iff : templateLe recent a b ↔ a.relevance (recent a) ≤ b.relevance (recent b) := by
  simp only [relevance, Prod.Lex.toLex_le_toLex, OrderDual.toDual_lt_toDual,
    EmbeddingLike.apply_eq_iff_eq]
  rw [Date.iso_lt_iso_iff, templateLe]
  by_cases hrecent : recent a = recent b
  · by_cases hcount : a.usageCount = b.usageCount
    · by_cases hday : a.lastUsed = b.lastUsed
      · have hsame : ¬b.lastUsed.lt b.lastUsed := fun h =>
          lt_irrefl _ (Date.iso_lt_iso_iff.mpr h)
        simp [hrecent, hcount, hday, hsame]
      · have hiso : a.lastUsed.iso ≠ b.lastUsed.iso := mt Date.iso_inj hday
        simp [hrecent, hcount, hday, hiso]
    · simp [hrecent, hcount]
  · simp [hrecent]

theorem templateLe_trans (a b c : Template) (hab : templateLe recent a b)
    (hbc : templateLe recent b c) : templateLe recent a c := by
  rw [templateLe_iff] at *
  exact hab.trans hbc

theorem templateLe_total (a b : Template) : templateLe recent a b || templateLe recent b a := by
  rw [Bool.or_eq_true, templateLe_iff, templateLe_iff]
  exact total_of (· ≤ ·) _ _

/-- Whether no two templates have the same key. -/
abbrev KeysApart (ts : List Template) : Prop :=
  (ts.map Template.key).Nodup

/-- **Templates with different keys stand in one order.** -/
theorem eq_of_perm_of_pairwise (hkeys : KeysApart ts) (hperm : ts.Perm ts')
    (h : ts.Pairwise fun a b => a.relevance (recent a) ≤ b.relevance (recent b))
    (h' : ts'.Pairwise fun a b => a.relevance (recent a) ≤ b.relevance (recent b)) : ts = ts' := by
  refine List.Perm.eq_of_pairwise (fun a b ha hb hab hba => ?_) h h' hperm
  have hkey := Template.key_eq_of_relevance_eq (le_antisymm hab hba)
  exact List.inj_on_of_nodup_map hkeys ha (hperm.mem_iff.mpr hb) hkey

/-! ## Sorting by one thing after another -/

/-- Templates sorted by one thing; those that are level stay as they stood. -/
def sortedBy {β : Type} [LinearOrder β] (f : Template → β) (ts : List Template) : List Template :=
  ts.mergeSort fun a b => decide (f a ≤ f b)

theorem pairwise_sortedBy {β : Type} [LinearOrder β] (f : Template → β)
    {r : Template → Template → Prop} (h : ts.Pairwise r) :
    (sortedBy f ts).Pairwise fun a b => f a ≤ f b ∧ (f b ≤ f a → r a b) := by
  have htrans : ∀ a b c, decide (f a ≤ f b) → decide (f b ≤ f c) → decide (f a ≤ f c) :=
    fun a b c hab hbc => decide_eq_true ((of_decide_eq_true hab).trans (of_decide_eq_true hbc))
  have htotal : ∀ a b, decide (f a ≤ f b) || decide (f b ≤ f a) := fun a b => by
    simpa using le_total (f a) (f b)
  have hstable := pairwise_mergeSort_of_pairwise htrans htotal h
  simp only [decide_eq_true_eq] at hstable
  exact hstable

/-- Templates sorted by their keys, then by the days of their last uses, the latest first, and then by
their recent and all uses, the most first. -/
def sortedInTurn (recent : Template → ℕ) (ts : List Template) : List Template :=
  sortedBy (fun t => OrderDual.toDual (toLex (recent t, t.usageCount)))
    (sortedBy (fun t => OrderDual.toDual t.lastUsed.iso) (sortedBy Template.key ts))

theorem perm_sortedInTurn (recent : Template → ℕ) (ts : List Template) :
    (sortedInTurn recent ts).Perm ts :=
  (List.mergeSort_perm _ _).trans ((List.mergeSort_perm _ _).trans (List.mergeSort_perm _ _))

/-- **Each sort leaves its ties to the sorts before it.** -/
theorem pairwise_sortedInTurn (recent : Template → ℕ) (ts : List Template) :
    (sortedInTurn recent ts).Pairwise fun a b =>
      a.relevance (recent a) ≤ b.relevance (recent b) := by
  have hnone : ts.Pairwise fun _ _ => True := List.pairwise_of_forall fun _ _ => trivial
  have hsorted := pairwise_sortedBy (fun t => OrderDual.toDual (toLex (recent t, t.usageCount)))
    (pairwise_sortedBy (fun t => OrderDual.toDual t.lastUsed.iso)
      (pairwise_sortedBy Template.key hnone))
  refine hsorted.imp fun {a b} hab => ?_
  simp only [OrderDual.toDual_le_toDual, Prod.Lex.toLex_le_toLex] at hab
  simp only [Template.relevance, Prod.Lex.toLex_le_toLex, OrderDual.toDual_lt_toDual,
    EmbeddingLike.apply_eq_iff_eq]
  obtain ⟨hfirst, hlevel⟩ := hab
  rcases hfirst with hrecent | ⟨hrecent, hcount⟩
  · exact .inl hrecent
  refine .inr ⟨hrecent.symm, ?_⟩
  rcases hcount.lt_or_eq with hcount | hcount
  · exact .inl hcount
  obtain ⟨hdays, hties⟩ := hlevel (.inr ⟨hrecent.symm, hcount.ge⟩)
  refine .inr ⟨hcount.symm, ?_⟩
  rcases hdays.lt_or_eq with hdays | hdays
  · exact .inl hdays
  · exact .inr ⟨hdays.symm, (hties hdays.ge).1⟩

/-! ## The templates of a payee -/

variable {s : Snapshot}

theorem templatesFor_eq (s : Snapshot) (payee : String) :
    s.templatesFor payee = (s.templateTable (payeeName payee)).values.mergeSort
      (templateLe fun t => s.recentUses (payeeName payee) t.key) := by
  unfold templatesFor
  refine congrArg (fun recent => List.mergeSort _ (templateLe recent)) (funext fun t => ?_)
  unfold recentUses
  cases s.recent.get? (payeeName payee) with
  | none => rfl
  | some ring => exact (ring.count_keys t.key).symm

theorem templatesFor_perm (s : Snapshot) (payee : String) :
    (s.templatesFor payee).Perm (s.templateTable (payeeName payee)).values := by
  rw [templatesFor_eq]
  exact List.mergeSort_perm _ _

/-- **The order of the list.** -/
theorem pairwise_templatesFor (s : Snapshot) (payee : String) :
    (s.templatesFor payee).Pairwise fun a b =>
      a.relevance (s.recentUses (payeeName payee) a.key) ≤
        b.relevance (s.recentUses (payeeName payee) b.key) := by
  rw [templatesFor_eq]
  exact (List.pairwise_mergeSort templateLe_trans templateLe_total _).imp templateLe_iff.mp

theorem keysApart_templatesFor (h : Reachable s) (payee : String) :
    KeysApart (s.templatesFor payee) := by
  have horderly := orderly_templateTable h (payeeName payee)
  rw [KeysApart, ((templatesFor_perm s payee).map _).nodup_iff,
    horderly.keyed.map_values horderly.distinct]
  exact horderly.distinct

/-- **A list of the same templates in the same order is the same list.** -/
theorem eq_templatesFor (h : Reachable s) {payee : String}
    (hperm : ts.Perm (s.templateTable (payeeName payee)).values)
    (hsorted : ts.Pairwise fun a b =>
      a.relevance (s.recentUses (payeeName payee) a.key) ≤
        b.relevance (s.recentUses (payeeName payee) b.key)) :
    ts = s.templatesFor payee :=
  (eq_of_perm_of_pairwise (keysApart_templatesFor h payee)
    ((templatesFor_perm s payee).trans hperm.symm) (pairwise_templatesFor s payee) hsorted).symm

/-- No two templates of a payee are level. -/
theorem pairwise_lt_templatesFor (h : Reachable s) (payee : String) :
    (s.templatesFor payee).Pairwise fun a b =>
      a.relevance (s.recentUses (payeeName payee) a.key) <
        b.relevance (s.recentUses (payeeName payee) b.key) := by
  have hapart := List.pairwise_map.mp (keysApart_templatesFor h payee)
  refine (hapart.and (pairwise_templatesFor s payee)).imp fun {a b} hab => ?_
  exact lt_of_le_of_ne hab.2 fun heq => hab.1 (Template.key_eq_of_relevance_eq heq)

end Snapshot

end Daybook
