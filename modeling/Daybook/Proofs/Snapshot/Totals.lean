import Daybook.Proofs.Snapshot.Pooled

/-!
# Merging a list in any order

The totals of a list of texts merged in one go depend on which texts are in the list, not on their
order or on how often they come.  Which names are known is pooled.  A count is the sum of the counts
of the texts, where each fingerprint counts once: the list of fingerprints in a merged snapshot grows
by exactly those texts that are added.

* `Snapshot.Tallied`: a usage table that is added up when one snapshot is added to another.
* `Snapshot.Tallied.count_mergeAll`: a count of a merged list is a sum over its fingerprints.
* `Snapshot.ListsOnce`, `Snapshot.AddsUp`: the distinct members of a list, and their counts added up.
* `Snapshot.mergeAll_totals`: two lists with the same members have the same totals, and each count is
  the sum over the distinct members.
-/

namespace Daybook

open Calendar

namespace Snapshot

variable {family : Set Snapshot} {s s' a b : Snapshot} {l l' : List Snapshot}

/-! ## Pooled sets -/

namespace Pooled

/-- A member of a set that is united. -/
theorem of_members {field : Snapshot → List String} (hempty : field .empty = [])
    (habsorb : ∀ a b, field (a.absorb b) = uniteMembers (field a) (field b))
    (hcongr : ∀ a b, SameTotals a b → ∀ x, x ∈ field a ↔ x ∈ field b) (x : String) :
    Pooled fun s => x ∈ field s where
  empty := by
    rw [hempty]
    exact List.not_mem_nil
  absorb a b _ := by rw [habsorb, mem_uniteMembers]
  congr a b h := (hcongr a b h x).mp

section Sets

variable {field : Snapshot → Table String (List String)} (hempty : field .empty = .empty)
  (habsorb : ∀ a b, field (a.absorb b) = unite (field a) (field b))
  (hcongr : ∀ a b, SameTotals a b → SameSets (field a) (field b)) (k : String)
include hempty habsorb hcongr

/-- A key of a table of sets. -/
theorem of_contains : Pooled fun s => (field s).contains k where
  empty := by
    rw [hempty]
    exact Bool.false_ne_true
  absorb a b _ := by
    rw [habsorb, unite, Table.contains_foldl_alter (fun e : String × List String => e.1),
      ← Table.keys, ← Table.contains_iff_mem_keys]
  congr a b h := (hcongr a b h k).1.mp

/-- A member of a set in a table. -/
theorem of_mem_get? (hdistinct : ∀ s : Snapshot, s.Distinct → (field s).Distinct) (x : String) :
    Pooled fun s => x ∈ ((field s).get? k).getD [] where
  empty := by
    rw [hempty]
    exact List.not_mem_nil
  absorb a b hb := by rw [habsorb, mem_get?_unite (hdistinct b hb)]
  congr a b h := ((hcongr a b h k).2 x).mp

/-- Fingerprints determine the sets of a table. -/
theorem sameSets_of_sources (hdistinct : ∀ s : Snapshot, s.Distinct → (field s).Distinct)
    (hfamily : TextFamily family) (hs : MergedFrom family s) (hs' : MergedFrom family s')
    (h : ∀ f, f ∈ s.sources ↔ f ∈ s'.sources) : SameSets (field s) (field s') := fun k =>
  ⟨(of_contains hempty habsorb hcongr k).iff_of_sources hfamily hs hs' h, fun x =>
    (of_mem_get? hempty habsorb hcongr k hdistinct x).iff_of_sources hfamily hs hs' h⟩

end Sets

/-- Whether a date was reached. -/
theorem of_lastDate (rank : Nat) :
    Pooled fun s => s.lastDate.any fun date => decide (rank ≤ date.rank) where
  empty := Bool.false_ne_true
  absorb a b _ := by
    rw [absorb_eq]
    refine any_merge (fun x y => ?_) _ _
    have hx := x.rank_le_latest_left y
    have hy := x.rank_le_latest_right y
    rw [Bool.eq_iff_iff, Bool.or_eq_true, decide_eq_true_iff, decide_eq_true_iff,
      decide_eq_true_iff]
    rcases x.latest_eq_or y with h | h <;> rw [h] at hx hy ⊢ <;> omega
  congr a b h hreached := by rwa [← h.lastDate]

end Pooled

/-- The last date is known from the dates that it reaches. -/
theorem lastDate_eq_of_reached {x y : Option Date}
    (h : ∀ rank : Nat, x.any (fun date => decide (rank ≤ date.rank)) ↔
      y.any fun date => decide (rank ≤ date.rank)) : x = y := by
  cases x with
  | none =>
    cases y with
    | none => rfl
    | some y => simpa using h y.rank
  | some x =>
    have hx := h x.rank
    cases y with
    | none => simp at hx
    | some y =>
      have hy := h y.rank
      simp only [Option.any_some, decide_eq_true_iff, le_refl, true_iff, iff_true] at hx hy
      rw [Date.eq_of_rank_eq (le_antisymm hx hy)]

/-! ## Counts -/

/-- Whether a usage table is added up when one snapshot is added to another, and depends on totals
alone. -/
structure Tallied {κ : Type} [DecidableEq κ] (field : Snapshot → Tally κ) : Prop where
  empty : field .empty = .empty
  absorb : ∀ a b, field (a.absorb b) = Tally.addAll (field a) (field b)
  distinct : ∀ s, Reachable s → (field s).Distinct
  congr : ∀ a b, SameTotals a b → ∀ k, Table.get? (field a) k = Table.get? (field b) k

theorem tallied_accountUsage : Tallied accountUsage where
  empty := rfl
  absorb a b := by rw [absorb_eq]
  distinct s h := (recounts_of_reachable h).accountUsage.distinct
  congr a b h := h.accountUsage

theorem tallied_commodityUsage : Tallied commodityUsage where
  empty := rfl
  absorb a b := by rw [absorb_eq]
  distinct s h := (recounts_of_reachable h).commodityUsage.distinct
  congr a b h := h.commodityUsage

theorem tallied_payeeUsage : Tallied payeeUsage where
  empty := rfl
  absorb a b := by rw [absorb_eq]
  distinct s h := (recounts_of_reachable h).payeeUsage.distinct
  congr a b h := h.payeeUsage

theorem tallied_tagUsage : Tallied tagUsage where
  empty := rfl
  absorb a b := by rw [absorb_eq]
  distinct s h := (recounts_of_reachable h).tagUsage.distinct
  congr a b h := h.tagUsage

theorem tallied_tagValueUsage : Tallied tagValueUsage where
  empty := rfl
  absorb a b := by rw [absorb_eq]
  distinct s h := (recounts_of_reachable h).tagValueUsage.distinct
  congr a b h := h.tagValueUsage

theorem tallied_payeeAccountUsage : Tallied payeeAccountUsage where
  empty := rfl
  absorb a b := by rw [absorb_eq]
  distinct s h := (recounts_of_reachable h).payeeAccountUsage.distinct
  congr a b h := h.payeeAccountUsage

theorem nodup_uniteMembers {xs : List String} (h : xs.Nodup) (ys : List String) :
    (uniteMembers xs ys).Nodup := by
  unfold uniteMembers
  induction ys generalizing xs with
  | nil => exact h
  | cons y ys ih => exact ih h.insert

theorem nodup_sources_mergeAll (l : List Snapshot) : (mergeAll l).sources.Nodup := by
  induction l using List.reverseRecOn with
  | nil => exact List.nodup_nil
  | append_singleton l s ih =>
    rw [mergeAll_concat]
    split
    · exact ih
    · rw [absorb_eq]
      exact nodup_uniteMembers ih _

/-- Texts that are added bring one new fingerprint each. -/
theorem sources_mergeAll_concat {f : String} (hf : s.sources = [f]) (l : List Snapshot) :
    (f ∈ (mergeAll l).sources ∧ mergeAll (l ++ [s]) = mergeAll l) ∨
      mergeAll (l ++ [s]) = (mergeAll l).absorb s ∧
        (mergeAll (l ++ [s])).sources = f :: (mergeAll l).sources := by
  have hpart : s.isPartOf (mergeAll l) ↔ f ∈ (mergeAll l).sources := by
    simp [isPartOf_iff, hf]
  rw [mergeAll_concat]
  by_cases hmem : f ∈ (mergeAll l).sources
  · exact .inl ⟨hmem, if_pos (hpart.mpr hmem)⟩
  · rw [if_neg (mt hpart.mp hmem)]
    refine .inr ⟨rfl, ?_⟩
    rw [absorb_eq, hf]
    exact List.insert_of_not_mem hmem

namespace Tallied

variable {κ : Type} [DecidableEq κ] {field : Snapshot → Tally κ}

theorem pooled (h : Tallied field) (k : κ) : Pooled fun s => (field s).contains k where
  empty := by
    rw [h.empty]
    exact Bool.false_ne_true
  absorb a b _ := by rw [h.absorb, Tally.contains_addAll]
  congr a b hsame hk := by
    rw [Table.contains] at hk ⊢
    rwa [← h.congr a b hsame]

/-- In a family of texts a fingerprint stands for a count. -/
theorem exists_weight (h : Tallied field) (hfamily : TextFamily family) (k : κ) :
    ∃ weight : String → Nat, ∀ s ∈ family, ∀ f, s.sources = [f] → (field s).count k = weight f := by
  have hone (f : String) : ∃ n, ∀ s ∈ family, s.sources = [f] → (field s).count k = n := by
    by_cases hknown : ∃ s ∈ family, s.sources = [f]
    · obtain ⟨s, hs, hf⟩ := hknown
      refine ⟨(field s).count k, fun t ht htf => ?_⟩
      have hsame := hfamily.sameTotals ht hs fun g hg => by rwa [hf, ← htf]
      rw [Tally.count, Tally.count, h.congr t s hsame]
    · exact ⟨0, fun s hs hf => absurd ⟨s, hs, hf⟩ hknown⟩
  choose weight hweight using hone
  exact ⟨weight, fun s hs f hf => hweight f s hs hf⟩

variable {weight : String → Nat} {k : κ}

/-- **A count of a merged list** is the sum of what its fingerprints stand for. -/
theorem count_mergeAll (h : Tallied field) (hfamily : TextFamily family)
    (hweight : ∀ s ∈ family, ∀ f, s.sources = [f] → (field s).count k = weight f)
    (hl : ∀ s ∈ l, s ∈ family) :
    (field (mergeAll l)).count k = ((mergeAll l).sources.map weight).sum := by
  induction l using List.reverseRecOn with
  | nil =>
    show (field .empty).count k = 0
    rw [h.empty]
    rfl
  | append_singleton l s ih =>
    rw [List.forall_mem_append, List.forall_mem_singleton] at hl
    obtain ⟨f, hf⟩ := hfamily.exists_sources_eq hl.2
    rcases sources_mergeAll_concat hf l with ⟨-, hkept⟩ | ⟨hadded, hsources⟩
    · rw [hkept]
      exact ih hl.1
    · rw [hsources, List.map_cons, List.sum_cons, ← hweight s hl.2 f hf, ← ih hl.1, hadded, h.absorb,
        Tally.count_addAll (h.distinct s (hfamily.reachable hl.2)), Nat.add_comm]

end Tallied

/-! ## Distinct members -/

/-- Whether a list has every member of another one, and none twice. -/
structure ListsOnce (once l : List Snapshot) : Prop where
  pairwise : once.Pairwise fun s t => ¬s.same t
  subset : ∀ s ∈ once, s ∈ l
  covers : ∀ s ∈ l, ∃ t ∈ once, s.same t

/-- Whether every count of a snapshot is the sum of the counts of others. -/
structure AddsUp (s : Snapshot) (parts : List Snapshot) : Prop where
  accountUsage : ∀ name,
    s.accountUsage.count name = (parts.map fun part => part.accountUsage.count name).sum
  commodityUsage : ∀ symbol,
    s.commodityUsage.count symbol = (parts.map fun part => part.commodityUsage.count symbol).sum
  payeeUsage : ∀ payee,
    s.payeeUsage.count payee = (parts.map fun part => part.payeeUsage.count payee).sum
  tagUsage : ∀ key, s.tagUsage.count key = (parts.map fun part => part.tagUsage.count key).sum
  tagValueUsage : ∀ tag,
    s.tagValueUsage.count tag = (parts.map fun part => part.tagValueUsage.count tag).sum
  payeeAccountUsage : ∀ pair,
    s.payeeAccountUsage.count pair = (parts.map fun part => part.payeeAccountUsage.count pair).sum

theorem exists_listsOnce (hl : ∀ s ∈ l, Reachable s) : ∃ once, ListsOnce once l := by
  induction l with
  | nil => exact ⟨[], .nil, nofun, nofun⟩
  | cons s rest ih =>
    rw [List.forall_mem_cons] at hl
    obtain ⟨once, honce⟩ := ih hl.2
    have hsub : ∀ t ∈ once, t ∈ s :: rest := fun t ht => List.mem_cons_of_mem s (honce.subset t ht)
    by_cases hs : ∃ t ∈ once, s.same t
    · exact ⟨once, honce.pairwise, hsub, List.forall_mem_cons.mpr ⟨hs, honce.covers⟩⟩
    · refine ⟨s :: once, List.pairwise_cons.mpr ⟨fun t ht h => hs ⟨t, ht, h⟩, honce.pairwise⟩,
        List.forall_mem_cons.mpr ⟨List.mem_cons_self, hsub⟩, List.forall_mem_cons.mpr ⟨?_, ?_⟩⟩
      · exact ⟨s, List.mem_cons_self, same_self_of_reachable hl.1⟩
      · intro t ht
        obtain ⟨u, hu, htu⟩ := honce.covers t ht
        exact ⟨u, List.mem_cons_of_mem s hu, htu⟩

/-- The fingerprints of the distinct members of a list are those of the list merged, in some order. -/
theorem ListsOnce.perm_sources (hfamily : TextFamily family) (hl : ∀ s ∈ l, s ∈ family)
    {once : List Snapshot} (h : ListsOnce once l) :
    (once.flatMap (·.sources)).Perm (mergeAll l).sources := by
  have honce : ∀ s ∈ once, s ∈ family := fun s hs => hl s (h.subset s hs)
  have hnodup : (once.flatMap (·.sources)).Nodup := by
    refine List.nodup_flatMap.mpr ⟨fun s hs => ?_, ?_⟩
    · obtain ⟨f, hf⟩ := hfamily.exists_sources_eq (honce s hs)
      rw [hf]
      exact List.nodup_singleton f
    · refine h.pairwise.imp_of_mem fun {s t} hs ht hne => ?_
      obtain ⟨f, hf⟩ := hfamily.exists_sources_eq (honce s hs)
      obtain ⟨g, hg⟩ := hfamily.exists_sources_eq (honce t ht)
      have hfg : f ≠ g := fun heq =>
        hne (hfamily.same s (honce s hs) t (honce t ht) (by rw [hf, hg, heq]))
      simpa [Function.onFun, hf, hg] using hfg.symm
  refine (List.perm_ext_iff_of_nodup hnodup (nodup_sources_mergeAll l)).mpr fun f => ?_
  rw [List.mem_flatMap, mem_sources_mergeAll]
  constructor
  · rintro ⟨s, hs, hf⟩
    exact ⟨s, h.subset s hs, hf⟩
  · rintro ⟨s, hs, hf⟩
    obtain ⟨t, ht, hsame⟩ := h.covers s hs
    exact ⟨t, ht, ((sameTotals_of_same (hfamily.reachable (hl s hs)) hsame).sources f).mp hf⟩

namespace Tallied

variable {κ : Type} [DecidableEq κ] {field : Snapshot → Tally κ}

/-- Each count of a merged list is the sum over the distinct members. -/
theorem count_mergeAll_eq_sum (h : Tallied field) (hfamily : TextFamily family)
    (hl : ∀ s ∈ l, s ∈ family) {once : List Snapshot} (honce : ListsOnce once l) (k : κ) :
    (field (mergeAll l)).count k = (once.map fun s => (field s).count k).sum := by
  obtain ⟨weight, hweight⟩ := h.exists_weight hfamily k
  have hmap : ∀ parts : List Snapshot, (∀ s ∈ parts, s ∈ family) →
      parts.map (fun s => (field s).count k) = (parts.flatMap (·.sources)).map weight := by
    intro parts hparts
    rw [List.map_flatMap, List.map_eq_flatMap]
    refine List.flatMap_congr fun s hs => ?_
    obtain ⟨f, hf⟩ := hfamily.exists_sources_eq (hparts s hs)
    rw [hf, hweight s (hparts s hs) f hf]
    rfl
  rw [h.count_mergeAll hfamily hweight hl, hmap once fun s hs => hl s (honce.subset s hs)]
  exact ((honce.perm_sources hfamily hl).map weight).sum_nat.symm

/-- Lists with the same fingerprints have the same usage tables. -/
theorem get?_mergeAll_eq (h : Tallied field) (hfamily : TextFamily family)
    (hl : ∀ s ∈ l, s ∈ family) (hl' : ∀ s ∈ l', s ∈ family)
    (hsources : ∀ f, f ∈ (mergeAll l).sources ↔ f ∈ (mergeAll l').sources) (k : κ) :
    Table.get? (field (mergeAll l)) k = Table.get? (field (mergeAll l')) k := by
  refine Tally.get?_eq_of_count_eq ?_ ?_
  · exact (h.pooled k).iff_of_sources hfamily (.mergeAll fun s hs => .part (hl s hs))
      (.mergeAll fun s hs => .part (hl' s hs)) hsources
  · obtain ⟨weight, hweight⟩ := h.exists_weight hfamily k
    have hperm := (List.perm_ext_iff_of_nodup (nodup_sources_mergeAll l)
      (nodup_sources_mergeAll l')).mpr hsources
    rw [h.count_mergeAll hfamily hweight hl, h.count_mergeAll hfamily hweight hl']
    exact (hperm.map weight).sum_nat

end Tallied

/-! ## Totals -/

/-- Lists with the same fingerprints have the same totals. -/
theorem sameTotals_mergeAll (hfamily : TextFamily family) (hl : ∀ s ∈ l, s ∈ family)
    (hl' : ∀ s ∈ l', s ∈ family)
    (h : ∀ f, f ∈ (mergeAll l).sources ↔ f ∈ (mergeAll l').sources) :
    SameTotals (mergeAll l) (mergeAll l') := by
  have hs : MergedFrom family (mergeAll l) := .mergeAll fun s hs => .part (hl s hs)
  have hs' : MergedFrom family (mergeAll l') := .mergeAll fun s hs => .part (hl' s hs)
  have hmembers {field : Snapshot → List String} (hempty : field .empty = [])
      (habsorb : ∀ a b, field (a.absorb b) = uniteMembers (field a) (field b))
      (hcongr : ∀ a b, SameTotals a b → ∀ x, x ∈ field a ↔ x ∈ field b) (x : String) :=
    (Pooled.of_members hempty habsorb hcongr x).iff_of_sources hfamily hs hs' h
  exact
    { sameNames_of_sources hfamily hs hs' h with
      payees := hmembers rfl (fun a b => by rw [absorb_eq]) fun a b h => h.payees
      declaredPayees := hmembers rfl (fun a b => by rw [absorb_eq]) fun a b h => h.declaredPayees
      tags := hmembers rfl (fun a b => by rw [absorb_eq]) fun a b h => h.tags
      tagValues := Pooled.sameSets_of_sources rfl (fun a b => by rw [absorb_eq])
        (fun a b h => h.tagValues) (fun s h => h.tagValues) hfamily hs hs' h
      payeeAccounts := Pooled.sameSets_of_sources rfl (fun a b => by rw [absorb_eq])
        (fun a b h => h.payeeAccounts) (fun s h => h.payeeAccounts) hfamily hs hs' h
      accountUsage := tallied_accountUsage.get?_mergeAll_eq hfamily hl hl' h
      commodityUsage := tallied_commodityUsage.get?_mergeAll_eq hfamily hl hl' h
      payeeUsage := tallied_payeeUsage.get?_mergeAll_eq hfamily hl hl' h
      tagUsage := tallied_tagUsage.get?_mergeAll_eq hfamily hl hl' h
      tagValueUsage := tallied_tagValueUsage.get?_mergeAll_eq hfamily hl hl' h
      payeeAccountUsage := tallied_payeeAccountUsage.get?_mergeAll_eq hfamily hl hl' h
      lastDate := lastDate_eq_of_reached fun rank =>
        (Pooled.of_lastDate rank).iff_of_sources hfamily hs hs' h
      sources := h }

/-- A list of texts merged in one go has the counts of its distinct members added up. -/
theorem ListsOnce.addsUp_mergeAll (hfamily : TextFamily family) (hl : ∀ s ∈ l, s ∈ family)
    {once : List Snapshot} (honce : ListsOnce once l) : AddsUp (mergeAll l) once where
  accountUsage := tallied_accountUsage.count_mergeAll_eq_sum hfamily hl honce
  commodityUsage := tallied_commodityUsage.count_mergeAll_eq_sum hfamily hl honce
  payeeUsage := tallied_payeeUsage.count_mergeAll_eq_sum hfamily hl honce
  tagUsage := tallied_tagUsage.count_mergeAll_eq_sum hfamily hl honce
  tagValueUsage := tallied_tagValueUsage.count_mergeAll_eq_sum hfamily hl honce
  payeeAccountUsage := tallied_payeeAccountUsage.count_mergeAll_eq_sum hfamily hl honce

/-- **Order and repetition do not matter.**  Two lists over a family of texts with the same members,
in whatever order and however often, have the same totals when each is merged in one go.  Every list
has its distinct members, and each count is the sum of theirs. -/
theorem mergeAll_totals (hfamily : TextFamily family) (hl : ∀ s ∈ l, s ∈ family)
    (hl' : ∀ s ∈ l', s ∈ family) (hsub : ∀ s ∈ l, ∃ t ∈ l', s.same t)
    (hsub' : ∀ t ∈ l', ∃ s ∈ l, t.same s) :
    SameTotals (mergeAll l) (mergeAll l') ∧
    (∃ once, ListsOnce once l) ∧ ∀ once, ListsOnce once l → AddsUp (mergeAll l) once := by
  have hsources {l l' : List Snapshot} (hl : ∀ s ∈ l, s ∈ family)
      (hsub : ∀ s ∈ l, ∃ t ∈ l', s.same t) {f : String} (hf : f ∈ (mergeAll l).sources) :
      f ∈ (mergeAll l').sources := by
    obtain ⟨s, hs, hfs⟩ := mem_sources_mergeAll.mp hf
    obtain ⟨t, ht, hsame⟩ := hsub s hs
    have hft := ((sameTotals_of_same (hfamily.reachable (hl s hs)) hsame).sources f).mp hfs
    exact mem_sources_mergeAll.mpr ⟨t, ht, hft⟩
  refine ⟨sameTotals_mergeAll hfamily hl hl' fun f => ⟨hsources hl hsub, hsources hl' hsub'⟩,
    exists_listsOnce fun s hs => hfamily.reachable (hl s hs), fun once honce =>
      honce.addsUp_mergeAll hfamily hl⟩

/-- Two texts with a common account, in two orders and with one of them twice. -/
theorem mergeAll_totals_of_two_texts :
    ∃ a b, ofText .plain "2024-01-05 x\n a  1\n b\n" = .ok a ∧
      ofText .plain "2024-01-06 y\n b  2\n c\n" = .ok b ∧ TextFamily {a, b} ∧
      SameTotals (mergeAll [a, b, a]) (mergeAll [b, a]) ∧ ListsOnce [a, b] [a, b, a] ∧
      AddsUp (mergeAll [a, b, a]) [a, b] ∧ (mergeAll [a, b, a]).accountUsage.count "b" = 2 := by
  have hread : ((ofText .plain "2024-01-05 x\n a  1\n b\n").bind fun a =>
      (ofText .plain "2024-01-06 y\n b  2\n c\n").map fun b =>
        decide (a.sources ≠ b.sources ∧ ¬a.same b ∧
          (mergeAll [a, b, a]).accountUsage.count "b" = 2)) = .ok true := by
    decide +kernel
  obtain ⟨a, b, ha, hb, hfacts⟩ := exists_ok_of_bind_map hread
  obtain ⟨hne, hdiffer, hcount⟩ := of_decide_eq_true hfacts
  have hfamily := TextFamily.pair ha hb hne
  have haa : a.same a := same_self_of_reachable (.ofText ha)
  have hbb : b.same b := same_self_of_reachable (.ofText hb)
  have hl : ∀ s ∈ [a, b, a], s ∈ ({a, b} : Set Snapshot) := by simp
  have hl' : ∀ s ∈ [b, a], s ∈ ({a, b} : Set Snapshot) := by simp
  have honce : ListsOnce [a, b] [a, b, a] :=
    { pairwise := by simp [hdiffer]
      subset := by simp
      covers := by simp [haa, hbb] }
  obtain ⟨htotals, -, hsums⟩ := mergeAll_totals hfamily hl hl' (by simp [haa, hbb])
    (by simp [haa, hbb])
  exact ⟨a, b, ha, hb, hfamily, htotals, honce, hsums _ honce, hcount⟩

end Snapshot

end Daybook
