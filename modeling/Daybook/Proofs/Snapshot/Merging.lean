import Daybook.Proofs.Snapshot.Joined
import Daybook.Proofs.Snapshot.Recount
import Daybook.Proofs.Snapshot.Templates

/-!
# Merging with nothing, and merging lists

The empty snapshot adds nothing.  On the right of a merge it leaves the other side as it is.  On the
left every table is filled anew from the other side: no fact is lost, but a ring of recently used
keys starts over at its first slot, which can be told from a ring that has gone round before.

A list of snapshots is merged in one go or one after another.  Both leave a snapshot out whose texts
all went in before.  Only merging one after another also gives up what went in before when a snapshot
holds all of it and more; in one go such a snapshot is added on top.

* `Snapshot.empty_absorb`: the empty snapshot with all of another one.
* `Snapshot.same_merge_empty`: what merging with the empty snapshot comes to.
* `Snapshot.Overtakes`: whether a snapshot holds all texts of those before it and more.
* `Snapshot.mergeAll_agrees_foldl_merge`: when merging in one go is merging one after another.
-/

namespace Daybook

open Calendar Template

namespace Snapshot

/-! ## The empty snapshot -/

theorem isPartOf_iff {s t : Snapshot} :
    s.isPartOf t ↔ s.sources ≠ [] ∧ ∀ f ∈ s.sources, f ∈ t.sources := by
  simp [isPartOf]

theorem not_isPartOf_empty (s : Snapshot) : ¬s.isPartOf .empty := by
  rw [isPartOf_iff]
  rintro ⟨hne, hall⟩
  obtain ⟨f, hf⟩ := List.exists_mem_of_ne_nil _ hne
  exact List.not_mem_nil (hall f hf)

theorem empty_not_isPartOf (s : Snapshot) : ¬isPartOf .empty s :=
  fun h => (isPartOf_iff.mp h).1 rfl

/-- Nothing is added by the empty snapshot. -/
theorem absorb_empty (a : Snapshot) : a.absorb .empty = a := by
  rw [absorb_eq]
  cases a with
  | mk =>
    simp only [empty, Table.empty, Tally.addAll, unite, uniteMembers, List.foldl_nil,
      List.append_nil, Option.orElse_eq_orElse, Option.orElse_eq_or, Option.or_none,
      Option.merge_none_right]

theorem merge_empty (a : Snapshot) : a.merge .empty = a := by
  rw [merge, if_neg (empty_not_isPartOf a), if_neg (not_isPartOf_empty a), absorb_empty]

theorem empty_merge (a : Snapshot) : merge .empty a = absorb .empty a := by
  rw [merge, if_neg (not_isPartOf_empty a), if_neg (empty_not_isPartOf a)]

/-- A tally that is added to the empty one. -/
theorem addAll_empty {κ : Type} [DecidableEq κ] {t : Tally κ} (ht : t.Distinct) :
    Tally.addAll .empty t = t :=
  ht.foldl_alter_self (fun _ n old => old.getD 0 + n) fun e _ => Nat.zero_add e.2

/-- Every set of a table filled anew from another one. -/
theorem unite_empty {t : Table String (List String)} (ht : t.Distinct) :
    unite .empty t = ⟨t.entries.map fun e => (e.1, uniteMembers [] e.2)⟩ :=
  Table.foldl_alter_empty ht fun _ members (old : Option (List String)) =>
    uniteMembers (old.getD []) members

/-- The templates of a payee filled anew. -/
theorem joinTemplates_none {payee : String} {uses : List Journal.Transaction} {t : TemplateTable}
    (ht : Stored payee uses (some t)) : joinTemplates payee t none = t := by
  obtain ⟨hsound, -, hfive, -⟩ := ht
  rw [joinTemplates, Option.getD_none, foldl_mergeTemplate hsound.distinct hsound.keyed,
    hsound.distinct.foldl_alter_self (fun _ => Table.joinTo (joinTemplate payee)) fun _ _ => rfl,
    prune_of_size_le hfive]

/-- **The empty snapshot with all of another one.**  Every table and list is filled anew; only the
order inside sets and the rings of recently used keys can be told from before. -/
theorem empty_absorb {a : Snapshot} (h : Reachable a) :
    absorb .empty a =
      { a with
        payees := uniteMembers [] a.payees
        declaredPayees := uniteMembers [] a.declaredPayees
        tags := uniteMembers [] a.tags
        tagValues := ⟨a.tagValues.entries.map fun e => (e.1, uniteMembers [] e.2)⟩
        payeeAccounts := ⟨a.payeeAccounts.entries.map fun e => (e.1, uniteMembers [] e.2)⟩
        recent := ⟨a.recent.entries.map fun e => (e.1, joinRecent e.2 none)⟩
        sources := uniteMembers [] a.sources } := by
  have hdistinct := distinct_of_reachable h
  have hrecounts := recounts_of_reachable h
  have htemplated := templated_of_reachable h
  have haccounts := hdistinct.accounts.foldl_alter_self
    (fun _ => Table.joinTo Account.join) fun _ _ => rfl
  have hcommodities := hdistinct.commodities.foldl_alter_self
    (fun _ => Table.joinTo Commodity.join) fun _ _ => rfl
  have haliases := hdistinct.aliases.foldl_alter_self (fun _ target old => old.getD target)
    fun _ _ => rfl
  have htemplates := hdistinct.templates.foldl_alter_self joinTemplates fun e he => by
    have hstored := htemplated.templates e.1
    rw [hdistinct.templates.get?_eq_some_iff.mpr he] at hstored
    exact joinTemplates_none hstored
  have hrecent := Table.foldl_alter_empty hdistinct.recent
    fun _ (added : RecentKeys) => joinRecent added
  have hlastDate : Option.merge Date.latest none a.lastDate = a.lastDate :=
    Option.merge_none_left
  rw [absorb_eq, Snapshot.mk.injEq]
  exact ⟨haccounts, addAll_empty hrecounts.accountUsage.distinct, hcommodities,
    addAll_empty hrecounts.commodityUsage.distinct, rfl, rfl,
    addAll_empty hrecounts.payeeUsage.distinct, rfl, addAll_empty hrecounts.tagUsage.distinct,
    unite_empty hdistinct.tagValues, addAll_empty hrecounts.tagValueUsage.distinct,
    unite_empty hdistinct.payeeAccounts, addAll_empty hrecounts.payeeAccountUsage.distinct,
    haliases, htemplates, hrecent, List.nil_append _, rfl, rfl, hlastDate,
    foldl_withInclude_of_nodup hdistinct.includes, List.nil_append _, rfl⟩

/-! ### Equality -/

theorem sameMembers_self {α : Type} [DecidableEq α] (xs : List α) : sameMembers xs xs :=
  sameMembers_iff.mpr fun _ => Iff.rfl

theorem sameMembers_uniteMembers {α : Type} [DecidableEq α] (xs : List α) :
    sameMembers (uniteMembers [] xs) xs := by
  rw [sameMembers_iff]
  intro x
  rw [mem_uniteMembers]
  exact ⟨fun h => h.resolve_left List.not_mem_nil, .inr⟩

/-- Where only the order inside sets and the rings can differ, the rings decide whether a snapshot
states the same. -/
theorem same_iff_of_reachable {a : Snapshot} (h : Reachable a)
    {payees declaredPayees tags sources : List String}
    {tagValues payeeAccounts : Table String (List String)} (recent : Table String RecentKeys)
    (hpayees : sameMembers payees a.payees) (hdeclared : sameMembers declaredPayees a.declaredPayees)
    (htags : sameMembers tags a.tags) (htagValues : tagValues.same sameMembers a.tagValues)
    (hpayeeAccounts : payeeAccounts.same sameMembers a.payeeAccounts)
    (hsources : sameMembers sources a.sources) :
    ({ a with payees, declaredPayees, tags, tagValues, payeeAccounts, recent, sources } :
      Snapshot).same a ↔ recent.same RecentKeys.same a.recent := by
  have hdistinct := distinct_of_reachable h
  have hrecounts := recounts_of_reachable h
  have hself {κ α : Type} [DecidableEq κ] [DecidableEq α] {t : Table κ α} (ht : t.Distinct) :
      t.same (· == ·) t := ht.same_self fun e _ => beq_self_eq_true e.2
  have htemplates : a.templates.same (Table.same (· == ·)) a.templates := by
    refine hdistinct.templates.same_self fun e he => hself ?_
    have hstored := (templated_of_reachable h).templates e.1
    rw [hdistinct.templates.get?_eq_some_iff.mpr he] at hstored
    exact hstored.1.distinct
  rw [same]
  simp only [hself hdistinct.accounts, hself hrecounts.accountUsage.distinct,
    hself hdistinct.commodities, hself hrecounts.commodityUsage.distinct, hpayees, hdeclared,
    hself hrecounts.payeeUsage.distinct, htags, hself hrecounts.tagUsage.distinct, htagValues,
    hself hrecounts.tagValueUsage.distinct, hpayeeAccounts,
    hself hrecounts.payeeAccountUsage.distinct, hself hdistinct.aliases, htemplates, hsources,
    beq_self_eq_true, Bool.true_and, Bool.and_true]

theorem same_self_of_reachable {a : Snapshot} (h : Reachable a) : a.same a := by
  have hdistinct := distinct_of_reachable h
  have hsets {t : Table String (List String)} (ht : t.Distinct) : t.same sameMembers t :=
    ht.same_self fun e _ => sameMembers_self e.2
  refine (same_iff_of_reachable h a.recent (sameMembers_self _) (sameMembers_self _)
    (sameMembers_self _) (hsets hdistinct.tagValues) (hsets hdistinct.payeeAccounts)
    (sameMembers_self _)).mpr ?_
  exact hdistinct.recent.same_self fun e _ => by simp [RecentKeys.same]

/-- What goes into the empty snapshot states the same if its rings do. -/
theorem same_empty_absorb_iff {a : Snapshot} (h : Reachable a) (recent : Table String RecentKeys) :
    ({ absorb .empty a with recent } : Snapshot).same a ↔
      recent.same RecentKeys.same a.recent := by
  have hdistinct := distinct_of_reachable h
  have hsets {t : Table String (List String)} (ht : t.Distinct) :
      (Table.mk (t.entries.map fun e => (e.1, uniteMembers [] e.2))).same sameMembers t :=
    (ht.same_map_iff sameMembers fun _ => uniteMembers []).mpr fun e _ =>
      sameMembers_uniteMembers e.2
  rw [empty_absorb h]
  exact same_iff_of_reachable h recent (sameMembers_uniteMembers _) (sameMembers_uniteMembers _)
    (sameMembers_uniteMembers _) (hsets hdistinct.tagValues) (hsets hdistinct.payeeAccounts)
    (sameMembers_uniteMembers _)

/-- The rings of a reachable snapshot are in order. -/
theorem good_of_mem_recent {a : Snapshot} (h : Reachable a) {e : String × RecentKeys}
    (he : e ∈ a.recent.entries) : e.2.Good := by
  have hremembered := (templated_of_reachable h).recent e.1
  rw [(distinct_of_reachable h).recent.get?_eq_some_iff.mpr he] at hremembered
  exact hremembered.2.2.good

/-- **Merging with the empty snapshot.**  On the right it changes nothing.  On the left no fact
changes either, and every ring keeps its capacity and its keys; the result is equal to the snapshot
if and only if the next slot of every full ring is the first one. -/
theorem same_merge_empty {a : Snapshot} (h : Reachable a) :
    (a.merge .empty).same a ∧
    ({ merge .empty a with recent := a.recent } : Snapshot).same a ∧
    (∀ payee, ((merge .empty a).recent.get? payee).map (fun r => (r.capacity, r.keys)) =
      (a.recent.get? payee).map fun r => (r.capacity, r.keys)) ∧
    ((merge .empty a).same a ↔
      ∀ payee r, a.recent.get? payee = some r → r.length = r.capacity → r.writeIndex = 0) := by
  have hdistinct := distinct_of_reachable h
  rw [merge_empty, empty_merge]
  refine ⟨same_self_of_reachable h, ?_, fun payee => ?_, ?_⟩
  · rw [same_empty_absorb_iff h]
    exact hdistinct.recent.same_self fun e _ => by simp [RecentKeys.same]
  · rw [get?_recent_absorb hdistinct]
    cases hr : a.recent.get? payee with
    | none => rfl
    | some r =>
      have hgood := good_of_mem_recent h (Table.mem_of_find_eq_some hr)
      rw [Option.map_some, Option.map_some, joinRecent]
      show some (((RecentKeys.empty r.capacity).pushAll r.keys).capacity,
        ((RecentKeys.empty r.capacity).pushAll r.keys).keys) = _
      rw [hgood.keys_refilled, RecentKeys.Holds.capacity_pushAll]
      rfl
  · have hrings : (absorb .empty a).recent =
        ⟨a.recent.entries.map fun e => (e.1, joinRecent e.2 none)⟩ := by
      rw [empty_absorb h]
    have hsame := same_empty_absorb_iff h (absorb .empty a).recent
    rw [hrings, hdistinct.recent.same_map_iff RecentKeys.same fun _ r => joinRecent r none,
      ← hrings] at hsame
    refine hsame.trans ⟨fun hall payee r hr => ?_, fun hall e he => ?_⟩
    · have he := Table.mem_of_find_eq_some hr
      exact (good_of_mem_recent h he).same_refilled_iff.mp (hall _ he)
    · exact (good_of_mem_recent h he).same_refilled_iff.mpr
        (hall e.1 e.2 (hdistinct.recent.get?_eq_some_iff.mpr he))

/-- A payee with one use: merging with the empty snapshot changes nothing on either side. -/
theorem same_merge_empty_of_one_use :
    ∃ s, ofText .plain "2024-01-05 x\n a  1\n b\n" = .ok s ∧ s.recent.contains "x" ∧
      (∀ payee r, s.recent.get? payee = some r → r.length = r.capacity → r.writeIndex = 0) ∧
      (s.merge .empty).same s ∧ (merge .empty s).same s := by
  have hread : (ofText .plain "2024-01-05 x\n a  1\n b\n").map (fun s =>
      (s.recent.contains "x", s.recent.entries.all fun e => e.2.length != e.2.capacity)) =
      .ok (true, true) := by
    decide +kernel
  obtain ⟨s, htext, hfacts⟩ := exists_ok_of_map hread
  obtain ⟨hcontains, hroom⟩ := Prod.mk.inj hfacts
  have hrings : ∀ payee r, s.recent.get? payee = some r → r.length = r.capacity →
      r.writeIndex = 0 := by
    intro payee r hr hfull
    have hr' := List.all_eq_true.mp hroom _ (Table.mem_of_find_eq_some hr)
    exact absurd hfull (bne_iff_ne.mp hr')
  obtain ⟨hright, -, -, hleft⟩ := same_merge_empty (.ofText htext)
  exact ⟨s, htext, hcontains, hrings, hright, hleft.mpr hrings⟩

/-! ## Lists of snapshots -/

theorem mergeAll_concat (l : List Snapshot) (s : Snapshot) :
    mergeAll (l ++ [s]) =
      if s.isPartOf (mergeAll l) then mergeAll l else (mergeAll l).absorb s := by
  rw [mergeAll, List.foldl_append]
  rfl

theorem mem_sources_absorb {a b : Snapshot} {f : String} :
    f ∈ (a.absorb b).sources ↔ f ∈ a.sources ∨ f ∈ b.sources := by
  rw [absorb_eq]
  exact mem_uniteMembers

/-- The texts of a merged list are those of its members. -/
theorem mem_sources_mergeAll {l : List Snapshot} {f : String} :
    f ∈ (mergeAll l).sources ↔ ∃ s ∈ l, f ∈ s.sources := by
  induction l using List.reverseRecOn with
  | nil => simp [mergeAll, empty]
  | append_singleton l s ih =>
    have hlast : (∃ t ∈ l ++ [s], f ∈ t.sources) ↔
        f ∈ (mergeAll l).sources ∨ f ∈ s.sources := by
      simp [or_and_right, exists_or, ih]
    rw [mergeAll_concat, hlast]
    split
    · rename_i hpart
      exact ⟨.inl, fun h => h.elim id ((isPartOf_iff.mp hpart).2 f)⟩
    · exact mem_sources_absorb

theorem foldl_merge_concat (l : List Snapshot) (s : Snapshot) :
    (l ++ [s]).foldl merge .empty = (l.foldl merge .empty).merge s := by
  rw [List.foldl_append]
  rfl

/-- Whether a snapshot is part of another one depends on their texts alone. -/
theorem isPartOf_congr {a b c d : Snapshot} (hab : ∀ f, f ∈ a.sources ↔ f ∈ b.sources)
    (hcd : ∀ f, f ∈ c.sources ↔ f ∈ d.sources) : a.isPartOf c ↔ b.isPartOf d := by
  simp only [isPartOf_iff, ne_eq, List.eq_nil_iff_forall_not_mem, hab, hcd]

/-- The texts of a merged snapshot are those of both sides, whichever way the merge takes. -/
theorem mem_sources_merge {a b : Snapshot} {f : String} :
    f ∈ (a.merge b).sources ↔ f ∈ a.sources ∨ f ∈ b.sources := by
  unfold merge
  split
  · rename_i hb
    exact ⟨.inl, fun h => h.elim id ((isPartOf_iff.mp hb).2 f)⟩
  · split
    · rename_i ha
      exact ⟨.inr, fun h => h.elim ((isPartOf_iff.mp ha).2 f) id⟩
    · exact mem_sources_absorb

/-- The texts of snapshots merged one after another are those of all of them. -/
theorem mem_sources_foldl_merge {a : Snapshot} {l : List Snapshot} {f : String} :
    f ∈ (l.foldl merge a).sources ↔ ∃ s ∈ a :: l, f ∈ s.sources := by
  induction l generalizing a with
  | nil => simp
  | cons b rest ih =>
    rw [List.foldl_cons, ih]
    simp [mem_sources_merge, or_assoc]

theorem mem_sources_foldl_merge_empty {l : List Snapshot} {f : String} :
    f ∈ (l.foldl merge .empty).sources ↔ f ∈ (mergeAll l).sources := by
  rw [mem_sources_foldl_merge, mem_sources_mergeAll]
  simp [empty]

/-- Whether a snapshot holds every text of the snapshots before it and one more, where those hold a
text at all. -/
def Overtakes (before : List Snapshot) (s : Snapshot) : Prop :=
  (∃ t ∈ before, t.sources ≠ []) ∧ (∀ t ∈ before, ∀ f ∈ t.sources, f ∈ s.sources) ∧
    ∃ f ∈ s.sources, ∀ t ∈ before, f ∉ t.sources

theorem overtakes_iff {before : List Snapshot} {s : Snapshot} :
    Overtakes before s ↔ (mergeAll before).isPartOf s ∧ ¬s.isPartOf (mergeAll before) := by
  have hsome : (mergeAll before).sources ≠ [] ↔ ∃ t ∈ before, t.sources ≠ [] := by
    simp only [ne_eq, List.eq_nil_iff_forall_not_mem, mem_sources_mergeAll]
    push Not
    exact exists_comm.trans (by simp only [exists_and_left])
  have hall : (∀ f ∈ (mergeAll before).sources, f ∈ s.sources) ↔
      ∀ t ∈ before, ∀ f ∈ t.sources, f ∈ s.sources := by
    simp only [mem_sources_mergeAll]
    exact ⟨fun h t ht f hf => h f ⟨t, ht, hf⟩, fun h f ⟨t, ht, hf⟩ => h t ht f hf⟩
  have hmore : (∃ f ∈ s.sources, f ∉ (mergeAll before).sources) ↔
      ∃ f ∈ s.sources, ∀ t ∈ before, f ∉ t.sources := by
    simp only [mem_sources_mergeAll, not_exists, not_and]
  rw [Overtakes, isPartOf_iff, isPartOf_iff, hsome, hall, ← hmore]
  refine ⟨fun ⟨htext, hheld, f, hf, hnew⟩ => ⟨⟨htext, hheld⟩, fun h => hnew (h.2 f hf)⟩,
    fun ⟨⟨htext, hheld⟩, hnot⟩ => ⟨htext, hheld, ?_⟩⟩
  obtain ⟨t, ht, hne⟩ := htext
  obtain ⟨f, hf⟩ := List.exists_mem_of_ne_nil _ hne
  by_contra hnone
  push Not at hnone
  exact hnot ⟨List.ne_nil_of_mem (hall.mpr hheld f (mem_sources_mergeAll.mpr ⟨t, ht, hf⟩)), hnone⟩

/-- The three things that can happen to one more snapshot: its texts went in before, it overtakes
what went in before, or it is added. -/
theorem concat_cases (l : List Snapshot) (s : Snapshot) :
    (¬Overtakes l s ∧ mergeAll (l ++ [s]) = mergeAll l ∧
      (l ++ [s]).foldl merge .empty = l.foldl merge .empty) ∨
    (Overtakes l s ∧ mergeAll (l ++ [s]) = (mergeAll l).absorb s ∧
      (l ++ [s]).foldl merge .empty = s) ∨
    (¬Overtakes l s ∧ mergeAll (l ++ [s]) = (mergeAll l).absorb s ∧
      (l ++ [s]).foldl merge .empty = (l.foldl merge .empty).absorb s) := by
  have hpart : s.isPartOf (l.foldl merge .empty) ↔ s.isPartOf (mergeAll l) :=
    isPartOf_congr (fun _ => Iff.rfl) fun _ => mem_sources_foldl_merge_empty
  have hall : (l.foldl merge .empty).isPartOf s ↔ (mergeAll l).isPartOf s :=
    isPartOf_congr (fun _ => mem_sources_foldl_merge_empty) fun _ => Iff.rfl
  rw [overtakes_iff, mergeAll_concat, foldl_merge_concat, merge]
  simp only [hpart, hall]
  by_cases hs : s.isPartOf (mergeAll l)
  · exact .inl ⟨fun h => h.2 hs, if_pos hs, if_pos hs⟩
  rw [if_neg hs, if_neg hs]
  by_cases ha : (mergeAll l).isPartOf s
  · exact .inr (.inl ⟨⟨ha, hs⟩, rfl, if_pos ha⟩)
  · exact .inr (.inr ⟨fun h => ha h.1, rfl, if_neg ha⟩)

/-- What went in stays in. -/
theorem isPrefix_transactions_mergeAll {before l : List Snapshot} (h : before <+: l) :
    (mergeAll before).transactions <+: (mergeAll l).transactions := by
  obtain ⟨rest, rfl⟩ := h
  induction rest using List.reverseRecOn with
  | nil => rw [List.append_nil]
  | append_singleton rest s ih =>
    rw [← List.append_assoc, mergeAll_concat]
    split
    · exact ih
    · rw [transactions_absorb]
      exact ih.trans (List.prefix_append _ _)

/-- **Merging in one go and one after another.**  Both give the same snapshot where no member of the
list overtakes those before it.  They give the same transactions if and only if nothing is overtaken
but snapshots without transactions. -/
theorem mergeAll_agrees_foldl_merge (l : List Snapshot) :
    ((∀ before s, before ++ [s] <+: l → ¬Overtakes before s) →
      mergeAll l = l.foldl merge .empty) ∧
    ((mergeAll l).transactions = (l.foldl merge .empty).transactions ↔
      ∀ before s, before ++ [s] <+: l → Overtakes before s →
        (mergeAll before).transactions = []) := by
  induction l using List.reverseRecOn with
  | nil =>
    refine ⟨fun _ => rfl, iff_of_true rfl fun before s h => ?_⟩
    exact absurd (List.prefix_nil.mp h) (List.append_ne_nil_of_right_ne_nil _ (by simp))
  | append_singleton l s ih =>
    -- a prefix of the longer list is a prefix of the shorter one or ends in the last snapshot
    have hinitial (P : List Snapshot → Snapshot → Prop) :
        (∀ before t, before ++ [t] <+: l ++ [s] → P before t) ↔
          P l s ∧ ∀ before t, before ++ [t] <+: l → P before t := by
      refine ⟨fun h => ⟨h l s (List.prefix_refl _), fun before t ht =>
        h before t (ht.trans (List.prefix_append _ _))⟩, fun ⟨hlast, h⟩ before t ht => ?_⟩
      rcases List.prefix_concat_iff.mp ht with heq | hshort
      · obtain ⟨rfl, rfl⟩ := List.append_singleton_inj.mp heq
        exact hlast
      · exact h before t hshort
    rw [hinitial, hinitial]
    obtain ⟨hs, hall, hfold⟩ | ⟨hs, hall, hfold⟩ | ⟨hs, hall, hfold⟩ := concat_cases l s
    · rw [hall, hfold, ih.2]
      exact ⟨fun h => ih.1 h.2, ⟨fun h => ⟨fun ho => absurd ho hs, h⟩, And.right⟩⟩
    · refine ⟨fun h => absurd hs h.1, ?_⟩
      rw [hall, hfold, transactions_absorb, List.append_left_eq_self]
      refine ⟨fun hnone => ⟨fun _ => hnone, fun before t ht _ => ?_⟩, fun h => h.1 hs⟩
      have hbefore := isPrefix_transactions_mergeAll ((List.prefix_append before [t]).trans ht)
      exact List.prefix_nil.mp (hnone ▸ hbefore)
    · refine ⟨fun h => ?_, ?_⟩
      · rw [hall, hfold, ih.1 h.2]
      · rw [hall, hfold, transactions_absorb, transactions_absorb, List.append_left_inj, ih.2]
        exact ⟨fun h => ⟨fun ho => absurd ho hs, h⟩, And.right⟩

/-- A snapshot of one text overtakes nothing. -/
theorem not_overtakes_of_ofText {options : BuildOptions} {text : String} {s : Snapshot}
    (h : ofText options text = .ok s) (before : List Snapshot) : ¬Overtakes before s := by
  obtain ⟨fingerprint, hs⟩ := exists_sources_eq h
  rintro ⟨⟨t, ht, hne⟩, hheld, f, hf, hnew⟩
  obtain ⟨g, hg⟩ := List.exists_mem_of_ne_nil _ hne
  have hgs := hheld t ht g hg
  rw [hs, List.mem_singleton] at hf hgs
  exact hnew t ht (hf.trans hgs.symm ▸ hg)

/-- Snapshots of texts can be merged either way, also where a text comes twice. -/
theorem mergeAll_agrees_foldl_merge_repeated :
    ∃ a b, ofText .plain "2024-01-05 x\n a\n" = .ok a ∧
      ofText .plain "2024-01-06 y\n b\n" = .ok b ∧
      (mergeAll [a, b, a]).transactions.length = 2 ∧
      mergeAll [a, b, a] = [a, b, a].foldl merge .empty := by
  have hread : ((ofText .plain "2024-01-05 x\n a\n").bind fun a =>
      (ofText .plain "2024-01-06 y\n b\n").map fun b =>
        (mergeAll [a, b, a]).transactions.length) = .ok 2 := by
    decide +kernel
  obtain ⟨a, b, ha, hb, hlength⟩ := exists_ok_of_bind_map hread
  refine ⟨a, b, ha, hb, hlength, (mergeAll_agrees_foldl_merge [a, b, a]).1 ?_⟩
  intro before s hs
  have hmem : s ∈ [a, b, a] := hs.subset (by simp)
  obtain rfl | rfl : s = a ∨ s = b := by simpa [or_comm] using hmem
  · exact not_overtakes_of_ofText ha before
  · exact not_overtakes_of_ofText hb before

/-- **A snapshot that overtakes another one is added on top of it when both are merged in one go**,
so what they share counts twice; merged one after another it counts once. -/
theorem mergeAll_ne_foldl_merge_overtaken :
    ∃ a b, ofText .plain "2024-01-05 x\n a\n" = .ok a ∧
      ofText .plain "2024-01-06 y\n b\n" = .ok b ∧
      (mergeAll [a, a.merge b]).transactions.length = 3 ∧
      ([a, a.merge b].foldl merge .empty).transactions.length = 2 := by
  have hread : ((ofText .plain "2024-01-05 x\n a\n").bind fun a =>
      (ofText .plain "2024-01-06 y\n b\n").map fun b =>
        ((mergeAll [a, a.merge b]).transactions.length,
          ([a, a.merge b].foldl merge .empty).transactions.length)) = .ok (3, 2) := by
    decide +kernel
  obtain ⟨a, b, ha, hb, hlengths⟩ := exists_ok_of_bind_map hread
  exact ⟨a, b, ha, hb, Prod.mk.inj hlengths⟩

end Snapshot

end Daybook
