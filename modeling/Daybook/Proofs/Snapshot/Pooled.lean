import Daybook.Proofs.Snapshot.Agreement
import Daybook.Proofs.Snapshot.Remerge
import Mathlib.Data.Set.Insert

/-!
# Facts that merging pools

Merging leaves snapshots out whose texts went in before, and a snapshot can hold the same text several
times over, once for each way in which it came in.  Counts can tell.  That a name is known cannot: it
is known to a merged snapshot if and only if it is known to one of the texts behind it, whatever was
merged in which order.  So the fingerprints of a snapshot determine all facts of this kind, as long as
a fingerprint stands for one text.

* `Snapshot.SameNames`, `Snapshot.SameTotals`: snapshots that know the same names, and that count the
  same.
* `Snapshot.TextFamily`: snapshots of single texts, where a fingerprint stands for one of them.
* `Snapshot.MergedFrom`: what comes from such a family by merging.
* `Snapshot.Pooled`: a fact that a snapshot with all of another one has from either side.
  `Snapshot.Pooled.iff_exists_part`: it is known if one of the texts behind a snapshot knows it.
* `Snapshot.sameNames_of_sources`: fingerprints determine what is known about accounts and
  commodities, the formats themselves apart.
-/

namespace Daybook

open Calendar

namespace Snapshot

/-! ## Equal names and equal counts -/

/-- Whether two snapshots know the same accounts with the same flags and the same commodities, each
declared in both or in neither and with a format in both or in neither. -/
structure SameNames (s s' : Snapshot) : Prop where
  accounts : ∀ name, s.accounts.get? name = s'.accounts.get? name
  commodities : ∀ symbol,
    (s.commodities.get? symbol).map (fun c => (c.declared, c.format.isSome)) =
      (s'.commodities.get? symbol).map fun c => (c.declared, c.format.isSome)

/-- Whether two snapshots know the same names, count the same and reach the same date, from the same
texts. -/
structure SameTotals (s s' : Snapshot) : Prop extends SameNames s s' where
  payees : ∀ payee, payee ∈ s.payees ↔ payee ∈ s'.payees
  declaredPayees : ∀ payee, payee ∈ s.declaredPayees ↔ payee ∈ s'.declaredPayees
  tags : ∀ key, key ∈ s.tags ↔ key ∈ s'.tags
  tagValues : SameSets s.tagValues s'.tagValues
  payeeAccounts : SameSets s.payeeAccounts s'.payeeAccounts
  accountUsage : ∀ name, Table.get? s.accountUsage name = Table.get? s'.accountUsage name
  commodityUsage : ∀ symbol,
    Table.get? s.commodityUsage symbol = Table.get? s'.commodityUsage symbol
  payeeUsage : ∀ payee, Table.get? s.payeeUsage payee = Table.get? s'.payeeUsage payee
  tagUsage : ∀ key, Table.get? s.tagUsage key = Table.get? s'.tagUsage key
  tagValueUsage : ∀ tag, Table.get? s.tagValueUsage tag = Table.get? s'.tagValueUsage tag
  payeeAccountUsage : ∀ pair,
    Table.get? s.payeeAccountUsage pair = Table.get? s'.payeeAccountUsage pair
  lastDate : s.lastDate = s'.lastDate
  sources : ∀ f, f ∈ s.sources ↔ f ∈ s'.sources

theorem sameSets_of_same {t t' : Table String (List String)} (ht : t.Distinct)
    (h : t.same sameMembers t') : SameSets t t' := by
  intro k
  refine ⟨ht.contains_iff_of_same h k, fun x => ?_⟩
  cases hk : t.get? k with
  | none =>
    have hiff := ht.contains_iff_of_same h k
    have hk' : t'.get? k = none := by
      rw [Table.contains, Table.contains, hk] at hiff
      simpa using hiff
    rw [hk']
  | some members =>
    obtain ⟨members', hk', hsame⟩ := Table.exists_get?_of_same h hk
    rw [hk']
    exact sameMembers_iff.mp hsame x

/-- Snapshots that state the same count the same. -/
theorem sameTotals_of_same {a b : Snapshot} (ha : Reachable a) (h : a.same b) : SameTotals a b := by
  have hdistinct := distinct_of_reachable ha
  have hrecounts := recounts_of_reachable ha
  simp only [same, Bool.and_eq_true, and_assoc] at h
  obtain ⟨haccounts, haccountUsage, hcommodities, hcommodityUsage, hpayees, hdeclared, hpayeeUsage,
    htags, htagUsage, htagValues, htagValueUsage, hpayeeAccounts, hpayeeAccountUsage, -, -, -, -, -,
    -, hlastDate, -, -, hsources⟩ := h
  exact
    { accounts := hdistinct.accounts.get?_eq_of_same haccounts
      commodities := fun symbol => by
        rw [hdistinct.commodities.get?_eq_of_same hcommodities]
      payees := sameMembers_iff.mp hpayees
      declaredPayees := sameMembers_iff.mp hdeclared
      tags := sameMembers_iff.mp htags
      tagValues := sameSets_of_same hdistinct.tagValues htagValues
      payeeAccounts := sameSets_of_same hdistinct.payeeAccounts hpayeeAccounts
      accountUsage := hrecounts.accountUsage.distinct.get?_eq_of_same haccountUsage
      commodityUsage := hrecounts.commodityUsage.distinct.get?_eq_of_same hcommodityUsage
      payeeUsage := hrecounts.payeeUsage.distinct.get?_eq_of_same hpayeeUsage
      tagUsage := hrecounts.tagUsage.distinct.get?_eq_of_same htagUsage
      tagValueUsage := hrecounts.tagValueUsage.distinct.get?_eq_of_same htagValueUsage
      payeeAccountUsage := hrecounts.payeeAccountUsage.distinct.get?_eq_of_same hpayeeAccountUsage
      lastDate := eq_of_beq hlastDate
      sources := sameMembers_iff.mp hsources }

/-! ## Families of texts -/

/-- Whether a family consists of snapshots of single texts, where equal fingerprints stand for
snapshots that state the same. -/
structure TextFamily (family : Set Snapshot) : Prop where
  exists_text : ∀ s ∈ family, ∃ options text, ofText options text = .ok s
  same : ∀ s ∈ family, ∀ t ∈ family, s.sources = t.sources → s.same t

/-- The snapshots that come from a family by merging. -/
inductive MergedFrom (family : Set Snapshot) : Snapshot → Prop where
  | empty : MergedFrom family .empty
  | part {s : Snapshot} : s ∈ family → MergedFrom family s
  | merge {a b : Snapshot} : MergedFrom family a → MergedFrom family b →
    MergedFrom family (a.merge b)
  | mergeAll {snapshots : List Snapshot} : (∀ s ∈ snapshots, MergedFrom family s) →
    MergedFrom family (mergeAll snapshots)

variable {family : Set Snapshot} {s s' a b : Snapshot}

namespace TextFamily

theorem reachable (h : TextFamily family) (hs : s ∈ family) : Reachable s := by
  obtain ⟨options, text, htext⟩ := h.exists_text s hs
  exact .ofText htext

theorem exists_sources_eq (h : TextFamily family) (hs : s ∈ family) :
    ∃ fingerprint, s.sources = [fingerprint] := by
  obtain ⟨options, text, htext⟩ := h.exists_text s hs
  exact Snapshot.exists_sources_eq htext

/-- Members of a family with a common fingerprint count the same. -/
theorem sameTotals (h : TextFamily family) (ha : a ∈ family) (hb : b ∈ family)
    (hsub : ∀ f ∈ a.sources, f ∈ b.sources) : SameTotals a b := by
  obtain ⟨f, hf⟩ := h.exists_sources_eq ha
  obtain ⟨g, hg⟩ := h.exists_sources_eq hb
  rw [hf, hg] at hsub
  have hfg : f = g := List.mem_singleton.mp (hsub f (List.mem_singleton_self f))
  exact sameTotals_of_same (h.reachable ha) (h.same a ha b hb (by rw [hf, hg, hfg]))

/-- Two texts with different fingerprints. -/
theorem pair {options options' : BuildOptions} {t t' : String} (ha : ofText options t = .ok a)
    (hb : ofText options' t' = .ok b) (hne : a.sources ≠ b.sources) : TextFamily {a, b} where
  exists_text s hs := by
    rcases hs with rfl | rfl
    · exact ⟨options, t, ha⟩
    · exact ⟨options', t', hb⟩
  same s hs s' hs' h := by
    rcases hs with rfl | rfl <;> rcases hs' with rfl | rfl
    · exact same_self_of_reachable (.ofText ha)
    · exact absurd h hne
    · exact absurd h.symm hne
    · exact same_self_of_reachable (.ofText hb)

end TextFamily

/-- **What merging leads to.**  What holds of the empty snapshot and of a family and survives adding
one snapshot to another holds of all that comes from the family. -/
theorem MergedFrom.induction {P : Snapshot → Prop} (hempty : P .empty)
    (hpart : ∀ s ∈ family, P s) (habsorb : ∀ a b, P a → P b → P (a.absorb b))
    (h : MergedFrom family s) : P s := by
  induction h with
  | empty => exact hempty
  | part hs => exact hpart _ hs
  | merge _ _ iha ihb => exact merge_induction (habsorb _ _ iha ihb) iha ihb
  | mergeAll _ ih => exact mergeAll_induction hempty habsorb ih

theorem MergedFrom.reachable (hfamily : TextFamily family) (h : MergedFrom family s) :
    Reachable s := by
  induction h with
  | empty => exact .empty
  | part hs => exact hfamily.reachable hs
  | merge _ _ iha ihb => exact .merge iha ihb
  | mergeAll _ ih => exact .mergeAll ih

/-! ## Pooled facts -/

/-- Whether a fact is known to a snapshot with all of another one exactly if one of the two knows it,
and depends on totals alone. -/
structure Pooled (φ : Snapshot → Prop) : Prop where
  empty : ¬φ .empty
  absorb : ∀ a b, b.Distinct → (φ (a.absorb b) ↔ φ a ∨ φ b)
  congr : ∀ a b, SameTotals a b → φ a → φ b

namespace Pooled

variable {φ : Snapshot → Prop}

/-- **A pooled fact is known to a snapshot if one of the texts behind it knows it.** -/
theorem iff_exists_part (hφ : Pooled φ) (hfamily : TextFamily family) (h : MergedFrom family s) :
    φ s ↔ ∃ part ∈ family, (∀ f ∈ part.sources, f ∈ s.sources) ∧ φ part := by
  refine (h.induction (P := fun s => s.Distinct ∧ (φ s ↔
    ∃ part ∈ family, (∀ f ∈ part.sources, f ∈ s.sources) ∧ φ part)) ?_ ?_ ?_).2
  · refine ⟨distinct_empty, iff_of_false hφ.empty ?_⟩
    rintro ⟨part, hpart, hsub, -⟩
    obtain ⟨f, hf⟩ := hfamily.exists_sources_eq hpart
    rw [hf] at hsub
    exact List.not_mem_nil (hsub f (List.mem_singleton_self f))
  · intro s hs
    refine ⟨distinct_of_reachable (hfamily.reachable hs), fun h => ⟨s, hs, fun _ => id, h⟩, ?_⟩
    rintro ⟨part, hpart, hsub, h⟩
    exact hφ.congr part s (hfamily.sameTotals hpart hs hsub) h
  · rintro a b ⟨ha, iha⟩ ⟨hb, ihb⟩
    refine ⟨ha.absorb, ?_⟩
    rw [hφ.absorb a b hb, iha, ihb]
    constructor
    · rintro (⟨part, hpart, hsub, h⟩ | ⟨part, hpart, hsub, h⟩)
      · exact ⟨part, hpart, fun f hf => mem_sources_absorb.mpr (.inl (hsub f hf)), h⟩
      · exact ⟨part, hpart, fun f hf => mem_sources_absorb.mpr (.inr (hsub f hf)), h⟩
    · rintro ⟨part, hpart, hsub, h⟩
      -- A text has one fingerprint, so it is behind one of the two sides as a whole.
      obtain ⟨f, hf⟩ := hfamily.exists_sources_eq hpart
      simp only [hf, List.mem_singleton, forall_eq, mem_sources_absorb] at hsub
      refine hsub.imp (fun ha => ⟨part, hpart, ?_, h⟩) fun hb => ⟨part, hpart, ?_, h⟩
      · simpa [hf] using ha
      · simpa [hf] using hb

/-- What one snapshot knows is known to every snapshot with all its texts. -/
theorem mono (hφ : Pooled φ) (hfamily : TextFamily family) (hs : MergedFrom family s)
    (hs' : MergedFrom family s') (hsub : ∀ f ∈ s.sources, f ∈ s'.sources) (h : φ s) : φ s' := by
  obtain ⟨part, hpart, hpartsub, hknown⟩ := (hφ.iff_exists_part hfamily hs).mp h
  exact (hφ.iff_exists_part hfamily hs').mpr
    ⟨part, hpart, fun f hf => hsub f (hpartsub f hf), hknown⟩

/-- Fingerprints determine pooled facts. -/
theorem iff_of_sources (hφ : Pooled φ) (hfamily : TextFamily family) (hs : MergedFrom family s)
    (hs' : MergedFrom family s') (h : ∀ f, f ∈ s.sources ↔ f ∈ s'.sources) : φ s ↔ φ s' :=
  ⟨hφ.mono hfamily hs hs' fun f => (h f).mp, hφ.mono hfamily hs' hs fun f => (h f).mpr⟩

theorem any_merge {α : Type} {join : α → α → α} {flag : α → Bool}
    (hjoin : ∀ x y, flag (join x y) = (flag x || flag y)) (x y : Option α) :
    (Option.merge join x y).any flag ↔ x.any flag ∨ y.any flag := by
  cases x <;> cases y <;> simp [hjoin]

/-- A flag of the entries of a table that is set if either side sets it. -/
theorem of_flag {α : Type} {field : Snapshot → Table String α} {join : α → α → α} {flag : α → Bool}
    (hempty : field .empty = .empty)
    (habsorb : ∀ a b, b.Distinct → ∀ k,
      (field (a.absorb b)).get? k = Option.merge join ((field a).get? k) ((field b).get? k))
    (hjoin : ∀ x y, flag (join x y) = (flag x || flag y))
    (hcongr : ∀ a b, SameTotals a b → ∀ k,
      ((field a).get? k).any flag → ((field b).get? k).any flag) (k : String) :
    Pooled fun s => ((field s).get? k).any flag where
  empty := by
    rw [hempty, Table.get?_empty]
    exact Bool.false_ne_true
  absorb a b hb := by
    rw [habsorb a b hb]
    exact any_merge hjoin _ _
  congr a b h := hcongr a b h k

end Pooled

/-! ## Accounts and commodities -/

theorem pooled_account (flag : Account → Bool)
    (hjoin : ∀ x y, flag (x.join y) = (flag x || flag y)) (name : String) :
    Pooled fun s => (s.accounts.get? name).any flag := by
  refine Pooled.of_flag rfl (fun a b hb => get?_accounts_absorb hb) hjoin (fun a b h k hk => ?_) name
  rwa [← h.accounts k]

theorem pooled_commodity (flag : Bool × Bool → Bool)
    (hjoin : ∀ x y x' y', flag (x || x', y || y') = (flag (x, y) || flag (x', y')))
    (symbol : String) :
    Pooled fun s => (s.commodities.get? symbol).any fun c => flag (c.declared, c.format.isSome) := by
  refine Pooled.of_flag rfl (fun a b hb => get?_commodities_absorb hb) (fun x y => ?_)
    (fun a b h k hk => ?_) symbol
  · rw [← hjoin, Commodity.join]
    cases x.format <;> rfl
  · have hany (s : Snapshot) : ((s.commodities.get? k).any fun c =>
        flag (c.declared, c.format.isSome)) =
        ((s.commodities.get? k).map fun c => (c.declared, c.format.isSome)).any flag := by
      cases s.commodities.get? k <;> rfl
    rw [hany] at hk ⊢
    rwa [← h.commodities k]

/-- Values with two flags are equal if they are there together and have the same flags. -/
theorem eq_of_flags {x y : Option (Bool × Bool)} (h : x.any (fun _ => true) ↔ y.any fun _ => true)
    (hfirst : x.any (·.1) ↔ y.any (·.1)) (hsecond : x.any (·.2) ↔ y.any (·.2)) : x = y := by
  cases x with
  | none =>
    cases y with
    | none => rfl
    | some y => simp at h
  | some x =>
    cases y with
    | none => simp at h
    | some y =>
      have hxy : x = y := Prod.ext (Bool.eq_iff_iff.mpr hfirst) (Bool.eq_iff_iff.mpr hsecond)
      rw [hxy]

/-- **Fingerprints determine what is known about accounts and commodities**, the formats themselves
apart. -/
theorem sameNames_of_sources (hfamily : TextFamily family) (hs : MergedFrom family s)
    (hs' : MergedFrom family s') (h : ∀ f, f ∈ s.sources ↔ f ∈ s'.sources) : SameNames s s' where
  accounts name := by
    have hpooled (flag : Account → Bool) (hjoin : ∀ x y, flag (x.join y) = (flag x || flag y)) :=
      (pooled_account flag hjoin name).iff_of_sources hfamily hs hs' h
    have hflags : (s.accounts.get? name).map (fun a => (a.defined, a.used)) =
        (s'.accounts.get? name).map fun a => (a.defined, a.used) := by
      apply eq_of_flags <;> rw [Option.any_map, Option.any_map]
      · exact hpooled (fun _ => true) fun _ _ => rfl
      · exact hpooled (·.defined) fun _ _ => rfl
      · exact hpooled (·.used) fun _ _ => rfl
    refine Option.map_injective (fun x y hxy => ?_) hflags
    cases x
    cases y
    simpa using hxy
  commodities symbol := by
    have hpooled (flag : Bool × Bool → Bool)
        (hjoin : ∀ x y x' y', flag (x || x', y || y') = (flag (x, y) || flag (x', y'))) :=
      (pooled_commodity flag hjoin symbol).iff_of_sources hfamily hs hs' h
    apply eq_of_flags <;> rw [Option.any_map, Option.any_map]
    · exact hpooled (fun _ => true) fun _ _ _ _ => rfl
    · exact hpooled Prod.fst fun _ _ _ _ => rfl
    · exact hpooled Prod.snd fun _ _ _ _ => rfl

end Snapshot

end Daybook
