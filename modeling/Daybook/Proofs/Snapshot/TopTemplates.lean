import Daybook.Proofs.Snapshot.Merging
import Daybook.Proofs.Template.Greatest

/-!
# The templates of merged snapshots

When two snapshots are merged, the templates of a payee are pooled: those of one key become one
template, and of the pool the five greatest are kept.  Which of two snapshots comes first decides
nothing but the postings where both used a template last on the same day, and the order in which
their tables list the templates decides nothing at all.

* `Snapshot.templateTable`, `Snapshot.pooledTemplates`: the templates of a payee in one snapshot, and
  in two together.
* `Template.Orderly`: what a snapshot keeps of the templates of a payee, whatever their order.
* `Snapshot.Rearranged`: whether two snapshots have the same templates in different orders.
* `Snapshot.holdsGreatest_merge`: merging keeps the greatest of the pool.
* `Snapshot.greatest_templates_of_merge`: in whatever order.
-/

namespace Daybook

open Template

namespace Template

/-! ## Tables of templates, in whatever order -/

/-- Whether a table has at most five templates, each under its own key and none twice. -/
structure Orderly (t : TemplateTable) : Prop where
  distinct : t.Distinct
  keyed : t.Keyed key
  size_le : t.size ≤ maxPerPayee

theorem orderly_empty : Orderly .empty where
  distinct := Table.distinct_empty
  keyed _ _ h := nomatch h
  size_le := Nat.zero_le _

theorem get?_eq_of_perm {t t' : TemplateTable} (hd : t.Distinct) (h : t.entries.Perm t'.entries)
    (k : String) : t'.get? k = t.get? k := by
  have hd' : t'.Distinct := (h.map _).nodup_iff.mp hd
  refine Option.ext fun tm => ?_
  rw [hd'.get?_eq_some_iff, hd.get?_eq_some_iff, h.mem_iff]

theorem Orderly.of_perm {t t' : TemplateTable} (ht : Orderly t) (h : t.entries.Perm t'.entries) :
    Orderly t' where
  distinct := (h.map _).nodup_iff.mp ht.distinct
  keyed k tm htm := ht.keyed (get?_eq_of_perm ht.distinct h k ▸ htm)
  size_le := by
    rw [Table.size, ← h.length_eq]
    exact ht.size_le

/-- Two tables of templates pooled and cut down hold the greatest of the pool. -/
theorem Orderly.holdsGreatest {t added : TemplateTable} (ht : Orderly t) (hadded : Orderly added)
    (payee : String) :
    HoldsGreatest maxPerPayee
      (fun k => Option.merge (joinTemplate payee) (t.get? k) (added.get? k))
      (prune (added.values.foldl (mergeTemplate payee) t)) := by
  have hlookup : Table.get? (added.values.foldl (mergeTemplate payee) t) =
      fun k => Option.merge (joinTemplate payee) (t.get? k) (added.get? k) :=
    funext (get?_foldl_mergeTemplate hadded.distinct hadded.keyed payee t)
  have hkeyed : (added.values.foldl (mergeTemplate payee) t).Keyed key := by
    intro k tm htm
    rw [hlookup] at htm
    dsimp only at htm
    cases hold : t.get? k with
    | none =>
      rw [hold, Option.merge_none_left] at htm
      exact hadded.keyed htm
    | some first =>
      cases hnew : added.get? k with
      | none =>
        rw [hold, hnew, Option.merge_none_right] at htm
        exact ht.keyed (hold.trans htm)
      | some second =>
        rw [hold, hnew] at htm
        cases htm
        have hkey : second.key = k := hadded.keyed hnew
        exact hkey
  rw [← hlookup]
  exact holdsGreatest_prune
    (distinct_foldl_mergeTemplate ht.distinct hadded.distinct hadded.keyed payee) hkeyed

/-- A table of at most five templates holds the greatest of its own. -/
theorem Orderly.holdsGreatest_self {t : TemplateTable} (ht : Orderly t) :
    HoldsGreatest maxPerPayee t.get? t := by
  have hprune := holdsGreatest_prune ht.distinct ht.keyed
  rwa [prune_of_size_le ht.size_le] at hprune

end Template

namespace Snapshot

/-! ## Pools -/

/-- The templates of a payee. -/
def templateTable (s : Snapshot) (payee : String) : TemplateTable :=
  (s.templates.get? payee).getD .empty

/-- The templates of a payee in two snapshots together: those of one key are one template, with the
uses of both, and with the day and the postings of the one that was used later, on the same day the
second. -/
def pooledTemplates (a b : Snapshot) (payee k : String) : Option Template :=
  Option.merge (joinTemplate payee) ((a.templateTable payee).get? k)
    ((b.templateTable payee).get? k)

theorem orderly_templateTable {s : Snapshot} (h : Reachable s) (payee : String) :
    Orderly (s.templateTable payee) := by
  rw [templateTable]
  cases ht : s.templates.get? payee with
  | none => exact orderly_empty
  | some t =>
    obtain ⟨hsound, -, hfive, -⟩ := (templated_of_reachable h).stored ht
    exact ⟨hsound.distinct, hsound.keyed, hfive⟩

variable {a b a' b' s s' : Snapshot}

/-- In the pool of two snapshots each key stands the same, whichever of them comes first. -/
theorem map_standing_pooledTemplates_comm {payee : String} (ha : Orderly (a.templateTable payee))
    (hb : Orderly (b.templateTable payee)) (k : String) :
    (pooledTemplates a b payee k).map standing = (pooledTemplates b a payee k).map standing := by
  rw [pooledTemplates, pooledTemplates]
  generalize hfirst : (a.templateTable payee).get? k = first
  generalize hsecond : (b.templateTable payee).get? k = second
  cases first with
  | none => cases second <;> rfl
  | some tm =>
    cases second with
    | none => rfl
    | some tm' =>
      have hkey : tm.key = tm'.key := (ha.keyed hfirst).trans (hb.keyed hsecond).symm
      exact congrArg some (standing_joinTemplate_comm payee hkey)

/-! ## Merging -/

theorem merge_eq_absorb_of_not_subset (hab : ¬a.sources ⊆ b.sources) (hba : ¬b.sources ⊆ a.sources) :
    a.merge b = a.absorb b := by
  have ha : ¬a.isPartOf b := fun h => hab (isPartOf_iff.mp h).2
  have hb : ¬b.isPartOf a := fun h => hba (isPartOf_iff.mp h).2
  rw [merge, if_neg hb, if_neg ha]

/-- **Adding a snapshot keeps the greatest of the pooled templates.** -/
theorem holdsGreatest_absorb (hdistinct : b.templates.Distinct) {payee : String}
    (ha : Orderly (a.templateTable payee)) (hb : Orderly (b.templateTable payee)) :
    HoldsGreatest maxPerPayee (pooledTemplates a b payee) ((a.absorb b).templateTable payee) := by
  have hlookup := get?_templates_absorb (a := a) hdistinct payee
  cases hadded : b.templates.get? payee with
  | none =>
    have hsame : (a.absorb b).templateTable payee = a.templateTable payee := by
      rw [templateTable, hlookup, hadded, templateTable]
    have hempty : b.templateTable payee = .empty := by
      rw [templateTable, hadded, Option.getD_none]
    have hpool : pooledTemplates a b payee = (a.templateTable payee).get? := by
      funext k
      rw [pooledTemplates, hempty, Table.get?_empty, Option.merge_none_right]
    rw [hsame, hpool]
    exact ha.holdsGreatest_self
  | some added =>
    have htable : b.templateTable payee = added := by
      rw [templateTable, hadded, Option.getD_some]
    have hpruned : (a.absorb b).templateTable payee =
        prune (added.values.foldl (mergeTemplate payee) (a.templateTable payee)) := by
      rw [templateTable, hlookup, hadded]
      rfl
    rw [hpruned, ← htable]
    exact ha.holdsGreatest hb payee

theorem contains_templates_absorb (hdistinct : b.templates.Distinct) (payee : String) :
    (a.absorb b).templates.contains payee ↔
      a.templates.contains payee ∨ b.templates.contains payee := by
  rw [Table.contains, Table.contains, Table.contains, get?_templates_absorb hdistinct]
  cases b.templates.get? payee <;> simp

/-! ## The order of the tables -/

/-- Whether a snapshot has the texts and the templates of another, the tables of the templates in
whatever order. -/
structure Rearranged (s s' : Snapshot) : Prop where
  sources : ∀ f, f ∈ s'.sources ↔ f ∈ s.sources
  distinct : s'.templates.Distinct
  templates : ∀ payee, Option.Rel (fun t t' : TemplateTable => t.entries.Perm t'.entries)
    (s.templates.get? payee) (s'.templates.get? payee)

theorem Rearranged.perm (h : s.Rearranged s') (payee : String) :
    (s.templateTable payee).entries.Perm (s'.templateTable payee).entries := by
  have hrel := h.templates payee
  rw [templateTable, templateTable]
  generalize s.templates.get? payee = old at hrel
  generalize s'.templates.get? payee = new at hrel
  cases hrel with
  | none => exact .refl _
  | some hperm => exact hperm

theorem Rearranged.orderly (h : s.Rearranged s') {payee : String}
    (hs : Orderly (s.templateTable payee)) : Orderly (s'.templateTable payee) :=
  hs.of_perm (h.perm payee)

theorem Rearranged.merge_eq_absorb (ha : a.Rearranged a') (hb : b.Rearranged b')
    (hab : ¬a.sources ⊆ b.sources) (hba : ¬b.sources ⊆ a.sources) :
    a'.merge b' = a'.absorb b' := by
  refine merge_eq_absorb_of_not_subset (fun h => hab fun f hf => ?_) fun h => hba fun f hf => ?_
  · exact (hb.sources f).mp (h ((ha.sources f).mpr hf))
  · exact (ha.sources f).mp (h ((hb.sources f).mpr hf))

/-- Snapshots in another order have the same pools. -/
theorem Rearranged.pooledTemplates_eq (ha : a.Rearranged a') (hb : b.Rearranged b')
    {payee : String} (hta : Orderly (a.templateTable payee))
    (htb : Orderly (b.templateTable payee)) :
    pooledTemplates a' b' payee = pooledTemplates a b payee := by
  funext k
  rw [pooledTemplates, pooledTemplates, get?_eq_of_perm hta.distinct (ha.perm payee),
    get?_eq_of_perm htb.distinct (hb.perm payee)]

theorem rearranged_refl (h : Reachable s) : s.Rearranged s where
  sources _ := Iff.rfl
  distinct := (distinct_of_reachable h).templates
  templates payee := by
    cases s.templates.get? payee with
    | none => exact .none
    | some t => exact .some (.refl _)

/-- **Merging keeps the greatest of the pooled templates**, in whatever order the tables of the two
snapshots list them. -/
theorem Rearranged.holdsGreatest_merge (ha : a.Rearranged a') (hb : b.Rearranged b')
    (hab : ¬a.sources ⊆ b.sources) (hba : ¬b.sources ⊆ a.sources) {payee : String}
    (hta : Orderly (a.templateTable payee)) (htb : Orderly (b.templateTable payee)) :
    HoldsGreatest maxPerPayee (pooledTemplates a b payee) ((a'.merge b').templateTable payee) := by
  rw [ha.merge_eq_absorb hb hab hba, ← ha.pooledTemplates_eq hb hta htb]
  exact holdsGreatest_absorb hb.distinct (ha.orderly hta) (hb.orderly htb)

/-- **Merged templates are the five greatest of the pooled ones.**  Where neither of two reachable
snapshots has all the texts of the other, the merged snapshot has templates of a payee if one of the
two has, and these are the five greatest of the pool, or all if there are fewer.  They are the same
however the tables of the two list their templates; and when the two are merged the other way round,
their keys, counts and days are. -/
theorem greatest_templates_of_merge (ha : Reachable a) (hb : Reachable b)
    (hab : ¬a.sources ⊆ b.sources) (hba : ¬b.sources ⊆ a.sources) (payee : String) :
    ((a.merge b).templates.contains payee ↔
      a.templates.contains payee ∨ b.templates.contains payee) ∧
    HoldsGreatest 5 (pooledTemplates a b payee) ((a.merge b).templateTable payee) ∧
    ∀ a' b', a.Rearranged a' → b.Rearranged b' → ∀ k,
      ((a'.merge b').templateTable payee).get? k = ((a.merge b).templateTable payee).get? k ∧
      (((b'.merge a').templateTable payee).get? k).map standing =
        (((a.merge b).templateTable payee).get? k).map standing := by
  have hta := orderly_templateTable ha payee
  have htb := orderly_templateTable hb payee
  have hkept := (rearranged_refl ha).holdsGreatest_merge (rearranged_refl hb) hab hba hta htb
  refine ⟨?_, hkept, fun a' b' ha' hb' k => ⟨?_, ?_⟩⟩
  · rw [merge_eq_absorb_of_not_subset hab hba]
    exact contains_templates_absorb (distinct_of_reachable hb).templates payee
  · exact (ha'.holdsGreatest_merge hb' hab hba hta htb).get?_unique hkept k
  · exact (hb'.holdsGreatest_merge ha' hba hab htb hta).map_standing_eq hkept
      (map_standing_pooledTemplates_comm htb hta) k

/-- Of six templates in two texts, the one that both use is kept with all its uses, and the least used one
of the longest ago is given up. -/
theorem greatest_templates_of_two_texts :
    ∃ a b, ofText .plain earlyUses = .ok a ∧ ofText .plain lateUses = .ok b ∧
      ¬a.sources ⊆ b.sources ∧ ¬b.sources ⊆ a.sources ∧
      (a.merge b).templates.contains "S" ∧
      HoldsGreatest 5 (pooledTemplates a b "S") ((a.merge b).templateTable "S") ∧
      (pooledTemplates a b "S" "b").isSome ∧
      ((a.merge b).templateTable "S").entries.map (fun e => (e.1, e.2.usageCount)) =
        [("a", 2), ("c", 1), ("d", 1), ("e", 1), ("f", 1)] := by
  have hread : ((ofText .plain earlyUses).bind fun a => (ofText .plain lateUses).map fun b =>
      decide (¬a.sources ⊆ b.sources ∧ ¬b.sources ⊆ a.sources ∧ a.templates.contains "S" ∧
        (pooledTemplates a b "S" "b").isSome ∧
        ((a.merge b).templateTable "S").entries.map (fun e => (e.1, e.2.usageCount)) =
          [("a", 2), ("c", 1), ("d", 1), ("e", 1), ("f", 1)])) = .ok true := by
    decide +kernel
  obtain ⟨a, b, ha, hb, hfacts⟩ := exists_ok_of_bind_map hread
  obtain ⟨hab, hba, hcontains, hpooled, hentries⟩ := of_decide_eq_true hfacts
  obtain ⟨hiff, hgreatest, -⟩ :=
    greatest_templates_of_merge (.ofText ha) (.ofText hb) hab hba "S"
  exact ⟨a, b, ha, hb, hab, hba, hiff.mpr (.inl hcontains), hgreatest, hpooled, hentries⟩

end Snapshot

end Daybook
