import Daybook.Proofs.Snapshot.Pooled

/-!
# The order of merging

What a merged snapshot knows about accounts and commodities does not depend on the order in which
snapshots are merged, with one exception: the format of a commodity.  The first one that is added
stays, also where the second side brings another one.  There is one turn in this: if all texts of the
first side went into the second and not the other way round, the first side gives way as a whole, and
the format comes from the second.

Both orders give the same format where the two sides are compatible, and where one of them gives way
to the other.  Bracketing matters only if a side gives way to a group, or inside one, that it would
not have given way to otherwise.

* `Snapshot.GivesWay`: the snapshots of which a merge keeps the second.
* `Snapshot.formatOf_merge`: the format of a commodity in a merged snapshot.
* `Snapshot.merge_comm_assoc`: what does not depend on order and bracketing, and when formats do.
* `Snapshot.merge_order_of_two_formats`: two texts with different formats, where both matter.
-/

namespace Daybook

open Amount

namespace Snapshot

variable {a b c : Snapshot} {family : Set Snapshot} {symbol : String}

/-! ## Giving way -/

/-- Whether all texts of a snapshot went into another one that has more. -/
def GivesWay (a b : Snapshot) : Prop :=
  a.isPartOf b ∧ ¬b.isPartOf a

instance (a b : Snapshot) : Decidable (a.GivesWay b) :=
  inferInstanceAs (Decidable (a.isPartOf b ∧ ¬b.isPartOf a))

theorem givesWay_iff : a.GivesWay b ↔
    (∃ f, f ∈ a.sources) ∧ (∀ f ∈ a.sources, f ∈ b.sources) ∧ ∃ f ∈ b.sources, f ∉ a.sources := by
  have hsome (s : Snapshot) : s.sources ≠ [] ↔ ∃ f, f ∈ s.sources :=
    ⟨List.exists_mem_of_ne_nil _, fun ⟨_, hf⟩ => List.ne_nil_of_mem hf⟩
  rw [GivesWay, isPartOf_iff, isPartOf_iff, hsome, hsome]
  constructor
  · rintro ⟨⟨⟨f, hf⟩, hsub⟩, hnot⟩
    refine ⟨⟨f, hf⟩, hsub, ?_⟩
    by_contra hall
    push Not at hall
    exact hnot ⟨⟨f, hsub f hf⟩, hall⟩
  · rintro ⟨hne, hsub, f, hf, hnew⟩
    exact ⟨⟨hne, hsub⟩, fun h => hnew (h.2 f hf)⟩

/-- What gives way to one side gives way to both sides merged. -/
theorem GivesWay.merge_right (h : a.GivesWay b) (c : Snapshot) : a.GivesWay (b.merge c) := by
  obtain ⟨hne, hsub, f, hf, hnew⟩ := givesWay_iff.mp h
  exact givesWay_iff.mpr ⟨hne, fun g hg => mem_sources_merge.mpr (.inl (hsub g hg)),
    f, mem_sources_merge.mpr (.inl hf), hnew⟩

/-- If a snapshot gives way to another one and that one to a third, so do the two merged. -/
theorem GivesWay.merge_left (h : a.GivesWay b) (h' : b.GivesWay c) : (a.merge b).GivesWay c := by
  obtain ⟨⟨f, hf⟩, hsub, -⟩ := givesWay_iff.mp h
  obtain ⟨-, hsub', g, hg, hnew⟩ := givesWay_iff.mp h'
  have hall : ∀ x ∈ (a.merge b).sources, x ∈ b.sources := fun x hx =>
    (mem_sources_merge.mp hx).elim (hsub x) id
  exact givesWay_iff.mpr ⟨⟨f, mem_sources_merge.mpr (.inl hf)⟩, fun x hx => hsub' x (hall x hx),
    g, hg, fun hx => hnew (hall g hx)⟩

/-! ## Formats -/

/-- The format of a commodity, if there is one. -/
def formatOf (symbol : String) (s : Snapshot) : Option CommodityFormat :=
  (s.commodities.get? symbol).bind (·.format)

/-- Whether two snapshots do not give a commodity two different formats. -/
def Compatible (symbol : String) (a b : Snapshot) : Prop :=
  ∀ x y, a.formatOf symbol = some x → b.formatOf symbol = some y → x = y

/-- The first format stays. -/
theorem formatOf_absorb (hb : b.Distinct) (symbol : String) :
    (a.absorb b).formatOf symbol = (a.formatOf symbol).or (b.formatOf symbol) := by
  rw [formatOf, get?_commodities_absorb hb, formatOf, formatOf]
  cases a.commodities.get? symbol with
  | none => cases b.commodities.get? symbol <;> rfl
  | some x =>
    cases b.commodities.get? symbol with
    | none => simp
    | some y => cases hx : x.format <;> simp [Commodity.join, hx]

/-- Whether a commodity has a format is known from the texts behind a snapshot. -/
theorem pooled_isSome_formatOf (symbol : String) :
    Pooled fun s => (s.formatOf symbol).isSome := by
  have hflag : (fun s : Snapshot => ((s.formatOf symbol).isSome : Prop)) = fun s =>
      (s.commodities.get? symbol).any fun c => (c.declared, c.format.isSome).2 := by
    funext s
    rw [formatOf]
    cases s.commodities.get? symbol <;> rfl
  rw [hflag]
  exact pooled_commodity Prod.snd (fun _ _ _ _ => rfl) symbol

theorem or_eq_right_iff {α : Type} {x y : Option α} (h : x.isSome → y.isSome) :
    x.or y = y ↔ ∀ p q, x = some p → y = some q → p = q := by
  cases x with
  | none => simp
  | some p =>
    obtain ⟨q, rfl⟩ := Option.isSome_iff_exists.mp (h rfl)
    simp

theorem or_comm_iff {α : Type} {x y : Option α} :
    x.or y = y.or x ↔ ∀ p q, x = some p → y = some q → p = q := by
  cases x <;> cases y <;> simp

section Family

variable (hfamily : TextFamily family)
include hfamily

/-- A format that one snapshot has is had, in some form, by every snapshot with all its texts. -/
theorem isSome_formatOf_of_subset (ha : MergedFrom family a) (hb : MergedFrom family b)
    (hsub : ∀ f ∈ a.sources, f ∈ b.sources) (h : (a.formatOf symbol).isSome) :
    (b.formatOf symbol).isSome :=
  (pooled_isSome_formatOf symbol).mono hfamily ha hb hsub h

/-- A format of one side does not count where the other side has all its texts and a format. -/
theorem or_eq_left_of_subset (ha : MergedFrom family a) (hb : MergedFrom family b)
    (hsub : ∀ f ∈ b.sources, f ∈ a.sources) :
    (a.formatOf symbol).or (b.formatOf symbol) = a.formatOf symbol := by
  have hpresent : (b.formatOf symbol).isSome → (a.formatOf symbol).isSome :=
    isSome_formatOf_of_subset hfamily hb ha hsub
  cases hx : a.formatOf symbol with
  | some x => rfl
  | none =>
    rw [hx] at hpresent
    simpa using hpresent

/-- If the second side has all texts of the first, its format comes first where both are compatible. -/
theorem or_eq_right_iff_of_subset (ha : MergedFrom family a) (hb : MergedFrom family b)
    (hsub : ∀ f ∈ a.sources, f ∈ b.sources) :
    (a.formatOf symbol).or (b.formatOf symbol) = b.formatOf symbol ↔ Compatible symbol a b :=
  or_eq_right_iff (isSome_formatOf_of_subset hfamily ha hb hsub)

/-- **The format of a commodity in a merged snapshot** is the first one, unless the first side gives
way. -/
theorem formatOf_merge (ha : MergedFrom family a) (hb : MergedFrom family b) (symbol : String) :
    (a.merge b).formatOf symbol =
      if a.GivesWay b then b.formatOf symbol
      else (a.formatOf symbol).or (b.formatOf symbol) := by
  unfold merge
  by_cases hba : b.isPartOf a
  · rw [if_pos hba, if_neg fun h => h.2 hba,
      or_eq_left_of_subset hfamily ha hb (isPartOf_iff.mp hba).2]
  · rw [if_neg hba]
    by_cases hab : a.isPartOf b
    · rw [if_pos hab, if_pos ⟨hab, hba⟩]
    · rw [if_neg hab, if_neg fun h => hab h.1,
        formatOf_absorb (distinct_of_reachable (hb.reachable hfamily))]

/-- The second side decides if it has all texts of the first and more. -/
theorem formatOf_merge_of_subset (ha : MergedFrom family a) (hb : MergedFrom family b)
    (hsub : ∀ f ∈ a.sources, f ∈ b.sources) (hmore : ∃ f ∈ b.sources, f ∉ a.sources) :
    (a.merge b).formatOf symbol = b.formatOf symbol := by
  rw [formatOf_merge hfamily ha hb]
  split
  · rfl
  · rename_i hnot
    have hnil : a.sources = [] := by
      rw [List.eq_nil_iff_forall_not_mem]
      exact fun f hf => hnot (givesWay_iff.mpr ⟨⟨f, hf⟩, hsub, hmore⟩)
    rw [eq_empty_of_sources_eq_nil (ha.reachable hfamily) hnil]
    rfl

/-! ## Order and bracketing -/

/-- **Both orders give the same format** if one side gives way to the other, or if the two are
compatible. -/
theorem formatOf_merge_comm_iff (ha : MergedFrom family a) (hb : MergedFrom family b) :
    (a.merge b).formatOf symbol = (b.merge a).formatOf symbol ↔
      a.GivesWay b ∨ b.GivesWay a ∨ Compatible symbol a b := by
  rw [formatOf_merge hfamily ha hb, formatOf_merge hfamily hb ha]
  by_cases hab : a.GivesWay b
  · have hba : ¬b.GivesWay a := fun h => h.2 hab.1
    rw [if_pos hab, if_neg hba,
      or_eq_left_of_subset hfamily hb ha (isPartOf_iff.mp hab.1).2]
    exact iff_of_true rfl (.inl hab)
  by_cases hba : b.GivesWay a
  · rw [if_neg hab, if_pos hba,
      or_eq_left_of_subset hfamily ha hb (isPartOf_iff.mp hba.1).2]
    exact iff_of_true rfl (.inr (.inl hba))
  · rw [if_neg hab, if_neg hba, or_comm_iff, Compatible]
    simp [hab, hba]

/-- If two snapshots merged give way to a third, bracketing does not matter: the third decides. -/
theorem formatOf_merge_assoc_of_givesWay (ha : MergedFrom family a) (hb : MergedFrom family b)
    (hc : MergedFrom family c) (h : (a.merge b).GivesWay c) :
    ((a.merge b).merge c).formatOf symbol = (a.merge (b.merge c)).formatOf symbol := by
  obtain ⟨-, hsub, f, hf, hnew⟩ := givesWay_iff.mp h
  simp only [mem_sources_merge, not_or] at hsub hnew
  have hright : (b.merge c).formatOf symbol = c.formatOf symbol := by
    refine formatOf_merge_of_subset hfamily hb hc ?_ ⟨f, hf, hnew.2⟩
    intro g hg
    exact hsub g (.inr hg)
  have hleft : (a.merge (b.merge c)).formatOf symbol = (b.merge c).formatOf symbol := by
    refine formatOf_merge_of_subset hfamily ha (.merge hb hc) ?_
      ⟨f, mem_sources_merge.mpr (.inr hf), hnew.1⟩
    intro g hg
    exact mem_sources_merge.mpr (.inr (hsub g (.inl hg)))
  rw [formatOf_merge hfamily (.merge ha hb) hc, if_pos h, hleft, hright]

/-- If the first snapshot gives way to the second, bracketing does not matter. -/
theorem formatOf_merge_assoc_of_givesWay_left (ha : MergedFrom family a) (hb : MergedFrom family b)
    (hc : MergedFrom family c) (h : a.GivesWay b) (hnot : ¬(a.merge b).GivesWay c) :
    ((a.merge b).merge c).formatOf symbol = (a.merge (b.merge c)).formatOf symbol := by
  have hbc : ¬b.GivesWay c := fun h' => hnot (h.merge_left h')
  rw [formatOf_merge hfamily (.merge ha hb) hc, if_neg hnot, formatOf_merge hfamily ha hb, if_pos h,
    formatOf_merge hfamily ha (.merge hb hc), if_pos (h.merge_right c),
    formatOf_merge hfamily hb hc, if_neg hbc]

/-- **Both brackets give the same format** unless a side gives way inside the second bracket only, and
by that another format comes first. -/
theorem formatOf_merge_assoc_iff (ha : MergedFrom family a) (hb : MergedFrom family b)
    (hc : MergedFrom family c) :
    ((a.merge b).merge c).formatOf symbol = (a.merge (b.merge c)).formatOf symbol ↔
      a.GivesWay b ∨ (a.merge b).GivesWay c ∨
        (a.GivesWay (b.merge c) → Compatible symbol a (b.merge c)) ∧
        (b.GivesWay c → a.formatOf symbol = none → Compatible symbol b c) := by
  by_cases habc : (a.merge b).GivesWay c
  · exact iff_of_true (formatOf_merge_assoc_of_givesWay hfamily ha hb hc habc) (.inr (.inl habc))
  by_cases hab : a.GivesWay b
  · exact iff_of_true (formatOf_merge_assoc_of_givesWay_left hfamily ha hb hc hab habc) (.inl hab)
  have hfirst (h : a.GivesWay (b.merge c)) : (a.formatOf symbol).or ((b.merge c).formatOf symbol) =
      (b.merge c).formatOf symbol ↔ Compatible symbol a (b.merge c) :=
    or_eq_right_iff_of_subset hfamily ha (.merge hb hc) (isPartOf_iff.mp h.1).2
  have hsecond (h : b.GivesWay c) : (b.formatOf symbol).or (c.formatOf symbol) = c.formatOf symbol ↔
      Compatible symbol b c :=
    or_eq_right_iff_of_subset hfamily hb hc (isPartOf_iff.mp h.1).2
  have hbc := formatOf_merge hfamily hb hc symbol
  rw [formatOf_merge hfamily (.merge ha hb) hc, if_neg habc, formatOf_merge hfamily ha hb,
    if_neg hab, Option.or_assoc, formatOf_merge hfamily ha (.merge hb hc)]
  simp only [hab, habc, false_or]
  -- What is left depends on who gives way inside the second bracket.
  by_cases hright : b.GivesWay c <;> by_cases hleft : a.GivesWay (b.merge c)
  · rw [if_pos hright] at hbc
    simp only [hleft, hright, if_true, forall_const, ← hfirst hleft, ← hsecond hright, hbc]
    cases a.formatOf symbol <;> simp
  · rw [if_pos hright] at hbc
    simp only [hleft, hright, if_false, forall_const, false_imp_iff, true_and, ← hsecond hright, hbc]
    cases a.formatOf symbol <;> simp
  · rw [if_neg hright] at hbc
    simp only [hleft, hright, if_true, forall_const, false_imp_iff, and_true, ← hfirst hleft, hbc]
  · rw [if_neg hright] at hbc
    simp only [hleft, hright, if_false, false_imp_iff, and_true, hbc]

/-- **The order of merging.**  Neither the order in which snapshots are merged nor the bracketing
changes what is known about accounts, which commodities are known, which are declared and which have
a format.  The format itself is the same in both orders if and only if one side gives way to the other
or the two are compatible; it is the same in both brackets if and only if none gives way inside the
second bracket alone, or those that do are compatible with what comes first instead. -/
theorem merge_comm_assoc (ha : MergedFrom family a) (hb : MergedFrom family b)
    (hc : MergedFrom family c) :
    SameNames (a.merge b) (b.merge a) ∧
    SameNames ((a.merge b).merge c) (a.merge (b.merge c)) ∧
    (∀ symbol, (a.merge b).formatOf symbol = (b.merge a).formatOf symbol ↔
      a.GivesWay b ∨ b.GivesWay a ∨ Compatible symbol a b) ∧
    ∀ symbol, ((a.merge b).merge c).formatOf symbol = (a.merge (b.merge c)).formatOf symbol ↔
      a.GivesWay b ∨ (a.merge b).GivesWay c ∨
        (a.GivesWay (b.merge c) → Compatible symbol a (b.merge c)) ∧
        (b.GivesWay c → a.formatOf symbol = none → Compatible symbol b c) := by
  refine ⟨?_, ?_, fun symbol => formatOf_merge_comm_iff hfamily ha hb,
    fun symbol => formatOf_merge_assoc_iff hfamily ha hb hc⟩
  · refine sameNames_of_sources hfamily (.merge ha hb) (.merge hb ha) fun f => ?_
    rw [mem_sources_merge, mem_sources_merge, or_comm]
  · refine sameNames_of_sources hfamily (.merge (.merge ha hb) hc) (.merge ha (.merge hb hc))
      fun f => ?_
    simp only [mem_sources_merge, or_assoc]

end Family

/-- A text that declares a commodity with a format and one that uses it: both orders and both
brackets give that format. -/
theorem merge_comm_assoc_of_one_format :
    ∃ a b, ofText .plain "commodity $1,000.00\n" = .ok a ∧
      ofText .plain "2024-01-05 x\n p  $5\n q\n" = .ok b ∧ TextFamily {a, b} ∧
      (a.formatOf "$").isSome ∧ SameNames (a.merge b) (b.merge a) ∧
      (a.merge b).formatOf "$" = (b.merge a).formatOf "$" ∧
      ((a.merge b).merge a).formatOf "$" = (a.merge (b.merge a)).formatOf "$" := by
  have hread : ((ofText .plain "commodity $1,000.00\n").bind fun a =>
      (ofText .plain "2024-01-05 x\n p  $5\n q\n").map fun b =>
        decide (a.sources ≠ b.sources ∧ (a.formatOf "$").isSome ∧ b.formatOf "$" = none ∧
          a.formatOf "$" = (b.merge a).formatOf "$")) = .ok true := by
    decide +kernel
  obtain ⟨a, b, ha, hb, hfacts⟩ := exists_ok_of_bind_map hread
  obtain ⟨hne, hsome, hnone, hkept⟩ := of_decide_eq_true hfacts
  have hfamily := TextFamily.pair ha hb hne
  have hpart : MergedFrom {a, b} a := .part (.inl rfl)
  have hpart' : MergedFrom {a, b} b := .part (.inr rfl)
  obtain ⟨hnames, -, hcomm, hassoc⟩ := merge_comm_assoc hfamily hpart hpart' hpart
  have hcompatible : Compatible "$" a b := by
    intro x y _ hy
    rw [hnone] at hy
    cases hy
  have hcompatible' : Compatible "$" a (b.merge a) := by
    intro x y hx hy
    rw [← hkept, hx] at hy
    exact Option.some.inj hy
  refine ⟨a, b, ha, hb, hfamily, hsome, hnames, (hcomm "$").mpr (.inr (.inr hcompatible)),
    (hassoc "$").mpr (.inr (.inr ⟨fun _ => hcompatible', fun _ hno => ?_⟩))⟩
  rw [hno] at hsome
  cases hsome

/-- **Two texts with different formats** of one commodity: the first one stays, so both the order and
the bracketing can be told from the format. -/
theorem merge_order_of_two_formats :
    ∃ a b, ofText .plain "commodity $1,000.00\n" = .ok a ∧
      ofText .plain "commodity $1.000,00\n" = .ok b ∧ TextFamily {a, b} ∧
      (a.merge b).formatOf "$" ≠ (b.merge a).formatOf "$" ∧
      ((a.merge b).merge a).formatOf "$" ≠ (a.merge (b.merge a)).formatOf "$" := by
  have hread : ((ofText .plain "commodity $1,000.00\n").bind fun a =>
      (ofText .plain "commodity $1.000,00\n").map fun b =>
        decide (a.sources ≠ b.sources ∧
          (a.merge b).formatOf "$" ≠ (b.merge a).formatOf "$" ∧
          ((a.merge b).merge a).formatOf "$" ≠ (a.merge (b.merge a)).formatOf "$")) =
      .ok true := by
    decide +kernel
  obtain ⟨a, b, ha, hb, hfacts⟩ := exists_ok_of_bind_map hread
  obtain ⟨hne, hcomm, hassoc⟩ := of_decide_eq_true hfacts
  exact ⟨a, b, ha, hb, TextFamily.pair ha hb hne, hcomm, hassoc⟩

end Snapshot

end Daybook
