import Daybook.Proofs.Snapshot.Absorb
import Daybook.Proofs.Template.Ring
import Daybook.Proofs.Template.Store

/-!
# The templates and the recently used keys of a snapshot

A transaction with a payee and at least two postings is a use of a template.  A snapshot keeps a few
templates for each payee and the keys of its last uses, and both are merged with those of other
snapshots.  Whatever the order of these steps, they stand for the uses among the transactions.

* `templateUses`: the uses of templates of a payee among transactions.
* `Snapshot.Templated`: the templates and the recently used keys of each payee stand for its uses.
* `Snapshot.templated_of_reachable`: so it is in every reachable snapshot.
* `Snapshot.templates_and_recent_of_reachable`: what that says about each kept template.
-/

namespace Daybook

open Calendar Journal Template

/-! ## Uses of templates -/

/-- The transactions of a payee that have at least two postings. -/
def templateUses (payee : String) (ts : List Transaction) : List Transaction :=
  ts.filter fun t => t.payee = payee ∧ 2 ≤ t.postings.length

/-- The uses of templates of a payee; transactions without a payee are none. -/
def countedUses (payee : String) (ts : List Transaction) : List Transaction :=
  if payee.isEmpty then [] else templateUses payee ts

theorem countedUses_append (payee : String) (ts ts' : List Transaction) :
    countedUses payee (ts ++ ts') = countedUses payee ts ++ countedUses payee ts' := by
  unfold countedUses
  split
  · rfl
  · exact List.filter_append ..

theorem countedUses_singleton_of_use {t : Transaction}
    (h : 2 ≤ t.postings.length ∧ !t.payee.isEmpty) (payee : String) :
    countedUses payee [t] = if payee = t.payee then [t] else [] := by
  by_cases hpayee : payee = t.payee
  · have hnamed : ¬t.payee.isEmpty := by simpa using h.2
    rw [if_pos hpayee, hpayee, countedUses, if_neg hnamed]
    simp [templateUses, h.1]
  · rw [if_neg hpayee, countedUses]
    split
    · rfl
    · simp [templateUses, Ne.symm hpayee]

theorem countedUses_singleton_of_not {t : Transaction}
    (h : ¬(2 ≤ t.postings.length ∧ !t.payee.isEmpty)) (payee : String) :
    countedUses payee [t] = [] := by
  unfold countedUses
  split
  · rfl
  · rename_i hnamed
    refine List.filter_eq_nil_iff.mpr fun u hu huse => h ?_
    rw [List.mem_singleton.mp hu] at huse
    obtain ⟨hpayee, htwo⟩ := of_decide_eq_true huse
    rw [hpayee]
    exact ⟨htwo, by simpa using hnamed⟩

namespace Snapshot

/-! ## Kept templates and recently used keys -/

/-- Whether the recently used keys of a payee are the last ones of a list. -/
def Remembered (keys : List String) : Option RecentKeys → Prop
  | none => keys = []
  | some r => keys ≠ [] ∧ r.capacity = RecentKeys.standardCapacity ∧ r.Holds keys

theorem Remembered.isSome_iff {keys : List String} {old : Option RecentKeys}
    (h : Remembered keys old) : old.isSome ↔ keys ≠ [] := by
  cases old with
  | none =>
    have hkeys : keys = [] := h
    simp [hkeys]
  | some r => simp [h.1]

theorem Remembered.getD {keys : List String} {old : Option RecentKeys} (h : Remembered keys old) :
    (old.getD (.empty RecentKeys.standardCapacity)).capacity = RecentKeys.standardCapacity ∧
      (old.getD (.empty RecentKeys.standardCapacity)).Holds keys := by
  cases old with
  | none =>
    have hkeys : keys = [] := h
    rw [hkeys]
    exact ⟨rfl, RecentKeys.holds_empty (by decide)⟩
  | some r => exact h.2

theorem Remembered.push {keys : List String} {old : Option RecentKeys} (h : Remembered keys old)
    (key : String) :
    Remembered (keys ++ [key])
      (some ((old.getD (.empty RecentKeys.standardCapacity)).push key)) :=
  ⟨List.concat_ne_nil key keys, h.getD.1, h.getD.2.push key⟩

theorem Remembered.joinRecent {keys keys' : List String} {old : Option RecentKeys}
    {added : RecentKeys} (h : Remembered keys old) (h' : Remembered keys' (some added)) :
    Remembered (keys ++ keys') (some (joinRecent added old)) := by
  obtain ⟨hcapacity, hholds⟩ := h.getD
  obtain ⟨hne, hcapacity', hholds'⟩ := h'
  rw [Snapshot.joinRecent, hcapacity']
  refine ⟨List.append_ne_nil_of_right_ne_nil keys hne, ?_,
    hholds.pushAll_keys hholds' (hcapacity'.trans hcapacity.symm)⟩
  rw [RecentKeys.Holds.capacity_pushAll, hcapacity]

/-- Whether the templates and the recently used keys of each payee stand for its uses among
transactions. -/
structure Templated (s : Snapshot) (ts : List Transaction) : Prop where
  templates : ∀ payee, Stored payee (countedUses payee ts) (s.templates.get? payee)
  recent : ∀ payee,
    Remembered ((countedUses payee ts).map (·.templateKey)) (s.recent.get? payee)

theorem templated_empty : Templated .empty [] where
  templates payee := by
    show countedUses payee [] = []
    simp [countedUses, templateUses]
  recent payee := by
    show (countedUses payee []).map (·.templateKey) = []
    simp [countedUses, templateUses]

variable {s : Snapshot} {ts : List Transaction}

/-- Counting a transaction as the use of a template. -/
theorem Templated.recordTemplate (h : s.Templated ts) {t : Transaction}
    (huse : 2 ≤ t.postings.length ∧ !t.payee.isEmpty) :
    (s.recordTemplate t.payee t.date t.postings).Templated (ts ++ [t]) where
  templates payee := by
    rw [countedUses_append, countedUses_singleton_of_use huse, Snapshot.recordTemplate]
    dsimp only
    rw [Table.get?_alter]
    by_cases hpayee : payee = t.payee
    · rw [if_pos hpayee, if_pos hpayee, hpayee]
      exact (h.templates t.payee).recordUse t
    · rw [if_neg hpayee, if_neg hpayee, List.append_nil]
      exact h.templates payee
  recent payee := by
    rw [countedUses_append, countedUses_singleton_of_use huse, Snapshot.recordTemplate,
      List.map_append]
    dsimp only
    rw [Table.get?_alter]
    by_cases hpayee : payee = t.payee
    · rw [if_pos hpayee, if_pos hpayee, hpayee]
      exact (h.recent t.payee).push t.templateKey
    · rw [if_neg hpayee, if_neg hpayee, List.map_nil, List.append_nil]
      exact h.recent payee

theorem Templated.recordTransaction (h : s.Templated ts) (day : String → Option Date)
    (complaint : String → Warning) (t : Transaction) :
    (s.recordTransaction day complaint t).Templated (ts ++ [t]) := by
  obtain ⟨-, htemplates, hrecent, -⟩ := enter_frame day complaint t s
  have henter : (s.enter day complaint t).Templated ts := by
    constructor
    · rw [htemplates]
      exact h.templates
    · rw [hrecent]
      exact h.recent
  rw [recordTransaction_eq]
  split
  · rename_i huse
    exact henter.recordTemplate huse
  · rename_i hnot
    refine ⟨fun payee => ?_, fun payee => ?_⟩
    · rw [countedUses_append, countedUses_singleton_of_not hnot, List.append_nil]
      exact henter.templates payee
    · rw [countedUses_append, countedUses_singleton_of_not hnot, List.append_nil]
      exact henter.recent payee

/-- Merging adds the uses of both sides. -/
theorem Templated.absorb {a b : Snapshot} {ts ts' : List Transaction} (ha : a.Templated ts)
    (hb : b.Templated ts') (hdistinct : b.Distinct) : (a.absorb b).Templated (ts ++ ts') where
  templates payee := by
    have hstored := hb.templates payee
    rw [get?_templates_absorb hdistinct.templates, countedUses_append]
    cases hadded : b.templates.get? payee with
    | none =>
      rw [hadded] at hstored
      have hnone : countedUses payee ts' = [] := hstored
      rw [hnone, List.append_nil]
      exact ha.templates payee
    | some added =>
      rw [hadded] at hstored
      exact (ha.templates payee).mergeTemplates hstored
  recent payee := by
    have hremembered := hb.recent payee
    rw [get?_recent_absorb hdistinct, countedUses_append, List.map_append]
    cases hadded : b.recent.get? payee with
    | none =>
      rw [hadded] at hremembered
      have hnone : (countedUses payee ts').map (·.templateKey) = [] := hremembered
      rw [hnone, List.append_nil]
      exact ha.recent payee
    | some added =>
      rw [hadded] at hremembered
      exact (ha.recent payee).joinRecent hremembered

/-- What a statement of a journal changes keeps to the uses. -/
theorem Templated.change {s' : Snapshot} (h : s.Templated s.transactions) (hs : Change s s') :
    s'.Templated s'.transactions := by
  cases hs with
  | transaction day complaint t =>
    rw [transactions_recordTransaction]
    exact h.recordTransaction day complaint t
  | _ => exact ⟨h.templates, h.recent⟩

/-- **Templates and recently used keys stand for the uses** in every reachable snapshot. -/
theorem templated_of_reachable {s : Snapshot} (h : Reachable s) : s.Templated s.transactions := by
  have hboth : s.Distinct ∧ s.Templated s.transactions := by
    refine h.induction (P := fun s => s.Distinct ∧ s.Templated s.transactions)
      ⟨distinct_empty, templated_empty⟩
      (fun _ _ hs hstep => ⟨hs.1.change hstep, hs.2.change hstep⟩)
      fun a b ha hb => ⟨ha.1.absorb, ?_⟩
    rw [transactions_absorb]
    exact ha.2.absorb hb.2 hb.1
  exact hboth.2

theorem countedUses_of_ne {payee : String} (h : payee ≠ "") (ts : List Transaction) :
    countedUses payee ts = templateUses payee ts :=
  if_neg (by simpa using h)

theorem countedUses_ne_nil_iff {payee : String} {ts : List Transaction} :
    countedUses payee ts ≠ [] ↔ payee ≠ "" ∧ templateUses payee ts ≠ [] := by
  by_cases hpayee : payee = ""
  · rw [hpayee]
    simp [countedUses]
  · rw [countedUses_of_ne hpayee]
    simp [hpayee]

theorem Templated.contains_templates_iff (h : s.Templated ts) (payee : String) :
    s.templates.contains payee ↔ payee ≠ "" ∧ templateUses payee ts ≠ [] :=
  (h.templates payee).isSome_iff.trans countedUses_ne_nil_iff

theorem Templated.contains_recent_iff (h : s.Templated ts) (payee : String) :
    s.recent.contains payee ↔ payee ≠ "" ∧ templateUses payee ts ≠ [] := by
  have hkeys := (h.recent payee).isSome_iff
  rw [ne_eq, List.map_eq_nil_iff] at hkeys
  exact hkeys.trans countedUses_ne_nil_iff

/-- The table of a payee stands for all its transactions with at least two postings. -/
theorem Templated.stored (h : s.Templated ts) {payee : String} {t : TemplateTable}
    (ht : s.templates.get? payee = some t) : Stored payee (templateUses payee ts) (some t) := by
  have hpayee := ((h.contains_templates_iff payee).mp (Table.contains_of_get?_eq_some ht)).1
  have hstored := h.templates payee
  rwa [ht, countedUses_of_ne hpayee] at hstored

/-- The ring of a payee holds the last keys of all its transactions with at least two postings. -/
theorem Templated.keys_eq (h : s.Templated ts) {payee : String} {r : RecentKeys}
    (hr : s.recent.get? payee = some r) :
    r.keys = ((templateUses payee ts).map (·.templateKey)).rtake RecentKeys.standardCapacity := by
  have hpayee := ((h.contains_recent_iff payee).mp (Table.contains_of_get?_eq_some hr)).1
  have hremembered := h.recent payee
  rw [hr, countedUses_of_ne hpayee] at hremembered
  obtain ⟨-, hcapacity, hholds⟩ := hremembered
  rw [hholds.keys_eq, hcapacity]

/-- **Templates and recently used keys of a reachable snapshot.**  A payee with a use has between
one and five templates.  Each stands under its own key for uses of that key: its postings are what
one of them leaves, its date is that of one of them, and it counts at most all of them.  If the uses
have at most five keys, each key has its template, which counts all uses and has the latest date.
The ring of the payee holds the keys of the last fifty uses. -/
theorem templates_and_recent_of_reachable {s : Snapshot} (h : Reachable s) (payee : String) :
    (∀ t, s.templates.get? payee = some t →
      1 ≤ t.size ∧ t.size ≤ 5 ∧
      ((keysOf (templateUses payee s.transactions)).card ≤ 5 →
        ∀ u ∈ templateUses payee s.transactions, t.contains u.templateKey) ∧
      ∀ k tm, (k, tm) ∈ t.entries →
        tm.payee = payee ∧ tm.key = k ∧
        (tm.postings.map (·.account)).Nodup ∧
        templateKey (tm.postings.map (·.account)) = k ∧
        (∃ u ∈ templateUses payee s.transactions,
          u.templateKey = k ∧ skeleton u.postings = tm.postings) ∧
        1 ≤ tm.usageCount ∧
        tm.usageCount ≤ (templateUses payee s.transactions).countP (·.templateKey = k) ∧
        (∃ u ∈ templateUses payee s.transactions, u.templateKey = k ∧ u.date = tm.lastUsed) ∧
        ((keysOf (templateUses payee s.transactions)).card ≤ 5 →
          tm.usageCount = (templateUses payee s.transactions).countP (·.templateKey = k) ∧
          ∀ u ∈ templateUses payee s.transactions, u.templateKey = k → u.date.le tm.lastUsed)) ∧
    (∀ r, s.recent.get? payee = some r →
      r.keys = ((templateUses payee s.transactions).map (·.templateKey)).rtake 50) ∧
    (payee ≠ "" → templateUses payee s.transactions ≠ [] →
      s.templates.contains payee ∧ s.recent.contains payee) := by
  have htemplated := templated_of_reachable h
  refine ⟨fun t ht => ?_, fun r hr => htemplated.keys_eq hr, fun hpayee huses =>
    ⟨(htemplated.contains_templates_iff payee).mpr ⟨hpayee, huses⟩,
      (htemplated.contains_recent_iff payee).mpr ⟨hpayee, huses⟩⟩⟩
  obtain ⟨hsound, hone, hfive, hexact⟩ := htemplated.stored ht
  refine ⟨hone, hfive, fun hfew u hu => ?_, fun k tm htm => ?_⟩
  · obtain ⟨tm, htm, -⟩ := hexact hfew u hu
    exact Table.contains_of_get?_eq_some htm
  have hget := hsound.distinct.get?_eq_some_iff.mpr htm
  have hstands := hsound.stands hget
  obtain ⟨u, hu, hkey, hpostings⟩ := hstands.postings_eq
  obtain ⟨v, hv, hvkey, hdate⟩ := hstands.lastUsed_eq
  refine ⟨hstands.payee_eq, hstands.key_eq, ?_, ?_, ⟨u, hu, hkey, hpostings.symm⟩,
    hstands.one_le, hstands.le_count, ⟨v, hv, hvkey, hdate.symm⟩, fun hfew => ?_⟩
  · rw [hpostings]
    exact nodup_map_account_skeleton u.postings
  · rw [hpostings, templateKey_skeleton]
    exact hkey
  · have hcomplete := (hexact hfew).complete hget hstands.exists_use
    exact ⟨le_antisymm hstands.le_count hcomplete.count_le,
      fun w hw hwkey => decide_eq_true (hcomplete.rank_le w hw hwkey)⟩

/-- Three uses of templates of a payee. -/
def earlyUses : String :=
  "2024-01-01 S\n a\n a\n2024-01-02 S\n b\n b\n2024-01-03 S\n c\n c\n"

/-- Four later ones, of which the first is of a template that was used before. -/
def lateUses : String :=
  "2024-01-04 S\n a\n a\n2024-01-05 S\n d\n d\n2024-01-06 S\n e\n e\n2024-01-07 S\n f\n f\n"

/-- Seven uses of six keys in two texts: the merged snapshot has five templates, of which one counts
the uses of both texts, and its ring holds the key of the template that was given up. -/
theorem templates_and_recent_of_two_texts :
    ∃ a b t r, ofText .plain earlyUses = .ok a ∧ ofText .plain lateUses = .ok b ∧
      (templateUses "S" (a.merge b).transactions).length = 7 ∧
      (a.merge b).templates.get? "S" = some t ∧ (a.merge b).recent.get? "S" = some r ∧
      t.entries.map (fun e => (e.1, e.2.usageCount)) =
        [("a", 2), ("c", 1), ("d", 1), ("e", 1), ("f", 1)] ∧
      r.keys = ["a", "b", "c", "a", "d", "e", "f"] ∧
      t.size ≤ 5 ∧
      (∀ k tm, (k, tm) ∈ t.entries → tm.payee = "S" ∧ tm.key = k ∧
        ∃ u ∈ templateUses "S" (a.merge b).transactions, u.templateKey = k ∧
          u.date = tm.lastUsed) ∧
      r.keys = ((templateUses "S" (a.merge b).transactions).map (·.templateKey)).rtake 50 := by
  have hread : ((ofText .plain earlyUses).bind fun a => (ofText .plain lateUses).map fun b =>
      decide ((templateUses "S" (a.merge b).transactions).length = 7 ∧
        ((a.merge b).templates.get? "S").map
            (fun t => t.entries.map fun e => (e.1, e.2.usageCount)) =
          some [("a", 2), ("c", 1), ("d", 1), ("e", 1), ("f", 1)] ∧
        ((a.merge b).recent.get? "S").map (·.keys) =
          some ["a", "b", "c", "a", "d", "e", "f"])) = .ok true := by
    decide +kernel
  obtain ⟨a, b, ha, hb, hfacts⟩ := exists_ok_of_bind_map hread
  obtain ⟨huses, hcounts, hkeys⟩ := of_decide_eq_true hfacts
  obtain ⟨t, ht, htcounts⟩ := Option.map_eq_some_iff.mp hcounts
  obtain ⟨r, hr, hrkeys⟩ := Option.map_eq_some_iff.mp hkeys
  obtain ⟨hstored, hring, -⟩ :=
    templates_and_recent_of_reachable ((Reachable.ofText ha).merge (.ofText hb)) "S"
  obtain ⟨-, hfive, -, heach⟩ := hstored t ht
  refine ⟨a, b, t, r, ha, hb, huses, ht, hr, htcounts, hrkeys, hfive, fun k tm htm => ?_,
    hring r hr⟩
  obtain ⟨hpayee, hkey, -, -, -, -, -, hdate, -⟩ := heach k tm htm
  exact ⟨hpayee, hkey, hdate⟩

end Snapshot

end Daybook
