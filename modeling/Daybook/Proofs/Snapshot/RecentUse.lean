import Daybook.Completion.Offers
import Daybook.Proofs.Snapshot.TemplateOrder
import Daybook.Proofs.Template.Replay

/-!
# Recent uses and all uses

A suggestion of a template says how often the template was used and how often lately.  The first number
counts the uses since the template was last there anew, the second one those among the last fifty uses
of the payee.  A payee with more than five sets of accounts can have used a template lately, lost it and
used it again, and then the second number is the greater one.

* `Snapshot.Replayed`: whether the templates of each payee are what its uses leave, one after another;
  `Snapshot.replayed_of_built`: those of a text are.
* `Snapshot.recentCount_le_usageCount_iff`: when the recent uses of a template are at most all that it
  counts.
-/

namespace Daybook

open Journal Template Completion

namespace Snapshot

/-- Whether the templates of each payee are what its uses among transactions leave, one after
another. -/
def Replayed (s : Snapshot) (ts : List Transaction) : Prop :=
  ∀ payee, s.templateTable payee = tableAfter payee (countedUses payee ts)

variable {s : Snapshot} {ts : List Transaction}

theorem replayed_empty : Replayed .empty [] := by
  intro payee
  have hnone : countedUses payee [] = [] := by simp [countedUses, templateUses]
  rw [hnone]
  rfl

/-- Counting a transaction as the use of a template. -/
theorem Replayed.recordTemplate (h : s.Replayed ts) {t : Transaction}
    (huse : 2 ≤ t.postings.length ∧ !t.payee.isEmpty) :
    (s.recordTemplate t.payee t.date t.postings).Replayed (ts ++ [t]) := by
  intro payee
  rw [countedUses_append, countedUses_singleton_of_use huse, Snapshot.recordTemplate,
    Snapshot.templateTable]
  dsimp only
  rw [Table.get?_alter]
  by_cases hpayee : payee = t.payee
  · rw [if_pos hpayee, if_pos hpayee, hpayee, tableAfter_concat, ← h t.payee]
    rfl
  · rw [if_neg hpayee, if_neg hpayee, List.append_nil, ← h payee]
    rfl

theorem Replayed.recordTransaction (h : s.Replayed ts) (day : String → Option Calendar.Date)
    (complaint : String → Warning) (t : Transaction) :
    (s.recordTransaction day complaint t).Replayed (ts ++ [t]) := by
  obtain ⟨-, htemplates, -⟩ := enter_frame day complaint t s
  have henter : (s.enter day complaint t).Replayed ts := by
    intro payee
    rw [Snapshot.templateTable, htemplates]
    exact h payee
  rw [recordTransaction_eq]
  split
  · rename_i huse
    exact henter.recordTemplate huse
  · rename_i hnot
    intro payee
    rw [countedUses_append, countedUses_singleton_of_not hnot, List.append_nil]
    exact henter payee

/-- **The templates of a text are what its uses leave**, one after another. -/
theorem replayed_of_built (h : s.Built) : s.Replayed s.transactions := by
  refine h.induction (P := fun s => s.Replayed s.transactions) replayed_empty
    fun s s' hs hstep => ?_
  cases hstep with
  | transaction day complaint t =>
    rw [transactions_recordTransaction]
    exact hs.recordTransaction day complaint t
  | _ => exact hs

theorem count_map_templateKey (uses : List Transaction) (k : String) :
    (uses.map (·.templateKey)).count k = uses.countP (·.templateKey = k) := by
  rw [List.count, List.countP_map]
  exact List.countP_congr fun u _ => by simp

/-- The recent uses of a template are those of its key among the last fifty uses of its payee. -/
theorem recentCount_eq (h : s.Templated ts) {payee k : String} {tm : Template}
    (hpayee : tm.payee = payee) (hkey : tm.key = k) (hne : payee ≠ "") :
    s.recentCount tm =
      (((templateUses payee ts).map (·.templateKey)).rtake RecentKeys.standardCapacity).count k := by
  rw [Snapshot.recentCount, hpayee, hkey]
  cases hr : s.recent.get? payee with
  | none =>
    have huses : ¬templateUses payee ts ≠ [] := fun huses => by
      have hcontains := (h.contains_recent_iff payee).mpr ⟨hne, huses⟩
      rw [Table.contains, hr] at hcontains
      cases hcontains
    rw [not_not.mp huses]
    rfl
  | some r =>
    rw [← h.keys_eq hr]
    exact (r.count_keys k).symm

/-- **When the recent uses of a template are at most all that it counts.**  The uses of a payee in the
snapshot of a text are cut where the template was last there anew.  It counts the later uses of its key;
the recent uses are those of its key among the last fifty, on both sides of the cut.  They are at most
all that the template counts exactly if the last fifty uses reach none of the earlier ones of its key.
That is so where the uses have at most five keys, since nothing is given up then.  A suggestion of the
template shows both numbers. -/
theorem recentCount_le_usageCount_iff {options : BuildOptions} {text : String}
    (h : ofText options text = .ok s) {payee k : String} {t : TemplateTable} {tm : Template}
    (ht : s.templates.get? payee = some t) (htm : (k, tm) ∈ t.entries) :
    (∃ earlier later, templateUses payee s.transactions = earlier ++ later ∧
      CountedSince payee k earlier later ∧
      tm.usageCount = later.countP (·.templateKey = k) ∧
      s.recentCount tm =
        ((earlier.map (·.templateKey)).rtake (50 - later.length)).count k +
          ((later.map (·.templateKey)).rtake 50).count k ∧
      (s.recentCount tm ≤ tm.usageCount ↔
        k ∉ (earlier.map (·.templateKey)).rtake (50 - later.length))) ∧
    ((keysOf (templateUses payee s.transactions)).card ≤ 5 → s.recentCount tm ≤ tm.usageCount) ∧
    ∀ lookup r, (templateOffer s lookup r tm).detail =
      some ("template, " ++ usedTimes tm.usageCount ++ ", " ++ toString (s.recentCount tm) ++
        "x recently, last " ++ tm.lastUsed.iso) := by
  have htemplated := templated_of_reachable (.ofText h)
  have hpayee := ((htemplated.contains_templates_iff payee).mp (Table.contains_of_get?_eq_some ht)).1
  obtain ⟨hsound, -, -, hexact⟩ := htemplated.stored ht
  have hget := hsound.distinct.get?_eq_some_iff.mpr htm
  have hstands := hsound.stands hget
  have hrecent := recentCount_eq htemplated hstands.payee_eq hstands.key_eq hpayee
  refine ⟨?_, fun hfew => ?_, fun lookup r => rfl⟩
  · have htable : t = tableAfter payee (templateUses payee s.transactions) := by
      have hreplayed := replayed_of_built (built_of_ofText h) payee
      rwa [Snapshot.templateTable, ht, countedUses_of_ne hpayee] at hreplayed
    rw [htable] at hget
    obtain ⟨earlier, later, huses, hsince, hcount⟩ := exists_countedSince hget
    rw [huses, List.map_append] at hrecent
    refine ⟨earlier, later, huses, hsince, hcount, ?_, ?_⟩
    · rw [hrecent, rtake_append, List.count_append, List.length_map]
      rfl
    · rw [hrecent, hcount, ← count_map_templateKey, count_rtake_append_le_iff, List.length_map]
      rfl
  · have hcomplete := (hexact hfew).complete hget hstands.exists_use
    calc s.recentCount tm
        ≤ ((templateUses payee s.transactions).map (·.templateKey)).count k :=
          hrecent ▸ (List.drop_sublist _ _).count_le k
      _ = (templateUses payee s.transactions).countP (·.templateKey = k) :=
          count_map_templateKey _ k
      _ ≤ tm.usageCount := hcomplete.count_le

/-- A journal of one payee that uses six accounts on one day and the first of them again on the next
day. -/
def sixAccounts : String :=
  String.join ([("05", "a"), ("05", "b"), ("05", "c"), ("05", "d"), ("05", "e"), ("05", "f"),
    ("06", "a")].map fun u => "2024-01-" ++ u.1 ++ " x\n " ++ u.2 ++ "\n " ++ u.2 ++ "\n")

theorem exists_template_of_sixAccounts :
    ∃ s t tm, ofText .plain sixAccounts = .ok s ∧ s.templates.get? "x" = some t ∧
      ("a", tm) ∈ t.entries ∧ tm.usageCount = 1 ∧ s.recentCount tm = 2 := by
  have hread : (ofText .plain sixAccounts).map (fun s =>
      ((s.templates.get? "x").bind fun t => t.get? "a").map fun tm =>
        (tm.usageCount, s.recentCount tm)) = .ok (some (1, 2)) := by
    decide +kernel
  cases htext : ofText .plain sixAccounts with
  | error e =>
    rw [htext] at hread
    cases hread
  | ok s =>
    rw [htext] at hread
    obtain ⟨tm, hget, hcounts⟩ := Option.map_eq_some_iff.mp (Except.ok.inj hread)
    obtain ⟨husage, hrecent⟩ := Prod.mk.inj hcounts
    obtain ⟨t, ht, htm⟩ := Option.bind_eq_some_iff.mp hget
    exact ⟨s, t, tm, rfl, ht, Table.mem_of_find_eq_some htm, husage, hrecent⟩

/-- The sixth account takes the place of the first one, whose earlier use stays in the ring. -/
theorem recentCount_le_usageCount_iff_of_six_accounts :
    ∃ s t tm earlier later, ofText .plain sixAccounts = .ok s ∧
      s.templates.get? "x" = some t ∧ ("a", tm) ∈ t.entries ∧
      templateUses "x" s.transactions = earlier ++ later ∧ CountedSince "x" "a" earlier later ∧
      "a" ∈ (earlier.map (·.templateKey)).rtake (50 - later.length) := by
  obtain ⟨s, t, tm, htext, ht, htm, husage, hrecent⟩ := exists_template_of_sixAccounts
  obtain ⟨⟨earlier, later, huses, hsince, -, -, hiff⟩, -⟩ :=
    recentCount_le_usageCount_iff htext ht htm
  rw [husage, hrecent] at hiff
  exact ⟨s, t, tm, earlier, later, htext, ht, htm, huses, hsince,
    not_not.mp fun hnot => absurd (hiff.mpr hnot) (by decide)⟩

/-- **Recent uses can outnumber all uses**: a template that was given up and used again counts one use,
and two recent ones. -/
theorem exists_usageCount_lt_recentCount :
    ∃ s t tm, ofText .plain sixAccounts = .ok s ∧ s.templates.get? "x" = some t ∧
      ("a", tm) ∈ t.entries ∧ tm.usageCount < s.recentCount tm := by
  obtain ⟨s, t, tm, htext, ht, htm, husage, hrecent⟩ := exists_template_of_sixAccounts
  refine ⟨s, t, tm, htext, ht, htm, ?_⟩
  rw [husage, hrecent]
  decide

end Snapshot

end Daybook
