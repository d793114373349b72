import Daybook.Completion.Lookup
import Daybook.Proofs.Snapshot.Totals

/-!
# Names that are listed once

A snapshot lists the names of payees and tags and the values of each tag, and it keeps accounts and
commodities in tables.  Whatever texts it is built from and merged of, each of its lists has every name
once, so each subject that can be completed has distinct names.

* `Snapshot.NamesOnce`: whether no payee, no tag and no value of a tag is listed twice.
* `Snapshot.NamesOnce.change`, `Snapshot.NamesOnce.absorb`: changes and additions keep it so.
* `Completion.Subject.nodup_names`: the names of a subject.
-/

namespace Daybook

open Calendar Completion

namespace Snapshot

/-- Whether no payee, no tag and no value of a tag is listed twice. -/
structure NamesOnce (s : Snapshot) : Prop where
  payees : s.payees.Nodup
  tags : s.tags.Nodup
  tagValues : ∀ key, ((s.tagValues.get? key).getD []).Nodup

theorem namesOnce_empty : NamesOnce .empty where
  payees := List.nodup_nil
  tags := List.nodup_nil
  tagValues _ := List.nodup_nil

variable {s s' : Snapshot}

theorem NamesOnce.useTag (h : s.NamesOnce) (tag : Journal.TagPair) : (s.useTag tag).NamesOnce := by
  rw [useTag_eq]
  refine { h with tags := h.tags.insert, tagValues := fun key => ?_ }
  dsimp only
  split
  · exact h.tagValues key
  · rw [Table.get?_alter]
    split
    · rename_i hkey
      exact hkey ▸ (h.tagValues key).insert
    · exact h.tagValues key

theorem NamesOnce.record (h : s.NamesOnce) (complaint : String → Journal.Warning)
    (e : BookEntry) : (e.record complaint s).NamesOnce := by
  cases e with
  | payee payee => exact { h with payees := h.payees.insert }
  | tag tag => exact h.useTag tag
  | _ => exact { h with }

theorem NamesOnce.recordTransaction (h : s.NamesOnce) (day : String → Option Date)
    (complaint : String → Journal.Warning) (t : Journal.Transaction) :
    (s.recordTransaction day complaint t).NamesOnce := by
  have henter : (s.enter day complaint t).NamesOnce :=
    foldl_record_induction (P := NamesOnce) (fun e _ hs => hs.record complaint e) _ { h with }
  rw [recordTransaction_eq]
  split
  · exact { henter with }
  · exact henter

theorem NamesOnce.change (h : s.NamesOnce) (hs : Change s s') : s'.NamesOnce := by
  cases hs with
  | payee payee => exact { h with payees := h.payees.insert }
  | tag key => exact { h with tags := h.tags.insert }
  | transaction day complaint t => exact h.recordTransaction day complaint t
  | _ => exact { h with }

theorem NamesOnce.absorb {a b : Snapshot} (ha : a.NamesOnce) (hb : b.Distinct) :
    (a.absorb b).NamesOnce := by
  rw [absorb_eq]
  refine
    { payees := nodup_uniteMembers ha.payees _
      tags := nodup_uniteMembers ha.tags _
      tagValues := fun key => ?_ }
  dsimp only
  rw [get?_unite hb.tagValues]
  cases b.tagValues.get? key with
  | none => exact ha.tagValues key
  | some values => exact nodup_uniteMembers (ha.tagValues key) values

/-- **No name is listed twice in a reachable snapshot.** -/
theorem namesOnce_of_reachable (h : Reachable s) : s.NamesOnce :=
  (h.induction (P := fun s => s.Distinct ∧ s.NamesOnce) ⟨distinct_empty, namesOnce_empty⟩
    (fun _ _ hs hchange => ⟨hs.1.change hchange, hs.2.change hchange⟩)
    fun _ _ ha hb => ⟨ha.1.absorb, ha.2.absorb hb.1⟩).2

end Snapshot

/-- **The names of a subject are distinct** in every reachable snapshot. -/
theorem Completion.Subject.nodup_names {s : Snapshot} (h : Snapshot.Reachable s)
    (subject : Subject) : (subject.names s).Nodup := by
  have hnames := Snapshot.namesOnce_of_reachable h
  have hdistinct := Snapshot.distinct_of_reachable h
  cases subject with
  | payees => exact hnames.payees
  | accounts => exact hdistinct.accounts
  | commodities => exact hdistinct.commodities
  | tags => exact hnames.tags
  | valuesOf tag => exact hnames.tagValues tag

end Daybook
