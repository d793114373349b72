import Daybook.Proofs.Snapshot.Fingerprint
import Daybook.Proofs.Snapshot.Merging

/-!
# Merging what went in before

The fingerprints of a snapshot only grow while others are merged into it
(`Snapshot.mem_sources_foldl_merge`), whichever of the three ways a merge takes.  A snapshot that went
in at any time is therefore part of all that comes later, and merging it once more gives the same
snapshot.  The one snapshot without fingerprints is the empty one, which adds nothing.

A merge that keeps one side hands out a copy: the snapshot is thawed into tables that can be changed,
and these are frozen again.  Freezing leaves out payees without templates, of which there are none.

* `Snapshot.eq_empty_of_sources_eq_nil`: only the empty snapshot has no fingerprint.
* `Snapshot.copy`, `Snapshot.copy_eq_self`: thawing and freezing change nothing.
* `Snapshot.merge_member`: merging a snapshot that went in before, or the text of one read again.
-/

namespace Daybook.Snapshot

open Template

/-! ## Fingerprints -/

/-- Only the empty snapshot has no fingerprint. -/
theorem eq_empty_of_sources_eq_nil {s : Snapshot} (h : Reachable s) (hs : s.sources = []) :
    s = .empty := by
  have habsorb (a b : Snapshot) (ha : a.sources = [] → a = .empty)
      (hb : b.sources = [] → b = .empty) (hab : (a.absorb b).sources = []) :
      a.absorb b = .empty := by
    simp only [List.eq_nil_iff_forall_not_mem, mem_sources_absorb, not_or] at ha hb hab
    rw [ha fun f => (hab f).1, hb fun f => (hab f).2, absorb_empty]
  induction h with
  | empty => rfl
  | ofText h =>
    obtain ⟨fingerprint, hfingerprint⟩ := exists_sources_eq h
    rw [hfingerprint] at hs
    cases hs
  | merge _ _ iha ihb =>
    exact merge_induction (P := fun s => s.sources = [] → s = .empty) (habsorb _ _ iha ihb) iha
      ihb hs
  | mergeAll _ ih =>
    exact mergeAll_induction (P := fun s => s.sources = [] → s = .empty) (fun _ => rfl) habsorb ih
      hs

theorem reachable_foldl_merge {a : Snapshot} {l : List Snapshot} (h : ∀ x ∈ a :: l, Reachable x) :
    Reachable (l.foldl merge a) := by
  induction l generalizing a with
  | nil => exact h a List.mem_cons_self
  | cons b rest ih =>
    simp only [List.forall_mem_cons] at h
    rw [List.foldl_cons]
    refine ih fun x hx => ?_
    rcases List.mem_cons.mp hx with rfl | hx
    · exact .merge h.1 h.2.1
    · exact h.2.2 x hx

/-- A snapshot whose fingerprints are all known is left out. -/
theorem merge_eq_left {a b : Snapshot} (hb : Reachable b) (h : ∀ f ∈ b.sources, f ∈ a.sources) :
    a.merge b = a := by
  by_cases hnil : b.sources = []
  · rw [eq_empty_of_sources_eq_nil hb hnil, merge_empty]
  · rw [merge, if_pos (isPartOf_iff.mpr ⟨hnil, h⟩)]

/-! ## Copies -/

/-- The copy that a merge hands out when it keeps one side.  Every ring is copied, so that it takes
keys, and copied once more to be frozen; payees without templates are left out. -/
def copy (s : Snapshot) : Snapshot :=
  { s with
    templates := ⟨s.templates.entries.filter fun e => !e.2.entries.isEmpty⟩
    recent := ⟨s.recent.entries.map fun e =>
      (e.1, (RecentBuffer.mk e.2 true).copy.copy.freeze.ring)⟩ }

/-- A payee that is kept has a template. -/
theorem entries_ne_nil_of_mem_templates {s : Snapshot} (h : Reachable s) {e : String × TemplateTable}
    (he : e ∈ s.templates.entries) : e.2.entries ≠ [] := by
  have hget := (distinct_of_reachable h).templates.get?_eq_some_iff.mpr he
  obtain ⟨-, hone, -⟩ := (templated_of_reachable h).stored hget
  exact List.length_pos_iff.mp hone

/-- **Thawing and freezing** a snapshot change nothing. -/
theorem copy_eq_self {s : Snapshot} (h : Reachable s) : s.copy = s := by
  have htemplates : s.templates.entries.filter (fun e => !e.2.entries.isEmpty) =
      s.templates.entries := by
    rw [List.filter_eq_self]
    intro e he
    simpa using entries_ne_nil_of_mem_templates h he
  have hrecent : s.recent.entries.map (fun e =>
      (e.1, (RecentBuffer.mk e.2 true).copy.copy.freeze.ring)) = s.recent.entries :=
    List.map_id s.recent.entries
  rw [copy, htemplates, hrecent]

/-! ## Merging once more -/

/-- **Merging what went in before** changes nothing.  Let snapshots be merged one after another.  Then
every one of them can be merged once more, wherever it stood, and so can the text of one of them, read
again from the same source; the result is the same snapshot, and so is the copy that is handed out. -/
theorem merge_member {a : Snapshot} {l : List Snapshot} (h : ∀ x ∈ a :: l, Reachable x) :
    (∀ x ∈ a :: l, (l.foldl merge a).merge x = l.foldl merge a) ∧
    (∀ x ∈ a :: l, ∀ options options' text y, ofText options text = .ok x →
      ofText options' text = .ok y → options'.source = options.source →
      (l.foldl merge a).merge y = l.foldl merge a) ∧
    (l.foldl merge a).copy = l.foldl merge a := by
  refine ⟨fun x hx => ?_, ?_, copy_eq_self (reachable_foldl_merge h)⟩
  · refine merge_eq_left (h x hx) ?_
    intro f hf
    exact mem_sources_foldl_merge.mpr ⟨x, hx, hf⟩
  · intro x hx options options' text y hread hagain hsource
    obtain ⟨tokens, htokens, hxs⟩ := exists_sources_eq_fingerprintOf hread
    obtain ⟨tokens', htokens', hys⟩ := exists_sources_eq_fingerprintOf hagain
    have htoks : tokens' = tokens := Except.ok.inj (htokens'.symm.trans htokens)
    have hsources : y.sources = x.sources := by
      rw [hys, hxs, hsource, htoks]
    refine merge_eq_left (.ofText hagain) ?_
    intro f hf
    exact mem_sources_foldl_merge.mpr ⟨x, hx, hsources ▸ hf⟩

/-- Two texts, the first of which is merged in once more behind the second. -/
theorem merge_member_of_two_texts :
    ∃ a b, ofText .plain "2024-01-05 x\n a  1\n b\n" = .ok a ∧
      ofText .plain "2024-01-06 y\n b  2\n c\n" = .ok b ∧ a.sources ≠ b.sources ∧
      (∀ x ∈ [a, b], Reachable x) ∧ ([b].foldl merge a).merge a = [b].foldl merge a := by
  have hread : ((ofText .plain "2024-01-05 x\n a  1\n b\n").bind fun a =>
      (ofText .plain "2024-01-06 y\n b  2\n c\n").map fun b =>
        decide (a.sources ≠ b.sources)) = .ok true := by
    decide +kernel
  obtain ⟨a, b, ha, hb, hne⟩ := exists_ok_of_bind_map hread
  have hreachable : ∀ x ∈ [a, b], Reachable x := by
    simp only [List.forall_mem_cons]
    exact ⟨.ofText ha, .ofText hb, nofun⟩
  exact ⟨a, b, ha, hb, of_decide_eq_true hne, hreachable,
    (merge_member hreachable).1 a List.mem_cons_self⟩

end Daybook.Snapshot
