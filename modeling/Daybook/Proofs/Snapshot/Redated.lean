import Daybook.Proofs.Calendar.Order
import Daybook.Proofs.Snapshot.Templates

/-!
# Snapshots with exchanged dates

Two snapshots can tell the same of the same transactions and still disagree about which component of
a date is the month.  What such snapshots have in common is what is left when the days of
transactions are folded and all that is computed from days is left out.  A transaction that is
recorded in both keeps it common, if the days of both fold alike and the same texts name days.

* `Snapshot.folded`: what snapshots with exchanged dates have in common.
* `Snapshot.folded_recordTransaction`: recording a transaction keeps it common.
* `Snapshot.Templated.usageCount_eq`: how often the templates of a payee were used.
* `Snapshot.Redated`, `Snapshot.redated_of_folded_eq`: what that means for two snapshots of texts.
-/

namespace Daybook

open Calendar Journal Template

/-- The transaction on the fold of its day. -/
def Journal.Transaction.folded (t : Transaction) : Transaction :=
  { t with date := t.date.folded }

/-- Whether a transaction is another one on the same day, or on the day with month and number
exchanged. -/
structure Journal.Transaction.Redated (t t' : Transaction) : Prop where
  same : t' = { t with date := t'.date }
  date : t'.date = t.date ∨ t'.date = t.date.exchange

theorem Journal.Transaction.redated_of_folded_eq {t t' : Transaction} (h : t.folded = t'.folded) :
    t.Redated t' where
  same := by
    have hrest : ∀ u : Transaction, u = { u.folded with date := u.date } := fun _ => rfl
    conv_lhs => rw [hrest t', ← h]
    rfl
  date := Date.eq_or_eq_exchange (congrArg (·.date) h)

namespace Snapshot

/-- What is left of a snapshot without the order of dates: the days of its transactions are folded,
and the templates and the last date are left out. -/
def folded (s : Snapshot) : Snapshot :=
  { s with
    transactions := s.transactions.map Transaction.folded
    templates := .empty
    lastDate := none }

/-! ## Recording a transaction -/

section Recording

variable {s s' : Snapshot} {day day' : String → Option Date} {complaint : String → Warning}

theorem folded_useTag (s : Snapshot) (tag : TagPair) :
    (s.useTag tag).folded = s.folded.useTag tag := by
  unfold useTag
  split <;> rfl

/-- An entry keeps common what snapshots have in common. -/
theorem folded_record (h : s.folded = s'.folded) (complaint : String → Warning) (e : BookEntry) :
    (e.record complaint s).folded = (e.record complaint s').folded := by
  cases e with
  | date d => exact h
  | payee p => exact congrArg (·.usePayee p) h
  | tag t =>
    rw [BookEntry.record, BookEntry.record, folded_useTag, folded_useTag, h]
  | account a => exact congrArg (·.useAccount a) h
  | commodity c => exact congrArg (·.useCommodity c) h
  | sideCommodity c => exact congrArg (·.mentionCommodity c) h
  | payeeAccount p a => exact congrArg (·.usePayeeAccount p a) h
  | badDate value => exact congrArg (·.warn (complaint value)) h

theorem folded_foldl_record (h : s.folded = s'.folded) (complaint : String → Warning)
    (entries : List BookEntry) :
    (entries.foldl (BookEntry.record complaint) s).folded =
      (entries.foldl (BookEntry.record complaint) s').folded :=
  foldl_record_related (R := fun s s' => s.folded = s'.folded)
    (fun e _ _ h => folded_record h complaint e) entries h

theorem folded_recordTag (hday : ∀ raw, (day raw).isSome = (day' raw).isSome)
    (h : s.folded = s'.folded) (tag : TagPair) :
    (s.recordTag day complaint tag).folded = (s'.recordTag day' complaint tag).folded := by
  have hused : (s.useTag tag).folded = (s'.useTag tag).folded := folded_record h complaint (.tag tag)
  have hsome := hday tag.2
  unfold recordTag
  split
  · cases hd : day tag.2 with
    | none =>
      have hd' : day' tag.2 = none := by
        rw [← Option.not_isSome_iff_eq_none, ← hsome, hd]
        exact Bool.false_ne_true
      rw [hd']
      exact folded_record hused complaint (.badDate tag.2)
    | some d =>
      rw [hd] at hsome
      obtain ⟨d', hd'⟩ := Option.isSome_iff_exists.mp hsome.symm
      rw [hd']
      exact hused
  · exact hused

theorem folded_foldl_recordTag (hday : ∀ raw, (day raw).isSome = (day' raw).isSome)
    (h : s.folded = s'.folded) (tags : List TagPair) :
    (tags.foldl (recordTag day complaint) s).folded =
      (tags.foldl (recordTag day' complaint) s').folded := by
  induction tags generalizing s s' with
  | nil => exact h
  | cons tag rest ih => exact ih (folded_recordTag hday h tag)

theorem folded_foldl_recordTagged (hday : ∀ raw, (day raw).isSome = (day' raw).isSome)
    (h : s.folded = s'.folded) (payee : String) (postings : List Posting) :
    (postings.foldl (recordTagged day complaint payee) s).folded =
      (postings.foldl (recordTagged day' complaint payee) s').folded := by
  induction postings generalizing s s' with
  | nil => exact h
  | cons p rest ih =>
    have hposting : (s.recordPosting payee p).folded = (s'.recordPosting payee p).folded := by
      rw [recordPosting_eq complaint, recordPosting_eq complaint]
      exact folded_foldl_record h complaint _
    exact ih (folded_foldl_recordTag hday hposting p.tags)

variable {t t' : Transaction}

/-- Transactions with the same fold state the same header. -/
theorem folded_recordHeader (complaint : String → Warning) (h : s.folded = s'.folded)
    (ht : t.folded = t'.folded) :
    (Builder.recordHeader s t).folded = (Builder.recordHeader s' t').folded := by
  have hpayee : t.payee = t'.payee := congrArg (·.payee) ht
  have htags : t.tags = t'.tags := congrArg (·.tags) ht
  have hnoted : ({ s with transactions := s.transactions ++ [t] } : Snapshot).folded =
      ({ s' with transactions := s'.transactions ++ [t'] } : Snapshot).folded := by
    have happend : ∀ (u : Snapshot) (v : Transaction),
        ({ u with transactions := u.transactions ++ [v] } : Snapshot).folded =
          { u.folded with transactions := u.folded.transactions ++ [v.folded] } := by
      intro u v
      unfold folded
      rw [List.map_append, List.map_singleton]
    rw [happend, happend, h, ht]
  have hdated : ∀ (u : Snapshot) (d : Date), (u.reachDate d).folded = u.folded := fun _ _ => rfl
  rw [recordHeader_eq complaint, recordHeader_eq complaint, hpayee, htags,
    List.foldl_cons, List.foldl_cons]
  refine folded_foldl_record ?_ _ _
  rw [BookEntry.record, BookEntry.record, hdated, hdated, hnoted]

theorem folded_recordTemplate (h : s.folded = s'.folded) (payee : String) (date date' : Date)
    (postings : List Posting) :
    (s.recordTemplate payee date postings).folded =
      (s'.recordTemplate payee date' postings).folded := by
  have hrecent : ∀ (u : Snapshot) (d : Date), (u.recordTemplate payee d postings).folded =
      { u.folded with
        recent := u.folded.recent.alter payee fun old =>
          (old.getD (.empty RecentKeys.standardCapacity)).push
            (templateKey (postings.map (·.account))) } := fun _ _ => rfl
  rw [hrecent, hrecent, h]

/-- **Recording a transaction keeps common what snapshots have in common.** -/
theorem folded_recordTransaction (complaint : String → Warning)
    (hday : ∀ raw, (day raw).isSome = (day' raw).isSome) (h : s.folded = s'.folded)
    (ht : t.folded = t'.folded) :
    (s.recordTransaction day complaint t).folded =
      (s'.recordTransaction day' complaint t').folded := by
  have hpayee : t.payee = t'.payee := congrArg (·.payee) ht
  have hpostings : t.postings = t'.postings := congrArg (·.postings) ht
  have hrecorded : (t.postings.foldl (recordTagged day complaint t.payee)
      (Builder.recordHeader s t)).folded =
      (t.postings.foldl (recordTagged day' complaint t.payee) (Builder.recordHeader s' t')).folded :=
    folded_foldl_recordTagged hday (folded_recordHeader complaint h ht) t.payee t.postings
  unfold recordTransaction
  rw [← hpayee, ← hpostings]
  dsimp only
  split
  · exact folded_recordTemplate hrecorded _ _ _ _
  · exact hrecorded

end Recording

/-! ## Counted templates -/

/-- How often each template of a payee was used, if its uses have at most five keys. -/
theorem Templated.usageCount_eq {s : Snapshot} {ts : List Transaction} (h : s.Templated ts)
    {payee : String} (hfew : (keysOf (countedUses payee ts)).card ≤ 5) (key : String) :
    ((s.templates.get? payee).bind (·.get? key)).map (·.usageCount) =
      if ((countedUses payee ts).map (·.templateKey)).count key = 0 then none
      else some (((countedUses payee ts).map (·.templateKey)).count key) := by
  have hstored := h.templates payee
  have hcount : ((countedUses payee ts).map (·.templateKey)).count key =
      (countedUses payee ts).countP (·.templateKey = key) := by
    rw [List.count_eq_countP, List.countP_map]
    rfl
  rw [hcount]
  cases ht : s.templates.get? payee with
  | none =>
    rw [ht] at hstored
    have hnone : countedUses payee ts = [] := hstored
    rw [hnone]
    rfl
  | some t =>
    rw [ht] at hstored
    obtain ⟨hsound, -, -, hexact⟩ := hstored
    rw [Option.bind_some]
    cases hkey : t.get? key with
    | none =>
      have hzero : (countedUses payee ts).countP (·.templateKey = key) = 0 :=
        List.countP_eq_zero.mpr (by simpa using (hexact hfew).ne_of_get?_eq_none hkey)
      rw [if_pos hzero, Option.map_none]
    | some tm =>
      have hstands := hsound.stands hkey
      have hcomplete := (hexact hfew).complete hkey hstands.exists_use
      have hone := hstands.one_le
      have hmost := hstands.le_count
      rw [if_neg (by omega), Option.map_some]
      exact congrArg some (le_antisymm hmost hcomplete.count_le)

/-- Transactions with the same folds use the same templates. -/
theorem map_templateKey_templateUses {ts ts' : List Transaction}
    (h : ts.map Transaction.folded = ts'.map Transaction.folded) (payee : String) :
    (templateUses payee ts).map (·.templateKey) = (templateUses payee ts').map (·.templateKey) := by
  have hfolded : ∀ us : List Transaction, (templateUses payee us).map (·.templateKey) =
      (templateUses payee (us.map Transaction.folded)).map (·.templateKey) := by
    intro us
    rw [templateUses, templateUses, List.filter_map, List.map_map]
    rfl
  rw [hfolded ts, h, ← hfolded ts']

/-! ## Two snapshots -/

/-- Whether two snapshots differ in nothing but days with month and number exchanged and what is
computed from days. -/
structure Redated (s s' : Snapshot) : Prop where
  same : s' = { s with
    transactions := s'.transactions
    templates := s'.templates
    lastDate := s'.lastDate }
  transactions : s.transactions.Forall₂ Transaction.Redated s'.transactions
  /-- The keys of all templates that a payee has ever used. -/
  seenKeys : ∀ payee, (templateUses payee s.transactions).map (·.templateKey) =
    (templateUses payee s'.transactions).map (·.templateKey)
  /-- The kept templates differ only where some had to be given up. -/
  usageCount : ∀ payee key, (keysOf (templateUses payee s.transactions)).card ≤ 5 →
    ((s.templates.get? payee).bind (·.get? key)).map (·.usageCount) =
      ((s'.templates.get? payee).bind (·.get? key)).map (·.usageCount)

theorem redated_of_folded_eq {s s' : Snapshot} (hs : Reachable s) (hs' : Reachable s')
    (h : s.folded = s'.folded) : Redated s s' := by
  have hrest : ∀ u : Snapshot, u = { u.folded with
      transactions := u.transactions
      templates := u.templates
      lastDate := u.lastDate } := fun _ => rfl
  have htransactions : s.transactions.map Transaction.folded =
      s'.transactions.map Transaction.folded := congrArg (·.transactions) h
  have hkeys := map_templateKey_templateUses htransactions
  refine ⟨?_, ?_, hkeys, fun payee key hfew => ?_⟩
  · conv_lhs => rw [hrest s', ← h]
    rfl
  · rw [← List.forall₂_eq_eq_eq, List.forall₂_map_left_iff, List.forall₂_map_right_iff]
      at htransactions
    exact htransactions.imp fun _ _ => Transaction.redated_of_folded_eq
  · by_cases hpayee : payee = ""
    · have hnone : ∀ ts, countedUses payee ts = [] := fun ts => by rw [hpayee]; rfl
      rw [(templated_of_reachable hs).usageCount_eq (by rw [hnone]; decide),
        (templated_of_reachable hs').usageCount_eq (by rw [hnone]; decide), hnone, hnone]
    · have hfew' : (keysOf (templateUses payee s'.transactions)).card ≤ 5 := by
        rw [keysOf, ← hkeys]
        exact hfew
      have hcounted := countedUses_of_ne hpayee
      rw [(templated_of_reachable hs).usageCount_eq (by rwa [hcounted]),
        (templated_of_reachable hs').usageCount_eq (by rwa [hcounted]), hcounted, hcounted, hkeys]

end Snapshot

end Daybook
