import Daybook.Proofs.Table
import Daybook.Template.Basic
import Mathlib.Data.Finset.Card

/-!
# The templates of a payee

The templates of a payee are counted up use by use, added up when snapshots are merged, and given up
when there are more than five.  A template that was given up starts from nothing when it is used
again, so what a table says about its uses is only a lower bound; it is exact as long as the uses
have no more than five keys, because then nothing is ever given up.

* `Template.map_account_skeleton`: a skeleton has one posting for each account.
* `Template.size_prune`, `Template.get?_of_get?_prune`: giving templates up leaves at most five, as
  they were.
* `Template.Stands`: what a template says about a list of uses.
* `Template.Stored`: a table of templates stands for a list of uses.
  `Template.Stored.recordUse`, `Template.Stored.mergeTemplates`: it goes on to do so when a use is
  counted and when two tables are merged.
-/

namespace Daybook

open Calendar Journal

/-! ## Days -/

namespace Calendar.Date

/-- Days are told apart by their ranks. -/
theorem eq_of_rank_eq {a b : Date} (h : a.rank = b.rank) : a = b := by
  obtain ⟨-, -, -, hmonth, -, hlast⟩ := a.isDay
  obtain ⟨-, -, -, hmonth', -, hlast'⟩ := b.isDay
  have hlength := monthLength_le a.year a.month
  have hlength' := monthLength_le b.year b.month
  unfold rank at h
  have hyear : a.year = b.year := by omega
  have hnumber : a.month = b.month := by omega
  have hday : a.day = b.day := by omega
  cases a
  cases b
  cases hyear
  cases hnumber
  cases hday
  rfl

theorem latest_eq_or (a b : Date) : a.latest b = a ∨ a.latest b = b := by
  unfold latest
  split
  · exact .inr rfl
  · exact .inl rfl

theorem rank_le_latest_left (a b : Date) : a.rank ≤ (a.latest b).rank := by
  unfold latest lt
  split
  · rename_i h
    exact (of_decide_eq_true h).le
  · exact le_refl _

theorem rank_le_latest_right (a b : Date) : b.rank ≤ (a.latest b).rank := by
  unfold latest lt
  split
  · exact le_refl _
  · rename_i h
    exact not_lt.mp fun hlt => h (decide_eq_true hlt)

theorem latest_assoc (a b c : Date) : (a.latest b).latest c = a.latest (b.latest c) := by
  unfold latest lt
  simp only [decide_eq_true_eq]
  split_ifs <;> first | rfl | omega

end Calendar.Date

namespace Template

/-! ## Skeletons -/

theorem eraseDups_concat (l : List String) (a : String) :
    (l ++ [a]).eraseDups = if a ∈ l then l.eraseDups else l.eraseDups ++ [a] := by
  rw [List.eraseDups_append]
  by_cases ha : a ∈ l
  · simp [List.removeAll, ha]
  · have hsingle : [a].eraseDups = [a] := rfl
    simp [List.removeAll, ha, hsingle]

theorem eraseDups_of_nodup {l : List String} (h : l.Nodup) : l.eraseDups = l := by
  induction l using List.reverseRecOn with
  | nil => rfl
  | append_singleton l a ih =>
    obtain ⟨hl, -, hdisjoint⟩ := List.nodup_append.mp h
    have ha : a ∉ l := fun hmem => hdisjoint a hmem a (List.mem_singleton_self a) rfl
    rw [eraseDups_concat, if_neg ha, ih hl]

/-- The last posting to each account, by account. -/
def lastPostings (postings : List Posting) : Table String TemplatePosting :=
  postings.foldl (fun t p => t.insert p.account ⟨p.account, p.amount, p.commodity⟩) .empty

theorem lastPostings_concat (postings : List Posting) (p : Posting) :
    lastPostings (postings ++ [p]) =
      (lastPostings postings).insert p.account ⟨p.account, p.amount, p.commodity⟩ := by
  rw [lastPostings, List.foldl_append, List.foldl_cons, List.foldl_nil, lastPostings]

theorem distinct_lastPostings (postings : List Posting) : (lastPostings postings).Distinct :=
  Table.distinct_empty.foldl_alter (fun p : Posting => p.account)
    (fun p _ => (⟨p.account, p.amount, p.commodity⟩ : TemplatePosting)) postings

theorem keyed_lastPostings (postings : List Posting) :
    (lastPostings postings).Keyed TemplatePosting.account := by
  induction postings using List.reverseRecOn with
  | nil => exact fun k a h => nomatch h
  | append_singleton postings p ih =>
    rw [lastPostings_concat]
    exact ih.alter rfl

theorem keys_lastPostings (postings : List Posting) :
    (lastPostings postings).keys = (postings.map (·.account)).eraseDups := by
  induction postings using List.reverseRecOn with
  | nil => rfl
  | append_singleton postings p ih =>
    have hkeys : (lastPostings (postings ++ [p])).keys =
        if p.account ∈ (lastPostings postings).keys then (lastPostings postings).keys
        else (lastPostings postings).keys ++ [p.account] := by
      rw [lastPostings_concat]
      exact Table.keys_alterEntries _ _ _
    rw [hkeys, ih, List.map_append, List.map_singleton, eraseDups_concat]
    simp only [List.mem_eraseDups]

/-- A skeleton has one posting for each account, in the order of the first posting to each. -/
theorem map_account_skeleton (postings : List Posting) :
    (skeleton postings).map (·.account) = (postings.map (·.account)).eraseDups :=
  ((keyed_lastPostings postings).map_values (distinct_lastPostings postings)).trans
    (keys_lastPostings postings)

/-- The accounts of a skeleton are distinct. -/
theorem nodup_map_account_skeleton (postings : List Posting) :
    ((skeleton postings).map (·.account)).Nodup := by
  rw [map_account_skeleton, ← keys_lastPostings]
  exact distinct_lastPostings postings

/-- The accounts of a skeleton have the key of the transaction. -/
theorem templateKey_skeleton (postings : List Posting) :
    templateKey ((skeleton postings).map (·.account)) = templateKey (postings.map (·.account)) := by
  have hdups := eraseDups_of_nodup (nodup_map_account_skeleton postings)
  rw [templateKey, hdups, map_account_skeleton, templateKey]

/-! ## Giving templates up -/

theorem mem_of_firstEvicted {l : List Template} {victim : Template}
    (h : firstEvicted l = some victim) : victim ∈ l := by
  induction l generalizing victim with
  | nil => cases h
  | cons t rest ih =>
    rw [firstEvicted] at h
    cases hrest : firstEvicted rest with
    | none =>
      rw [hrest] at h
      cases h
      exact List.mem_cons_self
    | some s =>
      rw [hrest] at h
      dsimp only at h
      split at h
      · cases h
        exact List.mem_cons_of_mem _ (ih hrest)
      · cases h
        exact List.mem_cons_self

theorem firstEvicted_ne_none {l : List Template} (h : l ≠ []) : firstEvicted l ≠ none := by
  cases l with
  | nil => exact absurd rfl h
  | cons t rest =>
    rw [firstEvicted]
    cases firstEvicted rest <;> simp

/-- What is left after giving templates up was there before. -/
theorem get?_of_get?_evict {n : Nat} {t : TemplateTable} {k : String} {tm : Template}
    (h : (evict n t).get? k = some tm) : t.get? k = some tm := by
  induction n generalizing t with
  | zero => exact h
  | succ n ih =>
    rw [evict] at h
    split at h
    · exact h
    · have herase := ih h
      rw [Table.get?_erase] at herase
      split at herase
      · cases herase
      · exact herase

/-- Each template that is given up leaves one less. -/
theorem size_evict {t : TemplateTable} (hd : t.Distinct) (hkeyed : t.Keyed Template.key) {n : Nat}
    (hn : n ≤ t.size) : (evict n t).size = t.size - n := by
  induction n generalizing t with
  | zero => rfl
  | succ n ih =>
    cases hvictim : firstEvicted t.values with
    | none =>
      have hvalues : t.values ≠ [] := by
        intro hnil
        have hsize : t.size = t.values.length := (List.length_map _).symm
        rw [hsize, hnil] at hn
        cases hn
      exact absurd hvictim (firstEvicted_ne_none hvalues)
    | some victim =>
      -- The victim stands under its own key, so its removal takes one entry away.
      obtain ⟨e, he, rfl⟩ := List.mem_map.mp (mem_of_firstEvicted hvictim)
      have hkey : e.2.key ∈ t.keys := by
        rw [hkeyed.of_mem hd he]
        exact List.mem_map_of_mem he
      have hsize := hd.size_erase hkey
      rw [evict, hvictim]
      dsimp only
      rw [ih (hd.erase _) (hkeyed.erase _) (by omega), hsize]
      omega

theorem distinct_evict {t : TemplateTable} (hd : t.Distinct) (n : Nat) :
    (evict n t).Distinct := by
  induction n generalizing t with
  | zero => exact hd
  | succ n ih =>
    rw [evict]
    split
    · exact hd
    · exact ih (hd.erase _)

/-- **Giving templates up leaves at most five.** -/
theorem size_prune {t : TemplateTable} (hd : t.Distinct) (hkeyed : t.Keyed Template.key) :
    (prune t).size = min t.size maxPerPayee := by
  rw [prune, size_evict hd hkeyed (Nat.sub_le _ _)]
  omega

/-- Where there are at most five templates, none is given up. -/
theorem prune_of_size_le {t : TemplateTable} (h : t.size ≤ maxPerPayee) : prune t = t := by
  rw [prune, Nat.sub_eq_zero_of_le h, evict]

end Template

/-- The key of the template that a transaction uses. -/
def Journal.Transaction.templateKey (t : Transaction) : String :=
  Template.templateKey (t.postings.map (·.account))

namespace Template

/-! ## What a template says about its uses -/

/-- Whether a template says nothing wrong about the uses of a key: its postings are those of a use,
its date is that of a use, and it counts no more uses than there are. -/
structure Stands (payee : String) (uses : List Transaction) (k : String) (tm : Template) :
    Prop where
  payee_eq : tm.payee = payee
  key_eq : tm.key = k
  postings_eq : ∃ u ∈ uses, u.templateKey = k ∧ tm.postings = skeleton u.postings
  one_le : 1 ≤ tm.usageCount
  le_count : tm.usageCount ≤ uses.countP (·.templateKey = k)
  lastUsed_eq : ∃ u ∈ uses, u.templateKey = k ∧ tm.lastUsed = u.date

/-- Whether a template says all about the uses of a key: it counts each of them, and none is
later. -/
structure Complete (uses : List Transaction) (k : String) (tm : Template) : Prop where
  count_le : uses.countP (·.templateKey = k) ≤ tm.usageCount
  rank_le : ∀ u ∈ uses, u.templateKey = k → u.date.rank ≤ tm.lastUsed.rank

variable {payee k : String} {uses uses' : List Transaction} {tm tm' : Template}

theorem Stands.exists_use (h : Stands payee uses k tm) : ∃ u ∈ uses, u.templateKey = k :=
  h.lastUsed_eq.imp fun _ hu => ⟨hu.1, hu.2.1⟩

theorem Stands.append_right (h : Stands payee uses k tm) (uses' : List Transaction) :
    Stands payee (uses ++ uses') k tm where
  payee_eq := h.payee_eq
  key_eq := h.key_eq
  postings_eq := h.postings_eq.imp fun _ hu => ⟨List.mem_append_left _ hu.1, hu.2⟩
  one_le := h.one_le
  le_count := by
    rw [List.countP_append]
    exact h.le_count.trans (Nat.le_add_right _ _)
  lastUsed_eq := h.lastUsed_eq.imp fun _ hu => ⟨List.mem_append_left _ hu.1, hu.2⟩

theorem Stands.append_left (h : Stands payee uses' k tm) (uses : List Transaction) :
    Stands payee (uses ++ uses') k tm where
  payee_eq := h.payee_eq
  key_eq := h.key_eq
  postings_eq := h.postings_eq.imp fun _ hu => ⟨List.mem_append_right _ hu.1, hu.2⟩
  one_le := h.one_le
  le_count := by
    rw [List.countP_append]
    exact h.le_count.trans (Nat.le_add_left _ _)
  lastUsed_eq := h.lastUsed_eq.imp fun _ hu => ⟨List.mem_append_right _ hu.1, hu.2⟩

/-- The template of a single use. -/
def ofUse (payee : String) (u : Transaction) : Template :=
  ⟨payee, u.templateKey, skeleton u.postings, 1, u.date⟩

theorem stands_ofUse (payee : String) (u : Transaction) :
    Stands payee [u] u.templateKey (ofUse payee u) where
  payee_eq := rfl
  key_eq := rfl
  postings_eq := ⟨u, List.mem_singleton_self u, rfl, rfl⟩
  one_le := le_refl 1
  le_count := by simp [ofUse]
  lastUsed_eq := ⟨u, List.mem_singleton_self u, rfl, rfl⟩

theorem complete_ofUse (payee : String) (u : Transaction) :
    Complete [u] u.templateKey (ofUse payee u) where
  count_le := by simp [ofUse]
  rank_le v hv _ := by rw [List.mem_singleton.mp hv, ofUse]

/-- Two templates of one key together: counts add up, and the postings are those of one of the two
and the date is the later one. -/
structure Joins (payee : String) (tm tm' joined : Template) : Prop where
  payee_eq : joined.payee = payee
  key_eq : joined.key = tm'.key
  postings_eq : joined.postings = tm.postings ∨ joined.postings = tm'.postings
  count_eq : joined.usageCount = tm.usageCount + tm'.usageCount
  lastUsed_eq : joined.lastUsed = tm.lastUsed ∨ joined.lastUsed = tm'.lastUsed
  rank_left : tm.lastUsed.rank ≤ joined.lastUsed.rank
  rank_right : tm'.lastUsed.rank ≤ joined.lastUsed.rank

/-- Two templates that say nothing wrong say nothing wrong together. -/
theorem Stands.joins {joined : Template} (h : Stands payee uses k tm)
    (h' : Stands payee uses' k tm') (hj : Joins payee tm tm' joined) :
    Stands payee (uses ++ uses') k joined where
  payee_eq := hj.payee_eq
  key_eq := hj.key_eq.trans h'.key_eq
  postings_eq := by
    rcases hj.postings_eq with heq | heq
    · rw [heq]
      exact (h.append_right uses').postings_eq
    · rw [heq]
      exact (h'.append_left uses).postings_eq
  one_le := by
    rw [hj.count_eq]
    exact h.one_le.trans (Nat.le_add_right _ _)
  le_count := by
    rw [hj.count_eq, List.countP_append]
    exact Nat.add_le_add h.le_count h'.le_count
  lastUsed_eq := by
    rcases hj.lastUsed_eq with heq | heq
    · rw [heq]
      exact (h.append_right uses').lastUsed_eq
    · rw [heq]
      exact (h'.append_left uses).lastUsed_eq

/-- Two templates that say all say all together. -/
theorem Complete.joins {joined : Template} (h : Complete uses k tm)
    (h' : Complete uses' k tm') (hj : Joins payee tm tm' joined) :
    Complete (uses ++ uses') k joined where
  count_le := by
    rw [hj.count_eq, List.countP_append]
    exact Nat.add_le_add h.count_le h'.count_le
  rank_le u hu hk := by
    rcases List.mem_append.mp hu with hu | hu
    · exact (h.rank_le u hu hk).trans hj.rank_left
    · exact (h'.rank_le u hu hk).trans hj.rank_right

/-! ## Tables of templates -/

/-- Whether a table of templates says nothing wrong about a list of uses. -/
structure Sound (payee : String) (uses : List Transaction) (t : TemplateTable) : Prop where
  distinct : t.Distinct
  stands : ∀ ⦃k tm⦄, t.get? k = some tm → Stands payee uses k tm

/-- Whether a table of templates says all about a list of uses. -/
def Exact (uses : List Transaction) (t : TemplateTable) : Prop :=
  ∀ u ∈ uses, ∃ tm, t.get? u.templateKey = some tm ∧ Complete uses u.templateKey tm

/-- The different keys of a list of uses. -/
def keysOf (uses : List Transaction) : Finset String :=
  (uses.map (·.templateKey)).toFinset

theorem sound_empty (payee : String) : Sound payee [] .empty where
  distinct := Table.distinct_empty
  stands _ _ h := nomatch h

theorem exact_empty : Exact [] .empty := fun _ hu => nomatch hu

variable {t added t' : TemplateTable}

theorem Sound.keyed (h : Sound payee uses t) : t.Keyed Template.key :=
  fun _ _ htm => (h.stands htm).key_eq

/-- There are no more templates than keys of uses. -/
theorem Sound.size_le (h : Sound payee uses t) : t.size ≤ (keysOf uses).card := by
  have hsub : t.keys.toFinset ⊆ keysOf uses := by
    intro k hk
    obtain ⟨tm, htm⟩ := Option.isSome_iff_exists.mp
      (Table.contains_iff_mem_keys.mpr (List.mem_toFinset.mp hk))
    obtain ⟨u, hu, rfl, -⟩ := (h.stands htm).postings_eq
    exact List.mem_toFinset.mpr (List.mem_map_of_mem hu)
  rw [Table.size_eq_length_keys, ← List.toFinset_card_of_nodup h.distinct]
  exact Finset.card_le_card hsub

theorem Exact.ne_of_get?_eq_none (h : Exact uses t) (hk : t.get? k = none) :
    ∀ u ∈ uses, u.templateKey ≠ k := by
  rintro u hu rfl
  obtain ⟨tm, htm, -⟩ := h u hu
  rw [hk] at htm
  cases htm

/-- What there is about one key from two sides. -/
inductive Merged (payee : String) : Option Template → Option Template → Option Template → Prop
  where
  | left (old : Option Template) : Merged payee old none old
  | right (tm : Template) : Merged payee none (some tm) (some tm)
  | both {tm tm' joined : Template} (h : Joins payee tm tm' joined) :
    Merged payee (some tm) (some tm') (some joined)

/-- Whether a table has what two others have about every key. -/
def MergesTo (payee : String) (t added t' : TemplateTable) : Prop :=
  ∀ k, Merged payee (t.get? k) (added.get? k) (t'.get? k)

theorem MergesTo.one_le_size (hm : MergesTo payee t added t') (hd : added.Distinct)
    (hsize : 1 ≤ added.size) : 1 ≤ t'.size := by
  obtain ⟨e, he⟩ := List.exists_mem_of_length_pos hsize
  have hk := hm e.1
  rw [hd.get?_eq_some_iff.mpr he] at hk
  have hkey : e.1 ∈ t'.keys := by
    rw [← Table.contains_iff_mem_keys, Table.contains]
    generalize t.get? e.1 = old at hk
    generalize t'.get? e.1 = res at hk
    cases hk <;> rfl
  rw [Table.size_eq_length_keys]
  exact List.length_pos_of_mem hkey

theorem Sound.mergesTo (h : Sound payee uses t) (h' : Sound payee uses' added)
    (hm : MergesTo payee t added t') (hd : t'.Distinct) : Sound payee (uses ++ uses') t' where
  distinct := hd
  stands k tm htm := by
    have hk := hm k
    rw [htm] at hk
    generalize hold : t.get? k = old at hk
    generalize hnew : added.get? k = new at hk
    cases hk with
    | left => exact (h.stands hold).append_right uses'
    | right => exact (h'.stands hnew).append_left uses
    | both hj => exact (h.stands hold).joins (h'.stands hnew) hj

theorem Complete.append_right (h : Complete uses k tm) (hnone : ∀ u ∈ uses', u.templateKey ≠ k) :
    Complete (uses ++ uses') k tm where
  count_le := by
    have hzero : uses'.countP (·.templateKey = k) = 0 :=
      List.countP_eq_zero.mpr (by simpa using hnone)
    rw [List.countP_append, hzero]
    exact h.count_le
  rank_le u hu hk := by
    rcases List.mem_append.mp hu with hu | hu
    · exact h.rank_le u hu hk
    · exact absurd hk (hnone u hu)

theorem Complete.append_left (h : Complete uses' k tm) (hnone : ∀ u ∈ uses, u.templateKey ≠ k) :
    Complete (uses ++ uses') k tm where
  count_le := by
    have hzero : uses.countP (·.templateKey = k) = 0 :=
      List.countP_eq_zero.mpr (by simpa using hnone)
    rw [List.countP_append, hzero, Nat.zero_add]
    exact h.count_le
  rank_le u hu hk := by
    rcases List.mem_append.mp hu with hu | hu
    · exact absurd hk (hnone u hu)
    · exact h.rank_le u hu hk

theorem Exact.complete (h : Exact uses t) (htm : t.get? k = some tm)
    (huse : ∃ u ∈ uses, u.templateKey = k) : Complete uses k tm := by
  obtain ⟨u, hu, rfl⟩ := huse
  obtain ⟨tm', htm', hcomplete⟩ := h u hu
  rw [htm] at htm'
  cases htm'
  exact hcomplete

theorem Exact.mergesTo (hs : Sound payee uses t) (hs' : Sound payee uses' added)
    (h : Exact uses t) (h' : Exact uses' added) (hm : MergesTo payee t added t') :
    Exact (uses ++ uses') t' := by
  intro u hu
  have hk := hm u.templateKey
  generalize hold : t.get? u.templateKey = old at hk
  generalize hnew : added.get? u.templateKey = new at hk
  generalize hres : t'.get? u.templateKey = res at hk
  cases hk with
  | left =>
    -- The added table knows nothing of the key, so it was used on the left only.
    have hnone := h'.ne_of_get?_eq_none hnew
    have huses : u ∈ uses := (List.mem_append.mp hu).resolve_right fun hu' => hnone u hu' rfl
    obtain ⟨tm, htm, hcomplete⟩ := h u huses
    rw [hold] at htm
    exact ⟨tm, htm, hcomplete.append_right hnone⟩
  | right tm =>
    have hcomplete := h'.complete hnew (hs'.stands hnew).exists_use
    exact ⟨tm, rfl, hcomplete.append_left (h.ne_of_get?_eq_none hold)⟩
  | both hj =>
    have hcomplete := h.complete hold (hs.stands hold).exists_use
    have hcomplete' := h'.complete hnew (hs'.stands hnew).exists_use
    exact ⟨_, rfl, hcomplete.joins hcomplete' hj⟩

/-! ## Counting a use -/

/-- The table of a single use. -/
def tableOfUse (payee : String) (u : Transaction) : TemplateTable :=
  ⟨[(u.templateKey, ofUse payee u)]⟩

theorem sound_tableOfUse (payee : String) (u : Transaction) :
    Sound payee [u] (tableOfUse payee u) where
  distinct := List.nodup_singleton _
  stands k tm h := by
    obtain ⟨rfl, rfl⟩ := Prod.mk.inj (List.mem_singleton.mp (Table.mem_of_find_eq_some h))
    exact stands_ofUse payee u

theorem exact_tableOfUse (payee : String) (u : Transaction) :
    Exact [u] (tableOfUse payee u) := by
  intro v hv
  rw [List.mem_singleton.mp hv]
  exact ⟨ofUse payee u, by simp [tableOfUse, Table.get?, Table.find], complete_ofUse payee u⟩

/-- A template with a use of the same key: the postings are those of the use. -/
def joinUse (payee : String) (tm use : Template) : Template :=
  ⟨payee, use.key, use.postings, tm.usageCount + use.usageCount, tm.lastUsed.latest use.lastUsed⟩

theorem joins_joinUse (payee : String) (tm use : Template) :
    Joins payee tm use (joinUse payee tm use) where
  payee_eq := rfl
  key_eq := rfl
  postings_eq := .inr rfl
  count_eq := rfl
  lastUsed_eq := tm.lastUsed.latest_eq_or use.lastUsed
  rank_left := tm.lastUsed.rank_le_latest_left use.lastUsed
  rank_right := tm.lastUsed.rank_le_latest_right use.lastUsed

theorem recordUse_eq (payee : String) (u : Transaction) (t : TemplateTable) :
    recordUse payee u.date u.postings t =
      t.alter u.templateKey (Table.joinTo (joinUse payee) (ofUse payee u)) := by
  refine congrArg (t.alter u.templateKey) ?_
  funext old
  cases old <;> rfl

/-- Counting a use is adding the table of that use. -/
theorem mergesTo_recordUse (payee : String) (u : Transaction) (t : TemplateTable) :
    MergesTo payee t (tableOfUse payee u) (recordUse payee u.date u.postings t) := by
  intro k
  rw [recordUse_eq, Table.get?_alter]
  by_cases hk : k = u.templateKey
  · have hadded : (tableOfUse payee u).get? u.templateKey = some (ofUse payee u) := by
      simp [tableOfUse, Table.get?, Table.find]
    rw [if_pos hk, hk, hadded]
    cases t.get? u.templateKey with
    | none => exact .right _
    | some tm => exact .both (joins_joinUse payee tm (ofUse payee u))
  · have hadded : (tableOfUse payee u).get? k = none := by
      simp [tableOfUse, Table.get?, Table.find, Ne.symm hk]
    rw [if_neg hk, hadded]
    exact .left _

/-! ## Merging tables -/

/-- A template with one of the same key that is added to it. -/
def joinTemplate (payee : String) (tm added : Template) : Template :=
  let newer := if added.lastUsed.lt tm.lastUsed then tm else added
  ⟨payee, added.key, newer.postings, tm.usageCount + added.usageCount, newer.lastUsed⟩

theorem joins_joinTemplate (payee : String) (tm added : Template) :
    Joins payee tm added (joinTemplate payee tm added) := by
  by_cases hlt : added.lastUsed.lt tm.lastUsed
  · have heq : joinTemplate payee tm added =
        ⟨payee, added.key, tm.postings, tm.usageCount + added.usageCount, tm.lastUsed⟩ := by
      simp only [joinTemplate, if_pos hlt]
    rw [heq]
    exact
      { payee_eq := rfl
        key_eq := rfl
        postings_eq := .inl rfl
        count_eq := rfl
        lastUsed_eq := .inl rfl
        rank_left := le_refl _
        rank_right := (of_decide_eq_true hlt).le }
  · have heq : joinTemplate payee tm added =
        ⟨payee, added.key, added.postings, tm.usageCount + added.usageCount, added.lastUsed⟩ := by
      simp only [joinTemplate, if_neg hlt]
    rw [heq]
    exact
      { payee_eq := rfl
        key_eq := rfl
        postings_eq := .inr rfl
        count_eq := rfl
        lastUsed_eq := .inr rfl
        rank_left := not_lt.mp fun h => hlt (decide_eq_true h)
        rank_right := le_refl _ }

theorem mergeTemplate_eq (payee : String) (t : TemplateTable) (added : Template) :
    mergeTemplate payee t added = t.alter added.key (Table.joinTo (joinTemplate payee) added) := by
  refine congrArg (t.alter added.key) ?_
  funext old
  cases old <;> rfl

/-- The templates of a table one after another, by their keys. -/
theorem foldl_mergeTemplate (hd : added.Distinct) (hkeyed : added.Keyed Template.key)
    (payee : String) (t : TemplateTable) :
    added.values.foldl (mergeTemplate payee) t =
      added.entries.foldl
        (fun acc e => acc.alter e.1 (Table.joinTo (joinTemplate payee) e.2)) t := by
  rw [Table.values, List.foldl_map]
  refine List.foldl_ext _ _ _ fun acc e he => ?_
  rw [mergeTemplate_eq, hkeyed.of_mem hd he]

/-- Merging the templates of a table one after another joins the two tables key by key. -/
theorem get?_foldl_mergeTemplate (hd : added.Distinct) (hkeyed : added.Keyed Template.key)
    (payee : String) (t : TemplateTable) (k : String) :
    (added.values.foldl (mergeTemplate payee) t).get? k =
      Option.merge (joinTemplate payee) (t.get? k) (added.get? k) := by
  rw [foldl_mergeTemplate hd hkeyed]
  exact Table.get?_foldl_join hd (joinTemplate payee)
    (fun _ => Table.joinTo (joinTemplate payee)) (fun _ _ => rfl) (fun _ _ _ => rfl) t k

/-- Merging the templates of a table one after another is adding the table. -/
theorem mergesTo_foldl_mergeTemplate (hd : added.Distinct) (hkeyed : added.Keyed Template.key)
    (payee : String) (t : TemplateTable) :
    MergesTo payee t added (added.values.foldl (mergeTemplate payee) t) := by
  intro k
  rw [get?_foldl_mergeTemplate hd hkeyed]
  cases t.get? k with
  | none =>
    cases added.get? k with
    | none => exact .left none
    | some tm => exact .right tm
  | some tm =>
    cases added.get? k with
    | none => exact .left (some tm)
    | some tm' => exact .both (joins_joinTemplate payee tm tm')

theorem distinct_foldl_mergeTemplate {t : TemplateTable} (ht : t.Distinct)
    (hd : added.Distinct) (hkeyed : added.Keyed Template.key) (payee : String) :
    (added.values.foldl (mergeTemplate payee) t).Distinct := by
  rw [foldl_mergeTemplate hd hkeyed]
  exact ht.foldl_alter (fun e : String × Template => e.1) _ _

/-! ## Kept templates -/

/-- Whether the templates that are kept for a payee stand for a list of uses: there are some if
there are uses, and at most five, none says anything wrong, and if the uses have at most five keys,
they say all. -/
def Stored (payee : String) (uses : List Transaction) : Option TemplateTable → Prop
  | none => uses = []
  | some t =>
    Sound payee uses t ∧ 1 ≤ t.size ∧ t.size ≤ maxPerPayee ∧
      ((keysOf uses).card ≤ maxPerPayee → Exact uses t)

theorem Stored.getD {old : Option TemplateTable} (h : Stored payee uses old) :
    Sound payee uses (old.getD .empty) ∧
      ((keysOf uses).card ≤ maxPerPayee → Exact uses (old.getD .empty)) := by
  cases old with
  | none =>
    have huses : uses = [] := h
    rw [huses]
    exact ⟨sound_empty payee, fun _ => exact_empty⟩
  | some t => exact ⟨h.1, h.2.2.2⟩

/-- There are templates exactly if there are uses. -/
theorem Stored.isSome_iff {old : Option TemplateTable} (h : Stored payee uses old) :
    old.isSome ↔ uses ≠ [] := by
  cases old with
  | none =>
    have huses : uses = [] := h
    simp [huses]
  | some t =>
    obtain ⟨hsound, hone, -⟩ := h
    refine ⟨fun _ huses => ?_, fun _ => rfl⟩
    have hsize := hsound.size_le
    have hzero : (keysOf []).card = 0 := rfl
    rw [huses] at hsize
    omega

theorem card_keysOf_left (uses uses' : List Transaction) :
    (keysOf uses).card ≤ (keysOf (uses ++ uses')).card :=
  Finset.card_le_card fun k hk => by
    rw [keysOf, List.mem_toFinset] at hk ⊢
    rw [List.map_append]
    exact List.mem_append_left _ hk

theorem card_keysOf_right (uses uses' : List Transaction) :
    (keysOf uses').card ≤ (keysOf (uses ++ uses')).card :=
  Finset.card_le_card fun k hk => by
    rw [keysOf, List.mem_toFinset] at hk ⊢
    rw [List.map_append]
    exact List.mem_append_right _ hk

/-- **Adding a table to the kept templates and giving up those that are too many.** -/
theorem Stored.mergesTo {old : Option TemplateTable} (h : Stored payee uses old)
    (hs' : Sound payee uses' added)
    (he' : (keysOf uses').card ≤ maxPerPayee → Exact uses' added)
    (hm : MergesTo payee (old.getD .empty) added t') (hd : t'.Distinct) (hsize : 1 ≤ added.size) :
    Stored payee (uses ++ uses') (some (prune t')) := by
  obtain ⟨hs, he⟩ := h.getD
  have hsound : Sound payee (uses ++ uses') t' := hs.mergesTo hs' hm hd
  have hkept := size_prune hd hsound.keyed
  refine ⟨⟨distinct_evict hd _, fun k tm htm => hsound.stands (get?_of_get?_evict htm)⟩, ?_, ?_, ?_⟩
  · rw [hkept]
    exact Nat.le_min.mpr ⟨hm.one_le_size hs'.distinct hsize, by decide⟩
  · rw [hkept]
    exact Nat.min_le_right _ _
  · -- With at most five keys there are at most five templates, and none is given up.
    intro hfew
    rw [prune_of_size_le (hsound.size_le.trans hfew)]
    exact Exact.mergesTo hs hs' (he ((card_keysOf_left _ _).trans hfew))
      (he' ((card_keysOf_right _ _).trans hfew)) hm

/-- The kept templates after one more use. -/
theorem Stored.recordUse {old : Option TemplateTable} (h : Stored payee uses old)
    (u : Transaction) :
    Stored payee (uses ++ [u])
      (some (prune (recordUse payee u.date u.postings (old.getD .empty)))) :=
  h.mergesTo (sound_tableOfUse payee u) (fun _ => exact_tableOfUse payee u)
    (mergesTo_recordUse payee u _) (h.getD.1.distinct.alter _ _) (le_refl 1)

/-- The kept templates after merging those of another snapshot. -/
theorem Stored.mergeTemplates {old : Option TemplateTable} (h : Stored payee uses old)
    (h' : Stored payee uses' (some added)) :
    Stored payee (uses ++ uses')
      (some (prune (added.values.foldl (mergeTemplate payee) (old.getD .empty)))) := by
  obtain ⟨hs', hsize, -, he'⟩ := h'
  have hm := mergesTo_foldl_mergeTemplate hs'.distinct hs'.keyed payee (old.getD .empty)
  exact h.mergesTo hs' he' hm
    (distinct_foldl_mergeTemplate h.getD.1.distinct hs'.distinct hs'.keyed payee) hsize

end Template

end Daybook
