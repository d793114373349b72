import Daybook.Proofs.Builder.Safety
import Daybook.Proofs.Calendar.Iso
import Daybook.Proofs.Snapshot.Absorb
import Daybook.Proofs.Template.Store

/-!
# The last date of a snapshot

The last date of a snapshot is moved forward by each transaction and by each date tag of a posting,
and when snapshots are merged the later one stays.  So it is the latest of the days of the
transactions and of the days that date tags were read as.

* `IsLatest`: the latest of a list of days, with `IsLatest.merge`.
* `Snapshot.isLatest_foldl_record`: the last date after a list of entries.
* `Snapshot.Dated`: the last date is that of a transaction or of a date tag.
* `Snapshot.ReachableFrom`: the snapshots that builds with certain options and merging lead to.
* `Snapshot.lastDate_of_reachableFrom`: the last date of such a snapshot.
-/

namespace Daybook

open Calendar Journal

/-! ## The latest of some days -/

/-- Whether a day is the latest of a list of days; there is none if the list is empty. -/
def IsLatest : Option Date → List Date → Prop
  | none, days => days = []
  | some last, days => last ∈ days ∧ ∀ d ∈ days, d.rank ≤ last.rank

theorem isLatest_singleton (d : Date) : IsLatest (some d) [d] :=
  ⟨List.mem_singleton_self d, fun _ hd => (congrArg Date.rank (List.mem_singleton.mp hd)).le⟩

variable {last last' : Option Date} {days days' : List Date}

theorem IsLatest.congr (h : IsLatest last days) (hdays : ∀ d, d ∈ days' ↔ d ∈ days) :
    IsLatest last days' := by
  cases last with
  | none =>
    have hnone : days = [] := h
    exact List.eq_nil_iff_forall_not_mem.mpr fun d hd => by
      rw [hdays, hnone] at hd
      cases hd
  | some last => exact ⟨(hdays last).mpr h.1, fun d hd => h.2 d ((hdays d).mp hd)⟩

/-- The later one of two latest days is the latest of all. -/
theorem IsLatest.merge (h : IsLatest last days) (h' : IsLatest last' days') :
    IsLatest (Option.merge Date.latest last last') (days ++ days') := by
  cases last with
  | none =>
    have hnone : days = [] := h
    rw [hnone, Option.merge_none_left]
    exact h'
  | some x =>
    cases last' with
    | none =>
      have hnone : days' = [] := h'
      rw [hnone, Option.merge_none_right, List.append_nil]
      exact h
    | some y =>
      have hx := x.rank_le_latest_left y
      have hy := x.rank_le_latest_right y
      refine ⟨?_, fun d hd => ?_⟩
      · rcases x.latest_eq_or y with heq | heq
        · rw [heq]
          exact List.mem_append_left _ h.1
        · rw [heq]
          exact List.mem_append_right _ h'.1
      · rcases List.mem_append.mp hd with hd | hd
        · exact (h.2 d hd).trans hx
        · exact (h'.2 d hd).trans hy

/-! ## Transactions -/

/-- The day that an entry reaches. -/
def BookEntry.day? : BookEntry → Option Date
  | date d => some d
  | _ => none

namespace Snapshot

theorem isLatest_record {s : Snapshot} (h : IsLatest s.lastDate days)
    (complaint : String → Warning) (e : BookEntry) :
    IsLatest (e.record complaint s).lastDate (days ++ e.day?.toList) := by
  have hnone : IsLatest s.lastDate (days ++ []) := by rwa [List.append_nil]
  cases e with
  | date d =>
    rw [BookEntry.record, lastDate_reachDate]
    exact h.merge (isLatest_singleton d)
  | tag t =>
    rw [BookEntry.record, useTag_eq]
    exact hnone
  | _ => exact hnone

/-- The last date after a list of entries. -/
theorem isLatest_foldl_record (complaint : String → Warning) (entries : List BookEntry)
    {s : Snapshot} (h : IsLatest s.lastDate days) :
    IsLatest (entries.foldl (BookEntry.record complaint) s).lastDate
      (days ++ entries.filterMap BookEntry.day?) := by
  induction entries generalizing s days with
  | nil => rwa [List.filterMap_nil, List.append_nil]
  | cons e rest ih =>
    have hrest := ih (isLatest_record h complaint e)
    rw [List.append_assoc] at hrest
    rw [List.foldl_cons]
    cases hday : e.day? with
    | none =>
      rw [List.filterMap_cons_none hday]
      rwa [hday] at hrest
    | some d =>
      rw [List.filterMap_cons_some hday]
      rwa [hday] at hrest

/-- Whether a day is read in a date tag of a posting. -/
def DateTagged (reads : String → Date → Prop) (ts : List Transaction) (d : Date) : Prop :=
  ∃ t ∈ ts, ∃ p ∈ t.postings, ∃ tag ∈ p.tags, tag.1 = "date" ∧ tag.2 ≠ "" ∧ reads tag.2 d

theorem mem_filterMap_day? {entries : List BookEntry} {d : Date} :
    d ∈ entries.filterMap BookEntry.day? ↔ .date d ∈ entries := by
  rw [List.mem_filterMap]
  constructor
  · rintro ⟨e, he, hday⟩
    cases e with
    | date d' =>
      cases hday
      exact he
    | _ => cases hday
  · exact fun h => ⟨_, h, rfl⟩

section Entries

variable {day : String → Option Date} {d : Date}

theorem date_mem_postingTagEntries {tag : TagPair} :
    .date d ∈ postingTagEntries day tag ↔
      tag.1 = "date" ∧ tag.2 ≠ "" ∧ day tag.2 = some d := by
  unfold postingTagEntries
  by_cases hdate : tag.1 = "date" ∧ !tag.2.isEmpty
  · have hvalue : tag.2 ≠ "" := by simpa using hdate.2
    rw [if_pos hdate]
    cases hday : day tag.2 with
    | none => simp
    | some d' => simp [hdate.1, hvalue, eq_comm]
  · rw [if_neg hdate]
    simp only [List.mem_singleton, reduceCtorEq, false_iff, not_and]
    intro hname hvalue
    exact absurd ⟨hname, by simpa using hvalue⟩ hdate

theorem date_mem_entries_posting {payee : String} {p : Posting} :
    .date d ∈ p.entries day payee ↔
      ∃ tag ∈ p.tags, tag.1 = "date" ∧ tag.2 ≠ "" ∧ day tag.2 = some d := by
  simp [Posting.entries, List.mem_flatMap, date_mem_postingTagEntries]

/-- Besides its own day a transaction reaches those of its date tags. -/
theorem date_mem_tail_entries {t : Transaction} :
    .date d ∈ (t.entries day).tail ↔ DateTagged (fun value d => day value = some d) [t] d := by
  simp [Transaction.entries, DateTagged, List.mem_flatMap, date_mem_entries_posting]

end Entries

/-! ## Snapshots of builds and merging -/

/-- Whether the last date is the latest of the days of the transactions and of some days that were
read in date tags. -/
def Dated (reads : String → Date → Prop) (s : Snapshot) : Prop :=
  ∃ tagged : List Date, IsLatest s.lastDate (s.transactions.map (·.date) ++ tagged) ∧
    ∀ d ∈ tagged, DateTagged reads s.transactions d

section Dated

variable {reads : String → Date → Prop} {s s' : Snapshot}

theorem DateTagged.mono {ts ts' : List Transaction} {d : Date} (h : DateTagged reads ts d)
    (hsub : ts ⊆ ts') : DateTagged reads ts' d :=
  h.imp fun _ ht => ⟨hsub ht.1, ht.2⟩

theorem dated_empty : Dated reads .empty :=
  ⟨[], rfl, nofun⟩

theorem Dated.of_eq (h : Dated reads s) (htransactions : s'.transactions = s.transactions)
    (hlast : s'.lastDate = s.lastDate) : Dated reads s' := by
  rwa [Dated, htransactions, hlast]

/-- Recording a transaction moves the last date to its day and to those of its date tags. -/
theorem Dated.recordTransaction (h : Dated reads s) {day : String → Option Date}
    (hday : ∀ value d, day value = some d → reads value d) (complaint : String → Warning)
    (t : Transaction) : Dated reads (s.recordTransaction day complaint t) := by
  obtain ⟨tagged, hlatest, htagged⟩ := h
  have hlast : (s.recordTransaction day complaint t).lastDate =
      (s.enter day complaint t).lastDate := by
    rw [recordTransaction_eq]
    split <;> rfl
  have hentered : IsLatest (s.enter day complaint t).lastDate
      (s.transactions.map (·.date) ++ tagged ++
        t.date :: (t.entries day).tail.filterMap BookEntry.day?) :=
    isLatest_foldl_record complaint (t.entries day) hlatest
  refine ⟨tagged ++ (t.entries day).tail.filterMap BookEntry.day?, ?_, fun d hd => ?_⟩
  · rw [hlast, transactions_recordTransaction]
    refine hentered.congr fun d => ?_
    simp only [List.map_append, List.map_cons, List.map_nil, List.mem_append, List.mem_cons,
      List.not_mem_nil]
    tauto
  · rw [transactions_recordTransaction]
    rcases List.mem_append.mp hd with hd | hd
    · exact (htagged d hd).mono (List.subset_append_left _ _)
    · obtain ⟨u, hu, p, hp, tag, htag, hname, hvalue, hread⟩ :=
        date_mem_tail_entries.mp (mem_filterMap_day?.mp hd)
      exact ⟨u, List.mem_append_right _ hu, p, hp, tag, htag, hname, hvalue, hday _ _ hread⟩

/-- Merging keeps the later one of two last dates. -/
theorem Dated.absorb (h : Dated reads s) (h' : Dated reads s') : Dated reads (s.absorb s') := by
  obtain ⟨tagged, hlatest, htagged⟩ := h
  obtain ⟨tagged', hlatest', htagged'⟩ := h'
  refine ⟨tagged ++ tagged', ?_, fun d hd => ?_⟩
  · have hlast : (s.absorb s').lastDate = Option.merge Date.latest s.lastDate s'.lastDate := by
      rw [absorb_eq]
    rw [hlast, transactions_absorb]
    refine (hlatest.merge hlatest').congr fun d => ?_
    simp only [List.map_append, List.mem_append]
    tauto
  · rw [transactions_absorb]
    rcases List.mem_append.mp hd with hd | hd
    · exact (htagged d hd).mono (List.subset_append_left _ _)
    · exact (htagged' d hd).mono (List.subset_append_right _ _)

end Dated

/-! ## Builds -/

/-- Whether one of certain builds reads a text as a day, with the default year that it starts with
or with one that a directive sets. -/
def ReadBy (allowed : BuildOptions → Prop) (value : String) (d : Date) : Prop :=
  ∃ options year, allowed options ∧
    (year = options.defaultYear ∨ ∃ y : Int, year = some y ∧ 0 ≤ y ∧ y ≤ 9999) ∧
    Date.read options.dateOrder year options.today (some value) = .ok d

end Snapshot

namespace Builder

open BuildM Snapshot

/-- Whether a build with certain options reads dates by them or by a directive, and has a last date
of a transaction or of a date tag. -/
structure KeepsDates (allowed : BuildOptions → Prop) (options : BuildOptions) (b : Builder) :
    Prop where
  options_eq : b.options = options
  year : b.defaultYear = options.defaultYear ∨ b.defaultYear.isSome
  sane : Sane b
  dated : b.snapshot.Dated (ReadBy allowed)

variable {allowed : BuildOptions → Prop} {options : BuildOptions} {b : Builder}

theorem KeepsDates.readBy (hb : KeepsDates allowed options b) (hoptions : allowed options)
    {value : String} {d : Date} (h : b.dayOf value = some d) : ReadBy allowed value d := by
  refine ⟨options, b.defaultYear, hoptions, ?_, ?_⟩
  · rcases hb.year with hyear | hyear
    · exact .inl hyear
    · obtain ⟨y, hy⟩ := Option.isSome_iff_exists.mp hyear
      exact .inr ⟨y, hy, hb.sane.year y hy⟩
  · rw [dayOf, readDate, hb.options_eq] at h
    cases hread : Date.read options.dateOrder b.defaultYear options.today (some value) with
    | ok d' =>
      rw [hread] at h
      cases h
      rfl
    | error e =>
      rw [hread] at h
      cases e <;> cases h

theorem reading_keepsDates (hoptions : allowed options) : Reading (KeepsDates allowed options) where
  tokens pending fingerprint h := { h with sane := reading_sane.tokens pending fingerprint h.sane }
  warn line message h :=
    { h with
      sane := reading_sane.warn line message h.sane
      dated := h.dated.of_eq rfl rfl }
  reading t skipping h := { h with sane := reading_sane.reading t skipping h.sane }
  record complaint t h :=
    { h with
      sane := reading_sane.record complaint t h.sane
      dated := h.dated.recordTransaction (fun _ _ hread => h.readBy hoptions hread) complaint t }

/-- A directive on a line records no date. -/
theorem keeps_keepsDates_directive {name : String} {args : List Token}
    (hyear : name = "Y" ∨ name = "year" → ∃ tok, firstOf? .text args = some tok ∧ IsYear tok.text)
    (line : Int) : Keeps (KeepsDates allowed options) (directive name args line) := by
  intro b a b' h hb
  have hsane := keeps_sane_directive hyear line h hb.sane
  have hprices : ∀ (symbols : List String) (s : Snapshot), s.Dated (ReadBy allowed) →
      (symbols.foldl mentionCommodity s).Dated (ReadBy allowed) := by
    intro symbols
    induction symbols with
    | nil => exact fun _ hs => hs
    | cons symbol rest ih => exact fun s hs => ih _ (hs.of_eq rfl rfl)
  cases directed_of_outcome h with
  | nothing => exact hb
  | price symbols => exact { hb with sane := hsane, dated := hprices symbols _ hb.dated }
  | year => exact { hb with sane := hsane, year := .inr rfl }
  | _ => exact { hb with sane := hsane, dated := hb.dated.of_eq rfl rfl }

end Builder

namespace Snapshot

open Builder BuildM

variable {allowed : BuildOptions → Prop} {s : Snapshot}

/-- The snapshots that builds with certain options and merging lead to. -/
inductive ReachableFrom (allowed : BuildOptions → Prop) : Snapshot → Prop where
  | empty : ReachableFrom allowed .empty
  | ofText {options : BuildOptions} {text : String} {s : Snapshot} (hoptions : allowed options)
    (h : ofText options text = .ok s) : ReachableFrom allowed s
  | merge {a b : Snapshot} (ha : ReachableFrom allowed a) (hb : ReachableFrom allowed b) :
    ReachableFrom allowed (a.merge b)
  | mergeAll {snapshots : List Snapshot} (h : ∀ s ∈ snapshots, ReachableFrom allowed s) :
    ReachableFrom allowed (mergeAll snapshots)

/-- The last date of a text is that of a transaction or of a date tag. -/
theorem dated_of_ofText {options : BuildOptions} {text : String}
    (hyear : ∀ y ∈ options.defaultYear, 1 ≤ y ∧ y ≤ 9999) (hoptions : allowed options)
    (h : ofText options text = .ok s) : Dated (ReadBy allowed) s := by
  obtain ⟨b, hlines, -, rfl⟩ := ofText_eq_ok_iff.mp h
  have hreading := reading_keepsDates hoptions
  have hstart : KeepsDates allowed options (Builder.start options) :=
    ⟨rfl, .inl rfl, sane_start hyear, dated_empty⟩
  have hb : KeepsDates allowed options b :=
    hreading.keeps_lines (fun _ _ _ hr line _ _ hdir =>
      keeps_keepsDates_directive (year_of_lineDirective? (lineForm_tokens hr line) hdir) line)
      rfl hlines hstart
  exact (hreading.closed hb).dated.of_eq rfl rfl

/-- **The last date is that of a transaction or of a date tag**, and none of them is later. -/
theorem ReachableFrom.dated (h : ReachableFrom allowed s)
    (hyear : ∀ options, allowed options → ∀ y ∈ options.defaultYear, 1 ≤ y ∧ y ≤ 9999) :
    Dated (ReadBy allowed) s := by
  induction h with
  | empty => exact dated_empty
  | ofText hoptions h => exact dated_of_ofText (hyear _ hoptions) hoptions h
  | merge _ _ iha ihb => exact merge_induction (iha.absorb ihb) iha ihb
  | mergeAll _ ih => exact mergeAll_induction dated_empty (fun _ _ ha hb => ha.absorb hb) ih

/-- The days that are stored in a snapshot. -/
inductive Stores (s : Snapshot) : Date → Prop where
  | lastDate {d : Date} (h : s.lastDate = some d) : Stores s d
  | transaction {t : Transaction} (h : t ∈ s.transactions) : Stores s t.date
  | template {payee key : String} {table : Template.TemplateTable} {tm : Template}
    (htable : s.templates.get? payee = some table) (htm : (key, tm) ∈ table.entries) :
    Stores s tm.lastUsed

/-- **The last date of a snapshot.**  Every day that is stored in a snapshot is one of the calendar,
and days are ordered as their written forms are.  There is no last date if and only if there are no
transactions; otherwise it is a day of a transaction or a day that a date tag of a posting was read
as, and no transaction is later. -/
theorem lastDate_of_reachableFrom
    (hyear : ∀ options, allowed options → ∀ y ∈ options.defaultYear, 1 ≤ y ∧ y ≤ 9999)
    (h : ReachableFrom allowed s) :
    (∀ d, Stores s d → IsDay d.year d.month d.day ∧ d.IsIso d.iso ∧
      ∀ d', Stores s d' → (d.iso < d'.iso ↔ d.lt d' = true)) ∧
    (s.lastDate = none ↔ s.transactions = []) ∧
    ∀ last, s.lastDate = some last →
      (∀ t ∈ s.transactions, t.date.le last) ∧
      ((∃ t ∈ s.transactions, t.date = last) ∨
        DateTagged (ReadBy allowed) s.transactions last) := by
  obtain ⟨tagged, hlatest, htagged⟩ := h.dated hyear
  refine ⟨fun d _ => ⟨d.isDay, d.isIso_iso, fun d' _ => Date.iso_lt_iso_iff⟩, ?_,
    fun last hlast => ?_⟩
  · cases hlast : s.lastDate with
    | none =>
      rw [hlast] at hlatest
      have hnone : s.transactions.map (·.date) ++ tagged = [] := hlatest
      exact ⟨fun _ => List.map_eq_nil_iff.mp (List.append_eq_nil_iff.mp hnone).1, fun _ => rfl⟩
    | some last =>
      rw [hlast] at hlatest
      refine ⟨nofun, fun hempty => ?_⟩
      rcases List.mem_append.mp hlatest.1 with hmem | hmem
      · rw [hempty] at hmem
        cases hmem
      · obtain ⟨t, ht, -⟩ := htagged last hmem
        rw [hempty] at ht
        cases ht
  · rw [hlast] at hlatest
    refine ⟨fun t ht => ?_, ?_⟩
    · exact decide_eq_true
        (hlatest.2 t.date (List.mem_append_left _ (List.mem_map_of_mem ht)))
    · rcases List.mem_append.mp hlatest.1 with hmem | hmem
      · exact .inl (List.mem_map.mp hmem)
      · exact .inr (htagged last hmem)

/-- A date tag that is later than its transaction. -/
theorem lastDate_of_date_tag :
    ∃ s, ofText .plain "2024-01-05 x\n a  1  ; date:2/1\n b\n" = .ok s ∧
      s.lastDate = some ⟨2024, 2, 1, by decide⟩ ∧
      DateTagged (ReadBy (· = .plain)) s.transactions ⟨2024, 2, 1, by decide⟩ := by
  have hread : (ofText .plain "2024-01-05 x\n a  1  ; date:2/1\n b\n").map
      (fun s => (s.lastDate, s.transactions.map (·.date))) =
        .ok (some ⟨2024, 2, 1, by decide⟩, [⟨2024, 1, 5, by decide⟩]) := by
    decide +kernel
  obtain ⟨s, hs, hdates⟩ := exists_ok_of_map hread
  obtain ⟨hlast, htransactions⟩ := Prod.mk.inj hdates
  refine ⟨s, hs, hlast, ?_⟩
  have hyear : ∀ options : BuildOptions, options = .plain → ∀ y ∈ options.defaultYear,
      1 ≤ y ∧ y ≤ 9999 := by
    rintro _ rfl y hy
    cases hy
  rcases ((lastDate_of_reachableFrom hyear (.ofText rfl hs)).2.2 _ hlast).2 with ⟨t, ht, hdate⟩ | h
  · have hmem : t.date ∈ s.transactions.map (·.date) := List.mem_map_of_mem ht
    rw [htransactions, hdate] at hmem
    exact absurd hmem (by decide)
  · exact h

end Snapshot

end Daybook
