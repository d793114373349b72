import Daybook.Completion.Prompt
import Daybook.Proofs.Completion.Commodity
import Daybook.Proofs.Completion.Dates
import Daybook.Proofs.Completion.Query
import Daybook.Proofs.Snapshot.Names

/-!
# What suggestions replace

A suggestion comes with the column from which it replaces text, and accepting it must not destroy
anything but what it was suggested for.  All suggestions of an answer replace the same text, which ends
at the cursor, and each of them goes on from it: a day starts with it, and any other name has its
characters in the same order.

* `Item.Continues`: whether a suggestion goes on from a text.
* `Replaces`: whether suggestions replace a text in front of the cursor that they go on from.
* `plainLabels`: the labels of the suggestions other than templates.
* `Engine.suggestions_replace_typed`: what the suggestions of an engine replace.
-/

namespace Daybook.Completion

open Text Calendar Search

/-! ## Going on from what is typed -/

/-- Whether a suggestion goes on from a text: a day starts with it, the name of a payee or of anything
else is found by it, and a template starts with the name of such a payee. -/
def Item.Continues (text : List Char) (i : Item) : Prop :=
  match i.kind with
  | .date => i.kind.typed text <+: i.label.toList
  | .template =>
    ∃ payee : String, payee.toList <+: i.label.toList ∧
      Finds (String.ofList (i.kind.typed text)) payee
  | _ => Finds (String.ofList (i.kind.typed text)) i.label

/-- Whether there are no more than `cap` suggestions, and all of them replace the text between one column
and the cursor and go on from it. -/
structure Replaces (line : List Char) (column cap : Nat) (items : List Item) : Prop where
  length_le : items.length ≤ cap
  exists_start : ∃ start, start ≤ column ∧ ∀ i ∈ items, i.replaceStart = start
  continues : ∀ i ∈ items, i.Continues (Match.slice line i.replaceStart column)

theorem replaces_nil (line : List Char) (column cap : Nat) : Replaces line column cap [] where
  length_le := Nat.zero_le cap
  exists_start := ⟨0, Nat.zero_le column, nofun⟩
  continues := nofun

/-- Menu entries start at the cursor or in front of it. -/
theorem Replaces.offset_nonpos {line : List Char} {column cap : Nat} {items : List Item}
    (h : Replaces line column cap items) {i : Item} (hi : i ∈ items) :
    (i.menuEntry column).offset ≤ 0 := by
  obtain ⟨start, hstart, hall⟩ := h.exists_start
  rw [Item.menuEntry, hall i hi]
  dsimp only
  omega

theorem slice_eq_drop_take (line : List Char) (start column : Nat) :
    Match.slice line start column = (line.take column).drop start := by
  rw [Match.slice, List.drop_take]

/-- Suggestions with ranks replace what those without ranks do. -/
theorem replaces_numbered {line : List Char} {column : Nat} (cap : Nat) {items : List Item}
    {start : Nat} (hstart : start ≤ column) (hstarts : ∀ i ∈ items, i.replaceStart = start)
    (hcontinues : ∀ i ∈ items, i.Continues ((line.take column).drop start)) :
    Replaces line column cap (numbered cap items) where
  length_le := by
    rw [numbered, List.length_map, List.length_zipIdx]
    exact List.length_take_le _ _
  exists_start := by
    refine ⟨start, hstart, fun i hi => ?_⟩
    obtain ⟨j, hj, heq⟩ := mem_numbered hi
    rw [heq]
    exact hstarts j hj
  continues := by
    intro i hi
    obtain ⟨j, hj, heq⟩ := mem_numbered hi
    rw [heq, slice_eq_drop_take]
    dsimp only
    rw [hstarts j hj]
    exact hcontinues j hj

/-! ## Days -/

theorem Item.IsDay.continues {before : List Char} {day : Date × String} {i : Item}
    (h : i.IsDay before day) : i.Continues (before.drop (leadingBlanks before)) := by
  unfold Item.Continues
  rw [h.kind_eq]
  dsimp only [ItemKind.typed]
  rw [drop_leadingBlanks, trimChars_trimStart]
  exact h.starts

/-! ## Names -/

section

variable {s : Snapshot} {payee : Option String} {lookup : Lookup} {settings : Settings}
  {before : List Char}

theorem kind_offer (r : Ranked) : (offer s lookup r).kind = lookup.subject.kind := by
  unfold offer
  cases lookup.subject <;> rfl

theorem replaceStart_offer (r : Ranked) : (offer s lookup r).replaceStart = lookup.start := by
  unfold offer
  cases lookup.subject <;> rfl

theorem continues_offer (h : lookup.IsTyped before) {r : Ranked}
    (hr : Finds lookup.query r.item) :
    (offer s lookup r).Continues (before.drop lookup.start) := by
  have hlabel : (offer s lookup r).label = r.item := congrArg Ranked.item (ranked_offer r)
  rw [h.query_eq] at hr
  unfold Item.Continues
  rw [kind_offer, hlabel]
  revert hr
  cases lookup.subject <;> exact id

theorem continues_templateOffer (h : lookup.IsTyped before) (hsubject : lookup.subject = .payees)
    {r : Ranked} (hr : Finds lookup.query r.item) (t : Template) :
    (templateOffer s lookup r t).Continues (before.drop lookup.start) := by
  rw [h.query_eq, hsubject] at hr
  refine ⟨r.item, ?_, hr⟩
  rw [templateOffer]
  simp

/-- The suggestions of a search go on from what is looked up. -/
theorem replaces_searchAnew {line : List Char} {column : Nat}
    (h : lookup.IsTyped (line.take column)) :
    Replaces line column settings.maxResults
      (numbered settings.maxResults (searchAnew settings s payee lookup)) := by
  have hstart : lookup.start ≤ column := h.start_le.trans (List.length_take_le _ _)
  refine replaces_numbered _ hstart (fun i hi => ?_) fun i hi => ?_
  · obtain ⟨r, -, rfl | ⟨-, t, rfl⟩⟩ := mem_searchAnew hi
    · exact replaceStart_offer r
    · rfl
  · obtain ⟨r, hr, rfl | ⟨hsubject, t, rfl⟩⟩ := mem_searchAnew hi
    · exact continues_offer h (mem_names_and_finds_of_mem_matchesOf hr).2
    · exact continues_templateOffer h hsubject (mem_names_and_finds_of_mem_matchesOf hr).2 t

/-! ## Labels -/

/-- The labels of the suggestions other than templates. -/
def plainLabels (items : List Item) : List String :=
  (items.filter fun i => i.kind ≠ .template).map (·.label)

theorem sublist_plainLabels_numbered (cap : Nat) (items : List Item) :
    (plainLabels (numbered cap items)).Sublist (plainLabels items) := by
  have hranks : plainLabels (numbered cap items) = plainLabels (items.take cap) := by
    conv_rhs => rw [← List.zipIdx_map_fst 0 (items.take cap)]
    rw [plainLabels, plainLabels, numbered, List.filter_map, List.filter_map, List.map_map,
      List.map_map]
    rfl
  rw [hranks]
  exact ((List.take_sublist cap items).filter _).map _

/-- Apart from templates there is one suggestion for each match. -/
theorem plainLabels_offers (withTemplates : Bool) (found : List Ranked) :
    plainLabels (offers s withTemplates payee lookup found) =
      (byMerit s payee lookup.subject found).map (·.item) := by
  have hplain (r : Ranked) : plainLabels (offer s lookup r ::
      if withTemplates then templateOffers s lookup r else []) = [r.item] := by
    have hkind : (offer s lookup r).kind ≠ .template := by
      rw [kind_offer]
      cases lookup.subject <;> nofun
    have htemplates : ∀ i ∈ (if withTemplates then templateOffers s lookup r else []),
        ¬decide (i.kind ≠ .template) = true := by
      intro i hi
      unfold templateOffers at hi
      split_ifs at hi
      · obtain ⟨t, -, rfl⟩ := List.mem_map.mp hi
        exact not_not_intro rfl ∘ of_decide_eq_true
      · cases hi
      · cases hi
    rw [plainLabels, List.filter_cons, if_pos (decide_eq_true hkind),
      List.filter_eq_nil_iff.mpr htemplates, List.map_singleton]
    exact congrArg (fun r : Ranked => [r.item]) (ranked_offer r)
  rw [plainLabels, offers, List.filter_flatMap, List.map_flatMap]
  refine (List.flatMap_congr fun r _ => hplain r).trans ?_
  exact List.map_eq_flatMap.symm

/-- **Distinct names lead to distinct labels.** -/
theorem nodup_plainLabels_searchAnew (h : (lookup.subject.names s).Nodup) :
    (plainLabels (searchAnew settings s payee lookup)).Nodup := by
  have hmatches : ((matchesOf s lookup).map (·.item)).Nodup :=
    (perm_matchesOf s lookup).nodup_iff.mpr (h.filter _)
  rw [searchAnew_eq, plainLabels_offers, ((byMerit_perm _).map _).nodup_iff, List.map_take]
  exact hmatches.sublist (List.take_sublist _ _)

end

/-! ## Answers -/

section

variable {s : Snapshot} {settings : Settings} {request : Request} {items : List Item}

/-- The text in front of a cursor that stands in the line or at its end. -/
theorem before_of_analyze {line : List Char} {column : Nat} {position : Position}
    (h : analyze line column = .ok position) : position.before = line.take column := by
  unfold analyze at h
  split at h
  · cases h
  · cases h
    exact congrArg (line.take ·) (Int.toNat_natCast column)

/-- **What the suggestions for a request replace.** -/
theorem replaces_answer {column : Nat} (hbreak : '\n' ∉ request.line)
    (hcolumn : request.column = column) (h : answer settings s request = .ok items) :
    Replaces request.line column settings.maxResults items := by
  obtain rfl | ⟨position, domain, all, hposition, -, hall, rfl⟩ := answer_eq_ok h
  · exact replaces_nil request.line column settings.maxResults
  rw [hcolumn] at hposition
  have hbefore := before_of_analyze hposition
  rw [hbefore] at hall
  have hbreak' : '\n' ∉ request.line.take column := fun hmem => hbreak (List.mem_of_mem_take hmem)
  obtain rfl | ⟨-, hdays⟩ | ⟨lookup, hlookup, rfl⟩ := suggestAnew_eq_ok hall
  · exact replaces_numbered _ (Nat.zero_le column) nofun nofun
  · obtain ⟨days, hsuggested⟩ := exists_suggestedDays_of_dateItems hdays
    obtain ⟨items, hitems, -, hday⟩ := exists_dateItems hsuggested (request.line.take column)
    cases hdays.symm.trans hitems
    have hstart : leadingBlanks (request.line.take column) ≤ column :=
      (leadingBlanks_le _).trans (List.length_take_le _ _)
    refine replaces_numbered _ hstart (fun i hi => ?_) fun i hi => ?_
    · obtain ⟨day, -, hi⟩ := hday i hi
      exact hi.replaceStart_eq
    · obtain ⟨day, -, hi⟩ := hday i hi
      exact hi.continues
  · exact replaces_searchAnew (isTyped_of_lookup? hbreak' hlookup)

/-- Where the names of every subject are distinct, so are the labels of the suggestions other than
templates. -/
theorem nodup_plainLabels_answer (hnames : ∀ subject : Subject, (subject.names s).Nodup)
    (h : answer settings s request = .ok items) : (plainLabels items).Nodup := by
  obtain rfl | ⟨position, domain, all, -, -, hall, rfl⟩ := answer_eq_ok h
  · exact List.nodup_nil
  refine List.Nodup.sublist (sublist_plainLabels_numbered _ all) ?_
  obtain rfl | ⟨-, hdays⟩ | ⟨lookup, -, rfl⟩ := suggestAnew_eq_ok hall
  · exact List.nodup_nil
  · obtain ⟨days, hsuggested⟩ := exists_suggestedDays_of_dateItems hdays
    obtain ⟨items, hitems, happart, -⟩ := exists_dateItems hsuggested position.before
    cases hdays.symm.trans hitems
    exact List.pairwise_map.mpr (happart.sublist (List.filter_sublist))
  · exact nodup_plainLabels_searchAnew (hnames lookup.subject)

/-- From the year 2 on there is something to suggest for every domain. -/
theorem exists_suggestAnew (settings : Settings) (s : Snapshot) (domain : Domain)
    (before : List Char) (payee : Option String) {today : Date} (h : 2 ≤ today.year) :
    ∃ all, suggestAnew settings s domain before payee today = .ok all := by
  cases hlookup : lookup? domain before with
  | some lookup => exact ⟨_, suggestAnew_of_lookup hlookup⟩
  | none =>
    unfold suggestAnew
    cases domain with
    | date =>
      obtain ⟨days, hdays, -⟩ := exists_suggestedDays s.lastDate h
      obtain ⟨items, hitems, -⟩ := exists_dateItems hdays before
      exact ⟨items, by rw [hitems]⟩
    | _ => exact ⟨[], by rw [hlookup]⟩

theorem exists_answer (hcolumn : 0 ≤ request.column) (hyear : 2 ≤ request.today.year) :
    ∃ items, answer settings s request = .ok items := by
  obtain ⟨position, hposition⟩ := exists_analyze_eq_ok request.line hcolumn
  unfold answer
  rw [hposition]
  dsimp only
  cases position.context.domain? with
  | none => exact ⟨[], rfl⟩
  | some domain =>
    dsimp only
    split_ifs
    · exact ⟨[], rfl⟩
    · obtain ⟨all, hall⟩ :=
        exists_suggestAnew settings s domain position.before request.payee hyear
      exact ⟨_, by rw [hall]; rfl⟩

end

namespace Engine

variable {prepared : Nat → List Candidate} {e : Engine} {m : Matcher}

/-- **What suggestions replace.**  Take an engine that has prepared the names of its snapshot with a
matcher that remembers right results, as every engine has after any calls, and a line without line
breaks.  There are no more suggestions than the settings allow.  All of them replace the text between
one column and the cursor, and each goes on from that text; so no entry of a menu starts behind the
cursor.  Where the names of every subject are distinct, as in every reachable snapshot, so are the labels
of all suggestions other than templates.  From the year 2 on there is always an answer. -/
theorem suggestions_replace_typed (hm : m.Remembers prepared) (he : e.Ready prepared m)
    {request : Request} {column : Nat} (hbreak : '\n' ∉ request.line)
    (hcolumn : request.column = column) :
    (∀ items, (e.complete m request).1 = .ok items →
      Replaces request.line column e.settings.maxResults items ∧
      (∀ i ∈ items, (i.menuEntry column).offset ≤ 0) ∧
      ((∀ subject : Subject, (subject.names e.data).Nodup) → (plainLabels items).Nodup)) ∧
    (2 ≤ request.today.year → ∃ items, (e.complete m request).1 = .ok items) ∧
    (Snapshot.Reachable e.data → ∀ subject : Subject, (subject.names e.data).Nodup) := by
  have hcolumn' : 0 ≤ request.column := hcolumn ▸ Int.natCast_nonneg column
  refine ⟨fun items hitems => ?_, fun hyear => ?_, fun h subject => subject.nodup_names h⟩
  · cases hdisposed : e.disposed with
    | true =>
      obtain rfl := Except.ok.inj ((complete_of_disposed hdisposed hcolumn').symm.trans hitems)
      exact ⟨replaces_nil _ _ _, nofun, fun _ => List.nodup_nil⟩
    | false =>
      rw [(complete_leaves hm he request).1 hdisposed] at hitems
      have hreplaces := replaces_answer hbreak hcolumn hitems
      exact ⟨hreplaces, fun i hi => hreplaces.offset_nonpos hi,
        fun hnames => nodup_plainLabels_answer hnames hitems⟩
  · cases hdisposed : e.disposed with
    | true => exact ⟨[], complete_of_disposed hdisposed hcolumn'⟩
    | false =>
      rw [(complete_leaves hm he request).1 hdisposed]
      exact exists_answer hcolumn' hyear

/-- A request for the commodities that start like one that is typed with a quote in front of it. -/
def quotedCommodityRequest : Request where
  line := " a  1 \"gr".toList
  column := 9
  payee := none
  today := BuildOptions.plain.today

/-- The quote is replaced but not looked up, and what is typed behind it leads to a symbol of two
words. -/
theorem suggestions_replace_typed_quote :
    ∃ s fresh items, Snapshot.ofText .plain (quotedSymbolJournal "green apples") = .ok s ∧
      Matcher.make 50 1000 = .ok fresh ∧ '\n' ∉ quotedCommodityRequest.line ∧
      ((start .standard s).complete fresh quotedCommodityRequest).1 = .ok items ∧
      items.map (fun i => (i.label, i.replaceStart)) = [("green apples", 6)] ∧
      Match.slice quotedCommodityRequest.line 6 9 = "\"gr".toList ∧
      Replaces quotedCommodityRequest.line 9 Settings.standard.maxResults items ∧
      (∀ i ∈ items, (i.menuEntry 9).offset ≤ 0) ∧ (plainLabels items).Nodup := by
  have hread : (Snapshot.ofText .plain (quotedSymbolJournal "green apples")).map
      (fun s => (answer .standard s quotedCommodityRequest).map
        (·.map fun i => (i.label, i.replaceStart))) = .ok (.ok [("green apples", 6)]) := by
    decide +kernel
  obtain ⟨s, htext, hanswer⟩ := exists_ok_of_map hread
  have hbreak : '\n' ∉ quotedCommodityRequest.line := by decide
  have hcolumn : quotedCommodityRequest.column = (9 : Nat) := rfl
  obtain ⟨fresh, hfresh⟩ : ∃ fresh, Matcher.make 50 1000 = .ok fresh := ⟨_, rfl⟩
  have hremembers := Matcher.remembers_of_make hfresh fun _ => []
  obtain ⟨hreplaces, hsome, hnames⟩ :=
    suggestions_replace_typed hremembers (ready_start .standard s) hbreak hcolumn
  obtain ⟨items, hitems⟩ := hsome (by decide)
  obtain ⟨hitems', hoffset, hlabels⟩ := hreplaces items hitems
  rw [← complete_start hfresh .standard s, hitems] at hanswer
  exact ⟨s, fresh, items, htext, hfresh, hbreak, hitems, Except.ok.inj hanswer, by decide, hitems',
    hoffset, hlabels (hnames (.ofText htext))⟩

end Engine

end Daybook.Completion
