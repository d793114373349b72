import Daybook.Proofs.Completion.Cap

/-!
# Where suggestions come from

A suggestion is a day around the present one, or it stands for a name that a search found, or for a
template of such a name.  What is said about a suggestion follows from where it comes from.

* `Item.IsDay`, `exists_dateItems`: the suggestions that are days.
* `Finds`, `perm_matchesOf`: the names that a search finds.
* `mem_searchAnew`: the suggestions of a search.
* `suggestAnew_eq_ok`, `answer_eq_ok`, `Engine.complete_eq_ok`: what an answer is made of.
-/

namespace Daybook

theorem mem_of_mem_eraseDupsBy {α : Type} {r : α → α → Bool} {a : α} :
    ∀ {l : List α}, a ∈ l.eraseDupsBy r → a ∈ l
  | [], h => h
  | b :: l, h => by
    rw [List.eraseDupsBy_cons] at h
    rcases List.mem_cons.mp h with rfl | h
    · exact List.mem_cons_self
    · exact List.mem_cons_of_mem b (List.mem_filter.mp (mem_of_mem_eraseDupsBy h)).1
termination_by l => l.length
decreasing_by exact Nat.lt_succ_of_le (List.length_filter_le _ l)

/-- No member that is kept is taken for a later one. -/
theorem pairwise_eraseDupsBy {α : Type} (r : α → α → Bool) :
    ∀ l : List α, (l.eraseDupsBy r).Pairwise fun a b => r b a = false
  | [] => .nil
  | a :: l => by
    rw [List.eraseDupsBy_cons]
    refine List.pairwise_cons.mpr ⟨fun b hb => ?_, pairwise_eraseDupsBy r _⟩
    exact of_decide_eq_true (List.mem_filter.mp (mem_of_mem_eraseDupsBy hb)).2
termination_by l => l.length
decreasing_by exact Nat.lt_succ_of_le (List.length_filter_le _ l)

namespace Completion

open Text Calendar Search

/-! ## Days -/

/-- Whether a suggestion is for a day: it is written in the form in which a date is being typed, and
starts with what is typed of it. -/
structure Item.IsDay (before : List Char) (day : Date × String) (i : Item) : Prop where
  kind_eq : i.kind = .date
  label_eq : i.label = (DateStyle.ofTyped (trimChars before)).write day.1
  insertText_eq : i.insertText = i.label
  replaceStart_eq : i.replaceStart = leadingBlanks before
  detail_eq : i.detail = some day.2
  starts : trimChars before <+: i.label.toList

section

variable {last : Option Date} {today : Date} {before : List Char}

/-- **The suggestions of days** are for days that are offered, and no two of them look the same. -/
theorem exists_dateItems {days : List (Date × String)} (h : suggestedDays last today = .ok days)
    (before : List Char) :
    ∃ items, dateItems last today before = .ok items ∧
      (items.Pairwise fun i j => i.label ≠ j.label) ∧
      ∀ i ∈ items, ∃ day ∈ days, i.IsDay before day := by
  refine ⟨_, by rw [dateItems, h]; rfl, ?_, fun i hi => ?_⟩
  · refine (pairwise_eraseDupsBy _ _).imp fun {i j} hij => ?_
    exact (beq_eq_false_iff_ne.mp hij).symm
  · obtain ⟨hi, hstarts⟩ := List.mem_filter.mp (mem_of_mem_eraseDupsBy hi)
    obtain ⟨day, hday, rfl⟩ := List.mem_map.mp hi
    exact ⟨day, hday, rfl, rfl, rfl, rfl, rfl, List.isPrefixOf_iff_prefix.mp hstarts⟩

theorem exists_suggestedDays_of_dateItems {items : List Item}
    (h : dateItems last today before = .ok items) :
    ∃ days, suggestedDays last today = .ok days := by
  unfold dateItems at h
  cases hdays : suggestedDays last today with
  | error err =>
    rw [hdays] at h
    cases h
  | ok days => exact ⟨days, rfl⟩

end

/-! ## Names -/

/-- Whether a name is found by a query: both folded, the query is blank or a subsequence of it. -/
def Finds (query name : String) : Prop :=
  (fold query).toList.all isBlank = true ∨ Matches query name

instance (query name : String) : Decidable (Finds query name) :=
  inferInstanceAs (Decidable ((fold query).toList.all isBlank = true ∨ Matches query name))

/-- **A search finds the names that its query finds**, each as often as it is among the names. -/
theorem perm_allMatches (query : String) (usage : Table String Int) (names : List String) :
    ((allMatches query (names.map (Candidate.ofName usage))).map (·.item)).Perm
      (names.filter fun name => Finds query name) := by
  by_cases hblank : (fold query).toList.all isBlank = true
  · have hall : (names.filter fun name => Finds query name) = names :=
      List.filter_eq_self.mpr fun name _ => decide_eq_true (.inl hblank)
    rw [allMatches, if_pos hblank, hall, List.map_map, List.map_map]
    exact List.Perm.of_eq ((List.map_congr_left fun name _ => item_ofName usage name).trans
      (List.map_id names))
  · have hfilled : (fold query).toList ≠ [] := by
      intro hnil
      rw [hnil] at hblank
      exact hblank rfl
    have hmatching : (matching query names).map (·.1) =
        names.filter fun name => Finds query name := by
      conv_rhs => rw [← List.zipIdx_map_fst 0 names, List.filter_map]
      refine congrArg _ (List.filter_congr fun e _ => ?_)
      simp only [Finds, hblank, Bool.false_eq_true, false_or, Function.comp_apply]
    obtain ⟨ranking, hranking, hall⟩ := exists_isRanking hfilled usage names
    rw [allMatches, if_neg hblank, hall, ← hmatching, List.map_map]
    exact hranking.perm.map _

theorem perm_sortNames (names : List String) : (sortNames names).Perm names := by
  refine ((List.mergeSort_perm _ _).map _).trans (List.Perm.of_eq ?_)
  rw [List.map_map]
  exact List.map_id names

/-- The names of a subject in the order in which they are offered. -/
theorem perm_ordered (s : Snapshot) (subject : Subject) :
    ((subject.ordered s).map (·.1)).Perm (subject.names s) := by
  refine (((List.mergeSort_perm _ _).map _).trans (List.Perm.of_eq ?_)).trans
    (perm_sortNames (subject.names s))
  rw [List.map_map]
  exact List.map_id _

section

variable {s : Snapshot} {payee : Option String} {lookup : Lookup} {settings : Settings}

theorem perm_matchesOf (s : Snapshot) (lookup : Lookup) :
    ((matchesOf s lookup).map (·.item)).Perm
      ((lookup.subject.names s).filter fun name => Finds lookup.query name) :=
  (perm_allMatches lookup.query _ _).trans ((perm_ordered s lookup.subject).filter _)

theorem mem_names_and_finds_of_mem_matchesOf {r : Ranked} (h : r ∈ matchesOf s lookup) :
    r.item ∈ lookup.subject.names s ∧ Finds lookup.query r.item := by
  have hname : r.item ∈ (matchesOf s lookup).map (·.item) := List.mem_map_of_mem h
  rw [(perm_matchesOf s lookup).mem_iff, List.mem_filter, decide_eq_true_eq] at hname
  exact hname

/-! ## Suggestions -/

/-- A suggestion is that of a match, or that of a template of a payee. -/
theorem mem_offers {withTemplates : Bool} {found : List Ranked} {i : Item}
    (h : i ∈ offers s withTemplates payee lookup found) :
    ∃ r ∈ found, i = offer s lookup r ∨
      lookup.subject = .payees ∧ ∃ t, i = templateOffer s lookup r t := by
  obtain ⟨r, hr, hi⟩ := List.mem_flatMap.mp h
  refine ⟨r, (byMerit_perm found).mem_iff.mp hr, ?_⟩
  rcases List.mem_cons.mp hi with rfl | hi
  · exact .inl rfl
  · unfold templateOffers at hi
    split_ifs at hi with _ hshows
    · obtain ⟨t, -, rfl⟩ := List.mem_map.mp hi
      simp only [showsTemplates, Bool.and_eq_true, beq_iff_eq] at hshows
      exact .inr ⟨hshows.1.1, t, rfl⟩
    · cases hi
    · cases hi

/-- **The suggestions of a search** are those of the names that it finds and, for payees, those of their
templates. -/
theorem mem_searchAnew {i : Item} (h : i ∈ searchAnew settings s payee lookup) :
    ∃ r ∈ matchesOf s lookup, i = offer s lookup r ∨
      lookup.subject = .payees ∧ ∃ t, i = templateOffer s lookup r t := by
  rw [searchAnew_eq] at h
  obtain ⟨r, hr, hi⟩ := mem_offers h
  exact ⟨r, List.mem_of_mem_take hr, hi⟩

/-- Ranks change nothing else about suggestions. -/
theorem mem_numbered {cap : Nat} {items : List Item} {i : Item} (h : i ∈ numbered cap items) :
    ∃ j ∈ items, i = { j with sortKey := i.sortKey } := by
  obtain ⟨e, he, rfl⟩ := List.mem_map.mp h
  exact ⟨e.1, List.mem_of_mem_take (List.fst_mem_of_mem_zipIdx he), rfl⟩

/-- **What is suggested for a domain**: nothing, days, or what a search leads to. -/
theorem suggestAnew_eq_ok {domain : Domain} {before : List Char} {today : Date} {items : List Item}
    (h : suggestAnew settings s domain before payee today = .ok items) :
    items = [] ∨ domain = .date ∧ dateItems s.lastDate today before = .ok items ∨
      ∃ lookup, lookup? domain before = some lookup ∧
        items = searchAnew settings s payee lookup := by
  cases hlookup : lookup? domain before with
  | some lookup =>
    rw [suggestAnew_of_lookup hlookup] at h
    cases h
    exact .inr (.inr ⟨lookup, rfl, rfl⟩)
  | none =>
    unfold suggestAnew at h
    cases domain with
    | date =>
      dsimp only at h
      split at h
      · cases h
      · rename_i days hdays
        cases h
        exact .inr (.inl ⟨rfl, hdays⟩)
    | _ =>
      rw [hlookup] at h
      cases h
      exact .inl rfl

/-- **What an answer is made of**: nothing, or the first suggestions for the domain of the place, with
their ranks. -/
theorem answer_eq_ok {request : Request} {items : List Item}
    (h : answer settings s request = .ok items) :
    items = [] ∨ ∃ position domain all, analyze request.line request.column = .ok position ∧
      position.context.domain? = some domain ∧
      suggestAnew settings s domain position.before request.payee request.today = .ok all ∧
      items = numbered settings.maxResults all := by
  unfold answer at h
  split at h
  · cases h
  rename_i position hposition
  split at h
  · cases h
    exact .inl rfl
  rename_i domain hdomain
  split_ifs at h
  · cases h
    exact .inl rfl
  · obtain ⟨all, hall, heq⟩ := exists_ok_of_map h
    exact .inr ⟨position, domain, all, hposition, hdomain, hall, heq.symm⟩

end

/-! ## Engines -/

namespace Engine

variable {prepared : Nat → List Candidate} {e : Engine} {m : Matcher}

/-- An engine offers what a search of its snapshot leads to, or nothing. -/
theorem complete_eq_ok (hm : m.Remembers prepared) (he : e.Ready prepared m) {request : Request}
    {items : List Item} (h : (e.complete m request).1 = .ok items) :
    items = [] ∨ answer e.settings e.data request = .ok items := by
  cases hdisposed : e.disposed with
  | false =>
    rw [(complete_leaves hm he request).1 hdisposed] at h
    exact .inr h
  | true =>
    by_cases hcolumn : 0 ≤ request.column
    · exact .inl (Except.ok.inj (h.symm.trans (complete_of_disposed hdisposed hcolumn)))
    · have hrefused : analyze request.line request.column = .error (.negative request.column) := by
        rw [analyze, classify, if_pos (not_le.mp hcolumn)]
      rw [complete, hrefused] at h
      cases h

end Engine

end Completion

end Daybook
