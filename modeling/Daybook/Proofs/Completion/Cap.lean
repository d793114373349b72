import Daybook.Proofs.Completion.Engine
import Daybook.Proofs.Search.Ranking

/-!
# The cap on suggestions

The settings cap the number of suggestions, and the cap cuts twice.  The matcher keeps that many
matches, the best by score, usage and collation.  What is kept is then put into the order of its
subject, which for payees, accounts and commodities asks about more than usage, and cut again.  A
match that is better only by the second order can so be lost to the first.

* `Merit.le_iff_key_le`: the second order is a lexicographic one.
* `CutsByMerit`: whether the matches that the matcher keeps are the best by the second order, too.
* `Engine.complete_capped`: a cap takes the first suggestions from those without a cap if and only if
  this is so.
-/

namespace Daybook

/-! ## Stable sorting -/

/-- Sorting two lists one after the other, where nothing in the second comes before anything in the
first. -/
theorem mergeSort_append {α : Type} {le : α → α → Bool}
    (trans : ∀ a b c, le a b → le b c → le a c) (total : ∀ a b, le a b || le b a)
    {l₁ l₂ : List α} (h : ∀ a ∈ l₁, ∀ b ∈ l₂, le a b) :
    (l₁ ++ l₂).mergeSort le = l₁.mergeSort le ++ l₂.mergeSort le := by
  induction l₁ with
  | nil => simp
  | cons a l₁ ih =>
    -- both sorted lists hold `a` behind exactly those members that `a` does not come before
    obtain ⟨p, q, hall, hpq, hp⟩ := List.mergeSort_cons trans total a (l₁ ++ l₂)
    obtain ⟨p', q', hleft, hpq', hp'⟩ := List.mergeSort_cons trans total a l₁
    have hsorted := List.pairwise_mergeSort trans total (a :: (l₁ ++ l₂))
    have hsorted' := List.pairwise_mergeSort trans total (a :: l₁)
    rw [hall, List.pairwise_append] at hsorted
    rw [hleft, List.pairwise_append] at hsorted'
    have hq : ∀ b ∈ q, le a b := (List.pairwise_cons.mp hsorted.2.1).1
    have hq' : ∀ b ∈ q' ++ l₂.mergeSort le, le a b := by
      intro b hb
      rcases List.mem_append.mp hb with hb | hb
      · exact (List.pairwise_cons.mp hsorted'.2.1).1 b hb
      · exact h a List.mem_cons_self b (List.mem_mergeSort.mp hb)
    have hrest : p ++ q = p' ++ (q' ++ l₂.mergeSort le) := by
      rw [← hpq, ih fun b hb => h b (List.mem_cons_of_mem a hb), hpq', List.append_assoc]
    have hnone {t : List α} (hbefore : ∀ b ∈ t, !le a b) (hafter : ∀ b ∈ t, le a b) : t = [] :=
      List.eq_nil_iff_forall_not_mem.mpr fun b hb => by
        have := hbefore b hb
        rw [hafter b hb] at this
        cases this
    rw [List.cons_append, hall, hleft, List.append_assoc, List.cons_append]
    obtain ⟨t, rfl, rfl⟩ | ⟨t, rfl, ht⟩ := List.append_eq_append_iff.mp hrest
    · obtain rfl := hnone (fun b hb => hp' b (List.mem_append_right _ hb)) fun b hb =>
        hq b (List.mem_append_left _ hb)
      simp
    · rw [ht] at hq' ⊢
      obtain rfl := hnone (fun b hb => hp b (List.mem_append_right _ hb)) fun b hb =>
        hq' b (List.mem_append_left _ hb)
      simp

/-- In a sorted list that starts with the members of `l.take n`, these are related to the others. -/
theorem rel_of_perm_take {α : Type} {r : α → α → Prop} {sorted l : List α} {n : Nat}
    (hsorted : sorted.Pairwise r) (h : sorted.Perm l) (htake : (sorted.take n).Perm (l.take n)) :
    ∀ a ∈ l.take n, ∀ b ∈ l.drop n, r a b := by
  have hdrop : (sorted.drop n).Perm (l.drop n) := by
    refine (List.perm_append_left_iff (sorted.take n)).mp ?_
    rw [List.take_append_drop]
    refine h.trans ?_
    conv_lhs => rw [← List.take_append_drop n l]
    exact htake.symm.append_right _
  rw [← List.take_append_drop n sorted, List.pairwise_append] at hsorted
  intro a ha b hb
  exact hsorted.2.2 a (htake.mem_iff.mpr ha) b (hdrop.mem_iff.mpr hb)

theorem length_le_length_flatMap {α β : Type} {f : α → List β} (hf : ∀ a, f a ≠ [])
    (l : List α) : l.length ≤ (l.flatMap f).length := by
  induction l with
  | nil => exact Nat.zero_le _
  | cons a l ih =>
    have := List.length_pos_of_ne_nil (hf a)
    rw [List.flatMap_cons, List.length_append, List.length_cons]
    omega

/-- The start of what is made of two lists is made of the first, if that is long enough. -/
theorem take_flatMap_append {α β : Type} {f : α → List β} (hf : ∀ a, f a ≠ []) {n : Nat}
    {l₁ l₂ : List α} (h : n ≤ l₁.length ∨ l₂ = []) :
    ((l₁ ++ l₂).flatMap f).take n = (l₁.flatMap f).take n := by
  rcases h with hlong | rfl
  · rw [List.flatMap_append,
      List.take_append_of_le_length (hlong.trans (length_le_length_flatMap hf l₁))]
  · rw [List.append_nil]

namespace Completion

open Search

/-! ## The order of a subject -/

/-- What a merit is compared by, one after another. -/
def Merit.key (a : Merit) : ℚᵒᵈ ×ₗ (List ℕ)ᵒᵈ ×ₗ List Char ×ₗ List Char :=
  toLex (OrderDual.toDual a.score, toLex (OrderDual.toDual a.extras,
    toLex (a.collation.base.toList, a.collation.folded.toList)))

theorem Merit.le_iff_key_le (a b : Merit) : a.le b ↔ a.key ≤ b.key := by
  have hcollation : a.collation.le b.collation ↔
      toLex (a.collation.base.toList, a.collation.folded.toList) ≤
        toLex (b.collation.base.toList, b.collation.folded.toList) :=
    Text.CollationKey.le_iff a.collation b.collation
  rw [key, key, Prod.Lex.toLex_le_toLex, Prod.Lex.toLex_le_toLex, Merit.le]
  by_cases hscore : a.score = b.score
  · rw [if_neg (not_not.mpr hscore)]
    by_cases hextras : a.extras = b.extras
    · rw [if_neg (not_not.mpr hextras), hcollation]
      simp [hscore, hextras]
    · rw [if_pos hextras]
      simp [hscore, hextras]
  · rw [if_pos hscore]
    simp [hscore]

theorem Merit.le_trans (a b c : Merit) (hab : a.le b) (hbc : b.le c) : a.le c := by
  rw [le_iff_key_le] at *
  exact hab.trans hbc

theorem Merit.le_total (a b : Merit) : a.le b || b.le a := by
  rw [Bool.or_eq_true, le_iff_key_le, le_iff_key_le]
  exact total_of (· ≤ ·) _ _

/-- Whether the matches of a subject are put into an order of their own. -/
def Subject.isReordered : Subject → Bool
  | .tags | .valuesOf _ => false
  | _ => true

section

variable {s : Snapshot} {payee : Option String} {subject : Subject}

/-- What a subject with an order of its own makes of its matches. -/
theorem byMerit_of_isReordered (h : subject.isReordered) (found : List Ranked) :
    byMerit s payee subject found =
      ((found.map fun r => (meritOf s payee subject r, r)).mergeSort fun a b => a.1.le b.1).map
        (·.2) := by
  cases subject with
  | tags => cases h
  | valuesOf tag => cases h
  | _ => rfl

theorem byMerit_of_not_isReordered (h : ¬subject.isReordered) (found : List Ranked) :
    byMerit s payee subject found = found := by
  cases subject with
  | tags => rfl
  | valuesOf tag => rfl
  | _ => exact absurd rfl h

theorem byMerit_perm (found : List Ranked) : (byMerit s payee subject found).Perm found := by
  by_cases h : subject.isReordered
  · rw [byMerit_of_isReordered h]
    refine ((List.mergeSort_perm _ _).map _).trans ?_
    rw [List.map_map]
    exact List.Perm.of_eq (List.map_id found)
  · rw [byMerit_of_not_isReordered h]

/-- The matches of a subject with an order of its own are in that order. -/
theorem pairwise_byMerit (h : subject.isReordered) (found : List Ranked) :
    (byMerit s payee subject found).Pairwise fun a b =>
      (meritOf s payee subject a).le (meritOf s payee subject b) := by
  rw [byMerit_of_isReordered h, List.pairwise_map]
  have hsorted := List.pairwise_mergeSort (fun a b c => Merit.le_trans a.1 b.1 c.1)
    (fun a b => Merit.le_total a.1 b.1) (found.map fun r => (meritOf s payee subject r, r))
  refine hsorted.imp_of_mem fun {a b} ha hb hab => ?_
  have hmerit : ∀ e ∈ (found.map fun r => (meritOf s payee subject r, r)).mergeSort
      (fun a b => a.1.le b.1), meritOf s payee subject e.2 = e.1 := by
    intro e he
    obtain ⟨r, -, rfl⟩ := List.mem_map.mp (List.mem_mergeSort.mp he)
    rfl
  rw [hmerit a ha, hmerit b hb]
  exact hab

/-- Matches in two parts, where none of the second comes before one of the first. -/
theorem byMerit_append {kept left : List Ranked} (h : subject.isReordered →
      ∀ a ∈ kept, ∀ b ∈ left, (meritOf s payee subject a).le (meritOf s payee subject b)) :
    byMerit s payee subject (kept ++ left) =
      byMerit s payee subject kept ++ byMerit s payee subject left := by
  by_cases hsubject : subject.isReordered
  · simp only [byMerit_of_isReordered hsubject, List.map_append]
    rw [mergeSort_append (fun a b c => Merit.le_trans a.1 b.1 c.1)
      (fun a b => Merit.le_total a.1 b.1), List.map_append]
    intro a ha b hb
    obtain ⟨r, hr, rfl⟩ := List.mem_map.mp ha
    obtain ⟨r', hr', rfl⟩ := List.mem_map.mp hb
    exact h hsubject r hr r' hr'
  · simp only [byMerit_of_not_isReordered hsubject]

end

/-! ## What the matcher keeps -/

/-- All matches of a search, in the order of the matcher. -/
def matchesOf (s : Snapshot) (lookup : Lookup) : List Ranked :=
  allMatches lookup.query (candidatesOf s lookup.subject)

/-- Whether the first `cap` matches in the order of the matcher are the best in the order of the
subject: none that is left out comes before one that is kept. -/
def CutsByMerit (s : Snapshot) (payee : Option String) (lookup : Lookup) (cap : Nat) : Prop :=
  lookup.subject.isReordered → ∀ kept ∈ (matchesOf s lookup).take cap,
    ∀ left ∈ (matchesOf s lookup).drop cap,
      (meritOf s payee lookup.subject kept).le (meritOf s payee lookup.subject left)

instance (s : Snapshot) (payee : Option String) (lookup : Lookup) (cap : Nat) :
    Decidable (CutsByMerit s payee lookup cap) :=
  inferInstanceAs (Decidable (lookup.subject.isReordered → ∀ kept ∈ (matchesOf s lookup).take cap,
    ∀ left ∈ (matchesOf s lookup).drop cap,
      (meritOf s payee lookup.subject kept).le (meritOf s payee lookup.subject left)))

theorem searchAnew_eq (settings : Settings) (s : Snapshot) (payee : Option String)
    (lookup : Lookup) :
    searchAnew settings s payee lookup =
      offers s settings.templateCompletions payee lookup
        ((matchesOf s lookup).take settings.maxResults) := by
  rw [searchAnew, topMatches_eq_take]
  rfl

theorem length_matchesOf_le (s : Snapshot) (lookup : Lookup) :
    (matchesOf s lookup).length ≤ (lookup.subject.names s).length := by
  refine (length_allMatches_le _ _).trans_eq ?_
  simp [candidatesOf, Subject.ordered, Text.sortNames]

section

variable {s : Snapshot} {payee : Option String} {lookup : Lookup} {cap : Nat} {withTemplates : Bool}

/-- Where the matcher keeps the best matches, the first suggestions are those for what is kept. -/
theorem CutsByMerit.take_offers (h : CutsByMerit s payee lookup cap) :
    (offers s withTemplates payee lookup (matchesOf s lookup)).take cap =
      (offers s withTemplates payee lookup ((matchesOf s lookup).take cap)).take cap := by
  have hparts := byMerit_append h
  rw [List.take_append_drop] at hparts
  rw [offers, offers, hparts]
  refine take_flatMap_append (fun _ => List.cons_ne_nil _ _) ?_
  rw [(byMerit_perm _).length_eq, List.length_take]
  by_cases hlong : cap ≤ (matchesOf s lookup).length
  · exact .inl (Nat.le_min.mpr ⟨Nat.le_refl _, hlong⟩)
  · refine .inr (List.eq_nil_of_length_eq_zero ?_)
    rw [(byMerit_perm _).length_eq, List.length_drop]
    omega

/-- Without templates there is one suggestion for each match. -/
theorem offers_eq_map (h : lookup.subject = .payees → withTemplates = false)
    (found : List Ranked) :
    offers s withTemplates payee lookup found =
      (byMerit s payee lookup.subject found).map (offer s lookup) := by
  have hnone (r : Ranked) : (if withTemplates then templateOffers s lookup r else []) = [] := by
    by_cases hsubject : lookup.subject = .payees
    · rw [h hsubject]
      rfl
    · have hshows : showsTemplates lookup r = false := by
        simp [showsTemplates, hsubject]
      rw [templateOffers, hshows]
      exact ite_self _
  simp only [offers, hnone]
  exact List.map_eq_flatMap.symm

/-- The match that a suggestion is for. -/
def Item.ranked (i : Item) : Ranked :=
  ⟨i.label, i.score⟩

theorem ranked_offer (r : Ranked) : (offer s lookup r).ranked = r := by
  unfold offer
  cases lookup.subject <;> rfl

/-- If the best matches without a cap are those that the matcher keeps, nothing that is left out comes
before them. -/
theorem cutsByMerit_of_take_byMerit
    (h : (byMerit s payee lookup.subject (matchesOf s lookup)).take cap =
      byMerit s payee lookup.subject ((matchesOf s lookup).take cap)) :
    CutsByMerit s payee lookup cap := by
  intro hsubject
  refine rel_of_perm_take (pairwise_byMerit hsubject _) (byMerit_perm _) ?_
  rw [h]
  exact byMerit_perm _

end

/-! ## Ranks -/

theorem take_numbered {m n : Nat} (h : m ≤ n) (items : List Item) :
    (numbered n items).take m = numbered m items := by
  have htake : ((items.take n).zipIdx).take m = (items.take m).zipIdx := by
    refine List.ext_getElem? fun i => ?_
    rw [List.getElem?_take, List.getElem?_zipIdx, List.getElem?_zipIdx, List.getElem?_take,
      List.getElem?_take]
    by_cases hi : i < m
    · rw [if_pos hi, if_pos hi, if_pos (hi.trans_le h)]
    · rw [if_neg hi, if_neg hi, Option.map_none]
  rw [numbered, ← List.map_take, htake]
  rfl

theorem numbered_take (n : Nat) (items : List Item) :
    numbered n (items.take n) = numbered n items := by
  rw [numbered, List.take_take, Nat.min_self]
  rfl

theorem map_ranked_numbered (n : Nat) (items : List Item) :
    (numbered n items).map Item.ranked = (items.take n).map Item.ranked := by
  rw [numbered, List.map_map]
  conv_rhs => rw [← List.zipIdx_map_fst 0 (items.take n), List.map_map]
  rfl

/-! ## Requests -/

/-- The search that a request leads to, if there is one. -/
def Request.lookup? (settings : Settings) (request : Request) : Option Lookup :=
  match analyze request.line request.column with
  | .error _ => none
  | .ok position =>
    match position.context.domain? with
    | none => none
    | some domain =>
      if Engine.isMidWord settings domain position.after then none
      else Completion.lookup? domain position.before

/-- A search among no names leads to no suggestions. -/
theorem searchAnew_of_names_eq_nil {settings : Settings} {s : Snapshot} {payee : Option String}
    {lookup : Lookup} (h : lookup.subject.names s = []) :
    searchAnew settings s payee lookup = [] := by
  have hmatches : matchesOf s lookup = [] := by
    have := length_matchesOf_le s lookup
    rw [h] at this
    exact List.eq_nil_of_length_eq_zero (Nat.le_zero.mp this)
  rw [searchAnew_eq, hmatches, List.take_nil, offers, (byMerit_perm []).eq_nil]
  rfl

theorem suggestAnew_of_lookup {settings : Settings} {s : Snapshot} {domain : Domain}
    {before : List Char} {lookup : Lookup} (h : lookup? domain before = some lookup)
    {payee : Option String} {today : Calendar.Date} :
    suggestAnew settings s domain before payee today =
      .ok (searchAnew settings s payee lookup) := by
  cases domain with
  | date => cases h
  | _ =>
    unfold suggestAnew
    rw [h]
    dsimp only
    split_ifs with hnone
    · rw [searchAnew_of_names_eq_nil (List.isEmpty_iff.mp (Bool.and_eq_true_iff.mp hnone).2)]
    · rfl

/-- Without a search the suggestions depend on no settings. -/
theorem suggestAnew_of_no_lookup {domain : Domain} {before : List Char}
    (h : lookup? domain before = none) (settings settings' : Settings) (s : Snapshot)
    (payee : Option String) (today : Calendar.Date) :
    suggestAnew settings s domain before payee today =
      suggestAnew settings' s domain before payee today := by
  cases domain with
  | date => rfl
  | _ =>
    unfold suggestAnew
    rw [h]

theorem answer_of_lookup {settings : Settings} {request : Request} {lookup : Lookup}
    (h : request.lookup? settings = some lookup) (s : Snapshot) :
    answer settings s request =
      .ok (numbered settings.maxResults (searchAnew settings s request.payee lookup)) := by
  unfold Request.lookup? at h
  unfold answer
  cases hposition : analyze request.line request.column with
  | error err =>
    rw [hposition] at h
    cases h
  | ok position =>
    rw [hposition] at h
    dsimp only at h ⊢
    cases hdomain : position.context.domain? with
    | none =>
      rw [hdomain] at h
      cases h
    | some domain =>
      rw [hdomain] at h
      dsimp only at h ⊢
      split_ifs at h ⊢ with hmid
      rw [suggestAnew_of_lookup h]
      rfl

/-- Without a search the cap only takes the first suggestions. -/
theorem answer_of_no_lookup {settings : Settings} {request : Request}
    (h : request.lookup? settings = none) (s : Snapshot) {n : Nat} (hn : settings.maxResults ≤ n) :
    answer settings s request =
      (answer { settings with maxResults := n } s request).map (·.take settings.maxResults) := by
  have hnothing : (.ok [] : Except CompletionError (List Item)) =
      .ok (([] : List Item).take settings.maxResults) := by rw [List.take_nil]
  unfold Request.lookup? at h
  unfold answer
  cases hposition : analyze request.line request.column with
  | error err => rfl
  | ok position =>
    rw [hposition] at h
    dsimp only at h ⊢
    cases hdomain : position.context.domain? with
    | none => exact hnothing
    | some domain =>
      rw [hdomain] at h
      dsimp only at h ⊢
      have hmidWord : Engine.isMidWord { settings with maxResults := n } domain position.after =
          Engine.isMidWord settings domain position.after := rfl
      rw [hmidWord]
      split_ifs at h ⊢ with hmid
      · exact hnothing
      · rw [suggestAnew_of_no_lookup h { settings with maxResults := n } settings]
        cases suggestAnew settings s domain position.before request.payee request.today with
        | error err => rfl
        | ok items => exact congrArg Except.ok (take_numbered hn items).symm

/-- The answer to a search without a cap that matters. -/
theorem answer_of_lookup_whole {settings : Settings} {request : Request} {lookup : Lookup}
    (h : request.lookup? settings = some lookup) {s : Snapshot} {n : Nat}
    (hn : (lookup.subject.names s).length ≤ n) :
    answer { settings with maxResults := n } s request =
      .ok (numbered n (offers s settings.templateCompletions request.payee lookup
        (matchesOf s lookup))) := by
  have hlookup : request.lookup? { settings with maxResults := n } = some lookup := h
  rw [answer_of_lookup hlookup, searchAnew_eq,
    List.take_of_length_le ((length_matchesOf_le s lookup).trans hn)]

section

variable {s : Snapshot} {payee : Option String} {lookup : Lookup} {cap n : Nat}
  {withTemplates : Bool}

/-- The suggestions for what the matcher keeps are the first ones, ranks included. -/
theorem CutsByMerit.numbered_offers (h : CutsByMerit s payee lookup cap) (hn : cap ≤ n) :
    numbered cap (offers s withTemplates payee lookup ((matchesOf s lookup).take cap)) =
      (numbered n (offers s withTemplates payee lookup (matchesOf s lookup))).take cap := by
  rw [take_numbered hn, ← numbered_take, ← h.take_offers, numbered_take]

/-- Without templates the suggestions are for the first matches in the order of the subject. -/
theorem map_ranked_numbered_offers (hplain : lookup.subject = .payees → withTemplates = false)
    (found : List Ranked) :
    (numbered cap (offers s withTemplates payee lookup found)).map Item.ranked =
      (byMerit s payee lookup.subject found).take cap := by
  rw [map_ranked_numbered, offers_eq_map hplain, ← List.map_take, List.map_map]
  exact (List.map_congr_left fun r _ => ranked_offer r).trans (List.map_id _)

/-- The labels of the suggestions for a search without templates. -/
theorem map_label_answer {settings : Settings} {request : Request}
    (h : request.lookup? settings = some lookup)
    (hplain : lookup.subject = .payees → settings.templateCompletions = false) (s : Snapshot) :
    (answer settings s request).map (·.map (·.label)) =
      .ok (((byMerit s request.payee lookup.subject ((matchesOf s lookup).take
        settings.maxResults)).take settings.maxResults).map (·.item)) := by
  rw [answer_of_lookup h, searchAnew_eq, ← map_ranked_numbered_offers hplain, List.map_map]
  rfl

/-- Only then are they the first ones, where there is one suggestion for each match. -/
theorem cutsByMerit_of_numbered_offers (hplain : lookup.subject = .payees → withTemplates = false)
    (hn : cap ≤ n)
    (h : numbered cap (offers s withTemplates payee lookup ((matchesOf s lookup).take cap)) =
      (numbered n (offers s withTemplates payee lookup (matchesOf s lookup))).take cap) :
    CutsByMerit s payee lookup cap := by
  rw [take_numbered hn] at h
  have hkept := congrArg (List.map Item.ranked) h
  rw [map_ranked_numbered_offers hplain, map_ranked_numbered_offers hplain] at hkept
  refine cutsByMerit_of_take_byMerit (hkept.symm.trans (List.take_of_length_le ?_))
  rw [(byMerit_perm _).length_eq]
  exact List.length_take_le _ _

/-- Only the default commodity itself comes before the default commodity with no better score. -/
theorem item_eq_of_le_default {first r : Ranked} (hdefault : s.defaultCommodity = some r.item)
    (hscore : first.score ≤ r.score)
    (h : (meritOf s payee .commodities first).le (meritOf s payee .commodities r)) :
    first.item = r.item := by
  by_contra hne
  have hfirst : extrasOf s payee .commodities first.item =
      [0, Subject.commodities.usage s first.item] := by
    simp [extrasOf, hdefault, Ne.symm hne]
  have hr : extrasOf s payee .commodities r.item = [1, Subject.commodities.usage s r.item] := by
    simp [extrasOf, hdefault]
  rw [Merit.le_iff_key_le, Merit.key, Merit.key, meritOf, meritOf, hfirst, hr,
    Prod.Lex.toLex_le_toLex, Prod.Lex.toLex_le_toLex] at h
  simp only [OrderDual.toDual_lt_toDual, OrderDual.toDual_inj, List.cons_lt_cons_iff,
    List.cons.injEq, Nat.not_lt_zero, Nat.one_ne_zero, zero_ne_one, false_and, or_self,
    and_false, or_false] at h
  exact absurd h hscore.not_gt

/-- The default commodity comes first among matches of which none has a better score. -/
theorem exists_byMerit_eq_cons_of_default {found : List Ranked} {r : Ranked} (hr : r ∈ found)
    (hdefault : s.defaultCommodity = some r.item) (hbest : ∀ other ∈ found, other.score ≤ r.score) :
    ∃ first rest, byMerit s payee .commodities found = first :: rest ∧ first.item = r.item := by
  have hperm : (byMerit s payee .commodities found).Perm found := byMerit_perm found
  have hsorted : (byMerit s payee .commodities found).Pairwise fun a b =>
      (meritOf s payee .commodities a).le (meritOf s payee .commodities b) :=
    pairwise_byMerit rfl found
  cases hfirst : byMerit s payee .commodities found with
  | nil =>
    rw [hfirst] at hperm
    exact absurd (hperm.mem_iff.mpr hr) List.not_mem_nil
  | cons first rest =>
    refine ⟨first, rest, rfl, ?_⟩
    rw [hfirst] at hsorted hperm
    rcases List.mem_cons.mp (hperm.mem_iff.mpr hr) with rfl | hrest
    · rfl
    · exact item_eq_of_le_default hdefault (hbest first (hperm.mem_iff.mp List.mem_cons_self))
        ((List.pairwise_cons.mp hsorted).1 r hrest)

/-- Where the matcher keeps the best matches, it keeps the default commodity and offers it first. -/
theorem CutsByMerit.exists_numbered_eq_cons (h : CutsByMerit s payee lookup cap)
    (hsubject : lookup.subject = .commodities) (hcap : 0 < cap) {r : Ranked}
    (hr : r ∈ matchesOf s lookup) (hdefault : s.defaultCommodity = some r.item)
    (hbest : ∀ other ∈ matchesOf s lookup, other.score ≤ r.score) :
    ∃ first rest, numbered cap (offers s withTemplates payee lookup
      ((matchesOf s lookup).take cap)) = first :: rest ∧ first.label = r.item := by
  obtain ⟨best, others, hwhole, hitem⟩ :
      ∃ first rest, byMerit s payee .commodities (matchesOf s lookup) = first :: rest ∧
        first.item = r.item := exists_byMerit_eq_cons_of_default hr hdefault hbest
  have hplain : lookup.subject = .payees → withTemplates = false := by
    rw [hsubject]
    nofun
  rw [h.numbered_offers (Nat.le_refl cap), take_numbered (Nat.le_refl cap), offers_eq_map hplain,
    hsubject, hwhole, numbered, List.map_cons, ← Nat.succ_pred_eq_of_pos hcap, List.take_succ_cons,
    List.zipIdx_cons, List.map_cons]
  refine ⟨_, _, rfl, ?_⟩
  exact (congrArg Ranked.item (ranked_offer best)).trans hitem

end

namespace Engine

/-- **What a cap does.**  Compare the suggestions under a cap with those under a cap that no number of
names reaches.  The former are the first of the latter where the matcher keeps the best matches in the
order of their subject.  Conversely they are the first of the latter only then, where no templates
stand between them.  Where it is so, the default commodity comes first if no commodity has a
better score. -/
theorem complete_capped {maxResults maxCacheSize : Int} {fresh : Matcher}
    (hfresh : Matcher.make maxResults maxCacheSize = .ok fresh) (settings : Settings)
    (s : Snapshot) (request : Request) {n : Nat} (hn : settings.maxResults ≤ n)
    (hnames : ∀ lookup, request.lookup? settings = some lookup →
      (lookup.subject.names s).length ≤ n) :
    let capped := ((start settings s).complete fresh request).1
    let whole := ((start { settings with maxResults := n } s).complete fresh request).1
    ((∀ lookup, request.lookup? settings = some lookup →
        CutsByMerit s request.payee lookup settings.maxResults) →
      capped = whole.map (·.take settings.maxResults)) ∧
    (∀ lookup, request.lookup? settings = some lookup →
      (lookup.subject = .payees → settings.templateCompletions = false) →
      capped = whole.map (·.take settings.maxResults) →
        CutsByMerit s request.payee lookup settings.maxResults) ∧
    (∀ lookup, request.lookup? settings = some lookup → lookup.subject = .commodities →
      CutsByMerit s request.payee lookup settings.maxResults → 0 < settings.maxResults →
      ∀ r ∈ matchesOf s lookup, s.defaultCommodity = some r.item →
        (∀ other ∈ matchesOf s lookup, other.score ≤ r.score) →
        ∃ first rest, capped = .ok (first :: rest) ∧ first.label = r.item) := by
  intro capped whole
  have hcapped : capped = answer settings s request := complete_start hfresh ..
  have hwhole : whole = answer { settings with maxResults := n } s request :=
    complete_start hfresh ..
  rw [hcapped, hwhole]
  cases hlookup : request.lookup? settings with
  | none =>
    refine ⟨fun _ => answer_of_no_lookup hlookup s hn, ?_, ?_⟩
    · rintro _ ⟨⟩
    · rintro _ ⟨⟩
  | some lookup =>
    rw [answer_of_lookup hlookup, answer_of_lookup_whole hlookup (hnames lookup hlookup),
      searchAnew_eq]
    refine ⟨fun h => ?_, ?_, ?_⟩
    · exact congrArg Except.ok ((h lookup rfl).numbered_offers hn)
    · rintro _ ⟨⟩ hplain heq
      exact cutsByMerit_of_numbered_offers hplain hn (Except.ok.inj heq)
    · rintro _ ⟨⟩ hsubject hcuts hcap r hr hdefault hbest
      obtain ⟨first, rest, heq, hlabel⟩ :=
        hcuts.exists_numbered_eq_cons hsubject hcap hr hdefault hbest
      exact ⟨first, rest, congrArg Except.ok heq, hlabel⟩

/-- Two transactions: payee "x" uses account "a" twice, and payee "y" uses account "b" once. -/
def twoPayees : String :=
  "2024-01-05 x\n a\n a\n\n2024-01-06 y\n b\n"

/-- A request for all accounts in a transaction with a payee. -/
def postingRequest (payee : String) : Request where
  line := [' ']
  column := 1
  payee := some payee
  today := BuildOptions.plain.today

theorem mergeSort_pair {α : Type} (le : α → α → Bool) (a b : α) :
    [a, b].mergeSort le = if le a b then [a, b] else [b, a] := by
  simp [List.mergeSort, List.MergeSort.Internal.splitInTwo, List.merge]

/-- What the two transactions say about the accounts. -/
theorem exists_ofText_twoPayees :
    ∃ s, Snapshot.ofText .plain twoPayees = .ok s ∧ (Subject.accounts.names s).length = 2 ∧
      matchesOf s ⟨.accounts, "", 1⟩ = [⟨"a", 0⟩, ⟨"b", 0⟩] ∧
      extrasOf s (some "x") .accounts "a" = [2, 2, 0] ∧
      extrasOf s (some "x") .accounts "b" = [0, 1, 0] ∧
      extrasOf s (some "y") .accounts "a" = [0, 2, 0] ∧
      extrasOf s (some "y") .accounts "b" = [1, 1, 0] := by
  have hread : (Snapshot.ofText .plain twoPayees).map (fun s =>
      (Subject.accounts.names s, [Subject.accounts.usage s "a", Subject.accounts.usage s "b"],
        [extrasOf s (some "x") .accounts "a", extrasOf s (some "x") .accounts "b",
          extrasOf s (some "y") .accounts "a", extrasOf s (some "y") .accounts "b"])) =
      .ok (["a", "b"], [2, 1], [[2, 2, 0], [0, 1, 0], [0, 2, 0], [1, 1, 0]]) := by
    decide +kernel
  obtain ⟨s, htext, hfacts⟩ := exists_ok_of_map hread
  simp only [Prod.mk.injEq, List.cons.injEq, and_true] at hfacts
  obtain ⟨hnames, ⟨ha, hb⟩, hextras⟩ := hfacts
  refine ⟨s, htext, by rw [hnames]; rfl, ?_, hextras⟩
  have hcollation : (Text.collationKey "a").le (Text.collationKey "b") = true := by
    decide +kernel
  have hordered : Subject.accounts.ordered s = [("a", 2), ("b", 1)] := by
    simp [Subject.ordered, hnames, Text.sortNames, mergeSort_pair, hcollation, ha, hb]
  have hblank : (Text.fold "").toList.all Text.isBlank = true := by decide +kernel
  rw [matchesOf, allMatches, if_pos hblank, candidatesOf, hordered]
  rfl

/-- For the payee that used the more used account, a cap of one takes the first suggestion. -/
theorem complete_capped_of_payee_x :
    ∃ s fresh, Snapshot.ofText .plain twoPayees = .ok s ∧ Matcher.make 50 1000 = .ok fresh ∧
      (postingRequest "x").lookup? { Settings.standard with maxResults := 1 } =
        some ⟨.accounts, "", 1⟩ ∧
      (Subject.accounts.names s).length ≤ 2 ∧ CutsByMerit s (some "x") ⟨.accounts, "", 1⟩ 1 ∧
      ((start { Settings.standard with maxResults := 1 } s).complete fresh
          (postingRequest "x")).1 =
        ((start { Settings.standard with maxResults := 2 } s).complete fresh
          (postingRequest "x")).1.map (·.take 1) := by
  have hlookup : (postingRequest "x").lookup? { Settings.standard with maxResults := 1 } =
      some ⟨.accounts, "", 1⟩ := by
    decide +kernel
  obtain ⟨s, htext, hnames, hmatches, ha, hb, -⟩ := exists_ofText_twoPayees
  have hcuts : CutsByMerit s (some "x") ⟨.accounts, "", 1⟩ 1 := by
    intro _ kept hkept left hleft
    rw [hmatches] at hkept hleft
    obtain rfl := List.mem_singleton.mp hkept
    obtain rfl := List.mem_singleton.mp hleft
    rw [meritOf, meritOf, ha, hb]
    decide +kernel
  refine ⟨s, _, htext, rfl, hlookup, hnames.le, hcuts, ?_⟩
  have hnames' : ∀ lookup, (postingRequest "x").lookup?
      { Settings.standard with maxResults := 1 } = some lookup →
      (lookup.subject.names s).length ≤ 2 := by
    intro lookup h
    obtain rfl := Option.some.inj (hlookup.symm.trans h)
    exact hnames.le
  have hfirst := complete_capped (rfl : Matcher.make 50 1000 = .ok _)
    { Settings.standard with maxResults := 1 } s (postingRequest "x") (by decide) hnames'
  refine hfirst.1 fun lookup h => ?_
  obtain rfl := Option.some.inj (hlookup.symm.trans h)
  exact hcuts

/-- **The cap can lose the best suggestion.**  For the other payee its own account comes first, but a
cap of one keeps the account that is used more in all. -/
theorem complete_cap_loses_first :
    ∃ s fresh, Snapshot.ofText .plain twoPayees = .ok s ∧ Matcher.make 50 1000 = .ok fresh ∧
      ((start { Settings.standard with maxResults := 2 } s).complete fresh
          (postingRequest "y")).1.map (·.map (·.label)) = .ok ["b", "a"] ∧
      ((start { Settings.standard with maxResults := 1 } s).complete fresh
          (postingRequest "y")).1.map (·.map (·.label)) = .ok ["a"] := by
  have hlookup : (postingRequest "y").lookup? .standard = some ⟨.accounts, "", 1⟩ := by
    decide +kernel
  obtain ⟨s, htext, -, hmatches, -, -, ha, hb⟩ := exists_ofText_twoPayees
  have hbest : byMerit s (some "y") .accounts [⟨"a", 0⟩, ⟨"b", 0⟩] = [⟨"b", 0⟩, ⟨"a", 0⟩] := by
    rw [byMerit_of_isReordered rfl, List.map_cons, List.map_singleton, mergeSort_pair, meritOf,
      meritOf, ha, hb, if_neg (by decide +kernel)]
    rfl
  have hone : byMerit s (some "y") .accounts [⟨"a", 0⟩] = [⟨"a", 0⟩] :=
    List.perm_singleton.mp (byMerit_perm _)
  have hlabels (n : Nat) :
      (answer { Settings.standard with maxResults := n } s (postingRequest "y")).map
          (·.map (·.label)) =
        .ok (((byMerit s (some "y") .accounts ([⟨"a", 0⟩, ⟨"b", 0⟩].take n)).take n).map
          (·.item)) := by
    have hlookup' : (postingRequest "y").lookup? { Settings.standard with maxResults := n } =
        some ⟨.accounts, "", 1⟩ := hlookup
    rw [← hmatches]
    exact map_label_answer hlookup' nofun s
  refine ⟨s, _, htext, rfl, ?_, ?_⟩
  · rw [complete_start (rfl : Matcher.make 50 1000 = .ok _), hlabels]
    simp only [List.take_succ_cons, List.take_zero, hbest, List.map_cons, List.map_nil]
  · rw [complete_start (rfl : Matcher.make 50 1000 = .ok _), hlabels]
    simp only [List.take_succ_cons, List.take_zero, hone, List.map_cons, List.map_nil]

end Engine

end Completion

end Daybook
