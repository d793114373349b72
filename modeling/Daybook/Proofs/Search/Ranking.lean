import Mathlib.Algebra.Order.Ring.Rat
import Mathlib.Data.Char
import Mathlib.Data.List.Lex
import Mathlib.Data.List.Sort
import Mathlib.Data.Prod.Lex
import Daybook.Proofs.Search.Calls
import Daybook.Proofs.Search.Index

/-!
# The ranking of all names

What a search gives is the start of one ranking of all names that hold the query as a subsequence,
and where the search was made and how many names were asked for makes no difference to it.

* `pairwise_mergeSort_of_pairwise`: a stable sort keeps the order of members that are level.
* `Text.CollationKey.le_iff`: the order of collation keys is a lexicographic one.
* `allMatches`: the matches of a query without a cap.
* `standing`: what a name is ranked by.
* `IsRanking`: all names that match, by standing and then by their places; `IsRanking.unique`.
* `mem_indicesFor`: what the index gives.
* `ranking_of_search`: what a search gives, for every list of names, table of usage and cap.
-/

namespace Daybook

/-! ## Stable sorting -/

/-- Members that are level stand in a sorted list in the order that they had before. -/
theorem pairwise_mergeSort_of_pairwise {α : Type} {le : α → α → Bool} {r : α → α → Prop}
    (trans : ∀ a b c, le a b → le b c → le a c) (total : ∀ a b, le a b || le b a) {l : List α}
    (h : l.Pairwise r) :
    (l.mergeSort le).Pairwise fun a b => le a b ∧ (le b a → r a b) := by
  have hsorted := List.pairwise_mergeSort (List.zipIdxLE_trans trans) (List.zipIdxLE_total total)
    l.zipIdx
  have hplaces : ((l.zipIdx.mergeSort (List.zipIdxLE le)).map (·.2)).Nodup := by
    refine ((List.mergeSort_perm _ _).map _).nodup_iff.mpr ?_
    rw [List.zipIdx_map_snd]
    exact List.nodup_range'
  rw [← List.mergeSort_zipIdx, List.pairwise_map]
  refine (hsorted.and (List.pairwise_map.mp hplaces)).imp_of_mem fun {a b} ha hb hab => ?_
  obtain ⟨hle, hne⟩ := hab
  have hfirst : le a.1 b.1 := by
    by_contra hnot
    simp [List.zipIdxLE, hnot] at hle
  refine ⟨hfirst, fun hback => ?_⟩
  have hplace : a.2 ≤ b.2 := by simpa [List.zipIdxLE, hfirst, hback] using hle
  obtain ⟨ha', hab⟩ := List.getElem?_eq_some_iff.mp
    (List.mem_zipIdx_iff_getElem?.mp (List.mem_mergeSort.mp ha))
  obtain ⟨hb', hbb⟩ := List.getElem?_eq_some_iff.mp
    (List.mem_zipIdx_iff_getElem?.mp (List.mem_mergeSort.mp hb))
  rw [← hab, ← hbb]
  exact List.pairwise_iff_getElem.mp h _ _ ha' hb' (lt_of_le_of_ne hplace hne)

/-! ## Collation -/

namespace Text.CollationKey

/-- What a collation key is compared by. -/
def key (k : CollationKey) : List Char ×ₗ List Char :=
  toLex (k.base.toList, k.folded.toList)

theorem le_iff (a b : CollationKey) : a.le b ↔ a.key ≤ b.key := by
  simp only [le, key, Bool.or_eq_true, decide_eq_true_eq, Bool.and_eq_true, beq_iff_eq,
    Bool.not_eq_true', decide_eq_false_iff_not, Prod.Lex.toLex_le_toLex, String.lt_iff, not_lt,
    String.toList_inj]

end Text.CollationKey

namespace Search

open Text

/-! ## Matches without a cap -/

/-- All matches of a query, in the order of the matcher. -/
def allMatches (query : String) (candidates : List Candidate) : List Ranked :=
  if (Text.fold query).toList.all Text.isBlank then candidates.map fun c => ⟨c.item, 0⟩
  else rankAll (Text.fold query).toList candidates

theorem length_allMatches_le (query : String) (candidates : List Candidate) :
    (allMatches query candidates).length ≤ candidates.length := by
  unfold allMatches
  split_ifs
  · rw [List.length_map]
  · rw [rankAll, List.length_map, List.length_mergeSort, scoredMatches_eq]
    exact List.length_filterMap_le _ _

theorem topMatches_eq_take (query : String) (cap : Nat) (candidates : List Candidate) :
    topMatches query cap candidates = (allMatches query candidates).take cap := by
  cases candidates with
  | nil =>
    have hnone : allMatches query [] = [] :=
      List.eq_nil_of_length_eq_zero (Nat.le_zero.mp (length_allMatches_le query []))
    rw [hnone, List.take_nil]
    rfl
  | cons c rest =>
    unfold topMatches allMatches
    rw [List.isEmpty_cons, if_neg Bool.false_ne_true]
    dsimp only
    split_ifs
    · rw [unranked, List.map_take]
    · rfl

/-! ## What a name is ranked by -/

/-- What a scored candidate is compared by, one after another. -/
def scoredKey (r : Rat × Candidate) : ℚᵒᵈ ×ₗ ℤᵒᵈ ×ₗ List Char ×ₗ List Char :=
  toLex (OrderDual.toDual r.1, toLex (OrderDual.toDual r.2.usage, r.2.collation.key))

theorem scoredLe_iff (a b : Rat × Candidate) : scoredLe a b ↔ scoredKey a ≤ scoredKey b := by
  rw [scoredKey, scoredKey, Prod.Lex.toLex_le_toLex, Prod.Lex.toLex_le_toLex, scoredLe]
  by_cases hscore : a.1 = b.1
  · rw [if_neg (not_not.mpr hscore)]
    by_cases husage : a.2.usage = b.2.usage
    · rw [if_neg (not_not.mpr husage), CollationKey.le_iff]
      simp [hscore, husage]
    · rw [if_pos husage]
      simp [hscore, husage]
  · rw [if_pos hscore]
    simp [hscore]

theorem scoredLe_trans (a b c : Rat × Candidate) (hab : scoredLe a b) (hbc : scoredLe b c) :
    scoredLe a c := by
  rw [scoredLe_iff] at *
  exact hab.trans hbc

theorem scoredLe_total (a b : Rat × Candidate) : scoredLe a b || scoredLe b a := by
  rw [Bool.or_eq_true, scoredLe_iff, scoredLe_iff]
  exact total_of (· ≤ ·) _ _

section

variable (query : String) (usage : Table String Int)

/-- Whether a name holds a query as a subsequence, both folded. -/
def Matches (item : String) : Prop :=
  (fold query).toList.Sublist (fold item).toList

instance (item : String) : Decidable (Matches query item) :=
  inferInstanceAs (Decidable ((fold query).toList.Sublist (fold item).toList))

/-- The score of a name that matches. -/
def scoreOf (item : String) : Rat :=
  (score? (fold query).toList (fold item).toList).getD 0

/-- A name that matches, with its score. -/
def rankedAs (item : String) : Ranked :=
  ⟨item, scoreOf query item⟩

/-- What a name is ranked by: the better score first, then the more used, then by collation. -/
def standing (item : String) : ℚᵒᵈ ×ₗ ℤᵒᵈ ×ₗ List Char ×ₗ List Char :=
  toLex (OrderDual.toDual (scoreOf query item),
    toLex (OrderDual.toDual ((usage.get? item).getD 0), (collationKey item).key))

/-- Whether a name with its place in a list comes before another one: by standing, and where that is
the same, by place. -/
def ComesBefore (a b : String × Nat) : Prop :=
  standing query usage a.1 < standing query usage b.1 ∨
    standing query usage a.1 = standing query usage b.1 ∧ a.2 < b.2

/-- The names of a list that match a query, each with its place. -/
def matching (items : List String) : List (String × Nat) :=
  items.zipIdx.filter fun e => Matches query e.1

instance (a b : String × Nat) : Decidable (ComesBefore query usage a b) :=
  inferInstanceAs (Decidable (standing query usage a.1 < standing query usage b.1 ∨
    standing query usage a.1 = standing query usage b.1 ∧ a.2 < b.2))

/-- **A ranking**: all names of a list that match a query, each with its place, in order. -/
structure IsRanking (items : List String) (ranking : List (String × Nat)) : Prop where
  perm : ranking.Perm (matching query items)
  ordered : ranking.Pairwise (ComesBefore query usage)

end

variable {query : String} {usage : Table String Int} {items : List String}

theorem ComesBefore.asymm {a b : String × Nat} (h : ComesBefore query usage a b) :
    ¬ComesBefore query usage b a := by
  rcases h with h | ⟨heq, h⟩
  · rintro (h' | ⟨heq', -⟩)
    · exact lt_asymm h h'
    · exact h.ne heq'.symm
  · rintro (h' | ⟨-, h'⟩)
    · exact h'.ne heq.symm
    · exact lt_asymm h h'

/-- There is one ranking only. -/
theorem IsRanking.unique {ranking other : List (String × Nat)}
    (h : IsRanking query usage items ranking) (h' : IsRanking query usage items other) :
    other = ranking :=
  (h'.perm.trans h.perm.symm).eq_of_pairwise
    (fun _ _ _ _ hab hba => absurd hba hab.asymm) h'.ordered h.ordered

/-! ## What a search gives -/

theorem folded_ofName (usage : Table String Int) (item : String) :
    (Candidate.ofName usage item).folded = (fold item).toList := by
  rw [Candidate.ofName]

theorem item_ofName (usage : Table String Int) (item : String) :
    (Candidate.ofName usage item).item = item := by
  rw [Candidate.ofName]

theorem scoredKey_ofName (query : String) (usage : Table String Int) (item : String) :
    scoredKey (scoreOf query item, Candidate.ofName usage item) = standing query usage item := by
  rw [scoredKey, standing, Candidate.ofName]

/-- A candidate with its score is that of a name that matches. -/
theorem scored_ofName (hquery : (fold query).toList ≠ []) (item : String) :
    scored (fold query).toList (Candidate.ofName usage item) =
      if Matches query item then some (scoreOf query item, Candidate.ofName usage item)
      else none := by
  rw [scored, scoreOf, folded_ofName]
  cases hscore : score? (fold query).toList (fold item).toList with
  | none =>
    have hmissing : ¬Matches query item := (score?_eq_none_iff hquery).mp hscore
    rw [if_neg hmissing, Option.map_none]
  | some s =>
    have hmatches : Matches query item := by
      by_contra hnot
      rw [(score?_eq_none_iff hquery).mpr hnot] at hscore
      cases hscore
    rw [if_pos hmatches, Option.map_some, Option.getD_some]

/-- The scored candidates are those of the names that match, in the order of the list. -/
theorem scoredMatches_ofName (hquery : (fold query).toList ≠ []) (items : List String) :
    scoredMatches (fold query).toList (items.map (Candidate.ofName usage)) =
      (matching query items).map fun e => (scoreOf query e.1, Candidate.ofName usage e.1) := by
  have hnames : items = items.zipIdx.map (·.1) := (List.zipIdx_map_fst 0 items).symm
  conv_lhs => rw [hnames, List.map_map]
  rw [scoredMatches_eq, List.filterMap_map, ← List.filterMap_eq_map, matching,
    List.filterMap_filter]
  refine List.filterMap_congr fun e _ => ?_
  simp only [Function.comp_apply, decide_eq_true_eq]
  exact scored_ofName hquery e.1

/-- **The matcher sorts by standing and keeps the order of names that are level.** -/
theorem exists_isRanking (hquery : (fold query).toList ≠ []) (usage : Table String Int)
    (items : List String) :
    ∃ ranking, IsRanking query usage items ranking ∧
      rankAll (fold query).toList (items.map (Candidate.ofName usage)) =
        ranking.map fun e => rankedAs query e.1 := by
  let scoredName (e : String × Nat) : Rat × Candidate :=
    (scoreOf query e.1, Candidate.ofName usage e.1)
  let le (a b : String × Nat) : Bool := scoredLe (scoredName a) (scoredName b)
  have hle (a b : String × Nat) : le a b ↔ standing query usage a.1 ≤ standing query usage b.1 := by
    rw [← scoredKey_ofName, ← scoredKey_ofName]
    exact scoredLe_iff (scoredName a) (scoredName b)
  have hplaces : (matching query items).Pairwise fun a b => a.2 < b.2 := by
    refine List.Pairwise.filter _ (List.pairwise_map.mp ?_)
    rw [List.zipIdx_map_snd]
    exact List.pairwise_lt_range'
  refine ⟨(matching query items).mergeSort le, ⟨List.mergeSort_perm _ le, ?_⟩, ?_⟩
  · have hsorted := pairwise_mergeSort_of_pairwise
      (fun a b c => scoredLe_trans (scoredName a) (scoredName b) (scoredName c))
      (fun a b => scoredLe_total (scoredName a) (scoredName b)) hplaces
    refine hsorted.imp fun {a b} hab => ?_
    rcases lt_or_eq_of_le ((hle a b).mp hab.1) with hlt | heq
    · exact .inl hlt
    · exact .inr ⟨heq, hab.2 ((hle b a).mpr heq.ge)⟩
  · have hmap : ((matching query items).mergeSort le).map scoredName =
        ((matching query items).map scoredName).mergeSort scoredLe :=
      List.map_mergeSort fun _ _ _ _ => rfl
    rw [rankAll, scoredMatches_ofName hquery, ← hmap, List.map_map]
    refine List.map_congr_left fun e _ => ?_
    rw [Function.comp_apply, item_ofName, rankedAs]

/-- The matches of a query that is not blank, up to a cap. -/
theorem topMatches_of_ranking {ranking : List (String × Nat)}
    (hquery : (fold query).toList.all isBlank = false)
    (hall : rankAll (fold query).toList (items.map (Candidate.ofName usage)) =
      ranking.map fun e => rankedAs query e.1) (cap : Nat) :
    topMatches query cap (items.map (Candidate.ofName usage)) =
      (ranking.take cap).map fun e => rankedAs query e.1 := by
  rw [topMatches_eq_take, allMatches, if_neg (by simp [hquery]), hall, List.map_take]

/-- A positive cap is accepted. -/
theorem rankNames_of_pos (m : Matcher) (query : String) (items : List String)
    (usage : Table String Int) {cap : Nat} (hcap : 1 ≤ cap) :
    m.rankNames query items usage (some cap) =
      .ok (topMatches query cap (items.map (Candidate.ofName usage))) := by
  have hpos : ¬((cap : Int) < 1) := by omega
  simp [Matcher.rankNames, Matcher.capOf, hpos]

/-- **The index** gives the names that hold all of some characters, in the order of the list. -/
theorem mem_indicesFor {version i : Nat} {chars : List Char} :
    i ∈ (CandidateSet.ofNames items usage version).indicesFor chars ↔
      ∃ item, items[i]? = some item ∧ ∀ c ∈ chars, c ∈ (fold item).toList := by
  rw [show (CandidateSet.ofNames items usage version).indicesFor chars =
    indicesIn (items.map (Candidate.ofName usage)) chars from rfl, mem_indicesIn]
  simp only [List.getElem?_map, Option.map_eq_some_iff]
  constructor
  · rintro ⟨_, ⟨item, hitem, rfl⟩, hchars⟩
    rw [folded_ofName] at hchars
    exact ⟨item, hitem, hchars⟩
  · rintro ⟨item, hitem, hchars⟩
    refine ⟨_, ⟨item, hitem, rfl⟩, ?_⟩
    rw [folded_ofName]
    exact hchars

/-- **What a search gives** for a query that is not blank.  All names that hold the query as a
subsequence have one ranking, by score, usage, collation and place.  A search in a plain list gives the
start of it, as long as the cap, and a search in a set that the matcher prepared gives the same,
whatever it was asked before; so fewer results are a prefix of more.  The index gives the names that
hold every character of a query, in the order of the list, and no name that scores is missing from
it. -/
theorem ranking_of_search (hquery : (fold query).toList.all isBlank = false)
    (usage : Table String Int) (items : List String) :
    (∃ ranking, IsRanking query usage items ranking ∧
      (∀ other, IsRanking query usage items other → other = ranking) ∧
      (∀ (m : Matcher) (cap : Nat), 1 ≤ cap → m.rankNames query items usage (some cap) =
        .ok ((ranking.take cap).map fun e => rankedAs query e.1)) ∧
      ∀ m : Matcher, m.rankNames query items usage none =
        .ok ((ranking.take m.maxResults).map fun e => rankedAs query e.1)) ∧
    (∀ maxResults maxCacheSize m, Matcher.make maxResults maxCacheSize = .ok m →
      ∀ calls place, (namesPrepared calls)[place]? = some (items, usage) → ∀ limit,
        (((Session.mk m []).after calls).call (.rankSet place query limit)).1 =
          some (m.rankNames query items usage limit)) ∧
    (∀ (m : Matcher) (cap cap' : Nat), 1 ≤ cap → cap ≤ cap' → ∃ fewer more,
      m.rankNames query items usage (some cap) = .ok fewer ∧
        m.rankNames query items usage (some cap') = .ok more ∧ fewer <+: more) ∧
    ∀ version chars, let found := (CandidateSet.ofNames items usage version).indicesFor chars
      found.Pairwise (· < ·) ∧
      (∀ i, i ∈ found ↔ ∃ item, items[i]? = some item ∧ ∀ c ∈ chars, c ∈ (fold item).toList) ∧
      ∀ i item, items[i]? = some item → (score? chars (fold item).toList).isSome → i ∈ found := by
  have hfilled : (fold query).toList ≠ [] := by
    intro hnil
    rw [hnil] at hquery
    cases hquery
  obtain ⟨ranking, hranking, hall⟩ := exists_isRanking hfilled usage items
  have htop := topMatches_of_ranking hquery hall
  refine ⟨⟨ranking, hranking, fun _ h => hranking.unique h, fun m cap hcap => ?_, fun m => ?_⟩,
    ?_, ?_, ?_⟩
  · rw [rankNames_of_pos m query items usage hcap, htop]
  · rw [Matcher.rankNames, Matcher.capOf]
    dsimp only
    rw [htop]
  · intro maxResults maxCacheSize m hmake calls place hplace limit
    have hsound := (Session.sound_start (Matcher.of_make hmake).2.2).after calls
    rw [(hsound.call (.rankSet place query limit)).1, MatcherCall.answerAnew,
      show ([] ++ namesPrepared calls)[place]? = some (items, usage) from hplace]
    rfl
  · intro m cap cap' hcap hle
    refine ⟨_, _, rankNames_of_pos m query items usage hcap,
      rankNames_of_pos m query items usage (hcap.trans hle), ?_⟩
    rw [htop, htop]
    exact (List.take_prefix_take_left hle).map _
  · intro version chars found
    refine ⟨ascending_indicesIn _ _, fun i => mem_indicesFor, fun i item hitem hscore => ?_⟩
    exact mem_indicesFor.mpr ⟨item, hitem, fun c hc => subset_of_score?_isSome hscore hc⟩

/-- Four names start with `ca` and are equally long.  The used one, which is listed twice, comes first
and keeps its two places; the others follow by collation. -/
theorem ranking_of_search_of_cash :
    (fold "ca").toList.all isBlank = false ∧
      IsRanking "ca" (Table.empty.insert "cash" 3) ["cash", "cart", "card", "cash"]
        [("cash", 0), ("cash", 3), ("card", 2), ("cart", 1)] ∧
      ∃ m, Matcher.make 3 1 = .ok m ∧
        m.rankNames "ca" ["cash", "cart", "card", "cash"] (Table.empty.insert "cash" 3) none =
          .ok (["cash", "cash", "card"].map (rankedAs "ca")) := by
  have hquery : (fold "ca").toList.all isBlank = false := by decide +kernel
  have hperm : [("cash", 0), ("cash", 3), ("card", 2), ("cart", 1)].isPerm
      (matching "ca" ["cash", "cart", "card", "cash"]) := by decide +kernel
  have hranking : IsRanking "ca" (Table.empty.insert "cash" 3) ["cash", "cart", "card", "cash"]
      [("cash", 0), ("cash", 3), ("card", 2), ("cart", 1)] :=
    ⟨List.isPerm_iff.mp hperm, by decide +kernel⟩
  obtain ⟨⟨ranking, -, hunique, -, hnames⟩, -⟩ :=
    ranking_of_search hquery (Table.empty.insert "cash" 3) ["cash", "cart", "card", "cash"]
  rw [← hunique _ hranking] at hnames
  exact ⟨hquery, hranking, _, rfl, hnames _⟩

end Search

end Daybook
