import Daybook.Proofs.Table
import Daybook.Search.Score
import Mathlib.Algebra.Field.Rat
import Mathlib.Algebra.Order.Field.Basic
import Mathlib.Algebra.Order.Ring.Rat
import Mathlib.Data.Finset.Card
import Mathlib.Data.Int.LeastGreatest
import Mathlib.Data.List.Sort
import Mathlib.Order.Bounds.Basic
import Mathlib.Order.Interval.Finset.Nat
import Mathlib.Tactic.Linarith
import Mathlib.Tactic.Positivity

/-!
# The best way to read a query off a name

A query can be read off a name at many sequences of places.  The score tries one for each place where
the query can start, the greedy one, and stops at the first start that fails.  Nothing is lost:

* the characters that a reading skips are determined by its first and its last place, and no reading
  from the same start or a later one ends before the greedy one (`gapBehind_eq_some`);
* where the greedy reading fails, no reading from there or from a later start succeeds
  (`gapBehind_eq_none`).

Main statements:

* `Embeds`: whether places spell a query in a text; `sublist_iff_exists_embeds`.
* `worth`, `worths`: what a reading is worth.
* `isGreatest_bestPoints`: the search finds the greatest worth.
* `score_by_kind`: what the score is, kind by kind, and that the kinds do not overlap.
-/

namespace Daybook.Search

variable {text query cs : List Char} {c : Char} {pos gap : Nat}

/-! ## Places of characters -/

theorem placesAt_addPlaces (text : List Char) (pos : Nat) (places : Places) (c : Char) :
    placesAt (addPlaces pos places text) c =
      placesAt places c ++ ((List.range text.length).filter (text[·]? = some c)).map (pos + ·) := by
  induction text generalizing pos places with
  | nil => simp [addPlaces]
  | cons x xs ih =>
    have hshift : ((List.range xs.length).map Nat.succ).filter ((x :: xs)[·]? = some c) =
        ((List.range xs.length).filter (xs[·]? = some c)).map Nat.succ := List.filter_map
    have hplus : (pos + ·) ∘ Nat.succ = (pos + 1 + ·) := funext fun i => by
      simp only [Function.comp_apply]
      omega
    rw [addPlaces, ih, placesAt, Table.get?_alter, List.length_cons, List.range_succ_eq_map,
      List.filter_cons, hshift]
    by_cases hx : c = x
    · subst hx
      simp [placesAt, hplus]
    · simp [placesAt, hplus, hx, Ne.symm hx]

/-- A character is looked up at the places where it stands. -/
theorem placesAt_placesOf (text : List Char) (c : Char) :
    placesAt (placesOf text) c = (List.range text.length).filter (text[·]? = some c) := by
  rw [placesOf, placesAt_addPlaces]
  simp [placesAt]

theorem mem_placesAt {i : Nat} : i ∈ placesAt (placesOf text) c ↔ text[i]? = some c := by
  rw [placesAt_placesOf, List.mem_filter, List.mem_range, decide_eq_true_eq]
  exact ⟨And.right, fun h => ⟨(List.getElem?_eq_some_iff.mp h).1, h⟩⟩

theorem ascending_placesAt (text : List Char) (c : Char) :
    (placesAt (placesOf text) c).Pairwise (· < ·) := by
  rw [placesAt_placesOf]
  exact List.pairwise_lt_range.filter _

/-- The first place behind another one is found by counting those that are not behind it. -/
theorem getElem?_countUpTo (pos : Nat) (places : List Nat) :
    places[countUpTo pos places]? = places.find? (pos < ·) := by
  induction places with
  | nil => rfl
  | cons p places ih =>
    by_cases hp : p ≤ pos
    · have hcount : countUpTo pos (p :: places) = countUpTo pos places + 1 := by
        simp [countUpTo, hp]
      rw [hcount, List.getElem?_cons_succ, ih, List.find?_cons_of_neg (by simpa using hp)]
    · have hcount : countUpTo pos (p :: places) = 0 := by
        simp [countUpTo, hp]
      rw [hcount, List.find?_cons_of_pos (by simpa using hp)]
      rfl

/-- The next place of a character is the least one behind the present place. -/
theorem next_eq_some {next : Nat}
    (h : (placesAt (placesOf text) c)[countUpTo pos (placesAt (placesOf text) c)]? = some next) :
    text[next]? = some c ∧ pos < next ∧ ∀ i, pos < i → text[i]? = some c → next ≤ i := by
  rw [getElem?_countUpTo] at h
  refine ⟨mem_placesAt.mp (List.mem_of_find?_eq_some h), by simpa using List.find?_some h, ?_⟩
  obtain ⟨-, before, after, hsplit, hbefore⟩ := List.find?_eq_some_iff_append.mp h
  have hascending := ascending_placesAt text c
  rw [hsplit, List.pairwise_append, List.pairwise_cons] at hascending
  intro i hi hc
  have hmem := mem_placesAt.mpr hc
  rw [hsplit, List.mem_append, List.mem_cons] at hmem
  rcases hmem with hmem | rfl | hmem
  · exact absurd hi (by simpa using hbefore i hmem)
  · exact Nat.le_refl _
  · exact Nat.le_of_lt (hascending.2.1.1 i hmem)

theorem next_eq_none
    (h : (placesAt (placesOf text) c)[countUpTo pos (placesAt (placesOf text) c)]? = none) {i : Nat}
    (hi : pos < i) : text[i]? ≠ some c := by
  rw [getElem?_countUpTo, List.find?_eq_none] at h
  exact fun hc => h i (mem_placesAt.mpr hc) (by simpa using hi)

/-! ## Readings -/

/-- Whether places, each behind the one before, spell a query in a text. -/
structure Embeds (text query : List Char) (places : List Nat) : Prop where
  ascending : places.Pairwise (· < ·)
  spells : places.map (text[·]?) = query.map some

theorem embeds_nil (text : List Char) : Embeds text [] [] := ⟨.nil, rfl⟩

theorem embeds_cons {p : Nat} {places : List Nat} :
    Embeds text (c :: cs) (p :: places) ↔
      text[p]? = some c ∧ (∀ i ∈ places, p < i) ∧ Embeds text cs places := by
  constructor
  · rintro ⟨hascending, hspells⟩
    obtain ⟨hp, hspells⟩ := List.cons.inj hspells
    obtain ⟨hfirst, hascending⟩ := List.pairwise_cons.mp hascending
    exact ⟨hp, hfirst, hascending, hspells⟩
  · rintro ⟨hp, hfirst, hascending, hspells⟩
    exact ⟨List.pairwise_cons.mpr ⟨hfirst, hascending⟩, by
      rw [List.map_cons, List.map_cons, hp, hspells]⟩

theorem Embeds.exists_cons {places : List Nat} (h : Embeds text (c :: cs) places) :
    ∃ p rest, places = p :: rest ∧ text[p]? = some c ∧ (∀ i ∈ rest, p < i) ∧
      Embeds text cs rest := by
  cases places with
  | nil => cases h.spells
  | cons p rest => exact ⟨p, rest, rfl, embeds_cons.mp h⟩

theorem Embeds.length_eq {places : List Nat} (h : Embeds text query places) :
    places.length = query.length := by
  simpa using congrArg List.length h.spells

theorem Embeds.shift (x : Char) {places : List Nat} (h : Embeds text query places) :
    Embeds (x :: text) query (places.map (· + 1)) where
  ascending := h.ascending.map _ fun _ _ => Nat.succ_lt_succ
  spells := by
    rw [List.map_map, ← h.spells]
    rfl

/-- A query is a subsequence of a text if some places spell it. -/
theorem sublist_iff_exists_embeds : query.Sublist text ↔ ∃ places, Embeds text query places := by
  constructor
  · intro h
    induction h with
    | slnil => exact ⟨[], embeds_nil []⟩
    | cons x _ ih =>
      obtain ⟨places, h⟩ := ih
      exact ⟨_, h.shift x⟩
    | cons_cons x _ ih =>
      obtain ⟨places, h⟩ := ih
      refine ⟨0 :: places.map (· + 1), embeds_cons.mpr ⟨rfl, fun i hi => ?_, h.shift x⟩⟩
      obtain ⟨j, -, rfl⟩ := List.mem_map.mp hi
      exact Nat.succ_pos j
  · rintro ⟨places, h⟩
    have hbound : ∀ i ∈ places, i ∈ List.range text.length := by
      intro i hi
      have hchar : text[i]? ∈ query.map some := h.spells ▸ List.mem_map_of_mem hi
      obtain ⟨c, -, hc⟩ := List.mem_map.mp hchar
      exact List.mem_range.mpr (List.getElem?_eq_some_iff.mp hc.symm).1
    have hplaces : places.Sublist (List.range text.length) :=
      List.sublist_of_subperm_of_pairwise (List.subperm_of_subset h.ascending.nodup hbound)
        h.ascending List.pairwise_lt_range
    have hmap := hplaces.map (text[·]?)
    rw [h.spells] at hmap
    have hall : (List.range text.length).map (text[·]?) = text.map some := by
      refine List.ext_getElem? fun i => ?_
      by_cases hi : i < text.length <;> simp [hi]
    rw [hall] at hmap
    simpa using hmap.filterMap id

/-! ## The greedy reading -/

/-- Where the greedy reading fails, no reading from there or from a later place succeeds. -/
theorem gapBehind_eq_none (h : gapBehind (placesOf text) pos gap cs = none) {pos' : Nat}
    (hpos : pos ≤ pos') {places : List Nat} (hbehind : ∀ i ∈ places, pos' < i) :
    ¬Embeds text cs places := by
  induction cs generalizing pos gap pos' places with
  | nil => cases h
  | cons c cs ih =>
    intro hplaces
    obtain ⟨p, rest, rfl, hp, hrest, hembeds⟩ := hplaces.exists_cons
    have hbehind : pos < p := Nat.lt_of_le_of_lt hpos (hbehind p List.mem_cons_self)
    rw [gapBehind] at h
    split at h
    · rename_i hnone
      exact next_eq_none hnone hbehind hp
    · rename_i next hnext
      obtain ⟨-, -, hleast⟩ := next_eq_some hnext
      exact ih h (hleast p hbehind hp) hrest hembeds

/-- **The greedy reading** spells its characters, the characters that it skips are those in front of
its last place, and no reading from the same place or a later one ends before it. -/
theorem gapBehind_eq_some {total : Nat} (h : gapBehind (placesOf text) pos gap cs = some total) :
    ∃ places, Embeds text cs places ∧ (∀ i ∈ places, pos < i) ∧
      total + pos + cs.length = gap + places.getLastD pos ∧
      ∀ pos' others, pos ≤ pos' → Embeds text cs others → (∀ i ∈ others, pos' < i) →
        places.getLastD pos ≤ others.getLastD pos' := by
  induction cs generalizing pos gap with
  | nil =>
    cases h
    refine ⟨[], embeds_nil text, nofun, rfl, fun pos' others hpos hothers _ => ?_⟩
    rw [List.eq_nil_of_length_eq_zero hothers.length_eq]
    exact hpos
  | cons c cs ih =>
    rw [gapBehind] at h
    split at h
    · cases h
    · rename_i next hnext
      obtain ⟨hchar, hlt, hleast⟩ := next_eq_some hnext
      obtain ⟨places, hembeds, hbehind, htotal, hfirst⟩ := ih h
      refine ⟨next :: places, embeds_cons.mpr ⟨hchar, hbehind, hembeds⟩, ?_, ?_, ?_⟩
      · intro i hi
        rcases List.mem_cons.mp hi with rfl | hi
        · exact hlt
        · exact hlt.trans (hbehind i hi)
      · rw [List.getLastD_cons, List.length_cons]
        omega
      · intro pos' others hpos hothers hbehind'
        obtain ⟨p, rest, rfl, hp, hrest, hrestEmbeds⟩ := hothers.exists_cons
        have hpos' : pos < p := Nat.lt_of_le_of_lt hpos (hbehind' p List.mem_cons_self)
        rw [List.getLastD_cons, List.getLastD_cons]
        exact hfirst p rest (hleast p hpos' hp) hrestEmbeds hrest

/-! ## What a reading is worth -/

/-- How many characters between the first and the last of some places are skipped. -/
def skipped (first : Nat) (rest : List Nat) : Nat :=
  (Finset.Icc first (rest.getLastD first) \ (first :: rest).toFinset).card

/-- What it is worth to read a query at some places: 1000 without the skipped characters, up to ten
more the earlier it starts, and five more at the start of a word. -/
def worth (text : List Char) : List Nat → Int
  | [] => 0
  | first :: rest =>
    1000 - skipped first rest + max 0 (10 - (first : Int)) + if startsWord text first then 5 else 0

/-- What it is worth to read a query off a text, over all ways to do so. -/
def worths (text query : List Char) : Set Int :=
  {w | ∃ places, Embeds text query places ∧ worth text places = w}

theorem mem_Icc_getLastD {first : Nat} {rest : List Nat}
    (h : (first :: rest).Pairwise (· < ·)) :
    ∀ i ∈ first :: rest, i ∈ Finset.Icc first (rest.getLastD first) := by
  induction rest generalizing first with
  | nil =>
    intro i hi
    rw [List.mem_singleton.mp hi]
    exact Finset.mem_Icc.mpr ⟨Nat.le_refl _, Nat.le_refl _⟩
  | cons second rest ih =>
    obtain ⟨hfirst, hrest⟩ := List.pairwise_cons.mp h
    have hsecond := hfirst second List.mem_cons_self
    rw [List.getLastD_cons]
    intro i hi
    rcases List.mem_cons.mp hi with rfl | hi
    · have hlast := Finset.mem_Icc.mp (ih hrest second List.mem_cons_self)
      exact Finset.mem_Icc.mpr ⟨Nat.le_refl _, hsecond.le.trans hlast.2⟩
    · have hrange := Finset.mem_Icc.mp (ih hrest i hi)
      exact Finset.mem_Icc.mpr ⟨hsecond.le.trans hrange.1, hrange.2⟩

/-- The skipped characters are determined by the first and the last place. -/
theorem skipped_add {first : Nat} {rest : List Nat} (h : (first :: rest).Pairwise (· < ·)) :
    skipped first rest + first + rest.length = rest.getLastD first := by
  have hsubset : (first :: rest).toFinset ⊆ Finset.Icc first (rest.getLastD first) := fun i hi =>
    mem_Icc_getLastD h i (List.mem_toFinset.mp hi)
  have hlast := Finset.mem_Icc.mp (mem_Icc_getLastD h first List.mem_cons_self)
  have hcard := Finset.card_sdiff_add_card_eq_card hsubset
  rw [List.toFinset_card_of_nodup h.nodup, Nat.card_Icc, List.length_cons] at hcard
  rw [skipped]
  omega

theorem worth_cons {first : Nat} {rest : List Nat} {gap : Nat}
    (h : (first :: rest).Pairwise (· < ·)) (hgap : gap + first + rest.length = rest.getLastD first) :
    worth text (first :: rest) = points first gap (startsWord text first) := by
  have hskipped : skipped first rest = gap := by
    have := skipped_add h
    omega
  rw [worth, points, hskipped, subsequenceBase, boundaryBonus]
  omega

theorem worth_le (text : List Char) (places : List Nat) : worth text places ≤ 1015 := by
  cases places with
  | nil => exact Int.zero_le_ofNat 1015
  | cons first rest =>
    rw [worth]
    split <;> omega

/-! ## The search -/

/-- The value of the greedy reading from a start. -/
def valueFrom (text cs : List Char) (start : Nat) : Option Int :=
  (gapBehind (placesOf text) start 0 cs).map fun gap => points start gap (startsWord text start)

theorem isGreatest_raise {best : Option Int} {v b : Int} {p : Int → Prop} :
    IsGreatest {w | some (raise best v) = some w ∨ p w} b ↔
      IsGreatest {w | best = some w ∨ v = w ∨ p w} b := by
  cases best with
  | none => simp [raise]
  | some a =>
    simp only [raise, IsGreatest, mem_upperBounds, Set.mem_ofPred_eq, Option.some.injEq]
    constructor
    · rintro ⟨hmem, hle⟩
      have hmax := hle _ (.inl rfl)
      refine ⟨?_, ?_⟩
      · rcases hmem with hmem | hmem
        · rcases max_choice a v with h | h
          · exact .inl (h ▸ hmem)
          · exact .inr (.inl (h ▸ hmem))
        · exact .inr (.inr hmem)
      · rintro w (rfl | rfl | hw)
        · exact (le_max_left _ _).trans hmax
        · exact (le_max_right _ _).trans hmax
        · exact hle w (.inr hw)
    · rintro ⟨hmem, hle⟩
      have hmax : max a v ≤ b := max_le (hle a (.inl rfl)) (hle v (.inr (.inl rfl)))
      refine ⟨?_, ?_⟩
      · rcases hmem with rfl | rfl | hmem
        · exact .inl (le_antisymm hmax (le_max_left _ _))
        · exact .inl (le_antisymm hmax (le_max_right _ _))
        · exact .inr hmem
      · rintro w (rfl | hw)
        · exact hmax
        · exact hle w (.inr (.inr hw))

/-- The search gives the greatest value over all starts: behind a start that fails, all fail. -/
theorem bestPoints_eq_some_iff {starts : List Nat} (hstarts : starts.Pairwise (· < ·))
    (best : Option Int) (b : Int) :
    bestPoints text (placesOf text) cs best starts = some b ↔
      IsGreatest {w | best = some w ∨ ∃ start ∈ starts, valueFrom text cs start = some w} b := by
  induction starts generalizing best with
  | nil =>
    simp only [bestPoints, List.not_mem_nil, false_and, exists_false, or_false]
    constructor
    · rintro rfl
      exact ⟨rfl, fun w hw => (Option.some.inj hw).ge⟩
    · exact fun h => h.1
  | cons start later ih =>
    obtain ⟨hstart, hlater⟩ := List.pairwise_cons.mp hstarts
    rw [bestPoints]
    cases hgap : gapBehind (placesOf text) start 0 cs with
    | none =>
      have hfail : ∀ s ∈ start :: later, valueFrom text cs s = none := by
        intro s hs
        have hle : start ≤ s := by
          rcases List.mem_cons.mp hs with rfl | hs
          · exact Nat.le_refl _
          · exact (hstart s hs).le
        cases hs' : gapBehind (placesOf text) s 0 cs with
        | none => rw [valueFrom, hs', Option.map_none]
        | some gap =>
          obtain ⟨places, hembeds, hbehind, -⟩ := gapBehind_eq_some hs'
          exact absurd hembeds (gapBehind_eq_none hgap hle hbehind)
      have hset : {w | best = some w ∨ ∃ s ∈ start :: later, valueFrom text cs s = some w} =
          {w | best = some w} := by
        ext w
        simp only [Set.mem_ofPred_eq, or_iff_left_iff_imp]
        rintro ⟨s, hs, hw⟩
        rw [hfail s hs] at hw
        cases hw
      rw [hset]
      constructor
      · rintro rfl
        exact ⟨rfl, fun w hw => (Option.some.inj hw).ge⟩
      · exact fun h => h.1
    | some gap =>
      have hvalue : valueFrom text cs start = some (points start gap (startsWord text start)) := by
        rw [valueFrom, hgap, Option.map_some]
      dsimp only
      rw [ih hlater, isGreatest_raise]
      simp only [List.mem_cons, exists_eq_or_imp, hvalue, Option.some.injEq]

/-- **The search finds the greatest worth** of all readings of a query. -/
theorem isGreatest_bestPoints (text cs : List Char) (c : Char) (b : Int) :
    bestPoints text (placesOf text) cs none (placesAt (placesOf text) c) = some b ↔
      IsGreatest (worths text (c :: cs)) b := by
  simp only [bestPoints_eq_some_iff (ascending_placesAt text c), reduceCtorEq, false_or]
  -- the values of the greedy readings are worths, and every worth is below one of them
  have hworth : ∀ start ∈ placesAt (placesOf text) c, ∀ v, valueFrom text cs start = some v →
      ∃ places, Embeds text (c :: cs) places ∧ worth text places = v := by
    intro start hstart v hv
    obtain ⟨gap, hgap, rfl⟩ := Option.map_eq_some_iff.mp hv
    obtain ⟨places, hembeds, hbehind, htotal, -⟩ := gapBehind_eq_some hgap
    have hwhole := embeds_cons.mpr ⟨mem_placesAt.mp hstart, hbehind, hembeds⟩
    refine ⟨start :: places, hwhole, worth_cons hwhole.ascending ?_⟩
    rw [hembeds.length_eq]
    omega
  have hbelow : ∀ places, Embeds text (c :: cs) places →
      ∃ start ∈ placesAt (placesOf text) c, ∃ v, valueFrom text cs start = some v ∧
        worth text places ≤ v := by
    intro places hplaces
    obtain ⟨start, rest, rfl, hstart, hbehind, hembeds⟩ := hplaces.exists_cons
    refine ⟨start, mem_placesAt.mpr hstart, ?_⟩
    cases hgap : gapBehind (placesOf text) start 0 cs with
    | none => exact absurd hembeds (gapBehind_eq_none hgap (Nat.le_refl _) hbehind)
    | some gap =>
      obtain ⟨greedy, hgreedy, -, htotal, hfirst⟩ := gapBehind_eq_some hgap
      have hends := hfirst start rest (Nat.le_refl _) hembeds hbehind
      have hskipped := skipped_add hplaces.ascending
      refine ⟨_, by rw [valueFrom, hgap, Option.map_some], ?_⟩
      rw [worth_cons hplaces.ascending hskipped, points, points]
      have hlength := hembeds.length_eq
      split <;> omega
  constructor
  · rintro ⟨⟨start, hstart, hv⟩, hle⟩
    refine ⟨hworth start hstart b hv, ?_⟩
    rintro w ⟨places, hplaces, rfl⟩
    obtain ⟨start', hstart', v, hv', hle'⟩ := hbelow places hplaces
    exact hle'.trans (hle ⟨start', hstart', hv'⟩)
  · rintro ⟨⟨places, hplaces, rfl⟩, hle⟩
    obtain ⟨start, hstart, v, hv, hbound⟩ := hbelow places hplaces
    have heq : worth text places = v := le_antisymm hbound (hle (hworth start hstart v hv))
    refine ⟨⟨start, hstart, heq ▸ hv⟩, ?_⟩
    rintro w ⟨start', hstart', hv'⟩
    exact hle (hworth start' hstart' w hv')

/-! ## Kinds of matches -/

section Kinds

variable {name : List Char}

theorem exists_isGreatest_worths (h : query.Sublist name) :
    ∃ best, IsGreatest (worths name query) best := by
  obtain ⟨places, hplaces⟩ := sublist_iff_exists_embeds.mp h
  have hbound : ∀ w, w ∈ worths name query → w ≤ 1015 := by
    rintro w ⟨places, -, rfl⟩
    exact worth_le name places
  exact Int.exists_greatest_of_bdd ⟨1015, hbound⟩ ⟨_, places, hplaces, rfl⟩

theorem score?_self (query : List Char) : score? query query = some 3000 :=
  if_pos rfl

theorem score?_of_prefix_of_ne (h : query <+: name) (hne : query ≠ name) :
    score? query name = some (2000 + 900 / (name.length : ℚ)) := by
  unfold score?
  rw [if_neg (Ne.symm hne), if_pos (List.isPrefixOf_iff_prefix.mpr h), prefixBase]

theorem score?_of_isGreatest (hquery : query ≠ []) (h : ¬query <+: name) {best : Int}
    (hbest : IsGreatest (worths name query) best) :
    score? query name = some ((max 1 best : Int) : ℚ) := by
  have hne : name ≠ query := fun heq => h (heq ▸ List.prefix_rfl)
  obtain ⟨c, cs, rfl⟩ := List.exists_cons_of_ne_nil hquery
  unfold score?
  rw [if_neg hne, if_neg (mt List.isPrefixOf_iff_prefix.mp h)]
  dsimp only
  rw [(isGreatest_bestPoints name cs c best).mpr hbest, Option.map_some]

theorem score?_eq_none (h : ¬query.Sublist name) : score? query name = none := by
  have hfront : ¬query <+: name := fun hfront => h hfront.sublist
  have hne : name ≠ query := fun heq => h (heq ▸ List.Sublist.refl _)
  unfold score?
  rw [if_neg hne, if_neg (mt List.isPrefixOf_iff_prefix.mp hfront)]
  cases query with
  | nil => rfl
  | cons c cs =>
    refine Option.map_eq_none_iff.mpr (Option.eq_none_iff_forall_ne_some.mpr fun best hbest => ?_)
    obtain ⟨places, hplaces, -⟩ := ((isGreatest_bestPoints name cs c best).mp hbest).1
    exact h (sublist_iff_exists_embeds.mpr ⟨places, hplaces⟩)

theorem prefix_score_bounds (h : query <+: name) (hne : query ≠ name) (hquery : query ≠ []) :
    (2000 : ℚ) < 2000 + 900 / (name.length : ℚ) ∧ 2000 + 900 / (name.length : ℚ) < 2500 := by
  have hlength : 2 ≤ name.length := by
    have hpos := List.length_pos_of_ne_nil hquery
    have hle := h.length_le
    have hlt : query.length ≠ name.length := fun heq => hne (h.eq_of_length heq)
    omega
  have htwo : (2 : ℚ) ≤ name.length := by exact_mod_cast hlength
  have hpos : (0 : ℚ) < name.length := by linarith
  have hquotient : 900 / (name.length : ℚ) < 500 := by
    rw [div_lt_iff₀ hpos]
    linarith
  exact ⟨by linarith [div_pos (by norm_num : (0 : ℚ) < 900) hpos], by linarith⟩

theorem one_le_score_le {best : Int} (hbest : best ∈ worths name query) :
    1 ≤ ((max 1 best : Int) : ℚ) ∧ ((max 1 best : Int) : ℚ) ≤ 1015 := by
  obtain ⟨places, -, rfl⟩ := hbest
  have hle := worth_le name places
  exact ⟨by exact_mod_cast le_max_left 1 _, by exact_mod_cast max_le (by norm_num) hle⟩

/-- A match is of one of three kinds, each with a band of its own. -/
theorem score?_cases (hquery : query ≠ []) {s : ℚ} (h : score? query name = some s) :
    (name = query ∧ s = 3000) ∨
      (query <+: name ∧ query ≠ name ∧ 2000 < s ∧ s < 2500) ∨
      (¬query <+: name ∧ 1 ≤ s ∧ s ≤ 1015) := by
  by_cases heq : query = name
  · rw [heq, score?_self] at h
    exact .inl ⟨heq.symm, (Option.some.inj h).symm⟩
  by_cases hfront : query <+: name
  · rw [score?_of_prefix_of_ne hfront heq] at h
    cases h
    exact .inr (.inl ⟨hfront, heq, prefix_score_bounds hfront heq hquery⟩)
  by_cases hsublist : query.Sublist name
  · obtain ⟨best, hbest⟩ := exists_isGreatest_worths hsublist
    rw [score?_of_isGreatest hquery hfront hbest] at h
    cases h
    exact .inr (.inr ⟨hfront, one_le_score_le hbest.1⟩)
  · rw [score?_eq_none hsublist] at h
    cases h

/-- A name has a score if and only if it holds the query as a subsequence. -/
theorem score?_eq_none_iff (hquery : query ≠ []) :
    score? query name = none ↔ ¬query.Sublist name := by
  refine ⟨fun h hsublist => ?_, score?_eq_none⟩
  by_cases hfront : query <+: name
  · by_cases heq : query = name
    · rw [heq, score?_self] at h
      cases h
    · rw [score?_of_prefix_of_ne hfront heq] at h
      cases h
  · obtain ⟨best, hbest⟩ := exists_isGreatest_worths hsublist
    rw [score?_of_isGreatest hquery hfront hbest] at h
    cases h

end Kinds

/-- **Scores by kind of match.**  A name that equals the query scores 3000; one that goes on behind it
scores strictly between 2000 and 2500, the more the shorter it is; one that holds it as a subsequence
scores the greatest worth of all readings, at least 1 and at most 1015; and any other name has no
score.  No kind of match ever scores as high as a stronger kind. -/
theorem score_by_kind {query : List Char} (hquery : query ≠ []) (name : List Char) :
    (score? query name = some 3000 ↔ name = query) ∧
    (score? query name = some (2000 + 900 / (name.length : ℚ)) ↔ query <+: name ∧ query ≠ name) ∧
    (query <+: name → query ≠ name →
      (2000 : ℚ) < 2000 + 900 / (name.length : ℚ) ∧ 2000 + 900 / (name.length : ℚ) < 2500) ∧
    (score? query name = none ↔ ¬query.Sublist name) ∧
    (query.Sublist name → ¬query <+: name →
      ∃ best, IsGreatest (worths name query) best ∧
        score? query name = some ((max 1 best : Int) : ℚ) ∧
        1 ≤ ((max 1 best : Int) : ℚ) ∧ ((max 1 best : Int) : ℚ) ≤ 1015) ∧
    ∀ query' other s t, query' ≠ [] → score? query name = some s → score? query' other = some t →
      (name = query ∧ other ≠ query') ∨ (query <+: name ∧ ¬query' <+: other) → t < s := by
  refine ⟨⟨fun h => ?_, ?_⟩, ⟨fun h => ?_, ?_⟩, ?_, score?_eq_none_iff hquery, ?_, ?_⟩
  · rcases score?_cases hquery h with ⟨heq, -⟩ | ⟨-, -, -, hhigh⟩ | ⟨-, -, hhigh⟩
    · exact heq
    · norm_num at hhigh
    · norm_num at hhigh
  · rintro rfl
    exact score?_self _
  · have hnonneg : (0 : ℚ) ≤ 900 / (name.length : ℚ) := by positivity
    rcases score?_cases hquery h with ⟨rfl, hexact⟩ | ⟨hfront, hne, -⟩ | ⟨-, -, hhigh⟩
    · have hone : (1 : ℚ) ≤ name.length := by
        exact_mod_cast List.length_pos_of_ne_nil hquery
      have hle : 900 / (name.length : ℚ) ≤ 900 := div_le_self (by norm_num) hone
      linarith
    · exact ⟨hfront, hne⟩
    · linarith
  · rintro ⟨hfront, hne⟩
    exact score?_of_prefix_of_ne hfront hne
  · exact fun hfront hne => prefix_score_bounds hfront hne hquery
  · intro hsublist hfront
    obtain ⟨best, hbest⟩ := exists_isGreatest_worths hsublist
    exact ⟨best, hbest, score?_of_isGreatest hquery hfront hbest, one_le_score_le hbest.1⟩
  · rintro query' other s t hquery' hs ht (⟨rfl, hother⟩ | ⟨hfront, hother⟩)
    · rw [score?_self] at hs
      cases hs
      rcases score?_cases hquery' ht with ⟨heq, -⟩ | ⟨-, -, -, hhigh⟩ | ⟨-, -, hhigh⟩
      · exact absurd heq hother
      · linarith
      · linarith
    · have hlow : 2000 < s := by
        rcases score?_cases hquery hs with ⟨-, rfl⟩ | ⟨-, -, hlow, -⟩ | ⟨hnot, -⟩
        · norm_num
        · exact hlow
        · exact absurd hfront hnot
      rcases score?_cases hquery' ht with ⟨rfl, -⟩ | ⟨hfront', -⟩ | ⟨-, -, hhigh⟩
      · exact absurd List.prefix_rfl hother
      · exact absurd hfront' hother
      · linarith

/-- The query `ct` can be read off `a cat cot` at four pairs of places.  The best one takes the word
`cat`: one character is skipped, the start is at place 2 and at the start of a word. -/
theorem score_by_kind_of_cat_cot :
    "ct".toList ≠ [] ∧
      (∃ best, IsGreatest (worths "a cat cot".toList "ct".toList) best ∧
        score? "ct".toList "a cat cot".toList = some ((max 1 best : Int) : ℚ)) ∧
      score? "ct".toList "a cat cot".toList = some 1012 := by
  have hquery : "ct".toList ≠ [] := by decide
  obtain ⟨best, hbest, hscore, -⟩ :=
    (score_by_kind hquery "a cat cot".toList).2.2.2.2.1 (by decide) (by decide)
  exact ⟨hquery, ⟨best, hbest, hscore⟩, by decide +kernel⟩

end Daybook.Search
