import Daybook.Pattern
import Mathlib.Data.List.Basic

/-!
# What patterns take and record

Matching is ordered and looks ahead, but what a match has taken and recorded can be said without
either: `Pattern.Fits` relates a pattern to the texts it can take and to the fields it records in
them, each with its own text.  It says less than `Pattern.outcomes` (tests of what follows are
dropped), and it is all that is needed to know what the fields of a line look like.

* `Pattern.reach_cons`, `Pattern.outcomes_seq`, `Pattern.outcomes_either`, …: the ways to match, from
  those of the parts.
* `Match.fields`, `Match.text?_eq`: what a match has recorded.
* `Pattern.Fits`, `Pattern.fits_of_match?`: a match fits its pattern.
* `Pattern.fits_all_cons`, `Pattern.fits_opt`, `Pattern.fits_literal`, …: the shorthands.
* `Pattern.forall_mem_of_fits_all`: the characters that patterns in a row take.
* `Pattern.groups`, `Pattern.Fits.exists_group`: every field fits the group that recorded it.
* `Pattern.Fits.of_group_cons`, `Pattern.Fits.of_plain_cons`: the fields of patterns in a row.
* `Pattern.mem_outcomes_many`: a run of characters of one class can take the whole text.
-/

namespace Daybook

namespace Match

variable {γ : Type}

/-- A labelled part of a text, by its label and its characters. -/
def fieldOf (text : List Char) (s : Span γ) : γ × List Char :=
  (s.label, slice text s.start s.stop)

/-- The fields of a match in the order in which they were recorded. -/
def fields (m : Match γ) : List (γ × List Char) :=
  m.spans.reverse.map (fieldOf m.text)

/-- The text of a labelled part is that of a field. -/
theorem mem_fields_of_text? [DecidableEq γ] {m : Match γ} {label : γ} {cs : List Char}
    (h : m.text? label = some cs) : (label, cs) ∈ m.fields := by
  obtain ⟨s, hs, rfl⟩ := Option.map_eq_some_iff.mp h
  have hlabel : s.label = label := by simpa using List.find?_some hs
  refine List.mem_map.mpr ⟨s, List.mem_reverse.mpr (List.mem_of_find?_eq_some hs), ?_⟩
  rw [fieldOf, hlabel]

/-- A labelled part of a match is the last of its fields under the label. -/
theorem text?_eq [DecidableEq γ] (m : Match γ) (label : γ) :
    m.text? label = (m.fields.reverse.find? (·.1 = label)).map (·.2) := by
  rw [fields, ← List.map_reverse, List.reverse_reverse, List.find?_map, Option.map_map]
  rfl

end Match

namespace Pattern

variable {γ : Type}

/-- Whether a pattern can take the text `cs` and record the fields `fs` in it. -/
def Fits : Pattern γ → List Char → List (γ × List Char) → Prop
  | nothing, cs, fs => cs = [] ∧ fs = []
  | one ok, cs, fs => ∃ x, ok x = true ∧ cs = [x] ∧ fs = []
  | run ok least most _, cs, fs =>
    (∀ x ∈ cs, ∃ rest, ok x rest = true) ∧ least ≤ cs.length ∧ (∀ n ∈ most, cs.length ≤ n) ∧
      fs = []
  | look _, cs, fs => cs = [] ∧ fs = []
  | seq p q, cs, fs =>
    ∃ cs₁ fs₁ cs₂ fs₂, p.Fits cs₁ fs₁ ∧ q.Fits cs₂ fs₂ ∧ cs = cs₁ ++ cs₂ ∧ fs = fs₁ ++ fs₂
  | either p q, cs, fs => p.Fits cs fs ∨ q.Fits cs fs
  | group label p, cs, fs => ∃ inner, p.Fits cs inner ∧ fs = inner ++ [(label, cs)]

/-! ## Ways to match -/

theorem reach_cons (ok : Char → List Char → Bool) (most : Option Nat) (pos : Nat) (x : Char)
    (xs : List Char) :
    reach ok most pos (x :: xs) =
      (pos, x :: xs) ::
        if most ≠ some 0 ∧ ok x xs then reach ok (most.map (· - 1)) (pos + 1) xs else [] :=
  rfl

theorem outcomes_look (test : List Char → Bool) (c : Cursor γ) :
    (look test).outcomes c = if test c.rest then [c] else [] :=
  rfl

theorem outcomes_seq (p q : Pattern γ) (c : Cursor γ) :
    (seq p q).outcomes c = (p.outcomes c).flatMap q.outcomes :=
  rfl

theorem outcomes_either (p q : Pattern γ) (c : Cursor γ) :
    (either p q).outcomes c = p.outcomes c ++ q.outcomes c :=
  rfl

theorem outcomes_group (label : γ) (p : Pattern γ) (c : Cursor γ) :
    (group label p).outcomes c = (p.outcomes c).map (record label c) :=
  rfl

/-! ## Matches fit -/

/-- The place that is left after some characters of a run. -/
theorem getElem?_reach {ok : Char → List Char → Bool} {most : Option Nat} {pos i : Nat}
    {cs : List Char} {e : Nat × List Char} (h : (reach ok most pos cs)[i]? = some e) :
    e = (pos + i, cs.drop i) ∧ i ≤ cs.length ∧ (∀ x ∈ cs.take i, ∃ rest, ok x rest = true) ∧
      ∀ n ∈ most, i ≤ n := by
  induction cs generalizing most pos i with
  | nil =>
    cases i with
    | zero =>
      cases h
      simp
    | succ i => cases h
  | cons x xs ih =>
    cases i with
    | zero =>
      cases h
      simp
    | succ i =>
      rw [reach_cons, List.getElem?_cons_succ] at h
      split at h
      · rename_i hgo
        obtain ⟨he, hi, hok, hmost⟩ := ih h
        refine ⟨by rw [he, List.drop_succ_cons, Nat.add_right_comm, Nat.add_assoc],
          by rw [List.length_cons]; omega, ?_, ?_⟩
        · intro y hy
          rcases List.mem_cons.mp hy with rfl | hy
          · exact ⟨xs, hgo.2⟩
          · exact hok y hy
        · intro n hn
          have hne : n ≠ 0 := fun h0 => hgo.1 (h0 ▸ hn)
          have hle := hmost (n - 1) (Option.mem_map_of_mem (· - 1) hn)
          omega
      · cases h

theorem fits_run_of_mem_runEnds {ok : Char → List Char → Bool} {least : Nat} {most : Option Nat}
    {prefer : Preference} {c c' : Cursor γ} (h : c' ∈ runEnds ok least most prefer c) :
    ∃ cs, (run ok least most prefer : Pattern γ).Fits cs [] ∧ c.rest = cs ++ c'.rest ∧
      c'.pos = c.pos + cs.length ∧ c'.spans = c.spans := by
  have hmem : c' ∈ ((reach ok most c.pos c.rest).drop least).map
      fun e => { c with pos := e.1, rest := e.2 } := by
    unfold runEnds at h
    cases prefer with
    | longest => exact List.mem_reverse.mp h
    | shortest => exact h
  obtain ⟨e, he, rfl⟩ := List.mem_map.mp hmem
  obtain ⟨i, hi⟩ := List.getElem?_of_mem he
  rw [List.getElem?_drop] at hi
  obtain ⟨rfl, hlength, hok, hmost⟩ := getElem?_reach hi
  have htaken : (c.rest.take (least + i)).length = least + i := by
    rw [List.length_take]
    omega
  refine ⟨c.rest.take (least + i), ⟨hok, by omega, fun n hn => ?_, rfl⟩,
    (List.take_append_drop _ _).symm, by rw [htaken], rfl⟩
  rw [htaken]
  exact hmost n hn

theorem slice_drop {text cs rest : List Char} {pos : Nat} (h : text.drop pos = cs ++ rest) :
    Match.slice text pos (pos + cs.length) = cs := by
  rw [Match.slice, h, Nat.add_sub_cancel_left, List.take_left]

/-- **An outcome fits its pattern**: what lies between the two cursors is a text that the pattern can
take, and the parts that were recorded are its fields. -/
theorem fits_of_mem_outcomes (text : List Char) {p : Pattern γ} {c c' : Cursor γ}
    (h : c' ∈ p.outcomes c) (hc : text.drop c.pos = c.rest) :
    ∃ cs new, p.Fits cs (new.reverse.map (Match.fieldOf text)) ∧ c.rest = cs ++ c'.rest ∧
      c'.pos = c.pos + cs.length ∧ c'.spans = new ++ c.spans := by
  induction p generalizing c c' with
  | nothing =>
    cases List.mem_singleton.mp h
    exact ⟨[], [], ⟨rfl, rfl⟩, rfl, rfl, rfl⟩
  | one ok =>
    rw [outcomes] at h
    split at h
    · cases h
    · rename_i x xs hrest
      split at h
      · rename_i hok
        cases List.mem_singleton.mp h
        exact ⟨[x], [], ⟨x, hok, rfl, rfl⟩, hrest, rfl, rfl⟩
      · cases h
  | run ok least most prefer =>
    obtain ⟨cs, hfits, hrest, hpos, hspans⟩ := fits_run_of_mem_runEnds h
    exact ⟨cs, [], hfits, hrest, hpos, hspans⟩
  | look test =>
    rw [outcomes_look] at h
    split at h
    · cases List.mem_singleton.mp h
      exact ⟨[], [], ⟨rfl, rfl⟩, rfl, rfl, rfl⟩
    · cases h
  | seq p q ihp ihq =>
    obtain ⟨m, hm, h⟩ := List.mem_flatMap.mp h
    obtain ⟨cs₁, new₁, hfits₁, hrest₁, hpos₁, hspans₁⟩ := ihp hm hc
    have hmid : text.drop m.pos = m.rest := by
      rw [hpos₁, ← List.drop_drop, hc, hrest₁, List.drop_left]
    obtain ⟨cs₂, new₂, hfits₂, hrest₂, hpos₂, hspans₂⟩ := ihq h hmid
    refine ⟨cs₁ ++ cs₂, new₂ ++ new₁, ⟨cs₁, _, cs₂, _, hfits₁, hfits₂, rfl, ?_⟩, ?_, ?_, ?_⟩
    · rw [List.reverse_append, List.map_append]
    · rw [hrest₁, hrest₂, List.append_assoc]
    · rw [hpos₂, hpos₁, List.length_append, Nat.add_assoc]
    · rw [hspans₂, hspans₁, List.append_assoc]
  | either p q ihp ihq =>
    rcases List.mem_append.mp h with h | h
    · obtain ⟨cs, new, hfits, hrest⟩ := ihp h hc
      exact ⟨cs, new, .inl hfits, hrest⟩
    · obtain ⟨cs, new, hfits, hrest⟩ := ihq h hc
      exact ⟨cs, new, .inr hfits, hrest⟩
  | group label p ih =>
    obtain ⟨m, hm, rfl⟩ := List.mem_map.mp h
    obtain ⟨cs, new, hfits, hrest, hpos, hspans⟩ := ih hm hc
    have hfield : Match.fieldOf text ⟨label, c.pos, m.pos⟩ = (label, cs) := by
      rw [Match.fieldOf, hpos, slice_drop (hc.trans hrest)]
    refine ⟨cs, ⟨label, c.pos, m.pos⟩ :: new, ⟨_, hfits, ?_⟩, hrest, hpos, ?_⟩
    · rw [List.reverse_cons, List.map_append, List.map_singleton, hfield]
    · rw [record, hspans, List.cons_append]

/-- **A match fits its pattern.** -/
theorem fits_of_match? {p : Pattern γ} {text : List Char} {m : Match γ}
    (h : p.match? text = some m) : m.text = text ∧ ∃ cs, p.Fits cs m.fields ∧ cs <+: text := by
  rw [match?, matchAt?, scan_eq_findSome?] at h
  obtain ⟨c, hc, hm⟩ := List.exists_of_findSome?_eq_some h
  cases hm
  obtain ⟨cs, new, hfits, hrest, -, hspans⟩ := fits_of_mem_outcomes text hc rfl
  refine ⟨rfl, cs, ?_, ⟨c.rest, hrest.symm⟩⟩
  rw [Match.fields, hspans, List.append_nil]
  exact hfits

/-- A pattern with an outcome has a match. -/
theorem isSome_match? {p : Pattern γ} {text : List Char} {c : Cursor γ}
    (h : c ∈ p.outcomes ⟨0, text, []⟩) : (p.match? text).isSome := by
  rw [match?, matchAt?, scan_eq_findSome?, List.findSome?_isSome_iff]
  exact ⟨c, h, rfl⟩

/-! ## The shorthands -/

theorem fits_opt {p : Pattern γ} {cs : List Char} {fs : List (γ × List Char)} :
    (opt p).Fits cs fs ↔ p.Fits cs fs ∨ (cs = [] ∧ fs = []) :=
  Iff.rfl

theorem fits_atEnd {cs : List Char} {fs : List (γ × List Char)} :
    (atEnd : Pattern γ).Fits cs fs ↔ cs = [] ∧ fs = [] :=
  Iff.rfl

theorem fits_all_cons {p : Pattern γ} {ps : List (Pattern γ)} {cs : List Char}
    {fs : List (γ × List Char)} :
    (all (p :: ps)).Fits cs fs ↔
      ∃ cs₁ fs₁ cs₂ fs₂, p.Fits cs₁ fs₁ ∧ (all ps).Fits cs₂ fs₂ ∧ cs = cs₁ ++ cs₂ ∧
        fs = fs₁ ++ fs₂ := by
  cases ps with
  | cons q qs => exact Iff.rfl
  | nil =>
    constructor
    · intro h
      exact ⟨cs, fs, [], [], h, ⟨rfl, rfl⟩, (List.append_nil _).symm, (List.append_nil _).symm⟩
    · rintro ⟨cs₁, fs₁, cs₂, fs₂, h, ⟨rfl, rfl⟩, rfl, rfl⟩
      rw [List.append_nil, List.append_nil]
      exact h

theorem fits_many {ok : Char → Bool} {least : Nat} {cs : List Char} {fs : List (γ × List Char)} :
    (many ok least : Pattern γ).Fits cs fs ↔
      (∀ x ∈ cs, ok x = true) ∧ least ≤ cs.length ∧ fs = [] := by
  simp [many, Fits]

theorem fits_few {ok : Char → Bool} {cs : List Char} {fs : List (γ × List Char)} :
    (few ok : Pattern γ).Fits cs fs ↔ (∀ x ∈ cs, ok x = true) ∧ fs = [] := by
  simp [few, Fits]

theorem fits_between {ok : Char → Bool} {least most : Nat} {cs : List Char}
    {fs : List (γ × List Char)} :
    (between ok least most : Pattern γ).Fits cs fs ↔
      (∀ x ∈ cs, ok x = true) ∧ least ≤ cs.length ∧ cs.length ≤ most ∧ fs = [] := by
  simp [between, Fits]

theorem fits_literal {s : String} {cs : List Char} {fs : List (γ × List Char)} :
    (literal s : Pattern γ).Fits cs fs ↔ cs = s.toList ∧ fs = [] := by
  rw [literal]
  induction s.toList generalizing cs fs with
  | nil => exact Iff.rfl
  | cons x xs ih =>
    rw [List.map_cons, fits_all_cons]
    simp only [ih, Fits, beq_iff_eq]
    constructor
    · rintro ⟨_, _, _, _, ⟨y, rfl, rfl, rfl⟩, ⟨rfl, rfl⟩, rfl, rfl⟩
      exact ⟨rfl, rfl⟩
    · rintro ⟨rfl, rfl⟩
      exact ⟨[x], [], xs, [], ⟨x, rfl, rfl, rfl⟩, ⟨rfl, rfl⟩, rfl, rfl⟩

/-- A text that patterns in a row take has only characters of a class if each of them takes only
such. -/
theorem forall_mem_of_fits_all {P : Char → Prop} {ps : List (Pattern γ)}
    (hps : ∀ q ∈ ps, ∀ cs fs, q.Fits cs fs → ∀ x ∈ cs, P x) {cs : List Char}
    {fs : List (γ × List Char)} (h : (all ps).Fits cs fs) : ∀ x ∈ cs, P x := by
  induction ps generalizing cs fs with
  | nil =>
    obtain ⟨rfl, -⟩ := h
    exact fun x hx => absurd hx List.not_mem_nil
  | cons q ps ih =>
    obtain ⟨cs₁, _, cs₂, _, hfirst, hrest, rfl, -⟩ := fits_all_cons.mp h
    intro x hx
    rcases List.mem_append.mp hx with hx | hx
    · exact hps q List.mem_cons_self _ _ hfirst x hx
    · exact ih (fun q' hq' => hps q' (List.mem_cons_of_mem _ hq')) hrest x hx

/-! ## Groups -/

/-- The groups in a pattern, each with the pattern of its text. -/
def groups : Pattern γ → List (γ × Pattern γ)
  | nothing | one _ | run .. | look _ => []
  | seq p q | either p q => p.groups ++ q.groups
  | group label p => p.groups ++ [(label, p)]

theorem groups_literal (s : String) : (literal s : Pattern γ).groups = [] := by
  rw [literal]
  induction s.toList with
  | nil => rfl
  | cons x xs ih =>
    cases xs with
    | nil => rfl
    | cons y ys => exact ih

/-- Every field fits the group that recorded it. -/
theorem Fits.exists_group {p : Pattern γ} {cs : List Char} {fs : List (γ × List Char)}
    (h : p.Fits cs fs) {f : γ × List Char} (hf : f ∈ fs) :
    ∃ q inner, (f.1, q) ∈ p.groups ∧ q.Fits f.2 inner := by
  induction p generalizing cs fs with
  | nothing | look test =>
    obtain ⟨-, rfl⟩ := h
    cases hf
  | one ok =>
    obtain ⟨x, -, -, rfl⟩ := h
    cases hf
  | run ok least most prefer =>
    obtain ⟨-, -, -, rfl⟩ := h
    cases hf
  | seq p q ihp ihq =>
    obtain ⟨cs₁, fs₁, cs₂, fs₂, hp, hq, rfl, rfl⟩ := h
    rcases List.mem_append.mp hf with hf | hf
    · obtain ⟨q', inner, hgroup, hfits⟩ := ihp hp hf
      exact ⟨q', inner, List.mem_append_left _ hgroup, hfits⟩
    · obtain ⟨q', inner, hgroup, hfits⟩ := ihq hq hf
      exact ⟨q', inner, List.mem_append_right _ hgroup, hfits⟩
  | either p q ihp ihq =>
    rcases h with h | h
    · obtain ⟨q', inner, hgroup, hfits⟩ := ihp h hf
      exact ⟨q', inner, List.mem_append_left _ hgroup, hfits⟩
    · obtain ⟨q', inner, hgroup, hfits⟩ := ihq h hf
      exact ⟨q', inner, List.mem_append_right _ hgroup, hfits⟩
  | group label p ih =>
    obtain ⟨inner, hp, rfl⟩ := h
    rcases List.mem_append.mp hf with hf | hf
    · obtain ⟨q', inner', hgroup, hfits⟩ := ih hp hf
      exact ⟨q', inner', List.mem_append_left _ hgroup, hfits⟩
    · cases List.mem_singleton.mp hf
      exact ⟨p, inner, List.mem_append_right _ (List.mem_singleton_self _), hp⟩

/-- The label of a field is that of a group. -/
theorem Fits.label_mem {p : Pattern γ} {cs : List Char} {fs : List (γ × List Char)}
    (h : p.Fits cs fs) {f : γ × List Char} (hf : f ∈ fs) : f.1 ∈ p.groups.map Prod.fst := by
  obtain ⟨q, -, hgroup, -⟩ := h.exists_group hf
  exact List.mem_map_of_mem (f := Prod.fst) hgroup

/-- A pattern without groups records nothing. -/
theorem Fits.eq_nil {p : Pattern γ} {cs : List Char} {fs : List (γ × List Char)} (h : p.Fits cs fs)
    (hp : p.groups = []) : fs = [] := by
  refine List.eq_nil_iff_forall_not_mem.mpr fun f hf => ?_
  obtain ⟨q, inner, hgroup, -⟩ := h.exists_group hf
  rw [hp] at hgroup
  cases hgroup

/-- A group in front records the first field. -/
theorem Fits.of_group_cons {label : γ} {p : Pattern γ} {ps : List (Pattern γ)} {cs : List Char}
    {fs : List (γ × List Char)} (h : (all (group label p :: ps)).Fits cs fs) (hp : p.groups = []) :
    ∃ cs₁ cs₂ rest, p.Fits cs₁ [] ∧ (all ps).Fits cs₂ rest ∧ fs = (label, cs₁) :: rest := by
  obtain ⟨cs₁, _, cs₂, rest, ⟨inner, hfits, rfl⟩, hrest, -, rfl⟩ := fits_all_cons.mp h
  cases hfits.eq_nil hp
  exact ⟨cs₁, cs₂, rest, hfits, hrest, rfl⟩

/-- A pattern without groups in front leaves the fields to those behind it. -/
theorem Fits.of_plain_cons {p : Pattern γ} {ps : List (Pattern γ)} {cs : List Char}
    {fs : List (γ × List Char)} (h : (all (p :: ps)).Fits cs fs) (hp : p.groups = []) :
    ∃ cs', (all ps).Fits cs' fs := by
  obtain ⟨_, _, cs', rest, hfits, hrest, -, rfl⟩ := fits_all_cons.mp h
  cases hfits.eq_nil hp
  exact ⟨cs', hrest⟩

/-! ## A text of one class -/

theorem getElem?_reach_append {ok : Char → Bool} {cs : List Char} (h : ∀ x ∈ cs, ok x = true)
    (rest : List Char) (pos : Nat) :
    (reach (fun x _ => ok x) none pos (cs ++ rest))[cs.length]? = some (pos + cs.length, rest) := by
  induction cs generalizing pos with
  | nil => cases rest <;> rfl
  | cons x xs ih =>
    have hgo : (none : Option Nat) ≠ some 0 ∧ ok x = true := ⟨by simp, h x List.mem_cons_self⟩
    rw [List.cons_append, reach_cons, if_pos hgo, List.length_cons, List.getElem?_cons_succ]
    rw [Option.map_none, ih (fun y hy => h y (List.mem_cons_of_mem _ hy)), Nat.add_assoc,
      Nat.add_comm 1]

/-- A run of characters of one class can take the whole text. -/
theorem mem_outcomes_many {ok : Char → Bool} {least : Nat} {c : Cursor γ}
    (h : ∀ x ∈ c.rest, ok x = true) (hleast : least ≤ c.rest.length) :
    { c with pos := c.pos + c.rest.length, rest := [] } ∈ (many ok least).outcomes c := by
  have hend : (c.pos + c.rest.length, []) ∈
      (reach (fun x _ => ok x) none c.pos c.rest).drop least := by
    refine List.mem_of_getElem? (i := c.rest.length - least) ?_
    have hreach := getElem?_reach_append h [] c.pos
    rw [List.append_nil] at hreach
    rw [List.getElem?_drop, Nat.add_sub_cancel' hleast, hreach]
  rw [many, outcomes, runEnds]
  exact List.mem_reverse.mpr (List.mem_map_of_mem hend)

end Pattern

end Daybook
