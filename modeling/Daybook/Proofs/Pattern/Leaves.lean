import Daybook.Proofs.Pattern

/-!
# What patterns leave

Two patterns may read the same kind of line and record different parts of it.  Whether they take a
line apart at the same places is a question about what each part leaves, in the order in which it is
tried.  `Pattern.leaves` says so without positions and labels, which is what makes patterns with
different labels comparable; a group leaves what its inner pattern leaves.

* `Pattern.leaves`, `Pattern.map_rest_outcomes`: what the outcomes of a pattern leave of a text.
* `Pattern.leaves_seq`, `Pattern.leaves_either`, `Pattern.leaves_many`, …: the same from its parts.
* `Pattern.isSome_scan_iff`, `Pattern.isSome_match?_iff`: there is a match if anything is left.
* `Pattern.exists_first_of_seq`: a match of two patterns in a row goes through the first way to
  match the one that leaves the other something to match.
* `Pattern.ToEnd`, `Pattern.ToEnd.fits_of_scan`: what a match of a pattern that goes to the end fits.
* `Pattern.leaves_many_seq`, `Pattern.leaves_many_one_seq`: a run in front of a pattern that cannot
  start with one of its characters ends at one place only.
* `Pattern.mem_leaves_run`: a run can end anywhere among its characters.
-/

namespace Daybook.Pattern

variable {γ β : Type}

/-- What a pattern leaves of a text, for each way to match, the preferred one first. -/
def leaves : Pattern γ → List Char → List (List Char)
  | nothing, cs => [cs]
  | one ok, cs =>
    match cs with
    | [] => []
    | x :: xs => if ok x then [xs] else []
  | run ok least most prefer, cs =>
    let ends := ((reach ok most 0 cs).drop least).map (·.2)
    match prefer with
    | .longest => ends.reverse
    | .shortest => ends
  | look test, cs => if test cs then [cs] else []
  | seq p q, cs => (p.leaves cs).flatMap q.leaves
  | either p q, cs => p.leaves cs ++ q.leaves cs
  | group _ p, cs => p.leaves cs

theorem leaves_look (test : List Char → Bool) (cs : List Char) :
    (look test : Pattern γ).leaves cs = if test cs then [cs] else [] :=
  rfl

theorem leaves_seq (p q : Pattern γ) (cs : List Char) :
    (seq p q).leaves cs = (p.leaves cs).flatMap q.leaves :=
  rfl

theorem leaves_either (p q : Pattern γ) (cs : List Char) :
    (either p q).leaves cs = p.leaves cs ++ q.leaves cs :=
  rfl

theorem leaves_many (ok : Char → Bool) (least : Nat) (cs : List Char) :
    (many ok least : Pattern γ).leaves cs =
      (((reach (fun x _ => ok x) none 0 cs).drop least).map (·.2)).reverse :=
  rfl

theorem map_snd_reach (ok : Char → List Char → Bool) (most : Option Nat) (pos : Nat)
    (cs : List Char) : (reach ok most pos cs).map (·.2) = (reach ok most 0 cs).map (·.2) := by
  induction cs generalizing most pos with
  | nil => rfl
  | cons x xs ih =>
    rw [reach_cons, reach_cons, List.map_cons, List.map_cons]
    congr 1
    split
    · rw [ih, ih _ (0 + 1)]
    · rfl

theorem map_rest_runEnds (ok : Char → List Char → Bool) (least : Nat) (most : Option Nat)
    (prefer : Preference) (c : Cursor γ) :
    (runEnds ok least most prefer c).map (·.rest) =
      (run ok least most prefer : Pattern γ).leaves c.rest := by
  have hends : (((reach ok most c.pos c.rest).drop least).map
      fun e => { c with pos := e.1, rest := e.2 }).map (·.rest) =
        ((reach ok most 0 c.rest).drop least).map (·.2) := by
    rw [List.map_map, List.map_drop, List.map_drop, ← map_snd_reach ok most c.pos]
    rfl
  unfold runEnds
  cases prefer with
  | longest =>
    dsimp only
    rw [List.map_reverse, hends]
    rfl
  | shortest => exact hends

/-- **What the outcomes of a pattern leave depends on the text alone.** -/
theorem map_rest_outcomes (p : Pattern γ) (c : Cursor γ) :
    (p.outcomes c).map (·.rest) = p.leaves c.rest := by
  induction p generalizing c with
  | nothing => rfl
  | one ok =>
    simp only [outcomes, leaves]
    cases c.rest with
    | nil => rfl
    | cons x xs => by_cases hx : ok x = true <;> simp [hx]
  | run ok least most prefer => exact map_rest_runEnds ok least most prefer c
  | look test =>
    rw [outcomes_look, leaves_look]
    split <;> rfl
  | seq p q ihp ihq =>
    rw [outcomes_seq, leaves_seq, ← ihp, List.map_flatMap, List.flatMap_map]
    simp only [ihq]
  | either p q ihp ihq => rw [outcomes_either, leaves_either, List.map_append, ihp, ihq]
  | group label p ih =>
    rw [outcomes_group, List.map_map]
    exact ih c

theorem mem_leaves_of_mem_outcomes {p : Pattern γ} {c c' : Cursor γ} (h : c' ∈ p.outcomes c) :
    c'.rest ∈ p.leaves c.rest := by
  rw [← map_rest_outcomes]
  exact List.mem_map_of_mem h

/-! ## Matches -/

/-- Scanning with a continuation that always answers succeeds if anything is left. -/
theorem isSome_scan_iff {p : Pattern γ} {c : Cursor γ} {k : Cursor γ → Option β}
    (hk : ∀ c, (k c).isSome) : (p.scan c k).isSome ↔ p.leaves c.rest ≠ [] := by
  rw [scan_eq_findSome?, List.findSome?_isSome_iff, ← map_rest_outcomes, ne_eq,
    List.map_eq_nil_iff, List.eq_nil_iff_forall_not_mem, not_forall_not]
  simp only [hk, and_true]

/-- A text starts with a match if the pattern leaves something of it. -/
theorem isSome_match?_iff {p : Pattern γ} {text : List Char} :
    (p.match? text).isSome ↔ p.leaves text ≠ [] :=
  isSome_scan_iff fun _ => rfl

theorem match?_eq_none_iff {p : Pattern γ} {text : List Char} :
    p.match? text = none ↔ p.leaves text = [] := by
  rw [← Option.not_isSome_iff_eq_none, isSome_match?_iff, ne_eq, not_not]

/-- **Two patterns in a row.**  The match goes through the first way to match the one that leaves
something that the other matches. -/
theorem exists_first_of_seq {p q : Pattern γ} {c : Cursor γ} {k : Cursor γ → Option β} {b : β}
    (hk : ∀ c, (k c).isSome) (h : (seq p q).scan c k = some b) :
    ∃ c' ∈ p.outcomes c, q.scan c' k = some b ∧
      (p.leaves c.rest).find? (fun cs => !(q.leaves cs).isEmpty) = some c'.rest := by
  have hend : ∀ c : Cursor γ, (q.scan c k).isSome = !(q.leaves c.rest).isEmpty := by
    intro c
    rw [Bool.eq_iff_iff, isSome_scan_iff hk]
    simp
  rw [scan, scan_eq_findSome?, List.findSome?_eq_some_iff] at h
  obtain ⟨before, c', after, hsplit, hc', hbefore⟩ := h
  refine ⟨c', by simp [hsplit], hc', ?_⟩
  rw [← map_rest_outcomes, hsplit, List.find?_map, List.find?_append, List.find?_cons_of_pos,
    List.find?_eq_none.mpr, Option.none_or, Option.map_some]
  · intro x hx
    rw [Function.comp_apply, ← hend, hbefore x hx]
    exact Bool.false_ne_true
  · rw [Function.comp_apply, ← hend, hc']
    rfl

/-- What is left is the end of the text, and the pattern fits what stands in front. -/
theorem exists_fits_of_mem_leaves {p : Pattern γ} {cs rest : List Char} (h : rest ∈ p.leaves cs) :
    ∃ taken fs, p.Fits taken fs ∧ cs = taken ++ rest := by
  have hstart : p.leaves cs = (p.outcomes ⟨0, cs, []⟩).map (·.rest) :=
    (map_rest_outcomes p ⟨0, cs, []⟩).symm
  rw [hstart] at h
  obtain ⟨c, hc, rfl⟩ := List.mem_map.mp h
  obtain ⟨taken, new, hfits, hrest, -, -⟩ := fits_of_mem_outcomes cs hc rfl
  exact ⟨taken, _, hfits, hrest⟩

/-- What is left is a part of the text. -/
theorem subset_of_mem_leaves {p : Pattern γ} {cs rest : List Char} (h : rest ∈ p.leaves cs) :
    rest ⊆ cs := by
  obtain ⟨taken, _, -, rfl⟩ := exists_fits_of_mem_leaves h
  exact List.subset_append_right taken rest

/-- An outcome stands where its position says. -/
theorem drop_of_mem_outcomes {p : Pattern γ} {c c' : Cursor γ} {text : List Char}
    (h : c' ∈ p.outcomes c) (hc : text.drop c.pos = c.rest) : text.drop c'.pos = c'.rest := by
  obtain ⟨taken, new, -, hrest, hpos, -⟩ := fits_of_mem_outcomes text h hc
  rw [hpos, ← List.drop_drop, hc, hrest, List.drop_left]

/-- A pattern without groups records nothing on the way. -/
theorem spans_of_mem_outcomes {p : Pattern γ} {c c' : Cursor γ} (hp : p.groups = [])
    (h : c' ∈ p.outcomes c) (text : List Char) (hc : text.drop c.pos = c.rest) :
    c'.spans = c.spans := by
  obtain ⟨taken, new, hfits, -, -, hspans⟩ := fits_of_mem_outcomes text h hc
  have hnew : new = [] := by simpa using hfits.eq_nil hp
  rw [hspans, hnew, List.nil_append]

/-! ## Ways to match -/

section Ways

variable {p q : Pattern γ} {cs mid rest : List Char}

theorem leaves_seq_of_eq_singleton (h : p.leaves cs = [mid]) :
    (seq p q).leaves cs = q.leaves mid := by
  rw [leaves_seq, h, List.flatMap_singleton]

theorem leaves_seq_of_eq_nil (h : p.leaves cs = []) : (seq p q).leaves cs = [] := by
  rw [leaves_seq, h]
  rfl

theorem mem_leaves_seq (hp : mid ∈ p.leaves cs) (hq : rest ∈ q.leaves mid) :
    rest ∈ (seq p q).leaves cs :=
  List.mem_flatMap.mpr ⟨mid, hp, hq⟩

theorem mem_leaves_opt (hp : rest ∈ p.leaves cs) : rest ∈ (opt p).leaves cs :=
  List.mem_append_left _ hp

theorem self_mem_leaves_opt (p : Pattern γ) (cs : List Char) : cs ∈ (opt p).leaves cs :=
  List.mem_append_right _ (List.mem_singleton_self cs)

theorem mem_leaves_atEnd (h : rest ∈ (atEnd : Pattern γ).leaves cs) :
    rest = cs ∧ (cs = [] ∨ cs = ['\n']) := by
  rw [atEnd, leaves_look] at h
  split at h
  · rename_i hend
    exact ⟨List.mem_singleton.mp h, by simpa using hend⟩
  · cases h

/-- At the end of a text without line breaks nothing is left. -/
theorem eq_nil_of_mem_leaves_atEnd (h : rest ∈ (atEnd : Pattern γ).leaves cs)
    (hbreak : '\n' ∉ rest) : rest = [] := by
  obtain ⟨rfl, rfl | rfl⟩ := mem_leaves_atEnd h
  · rfl
  · exact absurd List.mem_cons_self hbreak

end Ways

/-! ## Patterns that go to the end -/

section ToEnd

variable {p q : Pattern γ} {cs rest : List Char}

/-- Whether a pattern takes all of a text, but perhaps for a line break at its end. -/
def ToEnd (p : Pattern γ) : Prop :=
  ∀ ⦃cs rest⦄, rest ∈ p.leaves cs → rest = [] ∨ rest = ['\n']

theorem toEnd_atEnd : (atEnd : Pattern γ).ToEnd := by
  intro cs rest h
  obtain ⟨rfl, hend⟩ := mem_leaves_atEnd h
  exact hend

/-- Patterns in a row go to the end if the last one does. -/
theorem ToEnd.seq (h : q.ToEnd) : (seq p q).ToEnd := by
  intro cs rest hrest
  obtain ⟨mid, -, hrest⟩ := List.mem_flatMap.mp hrest
  exact h hrest

/-- A text without line breaks is taken as a whole. -/
theorem ToEnd.eq_nil (h : p.ToEnd) (hrest : rest ∈ p.leaves cs) (hbreak : '\n' ∉ cs) :
    rest = [] := by
  rcases h hrest with hnil | hline
  · exact hnil
  · have hmem : '\n' ∈ rest := hline ▸ List.mem_singleton_self '\n'
    exact absurd (subset_of_mem_leaves hrest hmem) hbreak

/-- A match of a pattern that goes to the end of the text fits all that stands behind the cursor. -/
theorem ToEnd.fits_of_scan (hp : p.ToEnd) {c : Cursor γ} {text : List Char} {start : Nat}
    {found : Match γ} (hbreak : '\n' ∉ c.rest) (hc : text.drop c.pos = c.rest)
    (h : p.scan c (fun c => some ⟨text, start, c.pos, c.spans⟩) = some found) :
    found.text = text ∧ ∃ new, found.spans = new ++ c.spans ∧
      p.Fits c.rest (new.reverse.map (Match.fieldOf text)) := by
  rw [scan_eq_findSome?] at h
  obtain ⟨last, hlast, hfound⟩ := List.exists_of_findSome?_eq_some h
  cases hfound
  obtain ⟨taken, new, hfits, hrest, -, hspans⟩ := fits_of_mem_outcomes text hlast hc
  rw [hp.eq_nil (mem_leaves_of_mem_outcomes hlast) hbreak, List.append_nil] at hrest
  rw [hrest]
  exact ⟨rfl, new, hspans, hfits⟩

end ToEnd

/-! ## Runs -/

section Runs

variable {ok : Char → Bool} {q : Pattern γ}

theorem leaves_many_zero_cons (x : Char) (xs : List Char) :
    (many ok 0 : Pattern γ).leaves (x :: xs) =
      if ok x then (many ok 0 : Pattern γ).leaves xs ++ [x :: xs] else [x :: xs] := by
  rw [leaves_many, leaves_many, List.drop_zero, List.drop_zero, reach_cons, List.map_cons]
  by_cases hx : ok x = true
  · have hgo : (none : Option Nat) ≠ some 0 ∧ ok x = true := ⟨by simp, hx⟩
    rw [if_pos hx, if_pos hgo, List.reverse_cons, Option.map_none, map_snd_reach]
  · have hstop : ¬((none : Option Nat) ≠ some 0 ∧ ok x = true) := fun h => hx h.2
    rw [if_neg hx, if_neg hstop]
    rfl

theorem leaves_many_one_cons (x : Char) (xs : List Char) :
    (many ok 1 : Pattern γ).leaves (x :: xs) =
      if ok x then (many ok 0 : Pattern γ).leaves xs else [] := by
  rw [leaves_many, leaves_many, reach_cons, List.drop_succ_cons, List.drop_zero, List.drop_zero]
  by_cases hx : ok x = true
  · have hgo : (none : Option Nat) ≠ some 0 ∧ ok x = true := ⟨by simp, hx⟩
    rw [if_pos hx, if_pos hgo, Option.map_none, map_snd_reach]
  · have hstop : ¬((none : Option Nat) ≠ some 0 ∧ ok x = true) := fun h => hx h.2
    rw [if_neg hx, if_neg hstop]
    rfl

/-- A run in front of a pattern that none of its characters can start takes all of them. -/
theorem leaves_many_seq (hq : ∀ x xs, ok x = true → q.leaves (x :: xs) = []) (cs : List Char) :
    (seq (many ok 0) q).leaves cs = q.leaves (cs.dropWhile ok) := by
  induction cs with
  | nil => exact List.append_nil _
  | cons x xs ih =>
    rw [leaves_seq] at ih ⊢
    rw [leaves_many_zero_cons]
    by_cases hx : ok x = true
    · rw [if_pos hx, List.flatMap_append, ih, List.flatMap_singleton, hq x xs hx,
        List.append_nil, List.dropWhile_cons_of_pos hx]
    · rw [if_neg hx, List.flatMap_singleton, List.dropWhile_cons_of_neg hx]

theorem leaves_many_one_seq (hq : ∀ x xs, ok x = true → q.leaves (x :: xs) = [])
    (cs : List Char) :
    (seq (many ok 1) q).leaves cs =
      if cs.head?.any ok then q.leaves (cs.dropWhile ok) else [] := by
  cases cs with
  | nil => rfl
  | cons x xs =>
    rw [leaves_seq, leaves_many_one_cons, List.head?_cons, Option.any_some]
    by_cases hx : ok x = true
    · rw [if_pos hx, if_pos hx, List.dropWhile_cons_of_pos hx, ← leaves_many_seq hq, leaves_seq]
    · rw [if_neg hx, if_neg hx]
      rfl

/-- A run can end behind any number of its characters. -/
theorem mem_leaves_run {least : Nat} (prefer : Preference) {taken : List Char}
    (rest : List Char) (h : ∀ x ∈ taken, ok x = true) (hleast : least ≤ taken.length) :
    rest ∈ (run (fun x _ => ok x) least none prefer : Pattern γ).leaves (taken ++ rest) := by
  have hend : rest ∈ ((reach (fun x _ => ok x) none 0 (taken ++ rest)).drop least).map (·.2) := by
    refine List.mem_map.mpr ⟨(0 + taken.length, rest), ?_, rfl⟩
    refine List.mem_of_getElem? (i := taken.length - least) ?_
    rw [List.getElem?_drop, Nat.add_sub_cancel' hleast, getElem?_reach_append h]
  simp only [leaves]
  cases prefer with
  | longest => exact List.mem_reverse.mpr hend
  | shortest => exact hend

/-- A run can be empty. -/
theorem self_mem_leaves_many (ok : Char → Bool) (cs : List Char) :
    cs ∈ (many ok 0 : Pattern γ).leaves cs := by
  have hnone : ∀ x ∈ [], ok x = true := fun x hx => absurd hx List.not_mem_nil
  exact mem_leaves_run .longest cs hnone (Nat.le_refl 0)

/-- One character is enough for a run of at least one. -/
theorem mem_leaves_many_one {x : Char} (hx : ok x = true) (xs : List Char) :
    xs ∈ (many ok 1 : Pattern γ).leaves (x :: xs) := by
  have hone : ∀ y ∈ [x], ok y = true := fun y hy => List.mem_singleton.mp hy ▸ hx
  exact mem_leaves_run .longest xs hone (Nat.le_refl 1)

end Runs

end Daybook.Pattern
