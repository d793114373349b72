import Daybook.Proofs.Pattern.Leaves

/-!
# The order of fields

The groups of a line pattern stand side by side, none inside another.  Such a pattern records its
fields from left to right, and none of them overlaps another.  A group with nothing behind it but the
end of the text takes all that is left.

* `Pattern.isFlat`: whether no group stands inside another.
* `InRow`: whether labelled parts stand one behind the other.
* `Pattern.inRow_of_mem_outcomes`, `Pattern.inRow_of_match?`: the fields of a flat pattern do.
* `Match.Ending`, `Pattern.ending_of_matchAt?`: a last field that goes up to the end.
* `Pattern.exists_matchAt?_of_find?`: what is found in a text is a match at one of its places.
-/

namespace Daybook

variable {γ : Type}

/-- Whether labelled parts stand one behind the other, from position `start` to position `stop`. -/
structure InRow (start stop : Nat) (ss : List (Span γ)) : Prop where
  le : start ≤ stop
  within : ∀ s ∈ ss, start ≤ s.start ∧ s.start ≤ s.stop ∧ s.stop ≤ stop
  apart : ss.Pairwise fun s t => s.stop ≤ t.start

theorem inRow_nil {start stop : Nat} (h : start ≤ stop) : InRow start stop ([] : List (Span γ)) :=
  ⟨h, nofun, .nil⟩

theorem inRow_singleton (label : γ) {start stop : Nat} (h : start ≤ stop) :
    InRow start stop [⟨label, start, stop⟩] where
  le := h
  within := by
    intro s hs
    cases List.mem_singleton.mp hs
    exact ⟨Nat.le_refl _, h, Nat.le_refl _⟩
  apart := List.pairwise_singleton _ _

theorem InRow.append {start mid stop : Nat} {ss ts : List (Span γ)} (h : InRow start mid ss)
    (h' : InRow mid stop ts) : InRow start stop (ss ++ ts) where
  le := Nat.le_trans h.le h'.le
  within := by
    intro s hs
    rcases List.mem_append.mp hs with hs | hs
    · obtain ⟨hstart, hle, hstop⟩ := h.within s hs
      exact ⟨hstart, hle, Nat.le_trans hstop h'.le⟩
    · obtain ⟨hstart, hle, hstop⟩ := h'.within s hs
      exact ⟨Nat.le_trans h.le hstart, hle, hstop⟩
  apart := List.pairwise_append.mpr ⟨h.apart, h'.apart, fun s hs t ht =>
    Nat.le_trans (h.within s hs).2.2 (h'.within t ht).1⟩

theorem InRow.mono {start mid stop : Nat} {ss : List (Span γ)} (h : InRow start mid ss)
    (hle : mid ≤ stop) : InRow start stop ss := by
  rw [← List.append_nil ss]
  exact h.append (inRow_nil hle)

namespace Pattern

/-- Whether no group of a pattern stands inside another. -/
def isFlat : Pattern γ → Bool
  | nothing | one _ | run .. | look _ => true
  | seq p q | either p q => p.isFlat && q.isFlat
  | group _ p => p.groups.isEmpty

/-- A pattern without groups goes on and records nothing. -/
theorem spans_and_le_of_mem_outcomes {p : Pattern γ} {c c' : Cursor γ} (hp : p.groups = [])
    (h : c' ∈ p.outcomes c) (text : List Char) (hc : text.drop c.pos = c.rest) :
    c'.spans = c.spans ∧ c.pos ≤ c'.pos := by
  obtain ⟨taken, new, -, -, hpos, -⟩ := fits_of_mem_outcomes text h hc
  exact ⟨spans_of_mem_outcomes hp h text hc, hpos ▸ Nat.le_add_right _ _⟩

/-- **A flat pattern records its fields in a row**, between the two cursors. -/
theorem inRow_of_mem_outcomes {p : Pattern γ} (hp : p.isFlat = true) {c c' : Cursor γ}
    (h : c' ∈ p.outcomes c) (text : List Char) (hc : text.drop c.pos = c.rest) :
    ∃ new, c'.spans = new ++ c.spans ∧ InRow c.pos c'.pos new.reverse := by
  induction p generalizing c c' with
  | nothing | one _ | run _ _ _ _ | look _ =>
    obtain ⟨hspans, hle⟩ := spans_and_le_of_mem_outcomes rfl h text hc
    exact ⟨[], hspans, inRow_nil hle⟩
  | seq p q ihp ihq =>
    obtain ⟨hp, hq⟩ := Bool.and_eq_true_iff.mp hp
    obtain ⟨m, hm, h⟩ := List.mem_flatMap.mp h
    obtain ⟨first, hfirst, hrow⟩ := ihp hp hm hc
    obtain ⟨second, hsecond, hrow'⟩ := ihq hq h (drop_of_mem_outcomes hm hc)
    refine ⟨second ++ first, by rw [hsecond, hfirst, List.append_assoc], ?_⟩
    rw [List.reverse_append]
    exact hrow.append hrow'
  | either p q ihp ihq =>
    obtain ⟨hp, hq⟩ := Bool.and_eq_true_iff.mp hp
    exact (List.mem_append.mp h).elim (fun h => ihp hp h hc) fun h => ihq hq h hc
  | group label p _ =>
    obtain ⟨m, hm, rfl⟩ := List.mem_map.mp h
    obtain ⟨hspans, hle⟩ := spans_and_le_of_mem_outcomes (List.isEmpty_iff.mp hp) hm text hc
    exact ⟨[⟨label, c.pos, m.pos⟩], congrArg (_ :: ·) hspans, inRow_singleton label hle⟩

/-- **The fields of a match stand in a row**, from left to right. -/
theorem inRow_of_match? {p : Pattern γ} (hp : p.isFlat = true) {text : List Char} {m : Match γ}
    (h : p.match? text = some m) : InRow 0 text.length m.spans.reverse := by
  rw [match?, matchAt?, scan_eq_findSome?] at h
  obtain ⟨c, hc, hm⟩ := List.exists_of_findSome?_eq_some h
  cases hm
  obtain ⟨taken, -, -, hrest, hpos, -⟩ := fits_of_mem_outcomes text hc rfl
  obtain ⟨new, hspans, hrow⟩ := inRow_of_mem_outcomes hp hc text rfl
  have hle : c.pos ≤ text.length := by
    have hlength := congrArg List.length hrest
    rw [List.length_append] at hlength
    simp only at hlength hpos
    omega
  rw [hspans, List.append_nil]
  exact hrow.mono hle

/-! ## A last field -/

theorem outcomes_all_cons (p : Pattern γ) (ps : List (Pattern γ)) (c : Cursor γ) :
    (all (p :: ps)).outcomes c = (p.outcomes c).flatMap (all ps).outcomes := by
  cases ps with
  | nil => exact (List.flatMap_singleton' _).symm
  | cons q qs => rfl

theorem outcomes_all_append (ps qs : List (Pattern γ)) (c : Cursor γ) :
    (all (ps ++ qs)).outcomes c = ((all ps).outcomes c).flatMap (all qs).outcomes := by
  induction ps generalizing c with
  | nil => exact (List.flatMap_singleton _ _).symm
  | cons p ps ih =>
    rw [List.cons_append, outcomes_all_cons, outcomes_all_cons, List.flatMap_assoc]
    exact congrArg (List.flatMap · (p.outcomes c)) (funext ih)

end Pattern

/-- Whether a match starts at position `pos` of a text, takes what the patterns `ps` take in a row, and
then all that is left, which is recorded under a label. -/
structure Match.Ending [DecidableEq γ] (ps : List (Pattern γ)) (label : γ) (p : Pattern γ)
    (text : List Char) (pos : Nat) (taken last : List Char) (m : Match γ) : Prop where
  drop_eq : text.drop pos = taken ++ last
  fields_eq : ∃ fs inner, (Pattern.all ps).Fits taken fs ∧ p.Fits last inner ∧
    m.fields = fs ++ (inner ++ [(label, last)])
  start_eq : m.start = pos
  text_eq : m.text = text
  span_eq : m.span? label = some ⟨label, pos + taken.length, text.length⟩

namespace Match.Ending

variable [DecidableEq γ] {ps : List (Pattern γ)} {label : γ} {p : Pattern γ}
  {text taken last : List Char} {pos : Nat} {m : Match γ}

theorem fits (h : m.Ending ps label p text pos taken last) :
    ∃ fs, (Pattern.all ps).Fits taken fs := by
  obtain ⟨fs, -, hfits, -, -⟩ := h.fields_eq
  exact ⟨fs, hfits⟩

theorem fits_last (h : m.Ending ps label p text pos taken last) : ∃ fs, p.Fits last fs := by
  obtain ⟨-, inner, -, hfits, -⟩ := h.fields_eq
  exact ⟨inner, hfits⟩

theorem drop_start (h : m.Ending ps label p text pos taken last) :
    text.drop (pos + taken.length) = last := by
  rw [← List.drop_drop, h.drop_eq, List.drop_left]

theorem slice_eq (h : m.Ending ps label p text pos taken last) :
    slice text (pos + taken.length) text.length = last := by
  have hlength : last.length = text.length - (pos + taken.length) := by
    rw [← h.drop_start, List.length_drop]
  rw [slice, h.drop_start, ← hlength, List.take_length]

theorem textD_eq (h : m.Ending ps label p text pos taken last) : m.textD label = last := by
  rw [textD, text?, h.span_eq, h.text_eq, Option.map_some, Option.getD_some]
  exact h.slice_eq

theorem length_eq (h : m.Ending ps label p text pos taken last) (hpos : pos ≤ text.length) :
    text.length = pos + taken.length + last.length := by
  have hlength := congrArg List.length h.drop_eq
  rw [List.length_drop, List.length_append] at hlength
  omega

end Match.Ending

namespace Pattern

variable [DecidableEq γ] {label : γ} {p : Pattern γ} {text : List Char} {m : Match γ}

/-- **A last field goes up to the end** of a text without line breaks. -/
theorem ending_of_matchAt? (ps : List (Pattern γ)) {pos : Nat} (hbreak : '\n' ∉ text) (hpos : pos ≤ text.length)
    (h : (all (ps ++ [group label p, atEnd])).matchAt? text pos (text.drop pos) = some m) :
    ∃ taken last, m.Ending ps label p text pos taken last := by
  rw [matchAt?, scan_eq_findSome?] at h
  obtain ⟨c, hc, hm⟩ := List.exists_of_findSome?_eq_some h
  rw [outcomes_all_append] at hc
  obtain ⟨mid, hmid, hc⟩ := List.mem_flatMap.mp hc
  obtain ⟨after, hafter, hc⟩ := List.mem_flatMap.mp hc
  obtain ⟨stop, hstop, rfl⟩ := List.mem_map.mp hafter
  have hdrop : text.drop mid.pos = mid.rest := drop_of_mem_outcomes hmid rfl
  obtain ⟨taken, new, hfits, hrest, hmidpos, hmidspans⟩ := fits_of_mem_outcomes text hmid rfl
  obtain ⟨last, new', hfits', hrest', hstoppos, hspans⟩ := fits_of_mem_outcomes text hstop hdrop
  have hfield : Match.fieldOf text (⟨label, mid.pos, stop.pos⟩ : Span γ) = (label, last) := by
    rw [Match.fieldOf, hstoppos, slice_drop (hdrop.trans hrest')]
  have hleaves : c.rest ∈ (atEnd : Pattern γ).leaves stop.rest :=
    mem_leaves_of_mem_outcomes (c := record label mid stop) hc
  have hend : stop.rest = [] := by
    rw [← (mem_leaves_atEnd hleaves).1] at hrest' ⊢
    refine eq_nil_of_mem_leaves_atEnd hleaves fun hmem => hbreak ?_
    have hmem' : '\n' ∈ text.drop mid.pos := hdrop ▸ hrest' ▸ List.mem_append_right last hmem
    exact List.mem_of_mem_drop hmem'
  have hc' : c ∈ if (stop.rest == [] || stop.rest == ['\n']) then [record label mid stop] else [] :=
    hc
  rw [hend] at hc'
  obtain rfl := List.mem_singleton.mp hc'
  rw [hend, List.append_nil] at hrest'
  have hlast : text.drop pos = taken ++ last := hrest' ▸ hrest
  have hlength := congrArg List.length hlast
  rw [List.length_drop, List.length_append] at hlength
  have hstops : stop.pos = text.length := by
    dsimp only at hmidpos
    omega
  cases hm
  refine ⟨taken, last, hlast, ⟨_, _, hfits, hfits', ?_⟩, rfl, rfl, ?_⟩
  · rw [Match.fields, record, hspans, hmidspans, List.append_nil, List.reverse_cons,
      List.reverse_append, List.map_append, List.map_append, List.map_singleton, hfield,
      List.append_assoc]
  · have hspan : (⟨label, mid.pos, stop.pos⟩ : Span γ) =
        ⟨label, pos + taken.length, text.length⟩ := by
      rw [hstops, hmidpos]
    rw [← hspan]
    exact List.find?_cons_of_pos (decide_eq_true rfl)

omit [DecidableEq γ] in
/-- What is found in a text is a match at one of its places. -/
theorem exists_matchAt?_of_findFrom? {q : Pattern γ} {rest : List Char} {pos : Nat}
    (hrest : text.drop pos = rest) (hpos : pos ≤ text.length)
    (h : q.findFrom? text pos rest = some m) :
    ∃ place, place ≤ text.length ∧ q.matchAt? text place (text.drop place) = some m := by
  induction rest generalizing pos with
  | nil => exact ⟨pos, hpos, hrest ▸ h⟩
  | cons x xs ih =>
    rw [findFrom?] at h
    cases hplace : q.matchAt? text pos (x :: xs) with
    | some found =>
      rw [hplace] at h
      cases h
      exact ⟨pos, hpos, hrest ▸ hplace⟩
    | none =>
      rw [hplace] at h
      have hnext : text.drop (pos + 1) = xs := by
        rw [← List.drop_drop, hrest, List.drop_one, List.tail_cons]
      have hlength := congrArg List.length hrest
      rw [List.length_drop, List.length_cons] at hlength
      exact ih hnext (by omega) h

omit [DecidableEq γ] in
theorem exists_matchAt?_of_find? {q : Pattern γ} (h : q.find? text = some m) :
    ∃ place, place ≤ text.length ∧ q.matchAt? text place (text.drop place) = some m :=
  exists_matchAt?_of_findFrom? rfl (Nat.zero_le _) h

end Pattern

end Daybook
