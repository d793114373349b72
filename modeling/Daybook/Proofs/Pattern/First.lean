import Daybook.Proofs.Pattern.Leaves

/-!
# The way that a match takes

A match goes the first way that works, and on a text that was written to be read this is the first
way that there is.  So what a match records of such a text is found by following the preferred way
of each part, and all that is to be shown of the others is that some of them lead nowhere.

* `Pattern.Prefers`: which cursor the first way to match leads to; `Pattern.match?_of_prefers`.
* `Pattern.prefers_seq`, `Pattern.prefers_opt`, `Pattern.prefers_group`, …: the way of a pattern from
  the ways of its parts.
* `Pattern.prefers_many`, `Pattern.prefers_few`: a run as long as possible, and one as short as what
  follows allows.
* `Pattern.Accepted`: the characters of a run, each accepted together with what follows it;
  `Pattern.mem_leaves_run_iff`.
-/

namespace Daybook.Pattern

variable {γ : Type}

/-- Whether the first way to match at a cursor leads to another one. -/
def Prefers (p : Pattern γ) (c c' : Cursor γ) : Prop :=
  (p.outcomes c).head? = some c'

section

variable {p q r : Pattern γ} {c m c' : Cursor γ}

/-- **The match takes the preferred way.** -/
theorem match?_of_prefers {text : List Char} (h : p.Prefers ⟨0, text, []⟩ c) :
    p.match? text = some ⟨text, 0, c.pos, c.spans⟩ := by
  obtain ⟨others, hothers⟩ := List.head?_eq_some_iff.mp h
  rw [match?, matchAt?, scan_eq_findSome?, hothers]
  rfl

/-- There is no way to match where nothing is left. -/
theorem outcomes_eq_nil_iff : p.outcomes c = [] ↔ p.leaves c.rest = [] := by
  rw [← map_rest_outcomes, List.map_eq_nil_iff]

theorem prefers_one (ok : Char → Bool) {x : Char} {xs : List Char} (hx : ok x = true) (pos : Nat)
    (spans : List (Span γ)) :
    (one ok).Prefers ⟨pos, x :: xs, spans⟩ ⟨pos + 1, xs, spans⟩ := by
  simp [Prefers, outcomes, hx]

theorem prefers_look {test : List Char → Bool} (h : test c.rest = true) :
    (look test).Prefers c c := by
  simp [Prefers, outcomes, h]

theorem prefers_atEnd (pos : Nat) (spans : List (Span γ)) :
    (atEnd : Pattern γ).Prefers ⟨pos, [], spans⟩ ⟨pos, [], spans⟩ :=
  prefers_look rfl

theorem prefers_seq (hp : p.Prefers c m) (hq : q.Prefers m c') : (seq p q).Prefers c c' := by
  obtain ⟨others, hothers⟩ := List.head?_eq_some_iff.mp hp
  rw [Prefers, outcomes_seq, hothers, List.flatMap_cons, List.head?_append, hq, Option.some_or]

theorem prefers_group (label : γ) (h : p.Prefers c c') :
    (group label p).Prefers c (record label c c') := by
  rw [Prefers, outcomes_group, List.head?_map, h, Option.map_some]

/-- The first of two alternatives is preferred. -/
theorem prefers_either_left (h : p.Prefers c c') : (either p q).Prefers c c' := by
  rw [Prefers, outcomes_either, List.head?_append, h, Option.some_or]

/-- The second alternative is taken where the first leads nowhere. -/
theorem prefers_either_right (hp : p.leaves c.rest = []) (hq : q.Prefers c c') :
    (either p q).Prefers c c' := by
  rw [Prefers, outcomes_either, outcomes_eq_nil_iff.mpr hp, List.nil_append]
  exact hq

/-- Alternatives in front are tried together with what stands behind them. -/
theorem outcomes_seq_either (p q r : Pattern γ) (c : Cursor γ) :
    (seq (either p q) r).outcomes c = (either (seq p r) (seq q r)).outcomes c := by
  rw [outcomes_seq, outcomes_either, List.flatMap_append]
  rfl

theorem outcomes_nothing_seq (r : Pattern γ) (c : Cursor γ) :
    (seq nothing r).outcomes c = r.outcomes c :=
  List.flatMap_singleton _ _

/-- What can be there is preferred, if what follows can be read behind it. -/
theorem prefers_opt (h : (seq p r).Prefers c c') : (seq (opt p) r).Prefers c c' := by
  rw [Prefers, opt, outcomes_seq_either]
  exact prefers_either_left h

/-- What cannot be there is left out. -/
theorem prefers_opt_none (hp : (seq p r).leaves c.rest = []) (hr : r.Prefers c c') :
    (seq (opt p) r).Prefers c c' := by
  rw [Prefers, opt, outcomes_seq_either]
  refine prefers_either_right hp ?_
  rw [Prefers, outcomes_nothing_seq]
  exact hr

/-- How patterns in a row are put in pairs makes no difference. -/
theorem prefers_assoc (h : (seq p (seq q r)).Prefers c c') : (seq (seq p q) r).Prefers c c' := by
  have houtcomes : (seq (seq p q) r).outcomes c = (seq p (seq q r)).outcomes c := by
    exact List.flatMap_assoc
  rw [Prefers, houtcomes]
  exact h

/-- What can be there is left out only if the rest cannot be read behind it. -/
theorem scan_seq_opt {β : Type} (k : Cursor γ → Option β) :
    (seq (opt p) r).scan c k = ((seq p r).scan c k).or (r.scan c k) := by
  rw [scan_eq_findSome?, scan_eq_findSome?, scan_eq_findSome?, opt, outcomes_seq_either,
    outcomes_either, List.findSome?_append, outcomes_nothing_seq]

theorem leaves_seq_either (p q r : Pattern γ) (cs : List Char) :
    (seq (either p q) r).leaves cs = (seq p r).leaves cs ++ (seq q r).leaves cs := by
  rw [leaves_seq, leaves_either, List.flatMap_append]
  rfl

theorem leaves_seq_opt (p r : Pattern γ) (cs : List Char) :
    (seq (opt p) r).leaves cs = (seq p r).leaves cs ++ r.leaves cs := by
  rw [opt, leaves_seq_either]
  exact congrArg ((seq p r).leaves cs ++ ·) (List.flatMap_singleton _ _)

theorem leaves_seq_opt_eq_nil {cs : List Char} (hp : (seq p r).leaves cs = [])
    (hr : r.leaves cs = []) : (seq (opt p) r).leaves cs = [] :=
  (leaves_seq_opt p r cs).trans (List.append_eq_nil_iff.mpr ⟨hp, hr⟩)

theorem leaves_seq_eq_nil_iff {cs : List Char} :
    (seq p q).leaves cs = [] ↔ ∀ rest ∈ p.leaves cs, q.leaves rest = [] := by
  rw [leaves_seq, List.flatMap_eq_nil_iff]

end

/-! ## Runs -/

/-- Whether every character of a run is accepted together with what follows it; `rest` follows the
run. -/
def Accepted (ok : Char → List Char → Bool) : List Char → List Char → Prop
  | [], _ => True
  | x :: xs, rest => ok x (xs ++ rest) = true ∧ Accepted ok xs rest

instance decidableAccepted (ok : Char → List Char → Bool) :
    ∀ taken rest, Decidable (Accepted ok taken rest)
  | [], _ => inferInstanceAs (Decidable True)
  | _ :: xs, rest =>
    have := decidableAccepted ok xs rest
    inferInstanceAs (Decidable (_ ∧ _))

theorem accepted_class {ok : Char → Bool} {taken rest : List Char} :
    Accepted (fun x _ => ok x) taken rest ↔ ∀ x ∈ taken, ok x = true := by
  induction taken with
  | nil => simp [Accepted]
  | cons x xs ih => rw [Accepted, ih, List.forall_mem_cons]

/-- Whether a run stops in front of a text. -/
def Stops (ok : Char → List Char → Bool) : List Char → Prop
  | [] => True
  | x :: xs => ok x xs = false

theorem stops_class {ok : Char → Bool} {rest : List Char} :
    Stops (fun x _ => ok x) rest ↔ ∀ x ∈ rest.head?, ok x = false := by
  cases rest with
  | nil => simp [Stops]
  | cons x xs => simp [Stops]

section

variable {ok : Char → List Char → Bool} {taken rest : List Char}

/-- The places that a run can end at, down to the last one. -/
theorem exists_reach_eq_append {most : Option Nat} (h : Accepted ok taken rest)
    (hstop : Stops ok rest) (hmost : ∀ n ∈ most, taken.length ≤ n) (pos : Nat) :
    ∃ nearer, nearer.length = taken.length ∧
      reach ok most pos (taken ++ rest) = nearer ++ [(pos + taken.length, rest)] := by
  induction taken generalizing most pos with
  | nil =>
    refine ⟨[], rfl, ?_⟩
    cases rest with
    | nil => rfl
    | cons x xs =>
      have hno : ¬(most ≠ some 0 ∧ ok x xs = true) := fun h => by
        rw [show ok x xs = false from hstop] at h
        cases h.2
      rw [List.nil_append, reach_cons, if_neg hno]
      rfl
  | cons x xs ih =>
    obtain ⟨hx, hxs⟩ := h
    have hne : most ≠ some 0 := by
      rintro rfl
      exact Nat.not_succ_le_zero _ (hmost 0 rfl)
    have hless : ∀ n ∈ most.map (· - 1), xs.length ≤ n := by
      intro n hn
      obtain ⟨m, hm, rfl⟩ := Option.map_eq_some_iff.mp hn
      exact Nat.le_sub_one_of_lt (hmost m hm)
    obtain ⟨nearer, hlength, hreach⟩ := ih hxs hless (pos + 1)
    refine ⟨(pos, x :: xs ++ rest) :: nearer, by rw [List.length_cons, hlength]; rfl, ?_⟩
    have hgo : most ≠ some 0 ∧ ok x (xs ++ rest) = true := ⟨hne, hx⟩
    rw [List.cons_append, reach_cons, if_pos hgo, hreach, List.length_cons,
      List.cons_append, Nat.add_right_comm, Nat.add_assoc]

/-- **A run that prefers to be long** goes on up to where it stops. -/
theorem prefers_run_most {least : Nat} {most : Option Nat} (h : Accepted ok taken rest)
    (hstop : Stops ok rest) (hleast : least ≤ taken.length) (hmost : ∀ n ∈ most, taken.length ≤ n)
    (pos : Nat) (spans : List (Span γ)) :
    (run ok least most .longest).Prefers ⟨pos, taken ++ rest, spans⟩
      ⟨pos + taken.length, rest, spans⟩ := by
  obtain ⟨nearer, hlength, hreach⟩ := exists_reach_eq_append h hstop hmost pos
  rw [Prefers, outcomes, runEnds, hreach, List.drop_append_of_le_length (hlength ▸ hleast),
    List.map_append]
  simp

theorem prefers_run {least : Nat} (h : Accepted ok taken rest) (hstop : Stops ok rest)
    (hleast : least ≤ taken.length) (pos : Nat) (spans : List (Span γ)) :
    (run ok least none .longest).Prefers ⟨pos, taken ++ rest, spans⟩
      ⟨pos + taken.length, rest, spans⟩ :=
  prefers_run_most h hstop hleast (by simp) pos spans

/-- A run of one class goes on up to the first other character. -/
theorem prefers_many {ok : Char → Bool} {least : Nat} (h : ∀ x ∈ taken, ok x = true)
    (hstop : ∀ x ∈ rest.head?, ok x = false) (hleast : least ≤ taken.length) (pos : Nat)
    (spans : List (Span γ)) :
    (many ok least).Prefers ⟨pos, taken ++ rest, spans⟩ ⟨pos + taken.length, rest, spans⟩ :=
  prefers_run (accepted_class.mpr h) (stops_class.mpr hstop) hleast pos spans

/-- A run of one class that finds none of its characters. -/
theorem prefers_many_none {ok : Char → Bool} (hstop : ∀ x ∈ rest.head?, ok x = false) (pos : Nat)
    (spans : List (Span γ)) :
    (many ok 0).Prefers ⟨pos, rest, spans⟩ ⟨pos, rest, spans⟩ :=
  have hnone : ∀ x ∈ [], ok x = true := nofun
  prefers_many hnone hstop (Nat.le_refl 0) pos spans

theorem getElem?_reach_of_accepted (h : Accepted ok taken rest) (pos : Nat) :
    (reach ok none pos (taken ++ rest))[taken.length]? = some (pos + taken.length, rest) := by
  induction taken generalizing pos with
  | nil => cases rest <;> rfl
  | cons x xs ih =>
    have hgo : (none : Option Nat) ≠ some 0 ∧ ok x (xs ++ rest) = true := ⟨by simp, h.1⟩
    rw [List.cons_append, reach_cons, if_pos hgo, List.length_cons, List.getElem?_cons_succ,
      Option.map_none, ih h.2, Nat.add_right_comm, Nat.add_assoc]

theorem accepted_of_getElem?_reach {cs : List Char} {pos i : Nat} {e : Nat × List Char}
    (h : (reach ok none pos cs)[i]? = some e) :
    i ≤ cs.length ∧ e.2 = cs.drop i ∧ Accepted ok (cs.take i) (cs.drop i) := by
  induction cs generalizing pos i with
  | nil =>
    cases i with
    | zero =>
      cases h
      exact ⟨Nat.le_refl 0, rfl, trivial⟩
    | succ i => cases h
  | cons x xs ih =>
    cases i with
    | zero =>
      cases h
      exact ⟨Nat.zero_le _, rfl, trivial⟩
    | succ i =>
      rw [reach_cons, List.getElem?_cons_succ] at h
      split at h
      · rename_i hgo
        obtain ⟨hi, he, haccepted⟩ := ih h
        refine ⟨Nat.succ_le_succ hi, he, ?_, haccepted⟩
        rw [List.drop_succ_cons, List.take_append_drop]
        exact hgo.2
      · cases h

/-- **What a run leaves.** -/
theorem mem_leaves_run_iff {least : Nat} {prefer : Preference} {cs : List Char} :
    rest ∈ (run ok least none prefer : Pattern γ).leaves cs ↔
      ∃ taken, cs = taken ++ rest ∧ least ≤ taken.length ∧ Accepted ok taken rest := by
  have hmem : rest ∈ (run ok least none prefer : Pattern γ).leaves cs ↔
      rest ∈ ((reach ok none 0 cs).drop least).map (·.2) := by
    cases prefer with
    | longest => exact List.mem_reverse
    | shortest => exact Iff.rfl
  rw [hmem, List.mem_map]
  constructor
  · rintro ⟨e, he, rfl⟩
    obtain ⟨i, hi⟩ := List.getElem?_of_mem he
    rw [List.getElem?_drop] at hi
    obtain ⟨hlength, hrest, haccepted⟩ := accepted_of_getElem?_reach hi
    rw [hrest]
    exact ⟨cs.take (least + i), (List.take_append_drop _ _).symm,
      by rw [List.length_take]; omega, haccepted⟩
  · rintro ⟨taken, rfl, hleast, haccepted⟩
    have hreach := getElem?_reach_of_accepted haccepted 0
    rw [← Nat.add_sub_cancel' hleast, ← List.getElem?_drop] at hreach
    exact ⟨_, List.mem_of_getElem? hreach, rfl⟩

end

/-! ## Runs that are as short as possible -/

/-- **A run that prefers to be short** goes on as long as nothing else can follow it. -/
theorem prefers_few {ok : Char → Bool} {q : Pattern γ} (label : γ) {taken rest : List Char}
    (h : ∀ x ∈ taken, ok x = true)
    (hlonger : ∀ before after, taken = before ++ after → after ≠ [] →
      q.leaves (after ++ rest) = [])
    (pos : Nat) (spans : List (Span γ)) {c' : Cursor γ}
    (hq : q.Prefers ⟨pos + taken.length, rest, ⟨label, pos, pos + taken.length⟩ :: spans⟩ c') :
    (seq (group label (few ok)) q).Prefers ⟨pos, taken ++ rest, spans⟩ c' := by
  -- the ways are tried from the empty text on; `done` has been tried
  have hways : ∀ (todo done : List Char), taken = done ++ todo →
      ((((reach (fun x _ => ok x) none (pos + done.length) (todo ++ rest)).map
        fun e => (⟨e.1, e.2, spans⟩ : Cursor γ)).map
          (record label ⟨pos, taken ++ rest, spans⟩)).flatMap q.outcomes).head? = some c' := by
    intro todo
    induction todo with
    | nil =>
      intro done hdone
      rw [List.append_nil] at hdone
      subst hdone
      have hfirst : ∃ others, reach (fun x _ => ok x) none (pos + taken.length) ([] ++ rest) =
          (pos + taken.length, rest) :: others := by
        cases rest with
        | nil => exact ⟨[], rfl⟩
        | cons x xs => exact ⟨_, rfl⟩
      obtain ⟨others, hothers⟩ := hfirst
      rw [hothers, List.map_cons, List.map_cons, List.flatMap_cons, List.head?_append, record, hq,
        Option.some_or]
    | cons x xs ih =>
      intro done hdone
      have hx : ok x = true := h x (by rw [hdone]; simp)
      have hgo : (none : Option Nat) ≠ some 0 ∧ ok x = true := ⟨by simp, hx⟩
      have hnone : q.outcomes (record label ⟨pos, taken ++ rest, spans⟩
          ⟨pos + done.length, x :: (xs ++ rest), spans⟩) = [] :=
        outcomes_eq_nil_iff.mpr (hlonger done (x :: xs) hdone (List.cons_ne_nil x xs))
      rw [List.cons_append, reach_cons, if_pos hgo, List.map_cons, List.map_cons, List.flatMap_cons,
        hnone, List.nil_append, Option.map_none]
      have hnext := ih (done ++ [x]) (by rw [hdone, List.append_assoc]; rfl)
      rw [List.length_append, List.length_singleton, ← Nat.add_assoc] at hnext
      exact hnext
  exact hways taken [] rfl

/-! ## Where fields stand -/

/-- A piece of a text that was put together. -/
theorem slice_append (before cs after : List Char) :
    Match.slice (before ++ (cs ++ after)) before.length (before.length + cs.length) = cs :=
  slice_drop List.drop_left

end Daybook.Pattern
