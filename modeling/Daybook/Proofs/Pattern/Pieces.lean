import Daybook.Proofs.Pattern.First
import Daybook.Proofs.Text.Trim

/-!
# Texts that are put together

A text that is put together piece by piece is taken apart at the same places, if each part of the
pattern takes its piece in front of the pieces that follow.  What a match records is then known
without a look at positions: every labelled piece under its label, where it stands.

* `Piece`, `Piece.text`, `Piece.spans`: the pieces of a text, and where the labelled ones stand.
* `Piece.span?_found`, `Piece.text?_found`: what is recorded under a label.
* `Pattern.TakesAll`: whether a pattern can take a text as a whole.
* `Pattern.Takes`: whether a pattern takes a text in these pieces; `Pattern.match?_of_takes`.
* `Pattern.takes_seq_group`, `Pattern.takes_opt`, `Pattern.takes_few`, …: the pieces of a pattern from
  those of its parts.
* `Pattern.Blocks`: whether a pattern can be read nowhere inside a text, which is what keeps a run
  that prefers to be short going.
* `Pattern.StartsWith`: whether a pattern reads only what starts with certain characters.
-/

namespace Daybook

/-- A piece of a text and the label that it is recorded under, if it is recorded. -/
structure Piece (γ : Type) where
  label : Option γ
  chars : List Char

namespace Piece

variable {γ β : Type}

/-- The text that is put together from pieces. -/
def text (ps : List (Piece γ)) : List Char :=
  ps.flatMap Piece.chars

/-- The labelled pieces of a text that starts at position `pos`, from left to right. -/
def spans (pos : Nat) : List (Piece γ) → List (Span γ)
  | [] => []
  | p :: ps =>
    (p.label.toList.map fun label => ⟨label, pos, pos + p.chars.length⟩) ++
      spans (pos + p.chars.length) ps

/-- What is made of the labelled pieces of a text that starts at position `pos`: each of them gives
`read` its label, its characters and its position. -/
def readings (read : γ → List Char → Nat → List β) (pos : Nat) : List (Piece γ) → List β
  | [] => []
  | p :: ps =>
    (p.label.toList.flatMap fun label => read label p.chars pos) ++
      readings read (pos + p.chars.length) ps

@[simp]
theorem text_cons (p : Piece γ) (ps : List (Piece γ)) : text (p :: ps) = p.chars ++ text ps :=
  rfl

/-- **The fields of a text are its labelled pieces.** -/
theorem flatMap_spans (read : γ → List Char → Nat → List β) (before : List Char)
    (ps : List (Piece γ)) :
    (spans before.length ps).flatMap (fun s =>
        read s.label (Match.slice (before ++ text ps) s.start s.stop) s.start) =
      readings read before.length ps := by
  induction ps generalizing before with
  | nil => rfl
  | cons p ps ih =>
    have hslice : Match.slice (before ++ text (p :: ps)) before.length
        (before.length + p.chars.length) = p.chars := Pattern.slice_append _ _ _
    have hrest := ih (before ++ p.chars)
    rw [List.length_append, List.append_assoc] at hrest
    rw [spans, readings, List.flatMap_append, text_cons, hrest]
    congr 1
    cases p.label with
    | none => rfl
    | some label => simpa using congrArg (read label · before.length) hslice

/-! ### What is recorded of pieces -/

theorem text_append (ps qs : List (Piece γ)) : text (ps ++ qs) = text ps ++ text qs :=
  List.flatMap_append

theorem spans_append (pos : Nat) (ps qs : List (Piece γ)) :
    spans pos (ps ++ qs) = spans pos ps ++ spans (pos + (text ps).length) qs := by
  induction ps generalizing pos with
  | nil => rfl
  | cons p ps ih =>
    rw [List.cons_append, spans, spans, ih, List.append_assoc, text_cons, List.length_append,
      Nat.add_assoc]

theorem exists_label_of_mem_spans {pos : Nat} {ps : List (Piece γ)} {s : Span γ}
    (h : s ∈ spans pos ps) : ∃ p ∈ ps, p.label = some s.label := by
  induction ps generalizing pos with
  | nil => cases h
  | cons p ps ih =>
    rcases List.mem_append.mp h with h | h
    · obtain ⟨label, hlabel, rfl⟩ := List.mem_map.mp h
      exact ⟨p, List.mem_cons_self, Option.mem_toList.mp hlabel⟩
    · obtain ⟨q, hq, hlabel⟩ := ih h
      exact ⟨q, List.mem_cons_of_mem p hq, hlabel⟩

/-- The match of a text that was put together. -/
def found (ps : List (Piece γ)) : Match γ :=
  ⟨text ps, 0, (text ps).length, (spans 0 ps).reverse⟩

section Found

variable [DecidableEq γ] {label : γ}

theorem find?_spans_eq_none {pos : Nat} {ps : List (Piece γ)} (h : ∀ p ∈ ps, p.label ≠ some label) :
    (spans pos ps).reverse.find? (fun s => s.label = label) = none := by
  refine List.find?_eq_none.mpr fun s hs hlabel => ?_
  obtain ⟨p, hp, hsome⟩ := exists_label_of_mem_spans (List.mem_reverse.mp hs)
  exact h p hp (hsome.trans (congrArg some (of_decide_eq_true hlabel)))

/-- **The piece with a label**, if none behind it has the same one. -/
theorem span?_found (ps : List (Piece γ)) (cs : List Char) {qs : List (Piece γ)}
    (h : ∀ q ∈ qs, q.label ≠ some label) :
    (found (ps ++ ⟨some label, cs⟩ :: qs)).span? label =
      some ⟨label, (text ps).length, (text ps).length + cs.length⟩ := by
  rw [Match.span?, found, spans_append, List.reverse_append, spans, List.reverse_append,
    List.append_assoc, List.find?_append, find?_spans_eq_none h, Nat.zero_add]
  simp

theorem text?_found (ps : List (Piece γ)) (cs : List Char) {qs : List (Piece γ)}
    (h : ∀ q ∈ qs, q.label ≠ some label) :
    (found (ps ++ ⟨some label, cs⟩ :: qs)).text? label = some cs := by
  rw [Match.text?, span?_found ps cs h, Option.map_some, found, text_append, text_cons]
  exact congrArg some (Pattern.slice_append _ _ _)

theorem span?_found_eq_none {ps : List (Piece γ)} (h : ∀ p ∈ ps, p.label ≠ some label) :
    (found ps).span? label = none :=
  find?_spans_eq_none h

theorem text?_found_eq_none {ps : List (Piece γ)} (h : ∀ p ∈ ps, p.label ≠ some label) :
    (found ps).text? label = none := by
  rw [Match.text?, span?_found_eq_none h, Option.map_none]

end Found

end Piece

namespace Pattern

variable {γ : Type}

open Piece (text spans)

/-- Whether the first way to match takes `cs` in front of `rest` and records nothing. -/
def TakesText (p : Pattern γ) (cs rest : List Char) : Prop :=
  ∀ pos recorded, p.Prefers ⟨pos, cs ++ rest, recorded⟩ ⟨pos + cs.length, rest, recorded⟩

/-- Whether a pattern can take a text as a whole. -/
def TakesAll (p : Pattern γ) (cs : List Char) : Prop :=
  [] ∈ p.leaves cs

instance {p : Pattern γ} {cs : List Char} : Decidable (p.TakesAll cs) :=
  inferInstanceAs (Decidable ([] ∈ p.leaves cs))

/-- Whether the first way to match takes a text that was put together, and records its pieces. -/
def Takes (p : Pattern γ) (ps : List (Piece γ)) : Prop :=
  ∀ pos recorded, p.Prefers ⟨pos, text ps, recorded⟩
    ⟨pos + (text ps).length, [], (spans pos ps).reverse ++ recorded⟩

/-- Whether a pattern reads nothing from any place inside `cs` on, where `rest` follows `cs`. -/
def Blocks (p : Pattern γ) (cs rest : List Char) : Prop :=
  ∀ after, after <:+ cs → after ≠ [] → p.leaves (after ++ rest) = []

/-- Whether a pattern reads only what starts with a character of a class. -/
structure StartsWith (p : Pattern γ) (ok : Char → Bool) : Prop where
  nil : p.leaves [] = []
  cons : ∀ x xs, ok x = false → p.leaves (x :: xs) = []

section Takes

variable {p q r : Pattern γ} {ps : List (Piece γ)} {cs rest : List Char} {label : γ}

theorem TakesAll.fits (h : p.TakesAll cs) : ∃ fs, p.Fits cs fs := by
  obtain ⟨taken, fs, hfits, hcs⟩ := exists_fits_of_mem_leaves h
  rw [hcs, List.append_nil]
  exact ⟨fs, hfits⟩

/-- What the first way to match leaves is one of the texts that can be left. -/
theorem TakesText.mem_leaves (h : p.TakesText cs rest) : rest ∈ p.leaves (cs ++ rest) :=
  mem_leaves_of_mem_outcomes (List.mem_of_head? (h 0 []))

/-- **The match of a text that was put together.** -/
theorem match?_of_takes (h : p.Takes ps) :
    p.match? (text ps) = some ⟨text ps, 0, (text ps).length, (spans 0 ps).reverse⟩ := by
  have hway := h 0 []
  rw [List.append_nil, Nat.zero_add] at hway
  exact match?_of_prefers hway

theorem takesText_one {ok : Char → Bool} {x : Char} (hx : ok x = true) :
    (one ok : Pattern γ).TakesText [x] rest :=
  fun pos recorded => prefers_one ok hx pos recorded

theorem takesText_many {ok : Char → Bool} {least : Nat} (h : ∀ x ∈ cs, ok x = true)
    (hstop : ∀ x ∈ rest.head?, ok x = false) (hleast : least ≤ cs.length) :
    (many ok least : Pattern γ).TakesText cs rest :=
  fun pos recorded => prefers_many h hstop hleast pos recorded

theorem takesText_between {ok : Char → Bool} {least most : Nat} (h : ∀ x ∈ cs, ok x = true)
    (hstop : ∀ x ∈ rest.head?, ok x = false) (hleast : least ≤ cs.length) (hmost : cs.length ≤ most) :
    (between ok least most : Pattern γ).TakesText cs rest := by
  have hbound : ∀ n ∈ some most, cs.length ≤ n := by
    rintro n ⟨⟩
    exact hmost
  exact fun pos recorded =>
    prefers_run_most (accepted_class.mpr h) (stops_class.mpr hstop) hleast hbound pos recorded

theorem takesText_seq {s t : List Char} (hp : p.TakesText s (t ++ rest))
    (hq : q.TakesText t rest) : (seq p q).TakesText (s ++ t) rest := by
  intro pos recorded
  rw [List.append_assoc, List.length_append, ← Nat.add_assoc]
  exact prefers_seq (hp pos recorded) (hq _ recorded)

/-- Behind a run, a run of a wider class takes the rest of what the wider class takes. -/
theorem takesText_many_seq_many {inner outer : Char → Bool} {least : Nat}
    (hwider : ∀ x, inner x = true → outer x = true) (h : ∀ x ∈ cs, outer x = true)
    (hstop : ∀ x ∈ rest.head?, outer x = false) (hleast : least ≤ (cs.takeWhile inner).length) :
    (seq (many inner least) (many outer 0) : Pattern γ).TakesText cs rest := by
  have hinner : ∀ x ∈ (cs.dropWhile inner ++ rest).head?, inner x = false := by
    intro x hx
    cases hcs : cs.dropWhile inner with
    | nil =>
      rw [hcs] at hx
      exact Bool.eq_false_iff.mpr fun hx' => Bool.eq_false_iff.mp (hstop x hx) (hwider x hx')
    | cons y ys => exact Text.head_dropWhile inner cs x (by rwa [hcs] at hx ⊢)
  have hway := takesText_seq
    (takesText_many (γ := γ) (fun x hx => List.mem_takeWhile_imp hx) hinner hleast)
    (takesText_many (fun x hx => h x ((List.dropWhile_suffix _).subset hx)) hstop (Nat.zero_le _))
  rwa [List.takeWhile_append_dropWhile] at hway

theorem takesText_either_left (h : p.TakesText cs rest) : (either p q).TakesText cs rest :=
  fun pos recorded => prefers_either_left (h pos recorded)

theorem takesText_either_right (hp : p.leaves (cs ++ rest) = []) (hq : q.TakesText cs rest) :
    (either p q).TakesText cs rest :=
  fun pos recorded => prefers_either_right hp (hq pos recorded)

theorem takesText_either_seq :
    (seq (either p q) r).TakesText cs rest ↔ (either (seq p r) (seq q r)).TakesText cs rest := by
  simp only [TakesText, Prefers, outcomes, List.flatMap_append]

/-- What is not there is passed over. -/
theorem takesText_opt_none (hp : p.leaves rest = []) : (opt p).TakesText [] rest :=
  fun _ _ => prefers_either_right hp rfl

theorem takesText_look {test : List Char → Bool} (h : test rest = true) :
    (look test : Pattern γ).TakesText [] rest :=
  fun _ _ => prefers_look h

theorem takes_atEnd : (atEnd : Pattern γ).Takes [] :=
  fun pos recorded => prefers_atEnd pos recorded

/-- A pattern that records nothing takes a piece without a label. -/
theorem takes_seq (hp : p.TakesText cs (text ps)) (hq : q.Takes ps) :
    (seq p q).Takes (⟨none, cs⟩ :: ps) := by
  intro pos recorded
  rw [Piece.text_cons, List.length_append, ← Nat.add_assoc]
  exact prefers_seq (hp pos recorded) (hq _ recorded)

/-- A pattern that takes nothing can stand in front. -/
theorem takes_seq_none (hp : p.TakesText [] (text ps)) (hq : q.Takes ps) :
    (seq p q).Takes ps :=
  fun pos recorded => prefers_seq (hp pos recorded) (hq pos recorded)

/-- A group takes a piece with its label. -/
theorem takes_seq_group (hp : p.TakesText cs (text ps)) (hq : q.Takes ps) :
    (seq (group label p) q).Takes (⟨some label, cs⟩ :: ps) := by
  intro pos recorded
  have hway := prefers_seq (prefers_group label (hp pos recorded)) (hq _ _)
  rw [Piece.text_cons, List.length_append, ← Nat.add_assoc, spans, List.reverse_append,
    List.append_assoc]
  exact hway

theorem takes_opt (h : (seq p r).Takes ps) : (seq (opt p) r).Takes ps :=
  fun pos recorded => prefers_opt (h pos recorded)

theorem takes_opt_none (hp : (seq p r).leaves (text ps) = []) (hr : r.Takes ps) :
    (seq (opt p) r).Takes ps :=
  fun pos recorded => prefers_opt_none hp (hr pos recorded)

/-- What a pattern takes depends on its outcomes alone. -/
theorem takes_congr (h : ∀ c, p.outcomes c = q.outcomes c) : p.Takes ps ↔ q.Takes ps := by
  simp only [Takes, Prefers, h]

/-- How patterns in a row are put in pairs makes no difference. -/
theorem takes_assoc : (seq (seq p q) r).Takes ps ↔ (seq p (seq q r)).Takes ps :=
  takes_congr fun _ => List.flatMap_assoc

/-- **A run that prefers to be short** takes all of a text in which the pattern behind it is blocked. -/
theorem takes_few {ok : Char → Bool} (h : ∀ x ∈ cs, ok x = true)
    (hblocks : q.Blocks cs (text ps)) (hq : q.Takes ps) :
    (seq (group label (few ok)) q).Takes (⟨some label, cs⟩ :: ps) := by
  intro pos recorded
  have hway := prefers_few label h (fun before after hsplit hne =>
    hblocks after ⟨before, hsplit.symm⟩ hne) pos recorded (hq _ _)
  rw [Piece.text_cons, List.length_append, ← Nat.add_assoc, spans, List.reverse_append,
    List.append_assoc]
  exact hway

end Takes

section StartsWith

variable {p q : Pattern γ} {ok : Char → Bool}

theorem startsWith_one (ok : Char → Bool) : (one ok : Pattern γ).StartsWith ok where
  nil := rfl
  cons x xs hx := if_neg (by rw [hx]; decide)

theorem StartsWith.seq (h : p.StartsWith ok) (q : Pattern γ) : (seq p q).StartsWith ok where
  nil := leaves_seq_of_eq_nil h.nil
  cons x xs hx := leaves_seq_of_eq_nil (h.cons x xs hx)

theorem StartsWith.group (h : p.StartsWith ok) (label : γ) : (group label p).StartsWith ok :=
  ⟨h.nil, h.cons⟩

/-- Behind a run nothing is read that does not start with what comes after the run. -/
theorem StartsWith.leaves_many_seq (h : p.StartsWith ok) {run : Char → Bool} {least : Nat}
    {cs : List Char} (hrun : ∀ x, run x = true → ok x = false)
    (hnext : ∀ x ∈ (cs.dropWhile run).head?, ok x = false) :
    (Pattern.seq (many run least) p).leaves cs = [] := by
  refine leaves_seq_eq_nil_iff.mpr fun rest hrest => ?_
  obtain ⟨taken, rfl, -, htaken⟩ := mem_leaves_run_iff.mp hrest
  cases rest with
  | nil => exact h.nil
  | cons x xs =>
    refine h.cons x xs ?_
    by_cases hx : run x = true
    · exact hrun x hx
    · rw [List.dropWhile_append_of_pos (accepted_class.mp htaken),
        List.dropWhile_cons_of_neg hx] at hnext
      exact hnext x rfl

end StartsWith

section Blocks

variable {p q r : Pattern γ} {cs rest : List Char}

theorem Blocks.seq (h : p.Blocks cs rest) : (seq p q).Blocks cs rest :=
  fun after hafter hne => leaves_seq_of_eq_nil (h after hafter hne)

theorem Blocks.group (h : p.Blocks cs rest) (label : γ) : (group label p).Blocks cs rest :=
  h

theorem Blocks.seq_opt (hp : (Pattern.seq p r).Blocks cs rest) (hr : r.Blocks cs rest) :
    (Pattern.seq (opt p) r).Blocks cs rest :=
  fun after hafter hne => leaves_seq_opt_eq_nil (hp after hafter hne) (hr after hafter hne)

theorem blocks_one {ok : Char → Bool} (h : ∀ x ∈ cs, ok x = false) :
    (one ok : Pattern γ).Blocks cs rest := by
  intro after hafter hne
  obtain ⟨x, xs, rfl⟩ := List.exists_cons_of_ne_nil hne
  refine if_neg ?_
  rw [h x (hafter.subset List.mem_cons_self)]
  decide

/-- In front of what is blocked, a run gets no further than the last character that is not its own. -/
theorem blocks_many_seq {ok : Char → Bool} {least : Nat} (hlast : ∀ x ∈ cs.getLast?, ok x = false)
    (hq : q.Blocks cs rest) : (Pattern.seq (many ok least) q).Blocks cs rest := by
  intro after hafter hne
  refine leaves_seq_eq_nil_iff.mpr fun left hleft => ?_
  obtain ⟨taken, hsplit, -, htaken⟩ := mem_leaves_run_iff.mp hleft
  have hend : ¬∀ x ∈ after, ok x = true := by
    obtain ⟨before, rfl⟩ := hafter
    intro hall
    have hx := List.getLast?_eq_some_getLast hne
    have hno := hlast _ (by rwa [List.getLast?_append_of_ne_nil _ hne])
    rw [hall _ (List.mem_of_mem_getLast? hx)] at hno
    cases hno
  rcases List.append_eq_append_iff.mp hsplit with ⟨between, rfl, -⟩ | ⟨inner, rfl, rfl⟩
  · exact absurd (fun x hx => accepted_class.mp htaken x (List.mem_append_left _ hx)) hend
  · refine hq inner ((List.suffix_append taken inner).trans hafter) ?_
    rintro rfl
    rw [List.append_nil] at hend
    exact hend (accepted_class.mp htaken)

/-- Inside a text that does not end with a line break no text ends. -/
theorem blocks_atEnd (hlast : ∀ x ∈ cs.getLast?, x ≠ '\n') :
    (atEnd : Pattern γ).Blocks cs rest := by
  intro after hafter hne
  refine if_neg fun hend => ?_
  obtain ⟨before, rfl⟩ := hafter
  obtain ⟨x, xs, rfl⟩ := List.exists_cons_of_ne_nil hne
  have hbreak : x = '\n' ∧ xs = [] := by
    have hall : (x = '\n' ∧ xs = []) ∧ rest = [] := by simpa [and_assoc] using hend
    exact hall.1
  obtain ⟨rfl, rfl⟩ := hbreak
  exact hlast '\n' (by rw [List.getLast?_append_of_ne_nil _ hne]; rfl) rfl

end Blocks

end Pattern

end Daybook
