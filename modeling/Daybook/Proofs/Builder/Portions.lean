import Daybook.Proofs.Builder.Lines

/-!
# Building in portions

A build takes its tokens in portions of any size, and its text some lines at a time.  Where the cuts
are makes no difference: everything that a build carries over a cut is in its state.

* `Builder.outcome_forM_feed`: portions of tokens one after another do what all tokens at once do,
  wherever the cuts are.
* `Builder.outcome_feedPortions`: portions of lines do what all lines at once do, and report the
  number of lines after each (`Builder.portionEnds`).
* `Builder.flatten_portions`, `Builder.pairwise_portionEnds`, `Builder.getLast?_portionEnds`: the
  portions make up the lines, and the reports increase up to their number.
* `Builder.Pause.toEnd_eq`: a build with pauses comes to what it comes to without them.
* `Snapshot.ofTurns_eq_ofPortions`, `Snapshot.ofPortions_eq_ofText`: the snapshot of a text does not depend on the size of portions.
-/

namespace Daybook

open Journal

namespace Builder

open BuildM

/-! ## Portions of tokens -/

/-- Two steps that go on alike from every outcome of a third have the same outcomes after it. -/
theorem outcome_bind_congr {α β : Type} {m : BuildM α} {f g : α → BuildM β} {b : Builder}
    (h : ∀ a b', outcome m b = .ok (a, b') → outcome (f a) b' = outcome (g a) b') :
    outcome (m >>= f) b = outcome (m >>= g) b := by
  rw [outcome_bind, outcome_bind]
  cases hm : outcome m b with
  | error e => rfl
  | ok r => exact h r.1 r.2 hm

/-- **Cuts between tokens make no difference.**  The cuts may be anywhere, also inside a line or
inside a transaction. -/
theorem outcome_forM_feed (portions : List (List Token)) {b : Builder} (hb : b.finished = false) :
    outcome (portions.forM feed) b = outcome (feedTokens portions.flatten) b := by
  induction portions generalizing b with
  | nil => rfl
  | cons tokens rest ih =>
    rw [List.forM_eq_forM, List.forM_cons, List.flatten_cons, feedTokens_append, feed, bind_assoc,
      outcome_checkOpen _ hb]
    exact outcome_bind_congr fun _ b' h =>
      ih (reading_unfinished.keeps_feedTokens keeps_unfinished_directive tokens h hb)

/-! ## Portions of lines -/

/-- The number of lines after each portion. -/
def portionEnds (taken : Nat) : List (List (List Char)) → List Nat
  | [] => []
  | lines :: rest => (taken + lines.length) :: portionEnds (taken + lines.length) rest

/-- **Cuts between lines make no difference.**  Lines in portions do what they do at once, and the
number of lines is reported after each portion. -/
theorem outcome_feedPortions (taken : Nat) (portions : List (List (List Char))) {b : Builder}
    (hb : b.finished = false) :
    outcome (feedPortions taken portions) b =
      (outcome (feedLineTokens taken portions.flatten) b).map fun r =>
        (portionEnds taken portions, r.2) := by
  induction portions generalizing taken b with
  | nil => rfl
  | cons lines rest ih =>
    have hnow : ((taken + lines.length : Nat) : Int) = (taken : Int) + lines.length := by omega
    rw [feedPortions, feedLines, bind_assoc, outcome_checkOpen _ hb, List.flatten_cons,
      feedLineTokens_append, outcome_bind, outcome_bind]
    cases hlines : outcome (feedLineTokens taken lines) b with
    | error e => rfl
    | ok r =>
      have hr : r.2.finished = false :=
        reading_unfinished.keeps_feedLineTokens keeps_unfinished_directive _ _ hlines hb
      simp only [Except.bind, outcome_bind]
      rw [ih _ hr, hnow]
      cases outcome (feedLineTokens (taken + lines.length) rest.flatten) r.2 with
      | error e => rfl
      | ok r' => rfl

/-- The portions make up the lines. -/
theorem flatten_portions (size : Nat) (lines : List (List Char)) :
    (portions size lines).flatten = lines := by
  fun_induction portions size lines with
  | case1 => rfl
  | case2 line rest ih =>
    have hrest : rest.take (size - 1) ++ rest.drop (size - 1) = rest := List.take_append_drop ..
    rw [List.flatten_cons, ih, List.cons_append, hrest]

/-- No portion is empty. -/
theorem ne_nil_of_mem_portions {size : Nat} {lines portion : List (List Char)}
    (h : portion ∈ portions size lines) : portion ≠ [] := by
  fun_induction portions size lines with
  | case1 => cases h
  | case2 line rest ih =>
    rcases List.mem_cons.mp h with rfl | h
    · exact List.cons_ne_nil _ _
    · exact ih h

theorem lt_of_mem_portionEnds {taken n : Nat} {portions : List (List (List Char))}
    (hne : ∀ lines ∈ portions, lines ≠ []) (hn : n ∈ portionEnds taken portions) : taken < n := by
  induction portions generalizing taken with
  | nil => cases hn
  | cons lines rest ih =>
    have hpos : 0 < lines.length := List.length_pos_iff.mpr (hne lines List.mem_cons_self)
    rcases List.mem_cons.mp hn with rfl | hn
    · omega
    · have := ih (fun l hl => hne l (List.mem_cons_of_mem _ hl)) hn
      omega

/-- Reports about portions that are not empty increase. -/
theorem pairwise_portionEnds {taken : Nat} {portions : List (List (List Char))}
    (hne : ∀ lines ∈ portions, lines ≠ []) : (portionEnds taken portions).Pairwise (· < ·) := by
  induction portions generalizing taken with
  | nil => exact List.Pairwise.nil
  | cons lines rest ih =>
    have hrest : ∀ l ∈ rest, l ≠ [] := fun l hl => hne l (List.mem_cons_of_mem _ hl)
    exact List.pairwise_cons.mpr ⟨fun n hn => lt_of_mem_portionEnds hrest hn, ih hrest⟩

/-- The last report is about all lines. -/
theorem getLast?_portionEnds (taken : Nat) (lines : List (List Char))
    (rest : List (List (List Char))) :
    (portionEnds taken (lines :: rest)).getLast? =
      some (taken + (lines :: rest).flatten.length) := by
  induction rest generalizing taken lines with
  | nil => simp [portionEnds]
  | cons lines' rest ih =>
    rw [portionEnds, portionEnds, List.getLast?_cons_cons, ← portionEnds, ih]
    simp only [List.flatten_cons, List.length_append, Nat.add_assoc]

/-! ## Pauses -/

section

variable {p : Pause}

/-- Without portions to come, a build comes to its end. -/
theorem Pause.toEnd_of_nil (h : p.portions = []) :
    p.toEnd = (outcome finish p.builder).map (·.1) := by
  have hresume : p.resume = (outcome finish p.builder).map fun r => .inr r.1 := by
    rw [resume, h]
    unfold outcome
    rcases finish.run.run p.builder with ⟨r, b⟩
    cases r <;> rfl
  rw [toEnd, hresume]
  cases outcome finish p.builder <;> rfl

/-- Otherwise it takes the next portion and goes on from there. -/
theorem Pause.toEnd_of_cons {lines : List (List Char)} {rest : List (List (List Char))}
    (h : p.portions = lines :: rest) :
    p.toEnd = (outcome (feedLines p.taken lines) p.builder).bind fun r =>
      toEnd ⟨r.2, p.taken + lines.length, rest⟩ := by
  have hresume : p.resume = (outcome (feedLines p.taken lines) p.builder).map fun r =>
      .inl ⟨r.2, p.taken + lines.length, rest⟩ := by
    rw [resume, h]
    unfold outcome
    dsimp only
    rcases (feedLines p.taken lines).run.run p.builder with ⟨r, b⟩
    cases r <;> rfl
  rw [toEnd, hresume]
  cases outcome (feedLines p.taken lines) p.builder <;> rfl

end

/-- **Pauses make no difference.**  A build that goes on from pause to pause comes to what it comes to
without them. -/
theorem Pause.toEnd_eq (b : Builder) (taken : Nat) (portions : List (List (List Char))) :
    toEnd ⟨b, taken, portions⟩ =
      (outcome (feedPortions taken portions >>= fun _ => finish) b).map (·.1) := by
  induction portions generalizing b taken with
  | nil =>
    rw [toEnd_of_nil rfl]
    rfl
  | cons lines rest ih =>
    rw [toEnd_of_cons rfl, feedPortions, bind_assoc, outcome_bind (feedLines _ _)]
    dsimp only
    cases outcome (feedLines taken lines) b with
    | error e => rfl
    | ok r =>
      simp only [Except.bind, bind_assoc, pure_bind]
      exact ih r.2 (taken + lines.length)

end Builder

/-! ## Snapshots of texts -/

namespace Snapshot

open Builder BuildM

/-- A build in portions is a build in one go with reports. -/
theorem ofPortions_eq_map_ofText (options : BuildOptions) {size : Int} (hsize : 1 ≤ size)
    (text : String) :
    ofPortions options size text = (ofText options text).map fun s =>
      (portionEnds 0 (portions size.toNat (textLines text)), s) := by
  have hopen : (Builder.start options).finished = false := rfl
  rw [ofPortions, if_neg (by omega), ofText, result_eq, result_eq, feedLines, bind_assoc,
    outcome_checkOpen _ hopen, outcome_bind, outcome_feedPortions 0 _ hopen, flatten_portions,
    outcome_bind, Int.natCast_zero]
  cases outcome (feedLineTokens 0 (textLines text)) (Builder.start options) with
  | error e => rfl
  | ok r =>
    simp only [Except.map, Except.bind, outcome_bind]
    cases outcome finish r.2 with
    | error e => rfl
    | ok r' => rfl

/-- A build with pauses gives the snapshot of a build in portions, or fails with the same error. -/
theorem ofTurns_eq_ofPortions (options : BuildOptions) (size : Int) (text : String) :
    ofTurns options size text = (ofPortions options size text).map (·.2) := by
  rw [ofTurns, ofPortions]
  split
  · rfl
  · rw [Pause.toEnd_eq, result_eq, outcome_bind, outcome_bind]
    cases outcome (feedPortions 0 (portions size.toNat (textLines text))) (Builder.start options) with
    | error e => rfl
    | ok r =>
      simp only [Except.bind, outcome_bind]
      cases outcome finish r.2 with
      | error e => rfl
      | ok r' => rfl

/-- The reports after some of the portions of a text increase. -/
theorem pairwise_of_feedPortions {options : BuildOptions} {size : Nat}
    {lines : List (List Char)} {fed : List (List (List Char))} (hfed : fed <+: portions size lines)
    {progress : List Nat} {b : Builder}
    (h : outcome (feedPortions 0 fed) (Builder.start options) = .ok (progress, b)) :
    progress.Pairwise (· < ·) := by
  rw [outcome_feedPortions 0 fed rfl] at h
  cases hlines : outcome (feedLineTokens (0 : Nat) fed.flatten) (Builder.start options) with
  | error e =>
    rw [hlines] at h
    cases h
  | ok r =>
    rw [hlines] at h
    cases h
    exact pairwise_portionEnds fun l hl => ne_nil_of_mem_portions (hfed.subset hl)

/-- The last report about a text with lines is their number. -/
theorem getLast?_portionEnds_portions {size : Nat} {lines : List (List Char)}
    (hlines : lines ≠ []) :
    (portionEnds 0 (portions size lines)).getLast? = some lines.length := by
  have hflat := flatten_portions size lines
  cases hportions : portions size lines with
  | nil =>
    rw [hportions] at hflat
    exact absurd hflat.symm hlines
  | cons first rest => rw [getLast?_portionEnds, ← hportions, hflat, Nat.zero_add]

/-- **The snapshot of a text does not depend on how the build is cut up.**  A build in portions of
any size gives the snapshot of a build in one go, in every field and with the same error if there is
one, also if it pauses after each portion, and so does a build that takes the tokens in portions of any
kind.  The reports of a build in portions increase, also those of one that fails later, and end at the
number of lines. -/
theorem ofPortions_eq_ofText (options : BuildOptions) :
    (∀ (text : String) (size : Int), 1 ≤ size →
      (ofPortions options size text).map (·.2) = ofText options text ∧
      ofTurns options size text = ofText options text ∧
      (∀ fed, fed <+: portions size.toNat (textLines text) → ∀ progress b,
        outcome (feedPortions 0 fed) (Builder.start options) = .ok (progress, b) →
          progress.Pairwise (· < ·)) ∧
      (∀ progress s, ofPortions options size text = .ok (progress, s) →
        progress.Pairwise (· < ·) ∧
        (textLines text ≠ [] → progress.getLast? = some (textLines text).length))) ∧
    (∀ cuts : List (List Token),
      BuildM.result (do cuts.forM feed; finish) options =
        BuildM.result (do feed cuts.flatten; finish) options) := by
  constructor
  · intro text size hsize
    have heq := ofPortions_eq_map_ofText options hsize text
    have hsnapshot : (ofPortions options size text).map (·.2) = ofText options text := by
      rw [heq]
      cases ofText options text <;> rfl
    refine ⟨hsnapshot, (ofTurns_eq_ofPortions options size text).trans hsnapshot,
      fun fed hfed progress b h => pairwise_of_feedPortions hfed h, ?_⟩
    intro progress s h
    rw [heq] at h
    cases htext : ofText options text with
    | error e =>
      rw [htext] at h
      cases h
    | ok s' =>
      rw [htext] at h
      cases h
      exact ⟨pairwise_portionEnds fun l hl => ne_nil_of_mem_portions hl,
        getLast?_portionEnds_portions⟩
  · intro cuts
    have hopen : (Builder.start options).finished = false := rfl
    rw [result_eq, result_eq, outcome_bind, outcome_bind, feed, outcome_checkOpen _ hopen,
      outcome_forM_feed cuts hopen]

/-- A transaction that is cut between its postings. -/
theorem ofPortions_eq_ofText_of_cut_transaction :
    (1 : Int) ≤ 2 ∧
    (ofPortions .plain 2 "2024-01-05 Shop\n a  1\n b\n").map (·.2) =
      ofText .plain "2024-01-05 Shop\n a  1\n b\n" ∧
    ofTurns .plain 2 "2024-01-05 Shop\n a  1\n b\n" =
      ofText .plain "2024-01-05 Shop\n a  1\n b\n" ∧
    ∃ progress s, ofPortions .plain 2 "2024-01-05 Shop\n a  1\n b\n" = .ok (progress, s) ∧
      progress.getLast? = some 3 := by
  obtain ⟨heq, hturns, -, hprogress⟩ :=
    (ofPortions_eq_ofText .plain).1 "2024-01-05 Shop\n a  1\n b\n" 2 (by decide)
  refine ⟨by decide, heq, hturns, ?_⟩
  have hsome : (ofText .plain "2024-01-05 Shop\n a  1\n b\n").toOption.isSome := by
    decide +kernel
  have hlines : (textLines "2024-01-05 Shop\n a  1\n b\n").length = 3 := by decide +kernel
  cases hportions : ofPortions .plain 2 "2024-01-05 Shop\n a  1\n b\n" with
  | error e =>
    rw [← heq, hportions] at hsome
    cases hsome
  | ok r =>
    refine ⟨r.1, r.2, rfl, ?_⟩
    rw [(hprogress r.1 r.2 hportions).2 (List.ne_nil_of_length_pos (by rw [hlines]; decide)),
      hlines]

end Snapshot

end Daybook
