import Daybook.Completion.Lookup
import Daybook.Completion.Item
import Daybook.Proofs.Journal.TagPlaces
import Daybook.Proofs.Pattern.Order

/-!
# What is looked up

The place of the cursor is told by one pattern, and what is looked up there is taken out of the line by
another, which starts to match wherever it can.  Both go up to the cursor: whatever the line, what is
looked up is the text between the column from which it will be replaced and the cursor, but for the
quote in front of a commodity and the blanks around all names other than accounts.

* `ItemKind.typed`: what counts of a text that is replaced.
* `Lookup.IsTyped`: whether a search looks up what it replaces.
* `isTyped_of_lookup?`: every search does.
-/

namespace Daybook

open Text

namespace Completion

/-! ## Searches -/

/-- What a text that is replaced looks up: a commodity may have a quote in front of it, and only the
blanks around an account count. -/
def ItemKind.typed (kind : ItemKind) (cs : List Char) : List Char :=
  match kind with
  | .account => cs
  | .commodity => trimChars (if cs.head? = some '"' then cs.tail else cs)
  | _ => trimChars cs

/-- The kind of the suggestions for the names of a subject. -/
def Subject.kind : Subject → ItemKind
  | payees => .payee
  | accounts => .account
  | commodities => .commodity
  | tags => .tag
  | valuesOf _ => .tagValue

/-- Whether a search at the end of a text looks up what it replaces. -/
structure Lookup.IsTyped (before : List Char) (l : Lookup) : Prop where
  start_le : l.start ≤ before.length
  query_eq : l.query = String.ofList (l.subject.kind.typed (before.drop l.start))

/-- A search for nothing at the end of a text. -/
theorem Lookup.isTyped_nothing (subject : Subject) (before : List Char) :
    Lookup.IsTyped before ⟨subject, "", before.length⟩ where
  start_le := Nat.le_refl _
  query_eq := by
    rw [List.drop_length]
    cases subject <;> rfl

section

variable {before : List Char} {l : Lookup}

theorem isTyped_of_payeeLookup? (hbreak : '\n' ∉ before) (h : payeeLookup? before = some l) :
    l.IsTyped before := by
  obtain ⟨m, hm, h⟩ := Option.bind_eq_some_iff.mp h
  obtain ⟨span, hspan, h⟩ := Option.bind_eq_some_iff.mp h
  obtain ⟨taken, last, hending⟩ :=
    Pattern.ending_of_matchAt? [_, _, _, _, _] hbreak (Nat.zero_le _) hm
  cases hending.span_eq.symm.trans hspan
  dsimp only at h
  rw [hending.slice_eq] at h
  split at h
  · cases h
  · cases h
    have hdrop : before.drop (0 + taken.length + leadingBlanks last) = trimStart last := by
      rw [← List.drop_drop, hending.drop_start, drop_leadingBlanks]
    have hlength := hending.length_eq (Nat.zero_le _)
    have hblanks := leadingBlanks_le last
    refine ⟨by dsimp only; omega, ?_⟩
    dsimp only
    rw [hdrop]
    exact congrArg String.ofList (trimChars_trimStart last).symm

theorem isTyped_of_accountLookup? (hbreak : '\n' ∉ before) (h : accountLookup? before = some l) :
    l.IsTyped before := by
  unfold accountLookup? at h
  split at h
  · cases h
  obtain ⟨m, hm, h⟩ := Option.bind_eq_some_iff.mp h
  obtain ⟨span, hspan, h⟩ := Option.bind_eq_some_iff.mp h
  obtain ⟨taken, last, hending⟩ :=
    Pattern.ending_of_matchAt? [_, _] hbreak (Nat.zero_le _) hm
  cases hending.span_eq.symm.trans hspan
  cases h
  have hlength := hending.length_eq (Nat.zero_le _)
  refine ⟨by dsimp only; omega, ?_⟩
  dsimp only
  rw [hending.textD_eq, hending.drop_start]
  rfl

/-- A character that a symbol is looked up by is neither blank nor a quote. -/
theorem isBlank_of_isSymbolQueryChar {c : Char} (h : isSymbolQueryChar c = true) :
    isBlank c = false ∧ c ≠ '"' := by
  simp only [isSymbolQueryChar, isTypedSymbolChar, Bool.and_eq_true, Bool.not_eq_true',
    Bool.or_eq_false_iff, bne_iff_ne] at h
  exact ⟨h.1.1.1, h.2⟩

theorem isTyped_commodityLookup (hbreak : '\n' ∉ before) :
    (commodityLookup before).IsTyped before := by
  unfold commodityLookup
  split
  · exact Lookup.isTyped_nothing .commodities before
  rename_i m hm
  obtain ⟨place, hplace, hm⟩ := Pattern.exists_matchAt?_of_find? hm
  obtain ⟨quote, last, hending⟩ := Pattern.ending_of_matchAt? [_] hbreak hplace hm
  refine ⟨hending.start_eq.trans_le hplace, ?_⟩
  dsimp only
  rw [hending.textD_eq, hending.start_eq, hending.drop_eq]
  obtain ⟨_, hquote⟩ := hending.fits
  obtain ⟨_, hlast⟩ := hending.fits_last
  obtain ⟨hclass, -, -⟩ := Pattern.fits_many.mp hlast
  have htrim : trimChars last = last :=
    trimChars_eq_self fun c hc => (isBlank_of_isSymbolQueryChar (hclass c hc)).1
  rcases Pattern.fits_opt.mp hquote with ⟨c, hc, rfl, -⟩ | ⟨rfl, -⟩
  · obtain rfl : c = '"' := beq_iff_eq.mp hc
    rw [Subject.kind, ItemKind.typed, List.singleton_append, List.head?_cons, if_pos rfl,
      List.tail_cons, htrim]
  · have hnone : last.head? ≠ some '"' := fun hhead =>
      (isBlank_of_isSymbolQueryChar (hclass _ (List.mem_of_mem_head? hhead))).2 rfl
    rw [Subject.kind, ItemKind.typed, List.nil_append, if_neg hnone, htrim]

/-- No character of a tag key is blank. -/
theorem isBlank_of_isTagQueryChar {c : Char} (h : isTagQueryChar c = true) :
    isBlank c = false := by
  refine Bool.eq_false_iff.mpr fun hblank => ?_
  rcases Bool.or_eq_true_iff.mp h with h | h
  · rw [Journal.isWord_of_isBlank hblank] at h
    cases h
  · rw [beq_iff_eq.mp h] at hblank
    cases hblank

theorem isTyped_tagLookup (hbreak : '\n' ∉ before) : (tagLookup before).IsTyped before := by
  unfold tagLookup
  split
  · exact Lookup.isTyped_nothing .tags before
  rename_i m hm
  obtain ⟨place, hplace, hm⟩ := Pattern.exists_matchAt?_of_find? hm
  obtain ⟨none, last, hending⟩ := Pattern.ending_of_matchAt? [] hbreak hplace hm
  obtain ⟨_, hlast⟩ := hending.fits_last
  obtain ⟨hclass, -, -⟩ := Pattern.fits_many.mp hlast
  have htrim : trimChars last = last :=
    trimChars_eq_self fun c hc => isBlank_of_isTagQueryChar (hclass c hc)
  have hstart : before.length - last.length = place + none.length := by
    have hlength := hending.length_eq hplace
    omega
  dsimp only
  rw [hending.textD_eq, hstart]
  refine ⟨by dsimp only; omega, ?_⟩
  dsimp only
  rw [hending.drop_start, Subject.kind, ItemKind.typed, htrim]
  · nofun
  · nofun

theorem isTyped_of_tagValueLookup? (hbreak : '\n' ∉ before)
    (h : tagValueLookup? before = some l) : l.IsTyped before := by
  obtain ⟨m, hm, h⟩ := Option.bind_eq_some_iff.mp h
  obtain ⟨span, hspan, h⟩ := Option.bind_eq_some_iff.mp h
  obtain ⟨place, hplace, hm⟩ := Pattern.exists_matchAt?_of_find? hm
  obtain ⟨key, last, hending⟩ := Pattern.ending_of_matchAt? [_, _, _] hbreak hplace hm
  cases hending.span_eq.symm.trans hspan
  cases h
  have hlength := hending.length_eq hplace
  refine ⟨by dsimp only; omega, ?_⟩
  dsimp only
  rw [hending.textD_eq, hending.drop_start]
  rfl

/-- **Every search looks up what it replaces**, whatever is typed on the line. -/
theorem isTyped_of_lookup? {domain : Domain} (hbreak : '\n' ∉ before)
    (h : lookup? domain before = some l) : l.IsTyped before := by
  cases domain with
  | date => cases h
  | payee => exact isTyped_of_payeeLookup? hbreak h
  | account => exact isTyped_of_accountLookup? hbreak h
  | commodity =>
    cases h
    exact isTyped_commodityLookup hbreak
  | tag =>
    cases h
    exact isTyped_tagLookup hbreak
  | tagValue => exact isTyped_of_tagValueLookup? hbreak h

end

end Completion

end Daybook
