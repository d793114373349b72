import Daybook.Proofs.Journal.Marks
import Daybook.Proofs.Journal.TagPlaces

/-!
# Where a tag can be added

A tag that is written behind a text is read as one if a key may start there: at the beginning, behind a
comma or behind a blank.  But the value of a tag runs up to the next comma, so while the last tag of the
text is not ended by one, whatever follows belongs to its value.

* `IsTagKey`: what can be the key of a tag.
* `tagAt?_eq_some_iff`: when a tag is read, in terms of the text.
* `OpensTag`: whether a tag can be added behind a text.
* `mem_findTags_append_iff`: a tag that is added is found exactly then; `exists_findTags_eq_append`: a tag
  that goes on up to the end is the last one.
-/

namespace Daybook.Journal

open Text

/-- Whether a text can be the key of a tag. -/
structure IsTagKey (key : List Char) : Prop where
  starts : key.head?.any startsTagKey = true
  continues : ∀ c ∈ key, continuesTagKey c = true

theorem IsTagKey.ne_nil {key : List Char} (h : IsTagKey key) : key ≠ [] := by
  rintro rfl
  cases h.starts

/-- Whether a key may start behind a character. -/
def endsTag (c : Char) : Bool :=
  c == ',' || isBlank c

/-- Whether a tag can be added behind a text: a key may start there, and no tag goes on up to there. -/
structure OpensTag (front : List Char) : Prop where
  ends : ∀ c ∈ front.getLast?, endsTag c = true
  ended : ∀ m ∈ findTags front, m.stop ≠ front.length

/-- Neither a colon nor a comma nor a blank can stand in a key. -/
theorem continuesTagKey_colon : continuesTagKey ':' = false := by
  decide +kernel

theorem endsTag_of_continuesTagKey {c : Char} (h : continuesTagKey c = true) :
    endsTag c = false := by
  refine Bool.eq_false_iff.mpr fun hends => ?_
  have hword : isWord c = false ∧ c ≠ '-' := by
    rcases Bool.or_eq_true_iff.mp hends with hcomma | hblank
    · obtain rfl := beq_iff_eq.mp hcomma
      exact ⟨by decide +kernel, by decide⟩
    · refine ⟨isWord_of_isBlank hblank, ?_⟩
      rintro rfl
      cases hblank
  rw [continuesTagKey, hword.1, Bool.false_or, beq_iff_eq] at h
  exact hword.2 h

variable {pos : Nat} {cs ys : List Char} {mayStart : Bool}

/-! ## Reading one tag -/

theorem ne_comma_of_not_mem {value : List Char} (h : ',' ∉ value) :
    ∀ x ∈ value, (x != ',') = true := by
  intro x hx
  rw [bne_iff_ne]
  rintro rfl
  exact h hx

/-- The text of a tag goes on up to a comma or the end. -/
theorem shape_of_tagAt? {rest : List Char} {m : TagMatch} (h : tagAt? pos cs = some (m, rest)) :
    IsTagKey m.key ∧ ',' ∉ m.value ∧ ∀ c ∈ rest.head?, c = ',' := by
  unfold tagAt? at h
  split at h
  · cases h
  rename_i c cs
  split at h
  · rename_i hstarts
    dsimp only at h
    split at h
    · rename_i behind _
      cases h
      have hcontinues : continuesTagKey c = true := by
        rw [startsTagKey, Bool.and_eq_true] at hstarts
        rw [continuesTagKey, hstarts.1, Bool.true_or]
      refine ⟨⟨?_, fun x hx => List.mem_takeWhile_imp hx⟩, fun hcomma => ?_, fun x hx => ?_⟩
      · rw [List.takeWhile_cons_of_pos hcontinues, List.head?_cons, Option.any_some]
        exact hstarts
      · have hother := List.mem_takeWhile_imp hcomma
        simp at hother
      · simpa using head_dropWhile (fun x => x != ',') behind x hx
    · cases h
  · cases h

/-- A key with a colon behind it starts a tag. -/
theorem tagAt?_eq {key : List Char} (h : IsTagKey key) (pos : Nat) (behind : List Char) :
    tagAt? pos (key ++ ':' :: behind) =
      some (⟨key, pos, behind.takeWhile (· != ',')⟩, behind.dropWhile (· != ',')) := by
  have hstop : ∀ x ∈ (':' :: behind).head?, continuesTagKey x = false := by
    rintro _ ⟨⟩
    exact continuesTagKey_colon
  have htake := takeWhile_append_of_stop h.continues hstop
  have hdrop := dropWhile_append_of_stop h.continues hstop
  obtain ⟨c, key, rfl⟩ := List.exists_cons_of_ne_nil h.ne_nil
  have hstarts : startsTagKey c = true := h.starts
  rw [List.cons_append] at htake hdrop ⊢
  rw [tagAt?, if_pos hstarts]
  dsimp only
  rw [hdrop, htake]
  rfl

/-- **A tag is read from its key, a colon and its value**, and a comma or the end stands behind it. -/
theorem tagAt?_eq_some_iff {rest : List Char} {m : TagMatch} :
    tagAt? pos cs = some (m, rest) ↔
      m.keyStart = pos ∧ cs = m.text ++ rest ∧ IsTagKey m.key ∧ ',' ∉ m.value ∧
        ∀ c ∈ rest.head?, c = ',' := by
  constructor
  · intro h
    obtain ⟨hstart, hcs⟩ := tagAt?_eq_some h
    exact ⟨hstart, hcs, shape_of_tagAt? h⟩
  · rintro ⟨rfl, rfl, hkey, hvalue, hrest⟩
    have hstop : ∀ x ∈ rest.head?, (x != ',') = false := by
      intro x hx
      rw [hrest x hx]
      rfl
    rw [TagMatch.text, List.append_assoc, List.cons_append, tagAt?_eq hkey,
      takeWhile_append_of_stop (ne_comma_of_not_mem hvalue) hstop,
      dropWhile_append_of_stop (ne_comma_of_not_mem hvalue) hstop]

/-- A tag that ends in front of the end is read as it is, whatever is added. -/
theorem tagAt?_append {rest : List Char} {m : TagMatch} (h : tagAt? pos cs = some (m, rest))
    (hrest : rest ≠ []) (ys : List Char) : tagAt? pos (cs ++ ys) = some (m, rest ++ ys) := by
  obtain ⟨hstart, hcs, hkey, hvalue, hcomma⟩ := tagAt?_eq_some_iff.mp h
  refine tagAt?_eq_some_iff.mpr ⟨hstart, by rw [hcs, List.append_assoc], hkey, hvalue, ?_⟩
  rwa [List.head?_append_of_ne_nil _ hrest]

/-- A tag that goes on up to the end takes what is added, if that has no comma. -/
theorem tagAt?_append_of_nil {m : TagMatch} (h : tagAt? pos cs = some (m, []))
    (hys : ',' ∉ ys) : tagAt? pos (cs ++ ys) = some (⟨m.key, pos, m.value ++ ys⟩, []) := by
  obtain ⟨-, hcs, hkey, hvalue, -⟩ := tagAt?_eq_some_iff.mp h
  refine tagAt?_eq_some_iff.mpr ⟨rfl, ?_, hkey, ?_, nofun⟩
  · rw [hcs, TagMatch.text, TagMatch.text, List.append_nil, List.append_nil, List.append_assoc,
      List.cons_append]
  · rw [List.mem_append, not_or]
    exact ⟨hvalue, hys⟩

/-- A tag that starts only with what is added has the whole text in its key. -/
theorem continuesTagKey_of_tagAt?_append {rest : List Char} {m : TagMatch}
    (hnone : tagAt? pos cs = none) (h : tagAt? pos (cs ++ ys) = some (m, rest)) :
    ∀ c ∈ cs, continuesTagKey c = true := by
  obtain ⟨-, hcs, hkey, -, -⟩ := tagAt?_eq_some_iff.mp h
  rw [TagMatch.text, List.append_assoc] at hcs
  rcases List.append_eq_append_iff.mp hcs with ⟨more, hmore, -⟩ | ⟨behind, hbehind, hcolon⟩
  · intro c hc
    exact hkey.continues c (hmore ▸ List.mem_append_left _ hc)
  · cases behind with
    | nil =>
      intro c hc
      rw [List.append_nil] at hbehind
      exact hkey.continues c (hbehind ▸ hc)
    | cons x behind =>
      obtain ⟨rfl, -⟩ := List.cons.inj hcolon
      have hsome := tagAt?_eq hkey pos behind
      rw [← hbehind, hnone] at hsome
      cases hsome

/-- Such a tag goes on up to the end, if what is added has no comma. -/
theorem eq_nil_of_tagAt?_append {rest : List Char} {m : TagMatch} (hnone : tagAt? pos cs = none)
    (h : tagAt? pos (cs ++ ys) = some (m, rest)) (hys : ',' ∉ ys) : rest = [] := by
  obtain ⟨-, htext, -, -, hrest⟩ := tagAt?_eq_some_iff.mp h
  cases rest with
  | nil => rfl
  | cons x rest =>
    obtain rfl := hrest x rfl
    have hmem : ',' ∈ cs ++ ys := htext ▸ List.mem_append_right _ List.mem_cons_self
    rcases List.mem_append.mp hmem with hmem | hmem
    · cases endsTag_of_continuesTagKey (continuesTagKey_of_tagAt?_append hnone h _ hmem)
    · exact absurd hmem hys

theorem of_if_eq_some {α : Type} {c : Bool} {o : Option α} {x : α}
    (h : (if c then o else none) = some x) : c = true ∧ o = some x := by
  cases c with
  | true => exact ⟨rfl, h⟩
  | false => cases h

/-- The tags of a comment have keys, and no comma stands in their values. -/
theorem shape_of_mem_findTagsFrom :
    ∀ m ∈ findTagsFrom pos mayStart cs, IsTagKey m.key ∧ ',' ∉ m.value := by
  fun_induction findTagsFrom pos mayStart cs with
  | case1 pos mayStart cs first rest h ih =>
    obtain ⟨-, hfirst⟩ := of_if_eq_some h
    obtain ⟨hkey, hvalue, -⟩ := shape_of_tagAt? hfirst
    exact List.forall_mem_cons.mpr ⟨⟨hkey, hvalue⟩, ih⟩
  | case2 => exact List.forall_mem_nil _
  | case3 pos mayStart c rest h ih => exact ih

/-! ## Tags behind a text -/

section

variable {key value front : List Char}

theorem findTagsFrom_eq_cons {m : TagMatch} {rest : List Char}
    (h : (if mayStart then tagAt? pos cs else none) = some (m, rest)) :
    findTagsFrom pos mayStart cs = m :: findTagsFrom m.stop false rest := by
  rw [findTagsFrom]
  split
  · rename_i hsome
    cases h.symm.trans hsome
    rfl
  · rename_i hnone
    cases h.symm.trans hnone

theorem findTagsFrom_cons {c : Char}
    (h : (if mayStart then tagAt? pos (c :: cs) else none) = none) :
    findTagsFrom pos mayStart (c :: cs) = findTagsFrom (pos + 1) (endsTag c) cs := by
  rw [findTagsFrom]
  split
  · rename_i hsome
    cases h.symm.trans hsome
  · rfl

theorem findTagsFrom_nil : findTagsFrom pos mayStart [] = [] := by
  rw [findTagsFrom]
  cases mayStart <;> rfl

/-- A tag that goes on up to the end is the only one. -/
theorem findTagsFrom_eq_singleton {m : TagMatch} (h : tagAt? pos cs = some (m, [])) :
    findTagsFrom pos true cs = [m] := by
  rw [findTagsFrom_eq_cons ((if_pos rfl).trans h), findTagsFrom_nil]

/-- A tag that starts behind the start of the only tag is not found. -/
theorem not_mem_findTagsFrom {m t : TagMatch} (h : tagAt? pos cs = some (m, []))
    (ht : pos < t.keyStart) : t ∉ findTagsFrom pos true cs := by
  rw [findTagsFrom_eq_singleton h, List.mem_singleton]
  rintro rfl
  exact Nat.ne_of_gt ht (tagAt?_eq_some h).1

/-- A tag in front of the place from which tags are searched is not found. -/
theorem keyStart_ge {m : TagMatch} (h : m ∈ findTagsFrom pos mayStart cs) : pos ≤ m.keyStart := by
  obtain ⟨i, hi, -⟩ := exists_standsAt_of_mem_findTagsFrom m h
  exact hi ▸ Nat.le_add_right pos i

theorem IsTagKey.comma_not_mem_append (h : IsTagKey key) (hvalue : ',' ∉ value) :
    ',' ∉ key ++ ':' :: value := by
  rw [List.mem_append, List.mem_cons, not_or, not_or]
  refine ⟨fun hcomma => ?_, by decide, hvalue⟩
  cases endsTag_of_continuesTagKey (h.continues _ hcomma)

/-- A tag that makes up the whole text is found exactly if a key may start there. -/
theorem mem_findTagsFrom_whole_iff (hkey : IsTagKey key) (hvalue : ',' ∉ value) :
    ⟨key, pos, value⟩ ∈ findTagsFrom pos mayStart (key ++ ':' :: value) ↔ mayStart = true := by
  cases mayStart with
  | false =>
    refine iff_of_false (fun hmem => ?_) Bool.false_ne_true
    obtain ⟨c, more, hcons⟩ :=
      List.exists_cons_of_ne_nil (List.append_ne_nil_of_left_ne_nil hkey.ne_nil (':' :: value))
    rw [hcons, findTagsFrom_cons rfl] at hmem
    exact Nat.not_succ_le_self pos (keyStart_ge hmem)
  | true =>
    refine iff_of_true ?_ rfl
    have hread : tagAt? pos (key ++ ':' :: value) = some (⟨key, pos, value⟩, []) :=
      tagAt?_eq_some_iff.mpr ⟨rfl, (List.append_nil _).symm, hkey, hvalue, nofun⟩
    rw [findTagsFrom_eq_singleton hread]
    exact List.mem_singleton_self _

/-- **A tag that is added is found exactly if a key may start there and no tag is open.**  The induction
follows the search through the text in front. -/
theorem mem_findTagsFrom_append_iff (hkey : IsTagKey key) (hvalue : ',' ∉ value) :
    ⟨key, pos + front.length, value⟩ ∈ findTagsFrom pos mayStart (front ++ (key ++ ':' :: value)) ↔
      (front.getLast?.map endsTag).getD mayStart = true ∧
        ∀ m ∈ findTagsFrom pos mayStart front, m.stop ≠ pos + front.length := by
  have hadded := hkey.comma_not_mem_append hvalue
  fun_induction findTagsFrom pos mayStart front with
  | case1 pos mayStart front first rest h ih =>
    obtain ⟨rfl, h⟩ := of_if_eq_some h
    obtain ⟨hfirst, htext⟩ := tagAt?_eq_some h
    have hstop : first.stop + rest.length = pos + front.length := by
      rw [htext, List.length_append, first.stop_eq, hfirst, Nat.add_assoc]
    have hpos : pos < first.stop := by
      rw [first.stop_eq, hfirst, TagMatch.text, List.length_append, List.length_cons]
      omega
    by_cases hrest : rest = []
    · -- the tag goes on up to the end of the text, so it takes what is added
      subst hrest
      refine iff_of_false (not_mem_findTagsFrom (tagAt?_append_of_nil h hadded) ?_) fun hopen => ?_
      · exact hpos.trans_eq hstop
      · exact hopen.2 first List.mem_cons_self hstop
    · have hlast : front.getLast? = rest.getLast? := by
        rw [htext, List.getLast?_append_of_ne_nil _ hrest]
      have hsome := List.getLast?_eq_some_getLast hrest
      have hother : (⟨key, pos + front.length, value⟩ : TagMatch) ≠ first := by
        rintro rfl
        dsimp only at hfirst
        omega
      have hopen : first.stop ≠ pos + front.length := by
        have hlength := List.length_pos_of_ne_nil hrest
        omega
      rw [findTagsFrom_eq_cons ((if_pos rfl).trans (tagAt?_append h hrest _)), List.mem_cons,
        or_iff_right hother, hlast, List.forall_mem_cons, and_iff_right hopen, ← hstop]
      refine ih.trans ?_
      rw [hsome]
      rfl
  | case2 pos mayStart _ =>
    exact (mem_findTagsFrom_whole_iff hkey hvalue).trans
      ⟨fun h => ⟨h, List.forall_mem_nil _⟩, And.left⟩
  | case3 pos mayStart c rest h ih =>
    have hplace : pos + (c :: rest).length = pos + 1 + rest.length := by
      rw [List.length_cons, Nat.add_assoc, Nat.add_comm 1]
    cases hread : if mayStart then tagAt? pos (c :: (rest ++ (key ++ ':' :: value))) else none with
    | none =>
      have hlast : ((c :: rest).getLast?.map endsTag).getD mayStart =
          (rest.getLast?.map endsTag).getD (endsTag c) := by
        rw [List.getLast?_cons]
        cases rest.getLast? <;> rfl
      rw [List.cons_append, findTagsFrom_cons hread, hplace, hlast]
      exact ih
    | some found =>
      -- the text goes on as the key of the tag that starts with it
      obtain ⟨m, behind⟩ := found
      obtain ⟨rfl, hsome⟩ := of_if_eq_some hread
      have hread : tagAt? pos ((c :: rest) ++ (key ++ ':' :: value)) = some (m, behind) := hsome
      have hnone : tagAt? pos (c :: rest) = none := h
      have hword := continuesTagKey_of_tagAt?_append hnone hread
      obtain rfl := eq_nil_of_tagAt?_append hnone hread hadded
      refine iff_of_false (not_mem_findTagsFrom hread ?_) fun hopen => ?_
      · dsimp only
        omega
      · have hlast := hword _ (List.getLast_mem (List.cons_ne_nil c rest))
        rw [List.getLast?_eq_some_getLast (List.cons_ne_nil c rest), Option.map_some,
          Option.getD_some, endsTag_of_continuesTagKey hlast] at hopen
        cases hopen.1

/-- **A tag that is added to a comment is one of its tags exactly if it can be added there.** -/
theorem mem_findTags_append_iff (hkey : IsTagKey key) (hvalue : ',' ∉ value) :
    ⟨key, front.length, value⟩ ∈ findTags (front ++ (key ++ ':' :: value)) ↔ OpensTag front := by
  have hmem : (⟨key, 0 + front.length, value⟩ : TagMatch) ∈
      findTagsFrom 0 true (front ++ (key ++ ':' :: value)) ↔ _ :=
    mem_findTagsFrom_append_iff hkey hvalue
  rw [Nat.zero_add] at hmem
  refine hmem.trans ⟨fun h => ⟨fun c hc => ?_, h.2⟩, fun h => ⟨?_, h.ended⟩⟩
  · rw [Option.mem_def.mp hc] at h
    exact h.1
  · cases hlast : front.getLast? with
    | none => rfl
    | some c => exact h.ends c hlast

/-- A tag that goes on up to the end is the last one. -/
theorem exists_findTags_eq_append {m : TagMatch} (h : m ∈ findTags cs) (hstop : m.stop = cs.length) :
    ∃ others, findTags cs = others ++ [m] := by
  obtain ⟨others, later, hsplit⟩ := List.append_of_mem h
  cases later with
  | nil => exact ⟨others, hsplit⟩
  | cons n later =>
    have hpairwise := pairwise_findTags cs
    rw [hsplit] at hpairwise
    have hbehind := (List.pairwise_cons.mp (List.pairwise_append.mp hpairwise).2.1).1 n
      List.mem_cons_self
    have hn : n ∈ findTags cs :=
      hsplit ▸ List.mem_append_right _ (List.mem_cons_of_mem m List.mem_cons_self)
    have hwithin := (standsAt_of_mem_findTags hn).2.add_length_le
    rw [TagMatch.text, List.length_append, List.length_cons] at hwithin
    omega

end

end Daybook.Journal
