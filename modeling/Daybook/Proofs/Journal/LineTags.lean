import Daybook.Proofs.Journal.Columns
import Daybook.Proofs.Journal.OpenTag

/-!
# The last tag of a line

The tags of a line are those of its comment and its note.  A key that a line ends with, together with its
value, is the last tag of the line exactly if it stands in a comment or a note and a tag can be added
there; elsewhere a colon starts no value.

* `Token.isOfTag`, `Field.hasTags`: the tokens of tags, and the fields that they come from.
* `HasLastTag`: whether the last tag among tokens has a given key and a given value.
* `filter_fieldTokens`, `no_value_of_fieldTokens`: the tokens of tags of a field.
* `exists_span_of_hasLastTag`: where the last value of a line comes from.
* `ReadLine.OpensTagAt`: whether a tag can be added at a column of a line.
* `hasLastTag_tokens_iff`: the last tag of a line; `hasLastTag_lineTokens_iff`: it is that of its tokens.
-/

namespace Daybook.Journal

open Text Amount Pattern

/-- Whether a token is the key or the value of a tag. -/
def Token.isOfTag (tok : Token) : Bool :=
  tok.kind = .tagKey || tok.kind = .tagValue

/-- Whether the last tag among tokens has a given key and a given value. -/
def HasLastTag (tokens : List Token) (key value : Token) : Prop :=
  ∃ others, tokens.filter Token.isOfTag = others ++ [key, value]

/-- Whether tags are looked for in a field. -/
def Field.hasTags : Field → Bool
  | comment | note => true
  | _ => false

/-! ## Tokens of one field -/

section Field

variable {cs : List Char} {line : Int} {column : Nat} {symbolAlone : Bool} {field : Field}

theorem findTags_of_blank (h : trimChars cs = []) : findTags cs = [] := by
  have hblank : trimStart cs = [] :=
    List.dropWhile_eq_nil_iff.mpr (trimChars_eq_nil_iff.mp h)
  rw [findTags_eq_trimStart, hblank, findTagsFrom_nil]

theorem filter_taggedTokens {kind : TokenKind} (h : kind ≠ .tagKey ∧ kind ≠ .tagValue) :
    (taggedTokens kind cs line column).filter Token.isOfTag =
      (findTags cs).flatMap (tagTokens line column) := by
  have hno : ¬(trimmedToken kind cs line column).isOfTag = true := by
    simp [Token.isOfTag, trimmedToken, h.1, h.2]
  rw [taggedTokens, List.filter_cons_of_neg hno, List.filter_flatMap]
  rfl

/-- The tokens of tags of a comment or a note. -/
theorem filter_fieldTokens (h : field.hasTags = true) :
    (fieldTokens symbolAlone line field cs column).filter Token.isOfTag =
      (findTags cs).flatMap (tagTokens line column) := by
  have hnote : (if (trimChars cs).isEmpty then []
      else taggedTokens .note cs line column).filter Token.isOfTag =
        (findTags cs).flatMap (tagTokens line column) := by
    split
    · rename_i hempty
      rw [findTags_of_blank (List.isEmpty_iff.mp hempty)]
      rfl
    · exact filter_taggedTokens (by decide)
  cases field with
  | comment => exact filter_taggedTokens (by decide)
  | note => exact hnote
  | _ => cases h

theorem tokenKind_of_hasTags_eq_false (h : field.hasTags = false) :
    field.tokenKind ≠ .comment ∧ field.tokenKind ≠ .note ∧ field.tokenKind ≠ .tagValue := by
  revert h
  cases field <;> decide

/-- No other field has a value. -/
theorem no_value_of_fieldTokens (h : field.hasTags = false) :
    ∀ tok ∈ fieldTokens symbolAlone line field cs column, tok.kind ≠ .tagValue := by
  obtain ⟨hcomment, hnote, hvalue⟩ := tokenKind_of_hasTags_eq_false h
  intro tok htok hkind
  unfold fieldTokens at htok
  split at htok
  · split at htok
    · cases htok
    · cases List.mem_singleton.mp htok
      cases hkind
  · exact hcomment (by assumption)
  · exact hnote (by assumption)
  · rcases mem_amountTokens htok with ⟨_, _, hother, _⟩ | hother | hother <;>
      cases hother.symm.trans hkind
  · split at htok
    · cases htok
    · cases List.mem_singleton.mp htok
      exact hvalue hkind

/-- An empty field has no tokens of tags. -/
theorem filter_fieldTokens_nil :
    (fieldTokens symbolAlone line field [] column).filter Token.isOfTag = [] := by
  by_cases h : field.hasTags = true
  · rw [filter_fieldTokens h, findTags_of_blank rfl]
    rfl
  · cases field <;> first | rfl | exact absurd rfl h

end Field

/-! ## Tokens of a line -/

/-- Joined lists end with the last one of them that is not empty. -/
theorem exists_flatMap_eq_append {α β : Type} {l : List α} {f : α → List β} (h : l.flatMap f ≠ []) :
    ∃ before, ∃ a ∈ l, f a ≠ [] ∧ l.flatMap f = before ++ f a := by
  induction l using List.reverseRecOn with
  | nil => exact absurd rfl h
  | append_singleton l a ih =>
    rw [List.flatMap_append, List.flatMap_singleton] at h ⊢
    by_cases hnil : f a = []
    · rw [hnil, List.append_nil] at h ⊢
      obtain ⟨before, b, hb, hne, heq⟩ := ih h
      exact ⟨before, b, List.mem_append_left _ hb, hne, heq⟩
    · exact ⟨l.flatMap f, a, List.mem_append_right _ (List.mem_singleton_self a), hnil, rfl⟩

/-- Whether a tag can be added at a column of a line: inside a comment or a note that goes on up to the
end, behind a text behind which one can be added. -/
def ReadLine.OpensTagAt (r : ReadLine) (column : Nat) : Prop :=
  ∃ s ∈ r.found.spans, s.label.hasTags = true ∧ s.start ≤ column ∧
    s.stop = r.found.text.length ∧ OpensTag (Match.slice r.found.text s.start column)

section Line

variable {r : ReadLine} {line : Int}

theorem ReadLine.filter_tokens (r : ReadLine) (line : Int) :
    (r.tokens line).filter Token.isOfTag = r.found.spans.reverse.flatMap fun s =>
      (fieldTokens r.rule.symbolAlone line s.label (Match.slice r.found.text s.start s.stop)
        s.start).filter Token.isOfTag := by
  rw [ReadLine.tokens, List.filter_flatMap]

/-- **The last value of a line** is that of a tag of a comment or a note. -/
theorem exists_span_of_hasLastTag {key value : Token} (hvalue : value.kind = .tagValue)
    (h : HasLastTag (r.tokens line) key value) :
    ∃ s ∈ r.found.spans, s.label.hasTags = true ∧
      ∃ m ∈ findTags (Match.slice r.found.text s.start s.stop),
        tagTokens line s.start m = [key, value] := by
  obtain ⟨others, h⟩ := h
  rw [r.filter_tokens] at h
  obtain ⟨before, s, hs, hne, hsplit⟩ :=
    exists_flatMap_eq_append (h ▸ List.append_ne_nil_of_right_ne_nil others (List.cons_ne_nil _ _))
  rw [h] at hsplit
  have htags : s.label.hasTags = true := by
    have hlast := congrArg List.getLast? hsplit
    rw [List.getLast?_append_of_ne_nil _ hne,
      List.getLast?_append_of_ne_nil _ (List.cons_ne_nil _ _)] at hlast
    have hmem := List.mem_of_mem_filter (List.mem_of_mem_getLast? hlast.symm)
    by_contra hno
    exact no_value_of_fieldTokens (Bool.eq_false_iff.mpr hno) value hmem hvalue
  refine ⟨s, List.mem_reverse.mp hs, htags, ?_⟩
  rw [filter_fieldTokens htags] at hsplit hne
  obtain ⟨front, m, hm, -, htag⟩ := exists_flatMap_eq_append hne
  rw [htag, ← List.append_assoc] at hsplit
  exact ⟨m, hm, (List.append_inj' hsplit rfl).2.symm⟩

/-- A tag that goes on up to the end of a line is the last one of the line. -/
theorem filter_tokens_of_last {cs : List Char} (hr : readLine? cs = some r) (line : Int)
    {s : Span Field} (hs : s ∈ r.found.spans) (htags : s.label.hasTags = true) (hstop : s.stop = cs.length)
    {others : List TagMatch} {m : TagMatch}
    (hm : findTags (Match.slice cs s.start s.stop) = others ++ [m]) :
    ∃ front, (r.tokens line).filter Token.isOfTag = front ++ tagTokens line s.start m := by
  obtain ⟨hrule, hmatch⟩ := match?_of_readLineFrom hr
  have hrow := inRow_of_match? (isFlat_of_mem_table hrule) hmatch
  have htext : r.found.text = cs := (fits_of_match? hmatch).1
  obtain ⟨before, after, hsplit⟩ := List.append_of_mem (List.mem_reverse.mpr hs)
  -- what stands behind the field is empty
  have hafter : ∀ t ∈ after, (fieldTokens r.rule.symbolAlone line t.label
      (Match.slice cs t.start t.stop) t.start).filter Token.isOfTag = [] := by
    intro t ht
    rw [hsplit] at hrow
    have hbehind : s.stop ≤ t.start :=
      (List.pairwise_cons.mp (List.pairwise_append.mp hrow.apart).2.1).1 t ht
    have hempty : Match.slice cs t.start t.stop = [] := by
      rw [Match.slice, List.drop_eq_nil_of_le (hstop ▸ hbehind), List.take_nil]
    rw [hempty, filter_fieldTokens_nil]
  rw [r.filter_tokens, hsplit, htext, List.flatMap_append, List.flatMap_cons,
    List.flatMap_eq_nil_iff.mpr hafter, List.append_nil, filter_fieldTokens htags, hm,
    List.flatMap_append, List.flatMap_singleton, ← List.append_assoc]
  exact ⟨_, rfl⟩

/-! ## A tag at the end of a line -/

variable {front key blanks label : List Char}

/-- The text of a line from a field in front of the key on. -/
theorem slice_append_of_le {start : Nat} (h : start ≤ front.length) (tail : List Char) :
    Match.slice (front ++ tail) start (front ++ tail).length = front.drop start ++ tail ∧
      Match.slice (front ++ tail) start front.length = front.drop start := by
  have hdrop : (front ++ tail).drop start = front.drop start ++ tail :=
    List.drop_append_of_le_length h
  have hlength : (front.drop start).length = front.length - start := List.length_drop
  rw [Match.slice, Match.slice, hdrop, ← hlength, List.take_left]
  refine ⟨List.take_of_length_le ?_, rfl⟩
  rw [List.length_append, List.length_append]
  omega

theorem tagTokens_eq (hblanks : ∀ c ∈ blanks, isBlank c = true) (hlabel : NoBlankEnds label)
    (column pos : Nat) :
    tagTokens line column ⟨key, pos, blanks ++ label⟩ =
      [⟨.tagKey, String.ofList key, line, (column + pos : Nat)⟩,
        ⟨.tagValue, String.ofList label, line,
          (column + pos + key.length + 1 + blanks.length : Nat)⟩] := by
  have hlead : leadingBlanks (blanks ++ label) = blanks.length :=
    congrArg List.length (takeWhile_append_of_stop hblanks hlabel.head)
  rw [tagTokens, trimmedToken, trimChars_append_of_blank_left hblanks, hlabel.trimChars_eq, hlead,
    TagMatch.valueStart]
  simp only [Int.natCast_add, Int.add_assoc]

/-- A tag with a given key at the end of a text has the whole rest as its value. -/
theorem value_eq_of_standsAt {value rest : List Char}
    (h : StandsAt (front ++ (key ++ ':' :: rest)) front.length (key ++ ':' :: value))
    (hle : rest.length ≤ value.length) : value = rest := by
  obtain ⟨before, after, heq, hbefore⟩ := h
  obtain ⟨-, htail⟩ := List.append_inj heq hbefore.symm
  rw [List.append_assoc, List.cons_append] at htail
  obtain ⟨-, hrest⟩ := List.cons.inj (List.append_cancel_left htail)
  have hafter : after.length = 0 := by
    rw [hrest, List.length_append] at hle
    omega
  rw [hrest, List.eq_nil_of_length_eq_zero hafter, List.append_nil]

section Added

variable (hr : readLine? (front ++ (key ++ ':' :: (blanks ++ label))) = some r) (hkey : IsTagKey key)
  (hblanks : ∀ c ∈ blanks, isBlank c = true) (hcomma : ',' ∉ label)

include hblanks hcomma in
theorem comma_not_mem_of_blanks : ',' ∉ blanks ++ label := by
  rw [List.mem_append, not_or]
  exact ⟨fun hmem => absurd (hblanks _ hmem) (by decide), hcomma⟩

include hr hkey hblanks hcomma in
/-- The last tag of a line is added to a comment or a note that goes on up to the end. -/
theorem opensTagAt_of_hasLastTag
    (hlast : HasLastTag (r.tokens line) ⟨.tagKey, String.ofList key, line, front.length⟩
      ⟨.tagValue, String.ofList label, line,
        (front.length + key.length + 1 + blanks.length : Nat)⟩) :
    r.OpensTagAt front.length := by
  obtain ⟨hrule, hmatch⟩ := match?_of_readLineFrom hr
  have hrow := inRow_of_match? (isFlat_of_mem_table hrule) hmatch
  have htext : r.found.text = front ++ (key ++ ':' :: (blanks ++ label)) := (fits_of_match? hmatch).1
  have hlength : (front ++ (key ++ ':' :: (blanks ++ label))).length =
      front.length + key.length + 1 + blanks.length + label.length := by
    simp only [List.length_append, List.length_cons]
    omega
  obtain ⟨s, hs, htags, m, hm, htag⟩ := exists_span_of_hasLastTag rfl hlast
  obtain ⟨-, hle, hstop⟩ := hrow.within s (List.mem_reverse.mpr hs)
  rw [htext] at hm
  obtain ⟨name, pos, value⟩ := m
  simp only [tagTokens, trimmedToken, TagMatch.valueStart, List.cons.injEq, Token.mk.injEq,
    String.ofList_inj, true_and, and_true] at htag
  obtain ⟨⟨rfl, hpos⟩, htrim, hcolumn⟩ := htag
  have hplace := (standsAt_of_mem_findTags hm).2
  have hwithin := hplace.add_length_le
  have hinner := (standsAt_trimChars value).add_length_le
  rw [Match.slice, List.length_take, TagMatch.text, List.length_append, List.length_cons]
    at hwithin
  rw [htrim] at hinner
  -- the value reaches as far as the line does, so the field does
  have hstart : s.start ≤ front.length := by omega
  have hend : s.stop = (front ++ (name ++ ':' :: (blanks ++ label))).length := by
    dsimp only at hwithin
    omega
  obtain ⟨hslice, hfront⟩ := slice_append_of_le hstart (name ++ ':' :: (blanks ++ label))
  have hkeyStart : pos = (front.drop s.start).length := by
    rw [List.length_drop]
    omega
  rw [hend, hslice] at hm hplace
  subst hkeyStart
  obtain rfl : value = blanks ++ label := value_eq_of_standsAt hplace (by
    rw [List.length_append]
    omega)
  rw [← htext] at hend hfront
  refine ⟨s, hs, htags, hstart, hend, ?_⟩
  rw [hfront]
  exact (mem_findTags_append_iff hkey (comma_not_mem_of_blanks hblanks hcomma)).mp hm

include hr hkey hblanks hcomma in
/-- A tag that is added to a comment or a note that goes on up to the end is the last one. -/
theorem hasLastTag_of_opensTagAt (hlabel : NoBlankEnds label) (h : r.OpensTagAt front.length) :
    HasLastTag (r.tokens line) ⟨.tagKey, String.ofList key, line, front.length⟩
      ⟨.tagValue, String.ofList label, line,
        (front.length + key.length + 1 + blanks.length : Nat)⟩ := by
  have htext : r.found.text = front ++ (key ++ ':' :: (blanks ++ label)) :=
    (fits_of_match? (match?_of_readLineFrom hr).2).1
  obtain ⟨s, hs, htags, hstart, hstop, hopens⟩ := h
  obtain ⟨hslice, hfront⟩ := slice_append_of_le hstart (key ++ ':' :: (blanks ++ label))
  rw [htext] at hstop hopens
  rw [hfront] at hopens
  have hmem := (mem_findTags_append_iff hkey (comma_not_mem_of_blanks hblanks hcomma)).mpr hopens
  rw [← hslice, ← hstop] at hmem
  have hend : (⟨key, (front.drop s.start).length, blanks ++ label⟩ : TagMatch).stop =
      (Match.slice (front ++ (key ++ ':' :: (blanks ++ label))) s.start s.stop).length := by
    rw [hstop, hslice, TagMatch.stop_eq, List.length_append]
    rfl
  obtain ⟨ms, hms⟩ := exists_findTags_eq_append hmem hend
  obtain ⟨others, hothers⟩ := filter_tokens_of_last hr line hs htags hstop hms
  have hplace : s.start + (front.drop s.start).length = front.length := by
    rw [List.length_drop]
    omega
  rw [tagTokens_eq hblanks hlabel, hplace] at hothers
  exact ⟨others, hothers⟩

include hr hkey hblanks hcomma in
/-- **A key and a value at the end of a line are its last tag exactly if a tag can be added there.** -/
theorem hasLastTag_tokens_iff (hlabel : NoBlankEnds label) :
    HasLastTag (r.tokens line) ⟨.tagKey, String.ofList key, line, front.length⟩
        ⟨.tagValue, String.ofList label, line,
          (front.length + key.length + 1 + blanks.length : Nat)⟩ ↔
      r.OpensTagAt front.length :=
  ⟨opensTagAt_of_hasLastTag hr hkey hblanks hcomma,
    hasLastTag_of_opensTagAt hr hkey hblanks hcomma hlabel⟩

end Added

/-- The end of a line makes no difference to its last tag. -/
theorem hasLastTag_lineTokens_iff {cs : List Char} (hr : readLine? cs = some r) {tokens : List Token}
    (h : lineTokens cs line = .ok tokens) {first last : Token} :
    HasLastTag tokens first last ↔ HasLastTag (r.tokens line) first last := by
  rw [lineTokens, hr] at h
  cases h
  have hend : [(⟨.newline, "\n", line, cs.length⟩ : Token)].filter Token.isOfTag = [] := rfl
  rw [HasLastTag, HasLastTag, List.filter_append, hend, List.append_nil]

end Line

end Daybook.Journal
