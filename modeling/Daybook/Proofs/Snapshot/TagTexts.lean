import Daybook.Proofs.Amount.Pieces
import Daybook.Proofs.Builder.Effect
import Daybook.Proofs.Journal.OpenTag
import Daybook.Proofs.Snapshot.Recount

/-!
# Tags that journals bring in

The tags of a transaction come from comments and notes, so their keys have the shape of keys, and their
values have no comma in them and no blanks around them.  A directive can declare a name of any other
shape, but no value comes with it: all values that a snapshot knows belong to keys that can be read.

* `IsTagPair`: whether a key and a value can be read as a tag.
* `hasTagTexts_tokens`: the keys and values among the tokens of a line.
* `Builder.Tagged`, `Builder.keeps_tagged_handleLine`: the tags that a build has come across.
* `Snapshot.isTagPair_of_reachable`: the values of tags of any reachable snapshot.
-/

namespace Daybook

open Journal Text Amount

namespace Journal

/-- Whether a text can be the value of a tag. -/
structure IsTagValue (value : List Char) : Prop where
  ends : NoBlankEnds value
  comma : ',' ∉ value
  inline : '\n' ∉ value

/-- Whether a key and a value can be read as a tag. -/
structure IsTagPair (tag : TagPair) : Prop where
  key : IsTagKey tag.1.toList
  value : IsTagValue tag.2.toList

/-! ## Tags of lines -/

/-- Whether the keys and the values among tokens can be those of tags. -/
def HasTagTexts (tokens : List Token) : Prop :=
  ∀ tok ∈ tokens, (tok.kind = .tagKey → IsTagKey tok.text.toList) ∧
    (tok.kind = .tagValue → IsTagValue tok.text.toList)

theorem HasTagTexts.subset {tokens others : List Token} (h : HasTagTexts tokens)
    (hsubset : others ⊆ tokens) : HasTagTexts others :=
  fun tok htok => h tok (hsubset htok)

theorem subset_of_mem_fields {cs : List Char} {r : ReadLine} (hr : readLine? cs = some r)
    {f : Field × List Char} (h : f ∈ r.fields) : f.2 ⊆ cs := by
  obtain ⟨s, -, rfl⟩ := List.mem_map.mp h
  have htext : r.found.text = cs := (Pattern.fits_of_match? (match?_of_readLineFrom hr).2).1
  exact htext ▸ List.Subset.trans (List.take_subset _ _) (List.drop_subset _ _)

theorem value_subset_of_mem_findTags {cs : List Char} {m : TagMatch} (h : m ∈ findTags cs) :
    m.value ⊆ cs := by
  obtain ⟨before, after, rfl, -⟩ := (standsAt_of_mem_findTags h).2.trans m.standsAt_value
  exact fun x hx => List.mem_append_right _ (List.mem_append_left _ hx)

/-- Only directives have a field for the name of a tag. -/
theorem kind_of_tagKey_mem_groups {rule : LineRule} (hrule : rule ∈ LineRule.table)
    {q : Pattern Field} (h : (Field.tagKey, q) ∈ rule.pattern.groups) : rule.kind = .directive := by
  have hlabels : ∀ rule ∈ LineRule.table,
      Field.tagKey ∈ rule.pattern.groups.map (·.1) → rule.kind = .directive := by
    intro rule hrule
    simp only [LineRule.table, List.mem_cons, List.not_mem_nil, or_false] at hrule
    rcases hrule with rfl | rfl | rfl | rfl | rfl | rfl | rfl | rfl | rfl | rfl | rfl | rfl | rfl |
      rfl | rfl | rfl | rfl <;> decide
  exact hlabels rule hrule (List.mem_map_of_mem h)

/-- The tokens of the tags of a comment. -/
theorem hasTagTexts_taggedTokens {kind : TokenKind} (h : kind ≠ .tagKey ∧ kind ≠ .tagValue)
    {cs : List Char} (hbreak : '\n' ∉ cs) (line : Int) (column : Nat) :
    HasTagTexts (taggedTokens kind cs line column) := by
  refine List.forall_mem_cons.mpr
    ⟨⟨fun hkind => absurd hkind h.1, fun hkind => absurd hkind h.2⟩, fun tok htok => ?_⟩
  obtain ⟨m, hm, htok⟩ := List.mem_flatMap.mp htok
  obtain ⟨hkey, hvalue⟩ := shape_of_mem_findTagsFrom m hm
  rcases List.mem_pair.mp htok with rfl | rfl
  · refine ⟨fun _ => ?_, nofun⟩
    rwa [String.toList_ofList]
  · refine ⟨nofun, fun _ => ?_⟩
    rw [trimmedToken, String.toList_ofList]
    have htrim := (trimChars_sublist m.value).subset
    exact ⟨noBlankEnds_trimChars m.value, fun hcomma => hvalue (htrim hcomma),
      fun hline => hbreak (value_subset_of_mem_findTags hm (htrim hline))⟩

/-- **The keys and the values of a line** can be those of tags, unless the line is a directive. -/
theorem hasTagTexts_tokens {cs : List Char} (hbreak : '\n' ∉ cs) {r : ReadLine}
    (hr : readLine? cs = some r) (hkind : r.rule.kind ≠ .directive) (line : Int) :
    HasTagTexts (r.tokens line) := by
  intro tok htok
  obtain ⟨field, text, column, hfield, htok⟩ := exists_field_of_mem_tokens htok
  have hinside : '\n' ∉ text := fun hmem => hbreak (subset_of_mem_fields hr hfield hmem)
  unfold fieldTokens at htok
  split at htok
  · split at htok
    · cases htok
    · cases List.mem_singleton.mp htok
      exact ⟨nofun, nofun⟩
  · exact hasTagTexts_taggedTokens (by decide) hinside _ _ tok htok
  · split at htok
    · cases htok
    · exact hasTagTexts_taggedTokens (by decide) hinside _ _ tok htok
  · rcases mem_amountTokens htok with ⟨_, _, hkind', _⟩ | hkind' | hkind' <;>
    · rw [hkind']
      exact ⟨nofun, nofun⟩
  · split at htok
    · cases htok
    · cases List.mem_singleton.mp htok
      refine ⟨fun hkey => ?_, fun hvalue => ?_⟩
      · obtain rfl : field = .tagKey := by
          cases field <;> first | rfl | cases hkey
        obtain ⟨hrule, taken, hfits⟩ := fits_of_readLine? hr
        obtain ⟨q, inner, hgroup, -⟩ := hfits.exists_group hfield
        exact absurd (kind_of_tagKey_mem_groups hrule hgroup) hkind
      · cases field <;> cases hvalue

open Builder

theorem isTagPair_of_mem_tagPairsAfter {key : Option String} {tokens : List Token}
    (h : HasTagTexts tokens) (hkey : ∀ k ∈ key, IsTagKey k.toList) :
    ∀ tag ∈ tagPairsAfter key tokens, IsTagPair tag := by
  fun_induction tagPairsAfter key tokens with
  | case1 => nofun
  | case2 key tok rest hkind ih =>
    obtain ⟨htok, hrest⟩ := List.forall_mem_cons.mp h
    exact ih hrest fun k hk => Option.some.inj hk ▸ htok.1 hkind
  | case3 tok rest _ hvalue k ih =>
    obtain ⟨htok, hrest⟩ := List.forall_mem_cons.mp h
    exact List.forall_mem_cons.mpr ⟨⟨hkey k rfl, htok.2 hvalue⟩, ih hrest nofun⟩
  | case4 tok rest _ _ ih => exact ih (List.forall_mem_cons.mp h).2 nofun
  | case5 key tok rest _ _ ih => exact ih (List.forall_mem_cons.mp h).2 hkey

/-- **The tags among tokens** can be read as tags, if the keys and the values can. -/
theorem HasTagTexts.isTagPair {tokens : List Token} (h : HasTagTexts tokens) :
    ∀ tag ∈ tagPairs tokens, IsTagPair tag :=
  isTagPair_of_mem_tagPairsAfter h nofun

end Journal

/-- Whether all tags of the transactions of a snapshot can be read as tags. -/
def Snapshot.Tagged (s : Snapshot) : Prop :=
  ∀ t ∈ s.transactions, ∀ tag ∈ t.allTags, IsTagPair tag

/-! ## Builds -/

namespace Builder

open BuildM

/-- Whether all tags of a transaction that is being read can be read as tags. -/
structure OpenTransaction.Tagged (t : OpenTransaction) : Prop where
  tags : ∀ tag ∈ t.tags, IsTagPair tag
  postings : ∀ p ∈ t.postings, ∀ tag ∈ p.tags, IsTagPair tag

/-- Whether all tags that a build has come across can be read as tags. -/
structure Tagged (b : Builder) : Prop where
  snapshot : b.snapshot.Tagged
  reading : ∀ t ∈ b.openTransaction, OpenTransaction.Tagged t

variable {b b' : Builder} {tokens : List Token}

theorem Tagged.of_leaves (h : b.Tagged) (hleaves : Leaves b b') : b'.Tagged where
  snapshot := by
    rw [Snapshot.Tagged, hleaves.transactions]
    exact h.snapshot
  reading := by
    rw [hleaves.openTransaction]
    exact h.reading

theorem OpenTransaction.Tagged.close {t : OpenTransaction} (h : OpenTransaction.Tagged t) :
    ∀ tag ∈ (OpenTransaction.close t).allTags, IsTagPair tag := by
  intro tag htag
  rcases List.mem_append.mp htag with htag | htag
  · exact h.tags tag htag
  · obtain ⟨p, hp, htag⟩ := List.mem_flatMap.mp htag
    rw [OpenTransaction.close] at hp
    dsimp only at hp
    split at hp
    · exact h.postings p hp tag htag
    · cases hp

theorem Tagged.closed (h : b.Tagged) : b.closed.Tagged where
  snapshot := by
    rw [Snapshot.Tagged, transactions_closed]
    intro t ht
    rcases List.mem_append.mp ht with ht | ht
    · exact h.snapshot t ht
    · obtain ⟨o, ho, rfl⟩ := List.mem_map.mp ht
      exact (h.reading o (Option.mem_toList.mp ho)).close
  reading := by
    rw [(closed_frame b).1]
    nofun

theorem OpenTransaction.Tagged.addTags {t : OpenTransaction} (h : OpenTransaction.Tagged t)
    {tags : List TagPair} (htags : ∀ tag ∈ tags, IsTagPair tag) :
    OpenTransaction.Tagged (OpenTransaction.addTags t tags) := by
  unfold OpenTransaction.addTags
  split
  · exact { h with tags := List.forall_mem_append.mpr ⟨h.tags, htags⟩ }
  · rename_i last hlast
    refine { h with postings := fun p hp => ?_ }
    rcases List.mem_append.mp hp with hp | hp
    · exact h.postings p (List.mem_of_mem_dropLast hp)
    · cases List.mem_singleton.mp hp
      exact List.forall_mem_append.mpr ⟨h.postings last (List.mem_of_mem_getLast? hlast), htags⟩

/-- The tags of a posting that was read. -/
theorem isTagPair_of_readPostingParts {parts parts' : PostingParts}
    (hparts : ∀ tag ∈ parts.tags, IsTagPair tag) (htokens : HasTagTexts tokens)
    (h : readPostingParts parts tokens = some parts') : ∀ tag ∈ parts'.tags, IsTagPair tag := by
  fun_induction readPostingParts parts tokens with
  | case1 parts =>
    cases h
    exact hparts
  | case2 => cases h
  | case3 =>
    cases h
    exact htokens.isTagPair
  | _ =>
    rename_i ih
    exact ih hparts (htokens.subset (List.subset_cons_self _ _)) h

theorem isTagPair_of_readPosting {body : List Token} {p : Posting} (hbody : HasTagTexts body)
    (h : b.readPosting body = .ok (some p)) : ∀ tag ∈ p.tags, IsTagPair tag := by
  obtain ⟨behind, account, parts, hsubset, hparts, rfl⟩ := exists_parts_of_readPosting h
  have hstart : ∀ tag ∈ PostingParts.tags ⟨none, none, false, [], []⟩, IsTagPair tag := nofun
  exact isTagPair_of_readPostingParts hstart (hbody.subset hsubset) hparts

/-! ### Lines -/

theorem keeps_tagged_openTransactionAt (raw : String) {rest : List Token} (hrest : HasTagTexts rest)
    (line : Int) : Keeps Tagged (openTransactionAt raw rest line) := by
  intro b a b' h hb
  rw [outcome_openTransactionAt] at h
  split at h
  · cases h
  · cases h
    exact { hb with }
  · split at h
    · cases h
    · rename_i t ht
      cases h
      obtain ⟨-, hpostings, -⟩ := readHeader_frame ht
      refine { hb with reading := ?_ }
      rintro _ ⟨⟩
      refine ⟨hrest.isTagPair, fun p hp => ?_⟩
      cases hpostings ▸ hp

theorem keeps_tagged_handleIndented {head : Token} {rest : List Token}
    (htokens : head.kind ≠ .directive → HasTagTexts (head :: rest)) (line : Int) :
    Keeps Tagged (handleIndented head rest line) := by
  intro b a b' h hb
  rw [outcome_handleIndented] at h
  split at h
  · exact hb.of_leaves (leaves_of_directed (directed_of_outcome h))
  rename_i hdirective
  have htexts := htokens hdirective
  split at h
  · cases h
    exact hb
  split at h
  · cases h
    split
    · exact hb
    · exact { hb with }
  rename_i t ht
  have hold := hb.reading t ht
  split at h
  · cases h
    refine { hb with reading := ?_ }
    rintro _ ⟨⟩
    exact hold.addTags htexts.isTagPair
  split at h
  · cases h
  · cases h
    refine { hb with reading := ?_ }
    rintro _ ⟨⟩
    exact { hold with }
  · rename_i p hp
    cases h
    refine { hb with reading := ?_ }
    rintro _ ⟨⟩
    refine { hold with postings := List.forall_mem_append.mpr ⟨hold.postings, fun q hq => ?_⟩ }
    cases List.mem_singleton.mp hq
    exact isTagPair_of_readPosting htexts hp

theorem keeps_tagged_handleFlush {head : Token} {rest : List Token}
    (hrest : head.kind = .date → HasTagTexts rest) (line : Int) :
    Keeps Tagged (handleFlush head rest line) := by
  intro b a b' h hb
  rw [outcome_handleFlush] at h
  split at h
  · cases h
  unfold begin at h
  split at h
  · exact keeps_tagged_openTransactionAt _ (hrest (by assumption)) line h hb.closed
  · exact hb.closed.of_leaves (leaves_of_directed (directed_of_outcome h))
  · cases h
    exact { hb.closed with }
  · cases h
    exact hb.closed

/-- **A line hands on that all tags can be read as tags.** -/
theorem keeps_tagged_handleLine {cs : List Char} (hbreak : '\n' ∉ cs) {r : ReadLine}
    (hr : readLine? cs = some r) (line : Int) :
    Keeps Tagged (handleLine (r.tokens line) line) := by
  have htexts := fun hkind => hasTagTexts_tokens hbreak hr hkind line
  have hform := lineForm_tokens hr line
  generalize r.tokens line = tokens at htexts hform
  generalize r.rule.kind = kind at htexts hform
  have hclose : Keeps Tagged closeTransaction := by
    intro b a b' h hb
    rw [outcome_closeTransaction] at h
    split at h
    · cases h
    · cases h
      exact hb.closed
  unfold handleLine
  split
  · exact hclose
  rename_i first others
  split
  · rename_i hindent
    split
    · exact hclose
    · rename_i head rest
      refine keeps_tagged_handleIndented (fun hhead => ?_) line
      refine (htexts ?_).subset (List.subset_cons_self _ _)
      rintro rfl
      cases hform with
      | directive hdirective => cases hdirective.symm.trans hindent
      | format _ hdirective => exact hhead hdirective
  · rename_i hindent
    refine keeps_tagged_handleFlush (fun hdate => ?_) line
    refine (htexts ?_).subset (List.subset_cons_self _ _)
    rintro rfl
    cases hform with
    | directive hdirective => cases hdirective.symm.trans hdate
    | format hother => exact hindent hother

theorem tagged_start (options : BuildOptions) : (Builder.start options).Tagged where
  snapshot := nofun
  reading := nofun

/-- Lines hand on that all tags can be read as tags. -/
theorem Tagged.of_feedLineTokens {first : Int} {lines : List (List Char)}
    (hlines : ∀ cs ∈ lines, '\n' ∉ cs) (hb : b.Tagged) (hpending : b.pending = [])
    (h : outcome (feedLineTokens first lines) b = .ok ((), b')) : b'.Tagged := by
  induction lines generalizing first b with
  | nil =>
    cases h
    exact hb
  | cons cs rest ih =>
    obtain ⟨r, b₁, hr, hline, hrest⟩ := feedLineTokens_cons_eq_ok hpending h
    obtain ⟨hcs, hothers⟩ := List.forall_mem_cons.mp hlines
    have htaking : (b.taking r first cs.length).Tagged := { hb with }
    have hhandled := keeps_tagged_handleLine hcs hr first hline htaking
    exact ih (b := { b₁ with pending := [] }) hothers { hhandled with } rfl hrest

end Builder

/-! ## Reachable snapshots -/

namespace Snapshot

theorem tagged_of_reachable {s : Snapshot} (h : Reachable s) : s.Tagged := by
  have habsorb : ∀ a b : Snapshot, a.Tagged → b.Tagged → (a.absorb b).Tagged := by
    intro a b ha hb
    rw [Tagged, transactions_absorb]
    exact List.forall_mem_append.mpr ⟨ha, hb⟩
  induction h with
  | empty => nofun
  | ofText hs =>
    obtain ⟨b, hlines, -, rfl⟩ := ofText_eq_ok_iff.mp hs
    have hb := (Builder.tagged_start _).of_feedLineTokens
      (fun _ => not_mem_of_mem_textLines) rfl hlines
    exact hb.closed.snapshot
  | merge _ _ iha ihb => exact merge_induction (habsorb _ _ iha ihb) iha ihb
  | mergeAll _ ih => exact mergeAll_induction nofun habsorb ih

/-- **The values that a reachable snapshot knows** can be read together with their keys. -/
theorem isTagPair_of_reachable {s : Snapshot} (h : Reachable s) {key value : String}
    (hvalue : value ∈ (s.tagValues.get? key).getD []) : IsTagPair (key, value) := by
  have htallies := (recounts_of_reachable h).tagValueUsage
  rw [(linked_of_reachable h).tagValues.mem_iff, htallies.contains_iff] at hvalue
  obtain ⟨t, ht, hpair⟩ := List.mem_flatMap.mp hvalue
  exact tagged_of_reachable h t ht _ (List.mem_of_mem_filter hpair)

end Snapshot

end Daybook
