import Daybook.Project.Include
import Daybook.Proofs.Builder.Formats
import Daybook.Proofs.Journal.Posting
import Daybook.Proofs.Snapshot.Joined

/-!
# The includes that a build records and those that a project follows

A build learns of an include from the tokens of its line.  A project looks for includes before
anything is built: it takes the lines that start with the word and reads only these.  The two see
the same targets, whatever the lines around them are.

* `Journal.rule_of_directive_include`: only one rule has fields that say include.
* `Journal.includeOfLine?_eq_some_iff`: the lines that the project takes for includes.
* `Builder.inclusionOn?`, `Builder.inclusionOn?_tokens`: the tokens of these lines, and of no others,
  say include.
* `Builder.includes_of_feedLineTokens`: the includes that lines leave behind.
* `Snapshot.includes_eq_includeTargets`: the includes of a build are the targets of the project.
-/

namespace Daybook

open Text Journal

namespace Journal

/-! ## Lines with an include -/

variable {cs : List Char} {r : ReadLine}

/-- The names of the directives other than the inclusion; the year has two. -/
def otherDirectives : List String :=
  ["account", "commodity", "format", "D", "decimal-mark", "P", "payee", "tag", "alias", "Y", "year"]

/-- The groups for the name of a directive are those for its rule's own words. -/
theorem name_of_directive {rule : LineRule} (hrule : rule ∈ LineRule.table) (hne : rule ≠ .inclusion)
    {taken word : List Char} {fs : List (Field × List Char)} (hfits : rule.pattern.Fits taken fs)
    (h : (Field.directive, word) ∈ fs) : ∃ name ∈ otherDirectives, word = name.toList := by
  obtain ⟨q, inner, hgroup, hq⟩ := hfits.exists_group h
  have hgroups : rule.pattern.groups.filter (·.1 = .directive) = [] ∨
      rule.pattern.groups.filter (·.1 = .directive) =
        [(.directive, .either (.literal "Y") (.literal "year"))] ∨
      ∃ name ∈ otherDirectives,
        rule.pattern.groups.filter (·.1 = .directive) = [(.directive, .literal name)] := by
    simp only [LineRule.table, List.mem_cons, List.not_mem_nil, or_false] at hrule
    rcases hrule with rfl | rfl | rfl | rfl | rfl | rfl | rfl | rfl | rfl | rfl | rfl | rfl | rfl |
      rfl | rfl | rfl | rfl
    · exact .inl rfl
    · exact .inl rfl
    · exact .inl rfl
    · exact .inl rfl
    · exact .inr (.inr ⟨"account", by decide, rfl⟩)
    · exact .inr (.inr ⟨"commodity", by decide, rfl⟩)
    · exact .inr (.inr ⟨"format", by decide, rfl⟩)
    · exact .inr (.inr ⟨"D", by decide, rfl⟩)
    · exact .inr (.inr ⟨"decimal-mark", by decide, rfl⟩)
    · exact absurd rfl hne
    · exact .inr (.inr ⟨"P", by decide, rfl⟩)
    · exact .inr (.inr ⟨"payee", by decide, rfl⟩)
    · exact .inr (.inr ⟨"tag", by decide, rfl⟩)
    · exact .inr (.inr ⟨"alias", by decide, rfl⟩)
    · exact .inr (.inl rfl)
    · exact .inl rfl
    · exact .inl rfl
  have hmem : (Field.directive, q) ∈ rule.pattern.groups.filter (·.1 = .directive) :=
    List.mem_filter.mpr ⟨hgroup, by simp⟩
  rcases hgroups with hnone | hyear | ⟨name, hname, hone⟩
  · rw [hnone] at hmem
    cases hmem
  · rw [hyear] at hmem
    cases List.mem_singleton.mp hmem
    rcases hq with hq | hq
    · exact ⟨"Y", by decide, (Pattern.fits_literal.mp hq).1⟩
    · exact ⟨"year", by decide, (Pattern.fits_literal.mp hq).1⟩
  · rw [hone] at hmem
    cases List.mem_singleton.mp hmem
    exact ⟨name, hname, (Pattern.fits_literal.mp hq).1⟩

/-- Only the rule of inclusions has a field that says include. -/
theorem rule_of_directive_include (hr : readLine? cs = some r) {word : List Char}
    (h : (Field.directive, word) ∈ r.fields) (hword : trimChars word = "include".toList) :
    r.rule = .inclusion := by
  obtain ⟨hrule, taken, hfits⟩ := fits_of_readLine? hr
  by_contra hne
  obtain ⟨name, hname, rfl⟩ := name_of_directive hrule hne hfits h
  have hother : ∀ name ∈ otherDirectives, trimChars name.toList ≠ "include".toList := by decide
  exact hother name hname hword

/-- The fields of an inclusion, and how its line starts. -/
theorem fields_of_inclusion (hr : readLine? cs = some r) (hrule : r.rule = .inclusion) :
    "include".toList <+: cs ∧
      ∃ target more, r.fields = (.directive, "include".toList) :: (.text, target) :: more ∧
        (more = [] ∨ ∃ comment, more = [(.comment, comment)]) := by
  obtain ⟨-, hmatch⟩ := match?_of_readLineFrom hr
  obtain ⟨-, taken, hfits, hstart⟩ := Pattern.fits_of_match? hmatch
  rw [hrule] at hfits
  obtain ⟨name, _, behind, rest, ⟨_, hname, rfl⟩, hgap, rfl, hfields⟩ :=
    Pattern.fits_all_cons.mp hfits
  obtain ⟨rfl, rfl⟩ := Pattern.fits_literal.mp hname
  obtain ⟨_, htext⟩ := hgap.of_plain_cons rfl
  obtain ⟨target, _, more, -, htail, rfl⟩ := htext.of_group_cons rfl
  exact ⟨(List.prefix_append _ _).trans hstart, target, more, hfields, fields_of_fits_tail htail⟩

/-- The target of an inclusion as it is written. -/
def ReadLine.target (r : ReadLine) : List Char :=
  trimChars (r.found.textD .text)

/-- **What the project takes for an include**: a line under the rule of inclusions whose target is
not blank. -/
theorem includeOfLine?_eq_some_iff {target : String} :
    Project.includeOfLine? cs = some target ↔
      ∃ r, readLine? cs = some r ∧ r.rule = .inclusion ∧ r.target ≠ [] ∧
        target = String.ofList r.target := by
  unfold Project.includeOfLine?
  constructor
  · intro h
    split at h
    · cases hr : readLine? cs with
      | none =>
        rw [hr] at h
        cases h
      | some r =>
        rw [hr] at h
        dsimp only at h
        split at h
        · rename_i hsays
          simp only [Bool.and_eq_true, beq_iff_eq, Bool.not_eq_true'] at hsays
          obtain ⟨⟨-, hdirective⟩, htarget⟩ := hsays
          refine ⟨r, rfl, ?_, by simpa [ReadLine.target] using htarget, (Option.some.inj h).symm⟩
          cases hword : r.found.text? .directive with
          | none =>
            rw [Match.textD, hword] at hdirective
            exact absurd hdirective (by decide)
          | some word =>
            rw [Match.textD, hword, Option.getD_some] at hdirective
            refine rule_of_directive_include hr (Match.mem_fields_of_text? hword) ?_
            rw [hdirective]
            decide
        · cases h
    · cases h
  · rintro ⟨r, hr, hrule, htarget, rfl⟩
    obtain ⟨hstart, text, more, hfields, hmore⟩ := fields_of_inclusion hr hrule
    have hdirective : r.found.textD .directive = "include".toList := by
      rw [ReadLine.fields] at hfields
      rw [Match.textD, Match.text?_eq, hfields]
      rcases hmore with rfl | ⟨comment, rfl⟩ <;> rfl
    have hkind : LineRule.inclusion.kind = .directive := rfl
    have hne : (trimChars (r.found.textD .text)).isEmpty = false := by
      simpa [ReadLine.target] using htarget
    rw [if_pos (List.isPrefixOf_iff_prefix.mpr hstart), hr]
    dsimp only
    rw [hdirective, hrule, hkind, hne, if_pos (by decide)]
    rfl

end Journal

namespace Builder

open BuildM

/-- What the tokens of a line include. -/
def inclusionOn? (tokens : List Token) : Option String :=
  (lineDirective? tokens).bind fun d =>
    if d.1 = "include" then (firstOf? .text d.2).map (·.text) else none

/-- The text of the first token of a kind is the first one that is said under the kind. -/
theorem firstOf?_map_text (kind : TokenKind) (tokens : List Token) :
    (firstOf? kind tokens).map (·.text) =
      ((tokens.map Token.content).find? (·.1 = kind)).map (·.2) := by
  rw [firstOf?, List.find?_map, Option.map_map]
  rfl

/-- The tokens of an inclusion say its target, unless it is blank. -/
theorem inclusionOn?_of_inclusion {cs : List Char} {r : ReadLine} (hr : readLine? cs = some r)
    (hrule : r.rule = .inclusion) (line : Int) :
    inclusionOn? (r.tokens line) =
      if r.target = [] then none else some (String.ofList r.target) := by
  obtain ⟨-, text, more, hfields, hmore⟩ := fields_of_inclusion hr hrule
  have htarget : r.target = trimChars text := by
    rw [ReadLine.fields] at hfields
    rw [ReadLine.target, Match.textD, Match.text?_eq, hfields]
    rcases hmore with rfl | ⟨comment, rfl⟩ <;> rfl
  have hcontents := r.contents_tokens line
  rw [hfields, List.flatMap_cons, fieldContents_plain .directive (by decide) (by decide),
    List.singleton_append, List.flatMap_cons] at hcontents
  obtain ⟨head, args, htokens, hhead, hname, hargs⟩ := exists_cons_of_contents hcontents
  have hkind : head.kind = .directive := hhead
  have hinclude : head.text = "include" := hname.trans (by decide)
  have hcomment : (more.flatMap (fieldContents r.rule.symbolAlone)).find?
      (fun c => decide (c.1 = .text)) = none :=
    List.find?_eq_none.mpr fun c hc => by simpa using ne_text_of_mem_comment hmore hc
  have hdir : lineDirective? (r.tokens line) = some ("include", args) := by
    simp [htokens, lineDirective?, hkind, hinclude]
  rw [inclusionOn?, hdir, Option.bind_some, if_pos rfl, firstOf?_map_text, hargs,
    List.find?_append, hcomment, Option.or_none, htarget]
  split
  · rename_i hblank
    simp [fieldContents, fieldTokens, Field.tokenKind, hblank]
  · rename_i hblank
    rw [fieldContents_plain .text (by decide) hblank]
    rfl

/-- A directive that includes stands on a line under the rule of inclusions. -/
theorem rule_of_lineDirective_include {cs : List Char} {r : ReadLine} (hr : readLine? cs = some r)
    {line : Int} {args : List Token}
    (hdir : lineDirective? (r.tokens line) = some ("include", args)) : r.rule = .inclusion := by
  obtain ⟨head, hhead, hkind, hname⟩ :
      ∃ head ∈ r.tokens line, head.kind = .directive ∧ head.text = "include" := by
    have hmem : ∀ tok ∈ if (r.tokens line).head?.any (·.kind = .indent) then (r.tokens line).tail
        else r.tokens line, tok ∈ r.tokens line := by
      intro tok htok
      split at htok
      · exact List.mem_of_mem_tail htok
      · exact htok
    rw [lineDirective?] at hdir
    generalize (if (r.tokens line).head?.any (·.kind = .indent) then (r.tokens line).tail
        else r.tokens line) = tokens at hdir hmem
    cases tokens with
    | nil => cases hdir
    | cons head rest =>
      dsimp only at hdir
      split at hdir
      · rename_i hkind
        exact ⟨head, hmem head List.mem_cons_self, hkind,
          congrArg Prod.fst (Option.some.inj hdir)⟩
      · cases hdir
  obtain ⟨field, word, column, hfield, htok⟩ := exists_field_of_mem_tokens hhead
  obtain ⟨rfl, htext⟩ := directive_of_mem_fieldTokens htok hkind
  refine rule_of_directive_include hr hfield ?_
  rw [← String.toList_ofList (l := trimChars word), ← htext, hname]

/-- **The tokens of a line include what the project takes for an include on it.** -/
theorem inclusionOn?_tokens {cs : List Char} {r : ReadLine} (hr : readLine? cs = some r)
    (line : Int) : inclusionOn? (r.tokens line) = Project.includeOfLine? cs := by
  by_cases hrule : r.rule = .inclusion
  · rw [inclusionOn?_of_inclusion hr hrule]
    refine Option.ext fun target => ?_
    rw [includeOfLine?_eq_some_iff]
    constructor
    · intro h
      split at h
      · cases h
      · rename_i hne
        exact ⟨r, hr, hrule, hne, (Option.some.inj h).symm⟩
    · rintro ⟨r', hr', -, hne, rfl⟩
      cases hr.symm.trans hr'
      rw [if_neg hne]
  · have hproject : Project.includeOfLine? cs = none := by
      refine Option.eq_none_iff_forall_ne_some.mpr fun target h => ?_
      obtain ⟨r', hr', hrule', -⟩ := includeOfLine?_eq_some_iff.mp h
      cases hr.symm.trans hr'
      exact hrule hrule'
    rw [hproject, inclusionOn?]
    cases hdir : lineDirective? (r.tokens line) with
    | none => rfl
    | some d =>
      obtain ⟨name, args⟩ := d
      rw [Option.bind_some, if_neg]
      rintro rfl
      exact hrule (rule_of_lineDirective_include hr hdir)

/-! ## What lines leave behind -/

theorem includes_recordTransaction (day : String → Option Calendar.Date)
    (complaint : String → Warning) (t : Transaction) (s : Snapshot) :
    (s.recordTransaction day complaint t).includes = s.includes := by
  have henter : (s.enter day complaint t).includes = s.includes := by
    refine Snapshot.foldl_record_induction (P := fun s' => s'.includes = s.includes)
      (fun e s' h => ?_) _ rfl
    cases e with
    | tag tag =>
      rw [BookEntry.record, Snapshot.useTag_eq]
      exact h
    | _ => exact h
  rw [Snapshot.recordTransaction_eq]
  split
  · exact henter
  · exact henter

theorem includes_foldl_mentionCommodity (symbols : List String) (s : Snapshot) :
    (symbols.foldl Snapshot.mentionCommodity s).includes = s.includes := by
  induction symbols generalizing s with
  | nil => rfl
  | cons symbol rest ih => exact ih _

/-- Transactions leave the includes as they are. -/
theorem reading_includes (includes : List String) :
    Reading fun b => b.snapshot.includes = includes where
  tokens _ _ h := h
  warn _ _ h := h
  reading _ _ h := h
  record complaint t h := (includes_recordTransaction _ complaint t _).trans h

/-- Only an include directive adds an include. -/
theorem keeps_includes_directive (includes : List String) {name : String} (hname : name ≠ "include")
    (args : List Token) (line : Int) :
    Keeps (fun b => b.snapshot.includes = includes) (directive name args line) := by
  intro b u b' h hb
  cases directed_of_outcome h with
  | inclusion hinclude _ => exact absurd hinclude hname
  | price symbols => exact (includes_foldl_mentionCommodity symbols b.snapshot).trans hb
  | _ => exact hb

theorem outcome_directive_include (args : List Token) (line : Int) (b : Builder) :
    outcome (directive "include" args line) b =
      .ok ((), match firstOf? .text args with
        | some tok => b.record (·.addInclude tok.text)
        | none => b) := by
  unfold directive
  simp only [String.reduceEq, or_self, false_and, if_false, if_true]
  cases firstOf? .text args <;> rfl

/-- **A line leaves its include behind**, if it has one. -/
theorem includes_of_handleLine {tokens : List Token} {line : Int} {b b' : Builder}
    (h : outcome (handleLine tokens line) b = .ok ((), b')) :
    b'.snapshot.includes =
      (inclusionOn? tokens).toList.foldl Snapshot.withInclude b.snapshot.includes := by
  have hreading := reading_includes b.snapshot.includes
  by_cases hdir : ∃ args, lineDirective? tokens = some ("include", args)
  · obtain ⟨args, hdir⟩ := hdir
    obtain ⟨b₀, hb₀, hdone⟩ := hreading.exists_directive hdir h rfl
    rw [outcome_directive_include] at hdone
    rw [inclusionOn?, hdir, Option.bind_some, if_pos rfl, ← hb₀]
    cases hfirst : firstOf? .text args with
    | none =>
      rw [hfirst] at hdone
      cases hdone
      rfl
    | some tok =>
      rw [hfirst] at hdone
      cases hdone
      rfl
  · have hnone : inclusionOn? tokens = none := by
      rw [inclusionOn?]
      cases hd : lineDirective? tokens with
      | none => rfl
      | some d =>
        obtain ⟨name, args⟩ := d
        rw [Option.bind_some, if_neg]
        rintro rfl
        exact hdir ⟨args, hd⟩
    rw [hnone]
    refine hreading.keeps_handleLine (fun name args hd => ?_) h rfl
    refine keeps_includes_directive _ ?_ args line
    rintro rfl
    exact hdir ⟨args, hd⟩

/-- **The includes that lines leave behind** are those that the project takes from them. -/
theorem includes_of_feedLineTokens {first : Int} {lines : List (List Char)} {b b' : Builder}
    (hb : b.pending = []) (h : outcome (feedLineTokens first lines) b = .ok ((), b')) :
    b'.snapshot.includes =
      (lines.filterMap Project.includeOfLine?).foldl Snapshot.withInclude b.snapshot.includes := by
  induction lines generalizing first b with
  | nil =>
    cases h
    rfl
  | cons cs rest ih =>
    obtain ⟨r, b₁, hr, hline, hrest⟩ := feedLineTokens_cons_eq_ok hb h
    have hfirst : b₁.snapshot.includes =
        (Project.includeOfLine? cs).toList.foldl Snapshot.withInclude b.snapshot.includes := by
      have hhandled := includes_of_handleLine hline
      rwa [inclusionOn?_tokens hr first] at hhandled
    rw [ih rfl hrest, hfirst, List.filterMap_cons]
    cases Project.includeOfLine? cs <;> rfl

end Builder

/-! ## Texts -/

namespace Project

theorem map_pattern_includeTargets (text : String) :
    (includeTargets text).map (·.pattern) = (textLines text).filterMap includeOfLine? := by
  have hlines : textLines text = (textLines text).zipIdx.map (·.1) := (List.zipIdx_map_fst 0 _).symm
  conv_rhs => rw [hlines, List.filterMap_map]
  rw [includeTargets, List.map_filterMap]
  refine congrArg (fun f => List.filterMap f _) (funext fun l => ?_)
  rw [Option.map_map]
  exact Option.map_id'

/-- A target is reported for a line exactly if the line falls under the rule of inclusions and names
it. -/
theorem mem_includeTargets_iff {text : String} {target : String} {n : Nat} :
    ⟨target, n⟩ ∈ includeTargets text ↔
      ∃ cs r, (textLines text)[n]? = some cs ∧ readLine? cs = some r ∧ r.rule = .inclusion ∧
        r.target ≠ [] ∧ target = String.ofList r.target := by
  rw [includeTargets, List.mem_filterMap]
  constructor
  · rintro ⟨⟨cs, m⟩, hmem, htarget⟩
    obtain ⟨t, ht, heq⟩ := Option.map_eq_some_iff.mp htarget
    cases heq
    obtain ⟨r, hr⟩ := includeOfLine?_eq_some_iff.mp ht
    exact ⟨cs, r, List.mk_mem_zipIdx_iff_getElem?.mp hmem, hr⟩
  · rintro ⟨cs, r, hcs, hr⟩
    refine ⟨(cs, n), List.mk_mem_zipIdx_iff_getElem?.mpr hcs, ?_⟩
    rw [includeOfLine?_eq_some_iff.mpr ⟨r, hr⟩]
    rfl

end Project

namespace Snapshot

open Builder BuildM Project

/-- **A build and the project see the same includes.**  The includes of the snapshot of a text are
the targets that the project takes from the text, each where it comes first.  There is such a
snapshot unless a quantity is too large.  A target is reported for a line exactly if the line falls
under the rule of inclusions, and its text, which is not blank, is the target. -/
theorem includes_eq_includeTargets (options : BuildOptions) (text : String) :
    (∀ s, ofText options text = .ok s →
      s.includes = ((includeTargets text).map (·.pattern)).eraseDups) ∧
    ((∀ y ∈ options.defaultYear, 1 ≤ y ∧ y ≤ 9999) →
      (∃ s, ofText options text = .ok s) ∨
        ofText options text = .error .quantityOverflow ∧ ∃ cs ∈ textLines text, TooLarge cs) ∧
    ∀ target n, ⟨target, n⟩ ∈ includeTargets text ↔
      ∃ cs r, (textLines text)[n]? = some cs ∧ readLine? cs = some r ∧ r.rule = .inclusion ∧
        r.target ≠ [] ∧ target = String.ofList r.target := by
  refine ⟨fun s hs => ?_, fun hyear => ofText_isOk_or_overflow hyear text,
    fun target n => mem_includeTargets_iff⟩
  obtain ⟨b, hlines, -, rfl⟩ := ofText_eq_ok_iff.mp hs
  have hclosed : b.closed.snapshot.includes = b.snapshot.includes :=
    (reading_includes b.snapshot.includes).closed rfl
  rw [map_pattern_includeTargets, ← foldl_withInclude_nil]
  exact hclosed.trans (includes_of_feedLineTokens rfl hlines)

/-- A text with a target that is named twice, one behind an indent, one in front of a comment and
one that is blank. -/
theorem includes_of_repeated_target :
    ∃ s, ofText .plain "include a\n include b\ninclude c ; d\ninclude  a\ninclude  ; e\n" = .ok s ∧
      includeTargets "include a\n include b\ninclude c ; d\ninclude  a\ninclude  ; e\n" =
        [⟨"a", 0⟩, ⟨"c", 2⟩, ⟨"a", 3⟩] ∧
      s.includes = ["a", "c"] := by
  have htargets : includeTargets
      "include a\n include b\ninclude c ; d\ninclude  a\ninclude  ; e\n" =
        [⟨"a", 0⟩, ⟨"c", 2⟩, ⟨"a", 3⟩] := by
    decide +kernel
  have hread : (ofText .plain
      "include a\n include b\ninclude c ; d\ninclude  a\ninclude  ; e\n").map
        (fun s => s.warnings.length) = .ok 1 := by
    decide +kernel
  obtain ⟨s, hs, -⟩ := exists_ok_of_map hread
  have hincludes := (includes_eq_includeTargets .plain _).1 s hs
  rw [htargets] at hincludes
  exact ⟨s, hs, htargets, hincludes⟩

end Snapshot

end Daybook
