import Daybook.Proofs.Completion.Origin
import Daybook.Proofs.Completion.Query
import Daybook.Proofs.Completion.Replaced
import Daybook.Proofs.Journal.LineTags
import Daybook.Proofs.Snapshot.TagTexts

/-!
# Values of tags that are offered

Values are looked up behind the last colon that no comma and no semicolon follows, wherever the key in
front of it stands: behind a second semicolon, in a text that is no comment, or in the value of another
tag.  The tags of a line are stricter about where they start.  So a value that is taken over makes the
last tag of the line exactly if a tag can be added at the key.

* `exists_pieces_of_tagValueLookup?`: the line that a value is looked up for.
* `exists_pieces_of_mem_answer`: what is known of a value that is offered.
* `Engine.tagValue_is_last_tag_iff`: when a value that is taken over is the value of the last tag.
* `Engine.tagValue_behind_open_tag`: a value that is taken over into the value of another tag.
-/

namespace Daybook.Completion

open Text Journal Amount Search

section

variable {before : List Char} {l : Lookup}

/-- Only behind a key are values looked up. -/
theorem tagValueLookup?_of_subject {domain : Domain} {tag : String}
    (h : lookup? domain before = some l) (hsubject : l.subject = .valuesOf tag) :
    tagValueLookup? before = some l := by
  cases domain with
  | date => cases h
  | payee =>
    obtain ⟨m, -, h⟩ := Option.bind_eq_some_iff.mp h
    obtain ⟨span, -, h⟩ := Option.bind_eq_some_iff.mp h
    dsimp only at h
    split at h
    · cases h
    · cases h
      cases hsubject
  | account =>
    change accountLookup? before = some l at h
    unfold accountLookup? at h
    split at h
    · cases h
    obtain ⟨m, -, h⟩ := Option.bind_eq_some_iff.mp h
    obtain ⟨span, -, h⟩ := Option.bind_eq_some_iff.mp h
    cases h
    cases hsubject
  | commodity =>
    cases h
    unfold commodityLookup at hsubject
    split at hsubject <;> cases hsubject
  | tag =>
    cases h
    cases hsubject
  | tagValue => exact h

/-- **A value is looked up behind a key, a colon and blanks.** -/
theorem exists_pieces_of_tagValueLookup? (hbreak : '\n' ∉ before)
    (h : tagValueLookup? before = some l) :
    ∃ front key blanks typed, before = front ++ (key ++ ':' :: (blanks ++ typed)) ∧
      (∀ c ∈ blanks, isBlank c = true) ∧ l.subject = .valuesOf (String.ofList key) ∧
      l.start = front.length + key.length + 1 + blanks.length := by
  obtain ⟨m, hm, h⟩ := Option.bind_eq_some_iff.mp h
  obtain ⟨span, hspan, h⟩ := Option.bind_eq_some_iff.mp h
  obtain ⟨place, hplace, hm⟩ := Pattern.exists_matchAt?_of_find? hm
  obtain ⟨taken, typed, hending⟩ := Pattern.ending_of_matchAt? [_, _, _] hbreak hplace hm
  cases hending.span_eq.symm.trans hspan
  cases h
  obtain ⟨fs, inner, hfits, hlast, hfields⟩ := hending.fields_eq
  obtain ⟨key, _, more, _, ⟨_, hkey, rfl⟩, hmore, rfl, rfl⟩ := Pattern.fits_all_cons.mp hfits
  obtain ⟨_, _, blanks, _, ⟨c, hc, rfl, rfl⟩, hblanks, rfl, rfl⟩ := Pattern.fits_all_cons.mp hmore
  obtain ⟨-, -, rfl⟩ := Pattern.fits_many.mp hkey
  obtain ⟨hblank, -, rfl⟩ := Pattern.fits_many.mp hblanks
  obtain ⟨-, -, rfl⟩ := Pattern.fits_many.mp hlast
  obtain rfl : c = ':' := beq_iff_eq.mp hc
  have htag : m.textD .tag = key := by
    rw [Match.textD, Match.text?_eq, hfields]
    rfl
  refine ⟨before.take place, key, blanks, typed, ?_, hblank, by rw [htag], ?_⟩
  · have hdrop := hending.drop_eq
    rw [List.append_assoc, List.append_assoc, List.singleton_append] at hdrop
    exact (List.take_append_drop place before).symm.trans (congrArg _ hdrop)
  · dsimp only
    simp only [List.length_append, List.length_take, List.length_singleton, Nat.min_eq_left hplace]
    omega

end

section

variable {settings : Settings} {s : Snapshot} {request : Request} {items : List Item} {i : Item}

/-- **What is known of a value that is offered** at the end of a line. -/
theorem exists_pieces_of_mem_answer (hbreak : '\n' ∉ request.line)
    (hcolumn : request.column = request.line.length) (h : answer settings s request = .ok items)
    (hi : i ∈ items) (hkind : i.kind = .tagValue) :
    ∃ front key blanks typed, request.line = front ++ (key ++ ':' :: (blanks ++ typed)) ∧
      (∀ c ∈ blanks, isBlank c = true) ∧
      i.replaceStart = front.length + key.length + 1 + blanks.length ∧
      i.detail = some (String.ofList key) ∧ i.insertText = i.label ∧
      i.label ∈ (s.tagValues.get? (String.ofList key)).getD [] := by
  obtain rfl | ⟨position, domain, all, hposition, -, hall, rfl⟩ := answer_eq_ok h
  · cases hi
  obtain ⟨j, hj, hij⟩ := mem_numbered hi
  rw [hij] at hkind ⊢
  dsimp only at hkind ⊢
  rw [hcolumn] at hposition
  rw [before_of_analyze hposition, List.take_length] at hall
  obtain rfl | ⟨-, hdays⟩ | ⟨lookup, hlookup, rfl⟩ := suggestAnew_eq_ok hall
  · cases hj
  · obtain ⟨days, hsuggested⟩ := exists_suggestedDays_of_dateItems hdays
    obtain ⟨_, hitems, -, hday⟩ := exists_dateItems hsuggested request.line
    cases hdays.symm.trans hitems
    obtain ⟨day, -, hday⟩ := hday j hj
    cases hday.kind_eq.symm.trans hkind
  · obtain ⟨r, hr, rfl | ⟨-, t, rfl⟩⟩ := mem_searchAnew hj
    · obtain ⟨hname, -⟩ := mem_names_and_finds_of_mem_matchesOf hr
      obtain ⟨tag, hsubject⟩ : ∃ tag, lookup.subject = .valuesOf tag := by
        cases hsubject : lookup.subject with
        | valuesOf tag => exact ⟨tag, rfl⟩
        | _ =>
          rw [offer, hsubject] at hkind
          cases hkind
      obtain ⟨front, key, blanks, typed, hline, hblanks, hkey, hstart⟩ :=
        exists_pieces_of_tagValueLookup? hbreak (tagValueLookup?_of_subject hlookup hsubject)
      obtain rfl : String.ofList key = tag := Subject.valuesOf.inj (hkey.symm.trans hsubject)
      rw [hsubject] at hname
      refine ⟨front, key, blanks, typed, hline, hblanks, ?_⟩
      rw [offer, hsubject]
      exact ⟨hstart, rfl, rfl, hname⟩
    · cases hkind

end

/-- A line whose end is replaced by a suggestion. -/
def Item.taken (i : Item) (line : List Char) : List Char :=
  line.take i.replaceStart ++ i.insertText.toList

namespace Engine

variable {prepared : Nat → List Candidate} {e : Engine} {m : Matcher}

/-- **When a value that is taken over is that of the last tag.** -/
theorem tagValue_is_last_tag_iff (hm : m.Remembers prepared) (he : e.Ready prepared m)
    (hs : e.data.Reachable) {request : Request} (hbreak : '\n' ∉ request.line)
    (hcolumn : request.column = request.line.length) {items : List Item}
    (hitems : (e.complete m request).1 = .ok items) {i : Item} (hi : i ∈ items)
    (hkind : i.kind = .tagValue) (n : Int) :
    ∃ front key blanks r tokens,
      request.line.take i.replaceStart = front ++ (key ++ ':' :: blanks) ∧
      (∀ c ∈ blanks, isBlank c = true) ∧ i.detail = some (String.ofList key) ∧
      i.insertText = i.label ∧ readLine? (i.taken request.line) = some r ∧
      lineTokens (i.taken request.line) n = .ok tokens ∧
      (HasLastTag tokens ⟨.tagKey, String.ofList key, n, front.length⟩
          ⟨.tagValue, i.label, n, i.replaceStart⟩ ↔
        r.OpensTagAt front.length) := by
  obtain rfl | hanswer := complete_eq_ok hm he hitems
  · cases hi
  obtain ⟨front, key, blanks, typed, hline, hblanks, hstart, hdetail, hinsert, hname⟩ :=
    exists_pieces_of_mem_answer hbreak hcolumn hanswer hi hkind
  obtain ⟨hkey, hvalue⟩ := Snapshot.isTagPair_of_reachable hs hname
  have htake : request.line.take i.replaceStart = front ++ (key ++ ':' :: blanks) := by
    have hlength : i.replaceStart = (front ++ (key ++ ':' :: blanks)).length := by
      simp only [List.length_append, List.length_cons]
      omega
    have hsplit : request.line = front ++ (key ++ ':' :: blanks) ++ typed := by
      rw [hline]
      simp only [List.append_assoc, List.cons_append]
    rw [hsplit, hlength, List.take_left]
  have htaken : i.taken request.line = front ++ (key ++ ':' :: (blanks ++ i.label.toList)) := by
    rw [Item.taken, htake, hinsert]
    simp only [List.append_assoc, List.cons_append]
  have hinside : '\n' ∉ i.taken request.line := by
    rw [Item.taken, hinsert, List.mem_append, not_or]
    exact ⟨fun hmem => hbreak (List.mem_of_mem_take hmem), hvalue.inline⟩
  obtain ⟨r, hr⟩ := Option.isSome_iff_exists.mp (isSome_readLine? hinside)
  obtain ⟨tokens, htokens⟩ : ∃ tokens, lineTokens (i.taken request.line) n = .ok tokens :=
    ⟨_, by rw [lineTokens, hr]⟩
  refine ⟨front, key, blanks, r, tokens, htake, hblanks, hdetail, hinsert, hr, htokens, ?_⟩
  rw [String.toList_ofList] at hkey
  have hlabel : i.label = String.ofList i.label.toList := String.ofList_toList.symm
  rw [hasLastTag_lineTokens_iff hr htokens, hstart, hlabel]
  exact hasLastTag_tokens_iff (htaken ▸ hr) hkey hblanks hvalue.comma hvalue.ends

/-- A request at the end of a line. -/
def requestAtEnd (line : String) : Request where
  line := line.toList
  column := line.toList.length
  payee := none
  today := BuildOptions.plain.today

/-- The only value of a tag as it is offered from a column on. -/
def onlyValue (start : Nat) : Item where
  label := "v"
  kind := .tagValue
  insertText := "v"
  replaceStart := start
  sortKey := "00000"
  detail := some "c"

/-- What a fresh engine offers behind a key, from the lookup and the search that it makes. -/
theorem exists_complete_of_search (line : String) (start : Nat)
    (hlookup : (requestAtEnd line).lookup? .standard = some ⟨.valuesOf "c", "", start⟩)
    (hread : (Snapshot.ofText .plain "2024-01-05 x ; c:v\n").map (fun s =>
      numbered 50 (searchAnew .standard s none ⟨.valuesOf "c", "", start⟩)) =
      .ok [onlyValue start]) :
    ∃ (s : Snapshot) (fresh : Matcher), Snapshot.ofText .plain "2024-01-05 x ; c:v\n" = .ok s ∧
      Matcher.make 50 1000 = .ok fresh ∧
      ((Engine.start .standard s).complete fresh (requestAtEnd line)).1 = .ok [onlyValue start] := by
  obtain ⟨s, htext, hitems⟩ := exists_ok_of_map hread
  obtain ⟨fresh, hfresh⟩ : ∃ fresh, Matcher.make 50 1000 = .ok fresh := ⟨_, rfl⟩
  exact ⟨s, fresh, htext, hfresh, (complete_start hfresh .standard s _).trans
    ((answer_of_lookup hlookup s).trans (congrArg Except.ok hitems))⟩

/-- A value behind a key at the start of a comment. -/
theorem tagValue_is_last_tag_of_comment :
    ∃ (s : Snapshot) (fresh : Matcher), Snapshot.ofText .plain "2024-01-05 x ; c:v\n" = .ok s ∧
      Matcher.make 50 1000 = .ok fresh ∧
      ((start .standard s).complete fresh (requestAtEnd ";c:")).1 = .ok [onlyValue 3] ∧
      ∃ r tokens, readLine? ";c:v".toList = some r ∧ lineTokens ";c:v".toList 7 = .ok tokens ∧
        HasLastTag tokens ⟨.tagKey, "c", 7, 1⟩ ⟨.tagValue, "v", 7, 3⟩ ∧ r.OpensTagAt 1 := by
  obtain ⟨s, fresh, htext, hfresh, hitems⟩ :=
    exists_complete_of_search ";c:" 3 (by decide +kernel) (by decide +kernel)
  have hremembers := Matcher.remembers_of_make hfresh fun _ => []
  obtain ⟨front, key, blanks, r, tokens, htake, -, hdetail, -, hr, htokens, hiff⟩ :=
    tagValue_is_last_tag_iff hremembers (ready_start .standard s) (.ofText htext) (by decide) rfl hitems
      (List.mem_singleton_self _) rfl 7
  obtain rfl : key = ['c'] := by
    have hkey : "c" = String.ofList key := Option.some.inj hdetail
    rw [← String.toList_ofList (l := key), ← hkey]
    rfl
  obtain rfl : front = [';'] := by
    have hfront : [';', 'c', ':'] = front ++ ('c' :: ':' :: blanks) := htake
    rcases front with _ | ⟨x, _ | ⟨y, front⟩⟩
    · exact absurd (List.cons.inj hfront).1 (by decide)
    · rw [(List.cons.inj hfront).1]
    · have hlength := congrArg List.length hfront
      simp only [List.length_append, List.length_cons, List.length_nil] at hlength
      omega
  have hread : lineTokens ";c:v".toList 7 = .ok [⟨.comment, "c:v", 7, 1⟩, ⟨.tagKey, "c", 7, 1⟩,
      ⟨.tagValue, "v", 7, 3⟩, ⟨.newline, "\n", 7, 4⟩] := by decide +kernel
  obtain rfl := Except.ok.inj (htokens.symm.trans hread)
  have hlast : HasLastTag [⟨.comment, "c:v", 7, 1⟩, ⟨.tagKey, "c", 7, 1⟩, ⟨.tagValue, "v", 7, 3⟩,
      ⟨.newline, "\n", 7, 4⟩] ⟨.tagKey, "c", 7, 1⟩ ⟨.tagValue, "v", 7, 3⟩ := ⟨[], by decide⟩
  exact ⟨s, fresh, htext, hfresh, hitems, r, _, hr, hread, hlast, hiff.mp hlast⟩

/-- **A value that is taken over behind an open tag goes on with its value.** -/
theorem tagValue_behind_open_tag :
    ∃ (s : Snapshot) (fresh : Matcher), Snapshot.ofText .plain "2024-01-05 x ; c:v\n" = .ok s ∧
      Matcher.make 50 1000 = .ok fresh ∧
      ((start .standard s).complete fresh (requestAtEnd "; a:b; c:")).1 = .ok [onlyValue 9] ∧
      (onlyValue 9).taken "; a:b; c:".toList = "; a:b; c:v".toList ∧
      ∃ tokens, lineTokens "; a:b; c:v".toList 7 = .ok tokens ∧
        HasLastTag tokens ⟨.tagKey, "a", 7, 2⟩ ⟨.tagValue, "b; c:v", 7, 4⟩ ∧
        ∀ key value, HasLastTag tokens key value → ¬(key.text = "c" ∧ value.text = "v") := by
  obtain ⟨s, fresh, htext, hfresh, hitems⟩ :=
    exists_complete_of_search "; a:b; c:" 9 (by decide +kernel) (by decide +kernel)
  have hread : (lineTokens "; a:b; c:v".toList 7).map (·.filter Token.isOfTag) =
      .ok [⟨.tagKey, "a", 7, 2⟩, ⟨.tagValue, "b; c:v", 7, 4⟩] := by decide +kernel
  obtain ⟨tokens, htokens, hfilter⟩ := exists_ok_of_map hread
  refine ⟨s, fresh, htext, hfresh, hitems, by decide, tokens, htokens, ⟨[], hfilter⟩, ?_⟩
  rintro key value ⟨others, hothers⟩ ⟨hkey, -⟩
  have hpair : [] ++ [⟨.tagKey, "a", 7, 2⟩, ⟨.tagValue, "b; c:v", 7, 4⟩] = others ++ [key, value] :=
    hfilter.symm.trans hothers
  obtain ⟨rfl, -⟩ := List.cons.inj (List.append_inj' hpair rfl).2
  exact absurd hkey (by decide)

end Engine

end Daybook.Completion
