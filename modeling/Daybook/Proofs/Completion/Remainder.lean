import Daybook.Completion.Prompt
import Daybook.Proofs.Completion.Cap
import Daybook.Proofs.Text.Casing

/-!
# What taking over a suggestion gives

Behind the cursor a prompt shows what the best suggestion would add to what is typed.  The suggestion is
chosen by lower case, but what it adds is cut off by the number of characters that are typed.  Where lower
case has another number of characters than the text, or where it depends on what follows, the two do not
fit together, and what is taken over is not the suggestion.

* `Engine.remainder?`: what an engine would add behind the cursor.
* `Item.remainder?_eq_some`: what is known of a remainder.
* `Engine.remainder_completes_iff`: when what is typed and its remainder are the suggestion, but for case.
* `Engine.remainder_of_dotted_capital`: a dotted capital I, of which a letter is lost.
-/

namespace Daybook.Completion

open Text Calendar Search

/-! ## Remainders -/

/-- A remainder is what is left of a suggestion of a single line behind as many characters as are typed,
if the lower case of the suggestion starts with that of what is typed. -/
theorem Item.remainder?_eq_some {before : List Char} {i : Item} {r : String}
    (h : i.remainder? before = some r) :
    (i.kind ≠ .template ∧ '\n' ∉ i.insertText.toList ∧ i.replaceStart < before.length) ∧
    lowerAfter [] (before.drop i.replaceStart) <+: lowerAfter [] i.insertText.toList ∧
    (before.drop i.replaceStart).length < i.insertText.toList.length ∧
    r.toList = i.insertText.toList.drop (before.drop i.replaceStart).length := by
  unfold Item.remainder? at h
  split at h
  · cases h
  rename_i hsingle
  dsimp only at h
  split at h
  · cases h
  rename_i hfits
  cases h
  have hsingle : i.kind ≠ .template ∧ '\n' ∉ i.insertText.toList := by simpa using hsingle
  simp only [Bool.or_eq_true, Bool.not_eq_true', not_or, Bool.not_eq_false,
    List.isPrefixOf_iff_prefix, List.isEmpty_iff, List.drop_eq_nil_iff, not_le, lower,
    String.toList_ofList] at hfits
  obtain ⟨⟨htyped, hstarts⟩, hlength⟩ := hfits
  exact ⟨⟨hsingle.1, hsingle.2, htyped⟩, hstarts, hlength, String.toList_ofList⟩

/-- What an engine would add behind the cursor. -/
def Engine.remainder? (e : Engine) (m : Matcher) (d : Document) (payee : Option String)
    (today : Date) : Option String :=
  (e.complete m (d.request payee today)).1.toOption.bind (Completion.remainder? d)

namespace Engine

variable {e : Engine} {m : Matcher} {d : Document} {payee : Option String} {today : Date} {r : String}

/-- **What is typed and its remainder are the suggestion**, but for case, if and only if dotted capital I
stands in what is typed as often as in what it replaces, and no final sigma at the end of what is typed
becomes a medial one. -/
theorem remainder_completes_iff (h : e.remainder? m d payee today = some r) :
    ∃ items top, (e.complete m (d.request payee today)).1 = .ok items ∧ items.head? = some top ∧
      let typed := d.lineBefore.drop top.replaceStart
      (lower (String.ofList typed ++ r) = lower top.insertText ↔
        typed.count 'İ' = (top.insertText.toList.take typed.length).count 'İ' ∧
          ¬(endsInSigma typed = true ∧ facesCased r.toList = true)) := by
  obtain ⟨items, hitems, hremainder⟩ := Option.bind_eq_some_iff.mp h
  obtain ⟨top, htop, hadds⟩ := Option.bind_eq_some_iff.mp hremainder
  obtain ⟨-, hstarts, hlength, hrest⟩ := Item.remainder?_eq_some hadds
  have hok : (e.complete m (d.request payee today)).1 = .ok items := by
    cases hanswer : (e.complete m (d.request payee today)).1 with
    | error err =>
      rw [hanswer] at hitems
      cases hitems
    | ok items' =>
      rw [hanswer] at hitems
      cases hitems
      rfl
  refine ⟨items, top, hok, htop, ?_⟩
  dsimp only
  have hfront : (d.lineBefore.drop top.replaceStart).length =
      (top.insertText.toList.take (d.lineBefore.drop top.replaceStart).length).length := by
    rw [List.length_take, Nat.min_eq_left hlength.le]
  have htext : top.insertText.toList =
      top.insertText.toList.take (d.lineBefore.drop top.replaceStart).length ++ r.toList := by
    rw [hrest, List.take_append_drop]
  rw [htext] at hstarts
  rw [← lowerAfter_append_eq_iff hfront hstarts, ← htext, lower, lower, String.toList_append,
    String.toList_ofList]
  exact ⟨fun h => String.ofList_injective h, fun h => congrArg String.ofList h⟩

/-- The remainder that a fresh engine shows for a lookup. -/
theorem remainder?_start {maxResults maxCacheSize : Int} {fresh : Matcher}
    (hfresh : Matcher.make maxResults maxCacheSize = .ok fresh) {settings : Settings}
    {lookup : Lookup} (hlookup : (d.request payee today).lookup? settings = some lookup) (s : Snapshot) :
    (start settings s).remainder? fresh d payee today =
      Completion.remainder? d
        (numbered settings.maxResults (searchAnew settings s payee lookup)) := by
  rw [remainder?, complete_start hfresh, answer_of_lookup hlookup]
  rfl

/-- What a fresh engine for a journal shows, from the lookup and the search that it makes. -/
theorem exists_remainder_of_search (journal : String) (d : Document) (today : Date)
    (lookup : Lookup) (r insertText : String)
    (hlookup : (d.request none today).lookup? .standard = some lookup)
    (hread : (Snapshot.ofText .plain journal).map (fun s =>
      let items := numbered 50 (searchAnew .standard s none lookup)
      (Completion.remainder? d items, items.head?.map fun i => (i.insertText, i.replaceStart))) =
      .ok (some r, some (insertText, lookup.start))) :
    ∃ (s : Snapshot) (fresh : Matcher) (items : List Item) (top : Item),
      Snapshot.ofText .plain journal = .ok s ∧ Matcher.make 50 1000 = .ok fresh ∧
      ((start .standard s).complete fresh (d.request none today)).1 = .ok items ∧
      items.head? = some top ∧ top.insertText = insertText ∧ top.replaceStart = lookup.start ∧
      (start .standard s).remainder? fresh d none today = some r := by
  obtain ⟨s, htext, hfacts⟩ := exists_ok_of_map hread
  obtain ⟨hadds, hhead⟩ := Prod.mk.inj hfacts
  obtain ⟨fresh, hfresh⟩ : ∃ fresh, Matcher.make 50 1000 = .ok fresh := ⟨_, rfl⟩
  have hanswer := (complete_start hfresh .standard s _).trans (answer_of_lookup hlookup s)
  obtain ⟨top, htop, hparts⟩ := Option.map_eq_some_iff.mp hhead
  obtain ⟨hinsert, hcolumn⟩ := Prod.mk.inj hparts
  exact ⟨s, fresh, _, top, htext, hfresh, hanswer, htop, hinsert, hcolumn,
    (remainder?_start hfresh hlookup s).trans hadds⟩

/-- Three letters of a payee with a sigma in the remainder. -/
theorem remainder_completes_iff_of_sigma :
    ∃ (s : Snapshot) (fresh : Matcher) (items : List Item) (top : Item),
      Snapshot.ofText .plain "2024-01-05 ΟΔΟΣ ΑΒ\n a\n" = .ok s ∧
      Matcher.make 50 1000 = .ok fresh ∧
      ((start .standard s).complete fresh ((Document.atEnd "2024-01-06 οΔο".toList).request none
        BuildOptions.plain.today)).1 = .ok items ∧
      items.head? = some top ∧ top.insertText = "ΟΔΟΣ ΑΒ" ∧ top.replaceStart = 11 ∧
      (start .standard s).remainder? fresh (Document.atEnd "2024-01-06 οΔο".toList) none
        BuildOptions.plain.today = some "Σ ΑΒ" ∧
      lower ("οΔο" ++ "Σ ΑΒ") = lower "ΟΔΟΣ ΑΒ" := by
  obtain ⟨s, fresh, items, top, htext, hfresh, hitems, htop, hinsert, hcolumn, hremainder⟩ :=
    exists_remainder_of_search "2024-01-05 ΟΔΟΣ ΑΒ\n a\n" (Document.atEnd "2024-01-06 οΔο".toList)
      BuildOptions.plain.today ⟨.payees, "οΔο", 11⟩ "Σ ΑΒ" "ΟΔΟΣ ΑΒ" (by decide +kernel) (by decide +kernel)
  obtain ⟨items', top', hitems', htop', hiff⟩ := remainder_completes_iff hremainder
  obtain rfl := Except.ok.inj (hitems.symm.trans hitems')
  obtain rfl := Option.some.inj (htop.symm.trans htop')
  refine ⟨s, fresh, items, top, htext, hfresh, hitems, htop, hinsert, hcolumn, hremainder, ?_⟩
  have htyped : (Document.atEnd "2024-01-06 οΔο".toList).lineBefore.drop 11 = ['ο', 'Δ', 'ο'] := by
    decide
  rw [hinsert, hcolumn, htyped] at hiff
  exact hiff.mpr ⟨by decide, by decide +kernel⟩

/-- **A dotted capital I costs a letter.**  Its lower case is typed as two characters, so two characters
of the suggestion are taken for typed. -/
theorem remainder_of_dotted_capital :
    ∃ (s : Snapshot) (fresh : Matcher) (items : List Item) (top : Item),
      Snapshot.ofText .plain "2024-01-05 İstanbul\n a\n" = .ok s ∧
      Matcher.make 50 1000 = .ok fresh ∧
      ((start .standard s).complete fresh ((Document.atEnd "2024-01-06 i\u0307".toList).request none
        BuildOptions.plain.today)).1 = .ok items ∧
      items.head? = some top ∧ top.insertText = "İstanbul" ∧ top.replaceStart = 11 ∧
      (start .standard s).remainder? fresh (Document.atEnd "2024-01-06 i\u0307".toList) none
        BuildOptions.plain.today = some "tanbul" ∧
      lower ("i\u0307" ++ "tanbul") ≠ lower "İstanbul" := by
  obtain ⟨s, fresh, items, top, htext, hfresh, hitems, htop, hinsert, hcolumn, hremainder⟩ :=
    exists_remainder_of_search "2024-01-05 İstanbul\n a\n"
      (Document.atEnd "2024-01-06 i\u0307".toList) BuildOptions.plain.today
      ⟨.payees, "i\u0307", 11⟩ "tanbul" "İstanbul" (by decide +kernel) (by decide +kernel)
  exact ⟨s, fresh, items, top, htext, hfresh, hitems, htop, hinsert, hcolumn, hremainder,
    by decide +kernel⟩

end Engine

end Daybook.Completion
