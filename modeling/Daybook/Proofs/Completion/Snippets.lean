import Daybook.Proofs.Completion.Origin
import Daybook.Proofs.Snapshot.TemplateOrder

/-!
# The templates that are offered

Behind a payee that is looked up by its whole name or by the start of it, its most relevant templates
are offered as journal text.  They are the first ones of the list that a query for the payee gives, and
that list is in one order only.

* `snippetsOf`: the journal text of the most relevant templates of a payee.
* `offeredTexts`: what is inserted for a payee: its name, or one of its templates.
* `foundFor`, `map_searchAnew`: what a search for a payee finds and offers.
* `Engine.templates_ordered_and_offered`: the order of the templates of a payee, and which of them are
  offered.
-/

namespace Daybook.Completion

open Text Search Template

/-- The journal text of the most relevant templates of a payee. -/
def snippetsOf (s : Snapshot) (payee : String) : List String :=
  ((s.templatesFor payee).take maxTemplates).map (·.rendered (formatIn s))

/-- What is inserted for a payee that was found: its name or, if templates are wanted and it is or
starts with the text that was looked up, one of its most relevant templates. -/
def offeredTexts (s : Snapshot) (withTemplates : Bool) (query : String) (r : Ranked) :
    List (ItemKind × String) :=
  (.payee, r.item) ::
    if withTemplates ∧ query ≠ "" ∧ prefixBase ≤ r.score then
      (snippetsOf s r.item).map (.template, ·)
    else []

section

variable {s : Snapshot} {lookup : Lookup}

/-- The suggestions for one match. -/
theorem map_offeredTexts (hsubject : lookup.subject = .payees) (withTemplates : Bool) (r : Ranked) :
    (offer s lookup r :: if withTemplates then templateOffers s lookup r else []).map
        (fun i => (i.kind, i.insertText)) =
      offeredTexts s withTemplates lookup.query r := by
  have hshows : showsTemplates lookup r = true ↔ lookup.query ≠ "" ∧ prefixBase ≤ r.score := by
    simp [showsTemplates, hsubject]
  have hsnippets : (((s.templatesFor r.item).take maxTemplates).map (templateOffer s lookup r)).map
      (fun i => (i.kind, i.insertText)) = (snippetsOf s r.item).map (.template, ·) := by
    rw [snippetsOf, List.map_map, List.map_map]
    rfl
  have hname : ((offer s lookup r).kind, (offer s lookup r).insertText) =
      (ItemKind.payee, r.item) := by
    unfold offer
    rw [hsubject]
  rw [List.map_cons, hname, offeredTexts, templateOffers]
  simp only [hshows]
  cases withTemplates with
  | false => simp
  | true =>
    by_cases hshown : lookup.query ≠ "" ∧ prefixBase ≤ r.score
    · simp only [if_true, if_pos hshown, true_and, hsnippets]
    · simp [hshown]

/-- What a search for a payee finds, in the order in which it is offered. -/
def foundFor (settings : Settings) (s : Snapshot) (payee : Option String) (lookup : Lookup) :
    List Ranked :=
  byMerit s payee lookup.subject ((matchesOf s lookup).take settings.maxResults)

theorem mem_payees_of_mem_foundFor {settings : Settings} {payee : Option String}
    (hsubject : lookup.subject = .payees) {r : Ranked} (hr : r ∈ foundFor settings s payee lookup) :
    r.item ∈ s.payees := by
  have hmatch := List.mem_of_mem_take ((byMerit_perm _).mem_iff.mp hr)
  have hname := (mem_names_and_finds_of_mem_matchesOf hmatch).1
  rwa [hsubject] at hname

/-- **What a search for a payee offers**: the names that it finds, each with its templates behind it. -/
theorem map_searchAnew (settings : Settings) (s : Snapshot) (payee : Option String)
    (hsubject : lookup.subject = .payees) :
    (searchAnew settings s payee lookup).map (fun i => (i.kind, i.insertText)) =
      (foundFor settings s payee lookup).flatMap
        (offeredTexts s settings.templateCompletions lookup.query) := by
  rw [searchAnew_eq, offers, List.map_flatMap]
  exact List.flatMap_congr fun r _ => map_offeredTexts hsubject settings.templateCompletions r

theorem map_numbered (cap : ℕ) (items : List Item) :
    (numbered cap items).map (fun i => (i.kind, i.insertText)) =
      (items.map fun i => (i.kind, i.insertText)).take cap := by
  rw [numbered, List.map_map, ← List.map_take]
  conv_rhs => rw [← List.zipIdx_map_fst 0 (items.take cap), List.map_map]
  rfl

end

namespace Engine

variable {prepared : Nat → List Candidate} {e : Engine} {m : Matcher}

/-- **Templates are listed in one order, and the first three are offered.**  In a reachable snapshot the
list for a payee has each template that is kept for it once, by its recent uses among the keys in the
ring of the payee, then by all its uses and by the day of its last use, the greatest first, and then by
its key; no two are level.  So sorting by these things one after another gives the list too, and the
order in which the templates came in has no part in it.  An engine that looks up a payee offers the
payees that it finds and behind each, if templates are wanted and the payee is or starts with what was
looked up, the first three templates of its list, up to the cap on suggestions. -/
theorem templates_ordered_and_offered (hm : m.Remembers prepared) (he : e.Ready prepared m)
    (hs : e.data.Reachable) (payee : String) :
    (e.data.templatesFor payee).Perm (e.data.templateTable (payeeName payee)).values ∧
    (e.data.templatesFor payee).Nodup ∧
    ((e.data.templatesFor payee).Pairwise fun a b =>
      a.relevance (e.data.recentUses (payeeName payee) a.key) <
        b.relevance (e.data.recentUses (payeeName payee) b.key)) ∧
    e.data.templatesFor payee =
      Snapshot.sortedInTurn (fun t => e.data.recentUses (payeeName payee) t.key)
        (e.data.templateTable (payeeName payee)).values ∧
    (∀ s' : Snapshot, s'.recent.get? (payeeName payee) = e.data.recent.get? (payeeName payee) →
      (e.data.templateTable (payeeName payee)).entries.Perm
        (s'.templateTable (payeeName payee)).entries →
      s'.templatesFor payee = e.data.templatesFor payee) ∧
    ∀ request lookup items, request.lookup? e.settings = some lookup →
      lookup.subject = .payees → (e.complete m request).1 = .ok items →
      ∃ found : List Ranked, (∀ r ∈ found, r.item ∈ e.data.payees) ∧
        items.map (fun i => (i.kind, i.insertText)) =
          (found.flatMap (offeredTexts e.data e.settings.templateCompletions lookup.query)).take
            e.settings.maxResults := by
  have hsorted := Snapshot.pairwise_sortedInTurn
    (fun t => e.data.recentUses (payeeName payee) t.key)
    (e.data.templateTable (payeeName payee)).values
  refine ⟨Snapshot.templatesFor_perm _ payee, (Snapshot.keysApart_templatesFor hs payee).of_map _,
    Snapshot.pairwise_lt_templatesFor hs payee,
    (Snapshot.eq_templatesFor hs (Snapshot.perm_sortedInTurn _ _) hsorted).symm,
    fun s' hrecent hperm => ?_, ?_⟩
  · refine Snapshot.eq_templatesFor hs
      ((Snapshot.templatesFor_perm s' payee).trans (hperm.map _).symm) ?_
    have huses : ∀ key, s'.recentUses (payeeName payee) key =
        e.data.recentUses (payeeName payee) key := fun key => by
      rw [Snapshot.recentUses, Snapshot.recentUses, hrecent]
    simpa only [huses] using Snapshot.pairwise_templatesFor s' payee
  · intro request lookup items hlookup hsubject hitems
    rcases complete_eq_ok hm he hitems with rfl | hitems
    · exact ⟨[], nofun, by simp⟩
    obtain rfl := Except.ok.inj ((answer_of_lookup hlookup e.data).symm.trans hitems)
    refine ⟨foundFor e.settings e.data request.payee lookup,
      fun r hr => mem_payees_of_mem_foundFor hsubject hr, ?_⟩
    rw [map_numbered, map_searchAnew e.settings e.data request.payee hsubject]

/-- A request for the payee "S" behind a date. -/
def payeeRequest : Request where
  line := "2024-01-07 S".toList
  column := 12
  payee := none
  today := BuildOptions.plain.today

/-- Five uses of four templates of the payee, the second one twice. -/
def fiveUses : String :=
  "2024-01-01 S\n a\n a\n2024-01-02 S\n b\n b\n2024-01-03 S\n c\n c\n2024-01-04 S\n b\n b\n" ++
    "2024-01-05 S\n d\n d\n"

/-- The four templates by their uses and days. -/
def byUse (s : Snapshot) : List Template :=
  [1, 3, 2, 0].filterMap ((s.templateTable "S").values[·]?)

/-- The templates are listed by their uses and then by their days, and the first three are offered. -/
theorem templates_ordered_and_offered_of_payee_s :
    ∃ (s : Snapshot) (fresh : Matcher) (items : List Item),
      Snapshot.ofText .plain fiveUses = .ok s ∧ Matcher.make 50 1000 = .ok fresh ∧ s.Reachable ∧
      payeeRequest.lookup? .standard = some ⟨.payees, "S", 11⟩ ∧
      ((start .standard s).complete fresh payeeRequest).1 = .ok items ∧
      s.templatesFor "S" = Snapshot.sortedInTurn (fun t => s.recentUses "S" t.key)
        (s.templateTable "S").values ∧
      (s.templateTable "S").keys = ["a", "b", "c", "d"] ∧
      (s.templatesFor "S").map (·.key) = ["b", "d", "c", "a"] ∧
      items.map (fun i => (i.kind, i.insertText)) = [(.payee, "S"), (.template, "S\n    b"),
        (.template, "S\n    d"), (.template, "S\n    c")] := by
  have hlookup : payeeRequest.lookup? .standard = some ⟨.payees, "S", 11⟩ := by decide +kernel
  have hread : (Snapshot.ofText .plain fiveUses).map (fun s => decide (
      (s.templateTable "S").keys = ["a", "b", "c", "d"] ∧
      (byUse s).Perm (s.templateTable "S").values ∧
      ((byUse s).Pairwise fun a b => Snapshot.templateLe (fun t => s.recentUses "S" t.key) a b) ∧
      (byUse s).map (·.key) = ["b", "d", "c", "a"] ∧
      ((byUse s).take 3).map (·.rendered (formatIn s)) = ["S\n    b", "S\n    d", "S\n    c"] ∧
      (foundFor .standard s payeeRequest.payee ⟨.payees, "S", 11⟩).map
        (fun r => (r.item, decide (prefixBase ≤ r.score))) = [("S", true)])) = .ok true := by
    decide +kernel
  obtain ⟨s, htext, hfacts⟩ := exists_ok_of_map hread
  obtain ⟨hkeys, hperm, hsorted, hlisted, hrendered, hfound⟩ := of_decide_eq_true hfacts
  have hreachable : s.Reachable := .ofText htext
  have htemplates : byUse s = s.templatesFor "S" :=
    Snapshot.eq_templatesFor hreachable hperm (hsorted.imp Snapshot.templateLe_iff.mp)
  have hsnippets : snippetsOf s "S" = ["S\n    b", "S\n    d", "S\n    c"] := by
    rw [snippetsOf, ← htemplates]
    exact hrendered
  obtain ⟨r, hr, hitem⟩ := List.map_eq_singleton_iff.mp hfound
  obtain ⟨hname, hscore⟩ := Prod.mk.inj hitem
  obtain ⟨fresh, hfresh⟩ : ∃ fresh, Matcher.make 50 1000 = .ok fresh := ⟨_, rfl⟩
  have hremembers := Matcher.remembers_of_make hfresh fun _ => []
  have hcomplete := (complete_start hfresh .standard s payeeRequest).trans
    (answer_of_lookup hlookup s)
  obtain ⟨-, -, -, hturns, -, -⟩ :=
    templates_ordered_and_offered hremembers (ready_start .standard s) hreachable "S"
  refine ⟨s, fresh, _, htext, hfresh, hreachable, hlookup, hcomplete, hturns, hkeys, ?_, ?_⟩
  · rw [← htemplates]
    exact hlisted
  · have hoffered : offeredTexts s true "S" r = [(.payee, "S"), (.template, "S\n    b"),
        (.template, "S\n    d"), (.template, "S\n    c")] := by
      rw [offeredTexts, hname, hsnippets, if_pos ⟨rfl, by decide, of_decide_eq_true hscore⟩]
      rfl
    rw [map_numbered, map_searchAnew .standard s payeeRequest.payee rfl, hr]
    show List.take 50 (offeredTexts s true "S" r ++ []) = _
    rw [hoffered]
    rfl

end Engine

end Daybook.Completion
