import Daybook.Proofs.Completion.Origin
import Daybook.Proofs.Snapshot.Symbols

/-!
# Suggested symbols

What an engine suggests for a commodity is one of the symbols of the snapshot, with the quotes it
needs.  It is meant to be written into a journal as it stands, so it should be read there as that
symbol.  It is, but for the signs of postings, which are suggested without quotes.

* `symbol_of_mem_answer`: the suggestions that are commodities.
* `Engine.suggested_symbols_read_back`: what is read of them.
-/

namespace Daybook.Completion

open Search Amount

/-! ## What is suggested -/

/-- **The suggestions that are commodities** are symbols of the snapshot with the quotes that they
need. -/
theorem symbol_of_mem_answer {settings : Settings} {s : Snapshot} {request : Request}
    {items : List Item} (h : answer settings s request = .ok items) {i : Item} (hi : i ∈ items)
    (hkind : i.kind = .commodity) :
    i.label ∈ s.commodities.keys ∧ i.insertText = quoteSymbol i.label := by
  obtain rfl | ⟨position, domain, all, -, -, hall, rfl⟩ := answer_eq_ok h
  · cases hi
  obtain ⟨j, hj, heq⟩ := mem_numbered hi
  rw [heq] at hkind ⊢
  obtain rfl | ⟨-, hdays⟩ | ⟨lookup, -, rfl⟩ := suggestAnew_eq_ok hall
  · cases hj
  · obtain ⟨days, hsuggested⟩ := exists_suggestedDays_of_dateItems hdays
    obtain ⟨items, hitems, -, hday⟩ := exists_dateItems hsuggested position.before
    cases hdays.symm.trans hitems
    obtain ⟨day, -, hj⟩ := hday j hj
    cases hj.kind_eq.symm.trans hkind
  obtain ⟨r, hr, rfl | ⟨-, t, rfl⟩⟩ := mem_searchAnew hj
  · have hname := (mem_names_and_finds_of_mem_matchesOf hr).1
    unfold offer at hkind ⊢
    cases hsubject : lookup.subject with
    | commodities =>
      rw [hsubject] at hname
      exact ⟨hname, rfl⟩
    | _ =>
      rw [hsubject] at hkind
      cases hkind
  · cases hkind

/-! ## What is read of them -/

/-- Whether a text is read as a symbol wherever an amount can have one: by itself, behind a number
and in front of one. -/
structure ReadsAs (text symbol : String) : Prop where
  alone : symbolOf? text = some symbol
  behind : ∀ sign number gap : List Char, IsSignText sign → IsNumber number →
    (∀ x ∈ gap, x = ' ') →
    (ofChars? (sign ++ (number ++ (gap ++ text.toList)))).map (·.commodity) = some (some symbol)
  before : ∀ sign number gap : List Char, IsSignText sign → IsNumber number →
    (∀ x ∈ gap, x = ' ') →
    (ofChars? (sign ++ (text.toList ++ (gap ++ number)))).map (·.commodity) = some (some symbol)

/-- A symbol with the quotes it needs is read wherever it can stand, if it is read by itself. -/
theorem readsAs_quoteSymbol {symbol : String}
    (h : symbolOf? (quoteSymbol symbol) = some symbol) : ReadsAs (quoteSymbol symbol) symbol := by
  obtain ⟨htext, hunquote⟩ := isSymbolText_quoteSymbol h
  refine ⟨h, fun sign number gap hsign hnumber hgap => ?_,
    fun sign number gap hsign hnumber hgap => ?_⟩
  · rw [ofChars?_symbol_last hsign hnumber hgap htext, Option.map_some, hunquote,
      String.ofList_toList]
  · have hfirst := ofChars?_symbol_first hsign (.inl rfl) (.inr rfl) hnumber hgap htext
    rw [List.nil_append] at hfirst
    rw [hfirst, Option.map_some, hunquote, String.ofList_toList]

namespace Engine

/-- **Suggested symbols are read back.**  A symbol that can stand between quotes is read as itself with
the quotes it is given, unless it is one of the signs of postings.  All symbols of a reachable snapshot
can stand between quotes; the commodities that an engine suggests are among them, and each is suggested
with the quotes it is given.  So what is suggested is read as the symbol wherever an amount can have
one, for every symbol but the empty one and the signs of postings, and for these it is no symbol. -/
theorem suggested_symbols_read_back {maxResults maxCacheSize : Int} {fresh : Matcher}
    (hfresh : Matcher.make maxResults maxCacheSize = .ok fresh) (settings : Settings) {s : Snapshot}
    (hs : Snapshot.Reachable s) (request : Request) :
    (∀ symbol, symbol ≠ "" → IsQuotable symbol →
      symbolOf? (quoteSymbol symbol) = if IsPostingSign symbol then none else some symbol) ∧
    s.Quotable ∧
    ∀ items, ((start settings s).complete fresh request).1 = .ok items →
      ∀ i ∈ items, i.kind = .commodity →
        i.label ∈ s.commodities.keys ∧ i.insertText = quoteSymbol i.label ∧
        if i.label = "" ∨ IsPostingSign i.label then symbolOf? i.insertText = none
        else ReadsAs i.insertText i.label := by
  have hquotable := Snapshot.quotable_of_reachable hs
  refine ⟨fun _ => symbolOf?_quoteSymbol, hquotable, fun items hitems i hi hkind => ?_⟩
  rw [complete_start hfresh] at hitems
  obtain ⟨hlabel, htext⟩ := symbol_of_mem_answer hitems hi hkind
  refine ⟨hlabel, htext, ?_⟩
  rw [htext]
  by_cases hempty : i.label = ""
  · rw [if_pos (.inl hempty), hempty]
    rfl
  have hread := symbolOf?_quoteSymbol hempty (hquotable.commodities i.label hlabel)
  by_cases hsign : IsPostingSign i.label
  · rw [if_pos (.inr hsign), hread, if_pos hsign]
  · rw [if_neg (not_or.mpr ⟨hempty, hsign⟩)]
    exact readsAs_quoteSymbol (hread.trans (if_neg hsign))

/-- A journal with one posting, the amount of which has a symbol between quotes. -/
def quotedSymbolJournal (symbol : String) : String :=
  "2024-01-05 x\n a  1 \"" ++ symbol ++ "\"\n"

/-- A request for all commodities behind the number of a posting. -/
def commodityRequest : Request where
  line := " a  1 ".toList
  column := 6
  payee := none
  today := BuildOptions.plain.today

/-- The suggestion for a commodity without a format. -/
def symbolItem (label text : String) : Item where
  label := label
  kind := .commodity
  insertText := text
  replaceStart := 6
  sortKey := "00000"

/-- A symbol of two words is suggested with quotes and read back. -/
theorem suggested_symbols_read_back_of_two_words :
    ∃ s fresh, Snapshot.ofText .plain (quotedSymbolJournal "green apples") = .ok s ∧
      Matcher.make 50 1000 = .ok fresh ∧
      ((start .standard s).complete fresh commodityRequest).1 =
        .ok [symbolItem "green apples" "\"green apples\""] ∧
      ReadsAs "\"green apples\"" "green apples" := by
  have hread : (Snapshot.ofText .plain (quotedSymbolJournal "green apples")).map
      (answer .standard · commodityRequest) =
        .ok (.ok [symbolItem "green apples" "\"green apples\""]) := by
    decide +kernel
  obtain ⟨s, htext, hitems⟩ := exists_ok_of_map hread
  have hcomplete := (complete_start (rfl : Matcher.make 50 1000 = .ok _) .standard s
    commodityRequest).trans hitems
  obtain ⟨-, -, hsuggested⟩ := suggested_symbols_read_back (rfl : Matcher.make 50 1000 = .ok _)
    .standard (.ofText htext) commodityRequest
  obtain ⟨-, -, hreads⟩ := hsuggested _ hcomplete _ (List.mem_singleton.mpr rfl) rfl
  rw [if_neg (by decide)] at hreads
  exact ⟨s, _, htext, rfl, hcomplete, hreads⟩

/-- **A sign of postings is suggested without quotes**, and what is suggested is no symbol. -/
theorem suggested_minus_not_read_back :
    ∃ s fresh, Snapshot.ofText .plain (quotedSymbolJournal "-") = .ok s ∧
      Matcher.make 50 1000 = .ok fresh ∧
      ((start .standard s).complete fresh commodityRequest).1 = .ok [symbolItem "-" "-"] ∧
      symbolOf? (quoteSymbol "-") = none ∧ ofText? "1 -" = none := by
  have hread : (Snapshot.ofText .plain (quotedSymbolJournal "-")).map
      (answer .standard · commodityRequest) = .ok (.ok [symbolItem "-" "-"]) := by
    decide +kernel
  obtain ⟨s, htext, hitems⟩ := exists_ok_of_map hread
  have hcomplete := (complete_start (rfl : Matcher.make 50 1000 = .ok _) .standard s
    commodityRequest).trans hitems
  exact ⟨s, _, htext, rfl, hcomplete, by decide +kernel, by decide +kernel⟩

end Engine

end Daybook.Completion
