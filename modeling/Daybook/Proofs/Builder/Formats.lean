import Daybook.Proofs.Builder.Lines
import Daybook.Proofs.Snapshot.Formats

/-!
# Formats while lines are read

The format of a commodity is the first one that a directive gives it; transactions bring none.  A
decimal mark that was set is never taken back.  So what a directive says about a commodity without a
format still holds when a posting further down is read.

* `Snapshot.formatOf_addCommodity`, `Snapshot.formatOf_recordTransaction`: what changes a format.
* `Builder.reading_formats`: transactions leave formats and the decimal mark alone.
* `Builder.formatOf_of_feedLineTokens`: **the first format stays**.
* `Builder.decimalMark_of_feedLineTokens`: without a decimal mark at the end there was none before.
* `Builder.Handling.exists_directive`: the state in which the directive of a line acts.
-/

namespace Daybook

open Journal Amount

/-! ## Changes of a format -/

namespace Snapshot

variable {symbol : String}

/-- A commodity that is added gives its format only where there is none. -/
theorem formatOf_addCommodity (s : Snapshot) (name : String) (commodity : Commodity) :
    (s.addCommodity name commodity).formatOf symbol =
      if name = symbol then (s.formatOf symbol).or commodity.format else s.formatOf symbol := by
  unfold formatOf addCommodity
  dsimp only
  rw [Table.get?_alter]
  by_cases hname : name = symbol
  · rw [if_pos hname.symm, if_pos hname, hname]
    cases s.commodities.get? symbol with
    | none => rfl
    | some c => cases hformat : c.format <;> simp [hformat]
  · rw [if_neg (Ne.symm hname), if_neg hname]

theorem formatOf_mentionCommodity (s : Snapshot) (name : String) :
    (s.mentionCommodity name).formatOf symbol = s.formatOf symbol := by
  rw [mentionCommodity, formatOf_addCommodity, Option.or_none, ite_self]

theorem formatOf_foldl_mentionCommodity (names : List String) (s : Snapshot) :
    (names.foldl mentionCommodity s).formatOf symbol = s.formatOf symbol := by
  induction names generalizing s with
  | nil => rfl
  | cons name rest ih => rw [List.foldl_cons, ih, formatOf_mentionCommodity]

/-- A transaction changes no format. -/
theorem formatOf_recordTransaction (day : String → Option Calendar.Date)
    (complaint : String → Warning) (t : Transaction) (s : Snapshot) :
    (s.recordTransaction day complaint t).formatOf symbol = s.formatOf symbol := by
  have henter : (s.enter day complaint t).formatOf symbol = s.formatOf symbol := by
    refine foldl_record_induction (P := fun s' => s'.formatOf symbol = s.formatOf symbol)
      (fun e s' h => ?_) _ rfl
    cases e with
    | tag tag =>
      rw [BookEntry.record, useTag_eq]
      exact h
    | commodity name => exact (formatOf_mentionCommodity s' name).trans h
    | sideCommodity name => exact (formatOf_mentionCommodity s' name).trans h
    | _ => exact h
  rw [recordTransaction_eq]
  split
  · exact henter
  · exact henter

end Snapshot

/-! ## What lines hand on -/

namespace Builder

open BuildM

variable {b b' : Builder} {symbol : String}

/-- **Transactions leave formats alone**, and the decimal mark and the commodity that was declared
last. -/
theorem reading_formats (symbol : String)
    (q : Option CommodityFormat → Option String → Option String → Prop) :
    Reading fun b => q (b.snapshot.formatOf symbol) b.snapshot.decimalMark b.lastCommodity where
  tokens _ _ h := h
  warn _ _ h := h
  reading _ _ h := h
  record complaint t h := by
    dsimp only [Builder.record]
    rw [Snapshot.formatOf_recordTransaction,
      (Snapshot.FormatsFrom.recordTransaction _ complaint t _).decimalMark]
    exact h

/-- No directive changes a format. -/
theorem keeps_formatOf_directive (f : CommodityFormat) (name : String) (args : List Token)
    (line : Int) :
    Keeps (fun b => b.snapshot.formatOf symbol = some f) (directive name args line) := by
  intro b u b' h hb
  have hadd : ∀ (c : String) (commodity : Commodity),
      (b.snapshot.addCommodity c commodity).formatOf symbol = some f := by
    intro c commodity
    rw [Snapshot.formatOf_addCommodity, hb, Option.some_or, ite_self]
  cases directed_of_outcome h with
  | commodity _ c commodity _ _ => exact hadd c commodity
  | defaultCommodity _ c commodity _ => exact hadd c commodity
  | price symbols => exact (Snapshot.formatOf_foldl_mentionCommodity symbols b.snapshot).trans hb
  | _ => exact hb

/-- No directive takes a decimal mark back. -/
theorem keeps_decimalMark_directive (name : String) (args : List Token) (line : Int) :
    Keeps (fun b => b.snapshot.decimalMark ≠ none) (directive name args line) := by
  intro b u b' h hb
  cases directed_of_outcome h with
  | decimalMark _ mark _ => exact Option.some_ne_none mark
  | price symbols =>
    have hsame := (Snapshot.FormatsFrom.foldl_mentionCommodity symbols b.snapshot).decimalMark
    exact fun hnone => hb (hsame.symm.trans hnone)
  | _ => exact hb

/-- **The first format stays.** -/
theorem formatOf_of_feedLineTokens {f : CommodityFormat} {first : Int} {lines : List (List Char)}
    (h : outcome (feedLineTokens first lines) b = .ok ((), b'))
    (hb : b.snapshot.formatOf symbol = some f) : b'.snapshot.formatOf symbol = some f :=
  (reading_formats symbol fun format _ _ => format = some f).keeps_feedLineTokens
    (fun name args line => keeps_formatOf_directive f name args line) first lines h hb

/-- Without a decimal mark at the end there was none before. -/
theorem decimalMark_of_feedLineTokens {first : Int} {lines : List (List Char)}
    (h : outcome (feedLineTokens first lines) b = .ok ((), b'))
    (hb' : b'.snapshot.decimalMark = none) : b.snapshot.decimalMark = none := by
  by_contra hb
  exact (reading_formats "" fun _ mark _ => mark ≠ none).keeps_feedLineTokens
    keeps_decimalMark_directive first lines h hb hb'

/-- **The directive of a line** acts on the state before the line, perhaps after a transaction was
closed. -/
theorem Handling.exists_directive {P : Builder → Prop} (hP : Handling P) {tokens args : List Token}
    {line : Int} {name : String} (hdir : lineDirective? tokens = some (name, args))
    (h : outcome (handleLine tokens line) b = .ok ((), b')) (hb : P b) :
    ∃ b₀, P b₀ ∧ outcome (directive name args line) b₀ = .ok ((), b') := by
  cases tokens with
  | nil => cases hdir
  | cons first others =>
    by_cases hindent : first.kind = .indent
    · cases others with
      | nil => simp [lineDirective?, hindent] at hdir
      | cons head rest =>
        obtain ⟨hkind, rfl, rfl⟩ : head.kind = .directive ∧ head.text = name ∧ rest = args := by
          simpa [lineDirective?, hindent] using hdir
        rw [handleLine_indented hindent, outcome_handleIndented, if_pos hkind] at h
        exact ⟨b, hb, h⟩
    · obtain ⟨hkind, rfl, rfl⟩ : first.kind = .directive ∧ first.text = name ∧ others = args := by
        simpa [lineDirective?, hindent] using hdir
      rw [handleLine_flush hindent, outcome_handleFlush] at h
      split at h
      · cases h
      · rw [begin, hkind] at h
        exact ⟨b.closed, hP.closed hb, h⟩

end Builder

end Daybook
