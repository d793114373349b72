import Daybook.Proofs.Builder.Simulation
import Daybook.Proofs.Text.Split

/-!
# One text after another

A build of two texts, one after the other, does what a build of the first and a build of the second
do, if the first text leaves nothing behind that the second is read by and the second does not go on
with a transaction of the first.

* `Journal.textLines_append`: the lines of two texts.
* `Builder.isIndented`, `Builder.leavesState`: lines that go on with what stands before them, and
  lines with a directive that later lines are read by.
* `Builder.Fresh`: a build that is as it began, its snapshot apart.
* `Snapshot.joined_of_ofText`: the snapshot of two texts is the first one with what the second
  adds to it.
-/

namespace Daybook

open Calendar Journal Text

/-! ## The lines of two texts -/

namespace Journal

theorem textLines_empty : textLines "" = [] := rfl

/-- The lines of two texts, the first of which is empty or ends with a line break. -/
theorem textLines_append {t₁ : String} (h : t₁ = "" ∨ t₁.toList.getLast? = some '\n')
    (t₂ : String) : textLines (t₁ ++ t₂) = textLines t₁ ++ textLines t₂ := by
  rcases h with rfl | hlast
  · rw [String.empty_append, textLines_empty, List.nil_append]
  · obtain ⟨cs, hcs⟩ := List.getLast?_eq_some_iff.mp hlast
    have hlines : textLines t₁ = (splitAt '\n' cs).map (dropEndWhile (· == '\r')) := by
      have hsplit : splitAt '\n' (cs ++ ['\n']) = splitAt '\n' cs ++ [[]] := splitAt_append ..
      unfold textLines
      rw [hcs, hsplit]
      simp
    have hpieces : splitAt '\n' (t₁ ++ t₂).toList = splitAt '\n' cs ++ splitAt '\n' t₂.toList := by
      rw [String.toList_append, hcs, List.append_assoc, List.singleton_append, splitAt_append]
    have hne := splitAt_ne_nil '\n' t₂.toList
    rw [hlines]
    unfold textLines
    rw [hpieces]
    dsimp only
    rw [List.getLast?_append_of_ne_nil _ hne]
    split
    · rw [List.dropLast_append_of_ne_nil hne, List.map_append]
    · rw [List.map_append]

end Journal

namespace Builder

open BuildM

/-! ## What lines leave behind -/

/-- The directives that later lines are read by: those that set the year, the decimal mark, or the
format of commodities. -/
def lastingDirectives : List String :=
  ["Y", "year", "decimal-mark", "commodity", "format", "D"]

/-- Whether a line has a directive that later lines are read by. -/
def leavesState (cs : List Char) : Bool :=
  (readLine? cs).any fun r =>
    (lineDirective? (r.tokens 0)).any fun d => lastingDirectives.contains d.1

/-- Whether tokens are those of an indented line that is not blank. -/
def goesOn : List Token → Bool
  | first :: _ :: _ => first.kind = .indent
  | _ => false

/-- Whether a line is indented and not blank, so that it goes on with what stands before it. -/
def isIndented (cs : List Char) : Bool :=
  (readLine? cs).any fun r => goesOn (r.tokens 0)

/-- The directive on a line does not depend on the number of the line. -/
theorem lineDirective?_relocate (n : Int) (tokens : List Token) :
    lineDirective? (tokens.map (Token.relocate n)) =
      (lineDirective? tokens).map fun d => (d.1, d.2.map (Token.relocate n)) := by
  unfold lineDirective?
  rw [dropFirst_relocate]
  cases (if tokens.head?.any (·.kind = .indent) then tokens.tail else tokens) with
  | nil => rfl
  | cons head rest =>
    have hsame : (head.relocate n).kind = head.kind := rfl
    rw [List.map_cons]
    dsimp only
    by_cases hkind : head.kind = .directive
    · rw [if_pos hkind, if_pos (hsame.trans hkind)]
      rfl
    · rw [if_neg hkind, if_neg (hsame ▸ hkind)]
      rfl

theorem goesOn_relocate (n : Int) (tokens : List Token) :
    goesOn (tokens.map (Token.relocate n)) = goesOn tokens := by
  match tokens with
  | [] => rfl
  | [_] => rfl
  | _ :: _ :: _ => rfl

theorem tokens_eq_relocate (r : ReadLine) (line : Int) :
    r.tokens line = (r.tokens 0).map (Token.relocate line) := by
  rw [← r.tokens_relocate, Int.zero_add]

theorem goesOn_tokens {cs : List Char} (h : isIndented cs = false) {r : ReadLine}
    (hr : readLine? cs = some r) (line : Int) : goesOn (r.tokens line) = false := by
  rw [isIndented, hr, Option.any_some] at h
  rw [tokens_eq_relocate, goesOn_relocate, h]

theorem not_mem_lastingDirectives {cs : List Char} (h : leavesState cs = false) {r : ReadLine}
    (hr : readLine? cs = some r) {line : Int} {name : String} {args : List Token}
    (hdir : lineDirective? (r.tokens line) = some (name, args)) : name ∉ lastingDirectives := by
  rw [tokens_eq_relocate, lineDirective?_relocate] at hdir
  obtain ⟨d, hd, heq⟩ := Option.map_eq_some_iff.mp hdir
  have hname : d.1 = name := (Prod.mk.inj heq).1
  rw [leavesState, hr, Option.any_some, hd, Option.any_some, hname] at h
  simpa using h

/-! ## Builds that are as they began -/

theorem Unformatted.empty : Unformatted .empty where
  decimalMark := rfl
  format _ _ h := nomatch h

/-- What brings no format leaves none behind. -/
theorem Unformatted.of_formatsFrom {s s' : Snapshot} (h : Unformatted s)
    (hfrom : Snapshot.FormatsFrom s s') : Unformatted s' where
  decimalMark := hfrom.decimalMark.trans h.decimalMark
  format symbol c hc := by
    cases hf : c.format with
    | none => rfl
    | some f =>
      obtain ⟨c', hc', hf'⟩ := hfrom.format hc hf
      rw [h.format hc'] at hf'
      cases hf'

/-- Whether a build reads lines as it did when it began. -/
structure Fresh (options : BuildOptions) (b : Builder) : Prop where
  options_eq : b.options = options
  defaultYear : b.defaultYear = options.defaultYear
  lastCommodity : b.lastCommodity = none
  unformatted : Unformatted b.snapshot

theorem fresh_start (options : BuildOptions) : Fresh options (Builder.start options) :=
  ⟨rfl, rfl, rfl, Unformatted.empty⟩

theorem reading_fresh (options : BuildOptions) : Reading (Fresh options) where
  tokens _ _ h := { h with }
  warn _ _ h := { h with unformatted := ⟨h.unformatted.decimalMark, h.unformatted.format⟩ }
  reading _ _ h := { h with }
  record complaint t h :=
    { h with unformatted := h.unformatted.of_formatsFrom (.recordTransaction _ complaint t _) }

/-- Directives that later lines are not read by leave a build fresh. -/
theorem keeps_fresh_directive {options : BuildOptions} {name : String}
    (hname : name ∉ lastingDirectives) (args : List Token) (line : Int) :
    Keeps (Fresh options) (directive name args line) := by
  intro b a b' h hb
  have hsame : ∀ {s : Snapshot}, s.decimalMark = b.snapshot.decimalMark →
      s.commodities = b.snapshot.commodities → Unformatted s := by
    intro s hmark hcommodities
    exact ⟨hmark.trans hb.unformatted.decimalMark, hcommodities ▸ hb.unformatted.format⟩
  have hno : ∀ other ∈ lastingDirectives, name ≠ other := fun other hother heq =>
    hname (heq ▸ hother)
  cases directed_of_outcome h with
  | nothing => exact hb
  | warn message => exact { hb with unformatted := hsame rfl rfl }
  | commodity hcommodity =>
    rcases hcommodity with heq | heq | heq <;> exact absurd heq (hno _ (by decide))
  | defaultCommodity hcommodity =>
    rcases hcommodity with heq | heq | heq <;> exact absurd heq (hno _ (by decide))
  | account account => exact { hb with unformatted := hsame rfl rfl }
  | accountAlias source target => exact { hb with unformatted := hsame rfl rfl }
  | decimalMark heq => exact absurd heq (hno _ (by decide))
  | inclusion _ target => exact { hb with unformatted := hsame rfl rfl }
  | price symbols =>
    exact { hb with unformatted := hb.unformatted.of_formatsFrom (.foldl_mentionCommodity symbols _) }
  | payee payee => exact { hb with unformatted := hsame rfl rfl }
  | tag key => exact { hb with unformatted := hsame rfl rfl }
  | year heq => rcases heq with heq | heq <;> exact absurd heq (hno _ (by decide))

/-! ## Lines after a closed transaction -/

section Closed

variable (b : Builder)

/-- A closed build reads no transaction and passes none over; the tokens stay. -/
theorem closed_frame :
    b.closed.openTransaction = none ∧ b.closed.skipping = false ∧
      b.closed.pending = b.pending := by
  cases ht : b.openTransaction with
  | none =>
    rw [closed_of_none ht]
    exact ⟨rfl, rfl, rfl⟩
  | some t =>
    rw [closed_of_some ht]
    exact warnUnread_induction (motive := fun b' =>
      b'.openTransaction = none ∧ b'.skipping = false ∧ b'.pending = b.pending)
      ⟨rfl, rfl, rfl⟩ ⟨rfl, rfl, rfl⟩

theorem openTransaction_closed : b.closed.openTransaction = none :=
  (closed_frame b).1

theorem pending_closed : b.closed.pending = b.pending :=
  (closed_frame b).2.2

theorem stopsClosing_closed : b.closed.stopsClosing = false := by
  rw [stopsClosing, openTransaction_closed, Option.any_none]

/-- There is nothing left to close. -/
theorem closed_closed : b.closed.closed = b.closed := by
  obtain ⟨hopen, hskipping, -⟩ := closed_frame b
  have hidle : b.closed.idle = b.closed := by
    rw [idle, ← hopen, ← hskipping]
  exact (closed_of_none hopen).trans hidle

theorem closed_taking (r : ReadLine) (line : Int) (length : Nat) :
    (b.taking r line length).closed = b.closed.taking r line length := by
  have hopen : (b.taking r line length).openTransaction = b.openTransaction := rfl
  unfold closed
  rw [hopen]
  cases b.openTransaction with
  | none => rfl
  | some t =>
    unfold warnUnread
    dsimp only
    split <;> rfl

end Closed

variable {b : Builder}

/-- A line that does not go on with what stands before it closes the transaction first. -/
theorem outcome_handleLine_closed {tokens : List Token} (h : goesOn tokens = false) (line : Int)
    (hstop : b.stopsClosing = false) :
    outcome (handleLine tokens line) b.closed = outcome (handleLine tokens line) b := by
  have hclose : outcome closeTransaction b.closed = outcome closeTransaction b := by
    rw [outcome_closeTransaction, outcome_closeTransaction, stopsClosing_closed, closed_closed,
      hstop]
  cases tokens with
  | nil => exact hclose
  | cons first others =>
    unfold handleLine
    dsimp only
    by_cases hindent : first.kind = .indent
    · rw [if_pos hindent]
      cases others with
      | nil => exact hclose
      | cons head rest =>
        rw [goesOn, decide_eq_false_iff_not] at h
        exact absurd hindent h
    · rw [if_neg hindent, outcome_handleFlush, outcome_handleFlush, stopsClosing_closed,
        closed_closed, hstop]

theorem outcome_feedLineTokens_closed {first : Int} {cs : List Char} {rest : List (List Char)}
    (h : isIndented cs = false) (hpending : b.pending = []) (hstop : b.stopsClosing = false) :
    outcome (feedLineTokens first (cs :: rest)) b.closed =
      outcome (feedLineTokens first (cs :: rest)) b := by
  have hclosed : b.closed.pending = [] := (pending_closed b).trans hpending
  rw [outcome_feedLineTokens_cons _ _ _ hclosed, outcome_feedLineTokens_cons _ _ _ hpending]
  cases hr : readLine? cs with
  | none => rfl
  | some r =>
    dsimp only
    have hstop' : (b.taking r first cs.length).stopsClosing = false := hstop
    rw [← closed_taking, outcome_handleLine_closed (goesOn_tokens h hr first) first hstop']

/-- Lines that do not go on with what stands before them lead to the same end whether or not the
transaction before them is closed first. -/
theorem exists_feedLineTokens_of_closed {first : Int} {lines : List (List Char)} {b₁ : Builder}
    (hindent : ∀ cs ∈ lines.head?, isIndented cs = false) (hpending : b.pending = [])
    (hstop : b.stopsClosing = false)
    (h : outcome (feedLineTokens first lines) b.closed = .ok ((), b₁)) :
    ∃ b₂, outcome (feedLineTokens first lines) b = .ok ((), b₂) ∧
      b₂.stopsClosing = b₁.stopsClosing ∧ b₂.closed = b₁.closed := by
  cases lines with
  | nil =>
    cases h
    exact ⟨b, rfl, hstop.trans (stopsClosing_closed b).symm, (closed_closed b).symm⟩
  | cons cs rest =>
    rw [outcome_feedLineTokens_closed (hindent cs rfl) hpending hstop] at h
    exact ⟨b₁, h, rfl, rfl⟩

end Builder

/-! ## Snapshots of two texts -/

namespace Snapshot

open Builder BuildM

theorem Joined.addSource {base added s : Snapshot} {n : Int} (h : Joined base n added s)
    (fingerprint fingerprint' : String) :
    Joined base n (added.addSource fingerprint) (s.addSource fingerprint') :=
  { h with }

/-- **One text after another.**  If the first text leaves nothing behind that lines are read by and
the second does not go on with a transaction of the first, the snapshot of both is that of the
first with what the second adds to it. -/
theorem joined_of_ofText {options : BuildOptions} {source₁ source₂ : Option String}
    {t₁ t₂ : String} {a b : Snapshot} (hend : t₁ = "" ∨ t₁.toList.getLast? = some '\n')
    (hleaves : ∀ cs ∈ textLines t₁, leavesState cs = false)
    (hindent : ∀ cs ∈ (textLines t₂).head?, isIndented cs = false)
    (ha : ofText { options with source := source₁ } t₁ = .ok a)
    (hb : ofText { options with source := source₂ } t₂ = .ok b) (source : Option String) :
    a.decimalMark = none ∧
      ∃ c, ofText { options with source } (t₁ ++ t₂) = .ok c ∧
        Joined a (textLines t₁).length b c := by
  have hreachable := Reachable.ofText ha
  obtain ⟨b₁, hlines₁, hstop₁, rfl⟩ := ofText_eq_ok_iff.mp ha
  obtain ⟨b₂, hlines₂, hstop₂, rfl⟩ := ofText_eq_ok_iff.mp hb
  have hstart₁ : Follows .empty 0 (start { options with source := source₁ })
      (start { options with source }) :=
    ⟨rfl, rfl, rfl, rfl, rfl, rfl, joined_empty rfl 0⟩
  obtain ⟨d₁, hd₁, hfollows₁⟩ := hstart₁.feedLineTokens Unformatted.empty rfl rfl hlines₁
  rw [Int.add_zero] at hd₁
  have hpending := pending_of_feedLineTokens rfl hd₁
  have hstop := hfollows₁.stopsClosing.trans hstop₁
  have hfresh : Fresh { options with source } d₁.closed := by
    refine (reading_fresh _).closed ((reading_fresh _).keeps_lines ?_ rfl hd₁ (fresh_start _))
    intro cs hcs r hr line name args hdir
    exact keeps_fresh_directive (not_mem_lastingDirectives (hleaves cs hcs) hr hdir) args line
  -- After the first text the build is as it began, so the second text finds what it finds alone.
  have hstart₂ : Follows d₁.closed.snapshot (textLines t₁).length
      (start { options with source := source₂ }) d₁.closed :=
    { dateOrder := by rw [hfresh.options_eq]; rfl
      today := by rw [hfresh.options_eq]; rfl
      defaultYear := hfresh.defaultYear
      openTransaction := openTransaction_closed d₁
      skipping := (closed_frame d₁).2.1
      lastCommodity := hfresh.lastCommodity
      snapshot := joined_empty hfresh.unformatted.decimalMark _ }
  obtain ⟨d₂, hd₂, hfollows₂⟩ := hstart₂.feedLineTokens hfresh.unformatted rfl
    ((pending_closed d₁).trans hpending) hlines₂
  obtain ⟨d, hd, hstopd, hclosed⟩ := exists_feedLineTokens_of_closed hindent hpending hstop hd₂
  have hboth : outcome (feedLineTokens 0 (textLines (t₁ ++ t₂))) (start { options with source }) =
      .ok ((), d) := by
    rw [textLines_append hend, feedLineTokens_append, outcome_bind, hd₁]
    exact hd
  have hbase := hfollows₁.closed.snapshot.addSource b₁.closed.fingerprint d₁.closed.fingerprint
  have hadded := hfollows₂.closed.snapshot.addSource b₂.closed.fingerprint d.closed.fingerprint
  refine ⟨hbase.decimalMark.symm.trans hfresh.unformatted.decimalMark, _,
    ofText_eq_ok_iff.mpr ⟨d, hboth, hstopd.trans (hfollows₂.stopsClosing.trans hstop₂), rfl⟩, ?_⟩
  rw [hclosed]
  exact Joined.rebase hbase (distinct_of_reachable hreachable).includes { hadded with }

end Snapshot

end Daybook
