import Daybook.Proofs.Builder.Portions

/-!
# Builds on other days

A date without a year takes that of the present day, if nothing else sets one.  This is all that a
build takes from the present day, so a text has the same snapshot on all days of a year.

* `Date.yearStart`, `Builder.atYearStart`: the first day of a year, and a build on that day.
* `Builder.Timeless`: a step that does the same there, with `Timeless.bind`, `Timeless.directive`,
  `Timeless.handleLine`, …
* `Snapshot.ofText_congr_year`, `Snapshot.ofPortions_congr_year`: the snapshots of a text on two days
  of a year.
-/

namespace Daybook

open Calendar Journal

/-- The first day of the year of a day. -/
def Calendar.Date.yearStart (d : Date) : Date :=
  ⟨d.year, 1, 1, d.isDay.1, d.isDay.2.1, Nat.le_refl 1, by decide, Nat.le_refl 1, by
    rw [monthLength, if_neg (by decide), if_neg (by decide)]
    decide⟩

namespace Builder

open BuildM

/-- The state of a build on the first day of the year. -/
def atYearStart (b : Builder) : Builder :=
  { b with options := { b.options with today := b.options.today.yearStart } }

/-- Whether a step does the same on the first day of the year. -/
def Timeless (m : BuildM Unit) : Prop :=
  ∀ b : Builder, outcome m b.atYearStart = (outcome m b).map fun r => (r.1, r.2.atYearStart)

section Timeless

variable {m : BuildM Unit}

theorem Timeless.bind (hm : Timeless m) {f : Unit → BuildM Unit} (hf : Timeless (f ())) :
    Timeless (m >>= f) := by
  intro b
  rw [outcome_bind, outcome_bind, hm b]
  cases outcome m b with
  | error e => rfl
  | ok r => exact hf r.2

theorem Timeless.pure : Timeless (pure ()) :=
  fun _ => rfl

theorem Timeless.throw (e : BuildError) : Timeless (throw e) :=
  fun _ => rfl

/-- A change that does not look at the day is timeless. -/
theorem Timeless.modify {f : Builder → Builder} (hf : ∀ b, f b.atYearStart = (f b).atYearStart) :
    Timeless (modify f) :=
  fun b => congrArg (fun b => Except.ok ((), b)) (hf b)

end Timeless

/-! ## Dates and the end of a transaction -/

theorem readDate_atYearStart (b : Builder) : b.atYearStart.readDate = b.readDate :=
  rfl

theorem stopsClosing_atYearStart (b : Builder) : b.atYearStart.stopsClosing = b.stopsClosing :=
  rfl

theorem closed_atYearStart (b : Builder) : b.atYearStart.closed = b.closed.atYearStart := by
  cases ht : b.openTransaction with
  | none =>
    rw [closed_of_none ht, closed_of_none (b := b.atYearStart) ht]
    rfl
  | some t =>
    have hwarned : b.atYearStart.idle.warnUnread t = (b.idle.warnUnread t).atYearStart := by
      unfold warnUnread
      split <;> rfl
    rw [closed_of_some ht, closed_of_some (b := b.atYearStart) ht, hwarned]
    rfl

theorem Timeless.closeTransaction : Timeless closeTransaction := by
  intro b
  rw [outcome_closeTransaction, outcome_closeTransaction, stopsClosing_atYearStart,
    closed_atYearStart]
  split <;> rfl

/-! ## Directives -/

theorem formatDirective_atYearStart (format : Option Amount.CommodityFormat) (b : Builder) :
    formatDirective format b.atYearStart = (formatDirective format b).atYearStart := by
  have hlast : b.atYearStart.lastCommodity = b.lastCommodity := rfl
  symm
  unfold formatDirective
  rw [hlast]
  cases format with
  | none => rfl
  | some f => exact apply_ite atYearStart _ b _

theorem commodityDirective_atYearStart (name : String) (args : List Token) (b : Builder) :
    commodityDirective name args b.atYearStart =
      (commodityDirective name args b).atYearStart := by
  unfold commodityDirective
  dsimp only
  split
  · exact formatDirective_atYearStart _ b
  · cases firstOf? .commodity args with
    | none => rfl
    | some tok =>
      dsimp only
      split <;> rfl

theorem aliasDirective_atYearStart (args : List Token) (b : Builder) :
    aliasDirective args b.atYearStart = (aliasDirective args b).atYearStart := by
  unfold aliasDirective
  split
  · split
    · rfl
    · split <;> rfl
  · rfl

theorem Timeless.directive (name : String) (args : List Token) (line : Int) :
    Timeless (directive name args line) := by
  refine directive_induction (motive := Timeless) .pure ?warn ?commodity ?account ?accountAlias
    ?decimalMark ?inclusion ?price ?payee ?tag ?year ?badYear
  case warn => exact fun _ _ => .modify fun _ => rfl
  case commodity => exact fun _ => .modify (commodityDirective_atYearStart name args)
  case account => exact fun _ => .modify fun _ => rfl
  case accountAlias => exact .modify (aliasDirective_atYearStart args)
  case decimalMark => exact fun _ _ _ => .modify fun _ => rfl
  case inclusion => exact fun _ _ => .modify fun _ => rfl
  case price => exact fun _ _ => .modify fun _ => rfl
  case payee => exact fun _ _ => .modify fun _ => rfl
  case tag => exact fun _ => .modify fun _ => rfl
  case year => exact fun _ _ _ _ _ => .modify fun _ => rfl
  case badYear => exact fun _ _ _ _ _ => .throw _

/-! ## Lines -/

theorem Timeless.openTransactionAt (raw : String) (rest : List Token) (line : Int) :
    Timeless (openTransactionAt raw rest line) := by
  intro b
  rw [outcome_openTransactionAt, outcome_openTransactionAt, readDate_atYearStart]
  cases b.readDate raw with
  | error e => rfl
  | ok day =>
    cases day with
    | none => rfl
    | some date =>
      dsimp only
      cases readHeader ⟨line, date, "", .unmarked, none, none, [], [], []⟩ rest <;> rfl

theorem Timeless.handleIndented (head : Token) (rest : List Token) (line : Int) :
    Timeless (handleIndented head rest line) := by
  intro b
  rw [outcome_handleIndented, outcome_handleIndented]
  by_cases hdir : head.kind = .directive
  · rw [if_pos hdir, if_pos hdir]
    exact Timeless.directive _ _ _ b
  rw [if_neg hdir, if_neg hdir]
  have hskipping : b.atYearStart.skipping = b.skipping := rfl
  have hopen : b.atYearStart.openTransaction = b.openTransaction := rfl
  have hposting : b.atYearStart.readPosting (head :: rest) = b.readPosting (head :: rest) := rfl
  rw [hskipping, hopen, hposting]
  split
  · rfl
  cases b.openTransaction with
  | none =>
    dsimp only
    split <;> rfl
  | some t =>
    dsimp only
    split
    · rfl
    · cases b.readPosting (head :: rest) with
      | error e => rfl
      | ok p => cases p <;> rfl

theorem Timeless.handleFlush (head : Token) (rest : List Token) (line : Int) :
    Timeless (handleFlush head rest line) := by
  have hbegin : Timeless (begin head rest line) := by
    unfold begin
    split
    · exact .openTransactionAt _ _ _
    · exact .directive _ _ _
    · exact .modify fun _ => rfl
    · exact .pure
  exact Timeless.closeTransaction.bind hbegin

/-- **A line does the same on all days of a year.** -/
theorem Timeless.handleLine (tokens : List Token) (line : Int) :
    Timeless (handleLine tokens line) := by
  unfold Builder.handleLine
  split
  · exact .closeTransaction
  · split
    · split
      · exact .closeTransaction
      · exact .handleIndented _ _ _
    · exact .handleFlush _ _ _

theorem outcome_feedLineTokens_atYearStart {first : Int} {lines : List (List Char)} {b : Builder}
    (hpending : b.pending = []) :
    outcome (feedLineTokens first lines) b.atYearStart =
      (outcome (feedLineTokens first lines) b).map fun r => (r.1, r.2.atYearStart) := by
  induction lines generalizing first b with
  | nil => rfl
  | cons cs rest ih =>
    rw [outcome_feedLineTokens_cons first cs rest hpending,
      outcome_feedLineTokens_cons first cs rest (b := b.atYearStart) hpending]
    cases readLine? cs with
    | none => rfl
    | some r =>
      have hline := Timeless.handleLine (r.tokens first) first (b.taking r first cs.length)
      have htaking : b.atYearStart.taking r first cs.length =
          (b.taking r first cs.length).atYearStart := rfl
      dsimp only
      rw [htaking, hline]
      cases outcome (Builder.handleLine (r.tokens first) first) (b.taking r first cs.length) with
      | error e => rfl
      | ok done => exact ih (b := { done.2 with pending := [] }) rfl

end Builder

/-! ## Texts -/

namespace Snapshot

open Builder BuildM

theorem ofText_yearStart (options : BuildOptions) (text : String) :
    ofText { options with today := options.today.yearStart } text = ofText options text := by
  have hstart : Builder.start { options with today := options.today.yearStart } =
      (Builder.start options).atYearStart := rfl
  rw [ofText_eq, ofText_eq, hstart, outcome_feedLineTokens_atYearStart rfl]
  cases outcome (feedLineTokens 0 (textLines text)) (Builder.start options) with
  | error e => rfl
  | ok r =>
    show (if r.2.atYearStart.stopsClosing then _ else _) = _
    rw [stopsClosing_atYearStart, closed_atYearStart]
    rfl

/-- **A text has the same snapshot on all days of a year.** -/
theorem ofText_congr_year (options : BuildOptions) {day day' : Date} (h : day.year = day'.year)
    (text : String) :
    ofText { options with today := day } text = ofText { options with today := day' } text := by
  have hstart : day.yearStart = day'.yearStart := by
    unfold Date.yearStart
    simp only [h]
  rw [← ofText_yearStart { options with today := day },
    ← ofText_yearStart { options with today := day' }, hstart]

/-- The same for a build some lines at a time. -/
theorem ofPortions_congr_year (options : BuildOptions) {day day' : Date}
    (h : day.year = day'.year) (size : Int) (text : String) :
    ofPortions { options with today := day } size text =
      ofPortions { options with today := day' } size text := by
  by_cases hsize : 1 ≤ size
  · rw [ofPortions_eq_map_ofText _ hsize, ofPortions_eq_map_ofText _ hsize,
      ofText_congr_year options h]
  · rw [ofPortions, ofPortions, if_pos (by omega), if_pos (by omega)]

end Snapshot

end Daybook
