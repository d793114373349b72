import Daybook.Proofs.Builder.Lines
import Daybook.Snapshot.Merge

/-!
# Reachable snapshots

Every snapshot comes from builds of texts by merging.  A build changes its snapshot in a dozen ways,
one for each kind of statement in a journal, and merging adds one snapshot to another.  A property
of all reachable snapshots is therefore shown by looking at each change once.

* `Snapshot.Change`: what a statement of a journal does to a snapshot.
* `Snapshot.Built`, `Snapshot.built_of_ofText`: the snapshot of a text is made by such changes.
* `Snapshot.Reachable`, `Snapshot.Reachable.induction`: what holds of the empty snapshot and
  survives changes and `Snapshot.absorb` holds of every reachable snapshot.
-/

namespace Daybook

open Calendar Journal

namespace Snapshot

/-! ## Changes -/

/-- What a statement of a journal does to a snapshot. -/
inductive Change (s : Snapshot) : Snapshot → Prop where
  | account (name : String) : Change s (s.declareAccount name)
  | accountAlias (source target : String) :
    Change s { s with aliases := s.aliases.insertNew source target }
  | commodity (symbol : String) (commodity : Commodity) : Change s (s.addCommodity symbol commodity)
  | defaultCommodity (symbol : String) :
    Change s { s with defaultCommodity := s.defaultCommodity <|> some symbol }
  | decimalMark (mark : String) : Change s { s with decimalMark := some mark }
  | inclusion (target : String) : Change s (s.addInclude target)
  | payee (payee : String) (hpayee : payee.isEmpty = false) : Change s (s.declarePayee payee)
  | tag (key : String) : Change s (s.declareTag key)
  | warning (warning : Warning) : Change s (s.warn warning)
  | source (fingerprint : String) : Change s (s.addSource fingerprint)
  | transaction (day : String → Option Date) (complaint : String → Warning) (t : Transaction) :
    Change s (s.recordTransaction day complaint t)

/-- Whether a snapshot is made by changes from the empty one. -/
inductive Built : Snapshot → Prop where
  | empty : Built .empty
  | step {s s' : Snapshot} : Built s → Change s s' → Built s'

theorem Built.foldl_mentionCommodity {s : Snapshot} (h : s.Built) (symbols : List String) :
    (symbols.foldl mentionCommodity s).Built := by
  induction symbols generalizing s with
  | nil => exact h
  | cons symbol rest ih => exact ih (h.step (.commodity symbol ⟨none, false⟩))

/-! ## Builds -/

open Builder BuildM

/-- Transactions hand on that the snapshot is made by changes. -/
theorem reading_built : Reading fun b => b.snapshot.Built where
  tokens _ _ h := h
  warn _ _ h := h.step (.warning _)
  reading _ _ h := h
  record complaint t h := h.step (.transaction _ complaint t)

theorem keeps_built_directive (name : String) (args : List Token) (line : Int) :
    Keeps (fun b => b.snapshot.Built) (directive name args line) := by
  intro b a b' h hb
  cases directed_of_outcome h with
  | nothing => exact hb
  | warn message => exact hb.step (.warning _)
  | commodity _ symbol commodity last => exact hb.step (.commodity symbol commodity)
  | defaultCommodity _ symbol commodity =>
    exact (hb.step (.commodity symbol commodity)).step (.defaultCommodity symbol)
  | account account => exact hb.step (.account account)
  | accountAlias source target =>
    exact ((hb.step (.accountAlias source target)).step (.account source)).step (.account target)
  | decimalMark _ mark => exact hb.step (.decimalMark mark)
  | inclusion _ target => exact hb.step (.inclusion target)
  | price symbols => exact hb.foldl_mentionCommodity symbols
  | payee payee hpayee => exact hb.step (.payee payee hpayee)
  | tag key => exact hb.step (.tag key)
  | year _ year => exact hb

/-- **The snapshot of a text is made by changes.** -/
theorem built_of_ofText {options : BuildOptions} {text : String} {s : Snapshot}
    (h : ofText options text = .ok s) : s.Built := by
  obtain ⟨b, hlines, -, rfl⟩ := ofText_eq_ok_iff.mp h
  have hb : b.snapshot.Built :=
    reading_built.keeps_feedLineTokens keeps_built_directive _ _ hlines Built.empty
  exact (reading_built.closed hb).step (.source _)

/-! ## Merging -/

/-- The snapshots that builds of texts and merging lead to. -/
inductive Reachable : Snapshot → Prop where
  | empty : Reachable .empty
  | ofText {options : BuildOptions} {text : String} {s : Snapshot} :
    ofText options text = .ok s → Reachable s
  | merge {a b : Snapshot} : Reachable a → Reachable b → Reachable (a.merge b)
  | mergeAll {snapshots : List Snapshot} :
    (∀ s ∈ snapshots, Reachable s) → Reachable (mergeAll snapshots)

variable {P : Snapshot → Prop}

theorem Built.induction {s : Snapshot} (hempty : P .empty)
    (hchange : ∀ s s', P s → Change s s' → P s') (h : s.Built) : P s := by
  induction h with
  | empty => exact hempty
  | step _ hs ih => exact hchange _ _ ih hs

theorem merge_induction {a b : Snapshot} (habsorb : P (a.absorb b)) (ha : P a) (hb : P b) :
    P (a.merge b) := by
  unfold merge
  split
  · exact ha
  · split
    · exact hb
    · exact habsorb

theorem mergeAll_induction {snapshots : List Snapshot} (hempty : P .empty)
    (habsorb : ∀ a b, P a → P b → P (a.absorb b)) (h : ∀ s ∈ snapshots, P s) :
    P (mergeAll snapshots) := by
  unfold mergeAll
  suffices hfold : ∀ acc, P acc → P (snapshots.foldl
      (fun acc s => if s.isPartOf acc then acc else acc.absorb s) acc) from hfold _ hempty
  induction snapshots with
  | nil => exact fun acc hacc => hacc
  | cons s rest ih =>
    intro acc hacc
    refine ih (fun t ht => h t (List.mem_cons_of_mem _ ht)) _ ?_
    dsimp only
    split
    · exact hacc
    · exact habsorb acc s hacc (h s List.mem_cons_self)

/-- **Invariants of snapshots.**  What holds of the empty snapshot and survives every change and
every addition of another snapshot holds of all reachable snapshots. -/
theorem Reachable.induction {s : Snapshot} (hempty : P .empty)
    (hchange : ∀ s s', P s → Change s s' → P s')
    (habsorb : ∀ a b, P a → P b → P (a.absorb b)) (h : Reachable s) : P s := by
  induction h with
  | empty => exact hempty
  | ofText hs => exact (built_of_ofText hs).induction hempty hchange
  | merge _ _ iha ihb => exact merge_induction (habsorb _ _ iha ihb) iha ihb
  | mergeAll _ ih => exact mergeAll_induction hempty habsorb ih

end Snapshot

end Daybook
