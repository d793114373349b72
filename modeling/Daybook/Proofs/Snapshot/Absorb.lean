import Daybook.Proofs.Snapshot.Entries
import Daybook.Proofs.Snapshot.Reachable

/-!
# Adding one snapshot to another

`Snapshot.absorb` goes through the entries of the tables of a snapshot and adds each one to another
snapshot.  Where no key has two entries, that is the same as joining the two tables key by key.

* `Snapshot.absorb_eq`: what each field of the result is.
* `Account.join`, `Commodity.join`: what is known from two sides about one name.
* `Snapshot.Distinct`: no key of a table has two entries, and no inclusion is listed twice.
  `Snapshot.distinct_of_reachable`: so it is in every reachable snapshot.
* `Snapshot.get?_accounts_absorb`, `Snapshot.get?_commodities_absorb`, …: the joined tables.
* `Snapshot.merge_eq_absorb`: when merging is adding.
-/

namespace Daybook

open Calendar Template

/-- What is known about an account from two sides. -/
def Account.join (a b : Account) : Account :=
  ⟨a.defined || b.defined, a.used || b.used⟩

/-- What is known about a commodity from two sides; the first format stays. -/
def Commodity.join (a b : Commodity) : Commodity :=
  ⟨a.format <|> b.format, a.declared || b.declared⟩

namespace Snapshot

/-! ## Field by field -/

/-- Changes of one field one after another are one change of that field. -/
theorem foldl_update {ι α : Type} (field : Snapshot → α) (update : Snapshot → α → Snapshot)
    (g : α → ι → α) (hself : ∀ s, update s (field s) = s) (hfield : ∀ s a, field (update s a) = a)
    (htwice : ∀ s a a', update (update s a) a' = update s a') (l : List ι) (s : Snapshot) :
    l.foldl (fun s i => update s (g (field s) i)) s = update s (l.foldl g (field s)) := by
  induction l generalizing s with
  | nil => exact (hself s).symm
  | cons i l ih => rw [List.foldl_cons, ih, hfield, htwice, List.foldl_cons]

theorem addAccount_eq (s : Snapshot) (name : String) (account : Account) :
    s.addAccount name account =
      { s with accounts := s.accounts.alter name (Table.joinTo Account.join account) } := by
  refine congrArg (fun f => { s with accounts := s.accounts.alter name f }) ?_
  funext old
  cases old <;> rfl

theorem addCommodity_eq (s : Snapshot) (symbol : String) (commodity : Commodity) :
    s.addCommodity symbol commodity =
      { s with
        commodities := s.commodities.alter symbol (Table.joinTo Commodity.join commodity) } := by
  refine congrArg (fun f => { s with commodities := s.commodities.alter symbol f }) ?_
  funext old
  cases old <;> rfl

/-- Inclusions with one more, if it is new. -/
def withInclude (includes : List String) (target : String) : List String :=
  if includes.contains target then includes else includes ++ [target]

/-- The templates of a payee with those of another snapshot. -/
def joinTemplates (payee : String) (added : TemplateTable) (old : Option TemplateTable) :
    TemplateTable :=
  prune (added.values.foldl (mergeTemplate payee) (old.getD .empty))

/-- The recently used keys of a payee with those of another snapshot. -/
def joinRecent (added : RecentKeys) (old : Option RecentKeys) : RecentKeys :=
  (old.getD (.empty added.capacity)).pushAll added.keys

theorem foldl_addAccount (l : List (String × Account)) (s : Snapshot) :
    l.foldl (fun acc e => acc.addAccount e.1 e.2) s =
      { s with
        accounts :=
          l.foldl (fun t e => t.alter e.1 (Table.joinTo Account.join e.2)) s.accounts } := by
  simp only [addAccount_eq]
  exact foldl_update accounts (fun s accounts => { s with accounts })
    (fun t (e : String × Account) => t.alter e.1 (Table.joinTo Account.join e.2))
    (fun _ => rfl) (fun _ _ => rfl) (fun _ _ _ => rfl) l s

theorem foldl_addCommodity (l : List (String × Commodity)) (s : Snapshot) :
    l.foldl (fun acc e => acc.addCommodity e.1 e.2) s =
      { s with
        commodities :=
          l.foldl (fun t e => t.alter e.1 (Table.joinTo Commodity.join e.2)) s.commodities } := by
  simp only [addCommodity_eq]
  exact foldl_update commodities (fun s commodities => { s with commodities })
    (fun t (e : String × Commodity) => t.alter e.1 (Table.joinTo Commodity.join e.2))
    (fun _ => rfl) (fun _ _ => rfl) (fun _ _ _ => rfl) l s

theorem foldl_absorbTemplates (l : List (String × TemplateTable)) (s : Snapshot) :
    l.foldl (fun acc e => acc.absorbTemplates e.1 e.2) s =
      { s with
        templates := l.foldl (fun t e => t.alter e.1 (joinTemplates e.1 e.2)) s.templates } :=
  foldl_update templates (fun s templates => { s with templates })
    (fun t (e : String × TemplateTable) => t.alter e.1 (joinTemplates e.1 e.2))
    (fun _ => rfl) (fun _ _ => rfl) (fun _ _ _ => rfl) l s

theorem foldl_absorbRecent (l : List (String × RecentKeys)) (s : Snapshot) :
    l.foldl (fun acc e => acc.absorbRecent e.1 e.2) s =
      { s with recent := l.foldl (fun t e => t.alter e.1 (joinRecent e.2)) s.recent } :=
  foldl_update recent (fun s recent => { s with recent })
    (fun t (e : String × RecentKeys) => t.alter e.1 (joinRecent e.2))
    (fun _ => rfl) (fun _ _ => rfl) (fun _ _ _ => rfl) l s

theorem foldl_addInclude (l : List String) (s : Snapshot) :
    l.foldl addInclude s = { s with includes := l.foldl withInclude s.includes } :=
  foldl_update includes (fun s includes => { s with includes }) withInclude
    (fun _ => rfl) (fun _ _ => rfl) (fun _ _ _ => rfl) l s

/-- **Adding one snapshot to another, field by field.** -/
theorem absorb_eq (a b : Snapshot) :
    a.absorb b =
      { accounts := b.accounts.entries.foldl
          (fun t e => t.alter e.1 (Table.joinTo Account.join e.2)) a.accounts
        accountUsage := Tally.addAll a.accountUsage b.accountUsage
        commodities := b.commodities.entries.foldl
          (fun t e => t.alter e.1 (Table.joinTo Commodity.join e.2)) a.commodities
        commodityUsage := Tally.addAll a.commodityUsage b.commodityUsage
        payees := uniteMembers a.payees b.payees
        declaredPayees := uniteMembers a.declaredPayees b.declaredPayees
        payeeUsage := Tally.addAll a.payeeUsage b.payeeUsage
        tags := uniteMembers a.tags b.tags
        tagUsage := Tally.addAll a.tagUsage b.tagUsage
        tagValues := unite a.tagValues b.tagValues
        tagValueUsage := Tally.addAll a.tagValueUsage b.tagValueUsage
        payeeAccounts := unite a.payeeAccounts b.payeeAccounts
        payeeAccountUsage := Tally.addAll a.payeeAccountUsage b.payeeAccountUsage
        aliases := b.aliases.entries.foldl (fun t e => t.insertNew e.1 e.2) a.aliases
        templates := b.templates.entries.foldl
          (fun t e => t.alter e.1 (joinTemplates e.1 e.2)) a.templates
        recent := b.recent.entries.foldl (fun t e => t.alter e.1 (joinRecent e.2)) a.recent
        transactions := a.transactions ++ b.transactions
        defaultCommodity := a.defaultCommodity <|> b.defaultCommodity
        decimalMark := a.decimalMark <|> b.decimalMark
        lastDate := Option.merge Date.latest a.lastDate b.lastDate
        includes := b.includes.foldl withInclude a.includes
        warnings := a.warnings ++ b.warnings
        sources := uniteMembers a.sources b.sources } := by
  unfold absorb
  simp only [foldl_addAccount, foldl_addCommodity, foldl_absorbTemplates, foldl_absorbRecent,
    foldl_addInclude]
  cases a.lastDate <;> cases b.lastDate <;> rfl

theorem transactions_absorb (a b : Snapshot) :
    (a.absorb b).transactions = a.transactions ++ b.transactions := by
  rw [absorb_eq]

/-! ## Distinct keys -/

/-- Whether no key of a table of a snapshot has two entries and no inclusion is listed twice. -/
structure Distinct (s : Snapshot) : Prop where
  accounts : s.accounts.Distinct
  commodities : s.commodities.Distinct
  tagValues : s.tagValues.Distinct
  payeeAccounts : s.payeeAccounts.Distinct
  aliases : s.aliases.Distinct
  templates : s.templates.Distinct
  recent : s.recent.Distinct
  includes : s.includes.Nodup

theorem distinct_empty : Distinct .empty where
  accounts := Table.distinct_empty
  commodities := Table.distinct_empty
  tagValues := Table.distinct_empty
  payeeAccounts := Table.distinct_empty
  aliases := Table.distinct_empty
  templates := Table.distinct_empty
  recent := Table.distinct_empty
  includes := List.nodup_nil

theorem nodup_withInclude {includes : List String} (h : includes.Nodup) (target : String) :
    (withInclude includes target).Nodup := by
  unfold withInclude
  split
  · exact h
  · rename_i hnew
    rw [List.contains_iff_mem] at hnew
    rw [← List.concat_eq_append]
    exact h.concat hnew

theorem nodup_foldl_withInclude {includes : List String} (h : includes.Nodup) (l : List String) :
    (l.foldl withInclude includes).Nodup := by
  induction l generalizing includes with
  | nil => exact h
  | cons target rest ih => exact ih (nodup_withInclude h target)

theorem Distinct.record {s : Snapshot} (h : s.Distinct) (complaint : String → Journal.Warning)
    (e : BookEntry) : (e.record complaint s).Distinct := by
  cases e with
  | tag tag =>
    rw [BookEntry.record, useTag_eq]
    cases tag.2.isEmpty with
    | true => exact { h with }
    | false => exact { h with tagValues := h.tagValues.alter _ _ }
  | account account => exact { h with accounts := h.accounts.alter _ _ }
  | commodity symbol => exact { h with commodities := h.commodities.alter _ _ }
  | sideCommodity symbol => exact { h with commodities := h.commodities.alter _ _ }
  | payeeAccount payee account => exact { h with payeeAccounts := h.payeeAccounts.alter _ _ }
  | _ => exact { h with }

theorem Distinct.recordTransaction {s : Snapshot} (h : s.Distinct) (day : String → Option Date)
    (complaint : String → Journal.Warning) (t : Journal.Transaction) :
    (s.recordTransaction day complaint t).Distinct := by
  have henter : (s.enter day complaint t).Distinct :=
    foldl_record_induction (P := Distinct) (fun e _ hs => hs.record complaint e) _ { h with }
  rw [recordTransaction_eq]
  split
  · exact { henter with
      templates := henter.templates.alter _ _
      recent := henter.recent.alter _ _ }
  · exact henter

theorem Distinct.change {s s' : Snapshot} (h : s.Distinct) (hs : Change s s') : s'.Distinct := by
  cases hs with
  | account name => exact { h with accounts := h.accounts.alter _ _ }
  | accountAlias source target => exact { h with aliases := h.aliases.alter _ _ }
  | commodity symbol commodity => exact { h with commodities := h.commodities.alter _ _ }
  | inclusion target => exact { h with includes := nodup_withInclude h.includes target }
  | transaction day complaint t => exact h.recordTransaction day complaint t
  | _ => exact { h with }

theorem Distinct.absorb {a b : Snapshot} (ha : a.Distinct) : (a.absorb b).Distinct := by
  rw [absorb_eq]
  exact
    { accounts := ha.accounts.foldl_alter (fun e : String × Account => e.1) _ _
      commodities := ha.commodities.foldl_alter (fun e : String × Commodity => e.1) _ _
      tagValues := ha.tagValues.foldl_alter (fun e : String × List String => e.1) _ _
      payeeAccounts := ha.payeeAccounts.foldl_alter (fun e : String × List String => e.1) _ _
      aliases := ha.aliases.foldl_alter (fun e : String × String => e.1) _ _
      templates := ha.templates.foldl_alter (fun e : String × TemplateTable => e.1) _ _
      recent := ha.recent.foldl_alter (fun e : String × RecentKeys => e.1) _ _
      includes := nodup_foldl_withInclude ha.includes _ }

/-- **No table of a reachable snapshot has two entries with one key**, and no inclusion is listed
twice. -/
theorem distinct_of_reachable {s : Snapshot} (h : Reachable s) : s.Distinct :=
  h.induction distinct_empty (fun _ _ hs hstep => hs.change hstep) fun _ _ ha _ => ha.absorb

/-! ## Joined tables -/

variable {a b : Snapshot}

theorem get?_accounts_absorb (hb : b.Distinct) (name : String) :
    (a.absorb b).accounts.get? name =
      Option.merge Account.join (a.accounts.get? name) (b.accounts.get? name) := by
  rw [absorb_eq]
  exact Table.get?_foldl_join hb.accounts Account.join (fun _ => Table.joinTo Account.join)
    (fun _ _ => rfl) (fun _ _ _ => rfl) a.accounts name

theorem get?_commodities_absorb (hb : b.Distinct) (symbol : String) :
    (a.absorb b).commodities.get? symbol =
      Option.merge Commodity.join (a.commodities.get? symbol) (b.commodities.get? symbol) := by
  rw [absorb_eq]
  exact Table.get?_foldl_join hb.commodities Commodity.join (fun _ => Table.joinTo Commodity.join)
    (fun _ _ => rfl) (fun _ _ _ => rfl) a.commodities symbol

/-- The first alias of an account stays. -/
theorem get?_aliases_absorb (hb : b.Distinct) (source : String) :
    (a.absorb b).aliases.get? source =
      Option.merge (fun x _ => x) (a.aliases.get? source) (b.aliases.get? source) := by
  rw [absorb_eq]
  exact Table.get?_foldl_join hb.aliases (fun x _ => x) (fun _ y old => old.getD y)
    (fun _ _ => rfl) (fun _ _ _ => rfl) a.aliases source

theorem get?_templates_absorb (hb : b.templates.Distinct) (payee : String) :
    (a.absorb b).templates.get? payee =
      match b.templates.get? payee with
      | none => a.templates.get? payee
      | some added => some (joinTemplates payee added (a.templates.get? payee)) := by
  have hfold := Table.get?_foldl_alter hb joinTemplates a.templates payee
  rw [absorb_eq]
  dsimp only
  rw [hfold, show b.templates.get? payee = Table.find payee b.templates.entries from rfl]
  cases Table.find payee b.templates.entries <;> rfl

theorem get?_recent_absorb (hb : b.Distinct) (payee : String) :
    (a.absorb b).recent.get? payee =
      match b.recent.get? payee with
      | none => a.recent.get? payee
      | some added => some (joinRecent added (a.recent.get? payee)) := by
  have hfold := Table.get?_foldl_alter hb.recent (fun _ => joinRecent) a.recent payee
  rw [absorb_eq]
  dsimp only
  rw [hfold, show b.recent.get? payee = Table.find payee b.recent.entries from rfl]
  cases Table.find payee b.recent.entries <;> rfl

theorem get?_unite {t added : Table String (List String)} (hadded : added.Distinct) (k : String) :
    (unite t added).get? k =
      match added.get? k with
      | none => t.get? k
      | some members => some (uniteMembers ((t.get? k).getD []) members) := by
  have hfold := Table.get?_foldl_alter hadded
    (fun _ members old => uniteMembers (old.getD []) members) t k
  rw [unite, hfold, show added.get? k = Table.find k added.entries from rfl]
  cases Table.find k added.entries <;> rfl

/-- The members of the sets of two tables. -/
theorem mem_get?_unite {t added : Table String (List String)} (hadded : added.Distinct)
    (k x : String) :
    x ∈ ((unite t added).get? k).getD [] ↔
      x ∈ (t.get? k).getD [] ∨ x ∈ (added.get? k).getD [] := by
  rw [get?_unite hadded]
  cases added.get? k with
  | none => simp
  | some members => simp [mem_uniteMembers]

/-! ## Fingerprints -/

open Builder BuildM

theorem sources_foldl_mentionCommodity (symbols : List String) (s : Snapshot) :
    (symbols.foldl mentionCommodity s).sources = s.sources := by
  induction symbols generalizing s with
  | nil => rfl
  | cons symbol rest ih => exact ih _

/-- No fingerprint is noted before a build ends. -/
theorem reading_sourceless : Reading fun b => b.snapshot.sources = [] where
  tokens _ _ h := h
  warn _ _ h := h
  reading _ _ h := h
  record complaint t h := (sources_recordTransaction _ complaint t _).trans h

theorem keeps_sourceless_directive (name : String) (args : List Journal.Token) (line : Int) :
    Keeps (fun b => b.snapshot.sources = []) (directive name args line) := by
  intro b a b' h hb
  cases directed_of_outcome h with
  | price symbols => exact (sources_foldl_mentionCommodity symbols _).trans hb
  | _ => exact hb

/-- The snapshot of a text has one fingerprint. -/
theorem exists_sources_eq {options : BuildOptions} {text : String} {s : Snapshot}
    (h : ofText options text = .ok s) : ∃ fingerprint, s.sources = [fingerprint] := by
  obtain ⟨b, hlines, -, rfl⟩ := ofText_eq_ok_iff.mp h
  have hb : b.snapshot.sources = [] :=
    reading_sourceless.keeps_feedLineTokens keeps_sourceless_directive _ _ hlines rfl
  refine ⟨b.closed.fingerprint, ?_⟩
  rw [addSource, reading_sourceless.closed hb]
  rfl

/-- Snapshots of texts with different fingerprints are added up when they are merged. -/
theorem merge_eq_absorb {options options' : BuildOptions} {t₁ t₂ : String} {a b : Snapshot}
    (ha : ofText options t₁ = .ok a) (hb : ofText options' t₂ = .ok b)
    (hne : a.sources ≠ b.sources) : a.merge b = a.absorb b := by
  obtain ⟨f, hf⟩ := exists_sources_eq ha
  obtain ⟨g, hg⟩ := exists_sources_eq hb
  have hfg : f ≠ g := fun heq => hne (by rw [hf, hg, heq])
  have hright : b.isPartOf a = false := by simp [isPartOf, hf, hg, hfg.symm]
  have hleft : a.isPartOf b = false := by simp [isPartOf, hf, hg, hfg]
  rw [merge, hright, hleft]
  rfl

end Snapshot

end Daybook
