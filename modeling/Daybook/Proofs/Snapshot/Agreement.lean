import Daybook.Proofs.Builder.Concatenation
import Daybook.Proofs.Snapshot.Recount
import Daybook.Proofs.Snapshot.Templates

/-!
# A journal in two texts

A journal may be kept in one text or be cut into two whose snapshots are merged.  The two ways share
little code: one reads on with what is there, the other adds up finished tables.  They agree all the
same, as long as the first text holds nothing that the lines of the second are read by.

What both snapshots count follows from their transactions, and these are the same but for their
lines, so the counts need not be followed through either way: a usage table is determined by the
transactions it recounts, and so are the recently used keys and, up to five keys, the templates.

* `Journal.Transaction.unplaced`: a transaction without its place.
* `Tally.Tallies.get?_unique`, `Snapshot.Groups.members_unique`, `Snapshot.Remembered.keys_unique`,
  `Template.Stored.counts_unique`: what the transactions determine.
* `Snapshot.Agrees`: two snapshots state the same about a journal.
* `Snapshot.agrees_merge_of_append`: merging the snapshots of two texts agrees with reading one
  after the other.
-/

namespace Daybook

open Calendar Journal Template

/-! ## Transactions without their places -/

/-- The same transaction without its place in a text. -/
def Journal.Transaction.unplaced (t : Transaction) : Transaction :=
  { t with line := 0 }

namespace Journal.Transaction

theorem map_unplaced_relocate (n : Int) (ts : List Transaction) :
    (ts.map (·.relocate n)).map (·.unplaced) = ts.map (·.unplaced) := by
  rw [List.map_map]
  rfl

/-- What transactions use does not depend on their places. -/
theorem flatMap_unplaced {κ : Type} {used : Transaction → List κ}
    (h : ∀ t : Transaction, used t.unplaced = used t) (ts : List Transaction) :
    (ts.map (·.unplaced)).flatMap used = ts.flatMap used := by
  rw [List.flatMap_map]
  exact List.flatMap_congr fun t _ => h t

end Journal.Transaction

theorem countedUses_unplaced (payee : String) (ts : List Transaction) :
    countedUses payee (ts.map (·.unplaced)) = (countedUses payee ts).map (·.unplaced) := by
  unfold countedUses templateUses
  split
  · rfl
  · rw [List.filter_map]
    rfl

namespace Template

variable {payee k : String} {uses : List Transaction}

theorem keysOf_unplaced (uses : List Transaction) :
    keysOf (uses.map (·.unplaced)) = keysOf uses := by
  rw [keysOf, List.map_map]
  rfl

theorem Stands.unplaced {tm : Template} (h : Stands payee uses k tm) :
    Stands payee (uses.map (·.unplaced)) k tm where
  payee_eq := h.payee_eq
  key_eq := h.key_eq
  postings_eq := by
    obtain ⟨u, hu, hkey, hpostings⟩ := h.postings_eq
    exact ⟨u.unplaced, List.mem_map_of_mem hu, hkey, hpostings⟩
  one_le := h.one_le
  le_count := by
    rw [List.countP_map]
    exact h.le_count
  lastUsed_eq := by
    obtain ⟨u, hu, hkey, hdate⟩ := h.lastUsed_eq
    exact ⟨u.unplaced, List.mem_map_of_mem hu, hkey, hdate⟩

theorem Complete.unplaced {tm : Template} (h : Complete uses k tm) :
    Complete (uses.map (·.unplaced)) k tm where
  count_le := by
    rw [List.countP_map]
    exact h.count_le
  rank_le u hu hkey := by
    obtain ⟨v, hv, rfl⟩ := List.mem_map.mp hu
    exact h.rank_le v hv hkey

theorem Stored.unplaced {old : Option TemplateTable} (h : Stored payee uses old) :
    Stored payee (uses.map (·.unplaced)) old := by
  cases old with
  | none =>
    have huses : uses = [] := h
    rw [huses]
    rfl
  | some t =>
    obtain ⟨hsound, hone, hfive, hexact⟩ := h
    refine ⟨⟨hsound.distinct, fun k tm htm => (hsound.stands htm).unplaced⟩, hone, hfive, ?_⟩
    intro hfew u hu
    rw [keysOf_unplaced] at hfew
    obtain ⟨v, hv, rfl⟩ := List.mem_map.mp hu
    obtain ⟨tm, htm, hcomplete⟩ := hexact hfew v hv
    exact ⟨tm, htm, hcomplete.unplaced⟩

end Template

namespace Snapshot

variable {s : Snapshot} {ts : List Transaction}

theorem Recounts.unplaced (h : s.Recounts ts) : s.Recounts (ts.map (·.unplaced)) := by
  constructor <;> rw [Transaction.flatMap_unplaced fun _ => rfl]
  · exact h.accountUsage
  · exact h.commodityUsage
  · exact h.payeeUsage
  · exact h.tagUsage
  · exact h.tagValueUsage
  · exact h.payeeAccountUsage

theorem Templated.unplaced (h : s.Templated ts) : s.Templated (ts.map (·.unplaced)) where
  templates payee := by
    rw [countedUses_unplaced]
    exact (h.templates payee).unplaced
  recent payee := by
    rw [countedUses_unplaced, List.map_map]
    exact h.recent payee

end Snapshot

/-! ## What transactions determine -/

/-- A list has one recount. -/
theorem Tally.Tallies.get?_unique {κ : Type} [DecidableEq κ] {t t' : Tally κ} {l : List κ}
    (h : t.Tallies l) (h' : t'.Tallies l) (k : κ) : Table.get? t k = Table.get? t' k := by
  rw [h.get? k, h'.get? k]

namespace Template

variable {payee k : String} {uses : List Transaction}

/-- What is kept under a key if there are at most five keys: nothing about a key without uses, and
all about a key with uses. -/
theorem Stored.get?_cases {old : Option TemplateTable} (h : Stored payee uses old)
    (hfew : (keysOf uses).card ≤ maxPerPayee) (k : String) :
    (old.bind (·.get? k) = none ∧ ∀ u ∈ uses, u.templateKey ≠ k) ∨
      ∃ tm, old.bind (·.get? k) = some tm ∧ Stands payee uses k tm ∧ Complete uses k tm := by
  obtain ⟨hsound, hexact⟩ := h.getD
  have hget : old.bind (·.get? k) = (old.getD .empty).get? k := by cases old <;> rfl
  rw [hget]
  cases htm : (old.getD .empty).get? k with
  | none => exact .inl ⟨rfl, (hexact hfew).ne_of_get?_eq_none htm⟩
  | some tm =>
    have hstands := hsound.stands htm
    exact .inr ⟨tm, rfl, hstands, (hexact hfew).complete htm hstands.exists_use⟩

/-- Two templates that say all and nothing wrong count the same. -/
theorem Stands.counts_unique {tm tm' : Template} (h : Stands payee uses k tm)
    (hc : Complete uses k tm) (h' : Stands payee uses k tm') (hc' : Complete uses k tm') :
    tm.usageCount = tm'.usageCount ∧ tm.lastUsed = tm'.lastUsed := by
  obtain ⟨u, hu, hkey, hdate⟩ := h.lastUsed_eq
  obtain ⟨u', hu', hkey', hdate'⟩ := h'.lastUsed_eq
  refine ⟨le_antisymm (h.le_count.trans hc'.count_le) (h'.le_count.trans hc.count_le),
    Date.eq_of_rank_eq (le_antisymm ?_ ?_)⟩
  · rw [hdate]
    exact hc'.rank_le u hu hkey
  · rw [hdate']
    exact hc.rank_le u' hu' hkey'

/-- The counts and the dates of templates, as far as uses with at most five keys determine them. -/
theorem Stored.counts_unique {old old' : Option TemplateTable} (h : Stored payee uses old)
    (h' : Stored payee uses old') (hfew : (keysOf uses).card ≤ maxPerPayee) (k : String) :
    (old.bind (·.get? k)).map (fun tm => (tm.usageCount, tm.lastUsed)) =
      (old'.bind (·.get? k)).map fun tm => (tm.usageCount, tm.lastUsed) := by
  rcases h.get?_cases hfew k with ⟨hnone, hno⟩ | ⟨tm, htm, hstands, hcomplete⟩
  · rcases h'.get?_cases hfew k with ⟨hnone', -⟩ | ⟨tm', -, hstands', -⟩
    · rw [hnone, hnone']
    · obtain ⟨u, hu, hkey⟩ := hstands'.exists_use
      exact absurd hkey (hno u hu)
  · rcases h'.get?_cases hfew k with ⟨-, hno'⟩ | ⟨tm', htm', hstands', hcomplete'⟩
    · obtain ⟨u, hu, hkey⟩ := hstands.exists_use
      exact absurd hkey (hno' u hu)
    · obtain ⟨hcount, hdate⟩ := hstands.counts_unique hcomplete hstands' hcomplete'
      rw [htm, htm', Option.map_some, Option.map_some, hcount, hdate]

end Template

namespace Snapshot

/-- Whether two tables of sets have the same keys with the same members. -/
def SameSets (t t' : Table String (List String)) : Prop :=
  ∀ k, (t.contains k ↔ t'.contains k) ∧ ∀ x, x ∈ (t.get? k).getD [] ↔ x ∈ (t'.get? k).getD []

/-- A set is there exactly if it has a member. -/
theorem Groups.contains_iff {t : Table String (List String)} {pairs : Tally (String × String)}
    (h : Groups t pairs) (k : String) : t.contains k ↔ ∃ x, pairs.contains (k, x) := by
  have hne := h.get?_ne k
  simp only [← h.mem_iff]
  unfold Table.contains
  cases hk : t.get? k with
  | none => simp
  | some members =>
    rw [hk] at hne
    have hmembers : members ≠ [] := fun hnil => hne (congrArg some hnil)
    simpa using List.exists_mem_of_ne_nil members hmembers

theorem Groups.members_unique {t t' : Table String (List String)}
    {pairs pairs' : Tally (String × String)} (h : Groups t pairs) (h' : Groups t' pairs')
    (hpairs : ∀ k, Table.get? pairs k = Table.get? pairs' k) : SameSets t t' := by
  have hcontains : ∀ k, Table.contains pairs k = Table.contains pairs' k := fun k => by
    rw [Table.contains, hpairs k, Table.contains]
  intro k
  constructor
  · rw [h.contains_iff, h'.contains_iff]
    simp only [hcontains]
  · intro x
    rw [h.mem_iff, h'.mem_iff, hcontains]

theorem Remembered.keys_unique {keys : List String} {old old' : Option RecentKeys}
    (h : Remembered keys old) (h' : Remembered keys old') :
    old.map (·.keys) = old'.map (·.keys) := by
  have hsome : old.isSome ↔ old'.isSome := h.isSome_iff.trans h'.isSome_iff.symm
  cases old with
  | none =>
    cases old' with
    | none => rfl
    | some r' => simp at hsome
  | some r =>
    cases old' with
    | none => simp at hsome
    | some r' =>
      obtain ⟨-, hcapacity, hholds⟩ := h
      obtain ⟨-, hcapacity', hholds'⟩ := h'
      rw [Option.map_some, Option.map_some, hholds.keys_eq, hholds'.keys_eq, hcapacity, hcapacity']

/-! ## Agreement -/

/-- How often the template of a payee under a key was used, and when last. -/
def templateCounts (s : Snapshot) (payee key : String) : Option (Nat × Date) :=
  ((s.templates.get? payee).bind (·.get? key)).map fun tm => (tm.usageCount, tm.lastUsed)

/-- Whether two snapshots state the same about a journal, the order inside tables and sets and the
lines of transactions apart.  Templates count only where none can have been given up. -/
structure Agrees (s s' : Snapshot) : Prop where
  accounts : ∀ name, s.accounts.get? name = s'.accounts.get? name
  commodities : ∀ symbol, s.commodities.get? symbol = s'.commodities.get? symbol
  payees : ∀ payee, payee ∈ s.payees ↔ payee ∈ s'.payees
  declaredPayees : ∀ payee, payee ∈ s.declaredPayees ↔ payee ∈ s'.declaredPayees
  tags : ∀ key, key ∈ s.tags ↔ key ∈ s'.tags
  tagValues : SameSets s.tagValues s'.tagValues
  payeeAccounts : SameSets s.payeeAccounts s'.payeeAccounts
  aliases : ∀ name, s.aliases.get? name = s'.aliases.get? name
  accountUsage : ∀ name, Table.get? s.accountUsage name = Table.get? s'.accountUsage name
  commodityUsage : ∀ symbol,
    Table.get? s.commodityUsage symbol = Table.get? s'.commodityUsage symbol
  payeeUsage : ∀ payee, Table.get? s.payeeUsage payee = Table.get? s'.payeeUsage payee
  tagUsage : ∀ key, Table.get? s.tagUsage key = Table.get? s'.tagUsage key
  tagValueUsage : ∀ tag, Table.get? s.tagValueUsage tag = Table.get? s'.tagValueUsage tag
  payeeAccountUsage : ∀ pair,
    Table.get? s.payeeAccountUsage pair = Table.get? s'.payeeAccountUsage pair
  defaultCommodity : s.defaultCommodity = s'.defaultCommodity
  decimalMark : s.decimalMark = s'.decimalMark
  lastDate : s.lastDate = s'.lastDate
  includes : s.includes = s'.includes
  recent : ∀ payee, (s.recent.get? payee).map (·.keys) = (s'.recent.get? payee).map (·.keys)
  templates : ∀ payee, (keysOf (templateUses payee s'.transactions)).card ≤ 5 →
    ∀ key, s.templateCounts payee key = s'.templateCounts payee key

/-- The uses that count have no more keys than all uses. -/
theorem card_keysOf_countedUses (payee : String) (ts : List Transaction) :
    (keysOf (countedUses payee ts)).card ≤ (keysOf (templateUses payee ts)).card := by
  unfold countedUses
  split
  · exact Nat.zero_le _
  · exact le_refl _

/-- **A snapshot that goes on from another one agrees with the two merged.** -/
theorem Joined.agrees {a b c : Snapshot} {n : Int} (h : Joined a n b c)
    (hmark : a.decimalMark = none) (hb : b.Distinct) (hm : Reachable (a.absorb b))
    (hc : Reachable c) : Agrees (a.absorb b) c := by
  have hsame : (a.absorb b).transactions.map (·.unplaced) = c.transactions.map (·.unplaced) := by
    rw [transactions_absorb, h.transactions, List.map_append, List.map_append,
      Transaction.map_unplaced_relocate]
  -- Both snapshots stand for the same transactions without their places.
  have hrecounts := (recounts_of_reachable hm).unplaced
  have hrecounts' := (recounts_of_reachable hc).unplaced
  have htemplated := (templated_of_reachable hm).unplaced
  have htemplated' := (templated_of_reachable hc).unplaced
  rw [hsame] at hrecounts htemplated
  have hlinked := linked_of_reachable hm
  have hlinked' := linked_of_reachable hc
  have hpayees := hrecounts.payeeUsage.get?_unique hrecounts'.payeeUsage
  have hdeclared : ∀ payee, payee ∈ (a.absorb b).declaredPayees ↔ payee ∈ c.declaredPayees := by
    intro payee
    rw [h.declaredPayees, absorb_eq, mem_uniteMembers]
  refine
    { accounts := fun name => ?_
      commodities := fun symbol => ?_
      payees := fun payee => ?_
      declaredPayees := hdeclared
      tags := fun key => ?_
      tagValues := hlinked.tagValues.members_unique hlinked'.tagValues
        (hrecounts.tagValueUsage.get?_unique hrecounts'.tagValueUsage)
      payeeAccounts := hlinked.payeeAccounts.members_unique hlinked'.payeeAccounts
        (hrecounts.payeeAccountUsage.get?_unique hrecounts'.payeeAccountUsage)
      aliases := fun name => ?_
      accountUsage := hrecounts.accountUsage.get?_unique hrecounts'.accountUsage
      commodityUsage := hrecounts.commodityUsage.get?_unique hrecounts'.commodityUsage
      payeeUsage := hpayees
      tagUsage := hrecounts.tagUsage.get?_unique hrecounts'.tagUsage
      tagValueUsage := hrecounts.tagValueUsage.get?_unique hrecounts'.tagValueUsage
      payeeAccountUsage := hrecounts.payeeAccountUsage.get?_unique hrecounts'.payeeAccountUsage
      defaultCommodity := ?_
      decimalMark := ?_
      lastDate := ?_
      includes := ?_
      recent := fun payee => (htemplated.recent payee).keys_unique (htemplated'.recent payee)
      templates := fun payee hfew key => ?_ }
  · rw [h.accounts name, get?_accounts_absorb hb]
  · rw [h.commodities symbol, get?_commodities_absorb hb]
  · rw [hlinked.payees, hlinked'.payees, hdeclared, Table.contains, hpayees, Table.contains]
  · rw [h.tags, absorb_eq, mem_uniteMembers]
  · rw [h.aliases name, get?_aliases_absorb hb]
  · rw [h.defaultCommodity, absorb_eq]
  · rw [h.decimalMark, absorb_eq, hmark]
    rfl
  · rw [h.lastDate, absorb_eq]
  · rw [h.includes, absorb_eq]
  · refine (htemplated.templates payee).counts_unique (htemplated'.templates payee) ?_ key
    rw [countedUses_unplaced, keysOf_unplaced]
    exact (card_keysOf_countedUses payee c.transactions).trans hfew

/-! ## Merging the snapshots of two texts -/

open Builder BuildM

/-- **A journal in two texts.**  Let the first text be empty or end with a line break and hold no
directive that later lines are read by, and let the first line of the second not be indented.  Then
the text of both has a snapshot, which agrees with the snapshots of the two merged, and its
transactions are theirs, those of the second moved down by the lines of the first. -/
theorem agrees_merge_of_append {options : BuildOptions} {source₁ source₂ : Option String}
    {t₁ t₂ : String} {a b : Snapshot} (hend : t₁ = "" ∨ t₁.toList.getLast? = some '\n')
    (hleaves : ∀ cs ∈ textLines t₁, leavesState cs = false)
    (hindent : ∀ cs ∈ (textLines t₂).head?, isIndented cs = false)
    (ha : ofText { options with source := source₁ } t₁ = .ok a)
    (hb : ofText { options with source := source₂ } t₂ = .ok b)
    (hne : a.sources ≠ b.sources) (source : Option String) :
    ∃ c, ofText { options with source } (t₁ ++ t₂) = .ok c ∧
      Agrees (a.merge b) c ∧
      (a.merge b).transactions = a.transactions ++ b.transactions ∧
      c.transactions =
        a.transactions ++ b.transactions.map (·.relocate (textLines t₁).length) := by
  obtain ⟨hmark, c, hc, hjoined⟩ := joined_of_ofText hend hleaves hindent ha hb source
  have hmerge := merge_eq_absorb ha hb hne
  have hreachable : Reachable (a.merge b) := .merge (.ofText ha) (.ofText hb)
  rw [hmerge] at hreachable ⊢
  exact ⟨c, hc, hjoined.agrees hmark (distinct_of_reachable (.ofText hb)) hreachable (.ofText hc),
    transactions_absorb a b, hjoined.transactions⟩

/-- Two transactions of one payee, each in a text of its own.  The first is still open where its text
ends, and the second text sets the decimal mark. -/
theorem agrees_merge_of_two_transactions :
    ∃ t₁ t₂ a b c, t₁ = "2024-01-05 Shop\n a  1\n b\n" ∧
      t₂ = "decimal-mark ,\n2024-01-06 Shop\n a  2,50\n c\n" ∧
      (∀ cs ∈ textLines t₁, leavesState cs = false) ∧
      (∀ cs ∈ (textLines t₂).head?, isIndented cs = false) ∧
      ofText .plain t₁ = .ok a ∧ ofText .plain t₂ = .ok b ∧ a.sources ≠ b.sources ∧
      ofText .plain (t₁ ++ t₂) = .ok c ∧ Agrees (a.merge b) c := by
  have hread : (ofText .plain "2024-01-05 Shop\n a  1\n b\n").toBool ∧
      (ofText .plain "decimal-mark ,\n2024-01-06 Shop\n a  2,50\n c\n").toBool ∧
      (ofText .plain "2024-01-05 Shop\n a  1\n b\n").toOption.map (·.sources) ≠
        (ofText .plain "decimal-mark ,\n2024-01-06 Shop\n a  2,50\n c\n").toOption.map
          (·.sources) := by
    decide +kernel
  have hleaves : ∀ cs ∈ textLines "2024-01-05 Shop\n a  1\n b\n", leavesState cs = false := by
    decide +kernel
  have hindent : ∀ cs ∈ (textLines "decimal-mark ,\n2024-01-06 Shop\n a  2,50\n c\n").head?,
      isIndented cs = false := by
    decide +kernel
  -- Options without a source are also those that a source is put into.
  have hsource : BuildOptions.plain = { BuildOptions.plain with source := none } := rfl
  cases ha : ofText .plain "2024-01-05 Shop\n a  1\n b\n" with
  | error e =>
    rw [ha] at hread
    cases hread.1
  | ok a =>
    cases hb : ofText .plain "decimal-mark ,\n2024-01-06 Shop\n a  2,50\n c\n" with
    | error e =>
      rw [hb] at hread
      cases hread.2.1
    | ok b =>
      rw [ha, hb] at hread
      have hne : a.sources ≠ b.sources := fun heq => hread.2.2 (congrArg some heq)
      rw [hsource] at ha hb
      obtain ⟨c, hc, hagrees, -⟩ :=
        agrees_merge_of_append (.inr (by decide)) hleaves hindent ha hb hne none
      exact ⟨_, _, a, b, c, rfl, rfl, hleaves, hindent, ha, hb, hne, hc, hagrees⟩

end Snapshot

end Daybook
