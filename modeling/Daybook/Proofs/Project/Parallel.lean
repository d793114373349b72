import Daybook.Proofs.Project.Include
import Daybook.Proofs.Project.Pass

/-!
# Passes side by side

Two passes over the same journal, in two contexts, go the same way as long as all that the first one
recorded a time of is the same in both.  One and the same argument says that a pass which is helped
by kept files comes to what a pass without them does, and that a pass of long ago would come to the
same today.

* `Leaves`: whether a step leaves a property of the root, of what is kept and of the times as it is.
  `Stable.visit`: visits do, if it survives what a pass adds.
* `SameAt`: whether a place is the same in two contexts.
* `Comparable`: whether the directives of the first context stand for the same files in the second
  as far as the watched places are the same.
* `Parallel`, `Follows`: states and steps side by side.
* `follows_visit`: visits side by side.
-/

namespace Daybook.Project

open PassM Journal

variable {α β : Type}

/-! ## What steps leave as it is -/

/-- Whether a step leaves a property of the root, of what is kept of files and of the recorded times
as it is, also when it fails. -/
def Leaves (I : Path → Table Path FileResult → Table Path Int → Prop) (m : PassM α) :
    Prop :=
  ∀ p, I p.root p.files p.times →
    I (outcome m p).2.root (outcome m p).2.files (outcome m p).2.times

section

variable {I : Path → Table Path FileResult → Table Path Int → Prop} {ctx : PassContext}

/-- Whether a property survives what a pass adds to the kept files and to the times. -/
structure Stable (ctx : PassContext)
    (I : Path → Table Path FileResult → Table Path Int → Prop) : Prop where
  keep : ∀ {root files times path r}, path.Proper → loaded ctx path = .ok r →
    I root files times → I root (files.insert path r) times
  start : ∀ {root files times} (path : Path), I root files times →
    I root files (times.insert path (ctx.view.disk.modified path))
  watch : ∀ {root files times} (place : Path), I root files times →
    I root files (times.insertNew place (ctx.view.disk.modified place))

theorem Leaves.of_outcome {m : PassM α} (h : Leaves I m) {p p' : Pass}
    {result : Except ProjectError α} (hrun : outcome m p = (result, p'))
    (hp : I p.root p.files p.times) : I p'.root p'.files p'.times := by
  have hp' := h p hp
  rw [hrun] at hp'
  exact hp'

theorem Leaves.bind {m : PassM α} {f : α → PassM β} (hm : Leaves I m) (hf : ∀ a, Leaves I (f a)) :
    Leaves I (m >>= f) := by
  intro p hp
  have hp' := hm p hp
  rw [outcome_bind]
  split
  · rename_i a p' hrun
    rw [hrun] at hp'
    exact hf a p' hp'
  · rename_i e p' hrun
    rw [hrun] at hp'
    exact hp'

theorem Leaves.tryCatch {m : PassM α} {handle : ProjectError → PassM α} (hm : Leaves I m)
    (hhandle : ∀ e, Leaves I (handle e)) : Leaves I (tryCatch m handle) := by
  intro p hp
  have hp' := hm p hp
  rw [outcome_tryCatch]
  split
  · rename_i a p' hrun
    rw [hrun] at hp'
    exact hp'
  · rename_i e p' hrun
    rw [hrun] at hp'
    exact hhandle e p' hp'

theorem Leaves.forM {l : List α} {step : α → PassM Unit} (h : ∀ a ∈ l, Leaves I (step a)) :
    Leaves I (l.forM step) := by
  induction l with
  | nil => exact fun _ hp => hp
  | cons a l ih =>
    exact Leaves.bind (h a List.mem_cons_self) fun _ =>
      ih fun b hb => h b (List.mem_cons_of_mem a hb)

theorem leaves_warnAt (source : Path) (line : Nat) (message : String) :
    Leaves I (warnAt source line message) :=
  fun _ hp => hp

theorem leaves_throw (e : ProjectError) : Leaves I (throw e : PassM α) :=
  fun _ hp => hp

theorem leaves_checkCancelled : Leaves I checkCancelled := by
  intro p hp
  rcases outcome_checkCancelled p with ⟨-, hrun⟩ | ⟨budget, -, hrun⟩ <;> (rw [hrun]; exact hp)

theorem Stable.enter (h : Stable ctx I) {path : Path} (hpath : path.Proper) :
    Leaves I (enter ctx path) := by
  refine leaves_checkCancelled.bind fun _ => Leaves.bind (fun _ hp => hp) fun _ => ?_
  intro p hp
  rcases load_cases ctx path p with ⟨r, hkept, hrun⟩ | ⟨-, reads, -, hrun⟩
  · have hmodified : r.modified = ctx.view.disk.modified path := by
      have hcurrent := (Option.filter_eq_some_iff.mp hkept).2
      rw [FileResult.isCurrent, Bool.and_eq_true, beq_iff_eq] at hcurrent
      exact hcurrent.1
    rw [outcome_bind_of_ok hrun, outcome_bind_of_ok (outcome_modify _ _), hmodified]
    exact h.start path hp
  · cases hr : loaded ctx path with
    | error e =>
      rw [hr] at hrun
      rw [outcome_bind_of_error hrun]
      exact hp
    | ok r =>
      rw [hr] at hrun
      rw [outcome_bind_of_ok hrun, outcome_bind_of_ok (outcome_modify _ _), modified_of_loaded hr]
      exact h.start path (h.keep hpath hr hp)

theorem leaves_followTarget {visitFile : Path → PassM Unit} {target : Path}
    (hvisit : Leaves I (visitFile target)) (chain : List Path) (path : Path) (line : Nat) :
    Leaves I (followTarget visitFile chain path line target) := by
  rw [followTarget]
  split
  · exact leaves_warnAt path line _
  · refine Leaves.bind (fun _ hp => hp) fun q => ?_
    split
    · exact fun _ hp => hp
    · refine hvisit.tryCatch fun e => ?_
      split
      · exact leaves_warnAt path line _
      · exact leaves_throw e

theorem Stable.followInclude (h : Stable ctx I) {visitFile : Path → PassM Unit}
    (hvisit : ∀ target, target.Proper → Leaves I (visitFile target)) (chain : List Path)
    (path : Path) (t : IncludeTarget) : Leaves I (followInclude ctx visitFile chain path t) := by
  intro p hp
  cases hresolve : (siteOf ctx path).resolve ctx.view.disk t.pattern with
  | error e =>
    rw [outcome_followInclude_of_error visitFile chain p hresolve]
    exact hp
  | ok files =>
    obtain ⟨place, hwatch⟩ := exists_watch_of_resolve hresolve
    rw [outcome_followInclude visitFile chain p hresolve hwatch]
    split
    · exact h.watch place hp
    · refine Leaves.forM (fun target htarget => ?_) _ (h.watch place hp)
      exact leaves_followTarget (hvisit target (IncludeSite.proper_of_resolve hresolve htarget))
        chain path t.line

/-- **Visits leave as it is what survives their additions.** -/
theorem Stable.visit (h : Stable ctx I) (n : Nat) (chain : List Path) {path : Path}
    (hpath : path.Proper) : Leaves I (visit ctx n chain path) := by
  induction n generalizing chain path with
  | zero =>
    refine (h.enter hpath).bind fun r => ?_
    cases r.includes with
    | nil => exact fun _ hp => hp
    | cons first rest => exact leaves_warnAt path first.line _
  | succ n ih =>
    refine (h.enter hpath).bind fun r => Leaves.forM fun t _ => ?_
    exact h.followInclude (fun target htarget => ih (path :: chain) htarget) _ path t

theorem Stable.visitAll (h : Stable ctx I) {journals : List Path}
    (hjournals : ∀ path ∈ journals, path.Proper) : Leaves I (Cache.visitAll ctx journals) := by
  refine Leaves.forM fun path hpath => Leaves.bind (fun _ hp => hp) fun q => ?_
  split
  · exact h.visit _ _ (hjournals path hpath)
  · exact fun _ hp => hp

/-- The root stays. -/
theorem stable_root (ctx : PassContext) (place : Path) : Stable ctx fun root _ _ => root = place :=
  ⟨fun _ _ h => h, fun _ h => h, fun _ h => h⟩

/-- A time that was recorded stays recorded. -/
theorem stable_contains (ctx : PassContext) (place : Path) :
    Stable ctx fun _ _ times => times.contains place where
  keep _ _ h := h
  start _ h := (Table.contains_alter _ _ _ _).mpr (.inr h)
  watch _ h := (Table.contains_alter _ _ _ _).mpr (.inr h)

/-- The recorded times are those on the disk. -/
theorem stable_times (ctx : PassContext) :
    Stable ctx fun _ _ times => ∀ ⦃place time⦄, times.get? place = some time →
      ctx.view.disk.modified place = time where
  keep _ _ h := h
  start path h := by
    intro place time hget
    rw [Table.insert, Table.get?_alter] at hget
    split at hget
    · rename_i hplace
      rw [hplace, Option.some.inj hget]
    · exact h hget
  watch path h := by
    intro place time hget
    rw [Table.insertNew, Table.get?_alter] at hget
    split at hget
    · rename_i hplace
      cases hold : Table.get? _ path with
      | none =>
        rw [hold] at hget
        rw [hplace, ← Option.some.inj hget, Option.getD_none]
      | some old =>
        rw [hold] at hget
        rw [hplace, ← Option.some.inj hget, Option.getD_some]
        exact h hold
    · exact h hget

end

/-! ## Two contexts -/

/-- Whether a place is the same in two contexts: its time, whether there is a file, and if there is
one, or a buffer that stands for it, what it amounts to. -/
structure SameAt (ctx₁ ctx₂ : PassContext) (place : Path) : Prop where
  modified : ctx₁.view.disk.modified place = ctx₂.view.disk.modified place
  isFile : ctx₁.view.disk.isFile place = ctx₂.view.disk.isFile place
  loaded : ctx₁.view.disk.isFile place ∨ (ctx₁.buffers.get? place).isSome →
    loaded ctx₁ place = Project.loaded ctx₂ place

theorem SameAt.refl (ctx : PassContext) (place : Path) : SameAt ctx ctx place :=
  ⟨rfl, rfl, fun _ => rfl⟩

/-- Whether a directive of a file stands in the second context for what it stands for in the first,
as far as the watched place is the same. -/
structure SameTarget (ctx₁ ctx₂ : PassContext) (path : Path) (pattern : String) : Prop where
  error : ∀ e, (siteOf ctx₁ path).resolve ctx₁.view.disk pattern = .error e →
    (siteOf ctx₂ path).resolve ctx₂.view.disk pattern = .error e
  ok : ∀ files place, (siteOf ctx₁ path).resolve ctx₁.view.disk pattern = .ok files →
    (siteOf ctx₁ path).watch pattern = .ok place → SameAt ctx₁ ctx₂ place →
      (siteOf ctx₂ path).resolve ctx₂.view.disk pattern = .ok files ∧
      (siteOf ctx₂ path).watch pattern = .ok place ∧
      ∀ file ∈ files, loaded ctx₁ file = loaded ctx₂ file

/-- Whether passes in two contexts can be compared. -/
structure Comparable (ctx₁ ctx₂ : PassContext) : Prop where
  settings : ctx₁.settings = ctx₂.settings
  targets : ∀ ⦃path r⦄, path.Proper → loaded ctx₁ path = .ok r → ∀ t ∈ r.includes,
    SameTarget ctx₁ ctx₂ path t.pattern

theorem Comparable.refl (ctx : PassContext) : Comparable ctx ctx where
  settings := rfl
  targets _ _ _ _ _ _ := ⟨fun _ he => he, fun _ _ hfiles hplace _ => ⟨hfiles, hplace, fun _ _ => rfl⟩⟩

/-! ## States and steps side by side -/

/-- Whether two states of passes differ at most in what is kept of files and in what may be left of
a budget, which only the first may have. -/
structure Parallel (limited : Prop) (ctx₁ ctx₂ : PassContext) (p₁ p₂ : Pass) : Prop where
  limit : p₁.budget ≠ none → limited
  unlimited : p₂.budget = none
  known₁ : Known ctx₁ p₁.files
  known₂ : Known ctx₂ p₂.files
  root : p₁.root = p₂.root
  visited : p₁.visited = p₂.visited
  snapshots : p₁.snapshots = p₂.snapshots
  times : p₁.times = p₂.times
  warnings : p₁.warnings = p₂.warnings

variable {limited : Prop} {ctx₁ ctx₂ : PassContext}

/-- Whether the first of two steps, where all that it recorded a time of is the same in both
contexts, is cancelled or comes to what the second does. -/
def Follows (limited : Prop) (ctx₁ ctx₂ : PassContext) (m₁ m₂ : PassM α) : Prop :=
  ∀ p₁ p₂, Parallel limited ctx₁ ctx₂ p₁ p₂ →
    (∀ place, (outcome m₁ p₁).2.times.contains place → SameAt ctx₁ ctx₂ place) →
      (limited ∧ ∃ root n, (outcome m₁ p₁).1 = .error (.cancelled root n)) ∨
      ∃ p₂', outcome m₂ p₂ = ((outcome m₁ p₁).1, p₂') ∧
        Parallel limited ctx₁ ctx₂ (outcome m₁ p₁).2 p₂'

/-- Whether a step keeps all times that were recorded. -/
def Grows (m : PassM α) : Prop :=
  ∀ place, Leaves (fun _ _ times => times.contains place) m

theorem follows_pure (a : α) : Follows limited ctx₁ ctx₂ (pure a) (pure a) :=
  fun _ p₂ hp _ => .inr ⟨p₂, rfl, hp⟩

theorem follows_throw (e : ProjectError) :
    Follows limited ctx₁ ctx₂ (throw e : PassM α) (throw e) :=
  fun _ p₂ hp _ => .inr ⟨p₂, rfl, hp⟩

theorem follows_warnAt (source : Path) (line : Nat) (message : String) :
    Follows limited ctx₁ ctx₂ (warnAt source line message) (warnAt source line message) := by
  intro p₁ p₂ hp _
  refine .inr ⟨_, rfl, ?_⟩
  exact { hp with warnings := congrArg (· ++ [Warning.mk line message source.text]) hp.warnings }

/-- One step after another, where the second ones need to agree on values that the first can give
only. -/
theorem Follows.bind {m₁ m₂ : PassM α} {f₁ f₂ : α → PassM β}
    (hm : Follows limited ctx₁ ctx₂ m₁ m₂)
    (hf : ∀ a p₁ p₂, Parallel limited ctx₁ ctx₂ p₁ p₂ → (outcome m₁ p₁).1 = .ok a →
      Follows limited ctx₁ ctx₂ (f₁ a) (f₂ a))
    (hgrows : ∀ a, Grows (f₁ a)) : Follows limited ctx₁ ctx₂ (m₁ >>= f₁) (m₂ >>= f₂) := by
  intro p₁ p₂ hp hsame
  cases hrun : outcome m₁ p₁ with
  | mk result p₁' =>
    cases result with
    | error e =>
      rw [outcome_bind_of_error hrun] at hsame ⊢
      rcases hm p₁ p₂ hp (by rw [hrun]; exact hsame) with ⟨hlimited, root, n, hcancelled⟩ |
        ⟨p₂', hrun₂, hp'⟩
      · rw [hrun] at hcancelled
        exact .inl ⟨hlimited, root, n, congrArg _ (Except.error.inj hcancelled)⟩
      · rw [hrun] at hrun₂ hp'
        exact .inr ⟨p₂', outcome_bind_of_error hrun₂ f₂, hp'⟩
    | ok a =>
      rw [outcome_bind_of_ok hrun] at hsame ⊢
      have hbefore : ∀ place, p₁'.times.contains place → SameAt ctx₁ ctx₂ place :=
        fun place hplace => hsame place (hgrows a place p₁' hplace)
      rcases hm p₁ p₂ hp (by rw [hrun]; exact hbefore) with ⟨-, root, n, hcancelled⟩ |
        ⟨p₂', hrun₂, hp'⟩
      · rw [hrun] at hcancelled
        cases hcancelled
      · rw [hrun] at hrun₂ hp'
        rw [outcome_bind_of_ok hrun₂]
        exact hf a p₁ p₂ hp (by rw [hrun]) p₁' p₂' hp' hsame

/-- A handler that lets cancellation pass. -/
theorem Follows.tryCatch {m₁ m₂ : PassM α} {handle : ProjectError → PassM α}
    (hm : Follows limited ctx₁ ctx₂ m₁ m₂)
    (hhandle : ∀ e, Follows limited ctx₁ ctx₂ (handle e) (handle e))
    (hgrows : ∀ e, Grows (handle e))
    (hcancelled : ∀ root n, handle (.cancelled root n) = throw (.cancelled root n)) :
    Follows limited ctx₁ ctx₂ (tryCatch m₁ handle) (tryCatch m₂ handle) := by
  intro p₁ p₂ hp hsame
  rw [outcome_tryCatch] at hsame ⊢
  rw [outcome_tryCatch]
  cases hrun : outcome m₁ p₁ with
  | mk result p₁' =>
    rw [hrun] at hsame
    have hbefore : ∀ place, p₁'.times.contains place → SameAt ctx₁ ctx₂ place := by
      intro place hplace
      cases result with
      | error e => exact hsame place (hgrows e place p₁' hplace)
      | ok a => exact hsame place hplace
    have hfirst := hm p₁ p₂ hp (by rw [hrun]; exact hbefore)
    rw [hrun] at hfirst
    rcases hfirst with ⟨hlimited, root, n, rfl⟩ | ⟨p₂', hrun₂, hp'⟩
    · refine .inl ⟨hlimited, root, n, ?_⟩
      simp only [hcancelled, outcome_throw]
    · rw [hrun₂]
      cases result with
      | error e => exact hhandle e p₁' p₂' hp' hsame
      | ok a => exact .inr ⟨p₂', rfl, hp'⟩

theorem Follows.forM {l : List α} {step₁ step₂ : α → PassM Unit}
    (h : ∀ a ∈ l, Follows limited ctx₁ ctx₂ (step₁ a) (step₂ a))
    (hgrows : ∀ a ∈ l, Grows (step₁ a)) :
    Follows limited ctx₁ ctx₂ (l.forM step₁) (l.forM step₂) := by
  induction l with
  | nil => exact follows_pure ()
  | cons a l ih =>
    have hrest := fun b hb => h b (List.mem_cons_of_mem a hb)
    have hrestGrows := fun b hb => hgrows b (List.mem_cons_of_mem a hb)
    exact (h a List.mem_cons_self).bind (fun _ _ _ _ _ => ih hrest hrestGrows)
      fun _ place => Leaves.forM fun b hb => hrestGrows b hb place

/-- Starting on a file that amounts to the same in both contexts. -/
theorem follows_enter {path : Path} (hloaded : loaded ctx₁ path = loaded ctx₂ path) :
    Follows limited ctx₁ ctx₂ (enter ctx₁ path) (enter ctx₂ path) := by
  intro p₁ p₂ hp hsame
  rcases outcome_checkCancelled p₁ with ⟨hzero, hrun⟩ | ⟨budget₁, hbudget₁, hcheck₁⟩
  · refine .inl ⟨hp.limit (by rw [hzero]; nofun), p₁.root, p₁.visited.length, ?_⟩
    rw [enter, outcome_bind_of_error hrun]
  · rcases outcome_checkCancelled p₂ with ⟨hzero, -⟩ | ⟨budget₂, hbudget₂, hcheck₂⟩
    · rw [hp.unlimited] at hzero
      cases hzero
    · obtain ⟨files₁, reads₁, hknown₁, hrun₁⟩ := hp.known₁.outcome_enter path hcheck₁
      obtain ⟨files₂, reads₂, hknown₂, hrun₂⟩ := hp.known₂.outcome_enter path hcheck₂
      have hlimit : budget₁ ≠ none → limited := fun h => hp.limit (mt hbudget₁ h)
      have hunlimited : budget₂ = none := hbudget₂ hp.unlimited
      rw [hrun₁]
      rw [← hloaded] at hrun₂
      cases hr : loaded ctx₁ path with
      | error e =>
        rw [hr] at hrun₂
        exact .inr ⟨_, hrun₂, { hp with
          limit := hlimit
          unlimited := hunlimited
          known₁ := hknown₁
          known₂ := hknown₂
          visited := congrArg (List.insert path) hp.visited }⟩
      | ok r =>
        rw [hr] at hrun₂
        exact .inr ⟨_, hrun₂, { hp with
          limit := hlimit
          unlimited := hunlimited
          known₁ := hknown₁
          known₂ := hknown₂
          visited := congrArg (List.insert path) hp.visited
          snapshots := congrArg (· ++ [r.data]) hp.snapshots
          times := congrArg (Table.insert · path r.modified) hp.times }⟩

/-- What starting on a file gives is what the file amounts to, and its time is recorded. -/
theorem of_enter {ctx : PassContext} {path : Path} {p : Pass} (hfiles : Known ctx p.files)
    {r : FileResult} (h : (outcome (enter ctx path) p).1 = .ok r) :
    loaded ctx path = .ok r ∧ (outcome (enter ctx path) p).2.times.contains path := by
  rcases outcome_checkCancelled p with ⟨-, hrun⟩ | ⟨budget, -, hcheck⟩
  · rw [enter, outcome_bind_of_error hrun] at h
    cases h
  · obtain ⟨files, reads, -, hrun⟩ := hfiles.outcome_enter path hcheck
    rw [hrun] at h ⊢
    cases hr : loaded ctx path with
    | error e =>
      rw [hr] at h
      cases h
    | ok r' =>
      rw [hr] at h
      exact ⟨h, (Table.contains_alter p.times path path fun _ => r'.modified).mpr (.inl rfl)⟩

theorem Follows.followTarget {visit₁ visit₂ : Path → PassM Unit} {target : Path}
    (hvisit : Follows limited ctx₁ ctx₂ (visit₁ target) (visit₂ target)) (chain : List Path)
    (path : Path) (line : Nat) :
    Follows limited ctx₁ ctx₂ (followTarget visit₁ chain path line target)
      (followTarget visit₂ chain path line target) := by
  rw [Project.followTarget, Project.followTarget]
  split
  · exact follows_warnAt path line _
  · intro p₁ p₂ hp hsame
    rw [outcome_bind_of_ok (outcome_get p₁)] at hsame ⊢
    rw [outcome_bind_of_ok (outcome_get p₂), ← hp.visited]
    split
    · exact .inr ⟨p₂, rfl, hp⟩
    · rename_i hnew
      rw [if_neg hnew] at hsame
      refine hvisit.tryCatch (fun e => ?_) (fun e place => ?_) ?_ p₁ p₂ hp hsame
      · split
        · exact follows_warnAt path line _
        · exact follows_throw e
      · split
        · exact leaves_warnAt path line _
        · exact leaves_throw e
      · exact fun _ _ => rfl

theorem Follows.followInclude {visit₁ visit₂ : Path → PassM Unit} {path : Path}
    {t : IncludeTarget} (htarget : SameTarget ctx₁ ctx₂ path t.pattern)
    (hvisit : ∀ target, target.Proper → loaded ctx₁ target = loaded ctx₂ target →
      Follows limited ctx₁ ctx₂ (visit₁ target) (visit₂ target))
    (hgrows : ∀ target, target.Proper → Grows (visit₁ target)) (chain : List Path) :
    Follows limited ctx₁ ctx₂ (followInclude ctx₁ visit₁ chain path t)
      (followInclude ctx₂ visit₂ chain path t) := by
  intro p₁ p₂ hp hsame
  cases hresolve : (siteOf ctx₁ path).resolve ctx₁.view.disk t.pattern with
  | error e =>
    rw [outcome_followInclude_of_error visit₁ chain p₁ hresolve,
      outcome_followInclude_of_error visit₂ chain p₂ (htarget.error e hresolve)]
    exact .inr ⟨p₂, rfl, hp⟩
  | ok files =>
    obtain ⟨place, hwatch⟩ := exists_watch_of_resolve hresolve
    rw [outcome_followInclude visit₁ chain p₁ hresolve hwatch] at hsame ⊢
    have hproper (target : Path) (hmem : target ∈ files) : target.Proper :=
      IncludeSite.proper_of_resolve hresolve hmem
    -- the watched place stays recorded to the end, so it is the same in both contexts
    have hplace : SameAt ctx₁ ctx₂ place := by
      refine hsame place ?_
      have hwatched : (p₁.times.insertNew place
          (ctx₁.view.disk.modified place)).contains place :=
        (Table.contains_alter _ _ _ _).mpr (.inl rfl)
      split
      · exact hwatched
      · exact Leaves.forM (fun target hmem => leaves_followTarget
          (hgrows target (hproper target hmem) place) chain path t.line) _ hwatched
    obtain ⟨hresolve₂, hwatch₂, hloaded⟩ := htarget.ok files place hresolve hwatch hplace
    rw [outcome_followInclude visit₂ chain p₂ hresolve₂ hwatch₂, ← hplace.modified]
    have hp' : Parallel limited ctx₁ ctx₂
        { p₁ with times := p₁.times.insertNew place (ctx₁.view.disk.modified place) }
        { p₂ with times := p₂.times.insertNew place (ctx₁.view.disk.modified place) } :=
      { hp with times := congrArg (Table.insertNew · place _) hp.times }
    split
    · rename_i hempty
      rw [if_pos hempty] at hsame
      exact follows_warnAt path t.line _ _ _ hp' hsame
    · rename_i hsome
      rw [if_neg hsome] at hsame
      refine Follows.forM (fun target hmem => ?_) (fun target hmem place => ?_) _ _ hp' hsame
      · exact (hvisit target (hproper target hmem) (hloaded target hmem)).followTarget chain path
          t.line
      · exact leaves_followTarget (hgrows target (hproper target hmem) place) chain path t.line

theorem grows_visit (ctx : PassContext) (n : Nat) (chain : List Path) {path : Path}
    (hpath : path.Proper) : Grows (visit ctx n chain path) :=
  fun place => (stable_contains ctx place).visit n chain hpath

/-- **Visits side by side**, of a file that amounts to the same in both contexts. -/
theorem Comparable.follows_visit (h : Comparable ctx₁ ctx₂) (n : Nat) (chain : List Path)
    {path : Path} (hpath : path.Proper) (hloaded : loaded ctx₁ path = loaded ctx₂ path) :
    Follows limited ctx₁ ctx₂ (visit ctx₁ n chain path) (visit ctx₂ n chain path) := by
  induction n generalizing chain path with
  | zero =>
    rw [visit, visit, h.settings]
    refine (follows_enter hloaded).bind (fun r _ _ _ _ => ?_) fun r place => ?_
    · cases r.includes with
      | nil => exact follows_pure ()
      | cons first rest => exact follows_warnAt path first.line _
    · cases r.includes with
      | nil => exact fun _ hp => hp
      | cons first rest => exact leaves_warnAt path first.line _
  | succ n ih =>
    refine (follows_enter hloaded).bind (fun r p₁ p₂ hp hr => ?_) fun r place => ?_
    · refine Follows.forM (fun t ht => ?_) fun t _ place => ?_
      · exact Follows.followInclude (h.targets hpath (of_enter hp.known₁ hr).1 t ht)
          (fun target htarget hsame => ih (path :: chain) htarget hsame)
          (fun target htarget => grows_visit ctx₁ n (path :: chain) htarget) (path :: chain)
      · exact (stable_contains ctx₁ place).followInclude (fun target htarget =>
          grows_visit ctx₁ n (path :: chain) htarget place) _ path t
    · exact Leaves.forM fun t _ => (stable_contains ctx₁ place).followInclude
        (fun target htarget => grows_visit ctx₁ n (path :: chain) htarget place) _ path t

end Daybook.Project
