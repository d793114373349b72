import Daybook.Proofs.Project.Pass
import Daybook.Proofs.Snapshot.Merging
import Mathlib.Data.List.Forall2
import Mathlib.Data.List.Perm.Subperm

/-!
# The files that a pass reaches

A pass goes down the includes of its root one after another and starts on no file twice.  Every file
that it starts on is at the end of a trail of include directives that is no longer than the depth
limit.  The other way round there is an exception: a file that is first reached at the very limit is
not expanded, even if a shorter trail leads to it as well, and then the files behind it can be
missed.  Where no file with includes is in both places, the files of an entry are exactly those
within the limit.

* `Includes`, `Trail`: include directives, one and one after another.
* `WithinReach`: whether a file is at the end of a trail of some length at most.
* `Settled`: whether the includes of a file were followed, or it is at the limit.
* `Grown`: what a step of a pass may do to the files that were started on.
* `visit_grows`: what a visit does; `Cache.contributors_get`: what a request comes to.
-/

namespace Daybook.Project

open PassM Journal

/-! ## Trails -/

/-- The files that the include directives of a file stand for, if it amounts to something and all
its directives can be resolved. -/
def targetsOf (ctx : PassContext) (path : Path) : Except ProjectError (List Path) :=
  match loaded ctx path with
  | .error e => .error e
  | .ok r =>
    (r.includes.mapM fun t => (siteOf ctx path).resolve ctx.view.disk t.pattern).map List.flatten

/-- Whether a file amounts to something and all its include directives can be resolved. -/
def Readable (ctx : PassContext) (path : Path) : Prop :=
  ∃ targets, targetsOf ctx path = .ok targets

/-- Whether an include directive of a file stands for another one. -/
def Includes (ctx : PassContext) (path target : Path) : Prop :=
  ∃ targets, targetsOf ctx path = .ok targets ∧ target ∈ targets

/-- The files along include directives from a root, the last one first. -/
inductive Trail (ctx : PassContext) (root : Path) : List Path → Prop where
  | start : Trail ctx root [root]
  | follow {path target : Path} {back : List Path} :
    Trail ctx root (path :: back) → Includes ctx path target →
      Trail ctx root (target :: path :: back)

/-- Whether a file can be reached by at most `d` include directives. -/
def WithinReach (ctx : PassContext) (root : Path) (d : Nat) (path : Path) : Prop :=
  ∃ back, Trail ctx root (path :: back) ∧ back.length ≤ d

variable {ctx : PassContext} {root : Path} {d : Nat}

theorem forall₂_of_mapM {α β ε : Type} {f : α → Except ε β} {l : List α} {l' : List β}
    (h : l.mapM f = .ok l') : List.Forall₂ (fun a b => f a = .ok b) l l' := by
  induction l generalizing l' with
  | nil =>
    cases h
    exact .nil
  | cons a l ih =>
    rw [List.mapM_cons] at h
    cases ha : f a with
    | error e =>
      rw [ha] at h
      cases h
    | ok b =>
      cases hl : l.mapM f with
      | error e =>
        rw [ha, hl] at h
        cases h
      | ok bs =>
        rw [ha, hl] at h
        cases h
        exact .cons ha (ih hl)

theorem exists_of_forall₂_of_mem {α β : Type} {R : α → β → Prop} {l : List α} {l' : List β}
    (h : List.Forall₂ R l l') {a : α} (ha : a ∈ l) : ∃ b ∈ l', R a b := by
  induction h with
  | nil => cases ha
  | cons hab _ ih =>
    rcases List.mem_cons.mp ha with rfl | ha
    · exact ⟨_, List.mem_cons_self, hab⟩
    · obtain ⟨b, hb, hab⟩ := ih ha
      exact ⟨b, List.mem_cons_of_mem _ hb, hab⟩

/-- What the include directives of a file stand for, one by one. -/
theorem exists_of_targetsOf {path : Path} {targets : List Path}
    (h : targetsOf ctx path = .ok targets) :
    ∃ r, loaded ctx path = .ok r ∧ ∃ found : List (List Path), targets = found.flatten ∧
      List.Forall₂ (fun t files => (siteOf ctx path).resolve ctx.view.disk t.pattern = .ok files)
        r.includes found := by
  rw [targetsOf] at h
  split at h
  · cases h
  · rename_i r hr
    cases hfound : r.includes.mapM fun t => (siteOf ctx path).resolve ctx.view.disk t.pattern with
    | error e =>
      rw [hfound] at h
      cases h
    | ok found =>
      rw [hfound] at h
      exact ⟨r, hr, found, (Except.ok.inj h).symm, forall₂_of_mapM hfound⟩

/-- Whether a file with includes is at the end of a trail as long as the depth limit, which does not
come by the same file twice, and of a shorter trail.  What it includes may then be missed, although
it is within the limit. -/
def CutShort (ctx : PassContext) (root : Path) (d : Nat) (path : Path) : Prop :=
  (∃ target, Includes ctx path target) ∧
    (∃ back, Trail ctx root (path :: back) ∧ (path :: back).Nodup ∧ back.length = d) ∧
    ∃ other, Trail ctx root (path :: other) ∧ other.length < d

/-- Whether the includes of a file were followed, or it is at the end of a trail that does not come
by the same file twice and is as long as it may be. -/
def Settled (ctx : PassContext) (root : Path) (d : Nat) (visited : List Path) (path : Path) :
    Prop :=
  (∀ target, Includes ctx path target → target ∈ visited) ∨
    ∃ back, Trail ctx root (path :: back) ∧ (path :: back).Nodup ∧ back.length = d

theorem Settled.mono {visited visited' : List Path} {path : Path}
    (h : Settled ctx root d visited path) (hsub : visited ⊆ visited') :
    Settled ctx root d visited' path :=
  h.imp_left fun hall target ht => hsub (hall target ht)

/-- When every file that was started on is settled and none is cut short, all files within the limit
were started on. -/
theorem mem_of_withinReach {visited : List Path} (hroot : root ∈ visited)
    (hsettled : ∀ path ∈ visited, Settled ctx root d visited path)
    (hcut : ∀ path, ¬CutShort ctx root d path)
    {path : Path} (h : WithinReach ctx root d path) : path ∈ visited := by
  obtain ⟨back, htrail, hlength⟩ := h
  -- along the trail, from the root on
  generalize hl : path :: back = l at htrail
  induction htrail generalizing path back with
  | start =>
    cases hl
    exact hroot
  | @follow source _ rest htrail hincludes ih =>
    obtain ⟨rfl, rfl⟩ := List.cons.inj hl
    rw [List.length_cons] at hlength
    have hsource : source ∈ visited := ih rest (by omega) rfl
    rcases hsettled source hsource with hall | hlimit
    · exact hall path hincludes
    · exact absurd ⟨⟨path, hincludes⟩, hlimit, rest, htrail, by omega⟩ (hcut source)

/-- Whether files can be read and include nothing but each other. -/
def Closed (ctx : PassContext) (files : List Path) : Prop :=
  ∀ file ∈ files, ∃ targets, targetsOf ctx file = .ok targets ∧ targets ⊆ files

/-- Trails stay among files that include nothing else. -/
theorem Closed.subset {files : List Path} (hclosed : Closed ctx files) (hroot : root ∈ files)
    {l : List Path} (h : Trail ctx root l) : l ⊆ files := by
  induction h with
  | start => exact List.cons_subset.mpr ⟨hroot, List.nil_subset files⟩
  | follow _ hincludes ih =>
    obtain ⟨targets, htargets, htarget⟩ := hincludes
    obtain ⟨targets', htargets', hsub⟩ := hclosed _ (ih List.mem_cons_self)
    cases htargets.symm.trans htargets'
    exact List.cons_subset.mpr ⟨hsub htarget, ih⟩

theorem Closed.readable {files : List Path} (hclosed : Closed ctx files) (hroot : root ∈ files)
    {path : Path} (h : WithinReach ctx root d path) : Readable ctx path := by
  obtain ⟨back, htrail, -⟩ := h
  obtain ⟨targets, htargets, -⟩ := hclosed path (hclosed.subset hroot htrail List.mem_cons_self)
  exact ⟨targets, htargets⟩

/-- Where there are no more files than the depth limit, none is cut short. -/
theorem Closed.not_cutShort {files : List Path} (hclosed : Closed ctx files) (hroot : root ∈ files)
    (hlength : files.length ≤ d) (path : Path) : ¬CutShort ctx root d path := by
  rintro ⟨-, ⟨back, htrail, hnodup, hback⟩, -⟩
  have hle := (List.subperm_of_subset hnodup (hclosed.subset hroot htrail)).length_le
  rw [List.length_cons] at hle
  omega

/-! ## What a pass does -/

/-- What holds of a pass without a budget whose files can be read: the files that were started on
are within reach, and their snapshots are in the order in which they were started on. -/
structure Sound (ctx : PassContext) (root : Path) (d : Nat) (p : Pass) : Prop where
  budget : p.budget = none
  known : Known ctx p.files
  nodup : p.visited.Nodup
  read : ∃ results, List.Forall₂ (fun path r => loaded ctx path = .ok r) p.visited.reverse results ∧
    p.snapshots = results.map (·.data)
  reach : ∀ path ∈ p.visited, WithinReach ctx root d path

/-- What a step of such a pass may do: files are added, and those are settled. -/
structure Grown (ctx : PassContext) (root : Path) (d : Nat) (p p' : Pass) : Prop where
  sound : Sound ctx root d p'
  sameRoot : p'.root = p.root
  subset : p.visited ⊆ p'.visited
  settled : ∀ path ∈ p'.visited, path ∈ p.visited ∨ Settled ctx root d p'.visited path

theorem Sound.grown {p : Pass} (h : Sound ctx root d p) : Grown ctx root d p p where
  sound := h
  sameRoot := rfl
  subset := List.Subset.refl _
  settled _ hmem := .inl hmem

theorem Grown.trans {p p' p'' : Pass} (h : Grown ctx root d p p')
    (h' : Grown ctx root d p' p'') : Grown ctx root d p p'' where
  sound := h'.sound
  sameRoot := h'.sameRoot.trans h.sameRoot
  subset := List.Subset.trans h.subset h'.subset
  settled path hmem := by
    rcases h'.settled path hmem with hmem | hsettled
    · exact (h.settled path hmem).imp_right fun hs => hs.mono h'.subset
    · exact .inr hsettled

/-- A warning adds no file. -/
theorem Sound.grown_warn {p : Pass} (h : Sound ctx root d p) (warnings : List Warning) :
    Grown ctx root d p { p with warnings } where
  sound := ⟨h.budget, h.known, h.nodup, h.read, h.reach⟩
  sameRoot := rfl
  subset := List.Subset.refl _
  settled _ hmem := .inl hmem

/-- A place to watch adds no file. -/
theorem Sound.grown_watch {p : Pass} (h : Sound ctx root d p)
    (times : Table Path Int) : Grown ctx root d p { p with times } where
  sound := ⟨h.budget, h.known, h.nodup, h.read, h.reach⟩
  sameRoot := rfl
  subset := List.Subset.refl _
  settled _ hmem := .inl hmem

/-- After starting on a file, that file is the only one that has still to be settled. -/
theorem Grown.of_started {p p₁ p' : Pass} {path : Path} (hroot : p₁.root = p.root)
    (hvisited : p₁.visited = path :: p.visited) (h : Grown ctx root d p₁ p')
    (hsettled : Settled ctx root d p'.visited path) :
    Grown ctx root d p p' ∧ path ∈ p'.visited := by
  have hsub : path :: p.visited ⊆ p'.visited := hvisited ▸ h.subset
  refine ⟨⟨h.sound, h.sameRoot.trans hroot, List.subset_of_cons_subset hsub, ?_⟩,
    hsub List.mem_cons_self⟩
  intro f hf
  rcases h.settled f hf with hf | hf
  · rw [hvisited] at hf
    rcases List.mem_cons.mp hf with rfl | hf
    · exact .inr hsettled
    · exact .inl hf
  · exact .inr hf

/-- Starting on a new file that is within reach. -/
theorem Sound.enter {p : Pass} (h : Sound ctx root d p) {path : Path}
    (hnew : path ∉ p.visited) (hreach : WithinReach ctx root d path) {r : FileResult}
    (hr : loaded ctx path = .ok r) :
    ∃ p', outcome (enter ctx path) p = (.ok r, p') ∧ Sound ctx root d p' ∧
      p'.root = p.root ∧ p'.visited = path :: p.visited := by
  have hcheck : outcome checkCancelled p = (.ok (), { p with budget := none }) := by
    rcases outcome_checkCancelled p with ⟨hzero, -⟩ | ⟨budget, hnone, hrun⟩
    · rw [h.budget] at hzero
      cases hzero
    · rw [hrun, hnone h.budget]
  obtain ⟨files, reads, hknown, hrun⟩ := h.known.outcome_enter path hcheck
  rw [hr] at hrun
  refine ⟨_, hrun, ?_, rfl, List.insert_of_not_mem hnew⟩
  obtain ⟨results, hresults, hsnapshots⟩ := h.read
  exact {
    budget := rfl
    known := hknown
    nodup := by
      show (p.visited.insert path).Nodup
      rw [List.insert_of_not_mem hnew]
      exact List.nodup_cons.mpr ⟨hnew, h.nodup⟩
    read := by
      refine ⟨results ++ [r], ?_, ?_⟩
      · show List.Forall₂ _ (p.visited.insert path).reverse _
        rw [List.insert_of_not_mem hnew, List.reverse_cons]
        exact List.rel_append hresults (.cons hr .nil)
      · show p.snapshots ++ [r.data] = _
        rw [hsnapshots, List.map_append]
        rfl
    reach := by
      intro f hf
      rcases List.mem_insert_iff.mp hf with rfl | hf
      · exact hreach
      · exact h.reach f hf }

/-- Steps for the members of a list, one after another: each adds the files of its member. -/
theorem forM_grows {α : Type} {l : List α} {step : α → PassM Unit} {here : List Path}
    (added : α → Path → Prop)
    (hstep : ∀ a ∈ l, ∀ p, Sound ctx root d p → here ⊆ p.visited →
      ∃ p', outcome (step a) p = (.ok (), p') ∧ Grown ctx root d p p' ∧
        ∀ path, added a path → path ∈ p'.visited)
    {p : Pass} (hp : Sound ctx root d p) (hhere : here ⊆ p.visited) :
    ∃ p', outcome (l.forM step) p = (.ok (), p') ∧ Grown ctx root d p p' ∧
      ∀ a ∈ l, ∀ path, added a path → path ∈ p'.visited := by
  induction l generalizing p with
  | nil => exact ⟨p, rfl, hp.grown, nofun⟩
  | cons a l ih =>
    obtain ⟨p₁, hrun₁, hgrown₁, hadded₁⟩ := hstep a List.mem_cons_self p hp hhere
    obtain ⟨p₂, hrun₂, hgrown₂, hadded₂⟩ :=
      ih (fun b hb => hstep b (List.mem_cons_of_mem a hb)) hgrown₁.sound
        (List.Subset.trans hhere hgrown₁.subset)
    refine ⟨p₂, (outcome_bind_of_ok hrun₁ _).trans hrun₂, hgrown₁.trans hgrown₂, ?_⟩
    intro b hb path hpath
    rcases List.mem_cons.mp hb with rfl | hb
    · exact hgrown₂.subset (hadded₁ path hpath)
    · exact hadded₂ b hb path hpath

/-- Following a directive to one of its files, which is new or was started on before. -/
theorem followTarget_grows {visitFile : Path → PassM Unit} {chain : List Path} (path : Path)
    {target : Path} (line : Nat)
    (hvisit : target ∉ chain → ∀ p, Sound ctx root d p → chain ⊆ p.visited →
      target ∉ p.visited → ∃ p', outcome (visitFile target) p = (.ok (), p') ∧
        Grown ctx root d p p' ∧ target ∈ p'.visited)
    {p : Pass} (hp : Sound ctx root d p) (hchain : chain ⊆ p.visited) :
    ∃ p', outcome (followTarget visitFile chain path line target) p = (.ok (), p') ∧
      Grown ctx root d p p' ∧ target ∈ p'.visited := by
  rw [followTarget]
  by_cases hmem : target ∈ chain
  · rw [if_pos (List.contains_iff_mem.mpr hmem)]
    exact ⟨_, outcome_modify _ p, hp.grown_warn _, hchain hmem⟩
  · rw [if_neg (mt List.contains_iff_mem.mp hmem), outcome_bind_of_ok (outcome_get p)]
    by_cases hseen : target ∈ p.visited
    · rw [if_pos (List.contains_iff_mem.mpr hseen)]
      exact ⟨p, rfl, hp.grown, hseen⟩
    · rw [if_neg (mt List.contains_iff_mem.mp hseen), outcome_tryCatch]
      obtain ⟨p', hrun, hgrown⟩ := hvisit hmem p hp hchain hseen
      exact ⟨p', by rw [hrun], hgrown⟩

/-- Following an include directive that can be resolved. -/
theorem followInclude_grows {visitFile : Path → PassM Unit} {chain : List Path} {path : Path}
    {t : IncludeTarget} {files : List Path}
    (hresolve : (siteOf ctx path).resolve ctx.view.disk t.pattern = .ok files)
    (hvisit : ∀ target ∈ files, target ∉ chain → ∀ p, Sound ctx root d p → chain ⊆ p.visited →
      target ∉ p.visited → ∃ p', outcome (visitFile target) p = (.ok (), p') ∧
        Grown ctx root d p p' ∧ target ∈ p'.visited)
    {p : Pass} (hp : Sound ctx root d p) (hchain : chain ⊆ p.visited) :
    ∃ p', outcome (followInclude ctx visitFile chain path t) p = (.ok (), p') ∧
      Grown ctx root d p p' ∧ ∀ target ∈ files, target ∈ p'.visited := by
  obtain ⟨place, hplace⟩ := exists_watch_of_resolve hresolve
  have hwatched := hp.grown_watch (p.times.insertNew place (ctx.view.disk.modified place))
  rw [outcome_followInclude visitFile chain p hresolve hplace]
  by_cases hempty : files.isEmpty
  · rw [if_pos hempty]
    refine ⟨_, outcome_modify _ _, hwatched.trans (hwatched.sound.grown_warn _), ?_⟩
    rw [List.isEmpty_iff.mp hempty]
    exact nofun
  · rw [if_neg hempty]
    obtain ⟨p', hrun, hgrown, hadded⟩ := forM_grows (fun target path => path = target)
      (fun target htarget q hq hsub => by
        obtain ⟨q', hrun, hgrown, hmem⟩ :=
          followTarget_grows path t.line (hvisit target htarget) hq hsub
        exact ⟨q', hrun, hgrown, fun _ h => h ▸ hmem⟩) hwatched.sound hchain
    exact ⟨p', hrun, hwatched.trans hgrown, fun target htarget =>
      hadded target htarget target rfl⟩

/-- **What a visit does**: it starts on the file and adds files that are within reach and settled,
going by the remaining depth. -/
theorem visit_grows (hreadable : ∀ path, WithinReach ctx root d path → Readable ctx path) (n : Nat)
    {chain : List Path} {path : Path} (htrail : Trail ctx root (path :: chain))
    (hnodup : (path :: chain).Nodup) (hdepth : chain.length + n = d) {p : Pass}
    (hp : Sound ctx root d p) (hchain : chain ⊆ p.visited) (hnew : path ∉ p.visited) :
    ∃ p', outcome (visit ctx n chain path) p = (.ok (), p') ∧ Grown ctx root d p p' ∧
      path ∈ p'.visited := by
  induction n generalizing chain path p with
  | zero =>
    have hreach : WithinReach ctx root d path := ⟨chain, htrail, by omega⟩
    obtain ⟨targets, htargets⟩ := hreadable path hreach
    obtain ⟨r, hr, -⟩ := exists_of_targetsOf htargets
    obtain ⟨p₁, hrun₁, hsound₁, hroot₁, hvisited₁⟩ := hp.enter hnew hreach hr
    have hsettled : Settled ctx root d p₁.visited path := .inr ⟨chain, htrail, hnodup, by omega⟩
    rw [visit, outcome_bind_of_ok hrun₁]
    cases r.includes with
    | nil => exact ⟨p₁, rfl, Grown.of_started hroot₁ hvisited₁ hsound₁.grown hsettled⟩
    | cons first rest =>
      exact ⟨_, outcome_modify _ p₁,
        Grown.of_started hroot₁ hvisited₁ (hsound₁.grown_warn _) hsettled⟩
  | succ n ih =>
    have hreach : WithinReach ctx root d path := ⟨chain, htrail, by omega⟩
    obtain ⟨targets, htargets⟩ := hreadable path hreach
    obtain ⟨r, hr, found, hflatten, hfound⟩ := exists_of_targetsOf htargets
    obtain ⟨p₁, hrun₁, hsound₁, hroot₁, hvisited₁⟩ := hp.enter hnew hreach hr
    have hhere : path :: chain ⊆ p₁.visited := by
      rw [hvisited₁]
      exact List.cons_subset_cons path hchain
    have hfollow : ∀ t ∈ r.includes, ∀ q, Sound ctx root d q → path :: chain ⊆ q.visited →
        ∃ q', outcome (followInclude ctx (visit ctx n (path :: chain)) (path :: chain) path t) q =
          (.ok (), q') ∧ Grown ctx root d q q' ∧ ∀ target, (∃ files,
            (siteOf ctx path).resolve ctx.view.disk t.pattern = .ok files ∧ target ∈ files) →
              target ∈ q'.visited := by
      intro t ht q hq hsub
      obtain ⟨files, hmem, hfiles⟩ := exists_of_forall₂_of_mem hfound ht
      obtain ⟨q', hrun, hgrown, hadded⟩ := followInclude_grows hfiles
        (fun target htarget hfresh q hq hsub hnew => ih
          (htrail.follow ⟨targets, htargets, hflatten ▸ List.mem_flatten.mpr ⟨files, hmem, htarget⟩⟩)
          (List.nodup_cons.mpr ⟨hfresh, hnodup⟩) (by rw [List.length_cons]; omega) hq hsub hnew)
        hq hsub
      refine ⟨q', hrun, hgrown, ?_⟩
      rintro target ⟨files', hfiles', htarget⟩
      cases hfiles.symm.trans hfiles'
      exact hadded target htarget
    obtain ⟨p', hrun, hgrown, hadded⟩ := forM_grows _ hfollow hsound₁ hhere
    refine ⟨p', ?_, Grown.of_started hroot₁ hvisited₁ hgrown (.inl ?_)⟩
    · rw [visit, outcome_bind_of_ok hrun₁]
      exact hrun
    · rintro target ⟨targets', htargets', htarget⟩
      cases htargets.symm.trans htargets'
      rw [hflatten] at htarget
      obtain ⟨files, hfiles, htarget⟩ := List.mem_flatten.mp htarget
      obtain ⟨t, ht, hresolve⟩ := exists_of_forall₂_of_mem hfound.flip hfiles
      exact hadded t ht target ⟨files, hresolve, htarget⟩

/-! ## Entries -/

/-- Whether an entry is the merge of what files amount to, each of them once. -/
def Contributors (ctx : PassContext) (entry : Entry) (files : List Path) : Prop :=
  files.Nodup ∧ ∃ results, List.Forall₂ (fun path r => loaded ctx path = .ok r) files results ∧
    entry.data = Snapshot.mergeAll (results.map (·.data))

namespace Cache

theorem sound_startPass (c : Cache) (view : View) (root : Path) (d : Nat)
    (hfiles : Known (c.context view) c.files) :
    Sound (c.context view) root d (c.startPass root none) where
  budget := rfl
  known := hfiles
  nodup := List.nodup_nil
  read := ⟨[], .nil, rfl⟩
  reach := nofun

/-- **The files of an entry**: where everything within the depth limit can be read, the entry of a
journal is the merge of files within the limit, each of them once.  If none is cut short these are
all files within the limit. -/
theorem contributors_get (ctx : PassContext) {path : WrittenPath} {root : Path}
    (hroot : ctx.view.surroundings.resolve path = .ok root)
    (hreadable : ∀ file, WithinReach ctx root ctx.settings.maxIncludeDepth file →
      Readable ctx file) :
    ∃ entry files,
      ((anew ctx.settings ctx.buffers).get ctx.view none path).result = .ok (entry, false) ∧
      Contributors ctx entry files ∧
      (∀ file ∈ files, WithinReach ctx root ctx.settings.maxIncludeDepth file) ∧
      ((∀ file, ¬CutShort ctx root ctx.settings.maxIncludeDepth file) →
        ∀ file, WithinReach ctx root ctx.settings.maxIncludeDepth file → file ∈ files) := by
  have hstart := sound_startPass (anew ctx.settings ctx.buffers) ctx.view root
    ctx.settings.maxIncludeDepth (known_empty _)
  obtain ⟨p, hrun, hgrown, hmem⟩ := visit_grows hreadable ctx.settings.maxIncludeDepth .start
    (List.nodup_singleton root) (Nat.zero_add _) hstart (List.nil_subset _) List.not_mem_nil
  obtain ⟨results, hresults, hsnapshots⟩ := hgrown.sound.read
  refine ⟨entryOf p, p.visited.reverse, ?_, ⟨List.nodup_reverse.mpr hgrown.sound.nodup,
    results, hresults, congrArg Snapshot.mergeAll hsnapshots⟩, ?_, ?_⟩
  · have hplace : (anew ctx.settings ctx.buffers).placeOf ctx.view path = .ok root :=
      placeOf_of_ok rfl ctx.view hroot
    rw [get, hplace]
    show (getAt _ _ _ _).result = _
    rw [getAt_of_stale rfl]
    exact congrArg Answer.result (runPass_of_ok _ hrun)
  · intro file hfile
    exact hgrown.sound.reach file (List.mem_reverse.mp hfile)
  · intro hcut file hfile
    have hsettled : ∀ f ∈ p.visited, Settled ctx root ctx.settings.maxIncludeDepth p.visited f :=
      fun f hf => (hgrown.settled f hf).resolve_left List.not_mem_nil
    exact List.mem_reverse.mpr (mem_of_withinReach hmem hsettled hcut hfile)

/-- A journal that includes two others, which both include a fourth, which includes the first. -/
def roundTrip : PassContext where
  view :=
    { disk := ⟨⟨[(⟨[]⟩, ⟨.directory, 1000⟩),
        (⟨["main"]⟩, ⟨.file "include left\ninclude right\n".toUTF8, 1000⟩),
        (⟨["left"]⟩, ⟨.file "include shared\n".toUTF8, 1000⟩),
        (⟨["right"]⟩, ⟨.file "include shared\n".toUTF8, 1000⟩),
        (⟨["shared"]⟩, ⟨.file "payee P\ninclude main\n".toUTF8, 1000⟩)]⟩⟩
      surroundings := ⟨.root, "/", .empty⟩
      today := BuildOptions.plain.today }
  settings := .standard
  buffers := .empty

/-- All four journals of a round trip contribute to the entry of the first. -/
theorem contributors_get_roundTrip :
    roundTrip.view.surroundings.resolve ⟨.root, ["main"]⟩ = .ok ⟨["main"]⟩ ∧
    (∀ file, WithinReach roundTrip ⟨["main"]⟩ 10 file → Readable roundTrip file) ∧
    (∀ file, ¬CutShort roundTrip ⟨["main"]⟩ 10 file) ∧
    ∃ entry files,
      ((anew roundTrip.settings roundTrip.buffers).get roundTrip.view none
        ⟨.root, ["main"]⟩).result = .ok (entry, false) ∧
      Contributors roundTrip entry files ∧
      ⟨["main"]⟩ ∈ files ∧ ⟨["shared"]⟩ ∈ files := by
  have hmain : targetsOf roundTrip ⟨["main"]⟩ = .ok [⟨["left"]⟩, ⟨["right"]⟩] := by decide +kernel
  have hleft : targetsOf roundTrip ⟨["left"]⟩ = .ok [⟨["shared"]⟩] := by decide +kernel
  have hright : targetsOf roundTrip ⟨["right"]⟩ = .ok [⟨["shared"]⟩] := by decide +kernel
  have hshared : targetsOf roundTrip ⟨["shared"]⟩ = .ok [⟨["main"]⟩] := by decide +kernel
  have hroot : roundTrip.view.surroundings.resolve ⟨.root, ["main"]⟩ = .ok ⟨["main"]⟩ := by
    decide +kernel
  have hclosed : Closed roundTrip [⟨["main"]⟩, ⟨["left"]⟩, ⟨["right"]⟩, ⟨["shared"]⟩] := by
    simp only [Closed, List.forall_mem_cons, hmain, hleft, hright, hshared]
    simp
  have hreadable (file : Path) (h : WithinReach roundTrip ⟨["main"]⟩ 10 file) :
      Readable roundTrip file := hclosed.readable List.mem_cons_self h
  have hcut : ∀ file, ¬CutShort roundTrip ⟨["main"]⟩ 10 file :=
    hclosed.not_cutShort List.mem_cons_self (by decide)
  obtain ⟨entry, files, hget, hcontributors, -, hall⟩ := contributors_get roundTrip hroot hreadable
  have hmainTrail : Trail roundTrip ⟨["main"]⟩ [⟨["main"]⟩] := .start
  have hsharedTrail : Trail roundTrip ⟨["main"]⟩ [⟨["shared"]⟩, ⟨["left"]⟩, ⟨["main"]⟩] :=
    (hmainTrail.follow ⟨_, hmain, List.mem_cons_self⟩).follow ⟨_, hleft, List.mem_cons_self⟩
  exact ⟨hroot, hreadable, hcut, entry, files, hget, hcontributors,
    hall hcut _ ⟨_, hmainTrail, by decide⟩, hall hcut _ ⟨_, hsharedTrail, by decide⟩⟩

/-- A journal that includes two others, of which the first includes the second, which includes a
fourth; includes are followed twice in a row. -/
def detour : PassContext where
  view :=
    { disk := ⟨⟨[(⟨[]⟩, ⟨.directory, 1000⟩),
        (⟨["main"]⟩, ⟨.file "include left\ninclude right\n".toUTF8, 1000⟩),
        (⟨["left"]⟩, ⟨.file "include right\n".toUTF8, 1000⟩),
        (⟨["right"]⟩, ⟨.file "include last\n".toUTF8, 1000⟩),
        (⟨["last"]⟩, ⟨.file "payee P\n".toUTF8, 1000⟩)]⟩⟩
      surroundings := ⟨.root, "/", .empty⟩
      today := BuildOptions.plain.today }
  settings := { Settings.standard with maxIncludeDepth := 2 }
  buffers := .empty

/-- A file whose texts are not in an entry does not contribute to it. -/
theorem not_mem_of_contributors {ctx : PassContext} {entry : Entry} {files : List Path}
    (h : Contributors ctx entry files) {path : Path} {r : FileResult}
    (hr : loaded ctx path = .ok r) {fingerprint : String} (hsource : fingerprint ∈ r.data.sources)
    (hnot : fingerprint ∉ entry.data.sources) : path ∉ files := by
  obtain ⟨-, results, hresults, hdata⟩ := h
  intro hpath
  obtain ⟨r', hmem, hr'⟩ := exists_of_forall₂_of_mem hresults hpath
  cases hr.symm.trans hr'
  refine hnot ?_
  rw [hdata]
  exact Snapshot.mem_sources_mergeAll.mpr ⟨r.data, List.mem_map_of_mem hmem, hsource⟩

/-- **A file within the limit can be missed.**  The second journal is first reached by way of the
first one, at the limit, and not expanded; the shorter trail comes too late. -/
theorem contributors_get_misses_last :
    Closed detour [⟨["main"]⟩, ⟨["left"]⟩, ⟨["right"]⟩, ⟨["last"]⟩] ∧
    WithinReach detour ⟨["main"]⟩ 2 ⟨["last"]⟩ ∧
    ∃ entry, ((anew detour.settings detour.buffers).get detour.view none
        ⟨.root, ["main"]⟩).result = .ok (entry, false) ∧
      ∀ files, Contributors detour entry files → ⟨["last"]⟩ ∉ files := by
  have hmain : targetsOf detour ⟨["main"]⟩ = .ok [⟨["left"]⟩, ⟨["right"]⟩] := by decide +kernel
  have hleft : targetsOf detour ⟨["left"]⟩ = .ok [⟨["right"]⟩] := by decide +kernel
  have hright : targetsOf detour ⟨["right"]⟩ = .ok [⟨["last"]⟩] := by decide +kernel
  have hlast : targetsOf detour ⟨["last"]⟩ = .ok [] := by decide +kernel
  have hclosed : Closed detour [⟨["main"]⟩, ⟨["left"]⟩, ⟨["right"]⟩, ⟨["last"]⟩] := by
    simp only [Closed, List.forall_mem_cons, hmain, hleft, hright, hlast]
    simp
  have htrail : Trail detour ⟨["main"]⟩ [⟨["last"]⟩, ⟨["right"]⟩, ⟨["main"]⟩] :=
    (Trail.start.follow ⟨_, hmain, by simp⟩).follow ⟨_, hright, by simp⟩
  have hread : ((loaded detour ⟨["last"]⟩).bind fun r =>
      ((anew detour.settings detour.buffers).get detour.view none
        ⟨.root, ["main"]⟩).result.map fun answer =>
          (answer.2, r.data.sources.any fun f => !answer.1.data.sources.contains f)) =
      .ok (false, true) := by
    decide +kernel
  obtain ⟨r, ⟨entry, known⟩, hr, hget, hfresh⟩ := exists_ok_of_bind_map hread
  obtain ⟨rfl, hsources⟩ := Prod.mk.inj hfresh
  obtain ⟨fingerprint, hsource, hnot⟩ := List.any_eq_true.mp hsources
  refine ⟨hclosed, ⟨_, htrail, by decide⟩, entry, hget, fun files hfiles => ?_⟩
  exact not_mem_of_contributors hfiles hr hsource (by simpa using hnot)

end Cache

end Daybook.Project
