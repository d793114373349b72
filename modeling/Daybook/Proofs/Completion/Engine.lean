import Daybook.Completion.Engine
import Daybook.Proofs.Builder.Lines
import Daybook.Proofs.Search.Matcher

/-!
# Engines that share a matcher

An engine prepares the names of a subject when it first needs them, and its matcher remembers results
across engines.  None of this shows in an answer: whatever was asked before and by whom, an engine
answers from its latest snapshot alone.

* `Completion.answer`: the answer to a request without anything prepared or remembered.
* `Engine.Ready`: the sets of an engine hold the names of its snapshot.
* `Engine.complete_leaves`: an engine gives this answer and keeps its sets in order.
* `Bench`: several engines with one matcher; `Bench.after`: what calls make of it.
* `Bench.answerTo_after`: what an engine answers after any calls to it and to the others.
-/

namespace Daybook.Completion

open Text Calendar Search

/-! ## Answers without a matcher -/

/-- The names of a subject as candidates, the most used first. -/
def candidatesOf (s : Snapshot) (subject : Subject) : List Candidate :=
  ((subject.ordered s).map (·.1)).map
    (Candidate.ofName ⟨(subject.ordered s).map fun n => (n.1, (n.2 : Int))⟩)

/-- The suggestions that a search leads to. -/
def searchAnew (settings : Settings) (s : Snapshot) (payee : Option String) (lookup : Lookup) :
    List Item :=
  offers s settings.templateCompletions payee lookup
    (topMatches lookup.query settings.maxResults (candidatesOf s lookup.subject))

/-- The suggestions for a domain, without their ranks. -/
def suggestAnew (settings : Settings) (s : Snapshot) (domain : Domain) (before : List Char)
    (payee : Option String) (today : Date) : Except CompletionError (List Item) :=
  match domain with
  | .date =>
    match dateItems s.lastDate today before with
    | .error err => .error (.calendar err)
    | .ok items => .ok items
  | _ =>
    match lookup? domain before with
    | none => .ok []
    | some lookup =>
      if domain == .tagValue && (lookup.subject.names s).isEmpty then .ok []
      else .ok (searchAnew settings s payee lookup)

/-- The suggestions for a request from a snapshot, with nothing prepared or remembered. -/
def answer (settings : Settings) (s : Snapshot) (request : Request) :
    Except CompletionError (List Item) :=
  match analyze request.line request.column with
  | .error err => .error (.column err)
  | .ok position =>
    match position.context.domain? with
    | none => .ok []
    | some domain =>
      if Engine.isMidWord settings domain position.after then .ok []
      else
        (suggestAnew settings s domain position.before request.payee request.today).map
          (numbered settings.maxResults)

/-- A column that is not negative is a place in the line or behind it. -/
theorem exists_analyze_eq_ok (line : List Char) {column : Int} (h : 0 ≤ column) :
    ∃ position, analyze line column = .ok position := by
  unfold analyze classify
  rw [if_neg (Int.not_lt.mpr h)]
  split_ifs
  · exact ⟨_, rfl⟩
  · exact ⟨_, rfl⟩

namespace Engine

variable {prepared prepared' : Nat → List Candidate} {e : Engine} {m m' : Matcher}

/-- Whether the sets of an engine hold the names of its snapshot and come from the matcher. -/
def Ready (prepared : Nat → List Candidate) (m : Matcher) (e : Engine) : Prop :=
  ∀ subject set, e.sets.get? subject = some set →
    Matcher.Prepared prepared m set ∧ set.candidates = candidatesOf e.data subject

theorem ready_of_sets_eq_empty (h : e.sets = .empty) : e.Ready prepared m := by
  intro subject set hset
  rw [h] at hset
  cases hset

/-- A new engine has no sets yet. -/
theorem ready_start (settings : Settings) (s : Snapshot) : (start settings s).Ready prepared m :=
  ready_of_sets_eq_empty rfl

theorem Ready.grows (h : e.Ready prepared m) (hgrows : Matcher.Grows prepared m prepared' m') :
    e.Ready prepared' m' :=
  fun subject set hset => ⟨(h subject set hset).1.grows hgrows, (h subject set hset).2⟩

/-- What a call leaves behind: a matcher with right results, and the engine as it was, perhaps with
more names prepared. -/
structure Leaves (prepared : Nat → List Candidate) (e : Engine) (m : Matcher) (e' : Engine)
    (m' : Matcher) (prepared' : Nat → List Candidate) : Prop where
  grows : Matcher.Grows prepared m prepared' m'
  remembers : m'.Remembers prepared'
  ready : e'.Ready prepared' m'
  settings_eq : e'.settings = e.settings
  data_eq : e'.data = e.data
  disposed_eq : e'.disposed = e.disposed

theorem Leaves.refl (hm : m.Remembers prepared) (he : e.Ready prepared m) :
    Leaves prepared e m e m prepared where
  grows := .refl _ _
  remembers := hm
  ready := he
  settings_eq := rfl
  data_eq := rfl
  disposed_eq := rfl

theorem candidates_leaves (hm : m.Remembers prepared) (he : e.Ready prepared m)
    (subject : Subject) :
    ∃ prepared', Leaves prepared e m (e.candidates m subject).2.1 (e.candidates m subject).2.2
        prepared' ∧
      Matcher.Prepared prepared' (e.candidates m subject).2.2 (e.candidates m subject).1 ∧
      (e.candidates m subject).1.candidates = candidatesOf e.data subject := by
  unfold candidates
  cases hset : e.sets.get? subject with
  | some set => exact ⟨prepared, .refl hm he, he subject set hset⟩
  | none =>
    obtain ⟨hgrows, hremembers, hprepared⟩ := hm.index ((subject.ordered e.data).map (·.1))
      ⟨(subject.ordered e.data).map fun n => (n.1, (n.2 : Int))⟩
    refine ⟨_, ⟨hgrows, hremembers, fun other set hother => ?_, rfl, rfl, rfl⟩, hprepared, rfl⟩
    replace hother := (Table.get?_insert _ _ _ _).symm.trans hother
    split_ifs at hother with heq
    · obtain rfl := Option.some.inj hother
      exact ⟨hprepared, by rw [heq]; rfl⟩
    · exact he.grows hgrows other set hother

theorem search_leaves (hm : m.Remembers prepared) (he : e.Ready prepared m)
    (payee : Option String) (lookup : Lookup) :
    (e.search m payee lookup).1 = searchAnew e.settings e.data payee lookup ∧
      ∃ prepared', Leaves prepared e m (e.search m payee lookup).2.1 (e.search m payee lookup).2.2
        prepared' := by
  obtain ⟨prepared', hleaves, hprepared, hnames⟩ := candidates_leaves hm he lookup.subject
  obtain ⟨hfound, hremembers, hnext⟩ := hleaves.remembers.rankCapped_eq hprepared lookup.query
    e.settings.maxResults
  have hgrows : Matcher.Grows prepared' (e.candidates m lookup.subject).2.2 prepared'
      (e.search m payee lookup).2.2 := ⟨Nat.le_of_eq hnext.symm, fun _ _ => rfl⟩
  refine ⟨?_, prepared', ?_⟩
  · rw [hnames] at hfound
    rw [searchAnew, ← hfound]
    rfl
  · exact {
      hleaves with
      grows := hleaves.grows.trans hgrows
      remembers := hremembers
      ready := hleaves.ready.grows hgrows }

theorem suggest_leaves (hm : m.Remembers prepared) (he : e.Ready prepared m) (domain : Domain)
    (before : List Char) (payee : Option String) (today : Date) :
    (e.suggest m domain before payee today).map (·.1) =
        suggestAnew e.settings e.data domain before payee today ∧
      ∀ after, e.suggest m domain before payee today = .ok after →
        ∃ prepared', Leaves prepared e m after.2.1 after.2.2 prepared' := by
  have hkept (items : List Item) : ∀ after,
      (.ok (items, e, m) : Except CompletionError (List Item × Engine × Matcher)) = .ok after →
        ∃ prepared', Leaves prepared e m after.2.1 after.2.2 prepared' := by
    rintro after ⟨⟩
    exact ⟨prepared, .refl hm he⟩
  cases domain with
  | date =>
    unfold suggest suggestAnew
    cases dateItems e.data.lastDate today before with
    | error err => exact ⟨rfl, fun after h => by cases h⟩
    | ok items => exact ⟨rfl, hkept items⟩
  | _ =>
    unfold suggest suggestAnew
    dsimp only
    cases lookup? _ before with
    | none => exact ⟨rfl, hkept []⟩
    | some lookup =>
      dsimp only
      split_ifs
      · exact ⟨rfl, hkept []⟩
      · obtain ⟨hitems, hleaves⟩ := search_leaves hm he payee lookup
        exact ⟨congrArg Except.ok hitems, fun after h => by cases h; exact hleaves⟩

/-- **An engine answers as if nothing were prepared or remembered.** -/
theorem complete_leaves (hm : m.Remembers prepared) (he : e.Ready prepared m) (request : Request) :
    (e.disposed = false → (e.complete m request).1 = answer e.settings e.data request) ∧
      ∃ prepared', Leaves prepared e m (e.complete m request).2.1 (e.complete m request).2.2
        prepared' := by
  have hkept : ∃ prepared', Leaves prepared e m e m prepared' := ⟨prepared, .refl hm he⟩
  unfold complete answer
  cases analyze request.line request.column with
  | error err => exact ⟨fun _ => rfl, hkept⟩
  | ok position =>
    dsimp only
    cases position.context.domain? with
    | none => exact ⟨fun _ => rfl, hkept⟩
    | some domain =>
      dsimp only
      cases hdisposed : e.disposed with
      | true => exact ⟨fun h => absurd h (by decide), hkept⟩
      | false =>
        rw [Bool.false_or]
        split_ifs
        · exact ⟨fun _ => rfl, hkept⟩
        obtain ⟨hitems, hleaves⟩ :=
          suggest_leaves hm he domain position.before request.payee request.today
        rw [← hitems]
        cases hsuggest : e.suggest m domain position.before request.payee request.today with
        | error err => exact ⟨fun _ => rfl, hkept⟩
        | ok after => exact ⟨fun _ => rfl, hleaves after hsuggest⟩

/-- The answer of a new engine with a new matcher. -/
theorem complete_start {maxResults maxCacheSize : Int} {fresh : Matcher}
    (h : Matcher.make maxResults maxCacheSize = .ok fresh) (settings : Settings) (s : Snapshot)
    (request : Request) :
    ((start settings s).complete fresh request).1 = answer settings s request := by
  have hremembers := Matcher.remembers_of_make h fun _ => []
  exact (complete_leaves hremembers (ready_start settings s) request).1 rfl

theorem complete_of_disposed (h : e.disposed = true) {request : Request}
    (hcolumn : 0 ≤ request.column) : (e.complete m request).1 = .ok [] := by
  obtain ⟨position, hposition⟩ := exists_analyze_eq_ok request.line hcolumn
  rw [complete, hposition]
  dsimp only
  cases position.context.domain? with
  | none => rfl
  | some domain =>
    dsimp only
    rw [h, Bool.true_or, if_pos rfl]

end Engine

/-! ## Several engines -/

/-- A call to an engine. -/
inductive Call where
  | complete (request : Request)
  | update (data : Snapshot)
  | dispose

/-- Engines that share a matcher. -/
structure Bench (ι : Type) where
  engines : ι → Engine
  matcher : Matcher

namespace Bench

variable {ι : Type}

/-- Engines that were not called yet. -/
def start (settings : ι → Settings) (data : ι → Snapshot) (matcher : Matcher) : Bench ι :=
  ⟨fun i => .start (settings i) (data i), matcher⟩

/-- What an engine answers to a request. -/
def answerTo (b : Bench ι) (i : ι) (request : Request) : Except CompletionError (List Item) :=
  ((b.engines i).complete b.matcher request).1

variable [DecidableEq ι]

/-- What a call to an engine makes of it and of the matcher. -/
def call (b : Bench ι) (i : ι) (c : Call) : Bench ι :=
  match c with
  | .complete request =>
    let after := ((b.engines i).complete b.matcher request).2
    ⟨Function.update b.engines i after.1, after.2⟩
  | .update data => ⟨Function.update b.engines i ((b.engines i).update data), b.matcher⟩
  | .dispose =>
    let after := (b.engines i).dispose b.matcher
    ⟨Function.update b.engines i after.1, after.2⟩

/-- What calls to engines lead to, one after another. -/
def after (b : Bench ι) (calls : List (ι × Call)) : Bench ι :=
  calls.foldl (fun b c => b.call c.1 c.2) b

end Bench

/-- The latest snapshot of an engine, where there was `now` before a call; none once the engine is
disposed of. -/
def Call.latest (now : Option Snapshot) : Call → Option Snapshot
  | .complete _ => now
  | .update data => now.map fun _ => data
  | .dispose => none

/-- The latest snapshot of engine `i` after calls to all of them. -/
def latestAfter {ι : Type} [DecidableEq ι] (i : ι) (now : Option Snapshot)
    (calls : List (ι × Call)) : Option Snapshot :=
  ((calls.filter (·.1 = i)).map (·.2)).foldl Call.latest now

/-- Whether an engine has these settings, this latest snapshot, and sets in order. -/
structure Engine.Stands (prepared : Nat → List Candidate) (m : Matcher) (settings : Settings)
    (now : Option Snapshot) (e : Engine) : Prop where
  ready : e.Ready prepared m
  settings_eq : e.settings = settings
  disposed_eq : e.disposed = now.isNone
  data_eq : ∀ data, now = some data → e.data = data

namespace Engine.Stands

variable {prepared prepared' : Nat → List Candidate} {m m' : Matcher} {settings : Settings}
  {now : Option Snapshot} {e e' : Engine}

theorem grows (h : e.Stands prepared m settings now)
    (hgrows : Matcher.Grows prepared m prepared' m') : e.Stands prepared' m' settings now :=
  { h with ready := h.ready.grows hgrows }

theorem leaves (h : e.Stands prepared m settings now)
    (hleaves : Leaves prepared e m e' m' prepared') : e'.Stands prepared' m' settings now where
  ready := hleaves.ready
  settings_eq := hleaves.settings_eq.trans h.settings_eq
  disposed_eq := hleaves.disposed_eq.trans h.disposed_eq
  data_eq data hdata := hleaves.data_eq.trans (h.data_eq data hdata)

theorem update (h : e.Stands prepared m settings now) (data : Snapshot) :
    (e.update data).Stands prepared m settings (now.map fun _ => data) where
  ready := ready_of_sets_eq_empty rfl
  settings_eq := h.settings_eq
  disposed_eq := h.disposed_eq.trans Option.isNone_map.symm
  data_eq data' hdata := by
    obtain ⟨-, -, rfl⟩ := Option.map_eq_some_iff.mp hdata
    rfl

theorem dispose (h : e.Stands prepared m settings now) :
    (e.dispose m).1.Stands prepared m.clearCache settings none where
  ready := ready_of_sets_eq_empty rfl
  settings_eq := h.settings_eq
  disposed_eq := rfl
  data_eq data hdata := by cases hdata

end Engine.Stands

namespace Bench

variable {ι : Type} {settings : ι → Settings} {now : ι → Option Snapshot} {b : Bench ι}

/-- Whether the engines have these settings and latest snapshots, and nothing that is prepared or
remembered is out of date. -/
def InOrder (settings : ι → Settings) (now : ι → Option Snapshot) (b : Bench ι) : Prop :=
  ∃ prepared, b.matcher.Remembers prepared ∧
    ∀ i, (b.engines i).Stands prepared b.matcher (settings i) (now i)

theorem inOrder_start (settings : ι → Settings) (data : ι → Snapshot) {matcher : Matcher}
    (h : matcher.cache = .empty) :
    (start settings data matcher).InOrder settings fun i => some (data i) := by
  refine ⟨fun _ => [], Matcher.remembers_of_cache_eq_empty _ h, fun i => ?_⟩
  exact ⟨Engine.ready_of_sets_eq_empty rfl, rfl, rfl, fun _ => Option.some.inj⟩

variable [DecidableEq ι]

/-- A call changes one engine; the others go on with a matcher that has grown. -/
theorem inOrder_replace {prepared prepared' : Nat → List Candidate} {matcher' : Matcher}
    (hb : ∀ i, (b.engines i).Stands prepared b.matcher (settings i) (now i))
    (hgrows : Matcher.Grows prepared b.matcher prepared' matcher')
    (hmatcher : matcher'.Remembers prepared') {i : ι} {e' : Engine} {now' : Option Snapshot}
    (he : e'.Stands prepared' matcher' (settings i) now') :
    InOrder settings (Function.update now i now') ⟨Function.update b.engines i e', matcher'⟩ := by
  refine ⟨prepared', hmatcher, fun j => ?_⟩
  by_cases hj : j = i
  · subst hj
    simp only [Function.update_self]
    exact he
  · simp only [Function.update_of_ne hj]
    exact (hb j).grows hgrows

/-- **What one call preserves.** -/
theorem InOrder.call (h : b.InOrder settings now) (i : ι) (c : Call) :
    (b.call i c).InOrder settings (Function.update now i (c.latest (now i))) := by
  obtain ⟨prepared, hmatcher, hb⟩ := h
  cases c with
  | complete request =>
    obtain ⟨-, prepared', hleaves⟩ := Engine.complete_leaves hmatcher (hb i).ready request
    exact inOrder_replace hb hleaves.grows hleaves.remembers ((hb i).leaves hleaves)
  | update data =>
    exact inOrder_replace hb (.refl _ _) hmatcher ((hb i).update data)
  | dispose =>
    have hcleared : b.matcher.clearCache.Remembers prepared :=
      Matcher.remembers_of_cache_eq_empty _ rfl
    have hgrows : Matcher.Grows prepared b.matcher prepared b.matcher.clearCache :=
      ⟨Nat.le_refl _, fun _ _ => rfl⟩
    exact inOrder_replace hb hgrows hcleared (hb i).dispose

/-- What any number of calls preserves. -/
theorem InOrder.after (h : b.InOrder settings now) (calls : List (ι × Call)) :
    (b.after calls).InOrder settings fun i => latestAfter i (now i) calls := by
  induction calls generalizing b now with
  | nil => exact h
  | cons c rest ih =>
    have hlatest : (fun i => latestAfter i (now i) (c :: rest)) =
        fun i => latestAfter i (Function.update now c.1 (c.2.latest (now c.1)) i) rest := by
      funext i
      by_cases hi : i = c.1
      · subst hi
        simp [latestAfter]
      · simp [latestAfter, hi, Ne.symm hi]
    rw [hlatest]
    exact ih (h.call c.1 c.2)

/-- **What is prepared and remembered does not show.**  After any calls to engines that share a
matcher, an engine with a snapshot answers every request as a new engine does that has the same
settings, its latest snapshot and a new matcher; an engine that is disposed of offers nothing. -/
theorem answerTo_after (settings : ι → Settings) (data : ι → Snapshot)
    {maxResults maxCacheSize maxResults' maxCacheSize' : Int} {matcher fresh : Matcher}
    (hmatcher : Matcher.make maxResults maxCacheSize = .ok matcher)
    (hfresh : Matcher.make maxResults' maxCacheSize' = .ok fresh) (calls : List (ι × Call)) (i : ι)
    (request : Request) :
    (∀ latest, latestAfter i (some (data i)) calls = some latest →
      ((start settings data matcher).after calls).answerTo i request =
        ((Engine.start (settings i) latest).complete fresh request).1) ∧
    (latestAfter i (some (data i)) calls = none → 0 ≤ request.column →
      ((start settings data matcher).after calls).answerTo i request = .ok []) := by
  obtain ⟨prepared, hremembers, hb⟩ :=
    (inOrder_start settings data (Matcher.cache_of_make hmatcher)).after calls
  have hstands : ((start settings data matcher).after calls |>.engines i).Stands prepared _
      (settings i) (latestAfter i (some (data i)) calls) := hb i
  refine ⟨fun latest hlatest => ?_, fun hnone hcolumn => ?_⟩
  · have hpresent : ((start settings data matcher).after calls |>.engines i).disposed = false := by
      rw [hstands.disposed_eq, hlatest]
      rfl
    rw [answerTo, (Engine.complete_leaves hremembers hstands.ready request).1 hpresent,
      hstands.settings_eq, hstands.data_eq latest hlatest, Engine.complete_start hfresh]
  · refine Engine.complete_of_disposed ?_ hcolumn
    rw [hstands.disposed_eq, hnone]
    rfl

/-- A request for the accounts that start with "ca". -/
def accountRequest : Request where
  line := " ca".toList
  column := 3
  payee := none
  today := BuildOptions.plain.today

/-- Two engines share a matcher that remembers one result.  The first is given another snapshot
between two equal requests, and the second, whose request pushed the first result out, is disposed
of. -/
theorem answerTo_after_two_engines :
    let cash := Snapshot.empty.declareAccount "cash"
    let card := Snapshot.empty.declareAccount "card"
    let calls : List (Bool × Call) := [(true, .complete accountRequest), (true, .update card),
      (false, .complete accountRequest), (true, .complete accountRequest), (false, .dispose)]
    ∃ matcher fresh, Matcher.make 1 1 = .ok matcher ∧ Matcher.make 50 1000 = .ok fresh ∧
      latestAfter true (some cash) calls = some card ∧ latestAfter false (some cash) calls = none ∧
      ((start (fun _ => .standard) (fun _ => cash) matcher).after calls).answerTo true
          accountRequest = ((Engine.start .standard card).complete fresh accountRequest).1 ∧
      (((Engine.start .standard card).complete fresh accountRequest).1.map
          (·.map (·.label)) = .ok ["card"]) ∧
      ((start (fun _ => .standard) (fun _ => cash) matcher).after calls).answerTo false
          accountRequest = .ok [] := by
  intro cash card calls
  have hanswer (i : Bool) := answerTo_after (fun _ => .standard) (fun _ => cash)
    (rfl : Matcher.make 1 1 = .ok _) (rfl : Matcher.make 50 1000 = .ok _) calls i accountRequest
  exact ⟨_, _, rfl, rfl, rfl, rfl, (hanswer true).1 card rfl, by decide +kernel,
    (hanswer false).2 rfl (by decide)⟩

end Bench

end Daybook.Completion
