import Daybook.Proofs.Text.Lowered
import Daybook.Proofs.Text.Split
import Daybook.Proofs.Text.Trim
import Daybook.Settings

/-!
# Settings from the environment

A variable either holds a value for its setting or it does not, and then the setting has its standard
value.  The values go through the same checks as those of a record, which could refuse them, but what a
variable holds passes, with one exception: a list of file extensions in which there is nothing between
the commas is not blank, so it is handed on, and without any extension it is refused.

* `Settings.HoldsCount`, `Settings.HoldsBool`, `Settings.HoldsOrder`, `Settings.HoldsExtensions`: what
  variables hold.
* `Settings.Settled`: whether a setting is what its variable holds or else its standard value.
* `Settings.FromEnvironment`, `Settings.Usable`: settings that follow the environment, and settings that
  can be worked with.
* `Settings.Contributes`: what a variable hands on, and what the check makes of it.
* `Settings.FromEnvironment.usable`: settings that follow the environment can be worked with.
* `Settings.ofEnvironment_outcome`: which environments give settings, and which settings.
-/

namespace Daybook.Settings

open Text Number Calendar

/-! ## What variables hold -/

/-- Whether a variable holds a positive integer. -/
def HoldsCount (env : Environment) (name : String) (n : Nat) : Prop :=
  ∃ raw, env.get? name = some raw ∧ readInteger raw = .ok (n : Int) ∧ 1 ≤ n

/-- The words for a Boolean. -/
def boolWords : Bool → List String
  | true => ["1", "true", "yes", "on"]
  | false => ["0", "false", "no", "off"]

/-- Whether a variable holds a word for a Boolean, in whatever case. -/
def HoldsBool (env : Environment) (name : String) (b : Bool) : Prop :=
  ∃ raw, env.get? name = some raw ∧ lower (trim raw) ∈ boolWords b

/-- Whether the variable of the date order holds the name of an order, in whatever case. -/
def HoldsOrder (env : Environment) (order : DateOrder) : Prop :=
  ∃ raw, env.get? "HLA_DATE_ORDER" = some raw ∧
    (lower (trim raw) = "dmy" ∧ order = .dayFirst ∨ lower (trim raw) = "mdy" ∧ order = .monthFirst)

/-- The file extensions between the commas of a text. -/
def listedExtensions (raw : String) : List String :=
  dotted ((splitAt ',' raw.toList).map String.ofList)

/-- Whether the variable of the file extensions holds some. -/
def HoldsExtensions (env : Environment) (extensions : List String) : Prop :=
  ∃ raw, env.get? "HLA_JOURNAL_EXTENSIONS" = some raw ∧ listedExtensions raw = extensions ∧
    extensions ≠ []

/-- Whether the variable of the file extensions has commas in it and nothing else but blanks. -/
def OnlyCommas (env : Environment) : Prop :=
  ∃ raw, env.get? "HLA_JOURNAL_EXTENSIONS" = some raw ∧ ',' ∈ raw.toList ∧
    ∀ c ∈ raw.toList, c = ',' ∨ isBlank c = true

/-- Whether a value is what a variable holds or, if it holds none, the standard one. -/
def Settled {α : Type} (holds : α → Prop) (standard a : α) : Prop :=
  holds a ∨ (∀ b, ¬holds b) ∧ a = standard

/-- Whether every setting that has a variable follows it, and the others are standard. -/
structure FromEnvironment (env : Environment) (s : Settings) : Prop where
  maxResults : Settled (HoldsCount env "HLA_MAX_RESULTS") standard.maxResults s.maxResults
  fuzzyCacheSize :
    Settled (HoldsCount env "HLA_FUZZY_CACHE_SIZE") standard.fuzzyCacheSize s.fuzzyCacheSize
  chunkSize : Settled (HoldsCount env "HLA_CHUNK_SIZE") standard.chunkSize s.chunkSize
  maxIncludeDepth :
    Settled (HoldsCount env "HLA_MAX_INCLUDE_DEPTH") standard.maxIncludeDepth s.maxIncludeDepth
  dateOrder : Settled (HoldsOrder env) standard.dateOrder s.dateOrder
  suppressMidWord :
    Settled (HoldsBool env "HLA_SUPPRESS_MID_WORD") standard.suppressMidWord s.suppressMidWord
  templateCompletions :
    Settled (HoldsBool env "HLA_TEMPLATE_COMPLETIONS") standard.templateCompletions
      s.templateCompletions
  journalExtensions :
    Settled (HoldsExtensions env) standard.journalExtensions s.journalExtensions
  excludeDirs : s.excludeDirs = standard.excludeDirs

/-- Whether all counts are positive and there are file extensions, all in lower case and with a dot in
front. -/
structure Usable (s : Settings) : Prop where
  maxResults : 1 ≤ s.maxResults
  fuzzyCacheSize : 1 ≤ s.fuzzyCacheSize
  chunkSize : 1 ≤ s.chunkSize
  maxIncludeDepth : 1 ≤ s.maxIncludeDepth
  someExtension : s.journalExtensions ≠ []
  extensions : ∀ e ∈ s.journalExtensions, lower e = e ∧ e.toList.head? = some '.'

/-- What holds of the standard value and of everything that a variable can hold holds of the setting. -/
theorem Settled.of_forall {α : Type} {holds : α → Prop} {standard a : α} {p : α → Prop}
    (h : Settled holds standard a) (hstandard : p standard) (hholds : ∀ b, holds b → p b) : p a := by
  rcases h with ha | ⟨-, rfl⟩
  · exact hholds a ha
  · exact hstandard

/-! ## Handing values on -/

/-- Whether a variable hands on, for a setting, a value that the check makes into what the variable
holds, or nothing if the variable holds nothing. -/
def Contributes {α : Type} (holds : α → Prop) (check : SettingValue → Except (List SettingError) α)
    (field : String) (values : List (String × SettingValue)) : Prop :=
  (∃ a value, holds a ∧ check value = .ok a ∧ values = [(field, value)]) ∨
    (∀ a, ¬holds a) ∧ values = []

/-- A variable that is handed on so sets its setting and no other, whatever was set before. -/
theorem Contributes.settles {α : Type} {holds : α → Prop}
    {check : SettingValue → Except (List SettingError) α} {field : String}
    {values : List (String × SettingValue)} (h : Contributes holds check field values)
    {earlier : List (String × SettingValue)} {s : Settings}
    (hearlier : ∀ rest, setAll standard (earlier ++ rest) = setAll s rest)
    (update : α → Settings) (hset : ∀ value, s.set field value = (check value).map update)
    {a₀ : α} (hs : update a₀ = s) :
    ∃ a, Settled holds a₀ a ∧
      ∀ rest, setAll standard (earlier ++ values ++ rest) = setAll (update a) rest := by
  rcases h with ⟨a, value, ha, hcheck, rfl⟩ | ⟨hnone, rfl⟩
  · refine ⟨a, .inl ha, fun rest => ?_⟩
    rw [List.append_assoc, hearlier, List.singleton_append, setAll, hset, hcheck]
    rfl
  · exact ⟨a₀, .inr ⟨hnone, rfl⟩, fun rest => by rw [hs, List.append_nil, hearlier]⟩

/-- A variable that is not set hands nothing on. -/
theorem contributes_of_get?_eq_none {α : Type} {p : String → α → Prop}
    {check : SettingValue → Except (List SettingError) α} {field : String} {raw? : Option String}
    (h : raw? = none) : Contributes (fun a => ∃ raw, raw? = some raw ∧ p raw a) check field [] :=
  .inr ⟨fun _ ⟨_, hraw, _⟩ => (nomatch h.symm.trans hraw), rfl⟩

/-! ## Counts -/

/-- A blank text is not an integer. -/
theorem readInteger_of_blank {raw : String} (h : ∀ c ∈ raw.toList, isBlank c = true) :
    readInteger raw = .error (.malformed raw) := by
  have hrest : ∀ c ∈ raw.toList.dropWhile isIntegerBlank, isBlank c = true :=
    fun c hc => h c ((List.dropWhile_suffix _).subset hc)
  have hsign : takeSign (raw.toList.dropWhile isIntegerBlank) =
      (false, raw.toList.dropWhile isIntegerBlank) := by
    unfold takeSign
    split
    · rename_i hplus
      exact absurd (hrest '+' (by rw [hplus]; exact List.mem_cons_self)) (by decide)
    · rename_i hminus
      exact absurd (hrest '-' (by rw [hminus]; exact List.mem_cons_self)) (by decide)
    · rfl
  have hbody : (raw.toList.dropWhile isIntegerBlank).takeWhile
      (fun c => isDigit c || c == '_') = [] := by
    cases hcs : raw.toList.dropWhile isIntegerBlank with
    | nil => rfl
    | cons c cs =>
      have hblank : isBlank c = true := hrest c (by rw [hcs]; exact List.mem_cons_self)
      have hdigit : isDigit c = false :=
        Bool.eq_false_iff.mpr fun hdigit => by
          rw [isBlank_of_isDigit hdigit] at hblank
          cases hblank
      have hunderscore : (c == '_') = false :=
        beq_eq_false_iff_ne.mpr fun heq => absurd (heq ▸ hblank) (by decide)
      rw [List.takeWhile_cons, hdigit, hunderscore]
      rfl
  unfold readInteger
  rw [hsign]
  simp only [hbody]
  rfl

theorem contributes_countFrom (env : Environment) (field name : String) :
    Contributes (HoldsCount env name) (checkCount field) field (countFrom env (field, name)).1 := by
  cases hraw : env.get? name with
  | none =>
    simp only [countFrom, hraw]
    exact contributes_of_get?_eq_none hraw
  | some raw =>
    have hnone (hread : ∀ n : Nat, 1 ≤ n → readInteger raw ≠ .ok (n : Int)) :
        Contributes (HoldsCount env name) (checkCount field) field [] := by
      refine .inr ⟨?_, rfl⟩
      rintro n ⟨raw', hraw', hn, hpos⟩
      rw [hraw] at hraw'
      cases hraw'
      exact hread n hpos hn
    by_cases hblank : raw.toList.all isBlank
    · simp only [countFrom, hraw, if_pos hblank]
      refine hnone fun n _ h => ?_
      rw [readInteger_of_blank (List.all_eq_true.mp hblank)] at h
      cases h
    · cases hread : readInteger raw with
      | error e =>
        simp only [countFrom, hraw, if_neg hblank, hread]
        exact hnone fun n _ h => by rw [hread] at h; cases h
      | ok n =>
        by_cases hpos : n < 1
        · simp only [countFrom, hraw, if_neg hblank, hread, if_pos hpos]
          refine hnone fun m hm h => ?_
          rw [hread] at h
          cases h
          omega
        · simp only [countFrom, hraw, if_neg hblank, hread, if_neg hpos]
          refine .inl ⟨n.toNat, .int n, ⟨raw, hraw, ?_, by omega⟩, ?_, rfl⟩
          · rw [hread, Int.toNat_of_nonneg (by omega)]
          · rw [checkCount, if_neg hpos]

/-! ## Booleans and the date order -/

theorem readBool?_eq (raw : String) :
    readBool? raw =
      if (boolWords true).contains (lower (trim raw)) then some true
      else if (boolWords false).contains (lower (trim raw)) then some false
      else none :=
  rfl

theorem contributes_boolFrom (env : Environment) (field name : String) :
    Contributes (HoldsBool env name) (checkBool field) field (boolFrom env (field, name)).1 := by
  cases hraw : env.get? name with
  | none =>
    simp only [boolFrom, hraw]
    exact contributes_of_get?_eq_none hraw
  | some raw =>
    by_cases htrue : (boolWords true).contains (lower (trim raw))
    · have hread : readBool? raw = some true := by rw [readBool?_eq, if_pos htrue]
      simp only [boolFrom, hraw, hread]
      exact .inl ⟨true, .bool true, ⟨raw, hraw, List.contains_iff_mem.mp htrue⟩, rfl, rfl⟩
    by_cases hfalse : (boolWords false).contains (lower (trim raw))
    · have hread : readBool? raw = some false := by
        rw [readBool?_eq, if_neg htrue, if_pos hfalse]
      simp only [boolFrom, hraw, hread]
      exact .inl ⟨false, .bool false, ⟨raw, hraw, List.contains_iff_mem.mp hfalse⟩, rfl, rfl⟩
    · have hread : readBool? raw = none := by rw [readBool?_eq, if_neg htrue, if_neg hfalse]
      simp only [boolFrom, hraw, hread]
      refine .inr ⟨?_, rfl⟩
      rintro b ⟨raw', hraw', hb⟩
      rw [hraw] at hraw'
      cases hraw'
      cases b with
      | true => exact htrue (List.contains_iff_mem.mpr hb)
      | false => exact hfalse (List.contains_iff_mem.mpr hb)

theorem contributes_orderFrom (env : Environment) :
    Contributes (HoldsOrder env) (checkOrder "date_order") "date_order" (orderFrom env).1 := by
  cases hraw : env.get? "HLA_DATE_ORDER" with
  | none =>
    simp only [orderFrom, hraw]
    exact contributes_of_get?_eq_none hraw
  | some raw =>
    by_cases hday : lower (trim raw) = "dmy"
    · simp only [orderFrom, hraw, hday, true_or, if_true]
      exact .inl ⟨.dayFirst, .text "dmy", ⟨raw, hraw, .inl ⟨hday, rfl⟩⟩, rfl, rfl⟩
    by_cases hmonth : lower (trim raw) = "mdy"
    · simp only [orderFrom, hraw, hmonth, or_true, if_true]
      exact .inl ⟨.monthFirst, .text "mdy", ⟨raw, hraw, .inr ⟨hmonth, rfl⟩⟩, rfl, rfl⟩
    · simp only [orderFrom, hraw, hday, hmonth, or_false, if_false]
      refine .inr ⟨?_, rfl⟩
      rintro order ⟨raw', hraw', horder⟩
      rw [hraw] at hraw'
      cases hraw'
      rcases horder with ⟨h, -⟩ | ⟨h, -⟩
      · exact hday h
      · exact hmonth h

/-! ## File extensions -/

theorem isEmpty_lower_trim (s : String) : (lower (trim s)).isEmpty = s.toList.all isBlank := by
  rw [Bool.eq_iff_iff, String.isEmpty_iff, lower_eq_empty_iff, trim_eq_empty_iff, List.all_eq_true]

/-- A file extension in lower case and with a dot in front. -/
def dottedOne (e : String) : String :=
  if (lower (trim e)).toList.head? = some '.' then lower (trim e) else "." ++ lower (trim e)

/-- Extensions are left out when they are blank, and no others. -/
theorem dotted_eq (extensions : List String) :
    dotted extensions = (extensions.filter fun e => !e.toList.all isBlank).map dottedOne := by
  have hfilter : ((fun e : String => !e.isEmpty) ∘ fun e => lower (trim e)) =
      fun e => !e.toList.all isBlank := by
    funext e
    rw [Function.comp_apply, isEmpty_lower_trim]
  rw [dotted, List.filter_map, List.map_map, hfilter]
  exact List.map_congr_left fun e _ => by rw [Function.comp_apply, dottedOne]

/-- No extension is listed when there are only commas and blanks. -/
theorem listedExtensions_eq_nil_iff {raw : String} :
    listedExtensions raw = [] ↔ ∀ c ∈ raw.toList, c = ',' ∨ isBlank c = true := by
  rw [listedExtensions, dotted_eq, List.map_eq_nil_iff, List.filter_eq_nil_iff, List.forall_mem_map,
    ← forall_mem_splitAt_iff]
  simp only [String.toList_ofList, Bool.not_eq_true', Bool.not_eq_false, List.all_eq_true]

/-- The pieces that are handed on stand for all extensions that are listed. -/
theorem dotted_handed (raw : String) :
    dotted (((splitAt ',' raw.toList).filter fun p => !p.all isBlank).map String.ofList) =
      listedExtensions raw := by
  rw [listedExtensions, dotted_eq, dotted_eq, List.filter_map, List.filter_map, List.filter_filter]
  simp only [Function.comp_def, String.toList_ofList, Bool.and_self]

theorem checkTexts_text (field : String) (texts : List (List Char)) :
    checkTexts field (.list (texts.map fun p => .text (String.ofList p))) =
      .ok (texts.map String.ofList) := by
  have htexts : nonTexts field (texts.map fun p => .text (String.ofList p)) = [] := by
    refine List.filterMap_eq_nil_iff.mpr fun v hv => ?_
    obtain ⟨p, -, hp⟩ := List.mem_map.mp (List.fst_mem_of_mem_zipIdx hv)
    rw [← hp]
    rfl
  rw [checkTexts, htexts]
  dsimp only
  rw [List.filterMap_map]
  exact congrArg Except.ok (congrFun List.filterMap_eq_map' texts)

theorem checkExtensions_handed (field raw : String) :
    checkExtensions field (.list (((splitAt ',' raw.toList).filter fun p => !p.all isBlank).map
        fun p => .text (String.ofList p))) =
      if listedExtensions raw = [] then .error [⟨field, none, .refused⟩]
      else .ok (listedExtensions raw) := by
  rw [checkExtensions, checkTexts_text]
  dsimp only
  rw [dotted_handed]
  split
  · rename_i hnil
    rw [if_pos hnil]
  · rename_i hnil
    rw [if_neg hnil]

/-- The variable of the file extensions, unless it has only commas. -/
theorem contributes_extensionsFrom {env : Environment} (h : ¬OnlyCommas env) :
    Contributes (HoldsExtensions env) (checkExtensions "journal_extensions") "journal_extensions"
      (extensionsFrom env).1 := by
  cases hraw : env.get? "HLA_JOURNAL_EXTENSIONS" with
  | none =>
    simp only [extensionsFrom, hraw]
    exact contributes_of_get?_eq_none hraw
  | some raw =>
    by_cases hblank : raw.toList.all isBlank
    · simp only [extensionsFrom, hraw, if_pos hblank]
      refine .inr ⟨?_, rfl⟩
      rintro _ ⟨raw', hraw', rfl, hne⟩
      rw [hraw] at hraw'
      cases hraw'
      exact hne (listedExtensions_eq_nil_iff.mpr fun c hc => .inr (List.all_eq_true.mp hblank c hc))
    · simp only [extensionsFrom, hraw, if_neg hblank]
      have hlisted : listedExtensions raw ≠ [] := by
        intro hnil
        have hall := listedExtensions_eq_nil_iff.mp hnil
        refine h ⟨raw, hraw, ?_, hall⟩
        by_contra hcomma
        refine hblank (List.all_eq_true.mpr fun c hc => (hall c hc).resolve_left ?_)
        rintro rfl
        exact hcomma hc
      exact .inl ⟨_, _, ⟨raw, hraw, rfl, hlisted⟩,
        (checkExtensions_handed _ raw).trans (if_neg hlisted), rfl⟩

/-- Listed extensions are in lower case and have a dot in front. -/
theorem lower_of_mem_listedExtensions {raw e : String} (he : e ∈ listedExtensions raw) :
    lower e = e ∧ e.toList.head? = some '.' := by
  rw [listedExtensions, dotted_eq] at he
  obtain ⟨e', -, rfl⟩ := List.mem_map.mp he
  by_cases hdot : (lower (trim e')).toList.head? = some '.'
  · rw [dottedOne, if_pos hdot]
    exact ⟨lower_eq_self fun c hc => isLowered_of_mem_lower hc, hdot⟩
  · rw [dottedOne, if_neg hdot]
    refine ⟨lower_eq_self fun c hc => ?_, ?_⟩
    · rw [String.toList_append] at hc
      rcases List.mem_append.mp hc with hc | hc
      · rw [List.mem_singleton.mp hc]
        decide +kernel
      · exact isLowered_of_mem_lower hc
    · rw [String.toList_append]
      rfl

/-! ## The settings -/

/-- All that the variables hand on before that of the file extensions. -/
def valuesBeforeExtensions (env : Environment) : List (String × SettingValue) :=
  (countVariables.flatMap fun entry => (countFrom env entry).1) ++
    (boolVariables.flatMap fun entry => (boolFrom env entry).1) ++ (orderFrom env).1

theorem ofEnvironment_eq (env : Environment) :
    (ofEnvironment env).1 = ofValues (valuesBeforeExtensions env ++ (extensionsFrom env).1) := by
  rw [ofEnvironment, valuesBeforeExtensions]
  simp only [List.flatMap_append, List.flatMap_map, List.flatMap_cons, List.flatMap_nil,
    List.append_nil, List.append_assoc]

/-- What the variables before that of the file extensions set. -/
theorem exists_setAll_before_extensions (env : Environment) :
    ∃ s : Settings,
      (∀ rest, setAll standard (valuesBeforeExtensions env ++ rest) = setAll s rest) ∧
      s.journalExtensions = standard.journalExtensions ∧
      ∀ extensions, Settled (HoldsExtensions env) standard.journalExtensions extensions →
        FromEnvironment env { s with journalExtensions := extensions } := by
  have hset₀ : ∀ rest, setAll standard ([] ++ rest) = setAll standard rest := fun _ => rfl
  -- the settings are written out at each step, since updates of updates grow with every field
  obtain ⟨n₁, h₁, hset₁⟩ := (contributes_countFrom env "max_results" "HLA_MAX_RESULTS").settles
    hset₀ (fun n => { standard with maxResults := n }) (fun _ => rfl) rfl
  obtain ⟨n₂, h₂, hset₂⟩ :=
    (contributes_countFrom env "fuzzy_cache_size" "HLA_FUZZY_CACHE_SIZE").settles hset₁
      (fun n => { standard with maxResults := n₁, fuzzyCacheSize := n }) (fun _ => rfl) rfl
  obtain ⟨n₃, h₃, hset₃⟩ := (contributes_countFrom env "chunk_size" "HLA_CHUNK_SIZE").settles hset₂
    (fun n => { standard with maxResults := n₁, fuzzyCacheSize := n₂, chunkSize := n })
    (fun _ => rfl) rfl
  obtain ⟨n₄, h₄, hset₄⟩ :=
    (contributes_countFrom env "max_include_depth" "HLA_MAX_INCLUDE_DEPTH").settles hset₃
      (fun n =>
        { standard with
          maxResults := n₁, fuzzyCacheSize := n₂, chunkSize := n₃, maxIncludeDepth := n })
      (fun _ => rfl) rfl
  obtain ⟨b₁, h₅, hset₅⟩ :=
    (contributes_boolFrom env "suppress_mid_word" "HLA_SUPPRESS_MID_WORD").settles hset₄
      (fun b =>
        { standard with
          maxResults := n₁, fuzzyCacheSize := n₂, chunkSize := n₃, maxIncludeDepth := n₄
          suppressMidWord := b })
      (fun _ => rfl) rfl
  obtain ⟨b₂, h₆, hset₆⟩ :=
    (contributes_boolFrom env "template_completions" "HLA_TEMPLATE_COMPLETIONS").settles hset₅
      (fun b =>
        { standard with
          maxResults := n₁, fuzzyCacheSize := n₂, chunkSize := n₃, maxIncludeDepth := n₄
          suppressMidWord := b₁, templateCompletions := b })
      (fun _ => rfl) rfl
  obtain ⟨order, h₇, hset₇⟩ := (contributes_orderFrom env).settles hset₆
    (fun order =>
      { standard with
        maxResults := n₁, fuzzyCacheSize := n₂, chunkSize := n₃, maxIncludeDepth := n₄
        suppressMidWord := b₁, templateCompletions := b₂, dateOrder := order })
    (fun _ => rfl) rfl
  refine ⟨_, fun rest => (congrArg (setAll standard) ?_).trans (hset₇ rest), rfl,
    fun extensions h => ⟨h₁, h₂, h₃, h₄, h₇, h₅, h₆, h, rfl⟩⟩
  simp only [valuesBeforeExtensions, countVariables, boolVariables, List.flatMap_cons,
    List.flatMap_nil, List.nil_append, List.append_nil, List.append_assoc]

/-- Settings that follow the environment can be worked with. -/
theorem FromEnvironment.usable {env : Environment} {s : Settings} (h : FromEnvironment env s) :
    Usable s where
  maxResults := h.maxResults.of_forall (by decide) fun _ ⟨_, _, _, hpos⟩ => hpos
  fuzzyCacheSize := h.fuzzyCacheSize.of_forall (by decide) fun _ ⟨_, _, _, hpos⟩ => hpos
  chunkSize := h.chunkSize.of_forall (by decide) fun _ ⟨_, _, _, hpos⟩ => hpos
  maxIncludeDepth := h.maxIncludeDepth.of_forall (by decide) fun _ ⟨_, _, _, hpos⟩ => hpos
  someExtension := h.journalExtensions.of_forall (by decide) fun _ ⟨_, _, _, hne⟩ => hne
  extensions :=
    h.journalExtensions.of_forall (p := fun es => ∀ e ∈ es, lower e = e ∧ e.toList.head? = some '.')
      (by decide +kernel) fun _ ⟨_, _, hlisted, _⟩ e he => by
        rw [← hlisted] at he
        exact lower_of_mem_listedExtensions he

theorem extensionsFrom_of_onlyCommas {env : Environment} (h : OnlyCommas env) :
    ∃ value, (extensionsFrom env).1 = [("journal_extensions", value)] ∧
      checkExtensions "journal_extensions" value =
        .error [⟨"journal_extensions", none, .refused⟩] := by
  obtain ⟨raw, hraw, hcomma, hall⟩ := h
  have hblank : ¬raw.toList.all isBlank = true := fun hblank =>
    absurd (List.all_eq_true.mp hblank ',' hcomma) (by decide)
  simp only [extensionsFrom, hraw, if_neg hblank]
  exact ⟨_, rfl, (checkExtensions_handed _ raw).trans
    (if_pos (listedExtensions_eq_nil_iff.mpr hall))⟩

/-- **Settings from the environment.**  Every environment gives settings, except one whose list of file
extensions has nothing besides commas and blanks, which is refused as a whole.  Each setting is what its
variable holds, or else it has its standard value; the counts are positive, and there are file extensions,
in lower case and with a dot in front. -/
theorem ofEnvironment_outcome (env : Environment) :
    (OnlyCommas env ∧
        (ofEnvironment env).1 = .error [⟨"journal_extensions", none, .refused⟩]) ∨
      ¬OnlyCommas env ∧
        ∃ s, (ofEnvironment env).1 = .ok s ∧ FromEnvironment env s ∧ Usable s := by
  obtain ⟨s, hset, hs, hfrom⟩ := exists_setAll_before_extensions env
  by_cases h : OnlyCommas env
  · obtain ⟨value, hvalue, hcheck⟩ := extensionsFrom_of_onlyCommas h
    have hrefused : s.set "journal_extensions" value =
        .error [⟨"journal_extensions", none, .refused⟩] := by
      show (checkExtensions _ value).map (fun e => { s with journalExtensions := e }) = _
      rw [hcheck]
      rfl
    refine .inl ⟨h, ?_⟩
    rw [ofEnvironment_eq, hvalue, ofValues, hset, setAll, hrefused]
    exact congrArg Except.error (List.mergeSort_singleton _)
  · obtain ⟨extensions, hextensions, hsettled⟩ := (contributes_extensionsFrom h).settles hset
      (fun e => { s with journalExtensions := e }) (fun _ => rfl) rfl
    rw [hs] at hextensions
    have hall := hsettled []
    rw [List.append_nil] at hall
    refine .inr ⟨h, _, ?_, hfrom extensions hextensions, (hfrom extensions hextensions).usable⟩
    rw [ofEnvironment_eq, ofValues, hall, setAll]

/-- A list of file extensions that is a comma and nothing else is refused, and with it all settings. -/
theorem ofEnvironment_comma :
    (ofEnvironment ⟨[("HLA_JOURNAL_EXTENSIONS", ",")]⟩).1 =
      .error [⟨"journal_extensions", none, .refused⟩] := by
  decide +kernel

end Daybook.Settings
