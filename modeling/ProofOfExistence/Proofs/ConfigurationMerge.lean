import Mathlib.Data.Rat.Defs
import ProofOfExistence.Configuration

/-!
# How a configuration is merged

Each setting takes its raw value from an override, else from an environment variable, else from
what is inherited, else from its default (`Setting.Source`).  The raw value is then coerced to the
type of the setting: `CountsAs` says which whole number a value counts as, and `SpelledAs` which
text it is spelled as.

A configuration is loaded exactly when all overrides belong to settings and each coerced value
follows the rules of its setting, but for two gaps.  The bounds of the limit are held against finite
numbers only, so a text that spells an infinite number passes as a limit, although it counts as no
whole number.  And an override named `__proto__` passes, although it belongs to no setting; only
what is inherited from it has to belong to settings.

## Key results

- `Setting.source_iff`: where the raw value of a setting comes from
- `coerceInteger_eq_some_iff`, `coerceText_eq_some_iff`: what a raw value is coerced to
- `load_eq_ok_iff`: a configuration is loaded when each of its parts is read
- `load_merges`: the configurations that overrides and an environment are merged to
- `infinite_limit_loaded`: a loaded limit that is no whole number, and one of no override
-/

namespace ProofOfExistence.Configuration

/-! ## Where raw values come from -/

/-- The value that a setting takes: that of an override unless it is absent; else that of its
variable, trimmed, unless it is not set or empty; else that of an inherited member unless it is
absent; else its default. -/
inductive Setting.Source (s : Setting) (overrides : Overrides) (env : Environment) : Value → Prop
  | override (h : (Value.member s.name overrides).isAbsent = false) :
      Source s overrides env (Value.member s.name overrides)
  | environment {text : Utf16} (h : (Value.member s.name overrides).isAbsent = true)
      (hset : env.lookup s.envName = some text) (hne : text ≠ "") :
      Source s overrides env (.str (Text.trim text))
  | inherited (h : (Value.member s.name overrides).isAbsent = true)
      (hunset : env.lookup s.envName = none ∨ env.lookup s.envName = some ("" : Utf16))
      (hmember : (Value.member s.name (inherited overrides)).isAbsent = false) :
      Source s overrides env (Value.member s.name (inherited overrides))
  | unset (h : (Value.member s.name overrides).isAbsent = true)
      (hunset : env.lookup s.envName = none ∨ env.lookup s.envName = some ("" : Utf16))
      (hnone : (Value.member s.name (inherited overrides)).isAbsent = true) :
      Source s overrides env s.fallback

namespace Setting

variable {s : Setting} {overrides : Overrides} {env env' : Environment} {v : Value}

theorem among_eq_none {members : List (Utf16 × Value)}
    (h : (Value.member s.name members).isAbsent = true) : s.among members = none := if_pos h

theorem among_eq_some {members : List (Utf16 × Value)}
    (h : (Value.member s.name members).isAbsent = false) :
    s.among members = some (Value.member s.name members) :=
  if_neg (Bool.eq_false_iff.1 h)

theorem fromEnvironment_of_set {text : Utf16} (hset : env.lookup s.envName = some text)
    (hne : text ≠ "") : s.fromEnvironment env = some (.str (Text.trim text)) := by
  have hkept : (some text).filter (fun text => text ≠ ("" : Utf16)) = some text :=
    Option.filter_some_pos (p := fun text : Utf16 => text ≠ "") (decide_eq_true hne)
  rw [fromEnvironment, hset, hkept, Option.map_some]

theorem fromEnvironment_of_unset
    (h : env.lookup s.envName = none ∨ env.lookup s.envName = some ("" : Utf16)) :
    s.fromEnvironment env = none := by
  rw [fromEnvironment]
  rcases h with hset | hset
  · rw [hset]
    rfl
  · rw [hset]
    rfl

/-- The raw value of a setting comes from its source, which is the only one. -/
theorem source_iff : s.Source overrides env v ↔ v = s.raw overrides env := by
  -- Whatever the setting comes from, the reader finds it there.
  have hunique {v : Value} (h : s.Source overrides env v) : v = s.raw overrides env := by
    unfold raw
    cases h with
    | override h => rw [among_eq_some h, Option.some_or, Option.some_or, Option.getD_some]
    | environment h hset hne =>
      rw [among_eq_none h, fromEnvironment_of_set hset hne, Option.none_or, Option.some_or,
        Option.getD_some]
    | inherited h hunset hmember =>
      rw [among_eq_none h, fromEnvironment_of_unset hunset, Option.none_or, Option.none_or,
        among_eq_some hmember, Option.getD_some]
    | unset h hunset hnone =>
      rw [among_eq_none h, fromEnvironment_of_unset hunset, Option.none_or, Option.none_or,
        among_eq_none hnone, Option.getD_none]
  -- A setting comes from somewhere: the four places are tried in turn.
  have hexists : ∃ v, s.Source overrides env v := by
    cases habsent : (Value.member s.name overrides).isAbsent with
    | false => exact ⟨_, .override habsent⟩
    | true =>
      -- A variable that is not set or empty leaves the setting to what is inherited.
      have hleft (hunset : env.lookup s.envName = none ∨ env.lookup s.envName = some ("" : Utf16)) :
          ∃ v, s.Source overrides env v := by
        cases hmember : (Value.member s.name (inherited overrides)).isAbsent with
        | false => exact ⟨_, .inherited habsent hunset hmember⟩
        | true => exact ⟨_, .unset habsent hunset hmember⟩
      cases hset : env.lookup s.envName with
      | none => exact hleft (.inl hset)
      | some text =>
        by_cases hempty : text = ""
        · exact hleft (.inr (hempty ▸ hset))
        · exact ⟨_, .environment habsent hset hempty⟩
  constructor
  · exact hunique
  · rintro rfl
    obtain ⟨v, h⟩ := hexists
    exact hunique h ▸ h

/-- Only a setting without an override looks at its variable. -/
theorem raw_congr (h : (Value.member s.name overrides).isAbsent = true →
    env'.lookup s.envName = env.lookup s.envName) :
    s.raw overrides env' = s.raw overrides env := by
  cases habsent : (Value.member s.name overrides).isAbsent with
  | false => rw [← source_iff.1 (.override habsent), ← source_iff.1 (.override habsent)]
  | true =>
    rw [raw, raw, fromEnvironment, fromEnvironment, h habsent]

end Setting

/-! ## What raw values are coerced to -/

/-- The whole number that a value counts as: null counts as zero, truth values as zero and one, and
a text that is not empty as the numeral that it spells. -/
inductive CountsAs : Value → Int → Prop
  | null : CountsAs .null 0
  | no : CountsAs (.bool false) 0
  | yes : CountsAs (.bool true) 1
  | whole (n : Int) : CountsAs (.num (.finite n)) n
  | numeral {s : Utf16} {n : Int} (hne : s.units ≠ [])
      (h : Number.ofNumeral s.toString = .finite n) : CountsAs (.str s) n

/-- A text that spells an infinite number, which is no whole number. -/
inductive SpellsInfinity : Value → Number → Prop
  | numeral {s : Utf16} {negative : Bool} (h : Number.ofNumeral s.toString = .infinity negative) :
      SpellsInfinity (.str s) (.infinity negative)

/-- The text that a value is spelled as: null as the empty text, numbers and truth values as their
own texts. -/
inductive SpelledAs : Value → Utf16 → Prop
  | null : SpelledAs .null ""
  | no : SpelledAs (.bool false) "false"
  | yes : SpelledAs (.bool true) "true"
  | num (x : Number) : SpelledAs (.num x) x.toText
  | str (s : Utf16) : SpelledAs (.str s) s

variable {v : Value} {x : Number}

private theorem toInt?_eq_some_iff {n : Int} : x.toInt? = some n ↔ x = .finite n := by
  constructor
  · intro h
    unfold Number.toInt? at h
    split at h
    · rename_i q
      split at h
      · rename_i hden
        obtain rfl := Option.some.inj h
        rw [Rat.coe_int_num_of_den_eq_one hden]
      · cases h
    · cases h
  · rintro rfl
    simp [Number.toInt?]

/-- A value is coerced to the whole number that it counts as, or to the infinite one that it
spells. -/
theorem coerceInteger_eq_some_iff :
    coerceInteger v = some x ↔ (∃ n : Int, CountsAs v n ∧ x = .finite n) ∨ SpellsInfinity v x := by
  constructor
  · intro h
    cases v with
    | null =>
      cases h
      exact .inl ⟨0, .null, rfl⟩
    | bool b =>
      cases b with
      | false =>
        cases h
        exact .inl ⟨0, .no, rfl⟩
      | true =>
        cases h
        exact .inl ⟨1, .yes, rfl⟩
    | num y =>
      obtain ⟨n, hn, rfl⟩ := Option.map_eq_some_iff.1 h
      obtain rfl := toInt?_eq_some_iff.1 hn
      exact .inl ⟨n, .whole n, rfl⟩
    -- Only a text can spell a number that is not finite.
    | str s =>
      cases hnumeral : Number.ofNumeral s.toString with
      | infinity negative =>
        simp only [coerceInteger, hnumeral, Option.some.injEq] at h
        subst h
        exact .inr (.numeral hnumeral)
      | nan =>
        simp [coerceInteger, hnumeral, Number.toInt?] at h
      -- An empty text counts as nothing, not as zero.
      | finite q =>
        simp only [coerceInteger, hnumeral] at h
        split at h
        · cases h
        · rename_i hne
          obtain ⟨n, hn, rfl⟩ := Option.map_eq_some_iff.1 h
          have hvalue := toInt?_eq_some_iff.1 hn
          rw [hvalue] at hnumeral
          exact .inl ⟨n, .numeral (by simpa using hne) hnumeral, hvalue⟩
    -- Nothing else is taken for an integer.
    | absent => cases h
    | arr _ => cases h
    | obj _ => cases h
  · -- Each spelling is read as the number that it spells.
    rintro (⟨n, hcounts, rfl⟩ | hinfinite)
    · cases hcounts with
      | null => rfl
      | no => rfl
      | yes => rfl
      | whole => simp [coerceInteger, Number.toInt?]
      | numeral hne hnumeral => simp [coerceInteger, hnumeral, hne, Number.toInt?]
    · cases hinfinite with
      | numeral hnumeral => simp [coerceInteger, hnumeral]

theorem coerceText_eq_some_iff {text : Utf16} : coerceText v = some text ↔ SpelledAs v text := by
  constructor
  · intro h
    cases v with
    | null =>
      cases h
      exact .null
    | bool b =>
      cases b with
      | false =>
        cases h
        exact .no
      | true =>
        cases h
        exact .yes
    | num y =>
      -- Numbers are written out, and texts stay as they are.
      cases h
      exact .num y
    | str s =>
      cases h
      exact .str _
    | absent => cases h
    | arr _ => cases h
    | obj _ => cases h
  · intro h
    cases h <;> rfl

/-! ## The rules of settings -/

/-- A limit that follows its rules: the whole number that a value counts as, from zero to the
greatest limit. -/
def IsLimit (v : Value) (x : Number) : Prop := ∃ n ≤ maxProofLimit, CountsAs v n ∧ x = .ofNat n

/-- A text that follows the rules of a setting with some allowed values. -/
def IsChoice (allowed : List String) (v : Value) (name : String) : Prop :=
  SpelledAs v name ∧ name ∈ allowed

/-- A text that follows the rules of a path. -/
def IsPath (v : Value) (text : Utf16) : Prop := SpelledAs v text ∧ text ≠ ""

theorem ofNat_of_le_maxProofLimit {n : Nat} (h : n ≤ maxProofLimit) :
    Number.ofNat n = .finite (n : Int) := by
  have hmax : maxProofLimit ≤ maxSafeInteger := by decide
  rw [Number.ofNat_of_le (Nat.le_succ_of_le (h.trans hmax)), Rat.intCast_natCast]

/-- Of the whole numbers those from zero to the greatest limit are within the bounds. -/
theorem brokenBounds_intCast (n : Int) :
    brokenBounds (.finite n) = [] ↔ 0 ≤ n ∧ n ≤ (maxProofLimit : Nat) := by
  have hmax : (n : Rat) > (maxProofLimit : Nat) ↔ (maxProofLimit : Nat) < n := by
    rw [← Rat.intCast_natCast]
    exact Rat.intCast_lt_intCast
  have hzero : (n : Rat) < 0 ↔ n < 0 := Rat.intCast_lt_intCast (b := 0)
  unfold brokenBounds
  simp only [hmax, hzero]
  split
  · simp; omega
  split
  · simp; omega
  · simp; omega

theorem readLimit_eq_ok_iff : readLimit v = .ok x ↔ IsLimit v x ∨ SpellsInfinity v x := by
  have hread : readLimit v = .ok x ↔ coerceInteger v = some x ∧ brokenBounds x = [] := by
    -- The number is read first, and then held against its bounds.
    unfold readLimit
    cases coerceInteger v with
    | some y =>
      dsimp only
      cases hbounds : brokenBounds y with
      | nil =>
        simp only [Except.ok.injEq, Option.some.injEq]
        exact ⟨fun h => ⟨h, h ▸ hbounds⟩, And.left⟩
      | cons rule rules =>
        simp only [reduceCtorEq, Option.some.injEq, false_iff, not_and]
        rintro rfl
        simp [hbounds]
    | none => cases v <;> simp
  rw [hread, coerceInteger_eq_some_iff]
  constructor
  · -- A limit is read, so it breaks no bound.
    rintro ⟨⟨n, hcounts, rfl⟩ | hinfinite, hbounds⟩
    · obtain ⟨hzero, hmax⟩ := (brokenBounds_intCast n).1 hbounds
      obtain ⟨m, rfl⟩ := Int.eq_ofNat_of_zero_le hzero
      have hm : m ≤ maxProofLimit := Int.ofNat_le.1 hmax
      exact .inl ⟨m, hm, hcounts, (ofNat_of_le_maxProofLimit hm).symm⟩
    · exact .inr hinfinite
  · -- A number within the bounds is a limit.
    rintro (⟨n, hn, hcounts, rfl⟩ | hinfinite)
    · have hvalue := ofNat_of_le_maxProofLimit hn
      refine ⟨.inl ⟨n, hcounts, hvalue⟩, ?_⟩
      rw [hvalue]
      exact (brokenBounds_intCast n).2 ⟨Int.natCast_nonneg n, Int.ofNat_le.2 hn⟩
    · cases hinfinite with
      -- The gap: there is no bound for an infinite number to break.
      | numeral h => exact ⟨.inr (.numeral h), rfl⟩

theorem readChoice_eq_ok_iff {allowed : List String} {name : String} :
    readChoice allowed v = .ok name ↔ IsChoice allowed v name := by
  unfold readChoice IsChoice
  rw [← coerceText_eq_some_iff]
  cases coerceText v with
  | none => simp
  | some text =>
    dsimp only
    cases hfind : allowed.find? fun name => text = Utf16.ofString name with
    -- None of the names is spelled.
    | none =>
      simp only [reduceCtorEq, Option.some.injEq, false_iff, not_and]
      rintro rfl hallowed
      simpa using List.find?_eq_none.1 hfind name hallowed
    -- The text is the name that was found, and it spells no other one.
    | some found =>
      have htext : text = Utf16.ofString found := by simpa using List.find?_some hfind
      simp only [Except.ok.injEq, Option.some.injEq]
      constructor
      · rintro rfl
        exact ⟨htext, List.mem_of_find?_eq_some hfind⟩
      · rintro ⟨hname, -⟩
        exact Utf16.ofString_injective (htext.symm.trans hname)

theorem readPath_eq_ok_iff {text : Utf16} : readPath v = .ok text ↔ IsPath v text := by
  unfold readPath IsPath
  rw [← coerceText_eq_some_iff]
  cases coerceText v with
  | none => simp
  | some spelled =>
    by_cases hempty : spelled = ""
    · simp only [hempty, if_true, reduceCtorEq, Option.some.injEq, false_iff, not_and]
      rintro rfl
      simp
    · simp only [hempty, if_false, Except.ok.injEq, Option.some.injEq]
      exact ⟨fun h => ⟨h, h ▸ hempty⟩, And.left⟩

/-! ## Loading -/

theorem isSettingName_iff {name : Utf16} :
    isSettingName name = true ↔ ∃ s ∈ settings, name = Utf16.ofString s.name := by
  simp [isSettingName]

theorem unknownOverrides_eq_nil_iff {overrides : Overrides} :
    unknownOverrides overrides = [] ↔
      (∀ m ∈ overrides, m.2.isAbsent = false →
        m.1 = Utf16.ofString prototypeName ∨ ∃ s ∈ settings, m.1 = Utf16.ofString s.name) ∧
      ∀ m ∈ inherited overrides, ∃ s ∈ settings, m.1 = Utf16.ofString s.name := by
  have hown : unknownMembers overrides = [] ↔ ∀ m ∈ overrides, m.2.isAbsent = false →
      m.1 = Utf16.ofString prototypeName ∨ isSettingName m.1 = true := by
    grind [unknownMembers, List.filter_eq_nil_iff]
  -- Where no override is unknown, none hides an inherited member.
  have hinherited (h : unknownMembers overrides = []) :
      unknownInherited overrides = [] ↔ ∀ m ∈ inherited overrides, isSettingName m.1 = true := by
    simp [unknownInherited, h, List.filter_eq_nil_iff]
  simp only [← isSettingName_iff]
  rw [← hown, unknownOverrides, List.map_eq_nil_iff, List.append_eq_nil_iff]
  exact and_congr_right hinherited

/-- A configuration is loaded when there is no unknown override and each of its parts is read. -/
theorem load_eq_ok_iff {overrides : Overrides} {env : Environment} {c : Configuration} :
    load overrides env = .ok c ↔
      unknownOverrides overrides = [] ∧
      readLimit (proofLimitSetting.raw overrides env) = .ok c.proofLimit ∧
      readChoice storageNames (storageSetting.raw overrides env) = .ok c.storage ∧
      readPath (databasePathSetting.raw overrides env) = .ok c.databasePath ∧
      readChoice logLevelNames (logLevelSetting.raw overrides env) = .ok c.logLevel := by
  unfold load
  dsimp only
  split
  · rename_i hunknown hlimit hstorage hpath hlevel
    rw [hunknown, hlimit, hstorage, hpath, hlevel]
    cases c
    simp
  · rename_i hnot
    simp only [reduceCtorEq, false_iff, not_and]
    intro hunknown hlimit hstorage hpath hlevel
    exact hnot _ _ _ _ hunknown hlimit hstorage hpath hlevel

/-- A configuration that is refused is refused for all the rules that it breaks. -/
theorem eq_violations_of_load {overrides : Overrides} {env : Environment} {vs : List Violation}
    (h : load overrides env = .error vs) : vs = violations overrides env := by
  unfold load at h
  dsimp only at h
  split at h
  · cases h
  · exact (Except.error.inj h).symm

/-- A configuration that breaks a rule is refused. -/
theorem load_eq_error_of_mem {overrides : Overrides} {env : Environment} {violation : Violation}
    (h : violation ∈ violations overrides env) :
    load overrides env = .error (violations overrides env) := by
  unfold load
  dsimp only
  split
  · rename_i hunknown hlimit hstorage hpath hlevel
    have hread : ∀ s ∈ settings, s.broken (s.raw overrides env) = [] := by
      simp only [settings, List.forall_mem_cons]
      exact ⟨congrArg brokenRules hlimit, congrArg brokenRules hstorage,
        congrArg brokenRules hpath, congrArg brokenRules hlevel, nofun⟩
    have hnone : violations overrides env = [] := by
      rw [violations, hunknown, List.nil_append, List.flatMap_eq_nil_iff]
      exact fun s hs => List.map_eq_nil_iff.2 (hread s hs)
    rw [hnone] at h
    cases h
  · rfl

/-- Loading looks at overrides without a setting, and else only at the raw values of settings. -/
theorem load_congr {overrides : Overrides} {env env' : Environment}
    (h : ∀ s ∈ settings, s.raw overrides env' = s.raw overrides env) :
    load overrides env' = load overrides env := by
  simp only [settings, List.forall_mem_cons] at h
  obtain ⟨hlimit, hstorage, hpath, hlevel, -⟩ := h
  have hviolations : violations overrides env' = violations overrides env := by
    simp only [violations, settings, Setting.violations, List.flatMap_cons, List.flatMap_nil,
      hlimit, hstorage, hpath, hlevel]
  unfold load
  rw [hlimit, hstorage, hpath, hlevel, hviolations]

/-- A configuration that overrides and an environment are merged to, with a rule for limits: each
override that is not absent is one of a setting or the one whose members are inherited, each of
these is one of a setting, and each part follows the rules of its setting for the value that this
setting takes. -/
structure Merged (limitRule : Value → Number → Prop) (overrides : Overrides) (env : Environment)
    (c : Configuration) : Prop where
  known : ∀ m ∈ overrides, m.2.isAbsent = false →
    m.1 = "__proto__" ∨ ∃ s ∈ settings, m.1 = Utf16.ofString s.name
  knownInherited : ∀ m ∈ inherited overrides, ∃ s ∈ settings, m.1 = Utf16.ofString s.name
  proofLimit : ∃ v, proofLimitSetting.Source overrides env v ∧ limitRule v c.proofLimit
  storage : ∃ v, storageSetting.Source overrides env v ∧ IsChoice ["memory", "sqlite"] v c.storage
  databasePath : ∃ v, databasePathSetting.Source overrides env v ∧ IsPath v c.databasePath
  logLevel : ∃ v, logLevelSetting.Source overrides env v ∧
    IsChoice ["debug", "info", "warn", "error", "silent"] v c.logLevel

/-- For all overrides and environments: a configuration is loaded exactly if they are merged to it,
where the limit is a whole number within its bounds or an infinite number that a text spells.  What
is loaded depends on the variables of those settings only that have no override. -/
theorem load_merges (overrides : Overrides) (env : Environment) :
    (∀ c, load overrides env = .ok c ↔
      Merged (fun v x => IsLimit v x ∨ SpellsInfinity v x) overrides env c) ∧
    ∀ env' : Environment,
      (∀ s ∈ settings, (Value.member s.name overrides).isAbsent = true →
        env'.lookup s.envName = env.lookup s.envName) →
      load overrides env' = load overrides env := by
  have htakes (s : Setting) (rule : Value → Prop) :
      rule (s.raw overrides env) ↔ ∃ v, s.Source overrides env v ∧ rule v := by
    simp only [Setting.source_iff, exists_eq_left]
  constructor
  · -- The configuration is put together from what the settings come from.
    intro c
    rw [load_eq_ok_iff, unknownOverrides_eq_nil_iff, readLimit_eq_ok_iff, readChoice_eq_ok_iff,
      readPath_eq_ok_iff, readChoice_eq_ok_iff]
    constructor
    · rintro ⟨⟨hknown, hinherited⟩, hlimit, hstorage, hpath, hlevel⟩
      exact ⟨hknown, hinherited, (htakes _ _).1 hlimit, (htakes _ _).1 hstorage,
        (htakes _ _).1 hpath, (htakes _ _).1 hlevel⟩
    · rintro ⟨hknown, hinherited, hlimit, hstorage, hpath, hlevel⟩
      exact ⟨⟨hknown, hinherited⟩, (htakes _ _).2 hlimit, (htakes _ _).2 hstorage,
        (htakes _ _).2 hpath, (htakes _ _).2 hlevel⟩
  · -- The environment matters for the settings that are not overridden only.
    intro env' h
    exact load_congr fun s hs => Setting.raw_congr (h s hs)

/-- A null override is a limit of zero, and makes up for a variable that spells no number. -/
theorem load_merges_null_limit :
    let overrides : Overrides :=
      [(Utf16.ofString "proofLimit", .null), (Utf16.ofString "logLevel", .absent)]
    let env : Environment :=
      [("CLAIMS_STORAGE", " sqlite "), ("CLAIMS_DB_PATH", ""), ("CLAIMS_PROOF_LIMIT", "ten")]
    let c : Configuration := ⟨0, "sqlite", ":memory:", "info"⟩
    load overrides env = .ok c ∧
      Merged (fun v x => IsLimit v x ∨ SpellsInfinity v x) overrides env c ∧
      load overrides (env.take 2) = .ok c := by
  intro overrides env c
  have hload : load overrides env = .ok c := by decide +kernel
  obtain ⟨hmerged, hcongr⟩ := load_merges overrides env
  refine ⟨hload, (hmerged c).1 hload, ?_⟩
  rw [hcongr (env.take 2) ?_, hload]
  simp only [settings, List.forall_mem_cons]
  decide +kernel

/-- A limit is loaded from a variable that spells an infinite number, although no whole number does
so.  And a limit is loaded from what is inherited from an override that belongs to no setting. -/
theorem infinite_limit_loaded :
    let env : Environment := [("CLAIMS_PROOF_LIMIT", "Infinity")]
    let c : Configuration := ⟨.infinity false, "memory", ":memory:", "info"⟩
    let overrides : Overrides := [("__proto__", .obj [("proofLimit", .num 7)])]
    (load [] env = .ok c ∧ ¬ Merged IsLimit [] env c) ∧
      load overrides [] = .ok ⟨7, "memory", ":memory:", "info"⟩ ∧
      ∀ s ∈ settings, s.name ≠ "__proto__" := by
  intro env c overrides
  refine ⟨⟨by decide +kernel, fun h => ?_⟩, by decide +kernel, by decide⟩
  obtain ⟨_, -, n, hn, -, heq⟩ := h.proofLimit
  rw [ofNat_of_le_maxProofLimit hn] at heq
  cases heq

end ProofOfExistence.Configuration
