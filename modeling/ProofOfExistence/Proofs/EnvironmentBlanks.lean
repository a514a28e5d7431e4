import Mathlib.Data.List.DropRight
import ProofOfExistence.Proofs.ConfigurationMerge

/-!
# White space around the values of variables

The value of a variable is trimmed before it is read, so white space around it does not matter.  But
whether a variable is set at all is asked of its value as it is.  A variable whose value is white
space only therefore counts as set, and its setting is read from the empty text, which follows the
rules of none.

Trimmed, such a variable counts as not set.  That makes a difference unless the setting inherits a
value that breaks the same rules as the empty text.

## Key results

- `Text.trim_trim`: trimming a text again changes nothing
- `Setting.raw_trimmed`: the raw value of a setting after trimming all variables
- `exists_violation_of_isBlank`: a setting that is read from a blank variable breaks a rule
- `load_trimmed`: the configuration that is loaded after trimming all variables
- `blank_variable_refused`: a variable of white space that is not treated as an empty one
-/

namespace ProofOfExistence

namespace Text

variable {α : Type} {blank : α → Bool}

private theorem trimEnds_eq (l : List α) :
    trimEnds blank l = (l.dropWhile blank).rdropWhile blank := rfl

/-- Dropping the end of a list does not bare what is dropped from its start. -/
private theorem dropWhile_rdropWhile {l : List α} (h : l.dropWhile blank = l) :
    (l.rdropWhile blank).dropWhile blank = l.rdropWhile blank := by
  obtain ⟨rest, hrest⟩ := l.rdropWhile_prefix blank
  cases hkept : l.rdropWhile blank with
  | nil => rfl
  | cons a kept =>
    -- What is kept begins as the list does.
    rw [hkept] at hrest
    subst hrest
    have ha := List.dropWhile_eq_self_iff.1 h (Nat.zero_lt_succ _)
    exact List.dropWhile_cons_of_neg ha

theorem trimEnds_trimEnds (l : List α) : trimEnds blank (trimEnds blank l) = trimEnds blank l := by
  have hstart : (l.dropWhile blank).dropWhile blank = l.dropWhile blank :=
    List.dropWhile_idempotent blank l
  rw [trimEnds_eq, trimEnds_eq, dropWhile_rdropWhile hstart, List.rdropWhile_idempotent]

theorem trimEnds_eq_nil_iff {l : List α} : trimEnds blank l = [] ↔ ∀ a ∈ l, blank a = true := by
  rw [trimEnds_eq, List.rdropWhile_eq_nil_iff, ← List.dropWhile_eq_nil_iff,
    List.dropWhile_idempotent, List.dropWhile_eq_nil_iff]

/-- Trimming a text again changes nothing. -/
theorem trim_trim (text : Utf16) : trim (trim text) = trim text :=
  congrArg Utf16.mk (trimEnds_trimEnds text.units)

/-- Nothing is left of a text of white space, and of no other. -/
theorem trim_eq_empty_iff {text : Utf16} :
    trim text = "" ↔ ∀ u ∈ text.units, isBlankUnit u = true := by
  have hempty : trim text = "" ↔ trimEnds isBlankUnit text.units = [] := Utf16.ext_iff
  rw [hempty, trimEnds_eq_nil_iff]

end Text

namespace Configuration

/-- An environment with all its values trimmed. -/
def Environment.trimmed (env : Environment) : Environment := env.map fun e => (e.1, Text.trim e.2)

theorem Environment.lookup_trimmed (env : Environment) (name : Utf16) :
    (Environment.trimmed env).lookup name = (env.lookup name).map Text.trim := by
  unfold Environment.trimmed
  induction env with
  | nil => rfl
  | cons e rest ih =>
    obtain ⟨key, text⟩ := e
    rw [List.map_cons, List.lookup_cons, List.lookup_cons]
    cases name == key with
    | true => rfl
    | false => exact ih

/-- A setting that is read from a variable of white space: it has no override, and its variable is
not empty but would be if it were trimmed. -/
def Setting.IsBlank (s : Setting) (overrides : Overrides) (env : Environment) : Prop :=
  (Value.member s.name overrides).isAbsent = true ∧
    ∃ text ∈ env.lookup s.envName, text ≠ "" ∧ ∀ u ∈ text.units, Text.isBlankUnit u = true

instance (s : Setting) (overrides : Overrides) (env : Environment) :
    Decidable (s.IsBlank overrides env) :=
  -- Only the units of the text are to be tried, not all that there are.
  letI (text : Utf16) : Decidable (∀ u ∈ text.units, Text.isBlankUnit u = true) :=
    List.decidableBAll _ _
  inferInstanceAs (Decidable (_ ∧ _))

namespace Setting

variable {s : Setting} {overrides : Overrides} {env : Environment}

/-- Trimming the variables changes the source of no setting but those of blank variables. -/
theorem raw_trimmed (h : ¬ s.IsBlank overrides env) :
    s.raw overrides (Environment.trimmed env) = s.raw overrides env := by
  refine (source_iff.1 ?_).symm
  have hsource : s.Source overrides env (s.raw overrides env) := source_iff.2 rfl
  generalize s.raw overrides env = v at hsource ⊢
  have hlookup := Environment.lookup_trimmed env s.envName
  -- A variable that is not set or empty stays so.
  have hunset (h : env.lookup s.envName = none ∨ env.lookup s.envName = some ("" : Utf16)) :
      (Environment.trimmed env).lookup s.envName = none ∨
        (Environment.trimmed env).lookup s.envName = some ("" : Utf16) := by
    rw [hlookup]
    rcases h with hset | hset
    · exact .inl (by rw [hset]; rfl)
    · exact .inr (by rw [hset]; rfl)
  cases hsource with
  | override hpresent => exact .override hpresent
  | @environment text habsent hset hne =>
    rw [hset] at hlookup
    -- The text is not blank, so something is left of it.
    have hkept : Text.trim text ≠ "" := by
      intro hblank
      exact h ⟨habsent, text, hset, hne, Text.trim_eq_empty_iff.1 hblank⟩
    rw [← Text.trim_trim text]
    exact .environment habsent hlookup hkept
  | inherited habsent h hmember => exact .inherited habsent (hunset h) hmember
  | unset habsent h hnone => exact .unset habsent (hunset h) hnone

/-- The setting of a blank variable is read from the empty text. -/
theorem raw_of_isBlank (h : s.IsBlank overrides env) :
    s.raw overrides env = .ofString "" := by
  obtain ⟨habsent, text, hset, hne, hblank⟩ := h
  have hraw := source_iff.1 (.environment habsent hset hne)
  rw [Text.trim_eq_empty_iff.2 hblank] at hraw
  exact hraw.symm

/-- Once the variables are trimmed, the setting of a blank one takes what it inherits, or else its
default. -/
theorem raw_trimmed_of_isBlank (h : s.IsBlank overrides env) :
    s.raw overrides (Environment.trimmed env) =
      (s.among (inherited overrides)).getD s.fallback := by
  obtain ⟨habsent, text, hset, -, hblank⟩ := h
  have htrimmed : (Environment.trimmed env).lookup s.envName = some ("" : Utf16) := by
    rw [Environment.lookup_trimmed, hset, Option.map_some, Text.trim_eq_empty_iff.2 hblank]
  rw [raw, among_eq_none habsent, fromEnvironment_of_unset (.inr htrimmed), Option.none_or,
    Option.none_or]

/-- A setting that follows its rules neither with a blank variable nor without it: it inherits a
value that breaks the rules that the empty text breaks. -/
def InheritsRefused (s : Setting) (overrides : Overrides) : Prop :=
  ∃ v, s.among (inherited overrides) = some v ∧ s.broken v = s.broken (.ofString "")

end Setting

/-- No setting follows its rules with the empty text, and every setting does with its default. -/
private theorem broken_defaults {s : Setting} (hs : s ∈ settings) :
    s.broken (.ofString "") ≠ [] ∧ s.broken s.fallback = [] := by
  have hall : ∀ s ∈ settings, s.broken (.ofString "") ≠ [] ∧ s.broken s.fallback = [] := by decide
  exact hall s hs

/-- The violations that name a setting are those of its own rules. -/
theorem filter_violations {s : Setting} (hs : s ∈ settings) (overrides : Overrides)
    (env : Environment) :
    (violations overrides env).filter (fun v => v.path = "/" ++ s.name) =
      s.violations overrides env := by
  have hunknown : (unknownOverrides overrides).filter (fun v => v.path = "/" ++ s.name) = [] := by
    refine List.filter_eq_nil_iff.2 fun v hv => ?_
    obtain ⟨-, -, rfl⟩ := List.mem_map.1 hv
    simp
  have hother (s' : Setting) :
      (s'.violations overrides env).filter (fun v => v.path = "/" ++ s.name) =
        if s'.name = s.name then s'.violations overrides env else [] := by
    rw [Setting.violations, List.filter_map]
    by_cases hname : s'.name = s.name <;> simp [Function.comp_def, hname]
  -- The other violations have other paths.
  rw [violations, List.filter_append, hunknown, List.nil_append, List.filter_flatMap]
  simp only [hother]
  -- No two settings have one name.
  simp only [settings, List.mem_cons, List.not_mem_nil, or_false] at hs
  rcases hs with rfl | rfl | rfl | rfl <;>
    simp [settings, proofLimitSetting, storageSetting, databasePathSetting, logLevelSetting]

/-- Two loads that are refused for the same rules find the same rules broken in each setting. -/
theorem broken_eq_of_violations_eq {overrides : Overrides} {env env' : Environment}
    (h : violations overrides env' = violations overrides env) {s : Setting} (hs : s ∈ settings) :
    s.broken (s.raw overrides env') = s.broken (s.raw overrides env) := by
  have hown : s.violations overrides env' = s.violations overrides env := by
    rw [← filter_violations hs, ← filter_violations hs, h]
  refine List.map_injective_iff.2 (fun rule rule' heq => ?_) hown
  exact congrArg Violation.rule heq

section Blank

variable {overrides : Overrides} {env : Environment}

/-- A setting that is read from a blank variable breaks a rule: none allows the empty text. -/
theorem exists_violation_of_isBlank {s : Setting} (hs : s ∈ settings)
    (h : s.IsBlank overrides env) :
    ∃ rule, ⟨"/" ++ s.name, rule⟩ ∈ violations overrides env := by
  obtain ⟨rule, hrule⟩ := List.exists_mem_of_ne_nil _ (broken_defaults hs).1
  refine ⟨rule, List.mem_append_right _ (List.mem_flatMap.2 ⟨s, hs, ?_⟩)⟩
  rw [Setting.violations, Setting.raw_of_isBlank h]
  exact List.mem_map_of_mem hrule

/-- If trimming changes nothing, the setting of a blank variable is refused without it too. -/
theorem inheritsRefused_of_load_trimmed_eq
    (heq : load overrides (Environment.trimmed env) = load overrides env) {s : Setting}
    (hs : s ∈ settings) (h : s.IsBlank overrides env) : s.InheritsRefused overrides := by
  obtain ⟨rule, hrule⟩ := exists_violation_of_isBlank hs h
  rw [load_eq_error_of_mem hrule] at heq
  have hbroken := broken_eq_of_violations_eq (eq_violations_of_load heq).symm hs
  rw [Setting.raw_of_isBlank h, Setting.raw_trimmed_of_isBlank h] at hbroken
  cases hmember : s.among (inherited overrides) with
  | some v =>
    rw [hmember] at hbroken
    exact ⟨v, hmember, hbroken⟩
  | none =>
    -- The default would not be refused.
    rw [hmember, Option.getD_none, (broken_defaults hs).2] at hbroken
    exact absurd hbroken.symm (broken_defaults hs).1

/-- If the settings of all blank variables are refused for the same rules without them, trimming
changes nothing. -/
theorem load_trimmed_eq_of_inheritsRefused
    (h : ∀ s ∈ settings, s.IsBlank overrides env → s.InheritsRefused overrides) :
    load overrides (Environment.trimmed env) = load overrides env := by
  -- A setting breaks the same rules in both loads: a blank one by assumption, the others since they
  -- are not trimmed.
  have hbroken : ∀ s ∈ settings, s.broken (s.raw overrides (Environment.trimmed env)) =
      s.broken (s.raw overrides env) := by
    intro s hs
    by_cases hblank : s.IsBlank overrides env
    · obtain ⟨v, hv, hbroken⟩ := h s hs hblank
      rw [Setting.raw_trimmed_of_isBlank hblank, hv, Setting.raw_of_isBlank hblank]
      exact hbroken
    · rw [Setting.raw_trimmed hblank]
  by_cases hblank : ∃ s ∈ settings, s.IsBlank overrides env
  · -- With a blank setting both loads fail.
    obtain ⟨s, hs, hblank⟩ := hblank
    have hviolations : violations overrides (Environment.trimmed env) =
        violations overrides env := by
      refine congrArg (unknownOverrides overrides ++ ·) (List.flatMap_congr fun s hs => ?_)
      rw [Setting.violations, Setting.violations, hbroken s hs]
    obtain ⟨rule, hrule⟩ := exists_violation_of_isBlank hs hblank
    rw [load_eq_error_of_mem hrule, load_eq_error_of_mem (hviolations ▸ hrule), hviolations]
  · -- Otherwise no setting takes another value.
    exact load_congr fun s hs => Setting.raw_trimmed fun h => hblank ⟨s, hs, h⟩

end Blank

/-- For all overrides and environments: trimming all variables changes nothing exactly if every
setting that is read from a blank variable inherits a value that breaks the same rules; where
nothing is inherited, exactly if no setting is read from a blank variable.  If one is, the
configuration is refused for this setting. -/
theorem load_trimmed (overrides : Overrides) (env : Environment) :
    (load overrides (Environment.trimmed env) = load overrides env ↔
      ∀ s ∈ settings, s.IsBlank overrides env → s.InheritsRefused overrides) ∧
    (inherited overrides = [] →
      (load overrides (Environment.trimmed env) = load overrides env ↔
        ∀ s ∈ settings, ¬ s.IsBlank overrides env)) ∧
    ∀ s ∈ settings, s.IsBlank overrides env →
      ∃ violations rule, load overrides env = .error violations ∧
        ⟨"/" ++ s.name, rule⟩ ∈ violations := by
  have hsame : load overrides (Environment.trimmed env) = load overrides env ↔
      ∀ s ∈ settings, s.IsBlank overrides env → s.InheritsRefused overrides :=
    ⟨fun heq _ hs h => inheritsRefused_of_load_trimmed_eq heq hs h,
      load_trimmed_eq_of_inheritsRefused⟩
  refine ⟨hsame, fun hnothing => ?_, fun s hs h => ?_⟩
  · -- If nothing is inherited, no blank setting inherits anything.
    rw [hsame]
    refine forall₂_congr fun s _ => imp_congr_right fun _ => iff_of_false (fun h => ?_) id
    obtain ⟨v, hv, -⟩ := h
    rw [hnothing, Setting.among_eq_none rfl] at hv
    cases hv
  · -- A blank setting is refused under its own name.
    obtain ⟨rule, hrule⟩ := exists_violation_of_isBlank hs h
    exact ⟨_, rule, load_eq_error_of_mem hrule, hrule⟩

/-- Variables with white space around their values; a blank one does not matter to a setting with an
override. -/
theorem load_trimmed_padded :
    let overrides : Overrides := [(Utf16.ofString "storage", .ofString "sqlite")]
    let env : Environment :=
      [("CLAIMS_PROOF_LIMIT", " 12\t"), ("CLAIMS_STORAGE", " "), ("CLAIMS_LOG_LEVEL", "\nwarn")]
    (∀ s ∈ settings, ¬ s.IsBlank overrides env) ∧
      load overrides (Environment.trimmed env) = load overrides env ∧
      storageSetting ∈ settings ∧ storageSetting.IsBlank [] env ∧
      ∃ violations, load [] env = .error violations := by
  intro overrides env
  have hnone : ∀ s ∈ settings, ¬ s.IsBlank overrides env := by decide
  have hstorage : storageSetting ∈ settings := List.mem_cons_of_mem _ List.mem_cons_self
  have hblank : storageSetting.IsBlank [] env := by decide
  obtain ⟨violations, _, hload, -⟩ := (load_trimmed [] env).2.2 storageSetting hstorage hblank
  exact ⟨hnone, ((load_trimmed overrides env).2.1 rfl).2 hnone, hstorage, hblank, violations, hload⟩

/-- A limit of white space is refused, although nothing is left of it when it is trimmed and an
empty variable stands for the default. -/
theorem blank_variable_refused :
    let env : Environment := [("CLAIMS_PROOF_LIMIT", " ")]
    Environment.trimmed env = ([("CLAIMS_PROOF_LIMIT", "")] : Environment) ∧
      load [] env = .error [⟨"/proofLimit", .type "integer"⟩] ∧
      load [] (Environment.trimmed env) = .ok ⟨256, "memory", ":memory:", "info"⟩ := by
  decide +kernel

end Configuration

end ProofOfExistence
