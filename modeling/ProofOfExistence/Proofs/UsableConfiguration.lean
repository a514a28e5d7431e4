import ProofOfExistence.Proofs.ConfigurationMerge
import ProofOfExistence.Proofs.EnvelopeReading
import ProofOfExistence.Proofs.RunRelations
import ProofOfExistence.Registry

/-!
# What a loaded configuration is good for

A configuration is checked once more when a registry is opened with it: its log level must have the
name of one, and its limit must be a non-negative safe integer.  A loaded configuration passes both
checks, and loading it again as overrides gives it back whatever the environment is, if its limit
does not come from a text that spells an infinite number.  With such a limit it is refused by both.

## Key results

- `Registry.exec_create`: a registry is opened if the store is and the configuration passes
- `load_toOverrides`: a configuration that follows all rules is loaded from its own settings
- `loaded_usable`: which loaded configurations are usable and stable
- `infinite_limit_unusable`: a loaded configuration that opens no registry
-/

namespace ProofOfExistence

/-! ## Opening a registry -/

/-- A logger with a threshold of its own writes an entry if its output does. -/
theorem Logger.completes_log {σ : Type} {out : LogOutput σ}
    (hwrite : ∀ entry, Run.Completes (out.write entry)) (source : String) (threshold : Number)
    (level : LogLevel) (message : String) (context : LogContext) :
    Run.Completes (Logger.log ⟨source, some threshold⟩ out level message context) := by
  refine Run.completes_bind (fun w => ⟨threshold, w, rfl⟩) fun t => ?_
  dsimp only
  split
  · exact fun w => ⟨(), w, rfl⟩
  · exact hwrite _

namespace Registry

variable {σ κ : Type} {openStore : StoreKind → Run σ κ} {out : LogOutput σ} {c : Configuration}
  {level : LogLevel} {store : κ} {w w' : σ}

/-- A registry is opened if its store is and its configuration passes both checks. -/
theorem exec_create (hlevel : LogLevel.ofName? c.logLevel = some level) {n : Nat}
    (hlimit : ClaimService.checkLimit c.proofLimit = .ok n)
    (hwrite : ∀ entry, Run.Completes (out.write entry))
    (hopen : (openStore c.storeKind).exec w = (.ok store, w')) :
    ∃ w'', (create openStore out c).exec w =
      (.ok ⟨store, c, n, ⟨logSource, some level.threshold⟩⟩, w'') := by
  obtain ⟨_, w'', hlog⟩ := Logger.completes_log hwrite logSource level.threshold .info
    "Registry ready" [("storage", .ofString c.storage), ("proofLimit", .num c.proofLimit)] w'
  refine ⟨w'', ?_⟩
  simp only [create, hlevel, Run.exec_bind, hopen, Run.exec_ofExcept, hlimit, hlog, Run.exec_pure]

/-- A limit that is no non-negative safe integer ends it, with the store open. -/
theorem exec_create_of_invalid (hlevel : LogLevel.ofName? c.logLevel = some level)
    (hlimit : c.proofLimit.toSafeNat? = none)
    (hopen : (openStore c.storeKind).exec w = (.ok store, w')) :
    (create openStore out c).exec w = (.error (.invalidProofLimit c.proofLimit), w') := by
  have hcheck :
      ClaimService.checkLimit c.proofLimit = .error (.invalidProofLimit c.proofLimit) := by
    rw [ClaimService.checkLimit, hlimit]
  simp only [create, hlevel, Run.exec_bind, hopen, Run.exec_ofExcept, hcheck]

end Registry

namespace Configuration

/-! ## Loading again -/

/-- The settings of a configuration as overrides. -/
def toOverrides (c : Configuration) : Overrides :=
  [(Utf16.ofString proofLimitSetting.name, .num c.proofLimit),
    (Utf16.ofString storageSetting.name, .ofString c.storage),
    (Utf16.ofString databasePathSetting.name, .str c.databasePath),
    (Utf16.ofString logLevelSetting.name, .ofString c.logLevel)]

/-- The raw value of a setting is what a configuration has for it. -/
private theorem raw_toOverrides {c : Configuration} {s : Setting} {v : Value}
    (h : (Utf16.ofString s.name, v) ∈ c.toOverrides) (hv : v.isAbsent = false) (env : Environment) :
    s.raw c.toOverrides env = v := by
  have hnames : (c.toOverrides.map Prod.fst).Nodup := by
    show (settings.map fun s => Utf16.ofString s.name).Nodup
    decide +kernel
  have hmember := Value.member_of_mem hnames h
  have hsource : s.Source c.toOverrides env (Value.member s.name c.toOverrides) :=
    .override (hmember ▸ hv)
  rw [← Setting.source_iff.1 hsource, hmember]

theorem unknownOverrides_toOverrides (c : Configuration) :
    unknownOverrides c.toOverrides = [] := by
  rw [unknownOverrides_eq_nil_iff]
  constructor
  · intro m hm _
    have hname : m.1 ∈ settings.map fun s => Utf16.ofString s.name := List.mem_map_of_mem hm
    obtain ⟨s, hs, hname⟩ := List.mem_map.1 hname
    exact .inr ⟨s, hs, hname.symm⟩
  · -- No setting has the name of the override whose members are inherited.
    have hnothing : inherited c.toOverrides = [] := rfl
    rw [hnothing]
    exact fun _ hm => absurd hm List.not_mem_nil

/-- The texts of a configuration follow the rules of their settings. -/
structure TextsAllowed (c : Configuration) : Prop where
  storage : c.storage ∈ storageNames
  databasePath : c.databasePath ≠ ""
  logLevel : c.logLevel ∈ logLevelNames

section Reload

variable {c : Configuration} (h : c.TextsAllowed) (env : Environment)
include h

/-- The texts of a configuration are read back from its own settings. -/
theorem read_toOverrides :
    readChoice storageNames (storageSetting.raw c.toOverrides env) = .ok c.storage ∧
      readPath (databasePathSetting.raw c.toOverrides env) = .ok c.databasePath ∧
      readChoice logLevelNames (logLevelSetting.raw c.toOverrides env) = .ok c.logLevel := by
  have hraw {s : Setting} {text : Utf16}
      (hmem : (Utf16.ofString s.name, .str text) ∈ c.toOverrides) :
      s.raw c.toOverrides env = .str text := raw_toOverrides hmem rfl env
  have hstorage : storageSetting.raw c.toOverrides env = .ofString c.storage :=
    hraw (by simp [toOverrides, Value.ofString])
  have hpath : databasePathSetting.raw c.toOverrides env = .str c.databasePath :=
    hraw (by simp [toOverrides])
  have hlevel : logLevelSetting.raw c.toOverrides env = .ofString c.logLevel :=
    hraw (by simp [toOverrides, Value.ofString])
  rw [hstorage, hpath, hlevel, readChoice_eq_ok_iff, readPath_eq_ok_iff, readChoice_eq_ok_iff]
  exact ⟨⟨.str _, h.storage⟩, ⟨.str _, h.databasePath⟩, ⟨.str _, h.logLevel⟩⟩

/-- A configuration that follows all rules is loaded from its own settings. -/
theorem load_toOverrides {n : Nat} (hn : n ≤ maxProofLimit) (hlimit : c.proofLimit = .ofNat n) :
    load c.toOverrides env = .ok c := by
  have hraw : proofLimitSetting.raw c.toOverrides env = .num c.proofLimit :=
    raw_toOverrides List.mem_cons_self rfl env
  refine load_eq_ok_iff.2 ⟨unknownOverrides_toOverrides c, ?_, read_toOverrides h env⟩
  rw [hraw, readLimit_eq_ok_iff, hlimit]
  refine .inl ⟨n, hn, ?_, rfl⟩
  rw [ofNat_of_le_maxProofLimit hn]
  exact .whole n

/-- An infinite limit is refused as an override: it is a number already, and no whole one. -/
theorem load_toOverrides_of_infinity {negative : Bool}
    (hlimit : c.proofLimit = .infinity negative) :
    load c.toOverrides env = .error [⟨"/proofLimit", .type "integer"⟩] := by
  have hraw : proofLimitSetting.raw c.toOverrides env = .num c.proofLimit :=
    raw_toOverrides List.mem_cons_self rfl env
  -- An infinite number is no integer, and this is the only rule that it breaks.
  have hrefused : proofLimitSetting.violations c.toOverrides env =
      [⟨"/proofLimit", .type "integer"⟩] := by
    rw [Setting.violations, hraw, hlimit]
    rfl
  -- The texts are read, so the other settings break no rule.
  obtain ⟨hstorage, hpath, hlevel⟩ := read_toOverrides h env
  have hothers : storageSetting.violations c.toOverrides env = [] ∧
      databasePathSetting.violations c.toOverrides env = [] ∧
      logLevelSetting.violations c.toOverrides env = [] :=
    ⟨List.map_eq_nil_iff.2 (congrArg brokenRules hstorage),
      List.map_eq_nil_iff.2 (congrArg brokenRules hpath),
      List.map_eq_nil_iff.2 (congrArg brokenRules hlevel)⟩
  have hall : violations c.toOverrides env = [⟨"/proofLimit", .type "integer"⟩] := by
    simp [violations, settings, unknownOverrides_toOverrides, hrefused, hothers]
  rw [← hall]
  exact load_eq_error_of_mem (hall ▸ List.mem_cons_self)

end Reload

/-! ## Loaded configurations -/

/-- The texts of a loaded configuration are allowed. -/
theorem textsAllowed_of_load {overrides : Overrides} {env : Environment} {c : Configuration}
    (h : load overrides env = .ok c) : c.TextsAllowed := by
  obtain ⟨-, -, hstorage, hpath, hlevel⟩ := load_eq_ok_iff.1 h
  exact ⟨(readChoice_eq_ok_iff.1 hstorage).2, (readPath_eq_ok_iff.1 hpath).2,
    (readChoice_eq_ok_iff.1 hlevel).2⟩

/-- An allowed name is that of a log level. -/
theorem TextsAllowed.exists_level {c : Configuration} (h : c.TextsAllowed) :
    ∃ level : LogLevel, LogLevel.ofName? c.logLevel = some level ∧ level.name = c.logLevel := by
  have hnames : ∀ name ∈ logLevelNames,
      ∃ level ∈ LogLevel.all, LogLevel.ofName? name = some level ∧ level.name = name := by
    decide
  obtain ⟨level, -, hlevel⟩ := hnames c.logLevel h.logLevel
  exact ⟨level, hlevel⟩

/-- A configuration that is good for a registry and keeps: both checks of an opening pass, the
service has the configured limit, and the configuration is loaded from its own settings whatever the
environment is. -/
structure Usable (c : Configuration) : Prop where
  limit : ∃ n, ClaimService.checkLimit c.proofLimit = .ok n
  level : ∃ level : LogLevel, LogLevel.ofName? c.logLevel = some level ∧ level.name = c.logLevel
  opens {σ κ : Type} (openStore : StoreKind → Run σ κ) (out : LogOutput σ)
    (hwrite : ∀ entry, Run.Completes (out.write entry)) {w w' : σ} {store : κ}
    (hopen : (openStore c.storeKind).exec w = (.ok store, w')) :
    ∃ (r : Registry κ) (w'' : σ), (Registry.create openStore out c).exec w = (.ok r, w'') ∧
      r.store = store ∧ r.configuration = c ∧
      ∀ claims now deposit count,
        Number.ofNat (r.service claims now deposit count out).proofLimit = c.proofLimit
  reloads (env : Environment) : load c.toOverrides env = .ok c

/-- A configuration that is good for nothing: its limit is refused when a registry is opened and
when the configuration is loaded again. -/
structure Unusable (c : Configuration) : Prop where
  limit : ClaimService.checkLimit c.proofLimit = .error (.invalidProofLimit c.proofLimit)
  level : ∃ level : LogLevel, LogLevel.ofName? c.logLevel = some level ∧ level.name = c.logLevel
  opens {σ κ : Type} (openStore : StoreKind → Run σ κ) (out : LogOutput σ) {w w' : σ} {store : κ}
    (hopen : (openStore c.storeKind).exec w = (.ok store, w')) :
    (Registry.create openStore out c).exec w = (.error (.invalidProofLimit c.proofLimit), w')
  reloads (env : Environment) : load c.toOverrides env = .error [⟨"/proofLimit", .type "integer"⟩]

theorem TextsAllowed.usable {c : Configuration} (h : c.TextsAllowed) {n : Nat}
    (hn : n ≤ maxProofLimit) (hlimit : c.proofLimit = .ofNat n) : c.Usable := by
  obtain ⟨level, hlevel, hname⟩ := h.exists_level
  have hsafe : n ≤ maxSafeInteger := hn.trans (by decide)
  have hcheck : ClaimService.checkLimit c.proofLimit = .ok n := by
    rw [hlimit, ClaimService.checkLimit, Number.toSafeNat?_ofNat hsafe]
  refine ⟨⟨n, hcheck⟩, ⟨level, hlevel, hname⟩, fun openStore out hwrite _ _ store hopen => ?_,
    fun env => load_toOverrides h env hn hlimit⟩
  obtain ⟨w'', hcreate⟩ := Registry.exec_create hlevel hcheck hwrite hopen
  exact ⟨_, w'', hcreate, rfl, rfl, fun _ _ _ _ => hlimit.symm⟩

theorem TextsAllowed.unusable {c : Configuration} (h : c.TextsAllowed) {negative : Bool}
    (hlimit : c.proofLimit = .infinity negative) : c.Unusable := by
  obtain ⟨level, hlevel, hname⟩ := h.exists_level
  have hnone : c.proofLimit.toSafeNat? = none := by rw [hlimit]; rfl
  refine ⟨?_, ⟨level, hlevel, hname⟩, fun openStore out _ _ _ hopen => ?_,
    fun env => load_toOverrides_of_infinity h env hlimit⟩
  · rw [ClaimService.checkLimit, hnone]
  · exact Registry.exec_create_of_invalid hlevel hnone hopen

/-- For all overrides and environments: a loaded configuration is usable and stable, unless the
value that its limit is taken from is a text that spells an infinite number, and then it is
neither. -/
theorem loaded_usable {overrides : Overrides} {env : Environment} {c : Configuration}
    (h : load overrides env = .ok c) {v : Value}
    (hv : proofLimitSetting.Source overrides env v) :
    (¬ SpellsInfinity v c.proofLimit → c.Usable) ∧
      (SpellsInfinity v c.proofLimit → c.Unusable) := by
  have htexts := textsAllowed_of_load h
  obtain ⟨-, hread, -⟩ := load_eq_ok_iff.1 h
  rw [← Setting.source_iff.1 hv, readLimit_eq_ok_iff] at hread
  constructor
  · -- The limit is a number within its bounds.
    intro hfinite
    obtain ⟨n, hn, -, hlimit⟩ := hread.resolve_right hfinite
    exact htexts.usable hn hlimit
  · intro hinfinite
    generalize hx : c.proofLimit = x at hinfinite
    cases hinfinite with
    | numeral _ => exact htexts.unusable hx

/-- A truth value is a limit of one: a registry is opened with it, and a variable that spells no
number does not matter when the configuration is loaded again. -/
theorem loaded_usable_true_limit :
    let overrides : Overrides := [(Utf16.ofString "proofLimit", .bool true)]
    let env : Environment := [("CLAIMS_LOG_LEVEL", " warn")]
    let c : Configuration := ⟨1, "memory", ":memory:", "warn"⟩
    load overrides env = .ok c ∧ proofLimitSetting.Source overrides env (.bool true) ∧
      ¬ SpellsInfinity (.bool true) c.proofLimit ∧
      (∃ r w, (Registry.create (fun _ => (return () : Run Unit Unit))
        ⟨return 0, fun _ => return ()⟩ c).exec () = (.ok r, w)) ∧
      load c.toOverrides [("CLAIMS_PROOF_LIMIT", "ten")] = .ok c := by
  intro overrides env c
  have hload : load overrides env = .ok c := by decide +kernel
  have hsource : proofLimitSetting.Source overrides env (.bool true) := .override rfl
  have hfinite : ¬ SpellsInfinity (.bool true) c.proofLimit := nofun
  have husable := (loaded_usable hload hsource).1 hfinite
  obtain ⟨r, w, hcreate, -⟩ := husable.opens (fun _ => (return () : Run Unit Unit))
    ⟨return 0, fun _ => return ()⟩ (fun _ w => ⟨(), w, rfl⟩) rfl
  exact ⟨hload, hsource, hfinite, ⟨r, w, hcreate⟩, husable.reloads _⟩

/-- An override that spells an infinite number is loaded as a limit, but no registry is opened with
it, and it is not loaded again. -/
theorem infinite_limit_unusable :
    let overrides : Overrides := [(Utf16.ofString "proofLimit", .ofString "Infinity")]
    let c : Configuration := ⟨.infinity false, "memory", ":memory:", "info"⟩
    load overrides [] = .ok c ∧ ¬ c.Usable ∧ c.Unusable := by
  intro overrides c
  have hload : load overrides [] = .ok c := by decide +kernel
  have hunusable : c.Unusable := (textsAllowed_of_load hload).unusable rfl
  refine ⟨hload, fun husable => ?_, hunusable⟩
  obtain ⟨n, hn⟩ := husable.limit
  rw [hunusable.limit] at hn
  cases hn

end Configuration

end ProofOfExistence
