import ProofOfExistence.Log
import ProofOfExistence.Number.Numeral
import ProofOfExistence.Violation

/-! # Configuration of a registry

A configuration has four settings.  Each takes its raw value from an override, else from an
environment variable, else from a default: an override counts unless it is absent, a variable counts
unless it is empty, and its value is trimmed.

The raw values are the members of an object.  An override named `__proto__` does not become one of
them.  If it is an object or a list, its own members are inherited: such a member takes the place of
a default.

A raw value is then coerced to the type of its setting and checked.  All broken rules are reported,
those about unknown members first, inherited ones included, and then those of each setting in
order. -/

namespace ProofOfExistence

/-- The settings of a registry. -/
structure Configuration where
  /-- The greatest length of a fingerprint, in bytes. -/
  proofLimit : Number
  /-- Which kind of store to use. -/
  storage : String
  /-- Where a durable store keeps its contents. -/
  databasePath : Utf16
  /-- The name of the log level. -/
  logLevel : String
deriving DecidableEq

namespace Configuration

/-- The greatest length of a fingerprint by default. -/
def defaultProofLimit : Nat := 256

/-- The greatest limit on the length of fingerprints that can be configured. -/
def maxProofLimit : Nat := 4294967295

/-- The name of the store in memory. -/
def memoryStorage : String := "memory"

/-- The name of the durable store. -/
def durableStorage : String := "sqlite"

/-- The path of a durable store that is private to its registry. -/
def privatePath : Utf16 := ":memory:"

/-! ## Rules -/

/-- The whole number that a value is or is coerced to.  Null is zero, a truth value is zero or one,
and a text that is not empty is read as a numeral; an infinite numeral passes as whole. -/
def coerceInteger : Value → Option Number
  | .null => some 0
  | .bool b => some (if b then 1 else 0)
  | .num x => x.toInt?.map fun _ => x
  | .str s =>
    let x := Number.ofNumeral s.toString
    match x with
    | .infinity _ => some x
    | _ => if s.units.isEmpty then none else x.toInt?.map fun _ => x
  | _ => none

/-- The bounds that a finite number breaks; other numbers break none. -/
def brokenBounds : Number → List SchemaRule
  | .finite q =>
    if q > maxProofLimit then [.maximum maxProofLimit] else if q < 0 then [.minimum 0] else []
  | _ => []

/-- The number of a limit setting, or the rules that its raw value breaks.  A number that is not
whole is still held against the bounds. -/
def readLimit (v : Value) : Except (List SchemaRule) Number :=
  match coerceInteger v with
  | some x =>
    match brokenBounds x with
    | [] => .ok x
    | rules => .error rules
  | none =>
    match v with
    | .num x => .error (.type "integer" :: brokenBounds x)
    | _ => .error [.type "integer"]

/-- The text that a value is or is coerced to.  Null is the empty text, numbers and truth values are
their own texts. -/
def coerceText : Value → Option Utf16
  | .null => some ""
  | .bool b => some (if b then "true" else "false")
  | .num x => some x.toText
  | .str s => some s
  | _ => none

/-- The text of a setting with some allowed values, or the rules that its raw value breaks.  A value
that is no text breaks both rules. -/
def readChoice (allowed : List String) (v : Value) : Except (List SchemaRule) String :=
  match coerceText v with
  | some text =>
    match allowed.find? fun name => text = Utf16.ofString name with
    | some name => .ok name
    | none => .error [.allowedValues]
  | none => .error [.type "string", .allowedValues]

/-- The text of a setting that must not be empty, or the rules that its raw value breaks. -/
def readPath (v : Value) : Except (List SchemaRule) Utf16 :=
  match coerceText v with
  | some text => if text = "" then .error [.nonEmpty] else .ok text
  | none => .error [.type "string"]

/-- The names of the kinds of store. -/
def storageNames : List String := [memoryStorage, durableStorage]

/-- The names of the log levels. -/
def logLevelNames : List String := LogLevel.all.map LogLevel.name

/-- The rules that a value breaks, none if it was read. -/
def brokenRules {α : Type} : Except (List SchemaRule) α → List SchemaRule
  | .ok _ => []
  | .error rules => rules

/-! ## Settings -/

/-- One setting: its name, its environment variable and its default. -/
structure Setting where
  name : String
  envName : Utf16
  fallback : Value
  /-- The rules that a raw value breaks. -/
  broken : Value → List SchemaRule

/-- The limit on the length of fingerprints. -/
def proofLimitSetting : Setting :=
  ⟨"proofLimit", "CLAIMS_PROOF_LIMIT", .num (.ofNat defaultProofLimit),
    fun v => brokenRules (readLimit v)⟩

/-- The kind of store. -/
def storageSetting : Setting :=
  ⟨"storage", "CLAIMS_STORAGE", .ofString memoryStorage,
    fun v => brokenRules (readChoice storageNames v)⟩

/-- The place of a durable store. -/
def databasePathSetting : Setting :=
  ⟨"databasePath", "CLAIMS_DB_PATH", .str privatePath, fun v => brokenRules (readPath v)⟩

/-- The log level. -/
def logLevelSetting : Setting :=
  ⟨"logLevel", "CLAIMS_LOG_LEVEL", .ofString "info",
    fun v => brokenRules (readChoice logLevelNames v)⟩

/-- All settings, in the order of their checks. -/
def settings : List Setting :=
  [proofLimitSetting, storageSetting, databasePathSetting, logLevelSetting]

/-! ## Sources -/

/-- The environment: variables with their values. -/
abbrev Environment := List (Utf16 × Utf16)

/-- The values given for settings in the program, by name. -/
abbrev Overrides := List (Utf16 × Value)

/-- The name of the override whose members are inherited. -/
def prototypeName : String := "__proto__"

/-- The members that raw values are inherited from: those of an object, or the items of a list under
their numbers. -/
def inherited (overrides : Overrides) : List (Utf16 × Value) :=
  match Value.member prototypeName overrides with
  | .obj members => members
  | .arr items => items.mapIdx fun i v => (Utf16.ofString (toString i), v)
  | _ => []

namespace Setting

/-- The trimmed value of a variable that is set and not empty. -/
def fromEnvironment (s : Setting) (env : Environment) : Option Value :=
  ((env.lookup s.envName).filter fun text => text ≠ ("" : Utf16)).map fun text =>
    .str (Text.trim text)

/-- The member for a setting, unless it is absent. -/
def among (s : Setting) (members : List (Utf16 × Value)) : Option Value :=
  let v := Value.member s.name members
  if v.isAbsent then none else some v

/-- The raw value of a setting. -/
def raw (s : Setting) (overrides : Overrides) (env : Environment) : Value :=
  (((s.among overrides).or (s.fromEnvironment env)).or (s.among (inherited overrides))).getD
    s.fallback

/-- The violations of the rules that the raw value of a setting breaks. -/
def violations (s : Setting) (overrides : Overrides) (env : Environment) : List Violation :=
  (s.broken (s.raw overrides env)).map fun rule => ⟨"/" ++ s.name, rule⟩

end Setting

/-! ## Loading -/

/-- Whether a name is that of a setting. -/
def isSettingName (name : Utf16) : Bool := settings.any fun s => name = Utf16.ofString s.name

/-- The overrides that have no setting, but for absent ones and the one whose members are
inherited. -/
def unknownMembers (overrides : Overrides) : List (Utf16 × Value) :=
  overrides.filter fun m =>
    !m.2.isAbsent && m.1 ≠ Utf16.ofString prototypeName && !isSettingName m.1

/-- The inherited members that have no setting, but for those that an override hides.  They count
also if they are absent. -/
def unknownInherited (overrides : Overrides) : List (Utf16 × Value) :=
  (inherited overrides).filter fun m =>
    !isSettingName m.1 && !(unknownMembers overrides).any fun own => own.1 = m.1

/-- One violation for each member that has no setting. -/
def unknownOverrides (overrides : Overrides) : List Violation :=
  (unknownMembers overrides ++ unknownInherited overrides).map fun _ => ⟨"", .additional⟩

/-- All the rules that overrides and an environment break. -/
def violations (overrides : Overrides) (env : Environment) : List Violation :=
  unknownOverrides overrides ++ settings.flatMap fun s => s.violations overrides env

/-- The configuration of overrides and an environment, or all the rules that they break. -/
def load (overrides : Overrides) (env : Environment) : Except (List Violation) Configuration :=
  let proofLimit := readLimit (proofLimitSetting.raw overrides env)
  let storage := readChoice storageNames (storageSetting.raw overrides env)
  let databasePath := readPath (databasePathSetting.raw overrides env)
  let logLevel := readChoice logLevelNames (logLevelSetting.raw overrides env)
  match unknownOverrides overrides, proofLimit, storage, databasePath, logLevel with
  | [], .ok proofLimit, .ok storage, .ok databasePath, .ok logLevel =>
    .ok ⟨proofLimit, storage, databasePath, logLevel⟩
  | _, _, _, _, _ => .error (violations overrides env)

end Configuration

end ProofOfExistence
