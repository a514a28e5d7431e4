import ProofOfExistence.ClaimService
import ProofOfExistence.Configuration

/-! # Registries

A registry is a claim service over the store that its configuration names, with loggers of its own
whose threshold is the configured level.

Opening one checks the log level, opens the store, checks the limit on the length of fingerprints
and says in the log that the registry is ready, in this order; the first of these that fails ends it
with a fault. -/

namespace ProofOfExistence

/-- The store that a registry asks for. -/
inductive StoreKind where
  /-- A store in memory. -/
  | memory
  /-- A durable store at a path, or a private one. -/
  | durable (path : Utf16)
deriving DecidableEq

/-- The store that a configuration names; every other name stands for a store in memory. -/
def Configuration.storeKind (c : Configuration) : StoreKind :=
  if c.storage = durableStorage then .durable c.databasePath else .memory

/-- A registry whose store is known by a `κ`. -/
structure Registry (κ : Type) where
  store : κ
  configuration : Configuration
  proofLimit : Nat
  logger : Logger

namespace Registry

variable {σ κ : Type}

/-- The module of a registry's logger. -/
def logSource : String := "ClaimRegistry"

/-- Open a registry with a configuration. -/
def create (openStore : StoreKind → Run σ κ) (out : LogOutput σ) (c : Configuration) :
    Run σ (Registry κ) := do
  match LogLevel.ofName? c.logLevel with
  | none => throw (.unknownLogLevel c.logLevel)
  | some level =>
    let logger : Logger := ⟨logSource, some level.threshold⟩
    let store ← openStore c.storeKind
    let proofLimit ← Run.ofExcept (ClaimService.checkLimit c.proofLimit)
    logger.log out .info "Registry ready"
      [("storage", .ofString c.storage), ("proofLimit", .num c.proofLimit)]
    return ⟨store, c, proofLimit, logger⟩

/-- Open a registry with the configuration of overrides and an environment. -/
def load (openStore : StoreKind → Run σ κ) (out : LogOutput σ)
    (overrides : Configuration.Overrides) (env : Configuration.Environment) :
    Run σ (Registry κ) :=
  match Configuration.load overrides env with
  | .error violations => throw (.invalidConfiguration violations)
  | .ok c => create openStore out c

/-- The claim service of a registry, with the rest of its collaborators. -/
def service (r : Registry κ) (store : ClaimStore σ) (now : Run σ Number)
    (deposit : ClaimEvent → Run σ Unit) (count : Utf16 → Tags → Run σ Unit)
    (out : LogOutput σ) : ClaimService σ where
  store := store
  now := now
  deposit := deposit
  proofLimit := r.proofLimit
  count := count
  log := (r.logger.child "service").log out

end Registry

end ProofOfExistence
