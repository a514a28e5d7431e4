import ProofOfExistence.Claim.StorageKey
import ProofOfExistence.Number.Decimal

/-! # Claims

A claim says who owns a fingerprint and since when.  Calls come from an origin; only a signed one
has a caller.  A call that is refused gets a `ClaimError`, one that is carried out is announced by a
`ClaimEvent`. -/

namespace ProofOfExistence

/-- The handle of a caller or owner. -/
abbrev Identity := String

/-- What is stored for a claimed fingerprint. -/
structure ClaimRecord where
  /-- Who owns the claim. -/
  owner : Identity
  /-- The logical time of the call that last wrote the claim. -/
  registeredAt : Number
deriving DecidableEq, Inhabited

/-- Where a call comes from. -/
inductive Origin where
  /-- A caller who has proved their identity. -/
  | signed (who : Identity)
  /-- The system itself. -/
  | root
  /-- Nobody in particular. -/
  | none
deriving DecidableEq

/-- The three calls on claims. -/
inductive ClaimCall where
  | create
  | revoke
  | transfer
deriving DecidableEq

/-- The name of a call on the wire and in records. -/
def ClaimCall.name : ClaimCall → String
  | create => "create_claim"
  | revoke => "revoke_claim"
  | transfer => "transfer_claim"

/-- What can happen to a claim. -/
inductive EventKind where
  /-- An unclaimed fingerprint was claimed. -/
  | created
  /-- The owner gave up a claim. -/
  | revoked
  /-- The owner handed a claim to someone else. -/
  | transferred
deriving DecidableEq

/-- The name of a kind of event. -/
def EventKind.name : EventKind → String
  | created => "ClaimCreated"
  | revoked => "ClaimRevoked"
  | transferred => "ClaimTransferred"

/-- What happened to a claim. -/
structure ClaimEvent where
  kind : EventKind
  /-- The party that made the call. -/
  who : Identity
  /-- The fingerprint concerned. -/
  proof : Fingerprint
  /-- The receiver, if the claim was handed on. -/
  dest : Option Identity
deriving DecidableEq

namespace ClaimEvent

/-- The event of a claim that `who` made. -/
def created (who : Identity) (proof : Fingerprint) : ClaimEvent := ⟨.created, who, proof, none⟩

/-- The event of a claim that `who` gave up. -/
def revoked (who : Identity) (proof : Fingerprint) : ClaimEvent := ⟨.revoked, who, proof, none⟩

/-- The event of a claim that `who` handed to `dest`. -/
def transferred (who : Identity) (proof : Fingerprint) (dest : Identity) : ClaimEvent :=
  ⟨.transferred, who, proof, some dest⟩

end ClaimEvent

/-- Why a call was refused. -/
inductive ClaimError where
  /-- The origin is not signed. -/
  | badOrigin
  /-- The fingerprint is longer than the registry admits. -/
  | proofTooLong (length limit : Number)
  /-- The fingerprint to claim is claimed. -/
  | proofAlreadyExists
  /-- The fingerprint to revoke or transfer is not claimed. -/
  | claimNotExist
  /-- The claim belongs to someone else. -/
  | notProofOwner
deriving DecidableEq

namespace ClaimError

/-- The name of the kind of an error. -/
def kind : ClaimError → String
  | badOrigin => "BadOrigin"
  | proofTooLong .. => "ProofTooLong"
  | proofAlreadyExists => "ProofAlreadyExists"
  | claimNotExist => "ClaimNotExist"
  | notProofOwner => "NotProofOwner"

/-- The error in words. -/
def description : ClaimError → String
  | badOrigin => "Call must be signed by the caller"
  | proofTooLong length limit => s!"Proof is {length} bytes, limit is {limit}"
  | proofAlreadyExists => "Proof has already been claimed"
  | claimNotExist => "Proof has not been claimed"
  | notProofOwner => "Proof is claimed by another account"

end ClaimError

/-- The caller of a signed origin; any other origin is a bad one. -/
def Origin.caller : Origin → Except ClaimError Identity
  | signed who => .ok who
  | root => .error .badOrigin
  | none => .error .badOrigin

end ProofOfExistence
