import ProofOfExistence.Claim.Basic
import ProofOfExistence.Identity.Signing
import ProofOfExistence.Violation

/-! # Call envelopes

A call travels in an envelope, with or without the credentials of a signer.  The call names its
method, its fingerprint in hexadecimal and a nonce, and a transfer also names the receiver.

`Envelope.ofValue` reads an envelope from loosely typed data or says which rules of the schema the
data breaks.  Checks stop at the first broken rule; only a call, which is tried against the schema
of each method, reports the first broken rule of each. -/

namespace ProofOfExistence

/-- What a call asks for. -/
inductive CallAction where
  /-- Claim the fingerprint. -/
  | create
  /-- Give up the claim. -/
  | revoke
  /-- Hand the claim to someone else. -/
  | transfer (dest : Identity)
deriving DecidableEq

/-- The call that an action makes. -/
def CallAction.method : CallAction → ClaimCall
  | create => .create
  | revoke => .revoke
  | transfer _ => .transfer

/-- The receiver that an action names, if it is a transfer. -/
def CallAction.dest? : CallAction → Option Identity
  | transfer dest => some dest
  | _ => none

/-- A call on a claim as it travels. -/
structure Call where
  /-- What it asks for. -/
  action : CallAction
  /-- The fingerprint in hexadecimal. -/
  proof : String
  /-- The number that a signer must raise with every call. -/
  nonce : Nat
deriving DecidableEq

/-- A key id and a signature. -/
structure Credentials where
  signer : String
  signature : String
deriving DecidableEq

/-- A call with the credentials of its signer, if it is signed. -/
structure Envelope where
  call : Call
  credentials : Option Credentials
deriving DecidableEq

namespace Call

/-- Which of the three calls it is. -/
def method (c : Call) : ClaimCall := c.action.method

/-- A call as loosely typed data; its canonical text is what gets signed. -/
def toValue (c : Call) : Value :=
  .object
    [("method", .ofString c.method.name), ("proof", .ofString c.proof),
      ("nonce", .num (.ofNat c.nonce)), ("dest", .ofString? c.action.dest?)]

/-- Whether a signature of a call verifies under a key id. -/
def verifySignature (signer : String) (c : Call) (signature : String) : Except Fault Bool :=
  Signing.verify signer c.toValue signature

/-- The pattern of a fingerprint, in words of a schema. -/
def proofPattern : String := "^(0x)?([0-9a-fA-F]\x7b2\x7d)*$"

/-- The members that a call of some method must have, and the only ones it may have. -/
def memberNames : ClaimCall → List String
  | .transfer => ["method", "proof", "nonce", "dest"]
  | _ => ["method", "proof", "nonce"]

/-- Fail with a broken rule at a place. -/
def violated {α : Type} (path : String) (rule : SchemaRule) : Except Violation α :=
  .error ⟨path, rule⟩

/-- Read a text that must not be empty. -/
def readNonEmpty (path : String) : Value → Except Violation String
  | .str s => if s.units.isEmpty then violated path .nonEmpty else .ok s.toString
  | _ => violated path (.type "string")

/-- Read the fingerprint of a call. -/
def readProof (path : String) : Value → Except Violation String
  | .str s =>
    if Hex.isHex s.toString then .ok s.toString else violated path (.pattern proofPattern)
  | _ => violated path (.type "string")

/-- Read the nonce of a call: a whole number from zero to the greatest safe integer.  An infinite
number breaks a bound. -/
def readNonce (path : String) : Value → Except Violation Nat
  | .num (.infinity true) => violated path (.minimum 0)
  | .num (.infinity false) => violated path (.maximum maxSafeInteger)
  | .num x =>
    match x.toInt? with
    | none => violated path (.type "integer")
    | some n =>
      if n > maxSafeInteger then violated path (.maximum maxSafeInteger)
      else if n < 0 then violated path (.minimum 0)
      else .ok n.toNat
  | _ => violated path (.type "integer")

/-- Check that an object has the required members and none but the allowed ones. -/
def checkMembers (path : String) (required allowed : List String)
    (members : List (Utf16 × Value)) : Except Violation Unit :=
  match required.find? fun name => (Value.member name members).isAbsent with
  | some name => violated path (.required name)
  | none =>
    if members.all fun m => allowed.any fun name => m.1 = Utf16.ofString name then .ok ()
    else violated path .additional

/-- Check that a call names a method. -/
def checkMethod (method : ClaimCall) : Value → Except Violation Unit
  | .str name =>
    if name = Utf16.ofString method.name then .ok () else violated "/call/method" .constant
  | _ => violated "/call/method" .constant

/-- Read what a call of one method asks for. -/
def readAction (members : List (Utf16 × Value)) : ClaimCall → Except Violation CallAction
  | .create => .ok .create
  | .revoke => .ok .revoke
  | .transfer => do return .transfer (← readNonEmpty "/call/dest" (Value.member "dest" members))

/-- Read a call of one method. -/
def ofValueAs (method : ClaimCall) : Value → Except Violation Call
  | .obj members => do
    checkMembers "/call" (memberNames method) (memberNames method) members
    checkMethod method (Value.member "method" members)
    let proof ← readProof "/call/proof" (Value.member "proof" members)
    let nonce ← readNonce "/call/nonce" (Value.member "nonce" members)
    let action ← readAction members method
    return ⟨action, proof, nonce⟩
  | _ => violated "/call" (.type "object")

/-- Read a call of any method. -/
def ofValue (v : Value) : Except (List Violation) Call :=
  match ofValueAs .create v with
  | .ok c => .ok c
  | .error e₁ =>
    match ofValueAs .revoke v with
    | .ok c => .ok c
    | .error e₂ =>
      match ofValueAs .transfer v with
      | .ok c => .ok c
      | .error e₃ => .error [e₁, e₂, e₃, ⟨"/call", .oneOf⟩]

end Call

namespace Envelope

/-- The signer that an envelope names. -/
def signer (e : Envelope) : Option String := e.credentials.map Credentials.signer

/-- Check that a member is present when another one is. -/
def checkDependency (present needed : String) (members : List (Utf16 × Value)) :
    Except Violation Unit :=
  if !(Value.member present members).isAbsent && (Value.member needed members).isAbsent then
    Call.violated "" (.dependency needed present)
  else .ok ()

/-- Check the names of the members of an envelope. -/
def checkMembers (members : List (Utf16 × Value)) : Except Violation Unit := do
  Call.checkMembers "" ["call"] ["call", "signer", "signature"] members
  checkDependency "signer" "signature" members
  checkDependency "signature" "signer" members

/-- Read the credentials, whose members are both there or both missing. -/
def readCredentials (members : List (Utf16 × Value)) :
    Except Violation (Option Credentials) :=
  match Value.member "signer" members, Value.member "signature" members with
  | .absent, _ => .ok none
  | _, .absent => .ok none
  | signer, signature => do
    let signer ← Call.readNonEmpty "/signer" signer
    let signature ← Call.readNonEmpty "/signature" signature
    return some ⟨signer, signature⟩

/-- Read an envelope. -/
def ofValue : Value → Except (List Violation) Envelope
  | .obj members => do
    (checkMembers members).mapError List.singleton
    let call ← Call.ofValue (Value.member "call" members)
    let credentials ← (readCredentials members).mapError List.singleton
    return ⟨call, credentials⟩
  | _ => .error [⟨"", .type "object"⟩]

/-- The envelope of a call signed by a keypair, as loosely typed data. -/
def signed (k : Keypair) (call : Value) : Except Fault Value := do
  let signature ← Signing.sign k.privateKey call
  return .object
    [("call", call), ("signer", .ofString k.principal.id), ("signature", .ofString signature)]

end Envelope

end ProofOfExistence
