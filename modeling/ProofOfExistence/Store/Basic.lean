import ProofOfExistence.Claim.Basic
import ProofOfExistence.Run

/-! # Claim stores

A claim store maps fingerprints to claims.  It checks nothing; it only keeps what is written.

What is written inside a transaction is taken back when the transaction ends with a fault, and the
fault goes on to whoever opened it.  Transactions nest: an inner one takes back its own writes only,
and those of an inner one that succeeded are still taken back when an outer one fails.

`ClaimStore σ` is the interface of a store on a state `σ`. -/

namespace ProofOfExistence

/-- The operations of a claim store on a state. -/
structure ClaimStore (σ : Type) where
  /-- The claim on a fingerprint. -/
  get : Fingerprint → Run σ (Option ClaimRecord)
  /-- Whether a fingerprint is claimed. -/
  contains : Fingerprint → Run σ Bool
  /-- Set the claim on a fingerprint. -/
  insert : Fingerprint → ClaimRecord → Run σ Unit
  /-- Remove the claim on a fingerprint, if there is one. -/
  remove : Fingerprint → Run σ Unit
  /-- Run a computation and take its writes back if it ends with a fault. -/
  transaction : {α : Type} → Run σ α → Run σ α

end ProofOfExistence
