import Mathlib.Data.List.Forall2
import ProofOfExistence.Proofs.DispatchOutcome

/-!
# Envelopes that differ in the fingerprint and the signature

Two envelopes are alike if they have the same members in the same order, with the same values but
for two of them.  The fingerprints of their calls may be any hexadecimal texts of bytes of one
length, and their signatures any texts that are not empty.

Reading does not tell such envelopes apart: both are read or neither is.  What is read differs in
the fingerprint and the signature only.

## Key results

- `Value.CallAlike.ofValue`, `Value.EnvelopeAlike.ofValue`: alike values are read as calls and
  envelopes that are alike, or not at all
- `Request.Alike.reading`: so are alike requests, whether they are data or text
-/

namespace ProofOfExistence

/-! ## Alike values -/

/-- Two hexadecimal texts of bytes of one length. -/
def Hex.SameLength (text text' : String) : Prop :=
  ∃ bytes bytes', decode? text = some bytes ∧ decode? text' = some bytes' ∧
    bytes'.length = bytes.length

namespace Value

/-- Members with the same names in the same order, whose values are related by a relation for their
name. -/
def MembersAlike (R : Utf16 → Value → Value → Prop) (ms ms' : List (Utf16 × Value)) : Prop :=
  List.Forall₂ (fun m m' => m'.1 = m.1 ∧ R m.1 m.2 m'.2) ms ms'

/-- The same value, or fingerprints of one length. -/
inductive ProofAlike : Value → Value → Prop where
  | same (v : Value) : ProofAlike v v
  | hex {text text' : String} (h : Hex.SameLength text text') :
    ProofAlike (.ofString text) (.ofString text')

/-- The same value, or texts that are not empty. -/
inductive SignatureAlike : Value → Value → Prop where
  | same (v : Value) : SignatureAlike v v
  | texts {t t' : Utf16} (h : t.units ≠ []) (h' : t'.units ≠ []) :
    SignatureAlike (.str t) (.str t')

/-- Members of a call may differ in the fingerprint. -/
def CallMember (name : Utf16) (v v' : Value) : Prop :=
  if name = Utf16.ofString "proof" then ProofAlike v v' else v = v'

/-- Two calls that differ in the fingerprint at most. -/
inductive CallAlike : Value → Value → Prop where
  | same (v : Value) : CallAlike v v
  | members {ms ms' : List (Utf16 × Value)} (h : MembersAlike CallMember ms ms') :
    CallAlike (.obj ms) (.obj ms')

/-- Members of an envelope may differ in the fingerprint of the call and in the signature. -/
def EnvelopeMember (name : Utf16) (v v' : Value) : Prop :=
  if name = Utf16.ofString "call" then CallAlike v v'
  else if name = Utf16.ofString "signature" then SignatureAlike v v'
  else v = v'

/-- Two envelopes that differ in the fingerprint of the call and in the signature at most. -/
inductive EnvelopeAlike : Value → Value → Prop where
  | same (v : Value) : EnvelopeAlike v v
  | members {ms ms' : List (Utf16 × Value)} (h : MembersAlike EnvelopeMember ms ms') :
    EnvelopeAlike (.obj ms) (.obj ms')

/-! ## Members -/

section Members

variable {R : Utf16 → Value → Value → Prop} {ms ms' : List (Utf16 × Value)}
  (h : MembersAlike R ms ms')
include h

/-- Members of one name are related, also if there is none. -/
theorem MembersAlike.member {name : String} (habsent : R (Utf16.ofString name) .absent .absent) :
    R (Utf16.ofString name) (Value.member name ms) (Value.member name ms') := by
  induction h with
  | nil => exact habsent
  | @cons m m' ms ms' hm _ ih =>
    obtain ⟨hname, hvalue⟩ := hm
    unfold Value.member at ih ⊢
    by_cases hfound : m.1 = Utf16.ofString name
    · simp only [List.find?_cons, hname, hfound, decide_true]
      exact hfound ▸ hvalue
    · simp only [List.find?_cons, hname, decide_eq_false hfound]
      exact ih

theorem MembersAlike.all_names (p : Utf16 → Bool) :
    (ms.all fun m => p m.1) = ms'.all fun m => p m.1 := by
  induction h with
  | nil => rfl
  | cons hm _ ih => rw [List.all_cons, List.all_cons, ih, hm.1]

/-- Which members are there is the same if related values are absent together. -/
theorem MembersAlike.checkMembers (hR : ∀ name, R name .absent .absent)
    (habsent : ∀ {name v v'}, R name v v' → v'.isAbsent = v.isAbsent) (path : String)
    (required allowed : List String) :
    Call.checkMembers path required allowed ms = Call.checkMembers path required allowed ms' := by
  have hmissing : (fun name => (Value.member name ms).isAbsent) =
      fun name => (Value.member name ms').isAbsent :=
    funext fun name => (habsent (h.member (hR (Utf16.ofString name)))).symm
  unfold Call.checkMembers
  rw [hmissing, h.all_names fun name => allowed.any fun text => name = Utf16.ofString text]

end Members

theorem CallMember.refl (name : Utf16) (v : Value) : CallMember name v v := by
  unfold CallMember
  split
  · exact .same v
  · rfl

theorem CallMember.isAbsent {name : Utf16} {v v' : Value} (h : CallMember name v v') :
    v'.isAbsent = v.isAbsent := by
  unfold CallMember at h
  split at h
  · cases h <;> rfl
  · rw [h]

theorem EnvelopeMember.refl (name : Utf16) (v : Value) : EnvelopeMember name v v := by
  unfold EnvelopeMember
  split
  · exact .same v
  · split
    · exact .same v
    · rfl

theorem EnvelopeMember.isAbsent {name : Utf16} {v v' : Value} (h : EnvelopeMember name v v') :
    v'.isAbsent = v.isAbsent := by
  unfold EnvelopeMember at h
  split at h
  · cases h <;> rfl
  · split at h
    · cases h <;> rfl
    · rw [h]

end Value

/-! ## Reading -/

/-- Two results that are values in a relation, or both errors. -/
inductive ReadAlike {ε α : Type} (R : α → α → Prop) : Except ε α → Except ε α → Prop where
  | ok {a a' : α} (h : R a a') : ReadAlike R (.ok a) (.ok a')
  | error (e e' : ε) : ReadAlike R (.error e) (.error e')

namespace ReadAlike

variable {ε ε' α β : Type} {R : α → α → Prop} {S : β → β → Prop} {x x' : Except ε α}

theorem refl (h : ∀ a, R a a) (x : Except ε α) : ReadAlike R x x := by
  cases x with
  | error e => exact .error e e
  | ok a => exact .ok (h a)

theorem bind {f f' : α → Except ε β} (h : ReadAlike R x x')
    (hf : ∀ a a', R a a' → ReadAlike S (f a) (f' a')) : ReadAlike S (x >>= f) (x' >>= f') := by
  cases h with
  | ok ha => exact hf _ _ ha
  | error e e' => exact .error e e'

/-- The same first part may be followed by alike second parts. -/
theorem bind_same {f f' : α → Except ε β} (x : Except ε α)
    (hf : ∀ a, ReadAlike S (f a) (f' a)) : ReadAlike S (x >>= f) (x >>= f') := by
  cases x with
  | error e => exact .error e e
  | ok a => exact hf a

theorem mapError (f : ε → ε') (h : ReadAlike R x x') :
    ReadAlike R (x.mapError f) (x'.mapError f) := by
  cases h with
  | ok ha => exact .ok ha
  | error e e' => exact .error _ _

end ReadAlike

/-- Two calls that differ in the fingerprint only, which has the same length. -/
structure Call.Alike (c c' : Call) : Prop where
  action : c'.action = c.action
  nonce : c'.nonce = c.nonce
  proof : Hex.SameLength c.proof c'.proof

/-- Two envelopes of alike calls with the same signer, if any. -/
structure Envelope.Alike (e e' : Envelope) : Prop where
  call : e.call.Alike e'.call
  signer : e'.signer = e.signer

namespace Value

/-- A fingerprint that is read has a length. -/
private theorem ProofAlike.readProof {v v' : Value} (h : ProofAlike v v') (path : String) :
    ReadAlike Hex.SameLength (Call.readProof path v) (Call.readProof path v') := by
  cases h with
  | same v =>
    -- A text that is read spells bytes, so it is as long as itself.
    cases hread : Call.readProof path v with
    | error violation => exact .error _ _
    | ok text =>
      obtain ⟨-, hhex⟩ := Call.of_readProof hread
      rw [← Hex.isSome_decode?] at hhex
      obtain ⟨bytes, hbytes⟩ := Option.isSome_iff_exists.1 hhex
      exact .ok ⟨bytes, bytes, hbytes, hbytes, rfl⟩
  | @hex text text' h =>
    -- Both texts are read, since they spell bytes.
    have hhex {text : String} {bytes : Bytes} (hbytes : Hex.decode? text = some bytes) :
        Hex.isHex text = true := by
      rw [← Hex.isSome_decode?, hbytes, Option.isSome_some]
    obtain ⟨bytes, bytes', hbytes, hbytes', -⟩ := id h
    rw [Call.readProof_ofString (hhex hbytes), Call.readProof_ofString (hhex hbytes')]
    exact .ok h

/-- Alike values are read as alike calls of a method, or not at all. -/
private theorem CallAlike.ofValueAs {v v' : Value} (h : CallAlike v v') (method : ClaimCall) :
    ReadAlike Call.Alike (Call.ofValueAs method v) (Call.ofValueAs method v') := by
  have hmembers {ms ms' : List (Utf16 × Value)} (hms : MembersAlike CallMember ms ms') :
      ReadAlike Call.Alike (Call.ofValueAs method (.obj ms))
        (Call.ofValueAs method (.obj ms')) := by
    -- Only the fingerprint is treated apart, all other members are the same.
    have hsame (name : String) (hname : Utf16.ofString name ≠ Utf16.ofString "proof") :
        Value.member name ms = Value.member name ms' := by
      have hmember := hms.member (CallMember.refl (Utf16.ofString name) .absent)
      rwa [CallMember, if_neg hname] at hmember
    have hproof : ProofAlike (Value.member "proof" ms) (Value.member "proof" ms') := by
      have hmember := hms.member (CallMember.refl (Utf16.ofString "proof") .absent)
      rwa [CallMember, if_pos rfl] at hmember
    have haction : Call.readAction ms method = Call.readAction ms' method := by
      cases method with
      -- The receiver is a member of its own, and only this method reads it.
      | transfer => rw [Call.readAction, Call.readAction, hsame "dest" (by decide)]
      | _ => rfl
    simp only [Call.ofValueAs]
    rw [hms.checkMembers (CallMember.refl · .absent) CallMember.isAbsent,
      hsame "method" (by decide), hsame "nonce" (by decide), haction]
    refine ReadAlike.bind_same _ fun _ => ReadAlike.bind_same _ fun _ => ?_
    refine (hproof.readProof _).bind fun proof proof' hlength => ?_
    refine ReadAlike.bind_same _ fun nonce => ReadAlike.bind_same _ fun action => ?_
    exact .ok ⟨rfl, rfl, hlength⟩
  cases h with
  | members hms => exact hmembers hms
  | same v =>
    cases v with
    -- An object is alike to itself, member by member.
    | obj ms => exact hmembers (List.forall₂_same.2 fun m _ => ⟨rfl, .refl m.1 m.2⟩)
    | _ => exact .error _ _

/-- Alike values are read as alike calls, or not at all. -/
theorem CallAlike.ofValue {v v' : Value} (h : CallAlike v v') :
    ReadAlike Call.Alike (Call.ofValue v) (Call.ofValue v') := by
  have hcreate := h.ofValueAs .create
  have hrevoke := h.ofValueAs .revoke
  have htransfer := h.ofValueAs .transfer
  unfold Call.ofValue
  generalize Call.ofValueAs .create v = x, Call.ofValueAs .create v' = x' at hcreate ⊢
  generalize Call.ofValueAs .revoke v = y, Call.ofValueAs .revoke v' = y' at hrevoke ⊢
  generalize Call.ofValueAs .transfer v = z, Call.ofValueAs .transfer v' = z' at htransfer ⊢
  -- The methods are tried in turn, with the same success for both values.
  cases hcreate with
  | ok hc => exact .ok hc
  | error =>
    cases hrevoke with
    | ok hc => exact .ok hc
    | error =>
      cases htransfer with
      | ok hc => exact .ok hc
      | error => exact .error _ _

/-- Alike signatures are both credentials of the signer, or not. -/
private theorem readCredentials_alike {ms ms' : List (Utf16 × Value)}
    (hsigner : Value.member "signer" ms = Value.member "signer" ms')
    (hsignature : SignatureAlike (Value.member "signature" ms) (Value.member "signature" ms')) :
    ReadAlike (fun c c' : Option Credentials =>
        c'.map Credentials.signer = c.map Credentials.signer)
      (Envelope.readCredentials ms) (Envelope.readCredentials ms') := by
  unfold Envelope.readCredentials
  rw [hsigner]
  generalize Value.member "signer" ms' = signer
  generalize Value.member "signature" ms = signature, Value.member "signature" ms' = signature'
    at hsignature
  cases hsignature with
  | same =>
    -- The same value is read in the same way.
    apply ReadAlike.refl
    exact fun _ => rfl
  | @texts t t' ht ht' =>
    -- Two texts are both taken for a signature, if they are not empty.
    have hread {t : Utf16} (ht : t.units ≠ []) :
        Call.readNonEmpty "/signature" (.str t) = .ok t.toString := by
      rw [Call.readNonEmpty, if_neg (by simpa using ht)]
    cases signer with
    | absent => exact .ok rfl
    | _ =>
      simp only [hread ht, hread ht']
      exact ReadAlike.bind_same _ fun who => .ok rfl

/-- Alike values are read as alike envelopes, or not at all. -/
theorem EnvelopeAlike.ofValue {v v' : Value} (h : EnvelopeAlike v v') :
    ReadAlike Envelope.Alike (Envelope.ofValue v) (Envelope.ofValue v') := by
  have hmembers {ms ms' : List (Utf16 × Value)} (hms : MembersAlike EnvelopeMember ms ms') :
      ReadAlike Envelope.Alike (Envelope.ofValue (.obj ms)) (Envelope.ofValue (.obj ms')) := by
    -- The call and the signature have relations of their own, any other member is the same.
    have hmember (name : String) := hms.member (EnvelopeMember.refl (Utf16.ofString name) .absent)
    have hcall : CallAlike (Value.member "call" ms) (Value.member "call" ms') := by
      have hcall := hmember "call"
      rwa [EnvelopeMember, if_pos rfl] at hcall
    have hsignature : SignatureAlike (Value.member "signature" ms)
        (Value.member "signature" ms') := by
      have hsignature := hmember "signature"
      rwa [EnvelopeMember, if_neg (by decide), if_pos rfl] at hsignature
    have hsigner : Value.member "signer" ms = Value.member "signer" ms' := by
      have hsigner := hmember "signer"
      rwa [EnvelopeMember, if_neg (by decide), if_neg (by decide)] at hsigner
    have hcheck : Envelope.checkMembers ms = Envelope.checkMembers ms' := by
      have habsent (name : String) := (hmember name).isAbsent
      unfold Envelope.checkMembers Envelope.checkDependency
      rw [hms.checkMembers (EnvelopeMember.refl · .absent) EnvelopeMember.isAbsent,
        habsent "signer", habsent "signature"]
    simp only [Envelope.ofValue]
    rw [hcheck]
    refine ReadAlike.bind_same _ fun _ => ?_
    refine hcall.ofValue.bind fun call call' hcall => ?_
    refine ((readCredentials_alike hsigner hsignature).mapError _).bind fun c c' hc => ?_
    exact .ok ⟨hcall, hc⟩
  cases h with
  | members hms => exact hmembers hms
  | same v =>
    cases v with
    -- An object is alike to itself, member by member.
    | obj ms => exact hmembers (List.forall₂_same.2 fun m _ => ⟨rfl, .refl m.1 m.2⟩)
    | _ => exact .error _ _

end Value

/-! ## Writing -/

/-- Alike calls are written as alike values. -/
theorem Call.Alike.toJson {c c' : Call} (h : c.Alike c') :
    Value.CallAlike c.toJson c'.toJson := by
  obtain ⟨action, proof, nonce⟩ := c
  obtain ⟨action', proof', nonce'⟩ := c'
  obtain ⟨rfl, rfl, hproof⟩ := h
  have halike : Value.CallMember (Utf16.ofString "proof") (.ofString proof) (.ofString proof') := by
    rw [Value.CallMember, if_pos rfl]
    exact .hex hproof
  refine .members (.cons ⟨rfl, .refl _ _⟩ (.cons ⟨rfl, halike⟩ (.cons ⟨rfl, .refl _ _⟩ ?_)))
  exact List.forall₂_same.2 fun m _ => ⟨rfl, .refl m.1 m.2⟩

/-- Alike envelopes are written as alike values, if their signatures are not empty. -/
theorem Envelope.Alike.toJson {e e' : Envelope} (h : e.Alike e')
    (hsigned : ∀ k, e.credentials = some k → (Utf16.ofString k.signature).units ≠ [])
    (hsigned' : ∀ k, e'.credentials = some k → (Utf16.ofString k.signature).units ≠ []) :
    Value.EnvelopeAlike e.toJson e'.toJson := by
  obtain ⟨call, credentials⟩ := e
  obtain ⟨call', credentials'⟩ := e'
  obtain ⟨hcall, hsigner⟩ := h
  have hmember : Value.EnvelopeMember (Utf16.ofString "call") call.toJson call'.toJson := by
    rw [Value.EnvelopeMember, if_pos rfl]
    exact hcall.toJson
  refine .members (.cons ⟨rfl, hmember⟩ ?_)
  cases credentials with
  | none =>
    -- Nobody signs either of them.
    obtain rfl : credentials' = none := Option.map_eq_none_iff.1 hsigner
    exact .nil
  | some k =>
    obtain ⟨k', rfl, hwho⟩ := Option.map_eq_some_iff.1 hsigner
    -- Both have a signer, who is the same, and a signature each.
    have hsignature : Value.EnvelopeMember (Utf16.ofString "signature") (.ofString k.signature)
        (.ofString k'.signature) := by
      rw [Value.EnvelopeMember, if_neg (by decide), if_pos rfl]
      exact .texts (hsigned k rfl) (hsigned' k' rfl)
    have hname : Value.EnvelopeMember (Utf16.ofString "signer") (.ofString k.signer)
        (.ofString k'.signer) := by
      rw [Value.EnvelopeMember, if_neg (by decide), if_neg (by decide), hwho]
    exact .cons ⟨rfl, hname⟩ (.cons ⟨rfl, hsignature⟩ .nil)

/-! ## Requests -/

namespace Request

/-- The data that a request carries, if it is data or a JSON text. -/
def contents? : Request → Option Value
  | data v => some v
  | text t => Value.parse t

/-- Two requests that carry alike envelopes, or texts that are not JSON. -/
def Alike (r r' : Request) : Prop :=
  (r.contents? = none ∧ r'.contents? = none) ∨
    ∃ v v', r.contents? = some v ∧ r'.contents? = some v' ∧ Value.EnvelopeAlike v v'

theorem reading_eq (r : Request) :
    r.reading =
      match r.contents? with
      | none => .error .notJson
      | some v => (Envelope.ofValue v).mapError .schema := by
  cases r with
  | data v => rfl
  | text t =>
    cases hparse : Value.parse t <;> simp only [reading, contents?, hparse]

/-- Alike requests are read as alike envelopes, or not at all. -/
theorem Alike.reading {r r' : Request} (h : r.Alike r') :
    ReadAlike Envelope.Alike r.reading r'.reading := by
  rw [reading_eq, reading_eq]
  rcases h with ⟨hnone, hnone'⟩ | ⟨v, v', hv, hv', halike⟩
  · rw [hnone, hnone']
    exact .error _ _
  · rw [hv, hv']
    exact halike.ofValue.mapError _

end Request

end ProofOfExistence
