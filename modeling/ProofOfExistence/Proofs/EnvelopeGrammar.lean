import Mathlib.Algebra.Group.Nat.Defs
import ProofOfExistence.Proofs.HonestEnvelopes
import ProofOfExistence.Proofs.UsableNonces

/-!
# The grammar of envelopes

`Value.IsEnvelope` says which JSON values are envelopes, member by member, without a look at how
they are read.  The dispatcher answers that a call is malformed exactly for the other JSON values,
and for the texts that spell one of them or none.

What follows the checks cannot fail on an envelope: its fingerprint can be decoded and its call has
a canonical text.

## Key results

- `Value.isData_of_parse`: what a JSON text spells is a JSON value
- `Call.isCall_iff`: a JSON value is a call when it is read as one that names canonical ids only
- `Envelope.isEnvelope_iff`: the same of envelopes
- `dispatchText_tellsMalformed`, `malformed_iff_not_envelope`: the texts and the values that the
  dispatcher calls malformed
-/

namespace ProofOfExistence

namespace Value

/-! ## JSON values -/

/-- A value as JSON text spells it: nothing in it is absent and no two members of an object have one
name. -/
inductive IsData : Value → Prop
  | null : IsData .null
  | bool (b : Bool) : IsData (.bool b)
  | num (x : Number) : IsData (.num x)
  | str (s : Utf16) : IsData (.str s)
  | arr {items : List Value} (h : ∀ v ∈ items, IsData v) : IsData (.arr items)
  | obj {members : List (Utf16 × Value)} (hnames : (members.map Prod.fst).Nodup)
      (h : ∀ m ∈ members, IsData m.2) : IsData (.obj members)

theorem IsData.isAbsent {v : Value} (h : IsData v) : v.isAbsent = false := by
  cases h <;> rfl

/-- A member takes the place of one of its name, so that names stay distinct. -/
private theorem IsData.putEntry {members : List (Utf16 × Value)} (h : IsData (.obj members))
    (name : Utf16) {v : Value} (hv : IsData v) :
    IsData (.obj (Table.putEntry name v members)) := by
  cases h with
  | obj hnames hvalues =>
    refine .obj (Table.nodup_putEntry hnames) ?_
    clear hnames
    induction members with
    | nil => exact List.forall_mem_singleton.2 hv
    | cons m rest ih =>
      obtain ⟨hm, hrest⟩ := List.forall_mem_cons.1 hvalues
      unfold Table.putEntry
      split
      · exact List.forall_mem_cons.2 ⟨hv, hrest⟩
      · exact List.forall_mem_cons.2 ⟨hm, ih hrest⟩

private theorem isData_mergeMembers {members : List (Utf16 × Value)}
    (h : ∀ m ∈ members, IsData m.2) : IsData (.obj (mergeMembers members)) := by
  have hgo (kept : List (Utf16 × Value)) (hkept : IsData (.obj kept)) :
      IsData (.obj (members.foldl (fun acc m => Table.putEntry m.1 m.2 acc) kept)) := by
    induction members generalizing kept with
    | nil => exact hkept
    | cons m rest ih =>
      obtain ⟨hm, hrest⟩ := List.forall_mem_cons.1 h
      exact ih hrest _ (hkept.putEntry m.1 hm)
  exact hgo [] (.obj List.nodup_nil (List.forall_mem_nil _))

/-- What the readers make of a text, with a bound on its depth. -/
private structure ReadsData (bound : Nat) : Prop where
  value : ∀ {cs v rest}, readValue bound cs = some (v, rest) → IsData v
  items : ∀ {cs vs rest}, readItems bound cs = some (vs, rest) → ∀ v ∈ vs, IsData v
  members : ∀ {cs ms rest}, readMembers bound cs = some (ms, rest) → ∀ m ∈ ms, IsData m.2

private theorem readsData (bound : Nat) : ReadsData bound := by
  -- A reader hands what is nested to the readers with a smaller bound.
  induction bound with
  | zero =>
    refine ⟨fun h => ?_, fun h => ?_, fun h => ?_⟩
    · -- Without room nothing is read.
      simp [readValue] at h
    · simp [readItems] at h
    · simp [readMembers] at h
  | succ bound ih =>
    refine ⟨fun {cs v rest} h => ?_, fun {cs vs rest} h => ?_, fun {cs ms rest} h => ?_⟩
    · -- A value is read by its first character.
      unfold readValue at h
      split at h
      · -- There is no character to read.
        cases h
      · -- The literals `null`, `true` and `false`.
        cases h
        exact .null
      · cases h
        exact .bool true
      · cases h
        exact .bool false
      · -- A text.
        obtain ⟨r, -, hr⟩ := Option.map_eq_some_iff.1 h
        cases hr
        exact .str _
      · -- An array, which may be empty.
        rename_i hbound
        cases hbound
        split at h
        · cases h
          exact .arr (List.forall_mem_nil _)
        · obtain ⟨r, hread, hr⟩ := Option.map_eq_some_iff.1 h
          cases hr
          exact .arr (ih.items hread)
      · -- An object, which may be empty; of members with one name the last one counts.
        rename_i hbound
        cases hbound
        split at h
        · cases h
          exact .obj List.nodup_nil (List.forall_mem_nil _)
        · obtain ⟨r, hread, hr⟩ := Option.map_eq_some_iff.1 h
          cases hr
          exact isData_mergeMembers (ih.members hread)
      · -- Anything else has to be a number.
        obtain ⟨r, -, hr⟩ := Option.map_eq_some_iff.1 h
        cases hr
        exact .num _
    · -- The items of an array: one, and more after a comma.
      unfold readItems at h
      obtain ⟨⟨v, cs'⟩, hfirst, h⟩ := Option.bind_eq_some_iff.1 h
      dsimp only at h
      split at h
      · -- The array ends.
        cases h
        exact List.forall_mem_singleton.2 (ih.value hfirst)
      · -- A comma, and more items.
        obtain ⟨⟨vs', rest'⟩, hmore, h⟩ := Option.bind_eq_some_iff.1 h
        cases h
        exact List.forall_mem_cons.2 ⟨ih.value hfirst, ih.items hmore⟩
      · cases h
    · -- The members of an object: a name, a colon, a value, and more after a comma.
      unfold readMembers at h
      split at h
      · -- There is no name.
        cases h
      · rename_i hbound
        cases hbound
        obtain ⟨⟨name, cs'⟩, -, h⟩ := Option.bind_eq_some_iff.1 h
        dsimp only at h
        split at h
        · -- The value after the colon.
          obtain ⟨⟨v, cs''⟩, hfirst, h⟩ := Option.bind_eq_some_iff.1 h
          dsimp only at h
          -- A closing brace.
          split at h
          · cases h
            exact List.forall_mem_singleton.2 (ih.value hfirst)
          · -- A comma, and more members.
            obtain ⟨⟨ms', rest'⟩, hmore, h⟩ := Option.bind_eq_some_iff.1 h
            cases h
            exact List.forall_mem_cons.2 ⟨ih.value hfirst, ih.members hmore⟩
          · cases h
        · -- There is no colon.
          cases h
      · cases h

/-- What a JSON text spells is a JSON value. -/
theorem isData_of_parse {text : String} {v : Value} (h : parse text = some v) : IsData v := by
  unfold parse parseChars at h
  obtain ⟨⟨v', rest⟩, hread, h⟩ := Option.bind_eq_some_iff.1 h
  dsimp only at h
  split at h
  · cases h
    exact (readsData _).value hread
  · cases h

/-- The members of a JSON object that are not absent are those that it names. -/
theorem IsData.isAbsent_member {ms : List (Utf16 × Value)} (h : IsData (.obj ms)) (name : String) :
    (member name ms).isAbsent = false ↔ Utf16.ofString name ∈ ms.map Prod.fst := by
  cases h with
  | obj hnames hvalues =>
    constructor
    · intro hpresent
      by_contra hmissing
      rw [member_of_notMem hmissing] at hpresent
      cases hpresent
    · intro hname
      obtain ⟨m, hm, hm'⟩ := List.mem_map.1 hname
      have hmem : (Utf16.ofString name, m.2) ∈ ms := hm' ▸ hm
      rw [member_of_mem hnames hmem]
      exact (hvalues m hm).isAbsent

/-- Whatever a JSON object holds under a name is a JSON value. -/
theorem IsData.member {ms : List (Utf16 × Value)} (h : IsData (.obj ms)) {name : String}
    (hname : Utf16.ofString name ∈ ms.map Prod.fst) : IsData (member name ms) := by
  cases h with
  | obj hnames hvalues =>
    obtain ⟨m, hm, hm'⟩ := List.mem_map.1 hname
    have hmem : (Utf16.ofString name, m.2) ∈ ms := hm' ▸ hm
    rw [member_of_mem hnames hmem]
    exact hvalues m hm

/-! ## The grammar -/

/-- An object with members of just these names, each of which holds what is asked of it. -/
def HasExactly (fields : List (String × (Value → Prop))) : Value → Prop
  | obj ms =>
    (∀ text, text ∈ ms.map Prod.fst ↔ ∃ f ∈ fields, text = Utf16.ofString f.1) ∧
      ∀ f ∈ fields, f.2 (member f.1 ms)
  | _ => False

/-- The text of a fingerprint: hexadecimal digits, two for each byte, with or without `0x` in
front. -/
def IsFingerprint (v : Value) : Prop :=
  ∃ digits : List Char, digits.length % 2 = 0 ∧
    (∀ c ∈ digits, '0' ≤ c ∧ c ≤ '9' ∨ 'a' ≤ c ∧ c ≤ 'f' ∨ 'A' ≤ c ∧ c ≤ 'F') ∧
    (v = .ofString (String.ofList digits) ∨ v = .ofString (String.ofList ('0' :: 'x' :: digits)))

/-- A whole number from zero to `2 ^ 53 - 1`. -/
def IsNonce (v : Value) : Prop := ∃ n : Nat, n < 2 ^ 53 ∧ v = .num (.finite n)

/-- The id of a key, as writing its 32 bytes in base64 gives it. -/
def IsKeyId (v : Value) : Prop :=
  ∃ key : Bytes, key.length = 32 ∧ v = .ofString (Base64Url.encode key)

/-- A text with at least one code unit. -/
def IsNonEmptyText (v : Value) : Prop := ∃ text : Utf16, text.units ≠ [] ∧ v = .str text

/-- A call: it creates or revokes a claim, or transfers one to a key. -/
def IsCall (v : Value) : Prop :=
  (∃ method ∈ ["create_claim", "revoke_claim"],
    v.HasExactly
      [("method", (· = .ofString method)), ("proof", IsFingerprint), ("nonce", IsNonce)]) ∨
  v.HasExactly
    [("method", (· = .ofString "transfer_claim")), ("proof", IsFingerprint), ("nonce", IsNonce),
      ("dest", IsKeyId)]

/-- An envelope: a call, alone or with a signer and a signature. -/
def IsEnvelope (v : Value) : Prop :=
  v.HasExactly [("call", IsCall)] ∨
  v.HasExactly [("call", IsCall), ("signer", IsKeyId), ("signature", IsNonEmptyText)]

theorem isFingerprint_iff {v : Value} :
    v.IsFingerprint ↔ ∃ proof, v = .ofString proof ∧ Hex.isHex proof = true := by
  simp only [IsFingerprint, Hex.isHex_iff, isHexDigit_iff]
  constructor
  · rintro ⟨digits, heven, hdigits, rfl | rfl⟩
    · exact ⟨_, rfl, digits, heven, hdigits, .inl String.toList_ofList⟩
    · exact ⟨_, rfl, digits, heven, hdigits, .inr String.toList_ofList⟩
  · rintro ⟨proof, rfl, digits, heven, hdigits, htext⟩
    refine ⟨digits, heven, hdigits, ?_⟩
    rw [← String.ofList_toList (s := proof)]
    exact htext.imp (fun h => by rw [h]) fun h => by rw [h]

theorem isNonce_iff {v : Value} : v.IsNonce ↔ ∃ n ≤ maxSafeInteger, v = .num (.ofNat n) := by
  have hlt (n : Nat) : n < 2 ^ 53 ↔ n ≤ maxSafeInteger := by
    rw [maxSafeInteger]
    omega
  simp only [IsNonce, hlt]
  refine exists_congr fun n => and_congr_right fun hn => ?_
  rw [Number.ofNat_of_le (Nat.le_succ_of_le hn)]

theorem isKeyId_iff {v : Value} :
    v.IsKeyId ↔ ∃ id, v = .ofString id ∧ KeyId.isCanonical id = true := by
  constructor
  · rintro ⟨key, hlength, rfl⟩
    exact ⟨_, rfl, KeyId.isCanonical_encode hlength⟩
  · rintro ⟨id, rfl, hid⟩
    obtain ⟨key, ⟨hlength, rfl⟩, -⟩ := KeyId.existsUnique_key hid
    exact ⟨key, hlength, rfl⟩

end Value

open Value

/-! ## Reading follows the grammar -/

/-- What holds of all that the members may hold holds of what they hold. -/
theorem Value.HasExactly.isJson {v : Value} {fields : List (String × (Value → Prop))}
    (h : v.HasExactly fields) (hv : v.IsData) (hfields : ∀ f ∈ fields, ∀ u, f.2 u → IsJson u) :
    IsJson v := by
  cases hv with
  | @obj ms hnames _ =>
    have hfield {m : Utf16 × Value} (hm : m ∈ ms) : ∃ f ∈ fields, m.1 = Utf16.ofString f.1 :=
      (h.1 m.1).1 (List.mem_map_of_mem hm)
    refine .obj hnames (fun m hm => ?_) fun m hm => ?_
    · obtain ⟨f, -, hf⟩ := hfield hm
      exact ⟨f.1, hf⟩
    · obtain ⟨f, hmem, hf⟩ := hfield hm
      have hm' : (Utf16.ofString f.1, m.2) ∈ ms := hf ▸ hm
      have hvalue := h.2 f hmem
      rw [member_of_mem hnames hm'] at hvalue
      exact hfields f hmem m.2 hvalue
  | _ => exact h.elim

theorem Value.IsCall.isJson {v : Value} (h : v.IsCall) (hv : v.IsData) : IsJson v := by
  have hmethod {name : String} (u : Value) (hu : u = .ofString name) : IsJson u := hu ▸ .str _
  have hproof (u : Value) (hu : u.IsFingerprint) : IsJson u := by
    obtain ⟨proof, rfl, -⟩ := isFingerprint_iff.1 hu
    exact .str _
  have hnonce (u : Value) (hu : u.IsNonce) : IsJson u := by
    obtain ⟨n, hn, rfl⟩ := isNonce_iff.1 hu
    exact .num (by simpa using hn)
  have hdest (u : Value) (hu : u.IsKeyId) : IsJson u := by
    obtain ⟨id, rfl, -⟩ := isKeyId_iff.1 hu
    exact .str _
  rcases h with ⟨name, -, h⟩ | h
  · -- A call that creates or revokes.
    refine h.isJson hv ?_
    simp only [List.forall_mem_cons]
    exact ⟨hmethod, hproof, hnonce, List.forall_mem_nil _⟩
  · -- A call that transfers has a receiver, too.
    refine h.isJson hv ?_
    simp only [List.forall_mem_cons]
    exact ⟨hmethod, hproof, hnonce, hdest, List.forall_mem_nil _⟩

namespace Call

variable {v : Value} {ms : List (Utf16 × Value)}

/-- An object that passes the check for its members has those allowed ones that are not absent. -/
theorem mem_names_iff (hms : IsData (.obj ms)) {path : String} {required allowed : List String}
    (h : checkMembers path required allowed ms = .ok ()) (text : Utf16) :
    text ∈ ms.map Prod.fst ↔
      ∃ name ∈ allowed, (Value.member name ms).isAbsent = false ∧ text = Utf16.ofString name := by
  constructor
  · intro htext
    obtain ⟨m, hm, rfl⟩ := List.mem_map.1 htext
    obtain ⟨name, hname, hm'⟩ := (checkMembers_eq_ok_iff.1 h).2 m hm
    exact ⟨name, hname, (hms.isAbsent_member name).2 (hm' ▸ htext), hm'⟩
  · rintro ⟨name, -, hpresent, rfl⟩
    exact (hms.isAbsent_member name).1 hpresent

/-- An object passes the check for its members exactly when it has these members and no others. -/
private theorem checkMembers_exactly (hms : IsData (.obj ms)) {path : String}
    {names : List String} :
    checkMembers path names names ms = .ok () ↔
      ∀ text, text ∈ ms.map Prod.fst ↔ ∃ name ∈ names, text = Utf16.ofString name := by
  constructor
  · intro h text
    have hpresent := (checkMembers_eq_ok_iff.1 h).1
    rw [mem_names_iff hms h]
    exact exists_congr fun name => and_congr_right fun hname => and_iff_right (hpresent name hname)
  · intro h
    refine checkMembers_eq_ok_iff.2 ⟨fun name hname => ?_, fun m hm => ?_⟩
    · exact (hms.isAbsent_member name).2 ((h _).2 ⟨name, hname, rfl⟩)
    · exact (h _).1 (List.mem_map_of_mem hm)

/-- A text that is read and canonical is a key id. -/
theorem isKeyId_of_readNonEmpty {path id : String} (h : readNonEmpty path v = .ok id)
    (hid : KeyId.isCanonical id = true) : v.IsKeyId := by
  cases v with
  | str s =>
    rw [readNonEmpty] at h
    split at h
    · cases h
    · cases h
      -- The character of a lone surrogate is no digit of base64 text.
      have hnone : '\uFFFD' ∉ s.toString.toList := by
        intro hmem
        simp only [KeyId.isCanonical, Bool.and_eq_true, List.all_eq_true] at hid
        exact absurd (hid.1.2 _ hmem) (by decide)
      exact isKeyId_iff.2 ⟨_, by rw [Value.ofString, Utf16.ofString_toString hnone], hid⟩
  | _ => cases h

theorem readNonEmpty_of_isKeyId (h : v.IsKeyId) (path : String) :
    ∃ id, readNonEmpty path v = .ok id ∧ KeyId.isCanonical id = true := by
  obtain ⟨id, rfl, hid⟩ := isKeyId_iff.1 h
  exact ⟨id, readNonEmpty_ofString (KeyId.ne_empty_of_isCanonical hid) path, hid⟩

theorem isNonEmptyText_iff (path : String) :
    v.IsNonEmptyText ↔ ∃ text, readNonEmpty path v = .ok text := by
  constructor
  · rintro ⟨text, hunits, rfl⟩
    exact ⟨_, if_neg (by simpa using hunits)⟩
  · rintro ⟨text, h⟩
    cases v with
    | str s =>
      rw [readNonEmpty] at h
      split at h
      · cases h
      · rename_i hunits
        exact ⟨s, by simpa using hunits, rfl⟩
    | _ => cases h

/-- A call is read from an object with the members of its method. -/
private theorem exists_ofValue (method : ClaimCall) {action : CallAction} (hms : IsData (.obj ms))
    (hnames : ∀ text, text ∈ ms.map Prod.fst ↔
      ∃ name ∈ memberNames method, text = Utf16.ofString name)
    (hmethod : Value.member "method" ms = .ofString method.name)
    (hproof : (Value.member "proof" ms).IsFingerprint) (hnonce : (Value.member "nonce" ms).IsNonce)
    (haction : readAction ms method = .ok action) :
    ∃ c, ofValue (.obj ms) = .ok c ∧ c.action = action := by
  obtain ⟨proof, hproof, hhex⟩ := isFingerprint_iff.1 hproof
  obtain ⟨nonce, hle, hnonce⟩ := isNonce_iff.1 hnonce
  refine ⟨⟨action, proof, nonce⟩, ofValue_of_ofValueAs (ofValueAs_eq_ok_iff.2
    ⟨ms, rfl, (checkMembers_exactly hms).2 hnames, hmethod, ?_, ?_, haction⟩), rfl⟩
  · rw [hproof, readProof_ofString hhex]
  · rw [hnonce, readNonce_ofNat hle]

/-- The grammar has a form for each method, which is read as a call of this method. -/
private theorem exists_ofValue_of_isCall (hv : v.IsData) (h : v.IsCall) :
    ∃ c, ofValue v = .ok c ∧
      ∀ dest, c.action.dest? = some dest → KeyId.isCanonical dest = true := by
  cases hv with
  | @obj ms hnodup hvalues =>
    have hms : IsData (.obj ms) := .obj hnodup hvalues
    rcases h with ⟨name, hname, hnames, hfields⟩ | ⟨hnames, hfields⟩
    · -- The two methods without a receiver have the same form.
      simp only [List.forall_mem_cons] at hfields
      obtain ⟨hmethod, hproof, hnonce, -⟩ := hfields
      simp only [List.mem_cons, List.not_mem_nil, or_false] at hname
      rcases hname with rfl | rfl
      · obtain ⟨c, hread, hc⟩ :=
          exists_ofValue .create hms (by simpa [memberNames] using hnames)
            hmethod hproof hnonce rfl
        exact ⟨c, hread, by simp [hc, CallAction.dest?]⟩
      · obtain ⟨c, hread, hc⟩ :=
          exists_ofValue .revoke hms (by simpa [memberNames] using hnames)
            hmethod hproof hnonce rfl
        exact ⟨c, hread, by simp [hc, CallAction.dest?]⟩
    · -- The receiver of a transfer is the id of a key.
      simp only [List.forall_mem_cons] at hfields
      obtain ⟨hmethod, hproof, hnonce, hdest, -⟩ := hfields
      obtain ⟨dest, hread, hid⟩ := readNonEmpty_of_isKeyId hdest "/call/dest"
      have haction : readAction ms .transfer = .ok (.transfer dest) := by
        rw [readAction, hread]
        rfl
      obtain ⟨c, hread, hc⟩ :=
        exists_ofValue .transfer hms (by simpa [memberNames] using hnames)
          hmethod hproof hnonce haction
      refine ⟨c, hread, ?_⟩
      rw [hc]
      intro _ hsome
      exact Option.some.inj hsome ▸ hid
  | _ =>
    rcases h with ⟨_, _, h⟩ | h <;> exact h.elim

/-- A reader checks each member as the grammar asks for, but for the id of the receiver, which is
left to the dispatcher. -/
private theorem isCall_of_ofValue (hv : v.IsData) {c : Call} (hread : ofValue v = .ok c)
    (hdest : ∀ dest, c.action.dest? = some dest → KeyId.isCanonical dest = true) : v.IsCall := by
  obtain ⟨method, hread⟩ := exists_of_ofValue hread
  obtain ⟨ms, rfl, hmembers, hmethod, hproof, hnonce, haction⟩ := ofValueAs_eq_ok_iff.1 hread
  have hnames := (checkMembers_exactly hv).1 hmembers
  have hproof := isFingerprint_iff.2 ⟨_, of_readProof hproof⟩
  have hnonce : (Value.member "nonce" ms).IsNonce :=
    isNonce_iff.2 ⟨_, (of_readNonce hnonce).2, (of_readNonce hnonce).1⟩
  cases method with
  | create =>
    refine .inl ⟨"create_claim", by simp, by simpa [memberNames] using hnames, ?_⟩
    simp only [List.forall_mem_cons]
    exact ⟨hmethod, hproof, hnonce, List.forall_mem_nil _⟩
  | revoke =>
    refine .inl ⟨"revoke_claim", by simp, by simpa [memberNames] using hnames, ?_⟩
    simp only [List.forall_mem_cons]
    exact ⟨hmethod, hproof, hnonce, List.forall_mem_nil _⟩
  | transfer =>
    -- Only here the assumption on the receiver is of use.
    obtain ⟨dest, hdest', haction⟩ := of_bind_eq_ok haction
    have hid : KeyId.isCanonical dest = true := hdest dest (by rw [← Except.ok.inj haction]; rfl)
    refine .inr ⟨by simpa [memberNames] using hnames, ?_⟩
    simp only [List.forall_mem_cons]
    exact ⟨hmethod, hproof, hnonce, isKeyId_of_readNonEmpty hdest' hid, List.forall_mem_nil _⟩

/-- A JSON value is a call exactly when it is read as one whose receiver, if any, is a key. -/
theorem isCall_iff (hv : v.IsData) : v.IsCall ↔
    ∃ c, ofValue v = .ok c ∧
      ∀ dest, c.action.dest? = some dest → KeyId.isCanonical dest = true := by
  constructor
  · exact exists_ofValue_of_isCall hv
  · rintro ⟨c, hread, hdest⟩
    exact isCall_of_ofValue hv hread hdest

end Call

namespace Envelope

variable {v : Value} {ms : List (Utf16 × Value)}

/-- The members that are there are the fields of the grammar. -/
private theorem isAbsent_member_iff {fields : List (String × (Value → Prop))}
    (h : (Value.obj ms).HasExactly fields) (hms : IsData (.obj ms)) (name : String) :
    (Value.member name ms).isAbsent = false ↔ name ∈ fields.map Prod.fst := by
  rw [hms.isAbsent_member, h.1, List.mem_map]
  refine exists_congr fun f => and_congr_right fun _ => ?_
  rw [Utf16.ofString_inj]
  exact eq_comm

/-- The members of an envelope pass their check. -/
private theorem checkMembers_of_hasExactly {fields : List (String × (Value → Prop))}
    (h : (Value.obj ms).HasExactly fields) (hms : IsData (.obj ms))
    (hcall : "call" ∈ fields.map Prod.fst)
    (hboth : "signer" ∈ fields.map Prod.fst ↔ "signature" ∈ fields.map Prod.fst)
    (hallowed : ∀ name ∈ fields.map Prod.fst, name ∈ ["call", "signer", "signature"]) :
    checkMembers ms = .ok () := by
  refine checkMembers_eq_ok_iff.2 ⟨Call.checkMembers_eq_ok_iff.2 ⟨fun name hname => ?_,
    fun m hm => ?_⟩, ?_⟩
  · obtain rfl := List.mem_singleton.1 hname
    exact (isAbsent_member_iff h hms "call").2 hcall
  · obtain ⟨f, hf, hname⟩ := (h.1 m.1).1 (List.mem_map_of_mem hm)
    exact ⟨f.1, hallowed _ (List.mem_map_of_mem hf), hname⟩
  · rw [← isAbsent_member_iff h hms, ← isAbsent_member_iff h hms] at hboth
    rw [Bool.eq_iff_iff, ← not_iff_not, Bool.not_eq_true, Bool.not_eq_true]
    exact hboth

/-- The call of an envelope is a JSON value, as the envelope is. -/
private theorem isData_call (hms : IsData (.obj ms))
    (hpresent : (Value.member "call" ms).isAbsent = false) : IsData (Value.member "call" ms) :=
  hms.member ((hms.isAbsent_member "call").1 hpresent)

/-- In the grammar a call stands alone or is signed, and either form is read as an envelope. -/
private theorem exists_ofValue_of_isEnvelope (hms : IsData (.obj ms))
    (h : (Value.obj ms).IsEnvelope) : ∃ e, ofValue (.obj ms) = .ok e ∧
      (∀ signer, e.signer = some signer → KeyId.isCanonical signer = true) ∧
      ∀ dest, e.call.action.dest? = some dest → KeyId.isCanonical dest = true := by
  simp only [ofValue_obj_eq_ok_iff]
  rcases h with h | h
  · -- Nobody has signed: there is a call and nothing else.
    have hmembers := checkMembers_of_hasExactly h hms (by simp) (by simp) (by simp)
    obtain ⟨hcall, -⟩ := List.forall_mem_cons.1 h.2
    have hpresent := (isAbsent_member_iff h hms "call").2 (by simp)
    obtain ⟨call, hread, hdest⟩ := (Call.isCall_iff (isData_call hms hpresent)).1 hcall
    -- A member that the grammar does not name is absent, so there are no credentials.
    have habsent : (Value.member "signer" ms).isAbsent = true := by
      rw [← Bool.not_eq_false, isAbsent_member_iff h hms]
      simp
    have hcredentials : readCredentials ms = .ok none := by
      rw [readCredentials_eq, habsent]
      rfl
    refine ⟨⟨call, none⟩, ⟨hmembers, hread, hcredentials⟩, ?_, hdest⟩
    intro _ hsome
    cases hsome
  · -- The envelope is signed: there are a call, a signer and a signature.
    have hmembers := checkMembers_of_hasExactly h hms (by simp) (by simp) (by simp)
    have hfields := h.2
    simp only [List.forall_mem_cons] at hfields
    obtain ⟨hcall, hsigner, hsignature, -⟩ := hfields
    have hpresent := (isAbsent_member_iff h hms "call").2 (by simp)
    obtain ⟨call, hread, hdest⟩ := (Call.isCall_iff (isData_call hms hpresent)).1 hcall
    obtain ⟨signer, hsigner, hid⟩ := Call.readNonEmpty_of_isKeyId hsigner "/signer"
    obtain ⟨signature, hsignature⟩ := (Call.isNonEmptyText_iff "/signature").1 hsignature
    -- The signer and the signature are both there, and each of them is read.
    have hcredentials : readCredentials ms = .ok (some ⟨signer, signature⟩) := by
      rw [readCredentials_eq, (isAbsent_member_iff h hms "signer").2 (by simp),
        (isAbsent_member_iff h hms "signature").2 (by simp), hsigner, hsignature]
      rfl
    refine ⟨⟨call, some ⟨signer, signature⟩⟩, ⟨hmembers, hread, hcredentials⟩, ?_, hdest⟩
    intro _ hsome
    exact Option.some.inj hsome ▸ hid

/-- An envelope that is read, and names canonical ids only, has a form of the grammar. -/
private theorem isEnvelope_of_ofValue (hms : IsData (.obj ms)) {e : Envelope}
    (hread : ofValue (.obj ms) = .ok e)
    (hid : ∀ signer, e.signer = some signer → KeyId.isCanonical signer = true)
    (hdest : ∀ dest, e.call.action.dest? = some dest → KeyId.isCanonical dest = true) :
    (Value.obj ms).IsEnvelope := by
  -- There is a call, and a signer just if there is a signature.
  obtain ⟨hmembers, hread, hcredentials⟩ := ofValue_obj_eq_ok_iff.1 hread
  obtain ⟨hallowed, hboth⟩ := checkMembers_eq_ok_iff.1 hmembers
  have hnames := Call.mem_names_iff hms hallowed
  have hpresent := (Call.checkMembers_eq_ok_iff.1 hallowed).1 "call" (by simp)
  have hcall := (Call.isCall_iff (isData_call hms hpresent)).2 ⟨e.call, hread, hdest⟩
  rw [readCredentials_eq, ← hboth, Bool.or_self] at hcredentials
  cases habsent : (Value.member "signer" ms).isAbsent with
  -- Neither a signer nor a signature.
  | true =>
    refine .inl ⟨fun text => ?_, List.forall_mem_singleton.2 hcall⟩
    simp [hnames, hpresent, ← hboth, habsent]
  -- Both of them.
  | false =>
    rw [habsent, if_neg Bool.false_ne_true] at hcredentials
    obtain ⟨signer, hsigner, hcredentials⟩ := Call.of_bind_eq_ok hcredentials
    obtain ⟨signature, hsignature, hcredentials⟩ := Call.of_bind_eq_ok hcredentials
    have hid := hid signer (by rw [Envelope.signer, ← Except.ok.inj hcredentials]; rfl)
    refine .inr ⟨fun text => ?_, ?_⟩
    · simp [hnames, hpresent, ← hboth, habsent]
    · simp only [List.forall_mem_cons]
      exact ⟨hcall, Call.isKeyId_of_readNonEmpty hsigner hid,
        (Call.isNonEmptyText_iff _).2 ⟨signature, hsignature⟩, List.forall_mem_nil _⟩

/-- A JSON value is an envelope exactly when it is read as one that names canonical ids only. -/
theorem isEnvelope_iff (hv : v.IsData) : v.IsEnvelope ↔
    ∃ e, ofValue v = .ok e ∧ Dispatcher.checkIds e = .ok () := by
  simp only [Dispatcher.checkIds_eq_ok_iff]
  cases v with
  | obj ms =>
    constructor
    · exact exists_ofValue_of_isEnvelope hv
    · rintro ⟨e, hread, hid, hdest⟩
      exact isEnvelope_of_ofValue hv hread hid hdest
  -- What is no object is neither read nor in the grammar.
  | _ =>
    constructor
    · rintro (h | h) <;> exact h.elim
    · rintro ⟨_, h, -⟩
      cases h

/-- What follows the checks of an envelope: the bytes of its fingerprint and the text of its call,
as it was written and as it was read, over which a signature is verified. -/
def IsUsable (v : Value) : Prop :=
  ∃ ms e, v = .obj ms ∧ ofValue v = .ok e ∧ (∃ bytes, Hex.decode? e.call.proof = some bytes) ∧
    (∃ text, (Value.member "call" ms).canonical = .ok text ∧
      e.call.toValue.canonical = .ok text) ∧
    ∀ signer signature, ∃ verified, Call.verifySignature signer e.call signature = .ok verified

/-- Nothing that follows the checks of an envelope fails. -/
theorem isUsable_of_isEnvelope (hv : v.IsData) (h : v.IsEnvelope) : IsUsable v := by
  obtain ⟨e, hread, -⟩ := (isEnvelope_iff hv).1 h
  -- The call that was read is valid, and all the rest is about valid calls.
  have hvalid := valid_call_of_ofValue hread
  cases v with
  | obj ms =>
    obtain ⟨hmembers, hcall, -⟩ := ofValue_obj_eq_ok_iff.1 hread
    obtain ⟨hallowed, -⟩ := checkMembers_eq_ok_iff.1 hmembers
    have hpresent := (Call.checkMembers_eq_ok_iff.1 hallowed).1 "call" (by simp)
    have hdata := hv.member ((hv.isAbsent_member "call").1 hpresent)
    have hgrammar : (Value.member "call" ms).IsCall :=
      h.elim (fun h => h.2 ("call", IsCall) (by simp)) fun h => h.2 ("call", IsCall) (by simp)
    obtain ⟨hsame, -⟩ := (Call.ofValue_eq_ok_iff (hgrammar.isJson hdata)).1 hcall
    obtain ⟨text, -, htext, hvalue⟩ := Call.exists_canonical hvalid hsame
    refine ⟨ms, e, rfl, hread, ?_, ⟨text, htext, hvalue⟩, Call.exists_verifySignature hvalid⟩
    exact Option.isSome_iff_exists.1 ((Hex.isSome_decode? _).trans hvalid.proof)
  | _ => cases hread

end Envelope

/-! ## Malformed calls -/

namespace Dispatcher

variable {σ : Type} {d : Dispatcher σ}

/-- The answer that a call is malformed. -/
def IsMalformed (answer : Except Fault (Except DispatchError Unit)) : Prop :=
  ∃ cause, answer = .ok (.error (.malformedCall cause))

/-- The checks after the grammar blame the signature or the nonce. -/
theorem authenticate_answer {e : Envelope} {w w' : σ} {error : DispatchError}
    (h : (d.authenticate e).exec w = (.ok (.error error), w')) (cause : Malformation) :
    error ≠ .malformedCall cause := by
  unfold authenticate at h
  cases hcredentials : e.credentials with
  -- Nobody has signed, so no check fails.
  | none =>
    rw [hcredentials] at h
    cases h
  | some c =>
    rw [hcredentials] at h
    obtain ⟨verified, w₁, -, h⟩ := Run.exec_bind_eq_ok h
    cases verified with
    -- The signature is wrong, which is an error of its own.
    | false =>
      cases h
      exact nofun
    -- The nonce is stale, or nothing has failed.
    | true =>
      obtain ⟨spent, w₂, hspent, h⟩ := Run.exec_bind_eq_ok h
      cases spent with
      | ok _ => cases h
      | error stale =>
        cases h
        rcases Nat.lt_or_ge e.call.nonce ((d.nonces.get w₁).next c.signer) with hlt | hle
        · rw [d.exec_spendNonce_of_lt_next hlt] at hspent
          cases hspent
          exact nofun
        · rw [d.exec_spendNonce_of_next_le hle] at hspent
          cases hspent

/-- An envelope that names canonical ids is not called malformed. -/
theorem dispatchEnvelope_answer {e : Envelope} (hids : checkIds e = .ok ()) (w : σ) :
    ¬ IsMalformed ((d.dispatchEnvelope e).exec w).1 := by
  rintro ⟨cause, h⟩
  have h : (d.dispatchEnvelope e).exec w =
      (.ok (.error (.malformedCall cause)), ((d.dispatchEnvelope e).exec w).2) := Prod.ext h rfl
  unfold dispatchEnvelope at h
  rw [hids] at h
  obtain ⟨origin, w₁, horigin, h⟩ := Run.exec_bind_eq_ok h
  cases origin with
  | error error =>
    exact authenticate_answer horigin cause (Except.error.inj (d.reject_answer h)).symm
  | ok origin =>
    obtain ⟨_, hclaim⟩ := d.carry_answer h
    cases hclaim

/-- A JSON value that is no envelope is refused as malformed. -/
theorem exists_reject_of_not_isEnvelope {v : Value} (hv : v.IsData) (h : ¬ v.IsEnvelope) :
    ∃ cause call signer, d.dispatch v = d.reject (.malformedCall cause) call signer := by
  cases hread : Envelope.ofValue v with
  | error violations => exact ⟨_, _, _, by rw [dispatch, hread]⟩
  | ok e =>
    cases hids : checkIds e with
    | error blamed =>
      refine ⟨blamed.1, some e.call, blamed.2, ?_⟩
      rw [dispatch, hread]
      show d.dispatchEnvelope e = _
      unfold dispatchEnvelope
      rw [hids]
    | ok _ => exact absurd ((Envelope.isEnvelope_iff hv).2 ⟨e, hread, hids⟩) h

/-- An envelope is not called malformed. -/
theorem not_isMalformed_of_isEnvelope {v : Value} (hv : v.IsData) (h : v.IsEnvelope) (w : σ) :
    ¬ IsMalformed ((d.dispatch v).exec w).1 := by
  obtain ⟨e, hread, hids⟩ := (Envelope.isEnvelope_iff hv).1 h
  rw [dispatch, hread]
  exact dispatchEnvelope_answer hids w

/-- A dispatch tells that a call is malformed exactly when there is no envelope: without one it is a
rejection as malformed, with one it has no such answer, so that the answers decide whether there is
an envelope if rejections can be reported. -/
structure TellsMalformed (d : Dispatcher σ) (isEnvelope : Prop)
    (dispatched : Run σ (Except DispatchError Unit)) : Prop where
  refused : ¬ isEnvelope →
    ∃ cause call signer, dispatched = d.reject (.malformedCall cause) call signer
  passed : isEnvelope → ∀ w, ¬ IsMalformed (dispatched.exec w).1
  answered : (∀ name tags, Run.Completes (d.count name tags)) →
    (∀ level text context, Run.Completes (d.log level text context)) →
    ∀ w, IsMalformed (dispatched.exec w).1 ↔ ¬ isEnvelope

theorem tellsMalformed {isEnvelope : Prop} {dispatched : Run σ (Except DispatchError Unit)}
    (hrefused : ¬ isEnvelope →
      ∃ cause call signer, dispatched = d.reject (.malformedCall cause) call signer)
    (hpassed : isEnvelope → ∀ w, ¬ IsMalformed (dispatched.exec w).1) :
    d.TellsMalformed isEnvelope dispatched where
  refused := hrefused
  passed := hpassed
  answered hcount hlog w := by
    refine ⟨fun hanswer henvelope => hpassed henvelope w hanswer, fun hnone => ?_⟩
    obtain ⟨cause, call, signer, rfl⟩ := hrefused hnone
    obtain ⟨answer, w', hanswer⟩ :=
      completes_reject hcount hlog (.malformedCall cause) call signer w
    obtain rfl := d.reject_answer hanswer
    exact ⟨cause, congrArg Prod.fst hanswer⟩

/-- A text is called malformed exactly when it spells no envelope. -/
theorem dispatchText_tellsMalformed (d : Dispatcher σ) (text : String) :
    d.TellsMalformed (∃ v, parse text = some v ∧ v.IsEnvelope) (d.dispatchText text) := by
  cases hparse : parse text with
  -- The text is no JSON.
  | none =>
    refine tellsMalformed (fun _ => ⟨.notJson, none, none, ?_⟩) ?_
    · rw [dispatchText, hparse]
    · rintro ⟨_, h, -⟩
      cases h
  -- The text is read as a value, which holds data only.
  | some v =>
    have hv := isData_of_parse hparse
    have hdispatch : d.dispatchText text = d.dispatch v := by rw [dispatchText, hparse]
    rw [hdispatch]
    refine tellsMalformed (fun hnone => ?_) ?_
    · exact exists_reject_of_not_isEnvelope hv fun h => hnone ⟨v, rfl, h⟩
    · rintro ⟨_, hv', h⟩
      cases hv'
      exact not_isMalformed_of_isEnvelope hv h

/-- For every dispatcher, whatever its collaborators: a JSON value is called malformed exactly when
it is no envelope, and of an envelope the fingerprint can be decoded, the call has a canonical text
and verifying a signature of it raises no fault. -/
theorem malformed_iff_not_envelope (d : Dispatcher σ) {v : Value} (hv : v.IsData) :
    d.TellsMalformed v.IsEnvelope (d.dispatch v) ∧ (v.IsEnvelope → Envelope.IsUsable v) :=
  ⟨tellsMalformed (exists_reject_of_not_isEnvelope hv) (not_isMalformed_of_isEnvelope hv),
    Envelope.isUsable_of_isEnvelope hv⟩

/-- A call that claims a byte is an envelope on its own; a transfer is none without a receiver. -/
theorem malformed_without_dest :
    let d : Dispatcher (Nonces × AuditLog) :=
      { handOver := fun _ _ => return .ok ()
        verify := Call.verifySignature
        nonces := ⟨Prod.fst, fun nonces w => (nonces, w.2)⟩
        audit := ⟨Prod.snd, fun audit w => (w.1, audit)⟩
        count := fun _ _ => return ()
        log := fun _ _ _ => return () }
    let v (method : String) : Value :=
      .object [("call", .object
        [("method", .ofString method), ("proof", .ofString "0x07"), ("nonce", .num (.ofNat 0))])]
    (∀ method, (v method).IsData) ∧
      ¬ IsMalformed ((d.dispatch (v "create_claim")).exec (.empty, [])).1 ∧
      Envelope.IsUsable (v "create_claim") ∧
      IsMalformed ((d.dispatch (v "transfer_claim")).exec (.empty, [])).1 := by
  intro d v
  -- The members of the value have different names.
  have hdata (method : String) : (v method).IsData := by
    have hnames : (["method", "proof", "nonce"].map Utf16.ofString).Nodup := by decide
    refine .obj (List.nodup_singleton _) (List.forall_mem_singleton.2 (.obj hnames ?_))
    simp only [List.map_cons, List.map_nil, List.forall_mem_cons]
    exact ⟨.str _, .str _, .num _, nofun⟩
  have hcreate : (v "create_claim").IsEnvelope :=
    (Envelope.isEnvelope_iff (hdata _)).2 ⟨⟨⟨.create, "0x07", 0⟩, none⟩, by decide +kernel, rfl⟩
  -- Without a receiver it is no call that transfers.
  have htransfer : ¬ (v "transfer_claim").IsEnvelope := by
    rw [Envelope.isEnvelope_iff (hdata _)]
    rintro ⟨e, h, -⟩
    cases h
  obtain ⟨htells, husable⟩ := malformed_iff_not_envelope d (hdata "create_claim")
  obtain ⟨htells', -⟩ := malformed_iff_not_envelope d (hdata "transfer_claim")
  refine ⟨hdata, htells.passed hcreate _, husable hcreate, ?_⟩
  exact (htells'.answered (fun _ _ w => ⟨(), w, rfl⟩) (fun _ _ _ w => ⟨(), w, rfl⟩) _).2 htransfer

end Dispatcher

end ProofOfExistence
