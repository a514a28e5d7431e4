import ProofOfExistence.Proofs.MemberOrder
import ProofOfExistence.Wire.Envelope

/-!
# What the envelope schema accepts

The schema of a call names its members and leaves their order open, and so does that of an envelope.
Reading therefore gives one answer, also when it fails, for all values that differ in the order of
members only (`Call.ofValue_congr`, `Envelope.ofValue_congr`).

`Call.toJson` and `Envelope.toJson` write a call and an envelope with the members that they have.  A
JSON value is read as a call exactly when it is that call written in some order, and the call keeps
to the bounds of the schema (`Call.Valid`).

## Key results

- `Envelope.ofValue_congr`: reading an envelope does not depend on the order of members
- `Call.ofValue_eq_ok_iff`: a JSON value is read as a call when it is the members of that call
- `Envelope.ofValue_eq_ok`: the members of an envelope, in any order, are read as that envelope
-/

namespace ProofOfExistence

namespace Utf16

/-- The code point of a character is what it was made of. -/
theorem toNat_ofNat {n : Nat} (h : n.isValidChar) : (Char.ofNat n).toNat = n := by
  rw [Char.ofNat, dif_pos h]
  rfl

/-- A unit that is no surrogate is that of its character. -/
private theorem ofChar_single {u : UInt16} {c : Char} (h : single u = .char c) :
    ofChar c = [u] := by
  unfold single at h
  split at h
  · cases h
  · rename_i hno
    cases h
    have hu := u.toNat_lt
    simp only [isHigh, isLow, Bool.or_eq_true, Bool.and_eq_true, decide_eq_true_eq] at hno
    have hvalid : u.toNat.isValidChar := by
      unfold Nat.isValidChar
      omega
    have hnat : (Char.ofNat u.toNat).toNat = u.toNat := toNat_ofNat hvalid
    unfold ofChar
    rw [hnat, if_pos (by omega), UInt16.ofNat_toNat]

/-- A surrogate pair is that of its character. -/
private theorem ofChar_pairChar {high low : UInt16} (hhigh : isHigh high = true)
    (hlow : isLow low = true) : ofChar (pairChar high low) = [high, low] := by
  simp only [isHigh, isLow, Bool.and_eq_true, decide_eq_true_eq] at hhigh hlow
  have hvalid : (0x10000 + (high.toNat - 0xD800) * 0x400 + (low.toNat - 0xDC00)).isValidChar := by
    unfold Nat.isValidChar
    omega
  have hnat : (pairChar high low).toNat =
      0x10000 + (high.toNat - 0xD800) * 0x400 + (low.toNat - 0xDC00) := toNat_ofNat hvalid
  have hfirst : 0xD800 + ((pairChar high low).toNat - 0x10000) / 0x400 = high.toNat := by omega
  have hsecond : 0xDC00 + ((pairChar high low).toNat - 0x10000) % 0x400 = low.toNat := by omega
  unfold ofChar
  simp only [hfirst, hsecond, UInt16.ofNat_toNat]
  exact if_neg (by omega)

/-- A text without lone surrogates is that of its characters. -/
theorem ofString_toString {t : Utf16} (h : '\uFFFD' ∉ t.toString.toList) :
    ofString t.toString = t := by
  obtain ⟨units⟩ := t
  rw [toString, String.toList_ofList] at h
  rw [ofString, toString, String.toList_ofList]
  show Utf16.mk _ = _
  congr 1
  change '\uFFFD' ∉ (itemsOf units).map Item.toChar at h
  change ((itemsOf units).map Item.toChar).flatMap ofChar = units
  -- A lone surrogate would show as the character that stands for it.
  have hsingle (u : UInt16) (hu : (single u).toChar ≠ '\uFFFD') :
      ofChar (single u).toChar = [u] := by
    cases hitem : single u with
    | char c => exact ofChar_single hitem
    | lone u' => exact absurd (by rw [hitem]; rfl) hu
  fun_induction itemsOf units with
  | case1 => rfl
  -- A single unit at the end.
  | case2 u =>
    have hu := hsingle u fun heq => h (by simp [heq])
    simpa using hu
  -- Two units that are one character.
  | case3 u v rest hpair ih =>
    rw [Bool.and_eq_true] at hpair
    have hrest := ih fun hmem => h (List.mem_cons_of_mem _ hmem)
    rw [List.map_cons, List.flatMap_cons, hrest, Item.toChar, ofChar_pairChar hpair.1 hpair.2]
    rfl
  -- A single unit before others.
  | case4 u v rest hpair ih =>
    have hrest := ih fun hmem => h (List.mem_cons_of_mem _ hmem)
    have hu := hsingle u fun heq => h (by simp [heq])
    rw [List.map_cons, List.flatMap_cons, hrest, hu]
    rfl

/-- A text with units has characters. -/
theorem toString_ne_empty {t : Utf16} (h : t.units ≠ []) : t.toString ≠ "" := by
  have hitems : t.items ≠ [] := by
    rw [items]
    rcases t with ⟨_ | ⟨u, _ | ⟨v, rest⟩⟩⟩
    · exact absurd rfl h
    · exact List.cons_ne_nil _ _
    · -- The first unit stands for a character, by itself or with the second one.
      rw [itemsOf]
      split <;> exact List.cons_ne_nil _ _
  intro hempty
  have hchars := congrArg String.toList hempty
  rw [toString, String.toList_ofList] at hchars
  exact hitems (List.map_eq_nil_iff.1 hchars)

theorem ofString_inj {s t : String} : ofString s = ofString t ↔ s = t :=
  ⟨ofString_injective, fun h => h ▸ rfl⟩

end Utf16

/-- A hexadecimal text is that of its characters. -/
theorem Hex.ofString_toString {t : Utf16} (h : Hex.isHex t.toString = true) :
    Utf16.ofString t.toString = t := by
  apply Utf16.ofString_toString
  -- The character of a lone surrogate is no hexadecimal digit.
  obtain ⟨digits, -, hdigits, htext | htext⟩ := Hex.isHex_iff.1 h
  · rw [htext]
    exact fun hmem => absurd (hdigits _ hmem) (by decide)
  · rw [htext]
    simp only [List.mem_cons]
    rintro (hc | hc | hmem)
    · exact absurd hc (by decide)
    · exact absurd hc (by decide)
    · exact absurd (hdigits _ hmem) (by decide)

namespace Value

/-! ## Looking up members -/

/-- The value of a member that is there, whatever its place. -/
theorem member_of_mem {name : String} {ms : List (Utf16 × Value)} {v : Value}
    (hnames : (ms.map Prod.fst).Nodup) (h : (Utf16.ofString name, v) ∈ ms) :
    member name ms = v := by
  unfold member
  cases hfind : ms.find? fun m => m.1 = Utf16.ofString name with
  | none =>
    have hmiss := List.find?_eq_none.1 hfind _ h
    simp at hmiss
  | some m =>
    have hname : m.1 = Utf16.ofString name := by simpa using List.find?_some hfind
    exact congrArg Prod.snd (eq_of_name_eq hnames (List.mem_of_find?_eq_some hfind) h hname)

/-- A name that does not occur has no value. -/
theorem member_of_notMem {name : String} {ms : List (Utf16 × Value)}
    (h : Utf16.ofString name ∉ ms.map Prod.fst) : member name ms = .absent := by
  have hfind : ms.find? (fun m => m.1 = Utf16.ofString name) = none := by
    refine List.find?_eq_none.2 fun m hm => ?_
    have hname : m.1 ≠ Utf16.ofString name := fun hname => h (hname ▸ List.mem_map_of_mem hm)
    simpa using hname
  rw [member, hfind]

/-- The members of an object are those that its names look up. -/
theorem perm_map_member {names : List String} {ms : List (Utf16 × Value)}
    (hnames : (ms.map Prod.fst).Nodup)
    (h : (ms.map Prod.fst).Perm (names.map Utf16.ofString)) :
    ms.Perm (names.map fun name => (Utf16.ofString name, member name ms)) := by
  -- Both lists are without duplicates, so it is enough that they have the same members.
  have hlookup : (names.map fun name => (Utf16.ofString name, member name ms)).Perm ms := by
    refine (List.perm_ext_iff_of_nodup ?_ (List.Nodup.of_map Prod.fst hnames)).2 fun m => ?_
    · -- The members with the names are without duplicates, since the names are.
      refine List.Nodup.of_map Prod.fst ?_
      rw [List.map_map]
      exact h.nodup_iff.1 hnames
    · rw [List.mem_map]
      constructor
      · -- A name of the list is the name of a member, which the lookup finds.
        rintro ⟨name, hname, rfl⟩
        obtain ⟨m, hm, hm'⟩ := List.mem_map.1 (h.symm.subset (List.mem_map_of_mem hname))
        have hm'' : (Utf16.ofString name, m.2) ∈ ms := hm' ▸ hm
        rw [member_of_mem hnames hm'']
        exact hm''
      · -- A member has a name of the list.
        intro hm
        obtain ⟨name, hname, hname'⟩ := List.mem_map.1 (h.subset (List.mem_map_of_mem hm))
        have hm' : (Utf16.ofString name, m.2) ∈ ms := hname' ▸ hm
        exact ⟨name, hname, Prod.ext hname' (member_of_mem hnames hm')⟩
  exact hlookup.symm

/-- Different names stay different when an object is written out. -/
private theorem nodup_object {entries : List (String × Value)}
    (hnames : (entries.map Prod.fst).Nodup) :
    ((entries.map fun m => (Utf16.ofString m.1, m.2)).map Prod.fst).Nodup := by
  have hinjective : Function.Injective Utf16.ofString := fun _ _ => Utf16.ofString_injective
  have hmap := hnames.map hinjective
  rwa [List.map_map] at hmap ⊢

/-- The value of a member in an object that is written out. -/
theorem member_object {entries : List (String × Value)} (hnames : (entries.map Prod.fst).Nodup)
    {name : String} {v : Value} (h : (name, v) ∈ entries) :
    member name (entries.map fun m => (Utf16.ofString m.1, m.2)) = v :=
  member_of_mem (nodup_object hnames) (List.mem_map_of_mem h)

/-- A name that is not written has no value. -/
theorem member_object_of_notMem {entries : List (String × Value)} {name : String}
    (h : name ∉ entries.map Prod.fst) :
    member name (entries.map fun m => (Utf16.ofString m.1, m.2)) = .absent := by
  refine member_of_notMem fun hmem => h ?_
  obtain ⟨m, hm, hname⟩ := List.mem_map.1 hmem
  obtain ⟨e, he, rfl⟩ := List.mem_map.1 hm
  exact Utf16.ofString_injective hname ▸ List.mem_map_of_mem he

/-- An object that is written out is a JSON value if its members are. -/
theorem IsJson.object {entries : List (String × Value)} (hnames : (entries.map Prod.fst).Nodup)
    (h : ∀ m ∈ entries, IsJson m.2) : IsJson (.object entries) :=
  .obj (nodup_object hnames) (List.forall_mem_map.2 fun m _ => ⟨m.1, rfl⟩) (List.forall_mem_map.2 h)

/-- Whatever a name looks up in a JSON object is a JSON value. -/
theorem IsJson.member {ms : List (Utf16 × Value)} (h : IsJson (.obj ms)) {name : String}
    (hname : (member name ms).isAbsent = false) : IsJson (member name ms) := by
  cases h with
  | obj _ _ hvalues =>
    unfold Value.member at hname ⊢
    cases hfind : ms.find? fun m => m.1 = Utf16.ofString name with
    | none =>
      rw [hfind] at hname
      cases hname
    | some m => exact hvalues m (List.mem_of_find?_eq_some hfind)

/-- Members of objects that are the same are the same. -/
theorem SameUpToOrder.member {ms ns : List (Utf16 × Value)}
    (h : SameUpToOrder (.obj ms) (.obj ns)) (hms : (ms.map Prod.fst).Nodup) (name : String) :
    SameUpToOrder (member name ms) (member name ns) := by
  have hns : (ns.map Prod.fst).Nodup := h.names_perm.nodup_iff.1 hms
  by_cases hname : Utf16.ofString name ∈ ms.map Prod.fst
  · obtain ⟨m, hm, hm'⟩ := List.mem_map.1 hname
    obtain ⟨n, hn, hn', hvalue⟩ := h.exists_member hm
    have hmem : (Utf16.ofString name, m.2) ∈ ms := hm' ▸ hm
    have hnmem : (Utf16.ofString name, n.2) ∈ ns := (hn'.trans hm') ▸ hn
    rw [member_of_mem hms hmem, member_of_mem hns hnmem]
    exact hvalue
  · have hname' : Utf16.ofString name ∉ ns.map Prod.fst := fun hn =>
      hname (h.names_perm.symm.subset hn)
    rw [member_of_notMem hname, member_of_notMem hname']
    exact .absent

/-- What has the members of an object that is written out, in some order, is an object with the same
values under their names. -/
theorem SameUpToOrder.exists_members {v : Value} {entries : List (String × Value)}
    (h : SameUpToOrder v (.object entries)) (hnames : (entries.map Prod.fst).Nodup) :
    ∃ ms, v = .obj ms ∧ ∀ m ∈ entries, SameUpToOrder (Value.member m.1 ms) m.2 := by
  cases v with
  | obj ms =>
    refine ⟨ms, rfl, fun m hm => ?_⟩
    have hms : (ms.map Prod.fst).Nodup := h.names_perm.nodup_iff.2 (nodup_object hnames)
    have hsame := h.member hms m.1
    rwa [member_object hnames hm] at hsame
  | _ => cases h

theorem SameUpToOrder.isAbsent {v w : Value} (h : SameUpToOrder v w) :
    v.isAbsent = w.isAbsent := by
  cases h <;> rfl

theorem eq_absent_of_isAbsent {v : Value} (h : v.isAbsent = true) : v = .absent := by
  cases v with
  | absent => rfl
  | _ => cases h

end Value

open Value

/-! ## The order of members does not matter -/

namespace Call

variable {v w : Value} {ms ns : List (Utf16 × Value)}

theorem readNonEmpty_congr (h : SameUpToOrder v w) (path : String) :
    readNonEmpty path v = readNonEmpty path w := by
  cases h <;> rfl

private theorem readProof_congr (h : SameUpToOrder v w) (path : String) :
    readProof path v = readProof path w := by
  cases h <;> rfl

private theorem readNonce_congr (h : SameUpToOrder v w) (path : String) :
    readNonce path v = readNonce path w := by
  cases h <;> rfl

private theorem checkMethod_congr (h : SameUpToOrder v w) (method : ClaimCall) :
    checkMethod method v = checkMethod method w := by
  cases h <;> rfl

/-- Which members are there does not depend on their order. -/
theorem checkMembers_congr (h : SameUpToOrder (.obj ms) (.obj ns))
    (hms : (ms.map Prod.fst).Nodup) (path : String) (required allowed : List String) :
    checkMembers path required allowed ms = checkMembers path required allowed ns := by
  -- The check asks which names are absent and whether all are allowed, whatever the order.
  have habsent : (fun name => (Value.member name ms).isAbsent) =
      fun name => (Value.member name ns).isAbsent :=
    funext fun name => (h.member hms name).isAbsent
  have hall (p : Utf16 → Bool) : (ms.all fun m => p m.1) = ns.all fun m => p m.1 := by
    have hnames : (ms.map Prod.fst).all p = (ns.map Prod.fst).all p := h.names_perm.all_eq
    rwa [List.all_map, List.all_map] at hnames
  unfold checkMembers
  rw [habsent, hall fun name => allowed.any fun text => name = Utf16.ofString text]

/-- Reading a call of one method does not depend on the order of members. -/
private theorem ofValueAs_congr (h : SameUpToOrder v w) (hv : IsJson v) (method : ClaimCall) :
    ofValueAs method v = ofValueAs method w := by
  cases hv with
  | @obj ms hms =>
    cases w with
    | obj ns =>
      -- Only a transfer has a receiver.
      have haction : readAction ms method = readAction ns method := by
        cases method with
        | transfer => rw [readAction, readAction, readNonEmpty_congr (h.member hms "dest")]
        | _ => rfl
      simp only [ofValueAs]
      rw [checkMembers_congr h hms, checkMethod_congr (h.member hms "method"),
        readProof_congr (h.member hms "proof"), readNonce_congr (h.member hms "nonce"), haction]
    | _ => cases h
  | _ =>
    cases h
    rfl

/-- Reading a call does not depend on the order of members. -/
theorem ofValue_congr (h : SameUpToOrder v w) (hv : IsJson v) : ofValue v = ofValue w := by
  unfold ofValue
  rw [ofValueAs_congr h hv, ofValueAs_congr h hv, ofValueAs_congr h hv]

/-! ## Reading the members of a call -/

theorem readProof_ofString {proof : String} (h : Hex.isHex proof = true) (path : String) :
    readProof path (.ofString proof) = .ok proof := by
  rw [Value.ofString, readProof, Utf16.toString_ofString, if_pos h]

theorem of_readProof {path proof : String} (h : readProof path v = .ok proof) :
    v = .ofString proof ∧ Hex.isHex proof = true := by
  cases v with
  | str s =>
    rw [readProof] at h
    split at h
    · rename_i hhex
      cases h
      exact ⟨by rw [Value.ofString, Hex.ofString_toString hhex], hhex⟩
    · cases h
  | _ => cases h

theorem readNonce_ofNat {n : Nat} (h : n ≤ maxSafeInteger) (path : String) :
    readNonce path (.num (.ofNat n)) = .ok n := by
  have hfinite : Number.ofNat n = .finite n := Number.ofNat_of_le (by omega)
  have hint : (Number.ofNat n).toInt? = some (n : Int) := by
    rw [hfinite, Number.toInt?, if_pos (Rat.den_natCast n), Rat.num_natCast]
  rw [hfinite] at hint ⊢
  simp only [readNonce, hint]
  rw [if_neg (by omega), if_neg (by omega)]
  rfl

theorem of_readNonce {path : String} {n : Nat} (h : readNonce path v = .ok n) :
    v = .num (.ofNat n) ∧ n ≤ maxSafeInteger := by
  unfold readNonce at h
  split at h
  · cases h
  · cases h
  · -- A number within the bounds that the reader checks one by one.
    rename_i x _ _
    split at h
    · cases h
    · rename_i m hint
      split at h
      · cases h
      · split at h
        · cases h
        · cases h
          have hnat : m = (m.toNat : Int) := by omega
          have hsafe : x.toSafeNat? = some m.toNat := by
            unfold Number.toSafeNat?
            rw [hint, hnat]
            exact if_pos (by omega)
          rw [(Number.eq_ofNat_of_toSafeNat? hsafe).1]
          exact ⟨rfl, by omega⟩
  · cases h

theorem readNonEmpty_ofString {text : String} (h : text ≠ "") (path : String) :
    readNonEmpty path (.ofString text) = .ok text := by
  have hunits : (Utf16.ofString text).units.isEmpty = false := by
    rw [List.isEmpty_eq_false_iff]
    exact fun hnil => h (Utf16.ofString_injective (congrArg Utf16.mk hnil))
  rw [Value.ofString, readNonEmpty, hunits, Utf16.toString_ofString]
  rfl

private theorem of_readNonEmpty {path text : String} (hv : IsJson v)
    (h : readNonEmpty path v = .ok text) : v = .ofString text ∧ text ≠ "" := by
  cases hv with
  | str s =>
    rw [Value.ofString, readNonEmpty, Utf16.toString_ofString] at h
    split at h
    · cases h
    · rename_i hunits
      cases h
      refine ⟨rfl, fun hempty => hunits ?_⟩
      rw [hempty]
      rfl
  | _ => cases h

/-- Members pass the check for their names when the required ones are there and all are allowed. -/
theorem checkMembers_eq_ok_iff {path : String} {required allowed : List String} :
    checkMembers path required allowed ms = .ok () ↔
      (∀ name ∈ required, (Value.member name ms).isAbsent = false) ∧
        ∀ m ∈ ms, ∃ name ∈ allowed, m.1 = Utf16.ofString name := by
  have hall : (ms.all fun m => allowed.any fun name => m.1 = Utf16.ofString name) = true ↔
      ∀ m ∈ ms, ∃ name ∈ allowed, m.1 = Utf16.ofString name := by
    simp only [List.all_eq_true, List.any_eq_true, decide_eq_true_eq]
  unfold checkMembers
  cases hfind : required.find? fun name => (Value.member name ms).isAbsent with
  -- A required name is missing.
  | some name =>
    have habsent := List.find?_some hfind
    refine ⟨nofun, fun ⟨hpresent, _⟩ => ?_⟩
    rw [hpresent name (List.mem_of_find?_eq_some hfind)] at habsent
    cases habsent
  -- All required names are there, and it depends on the others.
  | none =>
    have hpresent : ∀ name ∈ required, (Value.member name ms).isAbsent = false :=
      fun name hname => by simpa using List.find?_eq_none.1 hfind name hname
    rw [← hall]
    dsimp only
    split
    · rename_i h
      exact ⟨fun _ => ⟨hpresent, h⟩, fun _ => rfl⟩
    · rename_i h
      exact ⟨nofun, fun hboth => absurd hboth.2 h⟩

/-- All members are there and there are no others. -/
private theorem names_of_checkMembers {path : String} {names : List String}
    (hms : (ms.map Prod.fst).Nodup) (hnames : names.Nodup)
    (h : checkMembers path names names ms = .ok ()) :
    (ms.map Prod.fst).Perm (names.map Utf16.ofString) := by
  obtain ⟨hpresent, hallowed⟩ := checkMembers_eq_ok_iff.1 h
  have hinjective : Function.Injective Utf16.ofString := fun _ _ => Utf16.ofString_injective
  refine (List.perm_ext_iff_of_nodup hms (hnames.map hinjective)).2 fun text => ?_
  constructor
  · -- A member that is there is allowed.
    intro htext
    obtain ⟨m, hm, rfl⟩ := List.mem_map.1 htext
    obtain ⟨name, hname, hmname⟩ := hallowed m hm
    exact List.mem_map.2 ⟨name, hname, hmname.symm⟩
  · -- A name that is allowed is required, too.
    intro htext
    obtain ⟨name, hname, rfl⟩ := List.mem_map.1 htext
    -- A required name that is missing would look up nothing.
    by_contra hmissing
    have habsent := hpresent name hname
    rw [member_of_notMem hmissing] at habsent
    cases habsent

/-! ## Calls -/

/-- The members that a call has, in the order of the schema. -/
def entries (c : Call) : List (String × Value) :=
  [("method", .ofString c.method.name), ("proof", .ofString c.proof),
    ("nonce", .num (.ofNat c.nonce))] ++
      c.action.dest?.toList.map fun dest => ("dest", .ofString dest)

/-- A call as a JSON value. -/
def toJson (c : Call) : Value := .object c.entries

/-- What the schema asks of a call. -/
structure Valid (c : Call) : Prop where
  proof : Hex.isHex c.proof = true
  nonce : c.nonce ≤ maxSafeInteger
  dest : ∀ dest, c.action.dest? = some dest → dest ≠ ""

theorem names_entries (c : Call) : c.entries.map Prod.fst = memberNames c.method := by
  obtain ⟨action, proof, nonce⟩ := c
  cases action <;> rfl

/-- A sequence of checks that succeeds has passed its first one. -/
theorem of_bind_eq_ok {ε α β : Type} {x : Except ε α} {f : α → Except ε β} {b : β}
    (h : x >>= f = .ok b) : ∃ a, x = .ok a ∧ f a = .ok b := by
  cases x with
  | error e => cases h
  | ok a => exact ⟨a, rfl, h⟩

private theorem of_checkMethod {method : ClaimCall} (h : checkMethod method v = .ok ()) :
    v = .ofString method.name := by
  cases v with
  | str name =>
    simp only [checkMethod] at h
    split at h
    · rename_i hname
      rw [hname]
      rfl
    · cases h
  | _ => cases h

/-- What the reader of one method checks. -/
theorem ofValueAs_eq_ok_iff {method : ClaimCall} {c : Call} : ofValueAs method v = .ok c ↔
    ∃ ms, v = .obj ms ∧
      checkMembers "/call" (memberNames method) (memberNames method) ms = .ok () ∧
      Value.member "method" ms = .ofString method.name ∧
      readProof "/call/proof" (Value.member "proof" ms) = .ok c.proof ∧
      readNonce "/call/nonce" (Value.member "nonce" ms) = .ok c.nonce ∧
      readAction ms method = .ok c.action := by
  constructor
  · -- The reader does its checks in order, so all of them have passed.
    intro h
    cases v with
    | obj ms =>
      obtain ⟨⟨⟩, hmembers, h⟩ := of_bind_eq_ok h
      obtain ⟨⟨⟩, hmethod, h⟩ := of_bind_eq_ok h
      obtain ⟨proof, hproof, h⟩ := of_bind_eq_ok h
      obtain ⟨nonce, hnonce, h⟩ := of_bind_eq_ok h
      obtain ⟨action, haction, h⟩ := of_bind_eq_ok h
      cases h
      exact ⟨ms, rfl, hmembers, of_checkMethod hmethod, hproof, hnonce, haction⟩
    | _ => cases h
  · -- All checks pass, in the same order.
    rintro ⟨ms, rfl, hmembers, hmethod, hproof, hnonce, haction⟩
    have hchecked : checkMethod method (.ofString method.name) = .ok () := if_pos rfl
    show (do
      checkMembers "/call" (memberNames method) (memberNames method) ms
      checkMethod method (Value.member "method" ms)
      let proof ← readProof "/call/proof" (Value.member "proof" ms)
      let nonce ← readNonce "/call/nonce" (Value.member "nonce" ms)
      let action ← readAction ms method
      return ⟨action, proof, nonce⟩) = Except.ok c
    rw [hmembers, hmethod, hchecked, hproof, hnonce, haction]
    rfl

/-- A call that was read has the members that it was read from. -/
private theorem of_ofValueAs {method : ClaimCall} {c : Call} (hv : IsJson v)
    (h : ofValueAs method v = .ok c) :
    c.method = method ∧ c.Valid ∧ ∃ ms, v = .obj ms ∧
      ms.Perm (c.entries.map fun m => (Utf16.ofString m.1, m.2)) := by
  obtain ⟨ms, rfl, hmembers, hmethod, hproof, hnonce, haction⟩ := ofValueAs_eq_ok_iff.1 h
  obtain ⟨action, proof, nonce⟩ := c
  cases hv with
  | @obj ms hms htexts hvalues =>
    have hnodup : (memberNames method).Nodup := by cases method <;> decide
    have hnames := names_of_checkMembers hms hnodup hmembers
    have hpresent := (checkMembers_eq_ok_iff.1 hmembers).1
    have hmember (name : String) (hname : name ∈ memberNames method) :
        IsJson (Value.member name ms) :=
      IsJson.member (.obj hms htexts hvalues) (hpresent name hname)
    -- What the members look up is what the reader has made the call of.
    have hperm := perm_map_member hms hnames
    obtain ⟨hproof, hhex⟩ := of_readProof hproof
    obtain ⟨hnonce, hle⟩ := of_readNonce hnonce
    cases method with
    | transfer =>
      obtain ⟨dest, hdest, h⟩ := of_bind_eq_ok haction
      cases h
      obtain ⟨hdest, hne⟩ := of_readNonEmpty (hmember "dest" (by decide)) hdest
      simp only [memberNames, List.map_cons, List.map_nil, hmethod, hproof, hnonce, hdest] at hperm
      exact ⟨rfl, ⟨hhex, hle, fun _ h => Option.some.inj h ▸ hne⟩, ms, rfl, hperm⟩
    | create | revoke =>
      cases haction
      simp only [memberNames, List.map_cons, List.map_nil, hmethod, hproof, hnonce] at hperm
      exact ⟨rfl, ⟨hhex, hle, nofun⟩, ms, rfl, hperm⟩

/-- At most one reader accepts a value, because each asks for its own method. -/
private theorem method_unique {method method' : ClaimCall} {c c' : Call}
    (h : ofValueAs method v = .ok c) (h' : ofValueAs method' v = .ok c') : method = method' := by
  obtain ⟨ms, rfl, -, hname, -⟩ := ofValueAs_eq_ok_iff.1 h
  obtain ⟨_, hms, -, hname', -⟩ := ofValueAs_eq_ok_iff.1 h'
  cases hms
  -- Both methods are spelled by the one member `method`.
  have hsame := hname.symm.trans hname'
  rw [Value.ofString, Value.ofString, Value.str.injEq, Utf16.ofString_inj] at hsame
  have hinjective : ∀ m m' : ClaimCall, m.name = m'.name → m = m' := by
    rintro ⟨⟩ ⟨⟩ <;> decide
  exact hinjective _ _ hsame

/-- A call is read if the reader of some method reads it. -/
theorem ofValue_of_ofValueAs {method : ClaimCall} {c : Call}
    (h : ofValueAs method v = .ok c) : ofValue v = .ok c := by
  -- No other reader accepts the value, for its method says which one it is.
  have hrefused (method' : ClaimCall) (hne : method ≠ method') :
      ∃ violation, ofValueAs method' v = .error violation := by
    cases h' : ofValueAs method' v with
    | error violation => exact ⟨violation, rfl⟩
    | ok c' => exact absurd (method_unique h h') hne
  -- The readers are tried in turn, and those before the right one refuse.
  unfold ofValue
  cases method with
  | create => rw [h]
  | revoke =>
    obtain ⟨e₁, h₁⟩ := hrefused .create nofun
    rw [h₁, h]
  | transfer =>
    obtain ⟨e₁, h₁⟩ := hrefused .create nofun
    obtain ⟨e₂, h₂⟩ := hrefused .revoke nofun
    rw [h₁, h₂, h]

theorem exists_of_ofValue {c : Call} (h : ofValue v = .ok c) :
    ∃ method, ofValueAs method v = .ok c := by
  unfold ofValue at h
  split at h
  · rename_i hread
    cases h
    exact ⟨_, hread⟩
  · split at h
    · rename_i hread
      cases h
      exact ⟨_, hread⟩
    · split at h
      · rename_i hread
        cases h
        exact ⟨_, hread⟩
      · cases h

/-- Only safe integers are read as nonces. -/
theorem nonce_le_of_ofValue {c : Call} (h : ofValue v = .ok c) : c.nonce ≤ maxSafeInteger := by
  obtain ⟨method, h⟩ := exists_of_ofValue h
  obtain ⟨ms, -, -, -, -, hnonce, -⟩ := ofValueAs_eq_ok_iff.1 h
  exact (of_readNonce hnonce).2

private theorem ne_empty_of_readNonEmpty {path text : String}
    (h : readNonEmpty path v = .ok text) : text ≠ "" := by
  unfold readNonEmpty at h
  split at h
  · rename_i units
    split at h
    · cases h
    · rename_i hunits
      cases h
      exact Utf16.toString_ne_empty (by simpa using hunits)
  · cases h

/-- A call that is read keeps to the bounds of the schema, whatever it was read from. -/
theorem valid_of_ofValue {c : Call} (h : ofValue v = .ok c) : c.Valid := by
  obtain ⟨method, hread⟩ := exists_of_ofValue h
  obtain ⟨ms, -, -, -, hproof, -, haction⟩ := ofValueAs_eq_ok_iff.1 hread
  refine ⟨(of_readProof hproof).2, nonce_le_of_ofValue h, fun dest hdest => ?_⟩
  cases method with
  | transfer =>
    obtain ⟨dest', hdest', haction⟩ := of_bind_eq_ok haction
    rw [← Except.ok.inj haction] at hdest
    obtain rfl : dest' = dest := Option.some.inj hdest
    exact ne_empty_of_readNonEmpty hdest'
  | create | revoke =>
    rw [← Except.ok.inj haction] at hdest
    cases hdest

/-- Members that are there pass the check for their names. -/
theorem checkMembers_object (path : String) (required allowed : List String)
    {entries : List (String × Value)} (hnames : (entries.map Prod.fst).Nodup)
    (hvalues : ∀ m ∈ entries, m.2.isAbsent = false)
    (hrequired : ∀ name ∈ required, name ∈ entries.map Prod.fst)
    (hallowed : ∀ name ∈ entries.map Prod.fst, name ∈ allowed) :
    checkMembers path required allowed (entries.map fun m => (Utf16.ofString m.1, m.2)) =
      .ok () := by
  refine checkMembers_eq_ok_iff.2 ⟨fun name hname => ?_, fun m hm => ?_⟩
  · obtain ⟨m, hm, rfl⟩ := List.mem_map.1 (hrequired name hname)
    rw [member_object hnames hm]
    exact hvalues m hm
  · obtain ⟨e, he, rfl⟩ := List.mem_map.1 hm
    exact ⟨e.1, hallowed _ (List.mem_map_of_mem he), rfl⟩

theorem isAbsent_entries (c : Call) : ∀ m ∈ c.entries, m.2.isAbsent = false := by
  obtain ⟨action, proof, nonce⟩ := c
  cases action <;> simp [entries, CallAction.dest?, Value.ofString, Value.isAbsent]

theorem nodup_entries (c : Call) : (c.entries.map Prod.fst).Nodup := by
  rw [names_entries]
  cases c.method <;> decide

/-- The members of a call, in the order of the schema, are read as that call. -/
private theorem ofValueAs_toJson {c : Call} (hc : c.Valid) :
    ofValueAs c.method c.toJson = .ok c := by
  have hmember {name : String} {v : Value} (h : (name, v) ∈ c.entries) :
      Value.member name (c.entries.map fun m => (Utf16.ofString m.1, m.2)) = v :=
    member_object c.nodup_entries h
  have hmembers := checkMembers_object "/call" (memberNames c.method) (memberNames c.method)
    c.nodup_entries c.isAbsent_entries (fun _ h => c.names_entries ▸ h)
    fun _ h => c.names_entries ▸ h
  have hmethod : Value.member "method" _ = .ofString c.method.name := hmember (by simp [entries])
  have hproof : Value.member "proof" _ = .ofString c.proof := hmember (by simp [entries])
  have hnonce : Value.member "nonce" _ = .num (.ofNat c.nonce) := hmember (by simp [entries])
  have haction : readAction (c.entries.map fun m => (Utf16.ofString m.1, m.2)) c.method =
      .ok c.action := by
    obtain ⟨action, proof, nonce⟩ := c
    cases action with
    | transfer dest =>
      have hdest : Value.member "dest" _ = .ofString dest :=
        hmember (by simp [entries, CallAction.dest?])
      show (do return CallAction.transfer (← readNonEmpty "/call/dest" (Value.member "dest" _))) = _
      rw [hdest, readNonEmpty_ofString (hc.dest dest rfl)]
      rfl
    | create | revoke => rfl
  refine ofValueAs_eq_ok_iff.2 ⟨_, rfl, hmembers, hmethod, ?_, ?_, haction⟩
  · rw [hproof, readProof_ofString hc.proof]
  · rw [hnonce, readNonce_ofNat hc.nonce]

/-- A call with the number above the safe integers as its nonce is not read, in any order of its
members. -/
theorem ofValue_of_nonce_eq {c : Call} (hnonce : c.nonce = maxSafeInteger + 1)
    (h : SameUpToOrder v c.toJson) : ∃ violations, ofValue v = .error violations := by
  -- The readers before the nonce may have refused it.
  cases hread : ofValue v with
  | error violations => exact ⟨violations, rfl⟩
  | ok c' =>
    obtain ⟨method, hread⟩ := exists_of_ofValue hread
    obtain ⟨ms, rfl, -, -, -, hread, -⟩ := ofValueAs_eq_ok_iff.1 hread
    obtain ⟨_, hms, hmembers⟩ := h.exists_members c.nodup_entries
    cases hms
    -- The reader has found the nonce of `c`, which breaks a bound.
    have hsame := hmembers ("nonce", .num (.ofNat c.nonce)) (by simp [entries])
    have hnum : Value.member "nonce" ms = .num (.ofNat c.nonce) := by
      generalize Value.member "nonce" ms = u at hsame
      cases hsame
      rfl
    rw [hnum, hnonce] at hread
    cases hread

/-- A call that keeps to the bounds of the schema is a JSON value. -/
theorem Valid.isJson {c : Call} (hc : c.Valid) : IsJson c.toJson := by
  refine .object c.nodup_entries fun m hm => ?_
  have hnonce : IsJson (.num (.ofNat c.nonce)) := .num (by simpa using hc.nonce)
  simp only [entries, List.mem_append, List.mem_cons, List.mem_map, List.not_mem_nil] at hm
  rcases hm with (rfl | rfl | rfl | h) | ⟨dest, -, rfl⟩
  · exact .str _
  · exact .str _
  · exact hnonce
  · exact h.elim
  · exact .str _

/-- A JSON value is read as a call exactly when it is that call with its members in some order, and
the call keeps to the bounds of the schema. -/
theorem ofValue_eq_ok_iff {c : Call} (hv : IsJson v) :
    ofValue v = .ok c ↔ SameUpToOrder v c.toJson ∧ c.Valid := by
  constructor
  · intro h
    obtain ⟨method, h⟩ := exists_of_ofValue h
    obtain ⟨-, hvalid, ms, rfl, hperm⟩ := of_ofValueAs hv h
    exact ⟨sameUpToOrder_of_perm hperm, hvalid⟩
  · rintro ⟨hsame, hvalid⟩
    rw [ofValue_congr hsame hv]
    exact ofValue_of_ofValueAs (ofValueAs_toJson hvalid)

end Call

/-! ## Envelopes -/

namespace Envelope

open Call

variable {v w : Value} {ms ns : List (Utf16 × Value)}

private theorem checkDependency_congr (h : SameUpToOrder (.obj ms) (.obj ns))
    (hms : (ms.map Prod.fst).Nodup) (present needed : String) :
    checkDependency present needed ms = checkDependency present needed ns := by
  unfold checkDependency
  rw [(h.member hms present).isAbsent, (h.member hms needed).isAbsent]

/-- Credentials are read if both members are there. -/
theorem readCredentials_eq (ms : List (Utf16 × Value)) :
    readCredentials ms =
      if (Value.member "signer" ms).isAbsent || (Value.member "signature" ms).isAbsent then .ok none
      else do
        let signer ← readNonEmpty "/signer" (Value.member "signer" ms)
        let signature ← readNonEmpty "/signature" (Value.member "signature" ms)
        return some ⟨signer, signature⟩ := by
  unfold readCredentials
  generalize Value.member "signer" ms = signer
  generalize Value.member "signature" ms = signature
  split
  · rfl
  · rw [isAbsent, Bool.or_true, if_pos rfl]
  · rename_i hsigner hsignature
    have hnot {u : Value} (h : u = .absent → False) : u.isAbsent = false :=
      Bool.eq_false_iff.2 fun habsent => h (eq_absent_of_isAbsent habsent)
    rw [hnot hsigner, hnot hsignature]
    rfl

private theorem readCredentials_congr (h : SameUpToOrder (.obj ms) (.obj ns))
    (hms : (ms.map Prod.fst).Nodup) : readCredentials ms = readCredentials ns := by
  have hsigner := h.member hms "signer"
  have hsignature := h.member hms "signature"
  rw [readCredentials_eq, readCredentials_eq, hsigner.isAbsent, hsignature.isAbsent,
    readNonEmpty_congr hsigner, readNonEmpty_congr hsignature]

/-- Reading an envelope does not depend on the order of members. -/
theorem ofValue_congr (h : SameUpToOrder v w) (hv : IsJson v) : ofValue v = ofValue w := by
  cases hv with
  | @obj ms hms htexts hvalues =>
    cases w with
    | obj ns =>
      -- The two objects have the same members up to order, and each reader looks up members by
      -- name.
      have hmembers : checkMembers ms = checkMembers ns := by
        unfold checkMembers
        rw [checkMembers_congr h hms, checkDependency_congr h hms, checkDependency_congr h hms]
      have hcall : Call.ofValue (Value.member "call" ms) =
          Call.ofValue (Value.member "call" ns) := by
        have hsame := h.member hms "call"
        -- An absent member is no JSON value, so it is treated apart.
        cases habsent : (Value.member "call" ms).isAbsent with
        | true =>
          have habsent' := hsame.isAbsent.symm.trans habsent
          rw [eq_absent_of_isAbsent habsent, eq_absent_of_isAbsent habsent']
        | false => exact Call.ofValue_congr hsame (IsJson.member (.obj hms htexts hvalues) habsent)
      simp only [ofValue]
      rw [hmembers, hcall, readCredentials_congr h hms]
    | _ => cases h
  | _ =>
    cases h
    rfl

/-- The members that an envelope has, in the order of the schema. -/
def entries (e : Envelope) : List (String × Value) :=
  ("call", e.call.toJson) ::
    match e.credentials with
    | none => []
    | some c => [("signer", .ofString c.signer), ("signature", .ofString c.signature)]

/-- An envelope as a JSON value. -/
def toJson (e : Envelope) : Value := .object e.entries

/-- What the schema asks of an envelope. -/
structure Valid (e : Envelope) : Prop where
  call : e.call.Valid
  credentials : ∀ c, e.credentials = some c → c.signer ≠ "" ∧ c.signature ≠ ""

theorem nodup_entries (e : Envelope) : (e.entries.map Prod.fst).Nodup := by
  obtain ⟨call, credentials⟩ := e
  cases credentials with
  | none => exact List.nodup_singleton _
  | some c =>
    show ["call", "signer", "signature"].Nodup
    decide

theorem isAbsent_entries (e : Envelope) : ∀ m ∈ e.entries, m.2.isAbsent = false := by
  obtain ⟨call, credentials⟩ := e
  cases credentials <;> simp [entries, Call.toJson, Value.object, Value.ofString, Value.isAbsent]

/-- An envelope that keeps to the bounds of the schema is a JSON value. -/
theorem Valid.isJson {e : Envelope} (he : e.Valid) : IsJson e.toJson := by
  refine .object e.nodup_entries fun m hm => ?_
  obtain ⟨call, credentials⟩ := e
  cases credentials with
  | none =>
    obtain rfl := List.mem_singleton.1 hm
    exact he.call.isJson
  | some c =>
    simp only [entries, List.mem_cons, List.not_mem_nil, or_false] at hm
    rcases hm with rfl | rfl | rfl
    · exact he.call.isJson
    · exact .str _
    · exact .str _

/-- The dependencies hold if a signer and a signature are both there or both missing. -/
theorem checkMembers_eq_ok_iff : checkMembers ms = .ok () ↔
    Call.checkMembers "" ["call"] ["call", "signer", "signature"] ms = .ok () ∧
      (Value.member "signer" ms).isAbsent = (Value.member "signature" ms).isAbsent := by
  unfold checkMembers checkDependency
  cases hnames : Call.checkMembers "" ["call"] ["call", "signer", "signature"] ms with
  | error violation => exact iff_of_false nofun nofun
  | ok _ =>
    cases (Value.member "signer" ms).isAbsent <;> cases (Value.member "signature" ms).isAbsent
    · exact iff_of_true rfl ⟨rfl, rfl⟩
    · exact iff_of_false nofun nofun
    · exact iff_of_false nofun nofun
    · exact iff_of_true rfl ⟨rfl, rfl⟩

/-- An envelope is read from an object when each part of it is. -/
theorem ofValue_obj_eq_ok_iff {e : Envelope} : ofValue (.obj ms) = .ok e ↔
    checkMembers ms = .ok () ∧ Call.ofValue (Value.member "call" ms) = .ok e.call ∧
      readCredentials ms = .ok e.credentials := by
  have hmapError {α : Type} {x : Except Violation α} {a : α} :
      x.mapError List.singleton = .ok a ↔ x = .ok a := by
    cases x <;> simp [Except.mapError]
  constructor
  · -- All checks have passed.
    intro h
    obtain ⟨⟨⟩, hmembers, h⟩ := of_bind_eq_ok h
    obtain ⟨call, hcall, h⟩ := of_bind_eq_ok h
    obtain ⟨credentials, hcredentials, h⟩ := of_bind_eq_ok h
    cases h
    exact ⟨hmapError.1 hmembers, hcall, hmapError.1 hcredentials⟩
  · -- All checks pass.
    rintro ⟨hmembers, hcall, hcredentials⟩
    show (do
      (checkMembers ms).mapError List.singleton
      let call ← Call.ofValue (Value.member "call" ms)
      let credentials ← (readCredentials ms).mapError List.singleton
      return ⟨call, credentials⟩) = Except.ok e
    rw [hmembers, hcall, hcredentials]
    rfl

/-- The credentials of an envelope are read as they were written. -/
private theorem readCredentials_entries {e : Envelope} (he : e.Valid) :
    (Value.member "signer" (e.entries.map fun m => (Utf16.ofString m.1, m.2))).isAbsent =
        (Value.member "signature" (e.entries.map fun m => (Utf16.ofString m.1, m.2))).isAbsent ∧
      readCredentials (e.entries.map fun m => (Utf16.ofString m.1, m.2)) =
        .ok e.credentials := by
  rw [readCredentials_eq]
  obtain ⟨call, credentials⟩ := e
  cases credentials with
  | none =>
    -- Nobody has signed, and neither member is there.
    have hmissing (name : String) (h : name ≠ "call") :
        Value.member name ((entries ⟨call, none⟩).map fun m => (Utf16.ofString m.1, m.2)) =
          .absent := by
      refine member_object_of_notMem ?_
      simpa only [entries, List.map_cons, List.map_nil, List.mem_singleton] using h
    rw [hmissing "signer" (by decide), hmissing "signature" (by decide)]
    exact ⟨rfl, rfl⟩
  | some c =>
    -- Both members are there, and they are not empty.
    obtain ⟨hsigner, hsignature⟩ := he.credentials c rfl
    have hnames := nodup_entries ⟨call, some c⟩
    have hmember : Value.member "signer" _ = .ofString c.signer :=
      member_object hnames (by simp [entries])
    have hmember' : Value.member "signature" _ = .ofString c.signature :=
      member_object hnames (by simp [entries])
    rw [hmember, hmember', readNonEmpty_ofString hsigner, readNonEmpty_ofString hsignature]
    exact ⟨rfl, rfl⟩

/-- The members of an envelope, in the order of the schema, are read as that envelope. -/
private theorem ofValue_toJson {e : Envelope} (he : e.Valid) : ofValue e.toJson = .ok e := by
  have hcall : Call.ofValue e.call.toJson = .ok e.call :=
    (Call.ofValue_eq_ok_iff he.call.isJson).2 ⟨.refl _, he.call⟩
  have hmember : Value.member "call" _ = e.call.toJson :=
    member_object e.nodup_entries List.mem_cons_self
  obtain ⟨hboth, hcredentials⟩ := readCredentials_entries he
  have hallowed := Call.checkMembers_object "" ["call"] ["call", "signer", "signature"]
    e.nodup_entries e.isAbsent_entries (by simp [entries]) (by
      obtain ⟨call, credentials⟩ := e
      cases credentials <;> simp [entries])
  refine ofValue_obj_eq_ok_iff.2 ⟨checkMembers_eq_ok_iff.2 ⟨hallowed, hboth⟩, ?_, hcredentials⟩
  rw [hmember, hcall]

/-- An envelope that was read has a call that was read. -/
private theorem call_of_ofValue {e : Envelope} (h : ofValue v = .ok e) :
    ∃ ms, v = .obj ms ∧ Call.ofValue (Value.member "call" ms) = .ok e.call := by
  cases v with
  | obj ms => exact ⟨ms, rfl, (ofValue_obj_eq_ok_iff.1 h).2.1⟩
  | _ => cases h

/-- The calls of envelopes that are read have safe integers as nonces. -/
theorem nonce_le_of_ofValue {e : Envelope} (h : ofValue v = .ok e) :
    e.call.nonce ≤ maxSafeInteger := by
  obtain ⟨ms, -, hcall⟩ := call_of_ofValue h
  exact Call.nonce_le_of_ofValue hcall

/-- The calls of envelopes that are read keep to the bounds of the schema. -/
theorem valid_call_of_ofValue {e : Envelope} (h : ofValue v = .ok e) : e.call.Valid := by
  obtain ⟨ms, -, hcall⟩ := call_of_ofValue h
  exact Call.valid_of_ofValue hcall

/-- An envelope whose call has the number above the safe integers as its nonce is not read. -/
theorem ofValue_of_nonce_eq {e : Envelope} (hnonce : e.call.nonce = maxSafeInteger + 1)
    (h : SameUpToOrder v e.toJson) : ∃ violations, ofValue v = .error violations := by
  cases hread : ofValue v with
  | error violations => exact ⟨violations, rfl⟩
  | ok e' =>
    obtain ⟨ms, rfl, hcall⟩ := call_of_ofValue hread
    obtain ⟨_, hms, hmembers⟩ := h.exists_members e.nodup_entries
    cases hms
    obtain ⟨violations, hrefused⟩ :=
      Call.ofValue_of_nonce_eq hnonce (hmembers ("call", e.call.toJson) List.mem_cons_self)
    cases hrefused.symm.trans hcall

/-- The members of an envelope, in any order, are read as that envelope. -/
theorem ofValue_eq_ok {e : Envelope} (he : e.Valid) (h : SameUpToOrder v e.toJson) :
    ofValue v = .ok e := by
  rw [ofValue_congr h (h.isJson he.isJson), ofValue_toJson he]

end Envelope

end ProofOfExistence
