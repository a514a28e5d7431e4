import ProofOfExistence.Proofs.JsonTokens
import ProofOfExistence.Proofs.MemberOrder

/-!
# JSON text without white space reads back

`Value.written` writes a value with its members in the order in which they stand.  Each reader takes
exactly the text that its writer made, so lists and objects are taken item by item.

Canonical and compact text are written texts of an arrangement of the value: of its members sorted
by name, and of its members with those named by an index first.  Reading either one gives the value
back up to the order of its members.

## Key results

- `Value.readValue_written`: a JSON value is read off the front of a longer text
- `Value.parse_written`: a written JSON value reads back unchanged
- `Value.canonicalChars_eq_written`, `Value.compactChars_eq_written`: the two texts of a value
-/

namespace ProofOfExistence

namespace Value

/-! ## Values -/

mutual

/-- The text of a value without white space, its members as they stand. -/
def written : Value → List Char
  | absent => ['n', 'u', 'l', 'l']
  | null => ['n', 'u', 'l', 'l']
  | bool b => (if b then "true" else "false").toList
  | num (.finite q) => Number.finiteText q
  | num _ => ['n', 'u', 'l', 'l']
  | str s => s.quoted
  | arr items => '[' :: (commaJoined (writtenItems items) ++ [']'])
  | obj members => '{' :: (commaJoined (writtenMembers members) ++ ['}'])

/-- The texts of list items. -/
def writtenItems : List Value → List (List Char)
  | [] => []
  | v :: rest => written v :: writtenItems rest

/-- The texts of members. -/
def writtenMembers : List (Utf16 × Value) → List (List Char)
  | [] => []
  | (name, v) :: rest => memberText name (written v) :: writtenMembers rest

end

@[simp] theorem writtenItems_eq_map (items : List Value) :
    writtenItems items = items.map written := by
  induction items with
  | nil => rfl
  | cons v rest ih => rw [writtenItems, ih, List.map_cons]

@[simp] theorem writtenMembers_eq_map (members : List (Utf16 × Value)) :
    writtenMembers members = members.map fun m => memberText m.1 (written m.2) := by
  induction members with
  | nil => rfl
  | cons m rest ih => rw [writtenMembers, ih, List.map_cons]

theorem written_arr (items : List Value) :
    written (.arr items) = '[' :: (commaJoined (items.map written) ++ [']']) := by
  rw [written, writtenItems_eq_map]

theorem written_obj (members : List (Utf16 × Value)) :
    written (.obj members) =
      '{' :: (commaJoined (members.map fun m => memberText m.1 (written m.2)) ++ ['}']) := by
  rw [written, writtenMembers_eq_map]

/-- Where its text ends at a delimiter, a value is read back, within a bound that its text gives. -/
def ReadsBack (v : Value) : Prop :=
  ∀ n rest, (written v).length ≤ n → AtDelimiter rest →
    readValue n (written v ++ rest) = some (v, rest)

private theorem written_num {n : Int} (hn : n.natAbs ≤ maxSafeInteger) :
    written (.num (.ofInt n)) = Number.finiteText n := by
  rw [Number.ofInt_of_natAbs_le (by omega), written]

/-- The text of a value begins with a character that is no blank and closes no list. -/
private theorem written_eq_cons {v : Value} (h : IsJson v) :
    ∃ c cs, written v = c :: cs ∧ isBlank c = false ∧ c ≠ ']' := by
  cases h with
  | null => exact ⟨_, _, rfl, by decide⟩
  | bool b => cases b <;> exact ⟨_, _, rfl, by decide⟩
  | num hn =>
    obtain ⟨c, cs, hcons, hc⟩ := finiteText_eq_cons hn
    refine ⟨c, cs, (written_num hn).trans hcons, ?_⟩
    rcases hc with rfl | hdigit
    · decide
    -- Neither a blank nor a bracket is a digit.
    · have hblank : ∀ d, isBlank d = true ∨ d = ']' → d.isDigit = false := by
        intro d hd
        simp only [isBlank, Bool.or_eq_true, decide_eq_true_eq] at hd
        rcases hd with (((rfl | rfl) | rfl) | rfl) | rfl <;> decide
      constructor
      · exact Bool.eq_false_iff.2 fun h => absurd (hblank c (.inl h)) (by simp [hdigit])
      · exact fun h => absurd (hblank c (.inr h)) (by simp [hdigit])
  | str s => exact ⟨_, _, rfl, by decide⟩
  | arr => exact ⟨_, _, written_arr _, by decide⟩
  | obj => exact ⟨_, _, written_obj _, by decide⟩

/-- What begins with no blank is not shortened. -/
private theorem skipBlanks_cons {c : Char} (h : isBlank c = false) (cs : List Char) :
    skipBlanks (c :: cs) = c :: cs :=
  List.dropWhile_cons_of_neg (by rw [h]; decide)

/-- A list of texts begins as its first text does. -/
private theorem commaJoined_eq_cons (c : Char) (text : List Char) (texts : List (List Char)) :
    ∃ cs, commaJoined ((c :: text) :: texts) = c :: cs := by
  cases texts <;> exact ⟨_, rfl⟩

private theorem readsBack_num {n : Int} (hn : n.natAbs ≤ maxSafeInteger) :
    ReadsBack (.num (.ofInt n)) := by
  intro bound rest hbound hrest
  have hread := readNumber_finiteText hn hrest
  obtain ⟨c, cs, hcons, hc⟩ := finiteText_eq_cons hn
  rw [written_num hn] at hbound ⊢
  have hpos : bound ≠ 0 := by
    rintro rfl
    rw [hcons] at hbound
    cases hbound
  -- None of the words, quotes and brackets begins like a number.
  -- The reader comes to the case of numbers only after all others.
  have hother (d : Char) (hd : (d == '-' || d.isDigit) = false) (tail : List Char) :
      Number.finiteText n ++ rest ≠ d :: tail := by
    rw [hcons, List.cons_append]
    intro h
    rw [List.cons.injEq] at h
    rcases hc with rfl | hdigit
    · rw [← h.1] at hd
      exact absurd hd (by decide)
    · rw [← h.1, hdigit, Bool.or_true] at hd
      exact absurd hd (by decide)
  rw [readValue.eq_8 _ _ hpos (fun _ => hother 'n' (by decide) _)
    (fun _ => hother 't' (by decide) _) (fun _ => hother 'f' (by decide) _)
    (fun _ => hother '"' (by decide) _) (fun _ _ _ => hother '[' (by decide) _)
    (fun _ _ _ => hother '{' (by decide) _), hread]
  rfl

/-- The items of a list are read one by one, up to its closing bracket. -/
private theorem readItems_commaJoined {items : List Value} (hne : items ≠ [])
    (hjson : ∀ v ∈ items, IsJson v) (hitems : ∀ v ∈ items, ReadsBack v) (bound : Nat)
    (rest : List Char) (hbound : (commaJoined (items.map written)).length < bound) :
    readItems bound (commaJoined (items.map written) ++ ']' :: rest) = some (items, rest) := by
  -- By induction on the items, of which each one takes a unit of the bound.
  induction items generalizing bound with
  | nil => exact absurd rfl hne
  | cons v items ih =>
    obtain ⟨bound, rfl⟩ := Nat.exists_eq_succ_of_ne_zero (Nat.ne_of_gt (Nat.zero_lt_of_lt hbound))
    have hv := hitems v List.mem_cons_self
    cases items with
    -- The last item is followed by the bracket.
    | nil =>
      have hlast := hv bound (']' :: rest) (Nat.le_of_lt_succ hbound)
        (atDelimiter_cons (by decide) _)
      show readItems _ (written v ++ ']' :: rest) = _
      rw [readItems.eq_2, hlast]
      rfl
    | cons w items =>
      -- After any other item there are a comma and more items.
      have htext : commaJoined ((v :: w :: items).map written) =
          written v ++ ',' :: commaJoined ((w :: items).map written) := rfl
      rw [htext, List.length_append, List.length_cons] at hbound
      have hfirst := hv bound (',' :: (commaJoined ((w :: items).map written) ++ ']' :: rest))
        (by omega) (atDelimiter_cons (by decide) _)
      have hothers := ih (List.cons_ne_nil _ _) (fun u hu => hjson u (List.mem_cons_of_mem _ hu))
        (fun u hu => hitems u (List.mem_cons_of_mem _ hu)) bound (by omega)
      -- The next item follows its comma at once.
      have hskip : skipBlanks (commaJoined ((w :: items).map written) ++ ']' :: rest) =
          commaJoined ((w :: items).map written) ++ ']' :: rest := by
        obtain ⟨c, cs, hw, hblank, -⟩ := written_eq_cons (hjson w (by simp))
        obtain ⟨more, hmore⟩ := commaJoined_eq_cons c cs (items.map written)
        rw [List.map_cons, hw, hmore]
        exact skipBlanks_cons hblank _
      rw [htext, List.append_assoc, List.cons_append, readItems.eq_2, hfirst]
      show (readItems bound (skipBlanks _)).bind _ = _
      rw [hskip, hothers]
      rfl

private theorem readsBack_arr {items : List Value} (hjson : ∀ v ∈ items, IsJson v)
    (hitems : ∀ v ∈ items, ReadsBack v) : ReadsBack (.arr items) := by
  intro bound rest hbound hrest
  rw [written_arr, List.length_cons] at hbound
  rw [written_arr]
  obtain ⟨bound, rfl⟩ := Nat.exists_eq_succ_of_ne_zero (Nat.ne_of_gt (Nat.zero_lt_of_lt hbound))
  rw [List.cons_append, List.append_assoc, List.cons_append, List.nil_append, readValue.eq_6]
  cases items with
  -- An empty array is closed at once.
  | nil => rfl
  | cons v items =>
    -- The first item is not taken for the closing bracket.
    obtain ⟨c, cs, hv, hblank, hbracket⟩ := written_eq_cons (hjson v List.mem_cons_self)
    obtain ⟨more, hmore⟩ := commaJoined_eq_cons c cs (items.map written)
    have hread := readItems_commaJoined (List.cons_ne_nil v items) hjson hitems bound rest (by
      rw [List.length_append] at hbound
      simp only [List.length_cons, List.length_nil] at hbound
      omega)
    rw [List.map_cons, hv, hmore, List.cons_append] at hread ⊢
    rw [skipBlanks_cons hblank]
    split
    · rename_i heq
      exact absurd (List.cons.inj heq).1 hbracket
    · rw [hread]
      rfl

/-! ## Objects -/

/-- A member of a new name goes to the end. -/
private theorem putEntry_of_notMem {k : Utf16} {v : Value} {es : List (Utf16 × Value)}
    (h : k ∉ es.map Prod.fst) : Table.putEntry k v es = es ++ [(k, v)] := by
  induction es with
  | nil => rfl
  | cons e es ih =>
    rw [List.map_cons, List.mem_cons, not_or] at h
    unfold Table.putEntry
    rw [if_neg fun he => h.1 he.symm, ih h.2, List.cons_append]

/-- Members with distinct names are kept as they are. -/
private theorem mergeMembers_of_nodup {members : List (Utf16 × Value)}
    (h : (members.map Prod.fst).Nodup) : mergeMembers members = members := by
  -- Merging keeps the members read so far; each further one has a name that is new to them.
  have hgo (before after : List (Utf16 × Value)) (h : ((before ++ after).map Prod.fst).Nodup) :
      after.foldl (fun acc m => Table.putEntry m.1 m.2 acc) before = before ++ after := by
    induction after generalizing before with
    | nil => simp
    | cons m after ih =>
      have hnew : m.1 ∉ before.map Prod.fst := by
        rw [List.map_append, List.nodup_append] at h
        exact fun hm => h.2.2 _ hm _ List.mem_cons_self rfl
      have hstep : (before ++ [m]) ++ after = before ++ m :: after := by simp
      rw [List.foldl_cons, putEntry_of_notMem hnew, ih _ (hstep ▸ h), hstep]
  exact hgo [] members h

/-- The text of a member. -/
private def entryText (m : Utf16 × Value) : List Char := memberText m.1 (written m.2)

private theorem entryText_eq_cons (m : Utf16 × Value) : ∃ cs, entryText m = '"' :: cs :=
  ⟨_, rfl⟩

/-- A member is read up to the end of its value; what follows decides how to go on. -/
private theorem readMembers_entryText {m : Utf16 × Value} (hname : ∃ s, m.1 = Utf16.ofString s)
    (hjson : IsJson m.2) (hvalue : ReadsBack m.2) {bound : Nat} {rest : List Char}
    (hbound : (entryText m).length ≤ bound + 1) (hrest : AtDelimiter rest) :
    readMembers (bound + 1) (entryText m ++ rest) =
      match skipBlanks rest with
      | '}' :: rest => some ([m], rest)
      | ',' :: rest => (readMembers bound (skipBlanks rest)).map fun r => (m :: r.1, r.2)
      | _ => none := by
  obtain ⟨name, v⟩ := m
  obtain ⟨s, rfl⟩ := hname
  have htext : entryText (Utf16.ofString s, v) ++ rest =
      '"' :: ((Utf16.ofString s).items.flatMap Utf16.quotedItem ++
        '"' :: ':' :: (written v ++ rest)) := by
    simp [entryText, memberText, Utf16.quoted]
  -- The value has room, since its name and colon take some of it.
  have hlength : (written v).length ≤ bound := by
    simp only [entryText, memberText, Utf16.quoted, List.length_append, List.length_cons] at hbound
    omega
  have hquoted := readQuoted_quoted s (':' :: (written v ++ rest))
  have hread := hvalue bound rest hlength hrest
  have hskip : skipBlanks (written v ++ rest) = written v ++ rest := by
    obtain ⟨c, cs, hv, hblank, -⟩ := written_eq_cons hjson
    rw [hv]
    exact skipBlanks_cons hblank _
  have hcolon := skipBlanks_cons (c := ':') (by decide) (written v ++ rest)
  rw [htext, readMembers.eq_2, hquoted]
  simp only [Option.bind_eq_bind, Option.bind_some, hcolon, hskip, hread]
  -- Only the end of the text, a comma or a closing bracket can follow.
  cases rest with
  | nil => rfl
  | cons c rest =>
    rcases hrest c rfl with rfl | rfl | rfl
    · rw [skipBlanks_cons (by decide)]
      show (readMembers bound (skipBlanks rest)).bind _ = (readMembers _ _).map _
      cases readMembers bound (skipBlanks rest) <;> rfl
    · rfl
    · rfl

/-- The members of an object are read one by one, up to its closing brace. -/
private theorem readMembers_commaJoined {members : List (Utf16 × Value)} (hne : members ≠ [])
    (hnames : ∀ m ∈ members, ∃ s, m.1 = Utf16.ofString s) (hjson : ∀ m ∈ members, IsJson m.2)
    (hvalues : ∀ m ∈ members, ReadsBack m.2) (bound : Nat) (rest : List Char)
    (hbound : (commaJoined (members.map entryText)).length < bound) :
    readMembers bound (commaJoined (members.map entryText) ++ '}' :: rest) =
      some (members, rest) := by
  induction members generalizing bound with
  -- There is a member to read.
  | nil => exact absurd rfl hne
  | cons m members ih =>
    obtain ⟨bound, rfl⟩ := Nat.exists_eq_succ_of_ne_zero (Nat.ne_of_gt (Nat.zero_lt_of_lt hbound))
    have hm (tail : List Char) (hlength : (entryText m).length ≤ bound + 1)
        (htail : AtDelimiter tail) :=
      readMembers_entryText (hnames m List.mem_cons_self) (hjson m List.mem_cons_self)
        (hvalues m List.mem_cons_self) hlength htail
    cases members with
    -- The last member is followed by the brace.
    | nil => exact hm _ (Nat.le_of_lt hbound) (atDelimiter_cons (by decide) _)
    | cons m' members =>
      -- After any other member there are a comma and more members.
      have htext : commaJoined ((m :: m' :: members).map entryText) =
          entryText m ++ ',' :: commaJoined ((m' :: members).map entryText) := rfl
      rw [htext, List.length_append, List.length_cons] at hbound
      have hothers := ih (List.cons_ne_nil _ _) (fun n hn => hnames n (List.mem_cons_of_mem _ hn))
        (fun n hn => hjson n (List.mem_cons_of_mem _ hn))
        (fun n hn => hvalues n (List.mem_cons_of_mem _ hn)) bound (by omega)
      obtain ⟨text, hstart⟩ := entryText_eq_cons m'
      obtain ⟨more, hmore⟩ := commaJoined_eq_cons '"' text (members.map entryText)
      rw [htext, List.append_assoc, List.cons_append,
        hm _ (by omega) (atDelimiter_cons (by decide) _)]
      rw [List.map_cons, hstart, hmore] at hothers ⊢
      show (readMembers bound ('"' :: (more ++ '}' :: rest))).map _ = _
      rw [List.cons_append] at hothers
      rw [hothers]
      rfl

private theorem readsBack_obj {members : List (Utf16 × Value)}
    (hnodup : (members.map Prod.fst).Nodup) (hnames : ∀ m ∈ members, ∃ s, m.1 = Utf16.ofString s)
    (hjson : ∀ m ∈ members, IsJson m.2) (hvalues : ∀ m ∈ members, ReadsBack m.2) :
    ReadsBack (.obj members) := by
  intro bound rest hbound hrest
  have htext : written (.obj members) = '{' :: (commaJoined (members.map entryText) ++ ['}']) :=
    written_obj members
  rw [htext, List.length_cons] at hbound
  rw [htext]
  obtain ⟨bound, rfl⟩ := Nat.exists_eq_succ_of_ne_zero (Nat.ne_of_gt (Nat.zero_lt_of_lt hbound))
  rw [List.cons_append, List.append_assoc, List.cons_append, List.nil_append, readValue.eq_7]
  cases members with
  -- An empty object is closed at once.
  | nil => rfl
  | cons m members =>
    -- The first member is not taken for the closing brace.
    obtain ⟨text, hstart⟩ := entryText_eq_cons m
    obtain ⟨more, hmore⟩ := commaJoined_eq_cons '"' text (members.map entryText)
    have hread := readMembers_commaJoined (List.cons_ne_nil m members) hnames hjson hvalues bound
      rest (by
        rw [List.length_append] at hbound
        simp only [List.length_cons, List.length_nil] at hbound
        omega)
    rw [List.map_cons, hstart, hmore, List.cons_append] at hread ⊢
    rw [skipBlanks_cons (by decide)]
    show (readMembers bound _).map _ = _
    rw [hread, Option.map_some, mergeMembers_of_nodup hnodup]

/-! ## Whole texts -/

/-- A JSON value is read off the front of a longer text. -/
theorem readValue_written {v : Value} (h : IsJson v) : ReadsBack v := by
  induction h with
  | null =>
    -- Words are told by their first characters.
    intro bound rest hbound _
    exact readValue.eq_2 bound rest (by rintro rfl; cases hbound)
  | bool b =>
    intro bound rest hbound _
    cases b with
    | false => exact readValue.eq_4 bound rest (by rintro rfl; cases hbound)
    | true => exact readValue.eq_3 bound rest (by rintro rfl; cases hbound)
  | num hn => exact readsBack_num hn
  | str s =>
    -- A text begins with a quote, and its characters are read back one by one.
    intro bound rest hbound _
    have htext : written (.ofString s) ++ rest =
        '"' :: ((Utf16.ofString s).items.flatMap Utf16.quotedItem ++ '"' :: rest) := by
      simp [ofString, written, Utf16.quoted]
    rw [htext, readValue.eq_5 _ _ (by rintro rfl; cases hbound), readQuoted_quoted]
    rfl
  | arr hitems ih => exact readsBack_arr hitems ih
  | obj hnodup hnames hvalues ih => exact readsBack_obj hnodup hnames hvalues ih

/-- A written JSON value reads back unchanged. -/
theorem parse_written {v : Value} (h : IsJson v) : parse (String.ofList v.written) = some v := by
  obtain ⟨c, cs, hv, hblank, -⟩ := written_eq_cons h
  have hskip : skipBlanks v.written = v.written := by
    rw [hv]
    exact skipBlanks_cons hblank cs
  have hread := readValue_written h (v.written.length + 1) [] (Nat.le_succ _) atDelimiter_nil
  rw [List.append_nil] at hread
  unfold parse parseChars
  rw [String.toList_ofList, hskip, hread]
  rfl

/-! ## Canonical and compact text -/

/-- A JSON value is there. -/
theorem IsJson.isAbsent {v : Value} (h : IsJson v) : v.isAbsent = false := by
  cases h <;> rfl

private theorem mapM_ok {ε α β : Type} (f : α → β) (xs : List α) :
    xs.mapM (fun x => (.ok (f x) : Except ε β)) = .ok (xs.map f) := by
  induction xs with
  | nil => rfl
  | cons x xs ih => rw [List.mapM_cons, ih, List.map_cons]; rfl

private theorem canonicalItems_eq {items : List Value}
    (h : ∀ v ∈ items, v.canonicalChars = .ok v.sorted.written) :
    canonicalItems items = .ok ((items.map sorted).map written) := by
  induction items with
  | nil => rfl
  | cons v items ih =>
    have hrest := ih fun w hw => h w (List.mem_cons_of_mem _ hw)
    rw [canonicalItems, h v List.mem_cons_self, hrest]
    rfl

private theorem canonicalMembers_eq {members : List (Utf16 × Value)}
    (hjson : ∀ m ∈ members, IsJson m.2)
    (h : ∀ m ∈ members, m.2.canonicalChars = .ok m.2.sorted.written) :
    canonicalMembers members = members.map fun m => (m.1, .ok m.2.sorted.written) := by
  induction members with
  | nil => rfl
  | cons m members ih =>
    have hrest := ih (fun n hn => hjson n (List.mem_cons_of_mem _ hn))
      fun n hn => h n (List.mem_cons_of_mem _ hn)
    rw [canonicalMembers, (hjson m List.mem_cons_self).isAbsent, h m List.mem_cons_self, hrest]
    rfl

/-- The canonical text of a JSON value is its written text with the members sorted. -/
theorem canonicalChars_eq_written {v : Value} (h : IsJson v) :
    v.canonicalChars = .ok v.sorted.written := by
  induction h with
  | null => rfl
  | bool b => cases b <;> rfl
  | @num n hn =>
    -- Numbers in this range are written without loss.
    have hfinite : Number.ofInt n = .finite n := Number.ofInt_of_natAbs_le (by omega)
    rw [hfinite]
    rfl
  | str => rfl
  | @arr items _ ih =>
    rw [sorted_arr, written_arr, canonicalChars, canonicalItems_eq ih]
    rfl
  | @obj members _ _ hjson ih =>
    have htexts : memberTexts (sortByName (canonicalMembers members)) =
        .ok ((sortByName members).map fun m => memberText m.1 m.2.sorted.written) := by
      rw [canonicalMembers_eq hjson ih,
        sortByName_map (fun v : Value => (.ok v.sorted.written : Except CanonicalError _)),
        memberTexts, List.mapM_map]
      exact mapM_ok _ _
    -- Members are sorted before or after they are written: sorting looks at their names only.
    rw [sorted_obj, written_obj, canonicalChars, htexts, sortByName_map, List.map_map]
    rfl

private theorem compactItems_eq {items : List Value}
    (h : ∀ v ∈ items, v.compactChars = (v.arranged .indexedFirst).written) :
    compactItems items = (items.map (arranged .indexedFirst)).map written := by
  induction items with
  | nil => rfl
  | cons v items ih =>
    have hrest := ih fun w hw => h w (List.mem_cons_of_mem _ hw)
    rw [compactItems, h v List.mem_cons_self, hrest]
    rfl

private theorem compactMembers_eq {members : List (Utf16 × Value)}
    (hjson : ∀ m ∈ members, IsJson m.2)
    (h : ∀ m ∈ members, m.2.compactChars = (m.2.arranged .indexedFirst).written) :
    compactMembers members =
      members.map fun m => (m.1, (m.2.arranged .indexedFirst).written) := by
  induction members with
  | nil => rfl
  | cons m members ih =>
    have hrest := ih (fun n hn => hjson n (List.mem_cons_of_mem _ hn))
      fun n hn => h n (List.mem_cons_of_mem _ hn)
    rw [compactMembers, (hjson m List.mem_cons_self).isAbsent, h m List.mem_cons_self, hrest]
    rfl

/-- The compact text of a JSON value is its written text with the indexed members first. -/
theorem compactChars_eq_written {v : Value} (h : IsJson v) :
    v.compactChars = (v.arranged .indexedFirst).written := by
  induction h with
  | null | str => rfl
  | bool b => rfl
  | @num n hn =>
    have hfinite : Number.ofInt n = .finite n := Number.ofInt_of_natAbs_le (by omega)
    rw [hfinite]
    rfl
  | arr _ ih => rw [arranged_arr, written_arr, compactChars, compactItems_eq ih]
  | @obj members _ _ hjson ih =>
    -- The members keep the order of the object, but for those with index names.
    have hordered : indexedFirst (compactMembers members) =
        (indexedFirst members).map fun m => (m.1, (m.2.arranged .indexedFirst).written) := by
      rw [compactMembers_eq hjson ih,
        indexedFirst_map fun v : Value => (v.arranged .indexedFirst).written]
    rw [arranged_obj, written_obj, compactChars, hordered, Arrangement.map, List.map_map,
      List.map_map]
    rfl

/-- Reading the canonical text of a JSON value gives the value with its members sorted. -/
theorem parse_canonical {v : Value} (h : IsJson v) :
    ∃ text, v.canonical = .ok text ∧ parse text = some v.sorted := by
  refine ⟨String.ofList v.sorted.written, ?_, parse_written (h.arranged .byName)⟩
  rw [canonical, h.isAbsent, canonicalChars_eq_written h]
  rfl

/-- Reading the compact text of a JSON value gives the value up to the order of its members. -/
theorem parse_compact {v : Value} (h : IsJson v) :
    parse v.compact = some (v.arranged .indexedFirst) := by
  rw [compact, compactChars_eq_written h]
  exact parse_written (h.arranged .indexedFirst)

end Value

end ProofOfExistence
