import Mathlib.Data.List.Lex
import Mathlib.Data.List.Nodup
import Mathlib.Data.List.Perm.Basic
import ProofOfExistence.Value.Canonical
import ProofOfExistence.Value.Compact

/-!
# JSON values up to the order of their members

A JSON value (`Value.IsJson`) is built from null, booleans, safe integers, strings, lists and
objects whose names are distinct.  The order in which an object lists its members says nothing about
it, so two values that differ in such orders only, at any depth, are the same piece of data
(`Value.SameUpToOrder`).

Writers bring members into an order of their own (`Arrangement`): canonical text sorts them by name,
compact text puts those named by an array index first.  Either way the data stays the same.  Sorting
picks one value among those that are the same, because names are compared by their code units, which
is a linear order.

## Key results

- `Value.sortByName_eq_of_perm`: sorting forgets the order of members with distinct names
- `Value.sameUpToOrder_arranged`: arranging the members changes their order only
- `Value.sorted_eq_iff`: values are the same up to the order of members exactly when sorting makes
  them equal
-/

namespace ProofOfExistence

/-! ## The order of names -/

namespace Utf16

/-- Texts compare as the lists of the numbers that their units are. -/
theorem lt_iff (a b : Utf16) :
    a.lt b = true ↔ a.units.map UInt16.toNat < b.units.map UInt16.toNat := by
  obtain ⟨us⟩ := a
  obtain ⟨vs⟩ := b
  show ltUnits us vs = true ↔ _
  induction us generalizing vs with
  | nil => cases vs <;> simp [ltUnits]
  | cons u us ih =>
    cases vs with
    | nil => simp [ltUnits]
    | cons v vs =>
      simp only [ltUnits, Bool.or_eq_true, Bool.and_eq_true, decide_eq_true_eq, ih, List.map_cons,
        List.cons_lt_cons_iff, UInt16.toNat_inj]
      rfl

theorem lt_asymm {a b : Utf16} (h : a.lt b = true) : b.lt a = false := by
  rw [lt_iff] at h
  rw [Bool.eq_false_iff, ne_eq, lt_iff]
  exact fun h' => absurd (h.trans h') (lt_irrefl _)

theorem lt_trans {a b c : Utf16} (h : a.lt b = true) (h' : b.lt c = true) : a.lt c = true := by
  rw [lt_iff] at h h' ⊢
  exact h.trans h'

/-- Two texts of which neither comes first are equal. -/
theorem eq_of_not_lt {a b : Utf16} (h : a.lt b = false) (h' : b.lt a = false) : a = b := by
  rw [Bool.eq_false_iff, ne_eq, lt_iff, not_lt] at h h'
  have hunits := List.map_injective_iff.2 (fun _ _ => UInt16.toNat_inj.1) (le_antisymm h' h)
  exact congrArg Utf16.mk hunits

end Utf16

namespace Value

/-! ## Sorting members by name -/

section Sorting

variable {α β : Type}

/-- The first name is not behind the second one. -/
private def InOrder (e f : Utf16 × α) : Prop := f.1.lt e.1 = false

private theorem insertByName_perm (e : Utf16 × α) (es : List (Utf16 × α)) :
    (insertByName e es).Perm (e :: es) := by
  induction es with
  | nil => exact .refl _
  | cons f rest ih =>
    unfold insertByName
    split
    · exact .refl _
    · exact (ih.cons f).trans (.swap e f rest)

theorem sortByName_perm (es : List (Utf16 × α)) : (sortByName es).Perm es := by
  induction es with
  | nil => exact .refl _
  | cons e es ih => exact (insertByName_perm e _).trans (ih.cons e)

private theorem pairwise_insertByName (e : Utf16 × α) {es : List (Utf16 × α)}
    (h : es.Pairwise InOrder) : (insertByName e es).Pairwise InOrder := by
  induction es with
  | nil => exact List.pairwise_singleton _ _
  | cons f rest ih =>
    obtain ⟨hf, hrest⟩ := List.pairwise_cons.1 h
    unfold insertByName
    split
    · -- `e` comes before the first one, and so before all.
      rename_i hlt
      refine List.pairwise_cons.2 ⟨fun g hg => ?_, h⟩
      rcases List.mem_cons.1 hg with rfl | hg
      · exact Utf16.lt_asymm hlt
      -- What comes before `e` would come before `f`.
      · rw [InOrder, Bool.eq_false_iff]
        intro hback
        have hgf : g.1.lt f.1 = true := Utf16.lt_trans hback hlt
        exact Bool.false_ne_true ((hf g hg).symm.trans hgf)
    · -- `e` goes into the rest, after the first one.
      rename_i hnot
      refine List.pairwise_cons.2 ⟨fun g hg => ?_, ih hrest⟩
      rcases List.mem_cons.1 ((insertByName_perm e rest).subset hg) with rfl | hg
      · exact Bool.eq_false_iff.2 hnot
      · exact hf g hg

private theorem pairwise_sortByName (es : List (Utf16 × α)) :
    (sortByName es).Pairwise InOrder := by
  induction es with
  | nil => exact List.Pairwise.nil
  | cons e es ih => exact pairwise_insertByName e ih

/-- Entries with distinct names are equal when their names are. -/
theorem eq_of_name_eq {es : List (Utf16 × α)} (hnames : (es.map Prod.fst).Nodup) {e f : Utf16 × α}
    (he : e ∈ es) (hf : f ∈ es) (h : e.1 = f.1) : e = f :=
  List.inj_on_of_nodup_map hnames he hf h

/-- Sorting forgets the order of entries with distinct names. -/
theorem sortByName_eq_of_perm {es fs : List (Utf16 × α)} (hnames : (es.map Prod.fst).Nodup)
    (h : es.Perm fs) : sortByName es = sortByName fs := by
  have hperm : (sortByName es).Perm (sortByName fs) :=
    (sortByName_perm es).trans (h.trans (sortByName_perm fs).symm)
  refine List.Perm.eq_of_pairwise (fun e f he hf hef hfe => ?_) (pairwise_sortByName es)
    (pairwise_sortByName fs) hperm
  have he' : e ∈ es := (sortByName_perm es).subset he
  have hf' : f ∈ es := h.symm.subset ((sortByName_perm fs).subset hf)
  exact eq_of_name_eq hnames he' hf' (Utf16.eq_of_not_lt hfe hef)

/-- Sorting looks at names only. -/
theorem sortByName_map (g : α → β) (es : List (Utf16 × α)) :
    sortByName (es.map fun e => (e.1, g e.2)) = (sortByName es).map fun e => (e.1, g e.2) := by
  -- Where a member goes is decided by the names.
  have hinsert (e : Utf16 × α) (fs : List (Utf16 × α)) :
      insertByName (e.1, g e.2) (fs.map fun f => (f.1, g f.2)) =
        (insertByName e fs).map fun f => (f.1, g f.2) := by
    induction fs with
    | nil => rfl
    | cons f rest ih =>
      simp only [List.map_cons, insertByName]
      split
      · rfl
      · rw [List.map_cons, ih]
  induction es with
  | nil => rfl
  | cons e es ih =>
    show insertByName _ (sortByName _) = List.map _ (insertByName e (sortByName es))
    rw [ih, hinsert]

end Sorting

/-! ## Putting members named by an index first -/

section Indexed

variable {α β : Type}

private theorem insertByIndex_perm (e : Nat × α) (es : List (Nat × α)) :
    (insertByIndex e es).Perm (e :: es) := by
  induction es with
  | nil => exact .refl _
  | cons f rest ih =>
    unfold insertByIndex
    split
    · exact .refl _
    · exact (ih.cons f).trans (.swap e f rest)

private theorem foldr_insertByIndex_perm (es : List (Nat × α)) :
    (es.foldr insertByIndex []).Perm es := by
  induction es with
  | nil => exact .refl _
  | cons e es ih => exact (insertByIndex_perm e _).trans (ih.cons e)

theorem indexedFirst_perm (es : List (Utf16 × α)) : (indexedFirst es).Perm es := by
  -- Every entry goes to one of two parts, of which the first one is then sorted.
  have hparts : ((es.filterMap fun e => e.1.arrayIndex?.map fun i => (i, e)).map Prod.snd ++
      es.filter fun e => e.1.arrayIndex?.isNone).Perm es := by
    induction es with
    | nil => exact .refl _
    | cons e es ih =>
      cases h : e.1.arrayIndex? with
      | some i => simpa [h] using ih.cons e
      | none => simpa [h] using List.perm_middle.trans (ih.cons e)
  exact (((foldr_insertByIndex_perm _).map Prod.snd).append_right _).trans hparts

/-- Which members come first is decided by their names. -/
theorem indexedFirst_map (g : α → β) (es : List (Utf16 × α)) :
    indexedFirst (es.map fun e => (e.1, g e.2)) =
      (indexedFirst es).map fun e => (e.1, g e.2) := by
  -- Where a member with an index goes is decided by the indices.
  have hinsert (e : Nat × Utf16 × α) (fs : List (Nat × Utf16 × α)) :
      insertByIndex (e.1, e.2.1, g e.2.2) (fs.map fun f => (f.1, f.2.1, g f.2.2)) =
        (insertByIndex e fs).map fun f => (f.1, f.2.1, g f.2.2) := by
    induction fs with
    | nil => rfl
    | cons f rest ih =>
      simp only [List.map_cons, insertByIndex]
      split
      · rfl
      · rw [List.map_cons, ih]
  have hsort (fs : List (Nat × Utf16 × α)) :
      (fs.map fun f => (f.1, f.2.1, g f.2.2)).foldr insertByIndex [] =
        (fs.foldr insertByIndex []).map fun f => (f.1, f.2.1, g f.2.2) := by
    induction fs with
    | nil => rfl
    | cons f rest ih => rw [List.map_cons, List.foldr_cons, List.foldr_cons, ih, hinsert]
  -- Which members have an index is decided by the names, too.
  have hindexed : (es.map fun e => (e.1, g e.2)).filterMap
      (fun e => e.1.arrayIndex?.map fun i => (i, e)) =
      (es.filterMap fun e => e.1.arrayIndex?.map fun i => (i, e)).map
        fun f => (f.1, f.2.1, g f.2.2) := by
    rw [List.filterMap_map, List.map_filterMap]
    congr 1
    funext e
    cases h : e.1.arrayIndex? <;> simp [h]
  unfold indexedFirst
  simp only [hindexed, hsort, List.map_append, List.map_map, List.filter_map]
  rfl

end Indexed

end Value

/-- A way to put named entries in order that looks at names only. -/
structure Arrangement where
  arrange : {α : Type} → List (Utf16 × α) → List (Utf16 × α)
  perm : ∀ {α : Type} (es : List (Utf16 × α)), (arrange es).Perm es
  map : ∀ {α β : Type} (g : α → β) (es : List (Utf16 × α)),
    arrange (es.map fun e => (e.1, g e.2)) = (arrange es).map fun e => (e.1, g e.2)

/-- The order of canonical text. -/
def Arrangement.byName : Arrangement :=
  ⟨Value.sortByName, Value.sortByName_perm, Value.sortByName_map⟩

/-- The order of compact text. -/
def Arrangement.indexedFirst : Arrangement :=
  ⟨Value.indexedFirst, Value.indexedFirst_perm, Value.indexedFirst_map⟩

namespace Value

/-! ## Values up to the order of members -/

/-- A value as portable JSON text spells it: its numbers are safe integers, its strings are well
formed, no member is absent and no two members of an object have one name. -/
inductive IsJson : Value → Prop
  | null : IsJson .null
  | bool (b : Bool) : IsJson (.bool b)
  | num {n : Int} (h : n.natAbs ≤ maxSafeInteger) : IsJson (.num (.ofInt n))
  | str (s : String) : IsJson (.ofString s)
  | arr {items : List Value} (h : ∀ v ∈ items, IsJson v) : IsJson (.arr items)
  | obj {members : List (Utf16 × Value)} (hnames : (members.map Prod.fst).Nodup)
      (htexts : ∀ m ∈ members, ∃ s, m.1 = Utf16.ofString s) (h : ∀ m ∈ members, IsJson m.2) :
      IsJson (.obj members)

/-- Two values that differ in the order of members only: lists agree item by item, and the members
of one object can be put in an order in which they agree with those of the other one by one. -/
inductive SameUpToOrder : Value → Value → Prop
  | absent : SameUpToOrder .absent .absent
  | null : SameUpToOrder .null .null
  | bool (b : Bool) : SameUpToOrder (.bool b) (.bool b)
  | num (x : Number) : SameUpToOrder (.num x) (.num x)
  | str (s : Utf16) : SameUpToOrder (.str s) (.str s)
  | arr {xs ys : List Value} (hlength : xs.length = ys.length)
      (h : ∀ p ∈ xs.zip ys, SameUpToOrder p.1 p.2) : SameUpToOrder (.arr xs) (.arr ys)
  | obj {ms ns ordered : List (Utf16 × Value)} (hperm : ns.Perm ordered)
      (hnames : ms.map Prod.fst = ordered.map Prod.fst)
      (h : ∀ p ∈ ms.zip ordered, SameUpToOrder p.1.2 p.2.2) : SameUpToOrder (.obj ms) (.obj ns)

mutual

/-- A value with the members of its objects in another order, at every depth. -/
def arranged (a : Arrangement) : Value → Value
  | arr items => .arr (arrangedItems a items)
  | obj members => .obj (a.arrange (arrangedMembers a members))
  | v => v

/-- The items of a list, each arranged. -/
def arrangedItems (a : Arrangement) : List Value → List Value
  | [] => []
  | v :: rest => arranged a v :: arrangedItems a rest

/-- The members of an object in their order, each arranged. -/
def arrangedMembers (a : Arrangement) : List (Utf16 × Value) → List (Utf16 × Value)
  | [] => []
  | (name, v) :: rest => (name, arranged a v) :: arrangedMembers a rest

end

/-- A value with the members of its objects sorted by name, at every depth. -/
def sorted (v : Value) : Value := v.arranged .byName

section Arranged

variable (a : Arrangement)

theorem arranged_arr (items : List Value) :
    arranged a (.arr items) = .arr (items.map (arranged a)) := by
  have hitems : arrangedItems a items = items.map (arranged a) := by
    induction items with
    | nil => rfl
    | cons v rest ih => rw [arrangedItems, ih, List.map_cons]
  rw [arranged, hitems]

theorem arranged_obj (members : List (Utf16 × Value)) :
    arranged a (.obj members) =
      .obj (a.arrange (members.map fun m => (m.1, arranged a m.2))) := by
  have hmembers : arrangedMembers a members = members.map fun m => (m.1, arranged a m.2) := by
    induction members with
    | nil => rfl
    | cons m rest ih => rw [arrangedMembers, ih, List.map_cons]
  rw [arranged, hmembers]

end Arranged

/-! ## Lists that correspond item by item -/

/-- Lists that correspond item by item have equal images. -/
private theorem map_eq_map_of_zip {α β γ : Type} {f : α → γ} {g : β → γ} {xs : List α}
    {ys : List β} (hlength : xs.length = ys.length) (h : ∀ p ∈ xs.zip ys, f p.1 = g p.2) :
    xs.map f = ys.map g := by
  induction xs generalizing ys with
  | nil => cases ys <;> simp_all
  | cons x xs ih =>
    cases ys with
    | nil => cases hlength
    | cons y ys =>
      have hrest := ih (Nat.succ.inj hlength) fun p hp => h p (List.mem_cons_of_mem _ hp)
      rw [List.map_cons, List.map_cons, hrest, h (x, y) List.mem_cons_self]

/-- Lists with equal images correspond item by item. -/
private theorem eq_of_map_eq_map {α β γ : Type} {f : α → γ} {g : β → γ} {xs : List α} {ys : List β}
    (h : xs.map f = ys.map g) : ∀ p ∈ xs.zip ys, f p.1 = g p.2 := by
  induction xs generalizing ys with
  | nil => nofun
  | cons x xs ih =>
    cases ys with
    | nil => nofun
    | cons y ys =>
      obtain ⟨hhead, htail⟩ := List.cons.inj h
      intro p hp
      rcases List.mem_cons.1 hp with rfl | hp
      · exact hhead
      · exact ih htail p hp

/-- A reordered image is the image of a reordered list. -/
private theorem exists_perm_of_perm_map {α β : Type} {f : α → β} {xs : List α} {l : List β}
    (h : l.Perm (xs.map f)) : ∃ ys : List α, ys.Perm xs ∧ l = ys.map f := by
  have hcomp : Relation.Comp (· = List.map f ·) List.Perm l xs := by
    rw [List.eq_map_comp_perm]
    exact h
  obtain ⟨ys, hl, hys⟩ := hcomp
  exact ⟨ys, hys, hl⟩

/-- The image of a list corresponds to the list. -/
private theorem eq_of_mem_zip_map {α β : Type} {f : α → β} {xs : List α} :
    ∀ p ∈ (xs.map f).zip xs, p.1 = f p.2 :=
  eq_of_map_eq_map (f := id) (List.map_id _)

/-- In a list that corresponds to another one each item has its counterpart. -/
private theorem exists_mem_zip {α β : Type} {xs : List α} {ys : List β}
    (hlength : xs.length = ys.length) {x : α} (hx : x ∈ xs) : ∃ y, (x, y) ∈ xs.zip ys := by
  have hfst : (xs.zip ys).map Prod.fst = xs := List.map_fst_zip (Nat.le_of_eq hlength)
  rw [← hfst] at hx
  obtain ⟨p, hp, rfl⟩ := List.mem_map.1 hx
  exact ⟨p.2, hp⟩

/-! ## Arranging changes the order only -/

/-- What is the same as a JSON value is one. -/
theorem SameUpToOrder.isJson {a b : Value} (h : SameUpToOrder a b) (hb : IsJson b) : IsJson a := by
  induction h with
  | absent | null | bool | num | str => exact hb
  | arr hlength _ ih =>
    cases hb with
    | arr hitems =>
      -- Each item is a value, like the one that it is paired with.
      refine .arr fun v hv => ?_
      obtain ⟨w, hvw⟩ := exists_mem_zip hlength hv
      exact ih _ hvw (hitems w (List.of_mem_zip hvw).2)
  | @obj ms ns ordered hperm hnames _ ih =>
    cases hb with
    | obj hnodup htexts hvalues =>
      have hlength : ms.length = ordered.length := by simpa using congrArg List.length hnames
      -- The members have the names of the other object, in another order.
      refine .obj ?_ (fun m hm => ?_) fun m hm => ?_
      · rw [hnames, ← (hperm.map Prod.fst).nodup_iff]
        exact hnodup
      · obtain ⟨n, hmn⟩ := exists_mem_zip hlength hm
        have hname : m.1 = n.1 := eq_of_map_eq_map hnames _ hmn
        rw [hname]
        exact htexts n (hperm.symm.subset (List.of_mem_zip hmn).2)
      · obtain ⟨n, hmn⟩ := exists_mem_zip hlength hm
        exact ih _ hmn (hvalues n (hperm.symm.subset (List.of_mem_zip hmn).2))

/-- Every value is the same as itself. -/
theorem SameUpToOrder.refl (v : Value) : SameUpToOrder v v := by
  have hself {α : Type} {xs : List α} : ∀ p ∈ xs.zip xs, p.1 = p.2 :=
    eq_of_map_eq_map (f := id) (g := id) rfl
  -- The values within lists and objects are smaller; the nested type has no induction of its own.
  match v with
  -- On values without parts it is plain.
  | .absent => exact .absent
  | .null => exact .null
  | .bool b => exact .bool b
  | .num x => exact .num x
  | .str s => exact .str s
  | .arr items =>
    refine .arr rfl fun p hp => ?_
    have hitem : p.1 ∈ items := (List.of_mem_zip hp).1
    rw [← hself p hp]
    exact SameUpToOrder.refl p.1
  | .obj members =>
    refine .obj (.refl members) rfl fun p hp => ?_
    have hmember : p.1 ∈ members := (List.of_mem_zip hp).1
    rw [← hself p hp]
    exact SameUpToOrder.refl p.1.2
termination_by v
decreasing_by
  · -- An item is smaller than its list.
    have hlt := List.sizeOf_lt_of_mem hitem
    simp only [Value.arr.sizeOf_spec]
    omega
  · -- A value is smaller than its member, and this smaller than the object.
    have hlt := List.sizeOf_lt_of_mem hmember
    have hvalue : sizeOf p.1.2 < sizeOf p.1 := by
      obtain ⟨⟨name, v⟩, _⟩ := p
      simp only [Prod.mk.sizeOf_spec]
      omega
    simp only [Value.obj.sizeOf_spec]
    omega

/-- Objects that are the same have the same names. -/
theorem SameUpToOrder.names_perm {ms ns : List (Utf16 × Value)}
    (h : SameUpToOrder (.obj ms) (.obj ns)) : (ms.map Prod.fst).Perm (ns.map Prod.fst) := by
  cases h with
  | obj hperm hnames _ =>
    rw [hnames]
    exact hperm.symm.map _

/-- Objects that are the same have members that are the same under each name. -/
theorem SameUpToOrder.exists_member {ms ns : List (Utf16 × Value)}
    (h : SameUpToOrder (.obj ms) (.obj ns)) {m : Utf16 × Value} (hm : m ∈ ms) :
    ∃ n ∈ ns, n.1 = m.1 ∧ SameUpToOrder m.2 n.2 := by
  cases h with
  | obj hperm hnames hvalues =>
    have hlength := by simpa using congrArg List.length hnames
    obtain ⟨n, hmn⟩ := exists_mem_zip hlength hm
    exact ⟨n, hperm.symm.subset (List.of_mem_zip hmn).2, (eq_of_map_eq_map hnames _ hmn).symm,
      hvalues _ hmn⟩

variable (a : Arrangement)

/-- Arranging the members of a value changes their order only. -/
theorem sameUpToOrder_arranged {v : Value} (h : IsJson v) : SameUpToOrder (v.arranged a) v := by
  induction h with
  | null => exact .null
  | bool b => exact .bool b
  | num => exact .num _
  | str => exact .str _
  | @arr items _ ih =>
    -- The items keep their places.
    rw [arranged_arr]
    refine .arr (List.length_map _) fun p hp => ?_
    rw [eq_of_mem_zip_map p hp]
    exact ih _ (List.of_mem_zip hp).2
  | @obj members _ _ _ ih =>
    rw [arranged_obj, a.map]
    -- The members in their new order, each with its value as it was.
    have hperm : members.Perm (a.arrange members) := (a.perm members).symm
    refine .obj hperm ?_ fun p hp => ?_
    · rw [List.map_map]
      rfl
    · rw [eq_of_mem_zip_map p hp]
      exact ih _ (hperm.symm.subset (List.of_mem_zip hp).2)

theorem IsJson.arranged {v : Value} (h : IsJson v) : IsJson (v.arranged a) :=
  (sameUpToOrder_arranged a h).isJson h

/-! ## Sorting picks one of the values that are the same -/

theorem sorted_arr (items : List Value) : sorted (.arr items) = .arr (items.map sorted) :=
  arranged_arr .byName items

theorem sorted_obj (members : List (Utf16 × Value)) :
    sorted (.obj members) = .obj (sortByName (members.map fun m => (m.1, sorted m.2))) :=
  arranged_obj .byName members

/-- Sorting the values of members keeps their names. -/
private theorem names_sortedMembers (members : List (Utf16 × Value)) :
    (members.map fun m => (m.1, sorted m.2)).map Prod.fst = members.map Prod.fst := by
  rw [List.map_map]
  rfl

/-- Sorting makes values equal that are the same up to the order of members. -/
theorem SameUpToOrder.sorted_eq {a b : Value} (h : SameUpToOrder a b) (ha : IsJson a) :
    sorted a = sorted b := by
  induction h with
  | absent | null | bool | num | str => rfl
  | @arr xs ys hlength _ ih =>
    cases ha with
    | arr hitems =>
      -- The items are sorted pairwise.
      have hxs : xs.map sorted = ys.map sorted :=
        map_eq_map_of_zip hlength fun p hp => ih p hp (hitems _ (List.of_mem_zip hp).1)
      rw [sorted_arr, sorted_arr, hxs]
  | @obj ms ns ordered hperm hnames _ ih =>
    cases ha with
    | obj hnodup htexts hvalues =>
      have hlength : ms.length = ordered.length := by simpa using congrArg List.length hnames
      -- Put in the order of the other object, the members agree; sorting forgets that order.
      have hordered : (ms.map fun m => (m.1, sorted m.2)) =
          ordered.map fun m => (m.1, sorted m.2) :=
        map_eq_map_of_zip hlength fun p hp =>
          Prod.ext (eq_of_map_eq_map hnames p hp) (ih p hp (hvalues _ (List.of_mem_zip hp).1))
      have hsorted : sortByName (ordered.map fun m => (m.1, sorted m.2)) =
          sortByName (ns.map fun m => (m.1, sorted m.2)) := by
        refine sortByName_eq_of_perm ?_ (hperm.symm.map _)
        rw [names_sortedMembers, ← hnames]
        exact hnodup
      rw [sorted_obj, sorted_obj, hordered, hsorted]

/-- Values that sorting makes equal are the same up to the order of members. -/
private theorem sameUpToOrder_of_sorted_eq {a b : Value} (ha : IsJson a) (hb : IsJson b)
    (h : sorted a = sorted b) : SameUpToOrder a b := by
  induction ha generalizing b with
  | null =>
    -- Values without parts are sorted to themselves.
    cases hb with
    | null => exact .null
    | _ => cases h
  | bool =>
    cases hb with
    | bool => exact Value.bool.inj h ▸ .bool _
    | _ => cases h
  | num =>
    cases hb with
    | num => exact Value.num.inj h ▸ .num _
    | _ => cases h
  | str =>
    cases hb with
    | str =>
      rw [ofString, ofString, show Utf16.ofString _ = Utf16.ofString _ from Value.str.inj h]
      exact .str _
    | _ => cases h
  | @arr xs _ ih =>
    cases hb with
    | @arr ys hys =>
      -- The items are equal pairwise after sorting.
      rw [sorted_arr, sorted_arr, Value.arr.injEq] at h
      have hlength : xs.length = ys.length := by simpa using congrArg List.length h
      refine .arr hlength fun p hp => ?_
      obtain ⟨hx, hy⟩ := List.of_mem_zip hp
      exact ih _ hx (hys _ hy) (eq_of_map_eq_map h p hp)
    | _ => cases h
  | @obj ms _ _ _ ih =>
    cases hb with
    | @obj ns _ _ hns =>
      rw [sorted_obj, sorted_obj, Value.obj.injEq] at h
      have hperm : (ms.map fun m => (m.1, sorted m.2)).Perm (ns.map fun m => (m.1, sorted m.2)) :=
        (sortByName_perm _).symm.trans (h ▸ sortByName_perm _)
      -- The members of `b` take the order that those of `a` have.
      obtain ⟨ordered, hordered, hmap⟩ := exists_perm_of_perm_map hperm
      have hpairs := eq_of_map_eq_map hmap
      have hnames : ms.map Prod.fst = ordered.map Prod.fst := by
        rw [← names_sortedMembers, hmap, names_sortedMembers]
      refine .obj hordered.symm hnames fun p hp => ?_
      obtain ⟨hm, hn⟩ := List.of_mem_zip hp
      exact ih _ hm (hns _ (hordered.subset hn)) (congrArg Prod.snd (hpairs p hp))
    | _ => cases h

/-- JSON values are the same up to the order of members exactly when sorting makes them equal. -/
theorem sorted_eq_iff {a b : Value} (ha : IsJson a) (hb : IsJson b) :
    sorted a = sorted b ↔ SameUpToOrder a b :=
  ⟨sameUpToOrder_of_sorted_eq ha hb, fun h => h.sorted_eq ha⟩

/-- What is the same as a value that is the same as a third one is the same as that one. -/
theorem SameUpToOrder.trans {a b c : Value} (h : SameUpToOrder a b) (h' : SameUpToOrder b c)
    (hc : IsJson c) : SameUpToOrder a c := by
  have hb : IsJson b := h'.isJson hc
  have ha : IsJson a := h.isJson hb
  exact (sorted_eq_iff ha hc).1 ((h.sorted_eq ha).trans (h'.sorted_eq hb))

/-- Putting the members of an object in another order leaves it the same. -/
theorem sameUpToOrder_of_perm {ms ns : List (Utf16 × Value)} (h : ms.Perm ns) :
    SameUpToOrder (.obj ms) (.obj ns) := by
  refine .obj h.symm rfl fun p hp => ?_
  have hp' : p.1 = p.2 := eq_of_map_eq_map (f := id) (g := id) rfl p hp
  rw [← hp']
  exact .refl p.1.2

end Value

end ProofOfExistence
