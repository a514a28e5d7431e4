import ProofOfExistence.Proofs.CallCourses

/-!
# Clocks that are guarded against going back

A guarded clock passes on valid readings that are not below the last one that it passed on
(`Monotonic.reading`).  So the readings that it accepts are valid times that never go back
(`Rising`), whatever numbers its source gives, and what it refuses leaves it as it was.

## Key results

- `accept_rising`: what the guard makes of a reading
- `GuardedHost.tick_eq`: what the guard remembers
-/

namespace ProofOfExistence

variable {ε θ α : Type}

/-! ## Readings -/

/-- The readings are valid times that never go back. -/
structure Rising (readings : List Number) : Prop where
  valid : ∀ t ∈ readings, checkTimestamp t = .ok ()
  order : readings.Pairwise fun a b => b.lt a = false

/-- What becomes of a reading after some accepted ones. -/
def Judged (earlier : List Number) : Except Fault Number → Prop
  | .ok t => checkTimestamp t = .ok () ∧ ∀ a ∈ earlier, t.lt a = false
  | .error (.invalidTimestamp t) => checkTimestamp t ≠ .ok ()
  | .error (.readingWentBack t last) =>
    checkTimestamp t = .ok () ∧ last ∈ earlier ∧ t.lt last = true
  | .error _ => False

/-- Valid times are compared as the natural numbers that they are. -/
private theorem lt_eq_false_iff {m n : Nat} (hm : m ≤ maxSafeInteger) (hn : n ≤ maxSafeInteger) :
    (Number.ofNat m).lt (.ofNat n) = false ↔ n ≤ m := by
  rw [Number.lt_ofNat (Nat.le_succ_of_le hm) (Nat.le_succ_of_le hn), decide_eq_false_iff_not,
    Nat.not_lt]

private theorem lt_trans_false {a b c : Number} (ha : checkTimestamp a = .ok ())
    (hb : checkTimestamp b = .ok ()) (hc : checkTimestamp c = .ok ()) (hba : b.lt a = false)
    (hcb : c.lt b = false) : c.lt a = false := by
  obtain ⟨l, hl, rfl⟩ := checkTimestamp_eq_ok.1 ha
  obtain ⟨m, hm, rfl⟩ := checkTimestamp_eq_ok.1 hb
  obtain ⟨n, hn, rfl⟩ := checkTimestamp_eq_ok.1 hc
  rw [lt_eq_false_iff hm hl] at hba
  rw [lt_eq_false_iff hn hm] at hcb
  rw [lt_eq_false_iff hn hl]
  exact Nat.le_trans hba hcb

theorem Rising.sublist {readings readings' : List Number} (h : Rising readings)
    (hsub : readings'.Sublist readings) : Rising readings' :=
  ⟨fun t ht => h.valid t (hsub.subset ht), h.order.sublist hsub⟩

/-- Rising readings are natural numbers in order, all of them safe. -/
theorem Rising.exists_times {readings : List Number} (h : Rising readings) :
    ∃ times : List Nat, readings = times.map Number.ofNat ∧ times.Pairwise (· ≤ ·) ∧
      ∀ t ∈ times, t ≤ maxSafeInteger := by
  obtain ⟨hvalid, horder⟩ := h
  induction readings with
  | nil => exact ⟨[], rfl, .nil, by simp⟩
  | cons a rest ih =>
    obtain ⟨hfirst, hrest⟩ := List.pairwise_cons.1 horder
    obtain ⟨times, rfl, hsorted, hsafe⟩ :=
      ih (fun t ht => hvalid t (List.mem_cons_of_mem a ht)) hrest
    obtain ⟨t, ht, rfl⟩ := checkTimestamp_eq_ok.1 (hvalid a List.mem_cons_self)
    refine ⟨t :: times, rfl, List.pairwise_cons.2 ⟨fun u hu => ?_, hsorted⟩, ?_⟩
    · exact (lt_eq_false_iff (hsafe u hu) ht).1 (hfirst _ (List.mem_map_of_mem hu))
    · rintro u (_ | ⟨_, hu⟩)
      exacts [ht, hsafe u hu]

/-- No rising reading is above the last one. -/
private theorem Rising.last_not_lt {readings : List Number} (h : Rising readings) {last a : Number}
    (hlast : readings.getLast? = some last) (ha : a ∈ readings) : last.lt a = false := by
  obtain ⟨before, rfl⟩ := List.getLast?_eq_some_iff.1 hlast
  rcases List.mem_append.1 ha with hbefore | hlast
  · exact (List.pairwise_append.1 h.order).2.2 a hbefore last (List.mem_singleton_self last)
  · obtain rfl := List.mem_singleton.1 hlast
    obtain ⟨t, ht, rfl⟩ := checkTimestamp_eq_ok.1 (h.valid a ha)
    exact (lt_eq_false_iff ht ht).2 (Nat.le_refl t)

/-- The guard accepts a reading that keeps the accepted ones rising; it refuses any other one, which
is not valid or below the last one. -/
theorem accept_rising {readings : List Number} (h : Rising readings) (t : Number) :
    (Monotonic.accept readings.getLast? t = .ok () ∧ Judged readings (.ok t)) ∨
    ∃ e, Monotonic.accept readings.getLast? t = .error e ∧ Judged readings (.error e) ∧
      (e = .invalidTimestamp t ∨ ∃ last ∈ readings, e = .readingWentBack t last) := by
  unfold Monotonic.accept
  -- A reading is valid or not, and only a valid one is held against the last one.
  by_cases hvalid : checkTimestamp t = .ok ()
  · rw [hvalid]
    cases hlast : readings.getLast? with
    -- The first reading has nothing to fall behind.
    | none =>
      obtain rfl := List.getLast?_eq_none_iff.1 hlast
      exact .inl ⟨rfl, hvalid, by simp⟩
    | some last =>
      have hmem : last ∈ readings := List.mem_of_getLast? hlast
      cases hlt : t.lt last with
      -- It is below the last one.
      | true =>
        refine .inr ⟨.readingWentBack t last, ?_, ⟨hvalid, hmem, hlt⟩, .inr ⟨last, hmem, rfl⟩⟩
        simp only [hlt, if_true]
        rfl
      -- It is not below the last one, and so not below any of those before.
      | false =>
        refine .inl ⟨by simp [hlt], hvalid, fun a ha => ?_⟩
        exact lt_trans_false (h.valid a ha) (h.valid last hmem) hvalid (h.last_not_lt hlast ha) hlt
  · -- It is no time that a claim can bear.
    have hinvalid : checkTimestamp t = .error (.invalidTimestamp t) := by
      unfold checkTimestamp at hvalid ⊢
      split at hvalid
      · exact absurd rfl hvalid
      · rename_i hunsafe
        rw [if_neg hunsafe]
    rw [hinvalid]
    exact .inr ⟨.invalidTimestamp t, rfl, hvalid, .inl rfl⟩

theorem Rising.append {readings : List Number} (h : Rising readings) {t : Number}
    (ht : Judged readings (.ok t)) : Rising (readings ++ [t]) := by
  refine ⟨fun a ha => ?_, List.pairwise_append.2 ⟨h.order, List.pairwise_singleton _ t, ?_⟩⟩
  · rcases List.mem_append.1 ha with ha | ha
    · exact h.valid a ha
    · rw [List.mem_singleton.1 ha]
      exact ht.1
  · intro a ha b hb
    rw [List.mem_singleton.1 hb]
    exact ht.2 a ha

/-! ## The guarded clock -/

/-- What the clock and the reporters keep: the last reading that the guard accepted, and the
rest. -/
structure Guarded (θ : Type) where
  last : Option Number
  rest : θ

namespace Guarded

/-- The place of the last accepted reading. -/
def lastCell : Cell (Guarded θ) (Option Number) := ⟨Guarded.last, fun l g => { g with last := l }⟩

/-- Work on the rest. -/
def onRest (f : θ → Except Fault α × θ) (g : Guarded θ) : Except Fault α × Guarded θ :=
  ((f g.rest).1, { g with rest := (f g.rest).2 })

end Guarded

/-- A service whose clock guards a source of any numbers, which may look at what the participants
keep. -/
structure GuardedHost (ε θ : Type) extends QuietReporters θ where
  source : ε → θ → Number × θ
  proofLimit : Nat

namespace GuardedHost

variable (m : GuardedHost ε θ)

/-- Read the source. -/
def read (own : ε) : Run (Guarded θ) Number := do
  let g ← getThe (Guarded θ)
  set { g with rest := (m.source own g.rest).2 }
  return (m.source own g.rest).1

/-- The host whose clock is the guarded source. -/
def toHost : Host ε (Guarded θ) where
  count name tags := Guarded.onRest (m.count name tags)
  log level text context := Guarded.onRest (m.log level text context)
  tick own g := (Monotonic.reading (m.read own) Guarded.lastCell).exec g
  proofLimit := m.proofLimit

/-- The guard remembers the readings that it accepts, and nothing of those that it refuses. -/
theorem tick_eq (own : ε) (g : Guarded θ) :
    m.toHost.tick own g =
      match Monotonic.accept g.last (m.source own g.rest).1 with
      | .ok () => (.ok (m.source own g.rest).1,
          ⟨some (m.source own g.rest).1, (m.source own g.rest).2⟩)
      | .error e => (.error e, ⟨g.last, (m.source own g.rest).2⟩) := by
  have hread : (m.read own).exec g =
      (.ok (m.source own g.rest).1, { g with rest := (m.source own g.rest).2 }) := rfl
  show (Monotonic.reading (m.read own) Guarded.lastCell).exec g = _
  unfold Monotonic.reading
  simp only [Run.exec_bind, hread, Cell.exec_read, Run.exec_ofExcept]
  have hlast : Guarded.lastCell.get { g with rest := (m.source own g.rest).2 } = g.last := rfl
  rw [hlast]
  cases Monotonic.accept g.last (m.source own g.rest).1 <;> rfl

/-- The reporters leave the guard alone. -/
theorem last_of_leaves {a a' : Guarded θ} (h : m.toHost.Leaves a a') : a'.last = a.last := by
  obtain ⟨name, tags, rfl | ⟨level, text, context, rfl⟩⟩ := h <;> rfl

end GuardedHost

end ProofOfExistence
