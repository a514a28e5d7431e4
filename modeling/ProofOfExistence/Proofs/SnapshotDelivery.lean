import Mathlib.Data.List.Induction
import ProofOfExistence.Proofs.BusPrograms

/-!
# Delivery to a snapshot

A delivery goes to the callbacks that are registered on a bus when the deposit begins, and to nobody
else, whatever the callbacks do to the bus in the meantime.  Each of them is invoked once, in the
order in which they were registered (`Enrolled`).  What a callback throws is reported before the
next one is invoked, and a fault of the error handler ends the delivery (`Delivers`).

## Key results

- `BusWorld.Tracked`: the bus holds the registered callbacks, in order
- `Unfolds.append`: what happens on a bus composes
- `Callbacks.deliver_unfolds`: an event is delivered to each callback in turn
- `Callbacks.deposits_reach_snapshot`: every deposit of every run delivers to the callbacks
  registered when it begins
-/

namespace ProofOfExistence

/-! ## What happens in a deposit -/

variable {ι θ : Type}

namespace BusEntry

/-- The deposit in which something happens. -/
def deposit? : BusEntry ι → Option Nat
  | joined _ | left _ => none
  | began n _ _ | invoked n _ _ | returned n _ _ | reported n _ _ | handled n _ | ended n _ =>
    some n

/-- The callback that is invoked, and the event. -/
def invocation? : BusEntry ι → Option (ι × ClaimEvent)
  | invoked _ k event => some (k, event)
  | _ => none

/-- What happens in a deposit. -/
def ofDeposit (n : Nat) (trace : List (BusEntry ι)) : List (BusEntry ι) :=
  trace.filter fun x => x.deposit? = some n

theorem ofDeposit_append (n : Nat) (first rest : List (BusEntry ι)) :
    ofDeposit n (first ++ rest) = ofDeposit n first ++ ofDeposit n rest :=
  List.filter_append ..

theorem ofDeposit_eq_nil {trace : List (BusEntry ι)} {n : Nat}
    (h : ∀ x ∈ trace, x.deposit? ≠ some n) : ofDeposit n trace = [] :=
  List.filter_eq_nil_iff.2 fun x hx hn => h x hx (of_decide_eq_true hn)

theorem mem_ofDeposit {trace : List (BusEntry ι)} {n : Nat} {x : BusEntry ι} :
    x ∈ ofDeposit n trace ↔ x ∈ trace ∧ x.deposit? = some n := by
  rw [ofDeposit, List.mem_filter, decide_eq_true_iff]

/-- Entries within one deposit. -/
def inDeposit (n : Nat) (entries : List (BusEntry ι)) (m : Nat) : List (BusEntry ι) :=
  if m = n then entries else []

theorem inDeposit_append (n : Nat) (first rest : List (BusEntry ι)) (m : Nat) :
    inDeposit n (first ++ rest) m = inDeposit n first m ++ inDeposit n rest m := by
  unfold inDeposit
  split <;> rfl

theorem inDeposit_of_ne {n m : Nat} (h : m ≠ n) (entries : List (BusEntry ι)) :
    inDeposit n entries m = [] :=
  if_neg h

theorem ofDeposit_singleton {n : Nat} {x : BusEntry ι} (h : x.deposit? = some n) (m : Nat) :
    ofDeposit m [x] = inDeposit n [x] m := by
  by_cases hm : m = n
  · simp [ofDeposit, inDeposit, h, hm]
  · simp [ofDeposit, inDeposit, h, hm, Ne.symm hm]

end BusEntry

open BusEntry

/-! ## Who is registered -/

/-- A callback joined and has not left since. -/
def Registered (trace : List (BusEntry ι)) (k : ι) : Prop :=
  ∃ past later, trace = past ++ .joined k :: later ∧ .left k ∉ later

/-- A callback joined after a past in which it was not registered, and has not left since. -/
structure RegisteredSince (trace : List (BusEntry ι)) (k : ι) (past : List (BusEntry ι)) :
    Prop where
  stays : ∃ later, trace = past ++ .joined k :: later ∧ .left k ∉ later
  absent : ¬ Registered past k

/-- One callback has been registered for longer than another one. -/
def RegisteredBefore (trace : List (BusEntry ι)) (k l : ι) : Prop :=
  ∃ past past', RegisteredSince trace k past ∧ RegisteredSince trace l past' ∧
    past.length < past'.length

/-- Some callbacks are those registered after a trace, in the order of their registration. -/
structure Enrolled (trace : List (BusEntry ι)) (callbacks : List ι) : Prop where
  nodup : callbacks.Nodup
  mem_iff : ∀ k, k ∈ callbacks ↔ Registered trace k
  order : callbacks.Pairwise (RegisteredBefore trace)

section Registration

variable {trace past : List (BusEntry ι)} {x : BusEntry ι} {k l : ι}

theorem not_registered_nil (k : ι) : ¬ Registered [] k := by
  rintro ⟨past, later, h, -⟩
  simp at h

/-- A callback is registered after an entry by which it joins, or if it was registered before and
does not leave. -/
theorem registered_concat :
    Registered (trace ++ [x]) k ↔ x = .joined k ∨ Registered trace k ∧ x ≠ .left k := by
  constructor
  · rintro ⟨past, later, h, hleft⟩
    rcases Run.concat_eq_split h with ⟨-, rfl⟩ | ⟨later, rfl, htrace⟩
    · exact .inl rfl
    · rw [List.mem_append, not_or, List.mem_singleton] at hleft
      exact .inr ⟨⟨past, later, htrace, hleft.1⟩, Ne.symm hleft.2⟩
  · rintro (rfl | ⟨⟨past, later, rfl, hleft⟩, hx⟩)
    · exact ⟨trace, [], rfl, by simp⟩
    · exact ⟨past, later ++ [x], by simp, by simp [hleft, Ne.symm hx]⟩

theorem RegisteredSince.concat (h : RegisteredSince trace k past) (hx : x ≠ .left k) :
    RegisteredSince (trace ++ [x]) k past := by
  obtain ⟨later, rfl, hleft⟩ := h.stays
  exact ⟨⟨later ++ [x], by simp, by simp [hleft, Ne.symm hx]⟩, h.absent⟩

theorem RegisteredSince.length_lt (h : RegisteredSince trace k past) :
    past.length < trace.length := by
  obtain ⟨later, rfl, -⟩ := h.stays
  simp

/-- Who joins anew is registered since then. -/
theorem RegisteredSince.of_joined (h : ¬ Registered trace k) :
    RegisteredSince (trace ++ [.joined k]) k trace :=
  ⟨⟨[], rfl, by simp⟩, h⟩

/-- Who is registered has been so since some time. -/
theorem Registered.exists_since (h : Registered trace k) :
    ∃ past, RegisteredSince trace k past := by
  induction trace using List.reverseRecOn with
  | nil => exact absurd h (not_registered_nil k)
  | append_singleton trace x ih =>
    by_cases hbefore : Registered trace k ∧ x ≠ .left k
    · obtain ⟨past, hpast⟩ := ih hbefore.1
      exact ⟨past, hpast.concat hbefore.2⟩
    · obtain rfl := (registered_concat.1 h).resolve_right hbefore
      exact ⟨trace, .of_joined fun hregistered => hbefore ⟨hregistered, by simp⟩⟩

theorem RegisteredBefore.concat (h : RegisteredBefore trace k l) (hk : x ≠ .left k)
    (hl : x ≠ .left l) : RegisteredBefore (trace ++ [x]) k l := by
  obtain ⟨past, past', hpast, hpast', hlt⟩ := h
  exact ⟨past, past', hpast.concat hk, hpast'.concat hl, hlt⟩

/-- Who joins anew comes after everyone who is registered. -/
theorem RegisteredBefore.of_joined (hk : Registered trace k) (hl : ¬ Registered trace l) :
    RegisteredBefore (trace ++ [.joined l]) k l := by
  obtain ⟨past, hpast⟩ := hk.exists_since
  exact ⟨past, trace, hpast.concat (by simp), .of_joined hl, hpast.length_lt⟩

theorem enrolled_nil : Enrolled (ι := ι) [] [] where
  nodup := List.nodup_nil
  mem_iff k := iff_of_false (by simp) (not_registered_nil k)
  order := .nil

namespace Enrolled

variable [DecidableEq ι] {b : EventBus ι}

omit [DecidableEq ι] in
/-- What is no subscription and no end of one leaves the registrations alone. -/
theorem other {callbacks : List ι} (h : Enrolled trace callbacks)
    (hx : ∀ k, x ≠ .joined k ∧ x ≠ .left k) : Enrolled (trace ++ [x]) callbacks where
  nodup := h.nodup
  mem_iff k := by rw [h.mem_iff, registered_concat]; simp [hx k]
  order := h.order.imp fun hbefore => hbefore.concat (hx _).2 (hx _).2

theorem joined (h : Enrolled trace b.subscribers) (k : ι) :
    Enrolled (trace ++ [.joined k]) (b.subscribe k).subscribers where
  nodup := (b.subscribe k).nodup
  mem_iff j := by
    rw [EventBus.mem_subscribe, h.mem_iff, registered_concat]
    simp [or_comm, eq_comm]
  order := by
    have hold : b.subscribers.Pairwise (RegisteredBefore (trace ++ [.joined k])) :=
      h.order.imp fun hbefore => hbefore.concat (by simp) (by simp)
    unfold EventBus.subscribe
    split
    · exact hold
    · rename_i hnew
      refine List.pairwise_append.2 ⟨hold, List.pairwise_singleton _ _, fun j hj l hl => ?_⟩
      obtain rfl := List.mem_singleton.1 hl
      exact .of_joined ((h.mem_iff j).1 hj) fun hl => hnew ((h.mem_iff l).2 hl)

theorem left (h : Enrolled trace b.subscribers) (k : ι) :
    Enrolled (trace ++ [.left k]) (b.unsubscribe k).subscribers where
  nodup := (b.unsubscribe k).nodup
  mem_iff j := by
    rw [EventBus.mem_unsubscribe, h.mem_iff, registered_concat]
    simp [and_comm, eq_comm]
  order := by
    have hstays {j : ι} (hj : j ∈ (b.unsubscribe k).subscribers) :
        (.left k : BusEntry ι) ≠ .left j := by
      simpa [eq_comm] using ((b.mem_unsubscribe k j).1 hj).1
    exact (h.order.sublist List.erase_sublist).imp_of_mem fun hi hj hbefore =>
      hbefore.concat (hstays hi) (hstays hj)

end Enrolled

end Registration

/-! ## The bus holds who is registered -/

namespace BusWorld

/-- The bus holds the registered callbacks, as it did whenever a deposit began. -/
structure Tracked (w : BusWorld ι θ) : Prop where
  bus : Enrolled w.trace w.bus.subscribers
  snapshots : ∀ past n event snapshot rest,
    w.trace = past ++ .began n event snapshot :: rest → Enrolled past snapshot

theorem tracked_fresh (own : θ) : (fresh (ι := ι) own).Tracked where
  bus := enrolled_nil
  snapshots past n event snapshot rest h := by simp [fresh] at h

/-- One more entry leaves the snapshots of earlier deposits as they were. -/
private theorem Tracked.concat {w w' : BusWorld ι θ} {x : BusEntry ι} (h : w.Tracked)
    (htrace : w'.trace = w.trace ++ [x]) (hbus : Enrolled (w.trace ++ [x]) w'.bus.subscribers)
    (hbegan : ∀ n event snapshot, x = .began n event snapshot → snapshot = w.bus.subscribers) :
    w'.Tracked where
  bus := htrace ▸ hbus
  snapshots past n event snapshot rest hsplit := by
    rcases Run.concat_eq_split (htrace.symm.trans hsplit) with ⟨rfl, rfl⟩ | ⟨later, -, hearlier⟩
    · rw [hbegan n event snapshot rfl]
      exact h.bus
    · exact h.snapshots past n event snapshot later hearlier

/-- What happens on a tracked bus keeps it so. -/
def Tracks (w w' : BusWorld ι θ) : Prop := w.Tracked → w'.Tracked

instance : IsPreorder (BusWorld ι θ) Tracks where
  refl _ := id
  trans _ _ _ h h' := h' ∘ h

private theorem tracks_noted (w : BusWorld ι θ) (x : BusEntry ι)
    (hx : ∀ k, x ≠ .joined k ∧ x ≠ .left k)
    (hbegan : ∀ n event snapshot, x ≠ .began n event snapshot) : Tracks w (w.noted x) :=
  fun h => h.concat rfl (h.bus.other hx) fun n event snapshot hx =>
    absurd hx (hbegan n event snapshot)

private theorem tracks_begun (w : BusWorld ι θ) (event : ClaimEvent) :
    Tracks w (w.begun event) :=
  fun h => h.concat rfl (h.bus.other (by simp)) (by simp [eq_comm])

variable [DecidableEq ι]

private theorem tracks_moves : BusProgram.Moves (Tracks (ι := ι) (θ := θ)) where
  keep _ _ h := ⟨h.bus, h.snapshots⟩
  join _ k h := h.concat rfl (h.bus.joined k) nofun
  leave _ k h := h.concat rfl (h.bus.left k) nofun

end BusWorld

/-- On a bus that was fresh, every run keeps track of who is registered. -/
theorem Callbacks.run_tracked [DecidableEq ι] (c : Callbacks ι θ) (depth : Nat) (own : θ)
    (user : BusProgram ι θ) : ((user.run (c.deposit depth)).exec (.fresh own)).2.Tracked :=
  BusProgram.respects_run BusWorld.tracks_moves
    (c.respects_deposit BusWorld.tracks_moves BusWorld.tracks_begun BusWorld.tracks_noted depth)
    user _ (BusWorld.tracked_fresh own)

/-! ## What deposits do -/

/-- A deposit delivers an event to some callbacks and then returns or throws. -/
inductive Delivers (n : Nat) (event : ClaimEvent) :
    List ι → List (BusEntry ι) → Except Fault Unit → Prop where
  /-- Nobody is left. -/
  | done : Delivers n event [] [] (.ok ())
  /-- A callback returns. -/
  | returned {k : ι} {rest : List ι} {entries : List (BusEntry ι)} {outcome : Except Fault Unit}
      (later : Delivers n event rest entries outcome) :
    Delivers n event (k :: rest)
      ([.invoked n k event, .returned n k (.ok ())] ++ entries) outcome
  /-- A callback throws, which is reported before the next callback has its turn. -/
  | reported {k : ι} {rest : List ι} {fault : Fault} {entries : List (BusEntry ι)}
      {outcome : Except Fault Unit} (later : Delivers n event rest entries outcome) :
    Delivers n event (k :: rest)
      ([.invoked n k event, .returned n k (.error fault)] ++
        [.reported n fault event, .handled n (.ok ())] ++ entries) outcome
  /-- A callback throws, and so does the error handler.  This ends the delivery. -/
  | failed {k : ι} {rest : List ι} {fault fault' : Fault} :
    Delivers n event (k :: rest)
      ([.invoked n k event, .returned n k (.error fault)] ++
        [.reported n fault event, .handled n (.error fault')]) (.error fault')

/-- What happens in a deposit, from its beginning to its end. -/
inductive DepositFate (n : Nat) : List (BusEntry ι) → Prop where
  | delivered {event : ClaimEvent} {snapshot : List ι} {entries : List (BusEntry ι)}
      {outcome : Except Fault Unit} (delivers : Delivers n event snapshot entries outcome) :
    DepositFate n (.began n event snapshot :: entries ++ [.ended n outcome])

namespace Delivers

variable {n : Nat} {event : ClaimEvent} {snapshot : List ι} {entries : List (BusEntry ι)}
  {outcome : Except Fault Unit}

/-- No deposit begins as a part of a delivery itself. -/
theorem not_began (h : Delivers n event snapshot entries outcome) (m : Nat)
    (event' : ClaimEvent) (callbacks : List ι) : .began m event' callbacks ∉ entries := by
  induction h with
  | done => simp
  | returned _ ih => simpa using ih
  | reported _ ih => simpa using ih
  | failed => simp

/-- Only callbacks of the snapshot are invoked, in order and at most once each. -/
theorem invoked_prefix (h : Delivers n event snapshot entries outcome) :
    entries.filterMap invocation? <+: snapshot.map (·, event) := by
  induction h with
  | done => exact List.prefix_rfl
  | @returned k _ _ _ _ ih => exact (List.prefix_cons_inj (k, event)).2 ih
  | @reported k _ _ _ _ _ ih => exact (List.prefix_cons_inj (k, event)).2 ih
  | @failed k rest => exact (List.prefix_cons_inj (k, event)).2 List.nil_prefix

/-- If the error handler does not throw, then the deposit does not, and each callback is invoked
once, in order. -/
theorem complete (h : Delivers n event snapshot entries outcome)
    (hhandled : ∀ fault, .handled n (.error fault) ∉ entries) :
    outcome = .ok () ∧ entries.filterMap invocation? = snapshot.map (·, event) := by
  induction h with
  | done => exact ⟨rfl, rfl⟩
  | @returned k _ _ _ _ ih =>
    obtain ⟨houtcome, hinvoked⟩ := ih (by simpa using hhandled)
    exact ⟨houtcome, congrArg ((k, event) :: ·) hinvoked⟩
  | @reported k _ _ _ _ _ ih =>
    obtain ⟨houtcome, hinvoked⟩ := ih (by simpa using hhandled)
    exact ⟨houtcome, congrArg ((k, event) :: ·) hinvoked⟩
  | failed => simp at hhandled

end Delivers

/-- A deposit delivers the event with which it begins to the callbacks that there are then. -/
theorem DepositFate.of_began {n : Nat} {event : ClaimEvent} {snapshot : List ι}
    {all : List (BusEntry ι)} (h : DepositFate n all) (hbegan : .began n event snapshot ∈ all) :
    ∃ entries outcome, all = .began n event snapshot :: entries ++ [.ended n outcome] ∧
      Delivers n event snapshot entries outcome := by
  cases h with
  | @delivered event' snapshot' entries outcome hdelivers =>
    simp only [List.cons_append, List.mem_cons, List.mem_append, BusEntry.began.injEq,
      hdelivers.not_began, List.not_mem_nil, reduceCtorEq, or_false] at hbegan
    obtain ⟨-, rfl, rfl⟩ := hbegan
    exact ⟨entries, outcome, rfl, hdelivers⟩

/-- What happens between two worlds.  Within earlier deposits, only given entries are made. -/
structure Unfolds (earlier : Nat → List (BusEntry ι)) (w : BusWorld ι θ)
    (new : List (BusEntry ι)) (w' : BusWorld ι θ) : Prop where
  trace : w'.trace = w.trace ++ new
  deposits : w.deposits ≤ w'.deposits
  /-- Each deposit that begins meets its fate. -/
  fate : ∀ m, w.deposits ≤ m → m < w'.deposits → DepositFate m (ofDeposit m new)
  older : ∀ m < w.deposits, ofDeposit m new = earlier m
  newer : ∀ m, w'.deposits ≤ m → ofDeposit m new = []

namespace Unfolds

variable {earlier earlier' : Nat → List (BusEntry ι)} {w w' w'' : BusWorld ι θ}
  {new new' : List (BusEntry ι)} {n : Nat}

/-- What happens on a bus composes. -/
theorem append (h : Unfolds earlier w new w') (h' : Unfolds earlier' w' new' w'')
    (hearlier : ∀ m, w.deposits ≤ m → earlier' m = []) :
    Unfolds (fun m => earlier m ++ earlier' m) w (new ++ new') w'' where
  trace := by rw [h'.trace, h.trace, List.append_assoc]
  deposits := Nat.le_trans h.deposits h'.deposits
  fate m hm hm' := by
    rw [ofDeposit_append]
    by_cases hbetween : m < w'.deposits
    · rw [h'.older m hbetween, hearlier m hm, List.append_nil]
      exact h.fate m hm hbetween
    · rw [h.newer m (Nat.not_lt.1 hbetween), List.nil_append]
      exact h'.fate m (Nat.not_lt.1 hbetween) hm'
  older m hm := by
    rw [ofDeposit_append, h.older m hm, h'.older m (Nat.lt_of_lt_of_le hm h.deposits)]
  newer m hm := by
    rw [ofDeposit_append, h.newer m (Nat.le_trans h'.deposits hm), h'.newer m hm, List.nil_append]

/-- Entries without deposits. -/
private theorem of_entries (htrace : w'.trace = w.trace ++ new)
    (hdeposits : w'.deposits = w.deposits)
    (hearlier : ∀ m, w.deposits ≤ m → ofDeposit m new = []) :
    Unfolds (fun m => ofDeposit m new) w new w' where
  trace := htrace
  deposits := hdeposits.ge
  fate m hm hm' := absurd hm' (by rw [hdeposits]; exact Nat.not_lt.2 hm)
  older m _ := rfl
  newer m hm := hearlier m (hdeposits ▸ hm)

/-- A move that is no part of a deposit. -/
theorem of_move (htrace : w'.trace = w.trace ++ new) (hdeposits : w'.deposits = w.deposits)
    (hnone : ∀ x ∈ new, x.deposit? = none) : Unfolds (fun _ => []) w new w' := by
  have hempty (m : Nat) : ofDeposit m new = [] :=
    ofDeposit_eq_nil fun x hx => by rw [hnone x hx]; simp
  have hentries := of_entries htrace hdeposits fun m _ => hempty m
  rwa [funext hempty] at hentries

/-- A deposit that does nothing for now. -/
theorem of_nothing : Unfolds (inDeposit n []) w [] w := by
  rw [show inDeposit n [] = fun _ => ([] : List (BusEntry ι)) from funext fun _ => ite_self _]
  exact .of_move (List.append_nil _).symm rfl (by simp)

/-- An entry in a deposit that has begun. -/
theorem of_noted {x : BusEntry ι} (hn : n < w.deposits) (hx : x.deposit? = some n) :
    Unfolds (inDeposit n [x]) w [x] (w.noted x) := by
  have hentries : Unfolds (fun m => ofDeposit m [x]) w [x] (w.noted x) :=
    of_entries rfl rfl fun m hm => by
      rw [ofDeposit_singleton hx, inDeposit_of_ne (Nat.ne_of_gt (Nat.lt_of_lt_of_le hn hm))]
  rwa [funext (ofDeposit_singleton hx)] at hentries

/-- What one deposit does after what it did before. -/
theorem append_inDeposit {entries entries' : List (BusEntry ι)} (hn : n < w.deposits)
    (h : Unfolds (inDeposit n entries) w new w') (h' : Unfolds (inDeposit n entries') w' new' w'') :
    Unfolds (inDeposit n (entries ++ entries')) w (new ++ new') w'' := by
  rw [funext (inDeposit_append n entries entries')]
  exact h.append h' fun m hm => inDeposit_of_ne (Nat.ne_of_gt (Nat.lt_of_lt_of_le hn hm)) _

/-- Deposits in between are no part of the deposit in progress. -/
theorem append_between {entries : List (BusEntry ι)} (h : Unfolds (inDeposit n entries) w new w')
    (h' : Unfolds (fun _ => []) w' new' w'') :
    Unfolds (inDeposit n entries) w (new ++ new') w'' := by
  have hboth := h.append h' fun _ _ => rfl
  simpa only [List.append_nil] using hboth

/-- A deposit that meets its fate. -/
private theorem of_deposit {event : ClaimEvent} {entries : List (BusEntry ι)}
    (h : Unfolds (inDeposit w.deposits entries) (w.begun event) new w')
    (hfate : DepositFate w.deposits (.began w.deposits event w.bus.subscribers :: entries)) :
    Unfolds (fun _ => []) w (.began w.deposits event w.bus.subscribers :: new) w' := by
  have hdeposits : w.deposits < w'.deposits := h.deposits
  -- Every other deposit has the same entries with this beginning as without it.
  have hother {m : Nat} (hm : m ≠ w.deposits) :
      ofDeposit m (.began w.deposits event w.bus.subscribers :: new) = ofDeposit m new :=
    List.filter_cons_of_neg (by simp [deposit?, Ne.symm hm])
  have hown : ofDeposit w.deposits (.began w.deposits event w.bus.subscribers :: new) =
      .began w.deposits event w.bus.subscribers :: entries := by
    have holder := h.older w.deposits (Nat.lt_succ_self _)
    rw [inDeposit, if_pos rfl] at holder
    rw [← holder]
    exact List.filter_cons_of_pos (by simp [deposit?])
  refine ⟨?_, Nat.le_of_lt hdeposits, fun m hm hm' => ?_, fun m hm => ?_, fun m hm => ?_⟩
  · rw [h.trace, BusWorld.begun, BusWorld.noted, List.append_assoc]
    rfl
  · -- The deposit that began now, or one within it.
    rcases Nat.eq_or_lt_of_le hm with rfl | hlt
    · rwa [hown]
    · rw [hother (Nat.ne_of_gt hlt)]
      exact h.fate m hlt hm'
  · -- Earlier deposits have no entries here, and later ones none at all.
    rw [hother (Nat.ne_of_lt hm), h.older m (Nat.lt_succ_of_lt hm),
      inDeposit_of_ne (Nat.ne_of_lt hm)]
  · rw [hother (Nat.ne_of_gt (Nat.lt_of_lt_of_le hdeposits hm)), h.newer m hm]

/-- A deposit that delivers its event to the callbacks of the bus and then ends. -/
theorem of_delivery {event : ClaimEvent} {entries : List (BusEntry ι)}
    {outcome : Except Fault Unit}
    (h : Unfolds (inDeposit w.deposits entries) (w.begun event) new w')
    (hdelivers : Delivers w.deposits event w.bus.subscribers entries outcome) :
    Unfolds (fun _ => []) w
      (.began w.deposits event w.bus.subscribers :: (new ++ [.ended w.deposits outcome]))
      (w'.noted (.ended w.deposits outcome)) := by
  have hbegun : w.deposits < (w.begun event).deposits := Nat.lt_succ_self _
  have hended : Unfolds (inDeposit w.deposits [.ended w.deposits outcome]) w'
      [.ended w.deposits outcome] (w'.noted (.ended w.deposits outcome)) :=
    .of_noted (Nat.lt_of_lt_of_le hbegun h.deposits) rfl
  exact (h.append_inDeposit hbegun hended).of_deposit (.delivered hdelivers)

end Unfolds

/-- What happens on a bus besides the deposits in progress. -/
def BusWorld.Extends (w w' : BusWorld ι θ) : Prop := ∃ new, Unfolds (fun _ => []) w new w'

instance : IsPreorder (BusWorld ι θ) BusWorld.Extends where
  refl _ := ⟨[], .of_move (List.append_nil _).symm rfl (by simp)⟩
  trans _ _ _ := fun ⟨_, h⟩ ⟨_, h'⟩ => ⟨_, h.append h' fun _ _ => rfl⟩

section Deliveries

variable [DecidableEq ι]

private theorem extends_moves : BusProgram.Moves (BusWorld.Extends (ι := ι) (θ := θ)) where
  keep _ _ := ⟨[], .of_move (List.append_nil _).symm rfl (by simp)⟩
  join _ k := ⟨[.joined k], .of_move rfl rfl (by simp [deposit?])⟩
  leave _ k := ⟨[.left k], .of_move rfl rfl (by simp [deposit?])⟩

variable {w : BusWorld ι θ} {n : Nat}

omit [DecidableEq ι] in
/-- A deposit in progress makes the two entries around what it has others do. -/
private theorem within_unfolds {start : BusEntry ι} {finish : Except Fault Unit → BusEntry ι}
    {body : Run (BusWorld ι θ) Unit} (hbody : Run.Respects BusWorld.Extends body)
    (hn : n < w.deposits) (hstart : start.deposit? = some n)
    (hfinish : ∀ outcome, (finish outcome).deposit? = some n) :
    ∃ new, Unfolds (inDeposit n [start, finish ((BusWorld.within start finish body).exec w).1]) w
      new ((BusWorld.within start finish body).exec w).2 := by
  rw [BusWorld.exec_within]
  obtain ⟨new, hbetween⟩ := hbody (w.noted start)
  have hstarted := (Unfolds.of_noted hn hstart).append_between hbetween
  exact ⟨_, hstarted.append_inDeposit hn
    (.of_noted (Nat.lt_of_lt_of_le hn hstarted.deposits) (hfinish _))⟩

variable (c : Callbacks ι θ) {deposit : ClaimEvent → Run (BusWorld ι θ) Unit}
  (hdeposit : ∀ event, Run.Respects BusWorld.Extends (deposit event)) (event : ClaimEvent)
include hdeposit

/-- Whatever callbacks do, an event is delivered to each in turn. -/
theorem Callbacks.deliver_unfolds (callbacks : List ι) (hn : n < w.deposits) :
    let result :=
      (EventBus.deliver (c.invoke deposit n) (c.report deposit n) event callbacks).exec w
    ∃ new entries, Unfolds (inDeposit n entries) w new result.2 ∧
      Delivers n event callbacks entries result.1 := by
  induction callbacks generalizing w with
  -- Without callbacks nothing is noted.
  | nil => exact ⟨[], [], .of_nothing, .done⟩
  | cons k rest ih =>
    obtain ⟨new, hinvoked⟩ :
        ∃ new, Unfolds (inDeposit n [.invoked n k event,
            .returned n k ((c.invoke deposit n k event).exec w).1]) w new
          ((c.invoke deposit n k event).exec w).2 :=
      within_unfolds (BusProgram.respects_run extends_moves hdeposit _) hn rfl fun _ => rfl
    rw [EventBus.exec_deliver_cons]
    rcases hinvoke : (c.invoke deposit n k event).exec w with ⟨fault | ⟨⟩, w₁⟩ <;>
      rw [hinvoke] at hinvoked <;> dsimp only at hinvoked ⊢
    · -- What the callback threw goes to the handler; the rest have their turn if it returns.
      have hn₁ : n < w₁.deposits := Nat.lt_of_lt_of_le hn hinvoked.deposits
      obtain ⟨new', hreported⟩ :
          ∃ new, Unfolds (inDeposit n [.reported n fault event,
              .handled n ((c.report deposit n fault event).exec w₁).1]) w₁ new
            ((c.report deposit n fault event).exec w₁).2 :=
        within_unfolds (BusProgram.respects_run extends_moves hdeposit _) hn₁ rfl fun _ => rfl
      rw [Run.exec_bind]
      rcases hreport : (c.report deposit n fault event).exec w₁ with ⟨fault' | ⟨⟩, w₂⟩ <;>
        rw [hreport] at hreported <;> dsimp only at hreported ⊢
      · -- The handler has failed, too, and the deposit ends with its fault.
        exact ⟨_, _, hinvoked.append_inDeposit hn hreported, .failed⟩
      · -- The handler has returned.
        obtain ⟨new₂, entries, hrest, hdelivers⟩ :=
          ih (Nat.lt_of_lt_of_le hn₁ hreported.deposits)
        exact ⟨_, _, (hinvoked.append_inDeposit hn hreported).append_inDeposit hn hrest,
          .reported hdelivers⟩
    · -- The callback has returned.
      obtain ⟨new₁, entries, hrest, hdelivers⟩ := ih (Nat.lt_of_lt_of_le hn hinvoked.deposits)
      exact ⟨_, _, hinvoked.append_inDeposit hn hrest, .returned hdelivers⟩

end Deliveries

/-- At every depth a deposit delivers its event to the callbacks of the bus and ends as the
delivery does. -/
theorem Callbacks.deposit_unfolds [DecidableEq ι] (c : Callbacks ι θ) (depth : Nat)
    (event : ClaimEvent) : Run.Respects BusWorld.Extends (c.deposit depth event) := by
  -- The deposits that callbacks make have less room than the deposit whose event they handle.
  induction depth generalizing event with
  | zero => exact Run.respects_throw _ _
  | succ depth ih =>
    intro w
    have hn : w.deposits < (w.begun event).deposits := Nat.lt_succ_self _
    obtain ⟨new, entries, hdelivery, hdelivers⟩ :=
      c.deliver_unfolds ih event w.bus.subscribers hn
    exact ⟨_, hdelivery.of_delivery hdelivers⟩

/-- Every deposit of every run delivers to a snapshot.  Callbacks, the error handler and the user
may do what they like: subscribe and unsubscribe anyone, throw, and deposit events themselves, to
any depth.  When a deposit begins, its snapshot holds the registered callbacks, in the order of
their registration.  Each is invoked in turn, and what it throws is reported with the event before
the next one is invoked; nobody else is invoked.  The delivery stops only if the error handler
throws; if it does not, every callback of the snapshot is invoked once and the deposit returns. -/
theorem Callbacks.deposits_reach_snapshot [DecidableEq ι] (c : Callbacks ι θ) (depth : Nat)
    (own : θ) (user : BusProgram ι θ) {trace past rest : List (BusEntry ι)} {n : Nat}
    {event : ClaimEvent} {snapshot : List ι}
    (hrun : ((user.run (c.deposit depth)).exec (.fresh own)).2.trace = trace)
    (hbegan : trace = past ++ .began n event snapshot :: rest) :
    Enrolled past snapshot ∧
      ∃ entries outcome,
        ofDeposit n trace = .began n event snapshot :: entries ++ [.ended n outcome] ∧
        Delivers n event snapshot entries outcome ∧
        entries.filterMap invocation? <+: snapshot.map (·, event) ∧
        ((∀ fault, .handled n (.error fault) ∉ trace) →
          outcome = .ok () ∧ entries.filterMap invocation? = snapshot.map (·, event)) := by
  refine ⟨(c.run_tracked depth own user).snapshots past n event snapshot rest
    (hrun.trans hbegan), ?_⟩
  obtain ⟨new, hunfolds⟩ := BusProgram.respects_run extends_moves (c.deposit_unfolds depth) user
    (.fresh own)
  have hnew : new = trace := hunfolds.trace.symm.trans hrun
  subst hnew
  have hmem : .began n event snapshot ∈ ofDeposit n new :=
    mem_ofDeposit.2 ⟨by rw [hbegan]; simp, rfl⟩
  -- The deposit has begun in this run, so its number is below those of the next ones.
  have hlt : n < ((user.run (c.deposit depth)).exec (.fresh own)).2.deposits := by
    refine Nat.not_le.1 fun hle => ?_
    rw [hunfolds.newer n hle] at hmem
    cases hmem
  obtain ⟨entries, outcome, hentries, hdelivers⟩ :=
    (hunfolds.fate n (Nat.zero_le n) hlt).of_began hmem
  refine ⟨entries, outcome, hentries, hdelivers, hdelivers.invoked_prefix, fun hhandled =>
    hdelivers.complete fun fault hfault => hhandled fault ?_⟩
  -- What the deposit has noted is in the trace.
  have hinside : .handled n (.error fault) ∈ ofDeposit n new := by
    rw [hentries]
    simp [hfault]
  exact (mem_ofDeposit.1 hinside).1

/-- The first callback leaves, brings in a new one and throws.  The second one sends the third one
away and deposits another event. -/
def Callbacks.unruly : Callbacks String Unit where
  react
    | "first", ⟨.created, _, _, _⟩ =>
      .unsubscribe "first" (.subscribe "new" (.done (.error (.raised "too much"))))
    | "second", ⟨.created, who, proof, _⟩ =>
      .unsubscribe "third" (.deposit (.revoked who proof) fun _ => .done (.ok ()))
    | _, _ => .done (.ok ())
  onError _ _ := .done (.ok ())

/-- What happens when a claim is announced to callbacks of which the third one left and came
back. -/
def Callbacks.unrulyTrace : List (BusEntry String) :=
  let announce : BusProgram String Unit :=
    .deposit (.created "alice" [7]) fun outcome => .done outcome
  let user : BusProgram String Unit :=
    .subscribe "third" (.subscribe "first" (.subscribe "second"
      (.unsubscribe "third" (.subscribe "third" (.subscribe "first" announce)))))
  ((user.run (unruly.deposit 2)).exec (.fresh ())).2.trace

/-- The callback that came back is invoked last, although it has been sent away, and the new one
is not invoked. -/
theorem Callbacks.deposits_reach_snapshot_unruly :
    Enrolled (unrulyTrace.take 6) ["first", "second", "third"] ∧
      ∃ entries,
        ofDeposit 0 unrulyTrace =
          .began 0 (.created "alice" [7]) ["first", "second", "third"] :: entries ++
            [.ended 0 (.ok ())] ∧
        entries.filterMap invocation? =
          ["first", "second", "third"].map (·, .created "alice" [7]) := by
  have hbegan : unrulyTrace = unrulyTrace.take 6 ++
      .began 0 (.created "alice" [7]) ["first", "second", "third"] :: unrulyTrace.drop 7 := rfl
  have hcalm : unrulyTrace.all (fun | .handled _ (.error _) => false | _ => true) = true := rfl
  obtain ⟨henrolled, entries, outcome, hentries, -, -, hcomplete⟩ :=
    unruly.deposits_reach_snapshot 2 () _ rfl hbegan
  obtain ⟨rfl, hinvoked⟩ := hcomplete fun fault hfault =>
    nomatch List.all_eq_true.1 hcalm _ hfault
  exact ⟨henrolled, entries, hentries, hinvoked⟩

end ProofOfExistence
