import ProofOfExistence.Proofs.BusDeliveries

/-!
# The order in which subscribers hear of events

Whatever the subscribers of a bus do, one who is subscribed throughout hears every event exactly
once, if the error handler raises no fault.  The events come to it in the order of the changes as
long as no further change is made while an event is on its way to it.  That is so if those who come
before it on the bus only look claims up while they handle an event; the first subscriber always
hears the events in order.

A subscriber who changes a claim while it handles an event makes the later ones hear of its own
change first, and they cannot replay what they heard.  A fault of the error handler ends the
delivery and the call, and what some have heard of the call was never committed.

## Key results

- `deposit_hears`: what a subscriber hears of one event
- `subscribers_hear_in_order`: what a subscriber hears in any run, on both stores
- `later_subscriber_hears_backwards`: a later subscriber may hear two events in the wrong order, and
  may miss one that others have heard if the error handler fails
-/

namespace ProofOfExistence

variable {τ ι ε η α : Type}

/-! ## What a subscriber hears -/

section Heard

variable [DecidableEq ι]

/-- No event is deposited while another one is on its way to a subscriber. -/
def Undisturbed (k : ι) (trace : List (Happening ι)) : Prop :=
  ∀ past n event subscribers between later,
    trace = past ++ .deposited n event subscribers :: between ++ .offered n k event :: later →
    announcements between = []

/-- The subscribers who come before one on the bus. -/
def EventBus.ahead (bus : EventBus ι) (k : ι) : List ι :=
  bus.subscribers.takeWhile fun j => j ≠ k

end Heard

/-- A program that calls the service to look claims up at most. -/
def Participant.LooksOnly : Participant τ ι ε η α → Prop
  | done _ => True
  | look next => ∀ w, (next w).LooksOnly
  | keep _ next => next.LooksOnly
  | call r next => (∃ proof, r = .claim proof) ∧ ∀ answer, (next answer).LooksOnly
  | subscribe _ next => next.LooksOnly
  | unsubscribe _ next => next.LooksOnly

/-- A subscriber who changes no claim while an event is offered to it, not even through the error
handler. -/
def LooksOn (react : ι → ClaimEvent → Participant τ ι ε η Unit)
    (onError : Fault → ClaimEvent → Participant τ ι ε η Unit) (j : ι) : Prop :=
  ∀ event, (react j event).LooksOnly ∧ ∀ fault, (onError fault event).LooksOnly

/-- Nobody who comes before a subscriber on the bus changes a claim while it handles an event. -/
def OnlookersAhead [DecidableEq ι] (react : ι → ClaimEvent → Participant τ ι ε η Unit)
    (onError : Fault → ClaimEvent → Participant τ ι ε η Unit) (bus : EventBus ι) (k : ι) : Prop :=
  ∀ j ∈ bus.ahead k, LooksOn react onError j

section Lists

variable [DecidableEq ι] {k : ι} {new new' : List (Happening ι)}

omit [DecidableEq ι] in
/-- An event may be on its way in a part of a trace only if it is in the whole. -/
theorem Undisturbed.of_append (h : Undisturbed k (new ++ new')) :
    Undisturbed k new ∧ Undisturbed k new' := by
  refine ⟨fun past n event subscribers between later heq => ?_,
    fun past n event subscribers between later heq => ?_⟩
  · refine h past n event subscribers between (later ++ new') ?_
    rw [heq]
    simp
  · refine h (new ++ past) n event subscribers between later ?_
    rw [heq]
    simp

private theorem takeWhile_append_singleton {l : List ι} (hk : k ∈ l) (j : ι) :
    (l ++ [j]).takeWhile (fun i => i ≠ k) = l.takeWhile fun i => i ≠ k := by
  induction l with
  | nil => cases hk
  | cons i rest ih =>
    by_cases hi : i = k
    · simp [hi]
    · have hrest := ih ((List.mem_cons.1 hk).resolve_left fun h => hi h.symm)
      simp only [List.cons_append, List.takeWhile_cons, hrest]

private theorem mem_takeWhile_erase {l : List ι} {i j : ι} (hj : j ≠ k)
    (hi : i ∈ (l.erase j).takeWhile fun i => i ≠ k) : i ∈ l.takeWhile fun i => i ≠ k := by
  induction l with
  | nil => exact hi
  | cons a rest ih =>
    by_cases haj : a = j
    · subst haj
      rw [List.erase_cons_head] at hi
      simp only [List.takeWhile_cons, hj, ne_eq, not_false_eq_true, decide_true, if_true]
      exact List.mem_cons_of_mem _ hi
    · rw [List.erase_cons_tail (by simpa using haj)] at hi
      by_cases hak : a = k
      · simp [hak] at hi
      · simp only [List.takeWhile_cons, hak, ne_eq, not_false_eq_true, decide_true, if_true,
          List.mem_cons] at hi ⊢
        exact hi.imp_right ih

/-- Whoever subscribes later comes after those who are there. -/
theorem EventBus.ahead_subscribe {bus : EventBus ι} (hk : k ∈ bus.subscribers) (j : ι) :
    (bus.subscribe j).ahead k = bus.ahead k := by
  unfold EventBus.ahead EventBus.subscribe
  split
  · rfl
  · exact takeWhile_append_singleton hk j

theorem EventBus.ahead_unsubscribe (bus : EventBus ι) {j : ι} (hj : j ≠ k) :
    ∀ i ∈ (bus.unsubscribe j).ahead k, i ∈ bus.ahead k :=
  fun _ => mem_takeWhile_erase hj

/-- The subscribers are those ahead, the one itself and those behind. -/
theorem EventBus.exists_behind {bus : EventBus ι} (hk : k ∈ bus.subscribers) :
    ∃ behind, bus.subscribers = bus.ahead k ++ k :: behind ∧ (∀ j ∈ bus.ahead k, j ≠ k) ∧
      ∀ j ∈ behind, j ≠ k := by
  obtain ⟨before, behind, hsplit⟩ := List.append_of_mem hk
  have hnodup := hsplit ▸ bus.nodup
  have hbefore : ∀ j ∈ before, j ≠ k := fun j hj =>
    (List.nodup_append.1 hnodup).2.2 j hj k List.mem_cons_self
  have hahead : bus.ahead k = before := by
    rw [EventBus.ahead, hsplit,
      List.takeWhile_append_of_pos fun j hj => decide_eq_true (hbefore j hj)]
    simp
  refine ⟨behind, hahead ▸ hsplit, hahead ▸ hbefore, fun j hj hjk => ?_⟩
  exact (List.nodup_cons.1 (List.nodup_append.1 hnodup).2.1).1 (hjk ▸ hj)

end Lists

/-! ## Computations that announce nothing -/

section Onlookers

/-- No event is deposited between two forums. -/
def NoNews (w w' : Forum τ ι ε η) : Prop :=
  ∃ new, w'.trace = w.trace ++ new ∧ announcements new = []

instance : IsPreorder (Forum τ ι ε η) NoNews where
  refl w := ⟨[], (List.append_nil _).symm, rfl⟩
  trans w w' w'' := by
    rintro ⟨new, htrace, hnew⟩ ⟨new', htrace', hnew'⟩
    refine ⟨new ++ new', by rw [htrace', htrace, List.append_assoc], ?_⟩
    rw [announcements_append, hnew, hnew', List.append_nil]

private theorem noNews_of_trace_eq {w w' : Forum τ ι ε η} (h : w'.trace = w.trace) :
    NoNews w w' :=
  ⟨[], by rw [h, List.append_nil], rfl⟩

variable [DecidableEq ι] {serve : ClaimRequest → Run (Forum τ ι ε η) ClaimReply}
  (hlookup : ∀ proof, Run.Respects NoNews (serve (.claim proof)))
include hlookup

/-- A program that only looks claims up announces nothing. -/
theorem Participant.LooksOnly.noNews {p : Participant τ ι ε η α} (h : p.LooksOnly) :
    Run.Respects NoNews (p.run serve) := by
  induction p with
  | done outcome => exact Run.respects_ofExcept _ outcome
  | look next ih => exact Run.respects_bind (fun w => Std.Refl.refl w) fun w => ih w (h w)
  | keep own next ih => exact Run.respects_bind (fun w => noNews_of_trace_eq rfl) fun _ => ih h
  | call r next ih =>
    obtain ⟨⟨proof, rfl⟩, hnext⟩ := h
    exact Run.respects_bind (Run.respects_observe (hlookup proof)) fun answer =>
      ih answer (hnext answer)
  | subscribe k next ih =>
    exact Run.respects_bind (fun w => noNews_of_trace_eq rfl) fun _ => ih h
  | unsubscribe k next ih =>
    refine Run.respects_bind (fun w => noNews_of_trace_eq rfl) fun _ => ?_
    exact Run.respects_bind (fun w => ⟨[.left k], rfl, rfl⟩) fun _ => ih h

/-- Delivering an event to onlookers announces nothing. -/
private theorem deliver_noNews {react : ι → ClaimEvent → Participant τ ι ε η Unit}
    {onError : Fault → ClaimEvent → Participant τ ι ε η Unit} (n : Nat) (event : ClaimEvent)
    {subscribers : List ι} (h : ∀ j ∈ subscribers, LooksOn react onError j) :
    Run.Respects NoNews
      (EventBus.deliver (Outlet.notify serve react n) (Outlet.handle serve onError) event
        subscribers) := by
  -- Nobody runs the handler if there are no subscribers.
  cases subscribers with
  | nil => exact Run.respects_pure _ ()
  | cons k rest =>
    refine EventBus.respects_deliver (fun j hj => ?_) fun fault => ?_
    · refine Run.respects_bind (fun w => ⟨[.offered n j event], rfl, rfl⟩) fun _ => ?_
      exact (h j hj event).1.noNews hlookup
    · exact ((h k List.mem_cons_self event).2 fault).noNews hlookup

end Onlookers

/-- A lookup announces nothing. -/
private theorem lookup_noNews [DecidableEq ι] (h : Host ε η) (ops : StoreOps τ)
    (outlet : Outlet τ ι ε η) (depth : Nat) (proof : Fingerprint) :
    Run.Respects NoNews (h.serve (ops.store Forum.storeCell) outlet depth (.claim proof)) := by
  cases depth with
  | zero => exact Run.respects_throw _ _
  | succ depth =>
    refine Run.respects_bind (fun w => ⟨[.began w.calls (.claim proof)], rfl, rfl⟩) fun n => ?_
    refine Run.respects_bind (Run.respects_observe (Run.respects_map ?_ _)) fun outcome => ?_
    · exact StoreOps.respects_ask _ _
    · exact Run.respects_bind (fun w => ⟨[.ended n (.claim proof) outcome], rfl, rfl⟩) fun _ =>
        Run.respects_ofExcept _ outcome

/-! ## Hearing -/

section Hearing

variable [DecidableEq ι] (react : ι → ClaimEvent → Participant τ ι ε η Unit)
  (onError : Fault → ClaimEvent → Participant τ ι ε η Unit) (k : ι)

/-- What a subscriber hears between two forums if its subscription does not end. -/
structure Heard (w : Forum τ ι ε η) (new : List (Happening ι)) (w' : Forum τ ι ε η) : Prop where
  stays : k ∈ w'.bus.subscribers
  ahead : ∀ j ∈ w'.bus.ahead k, j ∈ w.bus.ahead k
  /-- It hears every event once. -/
  once : (heard k new).Perm (announcements new)
  undisturbed : Undisturbed k new → heard k new = announcements new
  onlookers : OnlookersAhead react onError w.bus k → heard k new = announcements new

/-- Whoever is subscribed hears what is announced, unless its subscription ends. -/
def Hears (w w' : Forum τ ι ε η) : Prop :=
  ∃ new, w'.trace = w.trace ++ new ∧
    (k ∈ w.bus.subscribers → .left k ∉ new → Heard react onError k w new w')

variable {react onError k} {w w' w'' : Forum τ ι ε η} {new new' : List (Happening ι)}

theorem Heard.trans (h : Heard react onError k w new w') (h' : Heard react onError k w' new' w'') :
    Heard react onError k w (new ++ new') w'' where
  stays := h'.stays
  ahead j hj := h.ahead j (h'.ahead j hj)
  once := by
    rw [heard_append, announcements_append]
    exact h.once.append h'.once
  undisturbed hundisturbed := by
    obtain ⟨hfirst, hsecond⟩ := hundisturbed.of_append
    rw [heard_append, announcements_append, h.undisturbed hfirst, h'.undisturbed hsecond]
  onlookers honlookers := by
    have hlater : OnlookersAhead react onError w'.bus k := fun j hj => honlookers j (h.ahead j hj)
    rw [heard_append, announcements_append, h.onlookers honlookers, h'.onlookers hlater]

/-- Nothing is heard if nothing is announced, and the bus stays as it is. -/
theorem Heard.of_silence (hbus : w'.bus = w.bus) (hk : k ∈ w.bus.subscribers)
    (hheard : heard k new = []) (hnews : announcements new = []) :
    Heard react onError k w new w' where
  stays := hbus ▸ hk
  ahead j hj := hbus ▸ hj
  once := by rw [hheard, hnews]
  undisturbed _ := by rw [hheard, hnews]
  onlookers _ := by rw [hheard, hnews]

instance : IsPreorder (Forum τ ι ε η) (Hears react onError k) where
  refl w := ⟨[], (List.append_nil _).symm, fun hk _ => .of_silence rfl hk rfl rfl⟩
  trans w w' w'' := by
    rintro ⟨new, htrace, hfirst⟩ ⟨new', htrace', hsecond⟩
    refine ⟨new ++ new', by rw [htrace', htrace, List.append_assoc], fun hk hleft => ?_⟩
    have hheard := hfirst hk fun hmem => hleft (List.mem_append_left _ hmem)
    exact hheard.trans (hsecond hheard.stays fun hmem => hleft (List.mem_append_right _ hmem))

/-- What is neither a deposit nor an offer to the subscriber goes unheard. -/
private theorem hears_of_unheard {x : Happening ι} (hbus : w'.bus = w.bus)
    (htrace : w'.trace = w.trace ++ [x]) (hheard : x.heard? k = none)
    (hnews : x.announcement? = none) : Hears react onError k w w' :=
  ⟨[x], htrace, fun hk _ => .of_silence hbus hk (by simp [heard, hheard])
    (by simp [announcements, hnews])⟩

private theorem hears_of_same (hbus : w'.bus = w.bus) (htrace : w'.trace = w.trace) :
    Hears react onError k w w' :=
  ⟨[], by rw [htrace, List.append_nil], fun hk _ => .of_silence hbus hk rfl rfl⟩

private theorem hears_moves :
    Participant.Moves (Hears (τ := τ) (ε := ε) (η := η) react onError k) where
  keep _ _ := hears_of_same rfl rfl
  subscribe w j :=
    ⟨[], (List.append_nil _).symm, fun hk _ =>
      { stays := (w.bus.mem_subscribe j k).2 (.inl hk)
        ahead := fun i hi => EventBus.ahead_subscribe hk j ▸ hi
        once := .nil
        undisturbed := fun _ => rfl
        onlookers := fun _ => rfl }⟩
  unsubscribe w j :=
    ⟨[.left j], rfl, fun hk hleft =>
      have hj : j ≠ k := fun hjk => hleft (by rw [hjk]; exact List.mem_singleton_self _)
      { stays := (w.bus.mem_unsubscribe j k).2 ⟨hj.symm, hk⟩
        ahead := w.bus.ahead_unsubscribe hj
        once := .nil
        undisturbed := fun _ => rfl
        onlookers := fun _ => rfl }⟩

section Deposits

variable {serve : ClaimRequest → Run (Forum τ ι ε η) ClaimReply}
  (hserve : ∀ r, Run.Respects (Hears react onError k) (serve r)) (n : Nat) (event : ClaimEvent)
include hserve

/-- An offer to anyone else goes unheard, and so does not what comes of it. -/
private theorem notify_hears {j : ι} (hj : j ≠ k) :
    Run.Respects (Hears react onError k) (Outlet.notify serve react n j event) := by
  refine Run.respects_bind (fun w => ?_) fun _ =>
    Participant.respects_run hears_moves hserve (react j event)
  exact hears_of_unheard rfl rfl (by simp [Happening.heard?, hj]) rfl

private theorem deliver_hears {subscribers : List ι} (h : ∀ j ∈ subscribers, j ≠ k) :
    Run.Respects (Hears react onError k)
      (EventBus.deliver (Outlet.notify serve react n) (Outlet.handle serve onError) event
        subscribers) :=
  EventBus.respects_deliver (fun j hj => notify_hears hserve n event (h j hj)) fun fault =>
    Outlet.respects_handle hears_moves hserve onError fault event

/-- The subscriber itself is offered the event first, and hears of all that comes of it. -/
private theorem deliver_own_hears {behind : List ι} (h : ∀ j ∈ behind, j ≠ k)
    (w : Forum τ ι ε η) :
    Hears react onError k (w.noted (.offered n k event))
      ((EventBus.deliver (Outlet.notify serve react n) (Outlet.handle serve onError) event
        (k :: behind)).exec w).2 := by
  have hreaction := Participant.respects_run hears_moves hserve (react k event)
    (w.noted (.offered n k event))
  have hrest := deliver_hears hserve n event h
  rw [EventBus.exec_deliver_cons]
  have hnotify : (Outlet.notify serve react n k event).exec w =
      ((react k event).run serve).exec (w.noted (.offered n k event)) := rfl
  rw [hnotify]
  rcases hexec : ((react k event).run serve).exec (w.noted (.offered n k event)) with
    ⟨fault | ⟨⟩, w'⟩ <;> rw [hexec] at hreaction
  · have hhandler := Outlet.respects_handle hears_moves hserve onError fault event
    exact IsTrans.trans _ _ _ hreaction (Run.respects_bind hhandler (fun _ => hrest) w')
  · exact IsTrans.trans _ _ _ hreaction (hrest w')

end Deposits

/-- What a subscriber hears of an event, of what comes of it before its turn, and after that. -/
private theorem Heard.of_deposit {n : Nat} {event : ClaimEvent} {subscribers : List ι}
    {before after : List (Happening ι)} {w₁ w₂ w₃ w₄ : Forum τ ι ε η}
    (hbefore : Heard react onError k w₁ before w₂) (hafter : Heard react onError k w₃ after w₄)
    (hbus₁ : w₁.bus = w.bus) (hbus₃ : w₃.bus = w₂.bus)
    (hsilent : OnlookersAhead react onError w.bus k → announcements before = []) :
    Heard react onError k w
      (.deposited n event subscribers :: before ++ .offered n k event :: after) w₄ := by
  -- It hears what comes before its turn, then the event itself, and then the rest.
  have hheard : heard k (.deposited n event subscribers :: before ++ .offered n k event :: after) =
      heard k before ++ (n, event) :: heard k after := by
    have hown : heard k (.offered n k event :: after) = (n, event) :: heard k after := by
      simp [heard, Happening.heard?]
    rw [heard_append, hown]
    rfl
  have hnews : announcements
      (.deposited n event subscribers :: before ++ .offered n k event :: after) =
      (n, event) :: (announcements before ++ announcements after) := by
    rw [announcements_append]
    rfl
  -- If nothing is announced before its turn, the subscriber hears nothing before it either.
  have hinOrder (hnone : announcements before = []) (heq : heard k after = announcements after) :
      heard k before ++ (n, event) :: heard k after =
        (n, event) :: (announcements before ++ announcements after) := by
    have hunheard : heard k before = [] := (hnone ▸ hbefore.once).eq_nil
    rw [hunheard, hnone, heq]
    rfl
  refine ⟨hafter.stays, fun j hj => ?_, ?_, fun hundisturbed => ?_, fun honlookers => ?_⟩
  · -- Who comes before it now came before it from the start.
    have hj₂ : j ∈ w₂.bus.ahead k := hbus₃ ▸ hafter.ahead j hj
    exact hbus₁ ▸ hbefore.ahead j hj₂
  · rw [hheard, hnews]
    exact List.perm_middle.trans ((hbefore.once.append hafter.once).cons _)
  · -- Nothing is announced while it waits for its turn.
    rw [hheard, hnews]
    have hsplit : Undisturbed k
        ((.deposited n event subscribers :: before ++ [.offered n k event]) ++ after) := by
      simpa using hundisturbed
    exact hinOrder (hundisturbed [] n event subscribers before after rfl)
      (hafter.undisturbed hsplit.of_append.2)
  · -- Those who come before it make no calls that announce anything.
    rw [hheard, hnews]
    have hlater : OnlookersAhead react onError w₃.bus k := fun j hj =>
      honlookers j (hbus₁ ▸ hbefore.ahead j (hbus₃ ▸ hj))
    exact hinOrder (hsilent honlookers) (hafter.onlookers hlater)

/-- Whatever subscribers do when an event is offered to them, a subscriber who stays hears it, and
all events that come of it. -/
theorem deposit_hears {serve : ClaimRequest → Run (Forum τ ι ε η) ClaimReply}
    (hserve : ∀ r, Run.Respects (Hears react onError k) (serve r))
    (hlookup : ∀ proof, Run.Respects NoNews (serve (.claim proof)))
    (hcalm : ∀ fault event, Run.Completes (Outlet.handle serve onError fault event)) (n : Nat)
    (event : ClaimEvent) :
    Run.Respects (Hears react onError k) (do
      Forum.note (.deposited n event (← Forum.busCell.read).subscribers)
      (Outlet.bus react onError).deposit serve n event) := by
  intro w
  have hexec : ((do
      Forum.note (.deposited n event (← Forum.busCell.read).subscribers)
      (Outlet.bus react onError).deposit serve n event : Run (Forum τ ι ε η) Unit).exec w) =
    (EventBus.deliver (Outlet.notify serve react n) (Outlet.handle serve onError) event
      w.bus.subscribers).exec (w.noted (.deposited n event w.bus.subscribers)) := rfl
  rw [hexec]
  by_cases hk : k ∈ w.bus.subscribers
  · -- Those ahead of the subscriber have their turns before it, and those behind it after it.
    obtain ⟨behind, hsplit, hahead, hbehind⟩ := EventBus.exists_behind hk
    generalize hw₁ : w.noted (.deposited n event w.bus.subscribers) = w₁
    have hbus₁ : w₁.bus = w.bus := by rw [← hw₁]; rfl
    rw [hsplit, EventBus.deliver_append, Run.exec_bind]
    obtain ⟨⟨⟩, w₂, hfirst⟩ :=
      EventBus.completes_deliver (Outlet.notify serve react n) (hcalm · event) (w.bus.ahead k) w₁
    have hbefore := deliver_hears hserve n event hahead w₁
    rw [hfirst] at hbefore ⊢
    dsimp only at hbefore ⊢
    obtain ⟨before, htrace₂, hbefore⟩ := hbefore
    obtain ⟨after, htrace₄, hafter⟩ := deliver_own_hears hserve n event hbehind w₂
    refine ⟨.deposited n event w.bus.subscribers :: before ++ .offered n k event :: after, ?_,
      fun _ hleft => ?_⟩
    · rw [htrace₄, Forum.noted, htrace₂, ← hw₁]
      simp [Forum.noted]
    · -- It hears the event in between, since it stays subscribed.
      have hheard := hbefore (hbus₁ ▸ hk) fun hmem => hleft (by simp [hmem])
      have hown := hafter hheard.stays fun hmem => hleft (by simp [hmem])
      refine hheard.of_deposit hown hbus₁ rfl fun honlookers => ?_
      have hquiet := deliver_noNews hlookup n event honlookers w₁
      rw [hfirst] at hquiet
      obtain ⟨before', htrace', hnone⟩ := hquiet
      rwa [List.append_cancel_left (htrace₂.symm.trans htrace')]
  · -- The others hear the event, and nothing is owed to this subscriber.
    refine IsTrans.trans _ (w.noted (.deposited n event w.bus.subscribers)) _
      ⟨[_], rfl, fun hk' => absurd hk' hk⟩ ?_
    exact deliver_hears hserve n event (fun j hj hjk => hk (hjk ▸ hj)) _

/-! ## Calls and runs -/

section Calls

variable {S : TransactionalStore τ} {h : Host ε η}

/-- What becomes of the store is not heard. -/
private theorem hears_set (w : Forum τ ι ε η) (s : τ) :
    Hears react onError k w (Forum.storeCell.set s w) :=
  hears_of_same rfl rfl

private theorem hears_note {x : Happening ι} (hheard : x.heard? k = none)
    (hnews : x.announcement? = none) :
    Run.Respects (Hears react onError k) (Forum.note (τ := τ) (ε := ε) (η := η) x) :=
  fun _ => hears_of_unheard rfl rfl hheard hnews

private theorem hears_consult (f : ε → η → Except Fault α × η) :
    Run.Respects (Hears react onError k) (Forum.consult (τ := τ) f) :=
  fun _ => hears_of_same rfl rfl

/-- Besides the deposit, nothing that the service does is heard. -/
private theorem service_hears (n : Nat) {deposit : ClaimEvent → Run (Forum τ ι ε η) Unit}
    (hdeposit : ∀ event, Run.Respects (Hears react onError k) (do
      Forum.note (.deposited n event (← Forum.busCell.read).subscribers)
      deposit event)) :
    (h.service (S.store Forum.storeCell) n deposit).Respects (Hears react onError k) where
  get _ := StoreOps.respects_ask _ _
  contains _ := StoreOps.respects_ask _ _
  insert _ _ :=
    Run.respects_bind (StoreOps.respects_update hears_set _) fun _ => hears_note rfl rfl
  remove _ :=
    Run.respects_bind (StoreOps.respects_update hears_set _) fun _ => hears_note rfl rfl
  transaction _ hbody := by
    have htransaction := S.respects_transaction hears_set hbody
    refine Run.respects_bind (Run.respects_observe htransaction) fun outcome => ?_
    cases outcome with
    | ok a => exact Run.respects_bind (hears_note rfl rfl) fun _ => Run.respects_pure _ a
    | error e => exact Run.respects_bind (hears_note rfl rfl) fun _ => Run.respects_throw _ e
  now := by
    refine Run.respects_bind (Run.respects_observe (hears_consult _)) fun reading => ?_
    exact Run.respects_bind (hears_note rfl rfl) fun _ => Run.respects_ofExcept _ reading
  deposit event := hdeposit event
  count name tags := hears_consult fun _ => h.count name tags
  log level text context := hears_consult fun _ => h.log level text context

variable (S h k) in
/-- Calls of every depth are heard. -/
theorem serve_hears (hcalm : h.CalmBus (S.store Forum.storeCell) react onError) (depth : Nat)
    (r : ClaimRequest) :
    Run.Respects (Hears react onError k)
      (h.serve (S.store Forum.storeCell) (.bus react onError) depth r) := by
  induction depth generalizing r with
  | zero => exact Run.respects_throw _ _
  | succ depth ih =>
    refine Run.respects_bind (fun _ => hears_of_unheard rfl rfl rfl rfl) fun n => ?_
    have hservice := service_hears (S := S) (h := h) n
      (deposit_hears ih (lookup_noNews h S.toStoreOps (.bus react onError) depth) (hcalm depth) n)
    refine Run.respects_bind (Run.respects_observe (ClaimService.respects_serve hservice r))
      fun outcome => ?_
    exact Run.respects_bind (hears_note rfl rfl) fun _ => Run.respects_ofExcept _ outcome

end Calls

end Hearing

/-- A subscriber hears the events in the order of the changes, and replaying them leads to the
owners of the claims. -/
structure HearsInOrder [DecidableEq ι] (claims : Claims) (k : ι) (new : List (Happening ι)) :
    Prop where
  all : heard k new = announcements new
  order : (heard k new).map Prod.fst = new.filterMap Happening.writer?
  owners : ∀ owners, OwnersOf claims owners → ∃ owners',
    ((heard k new).map Prod.snd).foldlM Owners.after? owners = some owners' ∧
    OwnersOf (claimsAfter claims new) owners'

/-- A run has a history in which every subscriber who stays hears every event once, and hears them
in order if no change is made while an event is on its way to it. -/
def WellHeard [DecidableEq ι] (Keeps : τ → Claims → Prop)
    (react : ι → ClaimEvent → Participant τ ι ε η Unit)
    (onError : Fault → ClaimEvent → Participant τ ι ε η Unit) (claims : Claims)
    (w w' : Forum τ ι ε η) : Prop :=
  ∃ new, History Keeps claims (fun _ => []) w new w' ∧
    ∀ k ∈ w.bus.subscribers, .left k ∉ new →
      (heard k new).Perm (announcements new) ∧
      (Undisturbed k new ∨ OnlookersAhead react onError w.bus k → HearsInOrder claims k new)

private theorem run_wellHeard [DecidableEq ι] (h : Host ε η) (S : FaithfulStore τ) (depth : Nat)
    {react : ι → ClaimEvent → Participant τ ι ε η Unit}
    {onError : Fault → ClaimEvent → Participant τ ι ε η Unit}
    (hcalm : h.CalmBus (S.store Forum.storeCell) react onError) (user : Participant τ ι ε η α)
    {w : Forum τ ι ε η} {claims : Claims} (hkeeps : S.Keeps w.store claims) :
    WellHeard S.Keeps react onError claims w
      ((user.run (h.serve (S.store Forum.storeCell) (.bus react onError) depth)).exec w).2 := by
  obtain ⟨new, hhistory⟩ := run_history h S hcalm depth user w claims hkeeps
  refine ⟨new, hhistory, fun k hk hleft => ?_⟩
  obtain ⟨new', htrace, hheard⟩ := Participant.respects_run hears_moves
    (serve_hears k S.toTransactionalStore h hcalm depth) user w
  obtain rfl := List.append_cancel_left (hhistory.trace.symm.trans htrace)
  have hheard := hheard hk hleft
  refine ⟨hheard.once, fun hinOrder => ?_⟩
  have hall : heard k new = announcements new := hinOrder.elim hheard.undisturbed hheard.onlookers
  exact ⟨hall, by rw [hall, hhistory.order], by rw [hall]; exact hhistory.owners⟩

/-- In every run of calls on a bus whose error handler raises no fault, on both stores, each
subscriber who stays hears every event exactly once.  It hears them in the order of the changes, and
can replay them, if no change is made while an event is on its way to it, as when those who come
before it only look claims up. -/
theorem subscribers_hear_in_order [DecidableEq ι] (h : Host ε η) (depth : Nat) :
    (∀ (react : ι → ClaimEvent → Participant UndoStore ι ε η Unit)
      (onError : Fault → ClaimEvent → Participant UndoStore ι ε η Unit)
      (user : Participant UndoStore ι ε η α) (w : Forum UndoStore ι ε η) (claims : Claims),
      h.CalmBus (UndoStore.store Forum.storeCell) react onError →
      w.store.Represents claims →
      WellHeard UndoStore.Represents react onError claims w
        ((user.run (h.serve (UndoStore.store Forum.storeCell) (.bus react onError) depth)).exec
          w).2) ∧
    ∀ (react : ι → ClaimEvent → Participant SavepointStore ι ε η Unit)
      (onError : Fault → ClaimEvent → Participant SavepointStore ι ε η Unit)
      (user : Participant SavepointStore ι ε η α) (w : Forum SavepointStore ι ε η)
      (claims : Claims),
      h.CalmBus (SavepointStore.store Forum.storeCell) react onError →
      w.store.Keeps claims →
      WellHeard SavepointStore.Keeps react onError claims w
        ((user.run (h.serve (SavepointStore.store Forum.storeCell) (.bus react onError)
          depth)).exec w).2 := by
  rw [SavepointStore.store_eq]
  exact ⟨fun _ _ user _ _ hcalm => run_wellHeard h UndoStore.faithful depth hcalm user,
    fun _ _ user _ _ hcalm => run_wellHeard h SavepointStore.faithful depth hcalm user⟩

/-- The eager subscriber comes last. -/
def eagerLast : EventBus String := ⟨["calm", "eager"], by decide⟩

/-- The subscriber before one who calls back hears the events in order. -/
theorem subscribers_hear_in_order_eager :
    let v := (eagerRun eagerLast).2
    HearsInOrder .empty "calm" v.trace ∧
      heard "calm" v.trace = [(0, .created "alice" [7]), (1, .transferred "alice" [7] "bob")] := by
  have hheard : WellHeard UndoStore.Represents eagerReaction (fun _ _ => .done (.ok ())) .empty
      (.fresh (.ofClaims .empty) eagerLast () ()) (eagerRun eagerLast).2 :=
    (subscribers_hear_in_order Host.idle 2).1 _ _ _ _ .empty (fun _ _ _ w => ⟨(), w, rfl⟩)
      (UndoStore.represents_ofClaims .empty)
  have hcalm : heard "calm" (eagerRun eagerLast).2.trace =
      [(0, .created "alice" [7]), (1, .transferred "alice" [7] "bob")] := by decide +kernel
  have hstays : ((eagerRun eagerLast).2.trace.all fun x => x.call?.isSome) = true := by
    decide +kernel
  intro v
  obtain ⟨new, hhistory, hsubscribers⟩ := hheard
  have htrace : v.trace = new := hhistory.trace.trans (List.nil_append new)
  subst htrace
  have hleft : .left "calm" ∉ v.trace := fun hmem => by
    cases List.all_eq_true.1 hstays _ hmem
  -- Nobody comes before the first subscriber.
  have hfirst : OnlookersAhead (τ := UndoStore) (ε := Unit) (η := Unit) eagerReaction
      (fun _ _ => .done (.ok ())) eagerLast "calm" := fun j hj => by
    cases hj
  exact ⟨(hsubscribers "calm" List.mem_cons_self hleft).2 (.inr hfirst), hcalm⟩

/-- What becomes of one claim that is created if the eager subscriber comes first and the error
handler raises its fault again. -/
def abruptRun : Except Fault Unit × Forum UndoStore String Unit Unit :=
  ((Participant.call (.create (.signed "alice") [7]) fun _ => .done (.ok ())).run
    (Host.idle.serve (UndoStore.store Forum.storeCell)
      (.bus eagerReaction fun fault _ => .done (.error fault)) 2)).exec
    (.fresh (.ofClaims .empty) eagerFirst () ())

/-- The subscriber after one who calls back hears of a claim that is handed on before it hears that
the claim was made.  Nobody unsubscribed, and it heard both events in an order that cannot be
replayed, while the other subscriber heard them in the order of the changes.

If the error handler raises the fault again, then the call fails: no claim is left, and the first
subscriber heard of one that the other one never hears of. -/
theorem later_subscriber_hears_backwards :
    let v := (eagerRun eagerFirst).2
    let u := abruptRun.2
    (v.bus.subscribers = ["eager", "calm"] ∧
      v.trace.filterMap Happening.writer? = [0, 1] ∧
      heard "eager" v.trace = [(0, .created "alice" [7]), (1, .transferred "alice" [7] "bob")] ∧
      heard "calm" v.trace = [(1, .transferred "alice" [7] "bob"), (0, .created "alice" [7])] ∧
      (Owners.replay ((heard "calm" v.trace).map Prod.snd)).isNone = true ∧
      v.store.get? [7] = some ⟨"bob", 0⟩) ∧
    u.bus.subscribers = ["eager", "calm"] ∧
      heard "eager" u.trace = [(0, .created "alice" [7]), (1, .transferred "alice" [7] "bob")] ∧
      heard "calm" u.trace = [(1, .transferred "alice" [7] "bob")] ∧
      u.store.get? [7] = none := by
  decide +kernel

end ProofOfExistence
