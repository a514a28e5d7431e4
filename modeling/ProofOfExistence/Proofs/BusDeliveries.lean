import ProofOfExistence.Proofs.CallCourses

/-!
# Committed means delivered, rejected or taken back means silent

A claim service deposits its events on a bus whose error handler raises no fault.  Its subscribers
may fail, call the service, subscribe and unsubscribe; its clock and reporters may fail.

Each call then has one of two fates.  Either it changes nothing and offers no event to anyone; or it
changes the claim on its fingerprint, offers its event once to every subscriber that there was when
it was deposited, and commits (`Fate`).  No change is taken back: at any time the claims are those
of the beginning after all changes so far, and every event announces its change (`History`).

## Key results

- `History.append`: histories compose
- `deliver_history`: an event is offered once to each subscriber, whatever they do
- `call_history`: the history of a call
- `committed_calls_delivered`: the history of any run, on both stores
-/

namespace ProofOfExistence

variable {τ ι ε η α : Type}

/-! ## What a trace tells -/

namespace Happening

/-- The change that is made to the claims. -/
def change? : Happening ι → Option (Fingerprint × Option ClaimRecord)
  | wrote _ proof claim => some (proof, claim)
  | _ => none

/-- The call that changes the claims. -/
def writer? : Happening ι → Option Nat
  | wrote n _ _ => some n
  | _ => none

/-- The event that is deposited, and its call. -/
def announcement? : Happening ι → Option (Nat × ClaimEvent)
  | deposited n event _ => some (n, event)
  | _ => none

/-- Nothing is changed or announced. -/
def still : Happening ι → Bool
  | wrote .. | deposited .. => false
  | _ => true

end Happening

/-- What happens in a call. -/
def entriesOf (n : Nat) (trace : List (Happening ι)) : List (Happening ι) :=
  trace.filter fun x => x.call? = some n

/-- The claims after all changes. -/
def claimsAfter (claims : Claims) (trace : List (Happening ι)) : Claims :=
  (trace.filterMap Happening.change?).foldl (fun claims c => claims.set? c.1 c.2) claims

/-- The events that are deposited, each with its call, in order. -/
def announcements (trace : List (Happening ι)) : List (Nat × ClaimEvent) :=
  trace.filterMap Happening.announcement?

/-- The event that is offered to a subscriber, and its call. -/
def Happening.heard? [DecidableEq ι] (k : ι) : Happening ι → Option (Nat × ClaimEvent)
  | offered n j event => if j = k then some (n, event) else none
  | _ => none

/-- The events that are offered to a subscriber, each with its call, in order. -/
def heard [DecidableEq ι] (k : ι) (trace : List (Happening ι)) : List (Nat × ClaimEvent) :=
  trace.filterMap (Happening.heard? k)

/-- What happens in a call, from its beginning to its end. -/
inductive Fate (m : Nat) : List (Happening ι) → Prop where
  /-- It reads the clock or closes its transaction at most, and does not succeed. -/
  | silent {r : ClaimRequest} {steps : List (Happening ι)} {outcome : Except Fault ClaimReply}
      (hsteps : ∀ x ∈ steps, (∃ reading, x = .told m reading) ∨ ∃ fault, x = .closed m fault)
      (houtcome : outcome ≠ .ok (.ended (.ok ()))) :
    Fate m (.began m r :: steps ++ [.ended m r outcome])
  /-- It changes a claim, its event is offered once to each subscriber, and its change is committed.
  Only a reporter can then still fail. -/
  | delivered {who : Identity} {proof : Fingerprint} {action : CallAction} {time : Number}
      {told : List (Happening ι)} {subscribers : List ι} {outcome : Except Fault ClaimReply}
      (htold : ∀ x ∈ told, ∃ reading, x = .told m reading) (hnodup : subscribers.Nodup)
      (houtcome : outcome = .ok (.ended (.ok ())) ∨ ∃ fault, outcome = .error fault) :
    Fate m (.began m (action.request (.signed who) proof) :: told ++
      [.wrote m proof (action.claimAfter who time),
        .deposited m (action.event who proof) subscribers] ++
      subscribers.map (.offered m · (action.event who proof)) ++
      [.closed m none, .ended m (action.request (.signed who) proof) outcome])

/-- What happens between two forums, of which the first one's store keeps some claims.  Within
earlier calls, only given entries are made. -/
structure History (Keeps : τ → Claims → Prop) (claims : Claims) (earlier : Nat → List (Happening ι))
    (w : Forum τ ι ε η) (new : List (Happening ι)) (w' : Forum τ ι ε η) : Prop where
  trace : w'.trace = w.trace ++ new
  calls : w.calls ≤ w'.calls
  /-- Each call that begins meets its fate. -/
  fate : ∀ m, w.calls ≤ m → m < w'.calls → Fate m (entriesOf m new)
  older : ∀ m < w.calls, entriesOf m new = earlier m
  newer : ∀ m, w'.calls ≤ m → entriesOf m new = []
  /-- The claims are those that all changes lead to. -/
  keeps : Keeps w'.store (claimsAfter claims new)
  /-- At any time, a lookup finds what all changes so far led to. -/
  lookups : ∀ past m proof found rest,
    new = past ++ .ended m (.claim proof) (.ok (.found found)) :: rest →
    found = (claimsAfter claims past).get? proof
  /-- The events are deposited in the order of the changes. -/
  order : new.filterMap Happening.writer? = (announcements new).map Prod.fst
  /-- Replaying the events leads to the owners of the claims. -/
  owners : ∀ owners, OwnersOf claims owners → ∃ owners',
    ((announcements new).map Prod.snd).foldlM Owners.after? owners = some owners' ∧
    OwnersOf (claimsAfter claims new) owners'

section Traces

variable {new new' : List (Happening ι)} {claims : Claims}

theorem entriesOf_append (n : Nat) :
    entriesOf n (new ++ new') = entriesOf n new ++ entriesOf n new' :=
  List.filter_append ..

theorem claimsAfter_append :
    claimsAfter claims (new ++ new') = claimsAfter (claimsAfter claims new) new' := by
  rw [claimsAfter, List.filterMap_append, List.foldl_append]
  rfl

theorem announcements_append :
    announcements (new ++ new') = announcements new ++ announcements new' :=
  List.filterMap_append ..

theorem heard_append [DecidableEq ι] {k : ι} :
    heard k (new ++ new') = heard k new ++ heard k new' :=
  List.filterMap_append ..

variable {n : Nat}

theorem entriesOf_eq_self (h : ∀ x ∈ new, x.call? = some n) : entriesOf n new = new :=
  List.filter_eq_self.2 fun x hx => decide_eq_true (h x hx)

theorem entriesOf_eq_nil {m : Nat} (hm : m ≠ n) (h : ∀ x ∈ new, x.call? = some n) :
    entriesOf m new = [] := by
  refine List.filter_eq_nil_iff.2 fun x hx hcall => hm ?_
  exact Option.some.inj ((of_decide_eq_true hcall).symm.trans (h x hx))

/-- What tells of changes, announcements or their calls tells nothing of still entries. -/
private theorem filterMap_of_still {β : Type} {f : Happening ι → Option β}
    (hf : ∀ x, x.still = true → f x = none) (h : ∀ x ∈ new, x.still = true) :
    new.filterMap f = [] :=
  List.filterMap_eq_nil_iff.2 fun x hx => hf x (h x hx)

theorem claimsAfter_of_still (h : ∀ x ∈ new, x.still = true) : claimsAfter claims new = claims := by
  rw [claimsAfter,
    filterMap_of_still (by rintro ⟨⟩ <;> simp [Happening.still, Happening.change?]) h]
  rfl

theorem announcements_of_still (h : ∀ x ∈ new, x.still = true) : announcements new = [] :=
  filterMap_of_still (by rintro ⟨⟩ <;> simp [Happening.still, Happening.announcement?]) h

theorem writers_of_still (h : ∀ x ∈ new, x.still = true) :
    new.filterMap Happening.writer? = [] :=
  filterMap_of_still (by rintro ⟨⟩ <;> simp [Happening.still, Happening.writer?]) h

end Traces

/-! ## Histories -/

/-- Entries within one call. -/
def inCall (n : Nat) (entries : List (Happening ι)) (m : Nat) : List (Happening ι) :=
  if m = n then entries else []

theorem inCall_append (n : Nat) (entries entries' : List (Happening ι)) (m : Nat) :
    inCall n (entries ++ entries') m = inCall n entries m ++ inCall n entries' m := by
  unfold inCall
  split <;> rfl

theorem inCall_of_ne {n m : Nat} (h : m ≠ n) (entries : List (Happening ι)) :
    inCall n entries m = [] :=
  if_neg h

namespace History

variable {Keeps : τ → Claims → Prop} {claims : Claims} {earlier earlier' : Nat → List (Happening ι)}
  {w w' w'' : Forum τ ι ε η} {new new' : List (Happening ι)} {n : Nat}

private theorem lookups_append
    (h : ∀ past m proof found rest,
      new = past ++ .ended m (.claim proof) (.ok (.found found)) :: rest →
      found = (claimsAfter claims past).get? proof)
    (h' : ∀ past m proof found rest,
      new' = past ++ .ended m (.claim proof) (.ok (.found found)) :: rest →
      found = (claimsAfter (claimsAfter claims new) past).get? proof)
    {past rest : List (Happening ι)} {m : Nat} {proof : Fingerprint} {found : Option ClaimRecord}
    (heq : new ++ new' = past ++ .ended m (.claim proof) (.ok (.found found)) :: rest) :
    found = (claimsAfter claims past).get? proof := by
  rcases List.append_eq_append_iff.1 heq with ⟨later, rfl, hlater⟩ | ⟨later, rfl, hlater⟩
  · rw [claimsAfter_append]
    exact h' later m proof found rest hlater
  · cases later with
    | nil =>
      rw [List.append_nil] at h'
      exact h' [] m proof found rest hlater.symm
    | cons x later =>
      obtain ⟨rfl, -⟩ := List.cons.inj hlater
      exact h past m proof found later rfl

/-- Histories compose. -/
theorem append (h : History Keeps claims earlier w new w')
    (h' : History Keeps (claimsAfter claims new) earlier' w' new' w'')
    (hearlier : ∀ m, w.calls ≤ m → earlier' m = []) :
    History Keeps claims (fun m => earlier m ++ earlier' m) w (new ++ new') w'' where
  trace := by rw [h'.trace, h.trace, List.append_assoc]
  calls := Nat.le_trans h.calls h'.calls
  fate m hm hm' := by
    rw [entriesOf_append]
    -- A call has its entries in the run in which it began.
    by_cases hbetween : m < w'.calls
    · rw [h'.older m hbetween, hearlier m hm, List.append_nil]
      exact h.fate m hm hbetween
    · rw [h.newer m (Nat.not_lt.1 hbetween), List.nil_append]
      exact h'.fate m (Nat.not_lt.1 hbetween) hm'
  older m hm := by
    rw [entriesOf_append, h.older m hm, h'.older m (Nat.lt_of_lt_of_le hm h.calls)]
  newer m hm := by
    rw [entriesOf_append, h.newer m (Nat.le_trans h'.calls hm), h'.newer m hm, List.nil_append]
  keeps := by
    rw [claimsAfter_append]
    exact h'.keeps
  lookups _ _ _ _ _ := lookups_append h.lookups h'.lookups
  order := by
    rw [List.filterMap_append, h.order, h'.order, announcements_append, List.map_append]
  owners owners howners := by
    -- The owners after the first run are those that the second run starts from.
    obtain ⟨owners₁, hfirst, howners₁⟩ := h.owners owners howners
    obtain ⟨owners₂, hsecond, howners₂⟩ := h'.owners owners₁ howners₁
    refine ⟨owners₂, ?_, by rwa [claimsAfter_append]⟩
    rw [announcements_append, List.map_append, List.foldlM_append, hfirst]
    exact hsecond

/-- Still entries make a history without calls. -/
theorem of_still (htrace : w'.trace = w.trace ++ new) (hcalls : w'.calls = w.calls)
    (hearlier : ∀ m, w.calls ≤ m → entriesOf m new = []) (hstill : ∀ x ∈ new, x.still = true)
    (hlookups : ∀ m proof found, .ended m (.claim proof) (.ok (.found found)) ∈ new →
      found = claims.get? proof)
    (hkeeps : Keeps w'.store claims) :
    History Keeps claims (fun m => entriesOf m new) w new w' where
  trace := htrace
  calls := hcalls.ge
  fate m hm hm' := absurd hm' (by rw [hcalls]; exact Nat.not_lt.2 hm)
  older m _ := rfl
  newer m hm := hearlier m (hcalls ▸ hm)
  keeps := by rwa [claimsAfter_of_still hstill]
  lookups past m proof found rest heq := by
    subst heq
    rw [claimsAfter_of_still fun x hx => hstill x (List.mem_append_left _ hx)]
    exact hlookups m proof found (by simp)
  order := by rw [writers_of_still hstill, announcements_of_still hstill, List.map_nil]
  owners owners howners :=
    ⟨owners, by rw [announcements_of_still hstill]; rfl,
      by rwa [claimsAfter_of_still hstill]⟩

/-- A move that is no part of a call makes a history. -/
theorem of_move (htrace : w'.trace = w.trace ++ new) (hcalls : w'.calls = w.calls)
    (hmove : ∀ x ∈ new, ∃ k, x = .left k) (hkeeps : Keeps w'.store claims) :
    History Keeps claims (fun _ => []) w new w' := by
  have hnone (m : Nat) : entriesOf m new = [] := by
    refine List.filter_eq_nil_iff.2 fun x hx => ?_
    obtain ⟨k, rfl⟩ := hmove x hx
    simp [Happening.call?]
  have hhistory := of_still htrace hcalls (fun m _ => hnone m)
    (fun x hx => by obtain ⟨k, rfl⟩ := hmove x hx; rfl)
    (fun m proof found hmem => by obtain ⟨k, hk⟩ := hmove _ hmem; cases hk) hkeeps
  simpa only [hnone] using hhistory

/-- Still entries of one call make a history. -/
theorem of_steps (htrace : w'.trace = w.trace ++ new) (hcalls : w'.calls = w.calls)
    (hn : n < w.calls) (hcall : ∀ x ∈ new, x.call? = some n) (hstill : ∀ x ∈ new, x.still = true)
    (hlookups : ∀ m proof found, .ended m (.claim proof) (.ok (.found found)) ∈ new →
      found = claims.get? proof)
    (hkeeps : Keeps w'.store claims) : History Keeps claims (inCall n new) w new w' := by
  have hentries : inCall n new = fun m => entriesOf m new := by
    funext m
    by_cases hm : m = n
    · rw [hm, entriesOf_eq_self hcall, inCall, if_pos rfl]
    · rw [inCall_of_ne hm, entriesOf_eq_nil hm hcall]
  rw [hentries]
  refine of_still htrace hcalls (fun m hm => ?_) hstill hlookups hkeeps
  exact entriesOf_eq_nil (Nat.ne_of_gt (Nat.lt_of_lt_of_le hn hm)) hcall

/-- What one call does after what it did before. -/
theorem append_inCall {entries entries' : List (Happening ι)} (hn : n < w.calls)
    (h : History Keeps claims (inCall n entries) w new w')
    (h' : History Keeps (claimsAfter claims new) (inCall n entries') w' new' w'') :
    History Keeps claims (inCall n (entries ++ entries')) w (new ++ new') w'' := by
  rw [funext (inCall_append n entries entries')]
  exact h.append h' fun m hm => inCall_of_ne (Nat.ne_of_gt (Nat.lt_of_lt_of_le hn hm)) _

/-- Calls in between are no part of the call in progress. -/
theorem append_between {entries : List (Happening ι)}
    (h : History Keeps claims (inCall n entries) w new w')
    (h' : History Keeps (claimsAfter claims new) (fun _ => []) w' new' w'') :
    History Keeps claims (inCall n entries) w (new ++ new') w'' := by
  have hboth := h.append h' fun _ _ => rfl
  simpa only [List.append_nil] using hboth

/-- A call that meets its fate is a history. -/
theorem call {r : ClaimRequest} {entries : List (Happening ι)}
    (h : History Keeps claims (inCall w.calls entries) (w.begun r) new w')
    (hfate : Fate w.calls (.began w.calls r :: entries)) :
    History Keeps claims (fun _ => []) w (.began w.calls r :: new) w' := by
  have hcalls : w.calls < w'.calls := h.calls
  -- Every other call has the same entries with this beginning as without it.
  have hother {m : Nat} (hm : m ≠ w.calls) :
      entriesOf m (.began w.calls r :: new) = entriesOf m new :=
    List.filter_cons_of_neg (by simp [Happening.call?, Ne.symm hm])
  have hown : entriesOf w.calls (.began w.calls r :: new) = .began w.calls r :: entries := by
    have holder := h.older w.calls (Nat.lt_succ_self _)
    rw [inCall, if_pos rfl] at holder
    rw [← holder]
    exact List.filter_cons_of_pos (by simp [Happening.call?])
  refine ⟨?_, Nat.le_of_lt hcalls, fun m hm hm' => ?_, fun m hm => ?_, fun m hm => ?_, h.keeps,
    fun past m proof found rest heq => ?_, h.order, h.owners⟩
  · -- One after the other, these are the fields of the history.
    rw [h.trace, Forum.begun, List.append_assoc]
    rfl
  · rcases Nat.eq_or_lt_of_le hm with rfl | hlt
    · rwa [hown]
    · rw [hother (Nat.ne_of_gt hlt)]
      exact h.fate m hlt hm'
  · rw [hother (Nat.ne_of_lt hm), h.older m (Nat.lt_succ_of_lt hm), inCall_of_ne (Nat.ne_of_lt hm)]
  · rw [hother (Nat.ne_of_gt (Nat.lt_of_lt_of_le hcalls hm)), h.newer m hm]
  · cases past with
    | nil => cases heq
    | cons x past =>
      obtain ⟨rfl, hrest⟩ := List.cons.inj heq
      exact h.lookups past m proof found rest hrest

/-- A change and the deposit of the event that announces it make a history. -/
theorem of_change {told : List (Happening ι)} {proof : Fingerprint} {claim : Option ClaimRecord}
    {event : ClaimEvent} {subscribers : List ι}
    (htrace : w'.trace =
      w.trace ++ (told ++ [.wrote n proof claim, .deposited n event subscribers]))
    (hcalls : w'.calls = w.calls) (hn : n < w.calls)
    (htold : ∀ x ∈ told, ∃ reading, x = .told n reading)
    (hkeeps : Keeps w'.store (claims.set? proof claim))
    (hannounces : Announces event claims (claims.set? proof claim)) :
    History Keeps claims (inCall n (told ++ [.wrote n proof claim, .deposited n event subscribers]))
      w (told ++ [.wrote n proof claim, .deposited n event subscribers]) w' := by
  have hcall : ∀ x ∈ told ++ [.wrote n proof claim, .deposited n event subscribers],
      x.call? = some n := by
    intro x hx
    simp only [List.mem_append, List.mem_cons, List.not_mem_nil, or_false] at hx
    -- The clock was told before the claim changed.
    rcases hx with hx | rfl | rfl
    · obtain ⟨reading, rfl⟩ := htold x hx
      rfl
    all_goals rfl
  have hstill : ∀ x ∈ told, x.still = true := by
    intro x hx
    obtain ⟨reading, rfl⟩ := htold x hx
    rfl
  have hclaims :
      claimsAfter claims (told ++ [.wrote n proof claim, .deposited n event subscribers]) =
      claims.set? proof claim := by
    rw [claimsAfter_append, claimsAfter_of_still hstill]
    rfl
  have hevents : announcements (told ++ [.wrote n proof claim, .deposited n event subscribers]) =
      [(n, event)] := by
    rw [announcements_append, announcements_of_still hstill]
    rfl
  refine ⟨htrace, hcalls.ge, fun m hm hm' => absurd hm' (by rw [hcalls]; exact Nat.not_lt.2 hm),
    fun m hm => ?_, fun m hm => ?_, by rwa [hclaims], fun past m proof' found rest heq => ?_, ?_,
    fun owners howners => ?_⟩
  · -- All the entries are of this call, so any other call has none.
    by_cases hmn : m = n
    · rw [hmn, entriesOf_eq_self hcall, inCall, if_pos rfl]
    · rw [entriesOf_eq_nil hmn hcall, inCall_of_ne hmn]
  · exact entriesOf_eq_nil (Nat.ne_of_gt (Nat.lt_of_lt_of_le hn (hcalls ▸ hm))) hcall
  · -- There is no lookup among these entries.
    have hmem : .ended m (.claim proof') (.ok (.found found)) ∈
        told ++ [.wrote n proof claim, .deposited n event subscribers] := by rw [heq]; simp
    simp only [List.mem_append, List.mem_cons, List.not_mem_nil, or_false, reduceCtorEq] at hmem
    obtain ⟨reading, hreading⟩ := htold _ hmem
    cases hreading
  · -- There is one writer, the call that has deposited the event.
    rw [List.filterMap_append, writers_of_still hstill, hevents]
    rfl
  · obtain ⟨owners', hafter, howners'⟩ := hannounces owners howners
    exact ⟨owners', by rw [hevents]; exact (bind_pure _).trans hafter, by rwa [hclaims]⟩

end History

/-! ## Calls on a bus -/

section Calls

variable {h : Host ε η} {S : FaithfulStore τ} {claims : Claims} {w : Forum τ ι ε η} {n : Nat}

/-- If the store keeps claims, what happens between two forums has a history. -/
def Accounted (S : FaithfulStore τ) (w w' : Forum τ ι ε η) : Prop :=
  ∀ claims, S.Keeps w.store claims → ∃ new, History S.Keeps claims (fun _ => []) w new w'

instance : IsPreorder (Forum τ ι ε η) (Accounted S) where
  refl w _ hkeeps := ⟨[], .of_move (List.append_nil _).symm rfl (by simp) hkeeps⟩
  trans w w' w'' h h' claims hkeeps := by
    obtain ⟨new, hfirst⟩ := h claims hkeeps
    obtain ⟨new', hsecond⟩ := h' _ hfirst.keeps
    exact ⟨new ++ new', hfirst.append hsecond fun _ _ => rfl⟩

variable [DecidableEq ι]

private theorem accounted_moves : Participant.Moves (Accounted (ι := ι) (ε := ε) (η := η) S) where
  keep w own claims hkeeps :=
    ⟨[], .of_move (List.append_nil _).symm rfl (by simp) hkeeps⟩
  subscribe w k claims hkeeps :=
    ⟨[], .of_move (List.append_nil _).symm rfl (by simp) hkeeps⟩
  unsubscribe w k claims hkeeps := ⟨[.left k], .of_move rfl rfl (by simp) hkeeps⟩

section Deliveries

variable {serve : ClaimRequest → Run (Forum τ ι ε η) ClaimReply}
  (hserve : ∀ r, Run.Respects (Accounted S) (serve r))
  (react : ι → ClaimEvent → Participant τ ι ε η Unit)
  {onError : Fault → ClaimEvent → Participant τ ι ε η Unit} (event : ClaimEvent)
include hserve

/-- Whatever a subscriber does, it is offered the event first. -/
private theorem notify_history (k : ι) (hkeeps : S.Keeps w.store claims) (hn : n < w.calls) :
    ∃ new, History S.Keeps claims (inCall n [.offered n k event]) w new
      ((Outlet.notify serve react n k event).exec w).2 := by
  have hoffered : History S.Keeps claims (inCall n [.offered n k event]) w [.offered n k event]
      (w.noted (.offered n k event)) :=
    .of_steps rfl rfl hn (by simp [Happening.call?]) (by simp [Happening.still]) (by simp) hkeeps
  obtain ⟨new, hreaction⟩ := Participant.respects_run accounted_moves hserve (react k event)
    (w.noted (.offered n k event)) _ hoffered.keeps
  exact ⟨_, hoffered.append_between hreaction⟩

/-- An event is offered once to each subscriber in turn, whatever they do, and no fault leaves the
bus, since none leaves the error handler. -/
theorem deliver_history (hcalm : ∀ fault, Run.Completes (Outlet.handle serve onError fault event))
    (subscribers : List ι) (hkeeps : S.Keeps w.store claims) (hn : n < w.calls) :
    ∃ w' new, (EventBus.deliver (Outlet.notify serve react n) (Outlet.handle serve onError) event
        subscribers).exec w = (.ok (), w') ∧
      History S.Keeps claims (inCall n (subscribers.map (.offered n · event))) w new w' := by
  induction subscribers generalizing w claims with
  | nil =>
    -- Without subscribers nothing is offered.
    exact ⟨w, [], rfl,
      .of_steps (List.append_nil _).symm rfl hn (by simp) (by simp) (by simp) hkeeps⟩
  | cons k rest ih =>
    obtain ⟨new, hnotified⟩ := notify_history hserve react event k hkeeps hn
    -- A fault of this subscriber goes to the handler, and then the rest have their turn.
    obtain ⟨w₁, new₁, hexec, hhandled⟩ : ∃ w₁ new₁,
        (EventBus.deliver (Outlet.notify serve react n) (Outlet.handle serve onError) event
          (k :: rest)).exec w =
        (EventBus.deliver (Outlet.notify serve react n) (Outlet.handle serve onError) event
          rest).exec w₁ ∧
        History S.Keeps claims (inCall n [.offered n k event]) w new₁ w₁ := by
      rw [EventBus.exec_deliver_cons]
      rcases hnotify : (Outlet.notify serve react n k event).exec w with ⟨fault | ⟨⟩, w₁⟩
      · -- The subscriber failed, and the handler takes the fault.
        rw [hnotify] at hnotified
        obtain ⟨new', hhandle⟩ := Outlet.respects_handle accounted_moves hserve onError fault event
          w₁ _ hnotified.keeps
        obtain ⟨⟨⟩, w₂, hcalm⟩ := hcalm fault w₁
        rw [hcalm] at hhandle
        refine ⟨w₂, _, ?_, hnotified.append_between hhandle⟩
        dsimp only
        rw [Run.exec_bind, hcalm]
      · -- The subscriber is done.
        rw [hnotify] at hnotified
        exact ⟨w₁, new, rfl, hnotified⟩
    obtain ⟨w', new₂, hrest, hlater⟩ := ih hhandled.keeps (Nat.lt_of_lt_of_le hn hhandled.calls)
    refine ⟨w', new₁ ++ new₂, hexec.trans hrest, ?_⟩
    exact hhandled.append_inCall hn hlater

end Deliveries

omit [DecidableEq ι] in
/-- A change of a claim, with the deposit of its event, makes a history. -/
private theorem alters_history {who : Identity} {proof : Fingerprint} {action : CallAction} {t : τ}
    {v v₁ : Forum τ ι ε η} (hn : n < v.calls)
    (hfulfilled : Lifecycle.firstFailure h.proofLimit claims
      (action.request (.signed who) proof) = none)
    (halters : Alters h S n claims proof { v with store := t } (action.ownerAfter who)
      (.ok (), v₁)) :
    ∃ time told, (∀ x ∈ told, ∃ reading, x = .told n reading) ∧
      History S.Keeps claims
        (inCall n (told ++ [.wrote n proof (action.claimAfter who time),
          .deposited n (action.event who proof) v₁.bus.subscribers]))
        v (told ++ [.wrote n proof (action.claimAfter who time),
          .deposited n (action.event who proof) v₁.bus.subscribers])
        (v₁.noted (.deposited n (action.event who proof) v₁.bus.subscribers)) := by
  generalize howner : action.ownerAfter who = owner at halters
  cases halters with
  | removed keeps =>
    -- No time is told for a claim that is given up.
    have hannounces := announces_event hfulfilled 0
    have hclaim : action.claimAfter who 0 = none := by rw [CallAction.claimAfter, howner]; rfl
    refine ⟨0, [], by simp, .of_change ?_ rfl hn (by simp) ?_ hannounces⟩
    · rw [hclaim]
      simp [Forum.noted]
    · rw [hclaim]
      exact keeps
  | @stamped owner time a u reading keeps =>
    -- The clock has told one time, and the claim bears it.
    have hannounces := announces_event hfulfilled time
    have hclaim : action.claimAfter who time = some ⟨owner, time⟩ := by
      rw [CallAction.claimAfter, howner]
      rfl
    refine ⟨time, [.told n (.ok time)], by simp, .of_change ?_ rfl hn (by simp) ?_ hannounces⟩
    · rw [hclaim]
      simp [Forum.noted]
    · rw [hclaim]
      exact keeps

omit [DecidableEq ι] in
/-- A change of a claim that fails has read the clock and done nothing else. -/
private theorem alters_error {proof : Fingerprint} {owner : Option Identity} {fault : Fault}
    {v v₁ : Forum τ ι ε η} (halters : Alters h S n claims proof v owner (.error fault, v₁)) :
    ∃ reading, v₁.trace = v.trace ++ [.told n reading] ∧ v₁.calls = v.calls := by
  cases halters with
  | untold reading => exact ⟨_, rfl, rfl⟩
  | unstorable reading invalid => exact ⟨_, rfl, rfl⟩

omit [DecidableEq ι] in
/-- A call that changes nothing has a history. -/
private theorem silent_history {r : ClaimRequest} {steps : List (Happening ι)}
    {outcome : Except Fault ClaimReply} {v : Forum τ ι ε η}
    (htrace : v.trace = (w.begun r).trace ++ steps) (hcalls : v.calls = (w.begun r).calls)
    (hsteps : ∀ x ∈ steps,
      (∃ reading, x = .told w.calls reading) ∨ ∃ fault, x = .closed w.calls fault)
    (hfailed : outcome ≠ .ok (.ended (.ok ())))
    (hfound : ∀ proof found, r = .claim proof → outcome = .ok (.found found) →
      found = claims.get? proof)
    (hkeeps : S.Keeps v.store claims) :
    ∃ new, History S.Keeps claims (fun _ => []) w new (v.noted (.ended w.calls r outcome)) := by
  have hfate : Fate w.calls (.began w.calls r :: (steps ++ [.ended w.calls r outcome])) :=
    .silent hsteps hfailed
  refine ⟨_, .call (.of_steps ?_ hcalls (Nat.lt_succ_self _) (fun x hx => ?_) (fun x hx => ?_)
    (fun m proof found hmem => ?_) hkeeps) hfate⟩
  · -- A silent call wrote nothing, so all that is left is to look through its steps.
    rw [Forum.noted, htrace, List.append_assoc]
  · rcases List.mem_append.1 hx with hx | hx
    · rcases hsteps x hx with ⟨reading, rfl⟩ | ⟨fault, rfl⟩ <;> rfl
    · rw [List.mem_singleton.1 hx]
      rfl
  · rcases List.mem_append.1 hx with hx | hx
    · rcases hsteps x hx with ⟨reading, rfl⟩ | ⟨fault, rfl⟩ <;> rfl
    · rw [List.mem_singleton.1 hx]
      rfl
  · rcases List.mem_append.1 hmem with hmem | hmem
    · rcases hsteps _ hmem with ⟨reading, hx⟩ | ⟨fault, hx⟩ <;> cases hx
    · cases List.mem_singleton.1 hmem
      exact hfound proof found rfl rfl

/-- The bus takes the event of a change.  No fault leaves it, and the change with the deliveries
makes a history. -/
private theorem announced_history {react : ι → ClaimEvent → Participant τ ι ε η Unit}
    {onError : Fault → ClaimEvent → Participant τ ι ε η Unit}
    {serve : ClaimRequest → Run (Forum τ ι ε η) ClaimReply}
    (hserve : ∀ r, Run.Respects (Accounted S) (serve r))
    (hcalm : ∀ fault event, Run.Completes (Outlet.handle serve onError fault event))
    {who : Identity} {proof : Fingerprint} {action : CallAction} {t : τ} {v v₁ : Forum τ ι ε η}
    (hn : n < v.calls)
    (hfulfilled : Lifecycle.firstFailure h.proofLimit claims
      (action.request (.signed who) proof) = none)
    (halters : Alters h S n claims proof { v with store := t } (action.ownerAfter who)
      (.ok (), v₁)) :
    let event := action.event who proof
    let subscribers := v₁.bus.subscribers
    ∃ v₂ time told new, (∀ x ∈ told, ∃ reading, x = .told n reading) ∧
      ((Outlet.bus react onError).deposit serve n event).exec
        (v₁.noted (.deposited n event subscribers)) = (.ok (), v₂) ∧
      History S.Keeps claims
        (inCall n ((told ++ [.wrote n proof (action.claimAfter who time),
          .deposited n event subscribers]) ++ subscribers.map (.offered n · event))) v new v₂ := by
  intro event subscribers
  obtain ⟨time, told, htold, hchanged⟩ := alters_history hn hfulfilled halters
  obtain ⟨v₂, new, hdeliver, hdelivered⟩ := deliver_history hserve react event (hcalm · event)
    subscribers hchanged.keeps (Nat.lt_of_lt_of_le hn hchanged.calls)
  exact ⟨v₂, time, told, _, htold, hdeliver, hchanged.append_inCall hn hdelivered⟩

/-- A call that takes its course, with its deposit on the bus, has a history. -/
private theorem course_history {react : ι → ClaimEvent → Participant τ ι ε η Unit}
    {onError : Fault → ClaimEvent → Participant τ ι ε η Unit}
    {serve : ClaimRequest → Run (Forum τ ι ε η) ClaimReply}
    (hserve : ∀ r, Run.Respects (Accounted S) (serve r))
    (hcalm : ∀ fault event, Run.Completes (Outlet.handle serve onError fault event))
    {r : ClaimRequest} {outcome : Except Fault ClaimReply} {v : Forum τ ι ε η}
    (hkeeps : S.Keeps w.store claims)
    (hcourse : Course h S w.calls
      (fun event => (Outlet.bus react onError).deposit serve w.calls event) claims (w.begun r) r
      (outcome, v)) :
    ∃ new, History S.Keeps claims (fun _ => []) w new (v.noted (.ended w.calls r outcome)) := by
  have hn : w.calls < (w.begun r).calls := Nat.lt_succ_self _
  cases hcourse with
  -- A lookup only reads.
  | looked proof =>
    exact silent_history (List.append_nil _).symm rfl (by simp) (by simp)
      (fun proof' found hr hfound => by cases hr; cases hfound; rfl) hkeeps
  | refused failure keeps reports answer =>
    -- A refused request leaves the claims as they are.
    refine silent_history rfl rfl (by simp) ?_ ?_ keeps
    · rintro rfl
      simp at answer
    · rintro proof found - rfl
      simp at answer
  | @failed who proof action t u v₁ fault fulfilled opened alters keeps =>
    -- The change of the claim failed before the event was deposited.
    obtain ⟨reading, htrace, hcalls⟩ := alters_error alters
    have hclosed : ({ v₁ with store := u }.noted (.closed w.calls (some fault))).trace =
        (w.begun (action.request (.signed who) proof)).trace ++
          [.told w.calls reading, .closed w.calls (some fault)] := by
      rw [Forum.noted, htrace]
      exact List.append_assoc _ _ _
    exact silent_history hclosed hcalls (by simp) (by simp) (by simp) keeps
  | @undone who proof action t u v₁ v₂ fault fulfilled alters depositing keeps =>
    -- No fault leaves the bus.
    obtain ⟨_, _, _, _, -, hdeposit, -⟩ :=
      announced_history hserve hcalm hn fulfilled alters
    cases hdeposit.symm.trans depositing
  | @made who proof action t u v₁ v₂ a outcome fulfilled alters depositing keeps reports answer =>
    -- The event was deposited, offered to every subscriber, and the claims were committed.
    obtain ⟨_, _, _, _, htold, hdeposit, hbefore⟩ :=
      announced_history hserve hcalm hn fulfilled alters
    cases hdeposit.symm.trans depositing
    have hclosing : History S.Keeps _
        (inCall w.calls [.closed w.calls none, .ended w.calls _ outcome]) v₂
        [.closed w.calls none, .ended w.calls (action.request (.signed who) proof) outcome]
        (({ v₂ with store := u, aside := a }.noted (.closed w.calls none)).noted
          (.ended w.calls (action.request (.signed who) proof) outcome)) :=
      .of_steps (List.append_assoc _ _ _) rfl (Nat.lt_of_lt_of_le hn hbefore.calls)
        (by simp [Happening.call?]) (by simp [Happening.still])
        (by rcases answer with rfl | ⟨_, rfl⟩ <;> simp)
        (keeps _ hbefore.keeps)
    exact ⟨_, (hbefore.append_inCall hn hclosing).call
      (.delivered htold v₁.bus.nodup answer)⟩

variable (h S)

/-- On a bus, calls of every depth have a history. -/
theorem call_history {react : ι → ClaimEvent → Participant τ ι ε η Unit}
    {onError : Fault → ClaimEvent → Participant τ ι ε η Unit}
    (hcalm : h.CalmBus (S.store Forum.storeCell) react onError) (depth : Nat) (r : ClaimRequest) :
    Run.Respects (Accounted S)
      (h.serve (S.store Forum.storeCell) (.bus react onError) depth r) := by
  -- The calls that subscribers make have less room than the call whose event they handle.
  induction depth generalizing r with
  | zero => exact Run.respects_throw _ _
  | succ depth ih =>
    intro w claims hkeeps
    obtain ⟨outcome, v, hexec, hcourse⟩ := h.serve_course S (.bus react onError) depth r hkeeps
    rw [hexec]
    exact course_history ih (hcalm depth) hkeeps hcourse

/-- On a bus, every run has a history. -/
theorem run_history {react : ι → ClaimEvent → Participant τ ι ε η Unit}
    {onError : Fault → ClaimEvent → Participant τ ι ε η Unit}
    (hcalm : h.CalmBus (S.store Forum.storeCell) react onError) (depth : Nat)
    (user : Participant τ ι ε η α) :
    Run.Respects (Accounted S)
      (user.run (h.serve (S.store Forum.storeCell) (.bus react onError) depth)) :=
  Participant.respects_run accounted_moves (call_history h S hcalm depth) user

end Calls

/-- Every run of calls on a bus whose error handler raises no fault, on both stores, has a history:
each call whose change is committed has offered its event once to every subscriber that there was,
every other call has offered nothing to anyone, and no change is taken back.  Subscribers may fail,
call the service to any depth, subscribe and unsubscribe, and the clock and the reporters may
fail. -/
theorem committed_calls_delivered [DecidableEq ι] (h : Host ε η) (depth : Nat) :
    (∀ (react : ι → ClaimEvent → Participant UndoStore ι ε η Unit)
      (onError : Fault → ClaimEvent → Participant UndoStore ι ε η Unit)
      (user : Participant UndoStore ι ε η α) (w : Forum UndoStore ι ε η) (claims : Claims),
      h.CalmBus (UndoStore.store Forum.storeCell) react onError →
      w.store.Represents claims →
      ∃ new, History UndoStore.Represents claims (fun _ => []) w new
        ((user.run (h.serve (UndoStore.store Forum.storeCell) (.bus react onError) depth)).exec
          w).2) ∧
    ∀ (react : ι → ClaimEvent → Participant SavepointStore ι ε η Unit)
      (onError : Fault → ClaimEvent → Participant SavepointStore ι ε η Unit)
      (user : Participant SavepointStore ι ε η α) (w : Forum SavepointStore ι ε η)
      (claims : Claims),
      h.CalmBus (SavepointStore.store Forum.storeCell) react onError →
      w.store.Keeps claims →
      ∃ new, History SavepointStore.Keeps claims (fun _ => []) w new
        ((user.run (h.serve (SavepointStore.store Forum.storeCell) (.bus react onError)
          depth)).exec w).2 := by
  rw [SavepointStore.store_eq]
  exact ⟨fun _ _ user w claims hcalm =>
      run_history h UndoStore.faithful hcalm depth user w claims,
    fun _ _ user w claims hcalm =>
      run_history h SavepointStore.faithful hcalm depth user w claims⟩

/-- A clock that stands still and reporters that report nothing. -/
def Host.idle : Host Unit Unit where
  tick _ _ := (.ok 0, ())
  proofLimit := 10
  count _ _ _ := (.ok (), ())
  log _ _ _ _ := (.ok (), ())

/-- The eager subscriber hands on every new claim and then fails; the others do nothing. -/
def eagerReaction : String → ClaimEvent → Participant UndoStore String Unit Unit Unit
  | "eager", ⟨.created, who, proof, _⟩ =>
    .call (.transfer (.signed who) proof "bob") fun _ => .done (.error (.raised "too eager"))
  | _, _ => .done (.ok ())

/-- What becomes of one claim that is created on a bus with some subscribers. -/
def eagerRun (subscribers : EventBus String) :
    Except Fault Unit × Forum UndoStore String Unit Unit :=
  ((Participant.call (.create (.signed "alice") [7]) fun _ => .done (.ok ())).run
    (Host.idle.serve (UndoStore.store Forum.storeCell)
      (.bus eagerReaction fun _ _ => .done (.ok ())) 2)).exec
    (.fresh (.ofClaims .empty) subscribers () ())

/-- The eager subscriber comes first. -/
def eagerFirst : EventBus String := ⟨["eager", "calm"], by decide⟩

/-- The subscriber after one who calls back and fails is still offered both events. -/
theorem committed_calls_delivered_eager :
    let v := (eagerRun eagerFirst).2
    Fate 0 (entriesOf 0 v.trace) ∧ Fate 1 (entriesOf 1 v.trace) ∧
      heard "calm" v.trace = [(1, .transferred "alice" [7] "bob"), (0, .created "alice" [7])] ∧
      v.store.Represents (claimsAfter .empty v.trace) := by
  have hhistory : ∃ new, History UndoStore.Represents .empty (fun _ => [])
      (.fresh (.ofClaims .empty) eagerFirst () ()) new (eagerRun eagerFirst).2 :=
    (committed_calls_delivered Host.idle 2).1 _ _ _ _ .empty (fun _ _ _ w => ⟨(), w, rfl⟩)
      (UndoStore.represents_ofClaims .empty)
  have hcalls : (eagerRun eagerFirst).2.calls = 2 := by decide +kernel
  have hheard : heard "calm" (eagerRun eagerFirst).2.trace =
      [(1, .transferred "alice" [7] "bob"), (0, .created "alice" [7])] := by decide +kernel
  intro v
  obtain ⟨new, hhistory⟩ := hhistory
  have htrace : v.trace = new := hhistory.trace.trans (List.nil_append new)
  subst htrace
  exact ⟨hhistory.fate 0 (Nat.le_refl 0) (hcalls.symm ▸ by decide),
    hhistory.fate 1 (Nat.zero_le 1) (hcalls.symm ▸ by decide), hheard, hhistory.keeps⟩

end ProofOfExistence
