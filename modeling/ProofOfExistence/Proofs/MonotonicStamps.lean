import ProofOfExistence.Proofs.GuardedClock

/-!
# Stamps never go back

The clock of a service guards a source that may give any numbers.  The sink of the service may fail,
call the service, and do anything else to what it keeps.

The claims that calls set bear valid times that never go back, in the order in which the calls
began.  A reading that is not valid, or below an earlier accepted one, makes its call fail, and
leaves the claims, the sink and the guard as they were.

## Key results

- `Chronicle`, `run_chronicled`: what a forum tells of its readings and stamps, and that every run
  keeps it that way
- `stamps_never_go_back`: the stamps and the readings of any run, on both stores
-/

namespace ProofOfExistence

variable {τ ι ε θ α : Type}

/-! ## Chronicles -/

namespace Happening

/-- The reading that is accepted. -/
def accepted? : Happening ι → Option Number
  | told _ (.ok t) => some t
  | _ => none

/-- The stamp that a claim is given, and the call that sets it. -/
def stamp? : Happening ι → Option (Nat × Number)
  | wrote n _ (some r) => some (n, r.registeredAt)
  | _ => none

/-- Nothing is read from the clock or stamped, and no call ends. -/
def timeless : Happening ι → Bool
  | told .. | wrote _ _ (some _) | ended .. => false
  | _ => true

end Happening

/-- The accepted readings, in order. -/
def accepted (trace : List (Happening ι)) : List Number := trace.filterMap Happening.accepted?

/-- The stamps that claims are given, each with the call that sets the claim, in order. -/
def stamps (trace : List (Happening ι)) : List (Nat × Number) := trace.filterMap Happening.stamp?

/-- What a forum with a guarded clock tells of its readings and stamps. -/
structure Chronicle (w : Forum τ ι ε (Guarded θ)) : Prop where
  /-- The guard knows the last accepted reading. -/
  last : w.aside.last = (accepted w.trace).getLast?
  /-- Accepted readings are valid and never go back. -/
  rising : Rising (accepted w.trace)
  /-- The guard accepts or refuses each reading by the earlier ones. -/
  judged : ∀ past n reading rest, w.trace = past ++ .told n reading :: rest →
    Judged (accepted past) reading
  /-- Stamps are accepted readings, in their order. -/
  stamped : ((stamps w.trace).map Prod.snd).Sublist (accepted w.trace)
  /-- Stamps come in the order of the calls. -/
  ordered : (stamps w.trace).Pairwise fun a b => a.1 < b.1
  numbers : ∀ s ∈ stamps w.trace, s.1 < w.calls
  /-- A call that succeeds has stamped the claim for its new owner, if there is one. -/
  success : ∀ n who proof action owner,
    .ended n (CallAction.request (.signed who) proof action) (.ok (.ended (.ok ()))) ∈ w.trace →
    action.ownerAfter who = some owner →
    ∃ time, .wrote n proof (some ⟨owner, time⟩) ∈ w.trace

section Chronicle

variable {w w' : Forum τ ι ε (Guarded θ)} {n : Nat}

/-- Only the trace, the guard and the number of calls matter. -/
theorem Chronicle.of_same (h : Chronicle w) (htrace : w'.trace = w.trace)
    (hlast : w'.aside.last = w.aside.last) (hcalls : w.calls ≤ w'.calls) : Chronicle w' where
  last := by rw [hlast, htrace, h.last]
  rising := htrace ▸ h.rising
  judged := htrace ▸ h.judged
  stamped := htrace ▸ h.stamped
  ordered := htrace ▸ h.ordered
  numbers s hs := Nat.lt_of_lt_of_le (h.numbers s (htrace ▸ hs)) hcalls
  success := htrace ▸ h.success

/-- One more entry is judged by the readings before it. -/
private theorem judged_push {trace : List (Happening ι)} {x : Happening ι}
    (h : ∀ past n reading rest, trace = past ++ .told n reading :: rest →
      Judged (accepted past) reading)
    (hx : ∀ n reading, x = .told n reading → Judged (accepted trace) reading) :
    ∀ past n reading rest, trace ++ [x] = past ++ .told n reading :: rest →
      Judged (accepted past) reading := by
  intro past n reading rest heq
  rcases Run.concat_eq_split heq with ⟨rfl, rfl⟩ | ⟨later, -, hearlier⟩
  · exact hx n reading rfl
  · exact h past n reading later hearlier

/-- An entry that accepts no reading and makes no stamp keeps the chronicle. -/
private theorem Chronicle.push (h : Chronicle w) {x : Happening ι}
    (htrace : w'.trace = w.trace ++ [x]) (hlast : w'.aside.last = w.aside.last)
    (hcalls : w.calls ≤ w'.calls) (haccepted : x.accepted? = none) (hstamp : x.stamp? = none)
    (hjudged : ∀ n reading, x = .told n reading → Judged (accepted w.trace) reading)
    (hsuccess : ∀ n who proof action owner,
      x = .ended n (CallAction.request (.signed who) proof action) (.ok (.ended (.ok ()))) →
      action.ownerAfter who = some owner → ∃ time, .wrote n proof (some ⟨owner, time⟩) ∈ w.trace) :
    Chronicle w' := by
  -- The entry is neither an accepted reading nor a stamp, so both are as before.
  have haccepted' : accepted w'.trace = accepted w.trace := by
    rw [htrace, accepted, List.filterMap_append, List.filterMap_cons_none haccepted]
    exact List.append_nil _
  have hstamps : stamps w'.trace = stamps w.trace := by
    rw [htrace, stamps, List.filterMap_append, List.filterMap_cons_none hstamp]
    exact List.append_nil _
  refine ⟨by rw [hlast, haccepted', h.last], haccepted' ▸ h.rising, ?_, ?_, hstamps ▸ h.ordered,
    fun s hs => Nat.lt_of_lt_of_le (h.numbers s (hstamps ▸ hs)) hcalls, ?_⟩
  · -- What the entry itself tells was judged against the readings before it.
    rw [htrace]
    exact judged_push h.judged hjudged
  · rw [hstamps, haccepted']
    exact h.stamped
  · -- A call that has succeeded wrote its claim before it ended.
    intro n who proof action owner hmem howner
    rw [htrace] at hmem ⊢
    obtain ⟨time, hwrote⟩ : ∃ time, .wrote n proof (some ⟨owner, time⟩) ∈ w.trace := by
      rcases List.mem_append.1 hmem with hmem | hmem
      · exact h.success n who proof action owner hmem howner
      · exact hsuccess n who proof action owner (List.mem_singleton.1 hmem).symm howner
    exact ⟨time, List.mem_append_left _ hwrote⟩

/-- An entry that has nothing to do with time keeps the chronicle. -/
theorem Chronicle.timeless (h : Chronicle w) {x : Happening ι} (hx : x.timeless = true)
    (htrace : w'.trace = w.trace ++ [x]) (hlast : w'.aside.last = w.aside.last)
    (hcalls : w.calls ≤ w'.calls) : Chronicle w' := by
  refine h.push htrace hlast hcalls ?_ ?_ ?_ ?_
  · cases x <;> first | rfl | cases hx
  · cases x with
    | wrote n proof claim => cases claim <;> first | rfl | cases hx
    | _ => rfl
  · rintro n reading rfl
    cases hx
  · rintro n who proof action owner rfl
    cases hx

/-- At its beginning a call has no stamp, and those before it have theirs; what is in the store does
not matter. -/
theorem Chronicle.begun (h : Chronicle w) (r : ClaimRequest) (s : τ) :
    Chronicle { w.begun r with store := s } ∧ ∀ s ∈ stamps (w.begun r).trace, s.1 < w.calls := by
  have hstamps : stamps (w.begun r).trace = stamps w.trace := by
    simp [Forum.begun, stamps, Happening.stamp?]
  exact ⟨h.timeless (x := .began w.calls r) rfl rfl rfl (Nat.le_succ _), hstamps ▸ h.numbers⟩

/-- A reading that is refused leaves the guard as it was. -/
theorem Chronicle.refuse (h : Chronicle w) {e : Fault}
    (hjudged : Judged (accepted w.trace) (.error e))
    (htrace : w'.trace = w.trace ++ [.told n (.error e)]) (hlast : w'.aside.last = w.aside.last)
    (hcalls : w.calls ≤ w'.calls) : Chronicle w' :=
  h.push htrace hlast hcalls rfl rfl
    (fun _ _ hreading => by cases hreading; exact hjudged) fun _ _ _ _ _ hended => by cases hended

/-- The end of a call keeps the chronicle if a success has its stamp. -/
theorem Chronicle.ended (h : Chronicle w) {r : ClaimRequest} {outcome : Except Fault ClaimReply}
    (hsuccess : ∀ who proof action owner, r = CallAction.request (.signed who) proof action →
      outcome = .ok (.ended (.ok ())) → action.ownerAfter who = some owner →
      ∃ time, .wrote n proof (some ⟨owner, time⟩) ∈ w.trace) :
    Chronicle (w.noted (.ended n r outcome)) := by
  refine h.push rfl rfl (Nat.le_refl _) rfl rfl (fun _ _ hreading => by cases hreading) ?_
  intro n' who proof action owner hended howner
  cases hended
  exact hsuccess who proof action owner rfl rfl howner

/-- A reading that is accepted becomes the stamp of a claim. -/
theorem Chronicle.stamp (h : Chronicle w) {t : Number} {proof : Fingerprint} {owner : Identity}
    (htrace : w'.trace = w.trace ++ [.told n (.ok t)] ++ [.wrote n proof (some ⟨owner, t⟩)])
    (hlast : w'.aside.last = some t) (hcalls : w'.calls = w.calls) (hn : n < w.calls)
    (hbefore : ∀ s ∈ stamps w.trace, s.1 < n) (hjudged : Judged (accepted w.trace) (.ok t)) :
    Chronicle w' := by
  -- The reading is accepted and becomes a stamp at once.
  have haccepted : accepted w'.trace = accepted w.trace ++ [t] := by
    rw [htrace, accepted, List.filterMap_append, List.filterMap_append]
    exact List.append_nil _
  have hstamps : stamps w'.trace = stamps w.trace ++ [(n, t)] := by
    rw [htrace, stamps, List.filterMap_append, List.filterMap_append]
    exact congrArg (· ++ [(n, t)]) (List.append_nil _)
  refine ⟨by rw [hlast, haccepted]; simp, haccepted ▸ h.rising.append hjudged, ?_, ?_, ?_,
    fun s hs => ?_, ?_⟩
  · -- Of the two entries only the first tells a reading.
    rw [htrace]
    refine judged_push (judged_push h.judged ?_) fun _ _ hreading => by cases hreading
    exact fun _ _ hreading => by cases hreading; exact hjudged
  · -- Stamps are among the accepted readings, in their order.
    rw [hstamps, haccepted, List.map_append]
    exact h.stamped.append (List.Sublist.refl _)
  · -- The call is later than those whose stamps were written before.
    rw [hstamps]
    exact List.pairwise_append.2 ⟨h.ordered, List.pairwise_singleton _ _, fun a ha b hb => by
      rw [List.mem_singleton.1 hb]; exact hbefore a ha⟩
  · rw [hstamps] at hs
    rcases List.mem_append.1 hs with hs | hs
    · exact hcalls ▸ h.numbers s hs
    · rw [List.mem_singleton.1 hs, hcalls]
      exact hn
  · -- No call ends here.
    intro n who proof action owner hmem howner
    rw [htrace] at hmem ⊢
    obtain ⟨time, hwrote⟩ := h.success n who proof action owner (by simpa using hmem) howner
    exact ⟨time, List.mem_append_left _ (List.mem_append_left _ hwrote)⟩

end Chronicle

/-! ## Calls -/

section Calls

variable {m : GuardedHost ε θ} {S : FaithfulStore τ} {claims : Claims} {n : Nat}
  {proof : Fingerprint} {v v₁ w : Forum τ ι ε (Guarded θ)}

/-- A change for a new owner is stamped with an accepted reading, or fails because its reading is
refused, and then the guard remembers nothing of it. -/
private theorem guarded_of_alters (h : Chronicle v) {owner : Identity} {outcome : Except Fault Unit}
    (halters : Alters m.toHost S n claims proof v (some owner) (outcome, v₁)) :
    let t := (m.source v.own v.aside.rest).1
    (outcome = .ok () ∧ Judged (accepted v.trace) (.ok t) ∧
      v₁.trace = v.trace ++ [.told n (.ok t)] ++ [.wrote n proof (some ⟨owner, t⟩)] ∧
      v₁.aside.last = some t ∧ v₁.calls = v.calls) ∨
    ∃ e rest, outcome = .error e ∧ Judged (accepted v.trace) (.error e) ∧
      (e = .invalidTimestamp t ∨ ∃ last ∈ accepted v.trace, e = .readingWentBack t last) ∧
      v₁ = { v with aside := Guarded.mk v.aside.last rest }.noted (.told n (.error e)) := by
  intro t
  -- The guard knows the last one of the accepted readings.
  have hguard := accept_rising h.rising t
  have htick := m.tick_eq v.own v.aside
  rw [h.last] at htick
  obtain ⟨haccept, hjudged⟩ | ⟨e, haccept, hjudged, hshape⟩ := hguard
  · rw [haccept] at htick
    -- The guard accepts the reading, so the claim is stamped with it.
    cases halters with
    | stamped reading keeps =>
      cases htick.symm.trans reading
      exact .inl ⟨rfl, hjudged, rfl, rfl, rfl⟩
    | untold reading => cases htick.symm.trans reading
    | unstorable reading invalid =>
      -- The guard accepts valid times only.
      cases htick.symm.trans reading
      exact absurd hjudged.1 invalid
  · rw [haccept] at htick
    -- The guard refuses the reading, so no claim is written.
    cases halters with
    | stamped reading keeps => cases htick.symm.trans reading
    | untold reading =>
      cases htick.symm.trans reading
      exact .inr ⟨e, _, rfl, hjudged, hshape, by rw [h.last]⟩
    | unstorable reading invalid => cases htick.symm.trans reading

/-- A change of a claim keeps the chronicle, whatever the reading. -/
private theorem chronicle_of_alters (h : Chronicle v) (hn : n < v.calls)
    (hbefore : ∀ s ∈ stamps v.trace, s.1 < n) {owner : Option Identity}
    {outcome : Except Fault Unit}
    (halters : Alters m.toHost S n claims proof v owner (outcome, v₁)) :
    Chronicle v₁ ∧ v.trace <+: v₁.trace := by
  cases owner with
  | none =>
    cases halters with
    | removed keeps =>
      exact ⟨h.timeless (x := .wrote n proof none) rfl rfl rfl (Nat.le_refl _),
        List.prefix_append _ _⟩
  | some owner =>
    obtain ⟨-, hjudged, htrace, hlast, hcalls⟩ | ⟨e, rest, -, hjudged, -, rfl⟩ :=
      guarded_of_alters h halters
    · refine ⟨h.stamp htrace hlast hcalls hn hbefore hjudged, ?_⟩
      rw [htrace, List.append_assoc]
      exact List.prefix_append _ _
    · exact ⟨h.refuse hjudged rfl rfl (Nat.le_refl _), List.prefix_append _ _⟩

/-- A change that succeeds leaves claims in the store, and its stamp if there is a new owner. -/
private theorem keeps_of_alters {owner : Option Identity}
    (halters : Alters m.toHost S n claims proof v owner (.ok (), v₁)) :
    (∃ claims', S.Keeps v₁.store claims') ∧
      ∀ who, owner = some who → ∃ time, .wrote n proof (some ⟨who, time⟩) ∈ v₁.trace := by
  cases halters with
  | removed keeps => exact ⟨⟨_, keeps⟩, fun _ howner => by cases howner⟩
  | @stamped owner time a u reading keeps =>
    refine ⟨⟨_, keeps⟩, fun who howner => ⟨time, ?_⟩⟩
    cases howner
    exact List.mem_append_right _ (List.mem_singleton_self _)

/-- A forum with a guarded clock stays one, and its store goes on to keep claims. -/
def Chronicled (S : FaithfulStore τ) (w w' : Forum τ ι ε (Guarded θ)) : Prop :=
  ∀ claims, S.Keeps w.store claims → Chronicle w →
    Chronicle w' ∧ w.trace <+: w'.trace ∧ ∃ claims', S.Keeps w'.store claims'

instance : IsPreorder (Forum τ ι ε (Guarded θ)) (Chronicled S) where
  refl _ := fun claims hkeeps h => ⟨h, List.prefix_refl _, claims, hkeeps⟩
  trans _ _ _ hfirst hsecond := fun claims hkeeps h =>
    have ⟨h', hgrows, claims', hkeeps'⟩ := hfirst claims hkeeps h
    have ⟨h'', hgrows', hkeeps''⟩ := hsecond claims' hkeeps' h'
    ⟨h'', hgrows.trans hgrows', hkeeps''⟩

/-- What happens besides calls has nothing to do with time. -/
private theorem chronicled_of_timeless {x : Happening ι} (hx : x.timeless = true)
    {w' : Forum τ ι ε (Guarded θ)} (htrace : w'.trace = w.trace ++ [x])
    (hlast : w'.aside.last = w.aside.last) (hcalls : w.calls ≤ w'.calls)
    (hstore : w'.store = w.store) : Chronicled S w w' :=
  fun claims hkeeps h =>
    ⟨h.timeless hx htrace hlast hcalls, ⟨_, htrace.symm⟩, claims, hstore ▸ hkeeps⟩

private theorem chronicled_of_same {w' : Forum τ ι ε (Guarded θ)} (htrace : w'.trace = w.trace)
    (haside : w'.aside = w.aside) (hcalls : w'.calls = w.calls) (hstore : w'.store = w.store) :
    Chronicled S w w' :=
  fun claims hkeeps h =>
    ⟨h.of_same htrace (by rw [haside]) hcalls.ge, htrace ▸ List.prefix_refl _, claims,
      hstore ▸ hkeeps⟩

private theorem chronicled_moves [DecidableEq ι] :
    Participant.Moves (Chronicled (ι := ι) (ε := ε) (θ := θ) S) where
  keep _ _ := chronicled_of_same rfl rfl rfl rfl
  subscribe _ _ := chronicled_of_same rfl rfl rfl rfl
  unsubscribe _ k := chronicled_of_timeless (x := .left k) rfl rfl rfl (Nat.le_refl _) rfl

/-- A change and the deposit of its event keep the chronicle. -/
private theorem chronicle_of_change {deposit : ClaimEvent → Run (Forum τ ι ε (Guarded θ)) Unit}
    (hdeposit : ∀ event, Run.Respects (Chronicled S) (deposit event)) (h : Chronicle v)
    (hn : n < v.calls) (hbefore : ∀ s ∈ stamps v.trace, s.1 < n) {owner : Option Identity}
    {event : ClaimEvent} {outcome : Except Fault Unit} {v₂ : Forum τ ι ε (Guarded θ)}
    (halters : Alters m.toHost S n claims proof v owner (.ok (), v₁))
    (hdepositing : (deposit event).exec (v₁.noted (.deposited n event v₁.bus.subscribers)) =
      (outcome, v₂)) :
    Chronicle v₂ ∧ v.trace <+: v₁.trace ∧ v₁.trace <+: v₂.trace ∧
      (∃ claims', S.Keeps v₂.store claims') ∧
      ∀ who, owner = some who → ∃ time, .wrote n proof (some ⟨who, time⟩) ∈ v₂.trace := by
  obtain ⟨hv₁, hgrows₁⟩ := chronicle_of_alters h hn hbefore halters
  obtain ⟨⟨claims', hkeeps⟩, hstamp⟩ := keeps_of_alters halters
  have hnoted : Chronicle (v₁.noted (.deposited n event v₁.bus.subscribers)) :=
    hv₁.timeless (x := .deposited n event v₁.bus.subscribers) rfl rfl rfl (Nat.le_refl _)
  have hdeposited := hdeposit event (v₁.noted (.deposited n event v₁.bus.subscribers)) claims'
    hkeeps hnoted
  rw [hdepositing] at hdeposited
  obtain ⟨hv₂, hgrows₂, hkeeps₂⟩ := hdeposited
  have hgrows : v₁.trace <+: v₂.trace := (List.prefix_append _ _).trans hgrows₂
  refine ⟨hv₂, hgrows₁, hgrows, hkeeps₂, fun who howner => ?_⟩
  obtain ⟨time, hwrote⟩ := hstamp who howner
  exact ⟨time, hgrows.subset hwrote⟩

/-- The end of a transaction and of its call keep the chronicle if a success has its stamp. -/
private theorem Chronicle.closed (h : Chronicle v) {r : ClaimRequest} {u : τ} {a : Guarded θ}
    {fault : Option Fault} {outcome : Except Fault ClaimReply} (hlast : a.last = v.aside.last)
    (hsuccess : ∀ who proof action owner, r = CallAction.request (.signed who) proof action →
      outcome = .ok (.ended (.ok ())) → action.ownerAfter who = some owner →
      ∃ time, .wrote n proof (some ⟨owner, time⟩) ∈ v.trace) :
    Chronicle (({ v with store := u, aside := a }.noted (.closed n fault)).noted
      (.ended n r outcome)) := by
  have hclosed : Chronicle ({ v with store := u, aside := a }.noted (.closed n fault)) :=
    h.timeless (x := .closed n fault) rfl rfl hlast (Nat.le_refl _)
  refine hclosed.ended fun who proof action owner hr houtcome howner => ?_
  obtain ⟨time, hwrote⟩ := hsuccess who proof action owner hr houtcome howner
  exact ⟨time, List.mem_append_left _ hwrote⟩

/-- A call that takes its course keeps the chronicle, whatever becomes of its deposit. -/
private theorem course_chronicled {deposit : ClaimEvent → Run (Forum τ ι ε (Guarded θ)) Unit}
    (hdeposit : ∀ event, Run.Respects (Chronicled S) (deposit event)) {r : ClaimRequest}
    {outcome : Except Fault ClaimReply} (h : Chronicle w) (hkeeps : S.Keeps w.store claims)
    (hcourse : Course m.toHost S w.calls deposit claims (w.begun r) r (outcome, v)) :
    Chronicle (v.noted (.ended w.calls r outcome)) ∧ w.trace <+: v.trace ∧
      ∃ claims', S.Keeps v.store claims' := by
  have hn : w.calls < (w.begun r).calls := Nat.lt_succ_self _
  obtain ⟨hbegun, hbefore⟩ := h.begun r w.store
  have hopened (t : τ) : Chronicle { w.begun r with store := t } := (h.begun r t).1
  have hgrows : w.trace <+: (w.begun r).trace := List.prefix_append _ _
  cases hcourse with
  -- A lookup stamps nothing.
  | looked proof =>
    refine ⟨hbegun.ended ?_, hgrows, claims, hkeeps⟩
    intro who proof' action owner hr
    cases action <;> cases hr
  -- A refused request stamps nothing.
  | refused failure keeps reports answer =>
    refine ⟨hbegun.closed (m.last_of_leaves reports) ?_, hgrows.trans (List.prefix_append _ _),
      claims, keeps⟩
    rintro _ _ _ _ - rfl
    simp at answer
  -- The guard or the store refused the stamp.
  | @failed who proof action t u v₁ fault fulfilled opened alters keeps =>
    obtain ⟨hv₁, hgrows₁⟩ := chronicle_of_alters (hopened t) hn hbefore alters
    exact ⟨hv₁.closed rfl (by simp), (hgrows.trans hgrows₁).trans (List.prefix_append _ _),
      claims, keeps⟩
  -- The deposit failed, but the stamp was told before.
  | @undone who proof action t u v₁ v₂ fault fulfilled alters depositing keeps =>
    obtain ⟨hv₂, hgrows₁, hgrows₂, -, -⟩ :=
      chronicle_of_change hdeposit (hopened t) hn hbefore alters depositing
    exact ⟨hv₂.closed rfl (by simp),
      (hgrows.trans (hgrows₁.trans hgrows₂)).trans (List.prefix_append _ _), claims, keeps⟩
  -- The claim was stamped, and the call succeeded.
  | @made who proof action t u v₁ v₂ a outcome fulfilled alters depositing keeps reports answer =>
    obtain ⟨hv₂, hgrows₁, hgrows₂, ⟨claims', hkeeps₂⟩, hstamp⟩ :=
      chronicle_of_change hdeposit (hopened t) hn hbefore alters depositing
    refine ⟨hv₂.closed (m.last_of_leaves reports) ?_,
      (hgrows.trans (hgrows₁.trans hgrows₂)).trans (List.prefix_append _ _), claims',
      keeps claims' hkeeps₂⟩
    intro who' proof' action' owner hr _ howner
    obtain ⟨hwho, rfl, rfl⟩ := CallAction.request_inj hr
    cases hwho
    exact hstamp owner howner

variable [DecidableEq ι]

/-- A deposit keeps the chronicle if the calls do that come of it. -/
private theorem deposit_chronicled
    {serve : ClaimRequest → Run (Forum τ ι ε (Guarded θ)) ClaimReply}
    (hserve : ∀ r, Run.Respects (Chronicled S) (serve r)) (outlet : Outlet τ ι ε (Guarded θ))
    (n : Nat) (event : ClaimEvent) :
    Run.Respects (Chronicled S) (outlet.deposit serve n event) :=
  outlet.respects_deposit chronicled_moves hserve
    (fun _ n k event =>
      chronicled_of_timeless (x := .offered n k event) rfl rfl rfl (Nat.le_refl _) rfl)
    n event

variable (m S)

/-- Calls of every depth keep the chronicle. -/
theorem serve_chronicled (outlet : Outlet τ ι ε (Guarded θ)) (depth : Nat) (r : ClaimRequest) :
    Run.Respects (Chronicled S) (m.toHost.serve (S.store Forum.storeCell) outlet depth r) := by
  induction depth generalizing r with
  | zero => exact Run.respects_throw _ _
  | succ depth ih =>
    intro w claims hkeeps h
    obtain ⟨outcome, v, hexec, hcourse⟩ := m.toHost.serve_course S outlet depth r hkeeps
    rw [hexec]
    obtain ⟨hended, hgrows, hkeeps'⟩ :=
      course_chronicled (deposit_chronicled ih outlet w.calls) h hkeeps hcourse
    exact ⟨hended, hgrows.trans (List.prefix_append _ _), hkeeps'⟩

/-- Runs keep the chronicle. -/
theorem run_chronicled (outlet : Outlet τ ι ε (Guarded θ)) (depth : Nat)
    (user : Participant τ ι ε (Guarded θ) α) :
    Run.Respects (Chronicled S)
      (user.run (m.toHost.serve (S.store Forum.storeCell) outlet depth)) :=
  Participant.respects_run chronicled_moves (serve_chronicled m S outlet depth) user

end Calls

/-! ## Stamps and readings of a run -/

/-- The stamps of a run are valid times that never go back, at most one for each call and in the
order of the calls, and each call that succeeds in making a claim or in handing one on has one. -/
structure StampsRise (trace : List (Happening ι)) : Prop where
  times : ∃ times : List Nat, (stamps trace).map Prod.snd = times.map Number.ofNat ∧
    times.Pairwise (· ≤ ·) ∧ ∀ t ∈ times, t ≤ maxSafeInteger
  order : (stamps trace).Pairwise fun a b => a.1 < b.1
  success : ∀ n who proof action owner,
    .ended n (CallAction.request (.signed who) proof action) (.ok (.ended (.ok ()))) ∈ trace →
    action.ownerAfter who = some owner → ∃ time, .wrote n proof (some ⟨owner, time⟩) ∈ trace

/-- A call fails because of its reading, which leaves the claims, the bus, what the participants
keep and the guard as they were.  The call does nothing but read the clock. -/
structure Refused (Keeps : τ → Claims → Prop) (claims : Claims)
    (w : Forum τ ι ε (Guarded θ)) (r : ClaimRequest) (fault : Fault)
    (result : Except Fault ClaimReply × Forum τ ι ε (Guarded θ)) : Prop where
  answer : result.1 = .error fault
  trace : result.2.trace = w.trace ++ [.began w.calls r, .told w.calls (.error fault),
    .closed w.calls (some fault), .ended w.calls r (.error fault)]
  keeps : Keeps result.2.store claims
  bus : result.2.bus = w.bus
  own : result.2.own = w.own
  last : result.2.aside.last = w.aside.last

/-- What the next reading of the source makes of a call whose preconditions hold and which is to set
a claim: the reading is not valid, or it is below an earlier accepted one, or it becomes the
stamp. -/
structure ReadingDecides (Keeps : τ → Claims → Prop) (claims : Claims)
    (serve : ClaimRequest → Run (Forum τ ι ε (Guarded θ)) ClaimReply)
    (w : Forum τ ι ε (Guarded θ)) (who : Identity) (proof : Fingerprint) (action : CallAction)
    (owner : Identity) (t : Number) : Prop where
  invalid : checkTimestamp t ≠ .ok () →
    Refused Keeps claims w (action.request (.signed who) proof) (.invalidTimestamp t)
      ((serve (action.request (.signed who) proof)).exec w)
  wentBack : checkTimestamp t = .ok () → (∃ a ∈ accepted w.trace, t.lt a = true) →
    ∃ last ∈ accepted w.trace,
      Refused Keeps claims w (action.request (.signed who) proof) (.readingWentBack t last)
        ((serve (action.request (.signed who) proof)).exec w)
  good : checkTimestamp t = .ok () → (∀ a ∈ accepted w.trace, t.lt a = false) →
    w.trace ++ [.began w.calls (action.request (.signed who) proof), .told w.calls (.ok t),
      .wrote w.calls proof (some ⟨owner, t⟩)] <+:
      ((serve (action.request (.signed who) proof)).exec w).2.trace

/-- A chronicle has rising stamps. -/
theorem Chronicle.stampsRise {w : Forum τ ι ε (Guarded θ)} (h : Chronicle w) :
    StampsRise w.trace where
  times := (h.rising.sublist h.stamped).exists_times
  order := h.ordered
  success := h.success

section Readings

variable {m : GuardedHost ε θ} {S : FaithfulStore τ} {claims : Claims}
  {w : Forum τ ι ε (Guarded θ)}

/-- A call that reads the clock is stamped, or refused with the fault of the guard. -/
private theorem stamped_or_refused {deposit : ClaimEvent → Run (Forum τ ι ε (Guarded θ)) Unit}
    (hdeposit : ∀ event, Run.Respects (Chronicled S) (deposit event)) (h : Chronicle w)
    {who owner : Identity} {proof : Fingerprint} {action : CallAction}
    (howner : action.ownerAfter who = some owner)
    (hfulfilled : Lifecycle.firstFailure m.proofLimit claims
      (action.request (.signed who) proof) = none)
    {r : ClaimRequest} (hr : r = action.request (.signed who) proof)
    {outcome : Except Fault ClaimReply} {v : Forum τ ι ε (Guarded θ)}
    (hcourse : Course m.toHost S w.calls deposit claims (w.begun r) r (outcome, v)) :
    let t := (m.source w.own w.aside.rest).1
    (Judged (accepted w.trace) (.ok t) ∧
      w.trace ++ [.began w.calls r, .told w.calls (.ok t),
        .wrote w.calls proof (some ⟨owner, t⟩)] <+: v.trace) ∨
    ∃ e, Judged (accepted w.trace) (.error e) ∧
      (e = .invalidTimestamp t ∨ ∃ last ∈ accepted w.trace, e = .readingWentBack t last) ∧
      Refused S.Keeps claims w r e (outcome, v.noted (.ended w.calls r outcome)) := by
  intro t
  have hn : w.calls < (w.begun r).calls := Nat.lt_succ_self _
  have hbefore := (h.begun r w.store).2
  have hopened (s : τ) : Chronicle { w.begun r with store := s } := (h.begun r s).1
  have haccepted : accepted (w.begun r).trace = accepted w.trace := by
    simp [Forum.begun, accepted, Happening.accepted?]
  -- A change that succeeds has its stamp, which stays.
  have hstamped {s : τ} {v₁ v₂ : Forum τ ι ε (Guarded θ)} (hgrows : v₁.trace <+: v₂.trace)
      (halters : Alters m.toHost S w.calls claims proof { w.begun r with store := s } (some owner)
        (.ok (), v₁)) :
      Judged (accepted w.trace) (.ok t) ∧
        w.trace ++ [.began w.calls r, .told w.calls (.ok t),
          .wrote w.calls proof (some ⟨owner, t⟩)] <+: v₂.trace := by
    obtain ⟨-, hjudged, htrace, -⟩ | ⟨e, rest, houtcome, -⟩ := guarded_of_alters (hopened s) halters
    · rw [haccepted] at hjudged
      rw [htrace] at hgrows
      refine ⟨hjudged, ?_⟩
      simpa [Forum.begun] using hgrows
    · cases houtcome
  cases hcourse with
  -- The request is a change, not a lookup.
  | looked proof' => cases action <;> cases hr
  -- Its preconditions hold, so it is not refused.
  | refused failure keeps reports answer =>
    rw [hr] at failure
    cases hfulfilled.symm.trans failure
  | @failed who' proof' action' s u v₁ fault fulfilled opened alters keeps =>
    -- The change failed, and with valid times only the guard makes it fail.
    obtain ⟨hwho, rfl, rfl⟩ := CallAction.request_inj hr
    cases hwho
    rw [howner] at alters
    obtain ⟨houtcome, -⟩ | ⟨e, rest, houtcome, hjudged, hshape, rfl⟩ :=
      guarded_of_alters (hopened s) alters
    · cases houtcome
    · cases houtcome
      rw [haccepted] at hjudged hshape
      refine .inr ⟨fault, hjudged, hshape, ⟨rfl, ?_, keeps, rfl, rfl, rfl⟩⟩
      simp [Forum.noted, Forum.begun]
  | @undone who' proof' action' s u v₁ v₂ fault fulfilled alters depositing keeps =>
    -- The change was made before the deposit failed.
    obtain ⟨-, -, hgrows, -⟩ :=
      chronicle_of_change hdeposit (hopened s) hn hbefore alters depositing
    obtain ⟨hwho, rfl, rfl⟩ := CallAction.request_inj hr
    cases hwho
    rw [howner] at alters
    obtain ⟨hjudged, hwrote⟩ := hstamped hgrows alters
    exact .inl ⟨hjudged, hwrote.trans (List.prefix_append _ _)⟩
  | @made who' proof' action' s u v₁ v₂ a outcome fulfilled alters depositing keeps =>
    -- The change was made.
    obtain ⟨-, -, hgrows, -⟩ :=
      chronicle_of_change hdeposit (hopened s) hn hbefore alters depositing
    obtain ⟨hwho, rfl, rfl⟩ := CallAction.request_inj hr
    cases hwho
    rw [howner] at alters
    obtain ⟨hjudged, hwrote⟩ := hstamped hgrows alters
    exact .inl ⟨hjudged, hwrote.trans (List.prefix_append _ _)⟩

/-- The next reading decides what becomes of a call. -/
private theorem readingDecides [DecidableEq ι] (outlet : Outlet τ ι ε (Guarded θ)) (depth : Nat)
    (h : Chronicle w) (hkeeps : S.Keeps w.store claims) {who owner : Identity}
    {proof : Fingerprint} {action : CallAction} (howner : action.ownerAfter who = some owner)
    (hfulfilled : Lifecycle.firstFailure m.proofLimit claims
      (action.request (.signed who) proof) = none) :
    ReadingDecides S.Keeps claims (m.toHost.serve (S.store Forum.storeCell) outlet (depth + 1)) w
      who proof action owner (m.source w.own w.aside.rest).1 := by
  have hdeposit := deposit_chronicled (serve_chronicled m S outlet depth) outlet w.calls
  obtain ⟨outcome, v, hexec, hcourse⟩ := m.toHost.serve_course S outlet depth
    (action.request (.signed who) proof) hkeeps
  have hdecided := stamped_or_refused hdeposit h howner hfulfilled rfl hcourse
  constructor <;> rw [hexec]
  · -- The reading is no time.
    intro hinvalid
    obtain ⟨hjudged, -⟩ | ⟨e, hjudged, rfl | ⟨last, hlast, rfl⟩, hrefused⟩ := hdecided
    · exact absurd hjudged.1 hinvalid
    · exact hrefused
    · exact absurd hjudged.1 hinvalid
  · -- The reading is below one that was accepted.
    rintro hvalid ⟨a, ha, hbelow⟩
    obtain ⟨hjudged, -⟩ | ⟨e, hjudged, rfl | ⟨last, hlast, rfl⟩, hrefused⟩ := hdecided
    · cases hbelow.symm.trans (hjudged.2 a ha)
    · exact absurd hvalid hjudged
    · exact ⟨last, hlast, hrefused⟩
  · -- The reading is neither, so it is written.
    intro hvalid hnotBelow
    obtain ⟨-, hwrote⟩ | ⟨e, hjudged, rfl | ⟨last, hlast, rfl⟩, -⟩ := hdecided
    · exact hwrote.trans (List.prefix_append _ _)
    · exact absurd hvalid hjudged
    · cases hjudged.2.2.symm.trans (hnotBelow last hlast)

end Readings

/-- The stamps of a run rise, and the next reading decides what becomes of a call that is made after
the run. -/
structure WellStamped (Keeps : τ → Claims → Prop) (m : GuardedHost ε θ)
    (serve : Nat → ClaimRequest → Run (Forum τ ι ε (Guarded θ)) ClaimReply)
    (w : Forum τ ι ε (Guarded θ)) : Prop where
  rise : StampsRise w.trace
  next : ∃ claims, Keeps w.store claims ∧ ∀ depth who proof action owner,
    action.ownerAfter who = some owner →
    Lifecycle.firstFailure m.proofLimit claims (action.request (.signed who) proof) = none →
    ReadingDecides Keeps claims (serve (depth + 1)) w who proof action owner
      (m.source w.own w.aside.rest).1

/-- A forum in which nothing has happened, with a guard that has accepted nothing. -/
private theorem Chronicle.fresh (store : τ) (bus : EventBus ι) (own : ε) (rest : θ) :
    Chronicle (.fresh store bus own (Guarded.mk none rest)) where
  last := rfl
  rising := ⟨by simp [accepted, Forum.fresh], .nil⟩
  judged past n reading rest h := by simp [Forum.fresh] at h
  stamped := List.Sublist.refl _
  ordered := .nil
  numbers := by simp [stamps, Forum.fresh]
  success := by simp [Forum.fresh]

private theorem run_wellStamped [DecidableEq ι] (m : GuardedHost ε θ) (S : FaithfulStore τ)
    (outlet : Outlet τ ι ε (Guarded θ)) (depth : Nat) (user : Participant τ ι ε (Guarded θ) α)
    {store : τ} {claims : Claims} (hkeeps : S.Keeps store claims) (bus : EventBus ι) (own : ε)
    (rest : θ) :
    WellStamped S.Keeps m (m.toHost.serve (S.store Forum.storeCell) outlet)
      ((user.run (m.toHost.serve (S.store Forum.storeCell) outlet depth)).exec
        (.fresh store bus own ⟨none, rest⟩)).2 := by
  obtain ⟨h, -, claims', hkeeps'⟩ := run_chronicled m S outlet depth user
    (.fresh store bus own ⟨none, rest⟩) claims hkeeps (.fresh store bus own rest)
  exact ⟨h.stampsRise, claims', hkeeps', fun depth who proof action owner howner hfulfilled =>
    readingDecides outlet depth h hkeeps' howner hfulfilled⟩

/-- Under a guarded clock the stamps of every run never go back, on both stores, whatever the source
reads and whatever the sink does: it may fail and call the service to any depth.  A reading that is
not valid or below an earlier accepted one makes its call fail, and leaves everything else as it
was, the guard included; any other one is accepted. -/
theorem stamps_never_go_back [DecidableEq ι] (m : GuardedHost ε θ) (depth : Nat) (bus : EventBus ι)
    (own : ε) (rest : θ) :
    (∀ (outlet : Outlet UndoStore ι ε (Guarded θ))
      (user : Participant UndoStore ι ε (Guarded θ) α) (store : UndoStore) (claims : Claims),
      store.Represents claims →
      WellStamped UndoStore.Represents m
        (m.toHost.serve (UndoStore.store Forum.storeCell) outlet)
        ((user.run (m.toHost.serve (UndoStore.store Forum.storeCell) outlet depth)).exec
          (.fresh store bus own ⟨none, rest⟩)).2) ∧
    ∀ (outlet : Outlet SavepointStore ι ε (Guarded θ))
      (user : Participant SavepointStore ι ε (Guarded θ) α) (store : SavepointStore)
      (claims : Claims),
      store.Keeps claims →
      WellStamped SavepointStore.Keeps m
        (m.toHost.serve (SavepointStore.store Forum.storeCell) outlet)
        ((user.run (m.toHost.serve (SavepointStore.store Forum.storeCell) outlet depth)).exec
          (.fresh store bus own ⟨none, rest⟩)).2 := by
  rw [SavepointStore.store_eq]
  exact ⟨fun outlet user store claims hkeeps =>
      run_wellStamped m UndoStore.faithful outlet depth user hkeeps bus own rest,
    fun outlet user store claims hkeeps =>
      run_wellStamped m SavepointStore.faithful outlet depth user hkeeps bus own rest⟩

/-- A source that reads some numbers, one after the other. -/
def GuardedHost.reads : GuardedHost Unit (List Number) where
  source _ readings := (readings.headD .nan, readings.tail)
  proofLimit := 10
  count _ _ readings := (.ok (), readings)
  log _ _ _ readings := (.ok (), readings)

/-- A sink that is full for one fingerprint. -/
def fullSink : Outlet UndoStore String Unit (Guarded (List Number)) :=
  .sink fun event => .done (if event.proof = [2] then .error (.raised "full") else .ok ())

/-- Three claims are made, one after the other. -/
def threeClaims : Participant UndoStore String Unit (Guarded (List Number)) Unit :=
  .call (.create (.signed "alice") [1]) fun _ => .call (.create (.signed "alice") [2]) fun _ =>
    .call (.create (.signed "alice") [3]) fun _ => .done (.ok ())

/-- What becomes of the three claims if the source reads some numbers. -/
def readingsRun (readings : List Number) :
    Except Fault Unit × Forum UndoStore String Unit (Guarded (List Number)) :=
  (threeClaims.run (GuardedHost.reads.toHost.serve (UndoStore.store Forum.storeCell) fullSink
    1)).exec (.fresh (.ofClaims .empty) ⟨[], .nil⟩ () ⟨none, readings⟩)

/-- The second of four readings is accepted although the sink fails, so that the third one goes
back.  The fourth reading is not valid, and its call fails. -/
theorem stamps_never_go_back_full_sink :
    let v := (readingsRun [5, 9, 8, .nan]).2
    StampsRise v.trace ∧ accepted v.trace = [5, 9] ∧ stamps v.trace = [(0, 5), (1, 9)] ∧
      ∃ claims, Refused UndoStore.Represents claims v (.create (.signed "alice") [4])
        (.invalidTimestamp .nan)
        ((GuardedHost.reads.toHost.serve (UndoStore.store Forum.storeCell) fullSink 1
          (.create (.signed "alice") [4])).exec v) := by
  intro v
  have hstamped : WellStamped UndoStore.Represents GuardedHost.reads
      (GuardedHost.reads.toHost.serve (UndoStore.store Forum.storeCell) fullSink) v :=
    (stamps_never_go_back GuardedHost.reads 1 _ () _).1 fullSink threeClaims _ .empty
      (UndoStore.represents_ofClaims .empty)
  have hfacts : accepted v.trace = [5, 9] ∧ stamps v.trace = [(0, 5), (1, 9)] ∧
      v.aside.rest = [.nan] ∧ v.store.contains [4] = false := by decide +kernel
  -- From here on, only these facts matter about the run.
  clear_value v
  obtain ⟨haccepted, hstamps, hread, hunclaimed⟩ := hfacts
  obtain ⟨claims, hkeeps, hdecides⟩ := hstamped.next
  refine ⟨hstamped.rise, haccepted, hstamps, claims, ?_⟩
  have hfulfilled : Lifecycle.firstFailure GuardedHost.reads.proofLimit claims
      (.create (.signed "alice") [4]) = none := by
    rw [Lifecycle.firstFailure_create, ← hkeeps.contains_eq, hunclaimed]
    rfl
  have hdecided := hdecides 0 "alice" [4] .create "alice" rfl hfulfilled
  rw [hread] at hdecided
  exact hdecided.invalid fun hvalid => by cases hvalid

end ProofOfExistence
