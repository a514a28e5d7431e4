import ProofOfExistence.Proofs.BusRuns

/-!
# The course of a call

`Course` says all that a call of the service can do in a forum whose store keeps some claims: what
it writes and notes, with which outcome it ends, and where the deposit of its event takes place in
between.  What the deposit does is left open; any property of all calls comes from one of the
deposit and a case analysis of the course.

## Key results

- `Host.alter_alters`: how a call changes the claim on its fingerprint
- `Host.service_course`, `Host.serve_course`: the course of a call
-/

namespace ProofOfExistence

variable {τ ι ε η α : Type}

/-- How a call changes the claim on a fingerprint, for its new owner if there is one: it reads the
clock and sets the claim, or it removes the claim.  The clock may fail, and the store may refuse a
time that is not valid. -/
inductive Alters (h : Host ε η) (S : FaithfulStore τ) (n : Nat) (claims : Claims)
    (proof : Fingerprint) (v : Forum τ ι ε η) :
    Option Identity → Except Fault Unit × Forum τ ι ε η → Prop where
  | removed {u : τ} (keeps : S.Keeps u (claims.erase proof)) :
    Alters h S n claims proof v none (.ok (), { v with store := u }.noted (.wrote n proof none))
  | stamped {owner : Identity} {time : Number} {a : η} {u : τ}
      (reading : h.tick v.own v.aside = (.ok time, a))
      (keeps : S.Keeps u (claims.insert proof ⟨owner, time⟩)) :
    Alters h S n claims proof v (some owner)
      (.ok (), ({ v with store := u, aside := a }.noted (.told n (.ok time))).noted
        (.wrote n proof (some ⟨owner, time⟩)))
  | untold {owner : Identity} {fault : Fault} {a : η}
      (reading : h.tick v.own v.aside = (.error fault, a)) :
    Alters h S n claims proof v (some owner)
      (.error fault, { v with aside := a }.noted (.told n (.error fault)))
  | unstorable {owner : Identity} {time : Number} {fault : Fault} {a : η}
      (reading : h.tick v.own v.aside = (.ok time, a)) (invalid : checkTimestamp time ≠ .ok ()) :
    Alters h S n claims proof v (some owner)
      (.error fault, { v with aside := a }.noted (.told n (.ok time)))

/-- What the reporters keep after a report: a count and, unless that failed, a log entry. -/
def QuietReporters.Leaves (r : QuietReporters η) (a a' : η) : Prop :=
  ∃ name tags, a' = (r.count name tags a).2 ∨
    ∃ level text context, a' = (r.log level text context (r.count name tags a).2).2

/-- What a call does between its beginning and its end, and its outcome. -/
inductive Course (h : Host ε η) (S : FaithfulStore τ) (n : Nat)
    (deposit : ClaimEvent → Run (Forum τ ι ε η) Unit) (claims : Claims) (v : Forum τ ι ε η) :
    ClaimRequest → Except Fault ClaimReply × Forum τ ι ε η → Prop where
  /-- A lookup. -/
  | looked (proof : Fingerprint) :
    Course h S n deposit claims v (.claim proof) (.ok (.found (claims.get? proof)), v)
  /-- A precondition fails. -/
  | refused {origin : Origin} {proof : Fingerprint} {action : CallAction} {error : ClaimError}
      {u : τ} {a : η} {outcome : Except Fault ClaimReply}
      (failure : Lifecycle.firstFailure h.proofLimit claims (action.request origin proof) =
        some error)
      (keeps : S.Keeps u claims) (reports : h.Leaves v.aside a)
      (answer : outcome = .ok (.ended (.error error)) ∨ ∃ fault, outcome = .error fault) :
    Course h S n deposit claims v (action.request origin proof)
      (outcome, { v with store := u, aside := a }.noted (.closed n none))
  /-- The claim cannot be changed, and the transaction is taken back. -/
  | failed {who : Identity} {proof : Fingerprint} {action : CallAction} {t u : τ}
      {v₁ : Forum τ ι ε η} {fault : Fault}
      (fulfilled : Lifecycle.firstFailure h.proofLimit claims
        (action.request (.signed who) proof) = none)
      (opened : S.Keeps t claims)
      (alters : Alters h S n claims proof { v with store := t } (action.ownerAfter who)
        (.error fault, v₁))
      (keeps : S.Keeps u claims) :
    Course h S n deposit claims v (action.request (.signed who) proof)
      (.error fault, { v₁ with store := u }.noted (.closed n (some fault)))
  /-- The deposit raises a fault, and the transaction is taken back. -/
  | undone {who : Identity} {proof : Fingerprint} {action : CallAction} {t u : τ}
      {v₁ v₂ : Forum τ ι ε η} {fault : Fault}
      (fulfilled : Lifecycle.firstFailure h.proofLimit claims
        (action.request (.signed who) proof) = none)
      (alters : Alters h S n claims proof { v with store := t } (action.ownerAfter who)
        (.ok (), v₁))
      (depositing : (deposit (action.event who proof)).exec
        (v₁.noted (.deposited n (action.event who proof) v₁.bus.subscribers)) = (.error fault, v₂))
      (keeps : S.Keeps u claims) :
    Course h S n deposit claims v (action.request (.signed who) proof)
      (.error fault, { v₂ with store := u }.noted (.closed n (some fault)))
  /-- The change is committed, and only a reporter can still fail. -/
  | made {who : Identity} {proof : Fingerprint} {action : CallAction} {t u : τ}
      {v₁ v₂ : Forum τ ι ε η} {a : η} {outcome : Except Fault ClaimReply}
      (fulfilled : Lifecycle.firstFailure h.proofLimit claims
        (action.request (.signed who) proof) = none)
      (alters : Alters h S n claims proof { v with store := t } (action.ownerAfter who)
        (.ok (), v₁))
      (depositing : (deposit (action.event who proof)).exec
        (v₁.noted (.deposited n (action.event who proof) v₁.bus.subscribers)) = (.ok (), v₂))
      (keeps : ∀ claims', S.Keeps v₂.store claims' → S.Keeps u claims')
      (reports : h.Leaves v₂.aside a)
      (answer : outcome = .ok (.ended (.ok ())) ∨ ∃ fault, outcome = .error fault) :
    Course h S n deposit claims v (action.request (.signed who) proof)
      (outcome, { v₂ with store := u, aside := a }.noted (.closed n none))

section Courses

variable {h : Host ε η} {S : FaithfulStore τ} {n : Nat}
  {deposit : ClaimEvent → Run (Forum τ ι ε η) Unit} {claims : Claims} {v w : Forum τ ι ε η}
  {proof : Fingerprint}

variable (h S n deposit) in
/-- The service for a call. -/
private abbrev forumService : ClaimService (Forum τ ι ε η) :=
  h.service (S.store Forum.storeCell) n deposit

/-! ## The change -/

private theorem readsAs (hkeeps : S.Keeps v.store claims) :
    (forumService h S n deposit).ReadsAs claims v :=
  ClaimService.readsAs_of_keeps rfl rfl hkeeps

private theorem exec_forum_now (v : Forum τ ι ε η) :
    (forumService h S n deposit).now.exec v = ((h.tick v.own v.aside).1,
      { v with aside := (h.tick v.own v.aside).2 }.noted (.told n (h.tick v.own v.aside).1)) :=
  rfl

private theorem exec_forum_insert (r : ClaimRecord) (v : Forum τ ι ε η) :
    ((forumService h S n deposit).store.insert proof r).exec v =
      match S.insert v.store proof r with
      | .ok u => (.ok (), { v with store := u }.noted (.wrote n proof (some r)))
      | .error e => (.error e, v) := by
  show (StoreOps.update Forum.storeCell (fun s => S.insert s proof r) >>= fun _ =>
    Forum.note (.wrote n proof (some r))).exec v = _
  have hget : Forum.storeCell.get v = v.store := rfl
  simp only [Run.exec_bind, StoreOps.exec_update, hget]
  cases S.insert v.store proof r <;> rfl

private theorem exec_forum_remove (v : Forum τ ι ε η) :
    ((forumService h S n deposit).store.remove proof).exec v =
      match S.remove v.store proof with
      | .ok u => (.ok (), { v with store := u }.noted (.wrote n proof none))
      | .error e => (.error e, v) := by
  show (StoreOps.update Forum.storeCell (fun s => S.remove s proof) >>= fun _ =>
    Forum.note (.wrote n proof none)).exec v = _
  have hget : Forum.storeCell.get v = v.store := rfl
  simp only [Run.exec_bind, StoreOps.exec_update, hget]
  cases S.remove v.store proof <;> rfl

variable (h n deposit proof) in
/-- How the service changes the claim on a fingerprint. -/
theorem Host.alter_alters (hkeeps : S.Keeps v.store claims) (owner : Option Identity) :
    Alters h S n claims proof v owner
      (((h.service (S.store Forum.storeCell) n deposit).alter proof owner).exec v) := by
  cases owner with
  | none =>
    -- A claim is given up by a removal, which does not fail.
    obtain ⟨u, hremove, hu⟩ := S.remove_keeps hkeeps (f := proof)
    show Alters h S n claims proof v none (((forumService h S n deposit).store.remove proof).exec v)
    rw [exec_forum_remove, hremove]
    exact .removed hu
  | some owner =>
    -- A claim is made with the time that the clock tells first.
    show Alters h S n claims proof v (some owner) (((forumService h S n deposit).now >>= fun time =>
      (forumService h S n deposit).store.insert proof ⟨owner, time⟩).exec v)
    rw [Run.exec_bind, exec_forum_now]
    rcases hreading : h.tick v.own v.aside with ⟨fault | time, a⟩
    · exact .untold hreading
    · dsimp only
      rw [exec_forum_insert]
      cases hinsert : S.insert v.store proof ⟨owner, time⟩ with
      | ok u =>
        have hu := S.insert_keeps hkeeps hinsert
        simp only [Forum.noted, hinsert]
        exact .stamped hreading hu
      | error fault =>
        simp only [Forum.noted, hinsert]
        refine .unstorable hreading fun hvalid => ?_
        -- A store that keeps claims takes a claim with a valid time.
        obtain ⟨u, hu⟩ := S.insert_valid hkeeps (f := proof) (r := ⟨owner, time⟩) hvalid
        rw [hinsert] at hu
        cases hu

/-! ## The transaction around it -/

private theorem exec_transaction_ok {body : Run (Forum τ ι ε η) α} {t : τ} {a : α}
    {w : Forum τ ι ε η} (hkeeps : S.Keeps v.store claims)
    (hopen : S.openTransaction v.store = .ok t)
    (hexec : body.exec { v with store := t } = (.ok a, w)) (hfollows : S.Follows t w.store) :
    ∃ u, ((forumService h S n deposit).store.transaction body).exec v =
        (.ok a, { w with store := u }.noted (.closed n none)) ∧
      ∀ claims', S.Keeps w.store claims' → S.Keeps u claims' := by
  obtain ⟨u, htransaction, -, hu⟩ :=
    S.transaction_ok Forum.storeCell hkeeps hopen hexec hfollows
  refine ⟨u, ?_, hu⟩
  show (Run.observe (S.transaction Forum.storeCell body) >>= _).exec v = _
  rw [Run.exec_bind, Run.exec_observe, htransaction]
  rfl

private theorem exec_transaction_error {body : Run (Forum τ ι ε η) α} {t : τ} {e : Fault}
    {w : Forum τ ι ε η} (hkeeps : S.Keeps v.store claims)
    (hopen : S.openTransaction v.store = .ok t)
    (hexec : body.exec { v with store := t } = (.error e, w)) (hfollows : S.Follows t w.store) :
    ∃ u, ((forumService h S n deposit).store.transaction body).exec v =
        (.error e, { w with store := u }.noted (.closed n (some e))) ∧ S.Keeps u claims := by
  obtain ⟨u, htransaction, -, hu⟩ :=
    S.transaction_error Forum.storeCell hkeeps hopen hexec hfollows
  refine ⟨u, ?_, hu⟩
  show (Run.observe (S.transaction Forum.storeCell body) >>= _).exec v = _
  rw [Run.exec_bind, Run.exec_observe, htransaction]
  rfl

variable (h S n deposit proof) in
/-- A report leaves everything alone but what the reporters keep. -/
private theorem exec_forum_report (call : ClaimCall) (answer : Except ClaimError Unit)
    (w : Forum τ ι ε η) :
    ∃ outcome a, ((forumService h S n deposit).report call proof answer).exec w =
      (outcome, { w with aside := a }) ∧ h.Leaves w.aside a := by
  have hsequence (name : Utf16) (tags : Tags) (level : LogLevel) (text : String)
      (context : LogContext) : ∃ outcome a,
      (do Forum.consult fun _ => h.count name tags
          Forum.consult fun _ => h.log level text context : Run (Forum τ ι ε η) Unit).exec w =
        (outcome, { w with aside := a }) ∧ h.Leaves w.aside a := by
    rw [Run.exec_bind, Forum.exec_consult]
    -- The log entry is written only if the count did not fail.
    rcases hcount : h.count name tags w.aside with ⟨_ | _, a⟩
    · exact ⟨_, a, rfl, name, tags, .inl (by rw [hcount])⟩
    · exact ⟨_, _, rfl, name, tags, .inr ⟨level, text, context, by rw [hcount]⟩⟩
  cases answer <;> exact hsequence _ _ _ _ _

/-! ## Whole calls -/

private theorem exec_serve_request {origin : Origin} {action : CallAction}
    {answer : Except ClaimError Unit}
    (hexec : ((forumService h S n deposit).store.transaction
      ((forumService h S n deposit).body origin proof action)).exec v = (.ok answer, w)) :
    ∃ outcome a, ((forumService h S n deposit).serve (action.request origin proof)).exec v =
        (outcome, { w with aside := a }) ∧ h.Leaves w.aside a ∧
      (outcome = .ok (.ended answer) ∨ ∃ fault, outcome = .error fault) := by
  rw [ClaimService.serve_request, Run.exec_map]
  unfold ClaimService.perform
  simp only [Run.exec_bind, hexec]
  obtain ⟨reported, a, hreport, hleaves⟩ :=
    exec_forum_report h S n deposit proof action.method answer w
  rw [hreport]
  cases reported with
  | error fault => exact ⟨_, a, rfl, hleaves, .inr ⟨fault, rfl⟩⟩
  | ok _ => exact ⟨_, a, rfl, hleaves, .inl rfl⟩

private theorem exec_serve_request_error {origin : Origin} {action : CallAction} {e : Fault}
    (hexec : ((forumService h S n deposit).store.transaction
      ((forumService h S n deposit).body origin proof action)).exec v = (.error e, w)) :
    ((forumService h S n deposit).serve (action.request origin proof)).exec v = (.error e, w) := by
  rw [ClaimService.serve_request, Run.exec_map]
  unfold ClaimService.perform
  simp only [Run.exec_bind, hexec]
  rfl

private theorem course_of_lookup (hkeeps : S.Keeps v.store claims) :
    Course h S n deposit claims v (.claim proof)
      (((forumService h S n deposit).serve (.claim proof)).exec v) := by
  have hget : ((forumService h S n deposit).serve (.claim proof)).exec v =
      (.ok (.found (claims.get? proof)), v) := by
    show (ClaimReply.found <$> (forumService h S n deposit).store.get proof).exec v = _
    rw [Run.exec_map, (readsAs hkeeps).get]
    rfl
  rw [hget]
  exact .looked proof

section Actions

variable {origin : Origin} {action : CallAction} {t : τ} (hkeeps : S.Keeps v.store claims)
  (hopen : S.openTransaction v.store = .ok t) (ht : S.Keeps t claims)
  (hfollows : S.Follows t
    (((forumService h S n deposit).body origin proof action).exec { v with store := t }).2.store)
include hkeeps hopen ht hfollows

private theorem course_of_firstFailure {error : ClaimError}
    (hfailure : Lifecycle.firstFailure h.proofLimit claims (action.request origin proof) =
      some error) :
    Course h S n deposit claims v (action.request origin proof)
      (((forumService h S n deposit).serve (action.request origin proof)).exec v) := by
  have hbody := ClaimService.exec_body_of_firstFailure (s := forumService h S n deposit)
    (w := { v with store := t }) (readsAs ht) hfailure
  rw [hbody] at hfollows
  obtain ⟨u, htransaction, hu⟩ := exec_transaction_ok hkeeps hopen hbody hfollows
  obtain ⟨outcome, a, hserve, hleaves, hanswer⟩ := exec_serve_request htransaction
  rw [hserve]
  exact .refused hfailure (hu claims ht) hleaves hanswer

private theorem course_of_fulfilled
    (hfulfilled : Lifecycle.firstFailure h.proofLimit claims (action.request origin proof) =
      none) :
    Course h S n deposit claims v (action.request origin proof)
      (((forumService h S n deposit).serve (action.request origin proof)).exec v) := by
  obtain ⟨who, rfl, hbody⟩ := ClaimService.exec_body_of_fulfilled
    (s := forumService h S n deposit) (w := { v with store := t }) (readsAs ht) hfulfilled
  -- The change of the claim comes first, and then the deposit, if there was a change.
  have halters := h.alter_alters n deposit proof (v := { v with store := t }) ht
    (action.ownerAfter who)
  rw [hbody] at hfollows
  unfold ClaimService.change at hbody hfollows
  rw [Run.exec_bind] at hbody hfollows
  rcases halter : ((forumService h S n deposit).alter proof (action.ownerAfter who)).exec
    { v with store := t } with ⟨fault | ⟨⟩, v₁⟩
  · -- The change failed, so the transaction is rolled back.
    rw [halter] at hbody hfollows halters
    obtain ⟨u, htransaction, hu⟩ := exec_transaction_error hkeeps hopen hbody hfollows
    rw [exec_serve_request_error htransaction]
    exact .failed hfulfilled ht halters hu
  · rw [halter] at hbody hfollows halters
    have hdeposit : ((forumService h S n deposit).deposit (action.event who proof)).exec v₁ =
      (deposit (action.event who proof)).exec
        (v₁.noted (.deposited n (action.event who proof) v₁.bus.subscribers)) := rfl
    simp only [Run.exec_bind, hdeposit] at hbody hfollows
    rcases hdepositing : (deposit (action.event who proof)).exec
      (v₁.noted (.deposited n (action.event who proof) v₁.bus.subscribers)) with ⟨fault | ⟨⟩, v₂⟩
    · -- The deposit failed, and takes the change with it.
      rw [hdepositing] at hbody hfollows
      obtain ⟨u, htransaction, hu⟩ := exec_transaction_error hkeeps hopen hbody hfollows
      rw [exec_serve_request_error htransaction]
      exact .undone hfulfilled halters hdepositing hu
    · -- The change and the deposit are committed, and the answer is reported.
      rw [hdepositing] at hbody hfollows
      obtain ⟨u, htransaction, hu⟩ := exec_transaction_ok hkeeps hopen hbody hfollows
      obtain ⟨outcome, a, hserve, hleaves, hanswer⟩ := exec_serve_request htransaction
      rw [hserve]
      show Course h S n deposit claims v (action.request (.signed who) proof)
        (outcome, { v₂ with store := u, aside := a }.noted (.closed n none))
      exact .made hfulfilled halters hdepositing hu hleaves hanswer

end Actions

/-- What the service does for a call, if the deposit of its event leaves the transactions of others
alone. -/
theorem Host.service_course
    (hdeposit : ∀ event, Run.Respects (Forum.Follows S.toTransactionalStore) (deposit event))
    (hkeeps : S.Keeps v.store claims) (r : ClaimRequest) :
    Course h S n deposit claims v r
      (((h.service (S.store Forum.storeCell) n deposit).serve r).exec v) := by
  rcases r.lookup_or_action with ⟨proof, rfl⟩ | ⟨origin, proof, action, rfl⟩
  · exact course_of_lookup hkeeps
  · obtain ⟨t, hopen, ht⟩ := S.open_keeps hkeeps
    -- Whatever the body does, its transaction can be closed.
    have hfollows := ClaimService.respects_body (h.service_follows n hdeposit) origin proof action
      { v with store := t } (S.valid_of_keeps ht)
    cases hfailure : Lifecycle.firstFailure h.proofLimit claims (action.request origin proof) with
    | some error => exact course_of_firstFailure hkeeps hopen ht hfollows hfailure
    | none => exact course_of_fulfilled hkeeps hopen ht hfollows hfailure

end Courses

/-- A call with room for calls within it takes its course between its beginning and its end. -/
theorem Host.serve_course [DecidableEq ι] (h : Host ε η) (S : FaithfulStore τ)
    (outlet : Outlet τ ι ε η) (depth : Nat) (r : ClaimRequest) {w : Forum τ ι ε η} {claims : Claims}
    (hkeeps : S.Keeps w.store claims) :
    ∃ outcome v, (h.serve (S.store Forum.storeCell) outlet (depth + 1) r).exec w =
        (outcome, v.noted (.ended w.calls r outcome)) ∧
      Course h S w.calls
        (fun event => outlet.deposit (h.serve (S.store Forum.storeCell) outlet depth) w.calls event)
        claims (w.begun r) r (outcome, v) := by
  have hcourse := h.service_course (S := S) (n := w.calls) (v := w.begun r)
    (fun event => h.deposit_follows outlet depth w.calls event) hkeeps r
  refine ⟨_, _, ?_, hcourse⟩
  rfl

end ProofOfExistence
