import ProofOfExistence.Proofs.WriteLedger

/-!
# What a closed file keeps

At every point of a run on a durable file, the file keeps the writes that count for good in the
ledger of the run, and nothing else.  So when the file is opened again, the store on it holds what
was written outside all transactions and in outermost transactions that had completed before the
close.  What was written in a transaction that was still open at the close is gone, also in inner
transactions that had completed, and that transaction ends with a fault.  Every operation on a
closed store is refused, and to close it again does nothing.

All this comes from one invariant (`FileWorld.Sound`), which every deed keeps.

## Key results

- `FileWorld.respected_sound`: every deed keeps the invariant
- `FileWorld.refuses_of_closed`: what a closed store does
- `closed_file_keeps_completed`: what a file keeps, for every program and services on it
-/

namespace ProofOfExistence

variable {κ α : Type} {start : DurableClaims} {f g : StoreFile} {i j : Nat}

/-! ## Stories -/

/-- If the deed is an operation on the `i`-th store, it was refused because the store is closed, and
if it is the end of one of its transactions, that one ended with a fault. -/
def FileDeed.Refused (i : Nat) : FileDeed → Prop
  | did j _ fault => j = i → fault = some .storeClosed
  | ended j fault => j = i → fault ≠ none
  | began _ | closed _ | opened _ => True

/-- How a deed goes with the files before and after it. -/
structure FileDeed.Fits (deed : FileDeed) (f g : StoreFile) : Prop where
  refused : ∀ i, f.HasClosed i → deed.Refused i
  closed : ∀ i, deed = .closed i → g.HasClosed i
  opened : ∀ i, deed = .opened i → f.stores.length = i ∧ g.durable = f.durable ∧
    g.store i = ⟨g.durable, g.revision, some .idle⟩

/-- How an entry goes with a later one: what is closed stays closed, and between the close of the
last store and the next opening nothing becomes durable. -/
structure FileEntry.Precedes (e e' : FileEntry) : Prop where
  closed : ∀ i, e.file.HasClosed i → e'.file.HasClosed i
  refused : ∀ i, e.file.HasClosed i → e'.deed.Refused i
  opened : ∀ i, e'.deed = .opened i → e.file.stores.length ≤ i ∧
    (e.file.stores.length = i → (∀ j, e.file.openStore? j = none) →
      e'.file.durable = e.file.durable)

/-- How an entry is by itself. -/
structure FileEntry.Right (e : FileEntry) : Prop where
  sole : e.file.Sole
  closed : ∀ i, e.deed = .closed i → e.file.HasClosed i
  opened : ∀ i, e.deed = .opened i →
    e.file.store i = ⟨e.file.durable, e.file.revision, some .idle⟩

/-- A story is right so far, and the file is later than all its entries. -/
structure Told (start : DurableClaims) (story : List FileEntry) (f : StoreFile) : Prop where
  right : ∀ e ∈ story, e.Right
  durable : ∀ before e after, story = before ++ e :: after →
    e.file.durable = start.replay (Ledger.ofStory (before ++ [e])).kept
  ordered : story.Pairwise FileEntry.Precedes
  later : ∀ e ∈ story, e.file.Later f

theorem Told.mono {story : List FileEntry} (h : Told start story f) (hlater : f.Later g) :
    Told start story g :=
  { h with later := fun e he => (h.later e he).trans hlater }

/-- A story goes on with a deed. -/
theorem Told.concat {story : List FileEntry} (h : Told start story f) {deed : FileDeed}
    (hfits : deed.Fits f g) (hlater : f.Later g) (hsole : g.Sole)
    (hdurable : g.durable = start.replay ((Ledger.ofStory story).record deed).kept) :
    Told start (story ++ [⟨deed, g⟩]) g := by
  have hmem : ∀ e ∈ story ++ [⟨deed, g⟩], e ∈ story ∨ e = ⟨deed, g⟩ := fun e he =>
    (List.mem_append.1 he).imp_right List.mem_singleton.1
  constructor
  · intro e he
    rcases hmem e he with he | rfl
    · exact h.right e he
    · exact ⟨hsole, hfits.closed, fun i hi => (hfits.opened i hi).2.2⟩
  · -- Every entry is right about its own store.
    -- The entry in question is the new one or was there before.
    intro before e after hsplit
    rcases Run.concat_eq_split hsplit with ⟨rfl, rfl⟩ | ⟨later, -, hearlier⟩
    · rw [Ledger.ofStory_concat]
      exact hdurable
    · exact h.durable before e later hearlier
  · -- The new entry comes after all the others.
    refine List.pairwise_append.2 ⟨h.ordered, List.pairwise_singleton _ _, fun e he e' he' => ?_⟩
    obtain rfl := List.mem_singleton.1 he'
    have hbefore := h.later e he
    refine ⟨(hbefore.trans hlater).closed, fun i hi => hfits.refused i (hbefore.closed i hi),
      fun i hi => ?_⟩
    obtain ⟨hlength, hsame, -⟩ := hfits.opened i hi
    refine ⟨hlength ▸ hbefore.length, fun heq hclosed => ?_⟩
    exact hsame.trans (hbefore.durable hclosed (hlength.trans heq.symm))
  · -- What follows the new entry follows the earlier ones, too.
    intro e he
    rcases hmem e he with he | rfl
    · exact (h.later e he).trans hlater
    · exact .refl g

/-! ## The invariant -/

namespace FileWorld

/-- The ledger of what was done so far. -/
def ledger (w : FileWorld κ) : Ledger := .ofStory w.story

/-- The file is as the ledger says, and so was it at every entry. -/
structure Sound (start : DurableClaims) (w : FileWorld κ) : Prop where
  sole : w.file.Sole
  durable : w.file.durable = start.replay w.ledger.kept
  /-- What is pending is pending in stores that were opened. -/
  known : ∀ p ∈ w.ledger.pending, p.1 < w.file.stores.length
  agrees : ∀ i u, w.file.openStore? i = some u →
    SavepointStore.Agrees start i (w.file.store i) w.ledger
  told : Told start w.story w.file

theorem sound_fresh (start : DurableClaims) (revision : Nat) (own : κ) :
    (fresh start revision own).Sound start where
  sole := ⟨nofun, nofun⟩
  durable := rfl
  known := nofun
  agrees := nofun
  told := ⟨fun _ he => absurd he List.not_mem_nil, fun before e after h => by simp [fresh] at h,
    .nil, fun _ he => absurd he List.not_mem_nil⟩

theorem ledger_noted (w : FileWorld κ) (deed : FileDeed) :
    (w.noted deed).ledger = w.ledger.record deed :=
  Ledger.ofStory_concat _ _

variable {w w' : FileWorld κ} {u : OpenStore} {s : SavepointStore} {deed : FileDeed}

/-- A deed keeps the invariant if the file that it leaves is as the ledger says then. -/
private theorem Sound.after (h : w.Sound start) (hfits : deed.Fits w.file g)
    (hlater : w.file.Later g) (hsole : g.Sole)
    (hdurable : g.durable = start.replay (w.ledger.record deed).kept)
    (hknown : ∀ p ∈ (w.ledger.record deed).pending, p.1 < g.stores.length)
    (hagrees : ∀ i u, g.openStore? i = some u →
      SavepointStore.Agrees start i (g.store i) (w.ledger.record deed)) :
    (noted { w with file := g } deed).Sound start := by
  have hledger : (noted { w with file := g } deed).ledger = w.ledger.record deed :=
    ledger_noted _ _
  refine ⟨hsole, ?_, ?_, ?_, h.told.concat hfits hlater hsole hdurable⟩
  · rw [hledger]
    exact hdurable
  · rw [hledger]
    exact hknown
  · rw [hledger]
    exact hagrees

/-- Where a store has changed, it is the only one that can be open. -/
private theorem agrees_of_becomes {l : Ledger} (hu : w.file.openStore? i = some u)
    (h : w.Sound start) (hbecomes : w.file.Becomes i s g)
    (hs : SavepointStore.Agrees start i s l) (j : Nat) (v : OpenStore)
    (hv : g.openStore? j = some v) : SavepointStore.Agrees start j (g.store j) l := by
  have hj := hbecomes.sole.last j v hv
  have hi := h.sole.last i u hu
  have hlength := hbecomes.length
  obtain rfl : j = i := by omega
  rw [hbecomes.store]
  exact hs

/-- A change of the open store. -/
private theorem Sound.change (h : w.Sound start) (hu : w.file.openStore? i = some u)
    (hbecomes : w.file.Becomes i s g) (hs : SavepointStore.Agrees start i s (w.ledger.record deed))
    (hfits : deed.Fits w.file g)
    (hpending : ∀ p ∈ (w.ledger.record deed).pending, p.1 < w.file.stores.length) :
    (noted { w with file := g } deed).Sound start := by
  refine h.after hfits (hbecomes.later hu) hbecomes.sole ?_ (hbecomes.length ▸ hpending)
    (agrees_of_becomes hu h hbecomes hs)
  rw [← hs.durable, ← hbecomes.store]
  rfl

/-- The invariant is kept, and the same transactions are pending.  A transaction needs the second
part of what runs in it, to find itself as the innermost one when it ends. -/
def Keeps (start : DurableClaims) (w w' : FileWorld κ) : Prop :=
  w.Sound start → w'.Sound start ∧ w.ledger.Steady w'.ledger

instance : IsPreorder (FileWorld κ) (Keeps start) where
  refl _ h := ⟨h, .refl _⟩
  trans _ _ _ hvw hwx h := by
    obtain ⟨hw, hsteady⟩ := hvw h
    obtain ⟨hx, hsteady'⟩ := hwx hw
    exact ⟨hx, hsteady.trans hsteady'⟩

/-! ## Operations -/

/-- A deed on an open store is refused to no closed one. -/
private theorem fits_did {op : FileOp} {fault : Option Fault} (hu : f.openStore? i = some u) :
    (FileDeed.did i op fault).Fits f g := by
  refine ⟨fun j hj hij => ?_, nofun, nofun⟩
  cases (hij ▸ hj.openStore?).symm.trans hu

/-- An operation on an open store. -/
private theorem keeps_did (hu : w.file.openStore? i = some u) {op : FileOp}
    {fault : Option Fault} (hbecomes : w.file.Becomes i s g)
    (hs : w.Sound start → SavepointStore.Agrees start i s (w.ledger.record (.did i op fault))) :
    Keeps start w (noted { w with file := g } (.did i op fault)) := by
  intro h
  have hsteady : w.ledger.Steady (w.ledger.record (.did i op fault)) := by
    cases fault with
    | none => exact Ledger.steady_enter _ _ _
    | some e => exact .refl _
  refine ⟨h.change hu hbecomes (hs h) (fits_did hu) (hsteady.known h.known), ?_⟩
  rw [ledger_noted]
  exact hsteady

/-- An operation on a closed store. -/
private theorem keeps_did_of_closed {op : FileOp} :
    Keeps start w (w.noted (.did i op (some .storeClosed))) := by
  intro h
  have hfits : (FileDeed.did i op (some .storeClosed)).Fits w.file w.file :=
    ⟨fun _ _ _ => rfl, nofun, nofun⟩
  refine ⟨h.after hfits (.refl _) h.sole h.durable h.known h.agrees, ?_⟩
  rw [ledger_noted]
  exact .refl _

private theorem exec_reading (i : Nat) (value : DurableClaims → α) (w : FileWorld κ) :
    (StoreFile.reading fileCell i do
      return value (← SavepointStore.claims (StoreFile.storeCell fileCell i))).exec w =
      match ((w.file.look i).store i).opened with
      | .ok o => (.ok (value (((w.file.look i).store i).visible o)),
          { w with file := w.file.look i })
      | .error e => (.error e, { w with file := w.file.look i }) := by
  unfold StoreFile.reading SavepointStore.claims
  simp only [Run.exec_bind, Cell.exec_modify, Cell.exec_read, Run.exec_ofExcept]
  have hstore : (StoreFile.storeCell fileCell i).get
      (fileCell.set ((fileCell.get w).look i) w) = (w.file.look i).store i := rfl
  rw [hstore]
  cases ((w.file.look i).store i).opened <;> rfl

private theorem exec_reading_of_closed (hi : w.file.openStore? i = none)
    (deed : Option Fault → FileDeed) (value : DurableClaims → α) :
    (noting deed (StoreFile.reading fileCell i do
      return value (← SavepointStore.claims (StoreFile.storeCell fileCell i)))).exec w =
      (.error .storeClosed, w.noted (deed (some .storeClosed))) := by
  rw [exec_noting, exec_reading, StoreFile.look_of_closed hi, StoreFile.opened_store_of_closed hi]

/-- Reading keeps the invariant. -/
private theorem respects_reading {op : FileOp} (hop : op.write? = none) (i : Nat)
    (value : DurableClaims → α) :
    Run.Respects (Keeps (κ := κ) start) (noting (.did i op) (StoreFile.reading fileCell i do
      return value (← SavepointStore.claims (StoreFile.storeCell fileCell i)))) := by
  intro w
  cases hu : w.file.openStore? i with
  -- A closed store refuses to be read.
  | none =>
    rw [exec_reading_of_closed hu]
    exact keeps_did_of_closed
  -- An open store is read, and nothing is written to the ledger.
  | some u =>
    rw [exec_noting, exec_reading]
    intro h
    have hbecomes := StoreFile.Becomes.look (i := i) h.sole
    have hopened : ((w.file.look i).store i).opened = .ok (u.current w.file.durable) := by
      rw [hbecomes.store, StoreFile.store_of_openStore? hu]
      rfl
    rw [hopened]
    refine keeps_did hu hbecomes (fun h => ?_) h
    show SavepointStore.Agrees start i _ (w.ledger.enter i op.write?.toList)
    rw [hop, Option.toList_none, Ledger.enter_nil]
    exact h.agrees i u hu

private theorem exec_writing (i : Nat) (change : SavepointStore → Except Fault SavepointStore)
    (w : FileWorld κ) :
    (StoreFile.writing fileCell i
      (SavepointStore.update (StoreFile.storeCell fileCell i) change)).exec w =
      match w.file.hold i with
      | .error e => (.error e, w)
      | .ok g =>
        match change (g.store i) with
        | .ok s => (.ok (), { w with file := g.setStore i s })
        | .error e => (.error e, { w with file := g }) := by
  have hfile : fileCell.get w = w.file := rfl
  rw [StoreFile.exec_writing, hfile]
  cases w.file.hold i with
  | error e => rfl
  | ok g => exact SavepointStore.exec_update _ _ _

private theorem exec_writing_of_closed (hi : w.file.openStore? i = none)
    (deed : Option Fault → FileDeed) {change : SavepointStore → Except Fault SavepointStore}
    (hclosed : ∀ s, s.opened = .error .storeClosed → change s = .error .storeClosed) :
    (noting deed (StoreFile.writing fileCell i
      (SavepointStore.update (StoreFile.storeCell fileCell i) change))).exec w =
      (.error .storeClosed, w.noted (deed (some .storeClosed))) := by
  rw [exec_noting, exec_writing, StoreFile.hold_of_closed hi]
  simp only [hclosed _ (StoreFile.opened_store_of_closed hi)]

/-- Writing keeps the invariant. -/
private theorem respects_writing {op : FileOp} {write : StoreWrite}
    (hop : op.write? = some write) (i : Nat)
    {change : SavepointStore → Except Fault SavepointStore}
    (hclosed : ∀ s, s.opened = .error .storeClosed → change s = .error .storeClosed)
    (hchange : ∀ {s t : SavepointStore} {l : Ledger}, SavepointStore.Agrees start i s l →
      change s = .ok t → SavepointStore.Agrees start i t (l.enter i [write]))
    (hinside : ∀ {s t : SavepointStore} {o o' : StoreSession}, change s = .ok t →
      s.session = some o → t.session = some o' → o'.copies ≠ [] →
      t.revision = s.revision ∧ o.copies ≠ []) :
    Run.Respects (Keeps (κ := κ) start) (noting (.did i op) (StoreFile.writing fileCell i
      (SavepointStore.update (StoreFile.storeCell fileCell i) change))) := by
  intro w
  cases hu : w.file.openStore? i with
  -- A closed store refuses to be written.
  | none =>
    rw [exec_writing_of_closed hu _ hclosed]
    exact keeps_did_of_closed
  -- The write is entered in the ledger, under the transactions that are pending.
  | some u =>
    rw [exec_noting, exec_writing]
    intro h
    obtain ⟨g, hhold, hbecomes, hput⟩ := StoreFile.exists_hold_becomes h.sole hu
    rw [hhold]
    dsimp only
    rw [hbecomes.store]
    have hagrees := h.agrees i u hu
    cases hresult : change (w.file.store i) with
    -- The store refuses the write, so the ledger stays as it was.
    | error e => exact keeps_did hu hbecomes (fun _ => hagrees) h
    | ok t =>
      refine keeps_did hu (hput t fun o ho hne => ?_) (fun _ => ?_) h
      · exact hinside hresult (congrArg SavepointStore.session
          (StoreFile.store_of_openStore? hu)) ho hne
      · show SavepointStore.Agrees start i t (w.ledger.enter i op.write?.toList)
        rw [hop]
        exact hchange hagrees hresult

/-! ## Transactions -/

section Ended

variable {writes : List StoreWrite} {outer : List (Nat × List StoreWrite)}

/-- The end of a transaction of an open store. -/
private theorem Sound.ended (h : w.Sound start) (hu : w.file.openStore? i = some u)
    (hpending : w.ledger.pending = (i, writes) :: outer) {fault : Option Fault}
    (hbecomes : w.file.Becomes i s g)
    (hs : SavepointStore.Agrees start i s (w.ledger.leave fault)) :
    (noted { w with file := g } (.ended i fault)).Sound start := by
  refine h.change hu hbecomes hs ⟨fun j hj hij => ?_, nofun, nofun⟩ fun p hp => ?_
  · cases (hij ▸ hj.openStore?).symm.trans hu
  · -- What is pending now was pending before, but for the writes.
    have hold : ∀ q ∈ outer, q.1 < w.file.stores.length := fun q hq =>
      h.known q (hpending ▸ List.mem_cons_of_mem _ hq)
    cases fault with
    | some e =>
      rw [Ledger.record, Ledger.leave_error hpending] at hp
      exact hold p hp
    | none =>
      rw [Ledger.record, Ledger.leave_ok hpending] at hp
      exact (Ledger.steady_enter ⟨w.ledger.kept, outer⟩ i writes).known hold p hp

/-- A transaction of a store that was closed meanwhile ends with a fault and leaves the file. -/
private theorem Sound.ended_of_closed (h : w.Sound start) (hi : w.file.openStore? i = none)
    (hpending : w.ledger.pending = (i, writes) :: outer) (e : Fault) :
    (w.noted (.ended i (some e))).Sound start := by
  have hledger : w.ledger.record (.ended i (some e)) = ⟨w.ledger.kept, outer⟩ :=
    Ledger.leave_error hpending
  refine h.after ⟨fun _ _ _ => nofun, nofun, nofun⟩ (.refl _) h.sole ?_ ?_ fun j v hv => ?_
  · rw [hledger]
    exact h.durable
  · rw [hledger]
    exact fun p hp => h.known p (hpending ▸ List.mem_cons_of_mem _ hp)
  · have hij : i ≠ j := by
      rintro rfl
      cases hi.symm.trans hv
    exact (h.agrees j v hv).leave_other hpending hij e

/-- The copies of a store with a pending transaction. -/
private theorem Sound.exists_copies (h : w.Sound start) (hu : w.file.openStore? i = some u)
    (hpending : w.ledger.pending = (i, writes) :: outer) :
    ∃ copy copies, (u.current w.file.durable).copies = copy :: copies := by
  have hlayered := (h.agrees i u hu).layered (u.current w.file.durable)
    (congrArg SavepointStore.session (StoreFile.store_of_openStore? hu))
  rcases hcopies : (u.current w.file.durable).copies with _ | ⟨copy, copies⟩
  · rw [hcopies, hpending] at hlayered
    exact absurd (hlayered (i, writes) List.mem_cons_self) (Nat.lt_irrefl i)
  · exact ⟨copy, copies, rfl⟩

end Ended

/-- A transaction that cannot be opened does nothing; any other one runs its computation and is then
committed or rolled back. -/
private theorem exec_transaction (i : Nat) (body : Run (FileWorld κ) α) (w : FileWorld κ) :
    ((storeAt i).transaction body).exec w =
      match (w.file.store i).openTransaction with
      | .error e => (.error e, (w.noted (.began i)).noted (.ended i (some e)))
      | .ok s =>
        match body.exec { w.noted (.began i) with file := w.file.setStore i s } with
        | (.error e, w') => (.error e, noted
            { w' with file := w'.file.setStore i (w'.file.store i).rollback } (.ended i (some e)))
        | (.ok a, w') =>
          match (w'.file.store i).commit with
          | .error e => (.error e, w'.noted (.ended i (some e)))
          | .ok t =>
            (.ok a, noted { w' with file := w'.file.setStore i t } (.ended i none)) := by
  have hexec : ((storeAt i).transaction body).exec w =
      (noting (.ended i) (SavepointStore.transactional.toStoreOps.transaction
        (StoreFile.storeCell fileCell i) body)).exec (w.noted (.began i)) := rfl
  have hopen : SavepointStore.transactional.openTransaction
      ((StoreFile.storeCell fileCell i).get (w.noted (.began i))) =
      (w.file.store i).openTransaction := rfl
  rw [hexec, exec_noting, StoreOps.exec_transaction, hopen]
  cases (w.file.store i).openTransaction with
  -- The transaction was not opened.
  | error e => rfl
  | ok s =>
    have hset : (StoreFile.storeCell fileCell i).set s (w.noted (.began i)) =
        { w.noted (.began i) with file := w.file.setStore i s } := rfl
    dsimp only
    rw [hset]
    rcases body.exec { w.noted (.began i) with file := w.file.setStore i s } with ⟨_ | a, w'⟩
    · -- The body failed, and the copy is dropped.
      rfl
    · -- The body is done, and the copy is committed, or the commit fails.
      have hcommit : SavepointStore.transactional.commit
          ((StoreFile.storeCell fileCell i).get w') = (w'.file.store i).commit := rfl
      dsimp only
      rw [hcommit]
      cases (w'.file.store i).commit <;> rfl

/-- An open store opens a transaction. -/
private theorem Sound.began (h : w.Sound start) (hu : w.file.openStore? i = some u) :
    ∃ s, (w.file.store i).openTransaction = .ok s ∧
      ({ w.noted (.began i) with file := w.file.setStore i s } : FileWorld κ).Sound start := by
  have hsession := congrArg SavepointStore.session (StoreFile.store_of_openStore? hu)
  obtain ⟨s, hopen, hs⟩ := (h.agrees i u hu).openTransaction hsession
  have hbecomes := StoreFile.becomes_of_copies h.sole hu fun o ho _ =>
    SavepointStore.openTransaction_inside hopen hsession ho
  have hfits : (FileDeed.began i).Fits w.file w.file := ⟨fun _ _ => trivial, nofun, nofun⟩
  have hledger : ({ w.noted (.began i) with file := w.file.setStore i s } : FileWorld κ).ledger =
      w.ledger.record (.began i) := ledger_noted w _
  have hdurable : (w.file.setStore i s).durable = start.replay w.ledger.kept := hs.durable
  refine ⟨s, hopen, hbecomes.sole, hledger ▸ hdurable, ?_, ?_, ?_⟩
  · -- The store has a place in the file, like those whose transactions are pending.
    rw [hledger]
    intro p hp
    show p.1 < (w.file.setStore i s).stores.length
    rw [hbecomes.length]
    rcases List.mem_cons.1 hp with rfl | hp
    · exact StoreFile.lt_length_of_openStore? hu
    · exact h.known p hp
  · -- The copy that was opened agrees with the ledger, which has no writes for it.
    rw [hledger]
    exact agrees_of_becomes hu h hbecomes hs
  · -- The deed is noted before the store opens the transaction.
    exact (h.told.concat hfits (.refl _) h.sole h.durable).mono (hbecomes.later hu)

private theorem openTransaction_of_closed (hi : f.openStore? i = none) :
    (f.store i).openTransaction = .error .storeClosed := by
  rw [SavepointStore.openTransaction, StoreFile.opened_store_of_closed hi]
  rfl

/-- A closed store opens no transaction, and nothing is left of the attempt but the story. -/
private theorem keeps_refused (e : Fault) :
    Keeps start w ((w.noted (.began i)).noted (.ended i (some e))) := by
  intro h
  have hledger : ((w.noted (.began i)).noted (.ended i (some e))).ledger = w.ledger := by
    rw [ledger_noted, ledger_noted]
    rfl
  have hbegan : (FileDeed.began i).Fits w.file w.file := ⟨fun _ _ => trivial, nofun, nofun⟩
  have hended : (FileDeed.ended i (some e)).Fits w.file w.file :=
    ⟨fun _ _ _ => nofun, nofun, nofun⟩
  have htold := (h.told.concat hbegan (.refl _) h.sole h.durable).concat hended (.refl _) h.sole
    (by rw [Ledger.ofStory_concat]; exact h.durable)
  refine ⟨⟨h.sole, ?_, ?_, ?_, htold⟩, hledger ▸ .refl _⟩ <;> rw [hledger]
  · exact h.durable
  · exact h.known
  · exact h.agrees

/-- A transaction that failed is rolled back, unless its store was closed meanwhile. -/
private theorem Sound.rolledBack {writes : List StoreWrite} {outer : List (Nat × List StoreWrite)}
    (h : w.Sound start) (hpending : w.ledger.pending = (i, writes) :: outer) (e : Fault) :
    (noted { w with file := w.file.setStore i (w.file.store i).rollback }
      (.ended i (some e))).Sound start := by
  cases hu : w.file.openStore? i with
  | none =>
    -- The close has dropped all copies, so there is nothing to take back.
    have hrollback : (w.file.store i).rollback = w.file.store i := by
      rw [StoreFile.store, hu]
      rfl
    rw [hrollback, StoreFile.setStore_of_closed hu]
    exact h.ended_of_closed hu hpending e
  | some u =>
    -- The copies of an open store are those of the pending transactions, so there is one to drop.
    have hsession := congrArg SavepointStore.session (StoreFile.store_of_openStore? hu)
    obtain ⟨copy, copies, hcopies⟩ := h.exists_copies hu hpending
    refine h.ended hu hpending (StoreFile.becomes_of_copies h.sole hu fun o ho hne => ?_)
      ((h.agrees i u hu).rollback hsession hcopies e)
    obtain ⟨hrevision, hdurable, hsubset⟩ := SavepointStore.rollback_inside hsession ho hne
    exact ⟨hrevision, hdurable, fun c hc => .inr (hsubset hc)⟩

/-- A transaction that succeeded is committed, or fails if its store was closed meanwhile. -/
private theorem Sound.committed {writes : List StoreWrite} {outer : List (Nat × List StoreWrite)}
    (h : w.Sound start) (hpending : w.ledger.pending = (i, writes) :: outer) :
    (∃ e, (w.file.store i).commit = .error e ∧ (w.noted (.ended i (some e))).Sound start) ∨
      ∃ t, (w.file.store i).commit = .ok t ∧
        (noted { w with file := w.file.setStore i t } (.ended i none)).Sound start := by
  cases hu : w.file.openStore? i with
  | none =>
    refine .inl ⟨.storeClosed, ?_, h.ended_of_closed hu hpending _⟩
    rw [SavepointStore.commit, StoreFile.opened_store_of_closed hu]
    rfl
  | some u =>
    have hsession := congrArg SavepointStore.session (StoreFile.store_of_openStore? hu)
    obtain ⟨copy, copies, hcopies⟩ := h.exists_copies hu hpending
    obtain ⟨t, hcommit, ht⟩ := (h.agrees i u hu).commit hsession hcopies
    refine .inr ⟨t, hcommit, h.ended hu hpending
      (StoreFile.becomes_of_copies h.sole hu fun o ho hne => ?_) ht⟩
    obtain ⟨hrevision, hdurable, hsubset⟩ := SavepointStore.commit_inside hcommit hsession ho hne
    exact ⟨hrevision, hdurable, fun c hc => .inr (hsubset hc)⟩

/-- A transaction keeps the invariant if what runs in it does. -/
private theorem respects_transaction {body : Run (FileWorld κ) α}
    (hbody : Run.Respects (Keeps start) body) (i : Nat) :
    Run.Respects (Keeps start) ((storeAt i).transaction body) := by
  intro w h
  rw [exec_transaction]
  cases hu : w.file.openStore? i with
  -- A closed store refuses to open a transaction.
  | none =>
    rw [openTransaction_of_closed hu]
    exact keeps_refused .storeClosed h
  | some u =>
    -- The body runs with the transaction pending, and ends it in the same ledger.
    obtain ⟨s, hopen, hsound⟩ := h.began hu
    rw [hopen]
    obtain ⟨hsound', hsteady⟩ := hbody _ hsound
    dsimp only
    generalize body.exec { w.noted (.began i) with file := w.file.setStore i s } = result
      at hsound' hsteady ⊢
    obtain ⟨outcome, w'⟩ := result
    have hbegan : (w.ledger.record (.began i)).Steady w'.ledger := ledger_noted w _ ▸ hsteady
    obtain ⟨writes, hpending⟩ := hbegan.exists_pending
    -- However it ended, the transactions around it are pending as they were.
    have hended (fault : Option Fault) {v : FileWorld κ} (hv : v.story = w'.story) :
        w.ledger.Steady (v.noted (.ended i fault)).ledger := by
      have hledger : v.ledger = w'.ledger := congrArg Ledger.ofStory hv
      rw [ledger_noted, hledger]
      exact Ledger.steady_leave hpending fault
    cases outcome with
    | error e => exact ⟨hsound'.rolledBack hpending e, hended _ rfl⟩
    | ok a =>
      rcases hsound'.committed hpending with ⟨e, hcommit, hsound''⟩ | ⟨t, hcommit, hsound''⟩
      · -- The commit failed, as it does after a close in the body.
        dsimp only
        rw [hcommit]
        exact ⟨hsound'', hended _ rfl⟩
      · -- The writes of the transaction were completed.
        dsimp only
        rw [hcommit]
        exact ⟨hsound'', hended _ rfl⟩

/-! ## Closing and opening -/

private theorem exec_close (i : Nat) (w : FileWorld κ) :
    (close i).exec w =
      if i < w.file.stores.length then
        (.ok (), noted { w with file := w.file.setStore i (w.file.store i).close } (.closed i))
      else (.ok (), w) := by
  have hexec : (close i).exec w = (if i < w.file.stores.length then do
      (StoreFile.storeCell fileCell i).modify SavepointStore.close
      note (.closed i) else pure () : Run (FileWorld κ) Unit).exec w := rfl
  rw [hexec]
  split <;> rfl

private theorem exec_close_of_closed (hi : w.file.HasClosed i) :
    (close i).exec w = (.ok (), w.noted (.closed i)) := by
  have hclose : (w.file.store i).close = w.file.store i := by
    rw [StoreFile.store, hi.openStore?]
    rfl
  rw [exec_close, if_pos hi.lt_length, hclose, StoreFile.setStore_of_closed hi.openStore?]

/-- A store refuses every operation and every transaction, and to close it does nothing. -/
structure Refuses (w : FileWorld κ) (i : Nat) : Prop where
  perform : ∀ op, (perform i op).exec w =
    (.error .storeClosed, w.noted (.did i op (some .storeClosed)))
  transaction : ∀ {α : Type} (body : Run (FileWorld κ) α), ((storeAt i).transaction body).exec w =
    (.error .storeClosed, (w.noted (.began i)).noted (.ended i (some .storeClosed)))
  close : (close i).exec w = (.ok (), w.noted (.closed i))

private theorem insert_of_closed (f : Fingerprint) (r : ClaimRecord) (s : SavepointStore)
    (hs : s.opened = .error .storeClosed) : s.insert f r = .error .storeClosed := by
  rw [SavepointStore.insert, hs]
  rfl

private theorem remove_of_closed (f : Fingerprint) (s : SavepointStore)
    (hs : s.opened = .error .storeClosed) : s.remove f = .error .storeClosed := by
  rw [SavepointStore.remove, hs]
  rfl

/-- A closed store refuses all that can be asked of it. -/
theorem refuses_of_closed (hi : w.file.HasClosed i) : w.Refuses i where
  perform op := by
    have hmap {β γ : Type} (value : β → γ) {x : Run (FileWorld κ) β} {w' : FileWorld κ}
        (hx : x.exec w = (.error .storeClosed, w')) :
        (value <$> x).exec w = (.error .storeClosed, w') := by
      rw [Run.exec_map, hx]
      rfl
    cases op with
    | get f => exact hmap _ (exec_reading_of_closed hi.openStore? _ _)
    | contains f => exact hmap _ (exec_reading_of_closed hi.openStore? _ _)
    | insert f r => exact hmap _ (exec_writing_of_closed hi.openStore? _ (insert_of_closed f r))
    | remove f => exact hmap _ (exec_writing_of_closed hi.openStore? _ (remove_of_closed f))
    | count => exact hmap _ (exec_reading_of_closed hi.openStore? _ _)
  transaction body := by
    rw [exec_transaction, openTransaction_of_closed hi.openStore?]
  close := exec_close_of_closed hi

private theorem respects_close (i : Nat) : Run.Respects (Keeps (κ := κ) start) (close i) := by
  intro w h
  by_cases hi : i < w.file.stores.length
  · have hclosed : (FileDeed.closed i).Fits w.file (w.file.setStore i (w.file.store i).close) := by
      refine ⟨fun _ _ => trivial, fun j hj => ?_, nofun⟩
      obtain rfl := FileDeed.closed.inj hj
      exact StoreFile.hasClosed_setStore_close hi
    have hsteady (v : FileWorld κ) (hv : v.story = w.story) :
        w.ledger.Steady (v.noted (.closed i)).ledger := by
      have hledger : v.ledger = w.ledger := congrArg Ledger.ofStory hv
      rw [ledger_noted, hledger]
      exact .refl _
    cases hu : w.file.openStore? i with
    -- To close the store again changes nothing.
    | none =>
      have hhas := StoreFile.hasClosed_of_lt hi hu
      rw [exec_close_of_closed hhas]
      refine ⟨h.after ⟨fun _ _ => trivial, fun j hj => ?_, nofun⟩ (.refl _) h.sole h.durable
        h.known h.agrees, hsteady w rfl⟩
      exact FileDeed.closed.inj hj ▸ hhas
    -- The copies are dropped with the store, and the file keeps what it has.
    | some u =>
      rw [exec_close, if_pos hi]
      have hbecomes := StoreFile.becomes_of_copies (s := (w.file.store i).close) h.sole hu nofun
      exact ⟨h.change hu hbecomes ⟨h.durable, nofun, nofun⟩ hclosed h.known, hsteady _ rfl⟩
  · -- There is no such store.
    rw [exec_close, if_neg hi]
    exact ⟨h, .refl _⟩

private theorem exec_reopen (w : FileWorld κ) :
    reopen.exec w =
      if w.file.stores.all Option.isNone then
        (.ok (), noted { w with file := w.file.addStore } (.opened w.file.stores.length))
      else (.ok (), w) := by
  have hexec : reopen.exec w = (if w.file.stores.all Option.isNone then do
      fileCell.write w.file.addStore
      note (.opened w.file.stores.length) else pure () : Run (FileWorld κ) Unit).exec w := rfl
  rw [hexec]
  split <;> rfl

private theorem respects_reopen : Run.Respects (Keeps (κ := κ) start) reopen := by
  intro w h
  rw [exec_reopen]
  split
  · -- All stores are closed, so the new one is the only open one.
    rename_i hall
    have hclosed : ∀ i, w.file.openStore? i = none := by
      intro i
      cases hu : w.file.openStore? i with
      | none => rfl
      | some u =>
        have hmem := List.mem_of_getElem? (StoreFile.openStore?_eq_some.1 hu)
        cases List.all_eq_true.1 hall _ hmem
    have hsole := StoreFile.sole_addStore hclosed
    have hlength : w.file.addStore.stores.length = w.file.stores.length + 1 :=
      List.length_append
    refine ⟨h.after ⟨fun _ _ => trivial, nofun, fun i hi => ?_⟩ (StoreFile.later_addStore _) hsole
      h.durable (fun p hp => hlength ▸ Nat.lt_succ_of_lt (h.known p hp)) fun i u hu => ?_, ?_⟩
    · obtain rfl := FileDeed.opened.inj hi
      exact ⟨rfl, rfl, StoreFile.store_addStore _⟩
    · obtain rfl : i = w.file.stores.length :=
        Nat.succ.inj ((hsole.last i u hu).trans hlength)
      rw [StoreFile.store_addStore]
      exact SavepointStore.agrees_idle h.durable h.known
    · rw [ledger_noted]
      exact .refl _
  · -- As long as a store is open, none is opened.
    exact ⟨h, .refl _⟩

/-- Every deed keeps the invariant. -/
theorem respected_sound (start : DurableClaims) : Respected (Keeps (κ := κ) start) where
  keep _ _ h := ⟨⟨h.sole, h.durable, h.known, h.agrees, h.told⟩, .refl _⟩
  get i _ := respects_reading rfl i _
  contains i _ := respects_reading rfl i _
  insert i f r := respects_writing rfl i (insert_of_closed f r) (fun hs ht => hs.insert ht)
    fun ht ho ho' => SavepointStore.insert_inside ht ho ho'
  remove i f := respects_writing rfl i (remove_of_closed f) (fun hs ht => hs.remove ht)
    fun ht ho ho' => SavepointStore.remove_inside ht ho ho'
  count i := respects_reading rfl i _
  transaction i _ hbody := respects_transaction hbody i
  close := respects_close
  reopen := respects_reopen

end FileWorld

/-! ## What a file keeps -/

/-- What a story tells of a file that kept some claims at its start. -/
structure KeepsCompleted (start : DurableClaims) (story : List FileEntry) : Prop where
  /-- At every point the file keeps what the writes that count for good make of those claims. -/
  durable : ∀ before e after, story = before ++ e :: after →
    e.file.durable = start.replay (Ledger.ofStory (before ++ [e])).kept
  /-- Opened again, a file that was closed holds what counted before it was closed. -/
  reopened : ∀ before e between e' after i, story = before ++ e :: (between ++ e' :: after) →
    e.deed = .closed i → e'.deed = .opened (i + 1) →
      e'.file.store (i + 1) =
        ⟨start.replay (Ledger.ofStory before).kept, e'.file.revision, some .idle⟩
  /-- From the close on the store is closed, every operation on it is refused, and each of its
  transactions ends with a fault. -/
  closed : ∀ before e after i, story = before ++ e :: after → e.deed = .closed i →
    e.file.HasClosed i ∧ ∀ e' ∈ after, e'.file.HasClosed i ∧ e'.deed.Refused i

private theorem Told.keepsCompleted {story : List FileEntry} (h : Told start story f) :
    KeepsCompleted start story where
  durable := h.durable
  reopened before e between e' after i hsplit hclosed hopened := by
    have hmem : e ∈ story := hsplit ▸ List.mem_append_right _ List.mem_cons_self
    have hmem' : e' ∈ between ++ e' :: after := List.mem_append_right _ List.mem_cons_self
    have hprecedes : e.Precedes e' :=
      List.rel_of_pairwise_cons (List.pairwise_append.1 (hsplit ▸ h.ordered)).2.1 hmem'
    have hright := h.right e hmem
    have hright' := h.right e' (hsplit ▸ List.mem_append_right _ (List.mem_cons_of_mem _ hmem'))
    -- The closed store was the last one, so all stores are closed until the next one is opened.
    have hhas := hright.closed i hclosed
    obtain ⟨hlength, hdurable⟩ := hprecedes.opened (i + 1) hopened
    have hlast : e.file.stores.length = i + 1 := Nat.le_antisymm hlength hhas.lt_length
    have hall : ∀ j, e.file.openStore? j = none := by
      intro j
      cases hu : e.file.openStore? j with
      | none => rfl
      | some u =>
        obtain rfl : j = i := Nat.succ.inj ((hright.sole.last j u hu).trans hlast)
        cases hhas.openStore?.symm.trans hu
    have hkept := h.durable before e (between ++ e' :: after) hsplit
    rw [Ledger.ofStory_concat, hclosed] at hkept
    rw [hright'.opened (i + 1) hopened, hdurable hlast hall, hkept]
    rfl
  -- A closed store stays closed in all later entries.
  closed before e after i hsplit hclosed := by
    have hright := h.right e (hsplit ▸ List.mem_append_right _ List.mem_cons_self)
    have hhas := hright.closed i hclosed
    refine ⟨hhas, fun e' he' => ?_⟩
    have hprecedes : e.Precedes e' :=
      List.rel_of_pairwise_cons (List.pairwise_append.1 (hsplit ▸ h.ordered)).2.1 he'
    exact ⟨hprecedes.closed i hhas, hprecedes.refused i hhas⟩

/-- For every program on a durable file, with one store open at a time and a service on each, whose
collaborators may themselves use the stores, close them and open the file again at any point: at
every point of the run the file keeps exactly the writes outside all transactions and those of
outermost transactions that have completed.  Opened again after a close, it holds those from before
the close.  A transaction that was open at the close ends with a fault.  A closed store refuses all
operations and transactions, and to close it again does nothing. -/
theorem closed_file_keeps_completed (P : Nat → FilePartners κ) (depth : Nat)
    (p : FileProgram κ α) (start : DurableClaims) (revision : Nat) (own : κ) :
    KeepsCompleted start
        ((p.run (FileWorld.serve P depth)).exec (.fresh start revision own)).2.story ∧
      ∀ (w : FileWorld κ) (i : Nat), w.file.HasClosed i → w.Refuses i := by
  have hrespects := FileWorld.respects_run (FileWorld.respected_sound start) P depth p
  obtain ⟨hsound, -⟩ :=
    hrespects (.fresh start revision own) (FileWorld.sound_fresh start revision own)
  exact ⟨hsound.told.keepsCompleted, fun w i => FileWorld.refuses_of_closed⟩

/-- A store is closed in a transaction, after an inner one has completed: only the write before the
transactions counts, and the transaction ends with a fault. -/
example :
    let r : ClaimRecord := ⟨"owner", 0⟩
    let insert (f : Fingerprint) (p : FileProgram Unit Unit) : FileProgram Unit Unit :=
      .step 0 (.insert f r) fun _ => p
    let inner : FileProgram Unit Unit := insert [3] (.done (.ok ()))
    let outer : FileProgram Unit Unit :=
      insert [2] (.transaction 0 inner fun _ => .close 0 (.done (.ok ())))
    let p : FileProgram Unit Unit :=
      .reopen (insert [1] (.transaction 0 outer fun outcome => .reopen (.done outcome)))
    let result := (p.run fun _ _ => throw .storeClosed).exec (.fresh .empty 0 ())
    (Ledger.ofStory result.2.story).kept = [([1], some r)] ∧
      result.1.toOption = none := by
  decide +kernel

end ProofOfExistence
