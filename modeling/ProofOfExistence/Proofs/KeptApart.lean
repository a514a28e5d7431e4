import Mathlib.Logic.Function.Iterate
import ProofOfExistence.Proofs.FileFrames
import ProofOfExistence.Proofs.StoreTransactions

/-!
# Fingerprints are kept apart

A storage key is a hash of fixed length followed by the fingerprint, so different fingerprints have
different keys, whatever the hash.  Hence no store confuses them: from any state, with any
transactions open, a program that writes on one fingerprint only leaves all answers about every
other fingerprint as they are.  It may read, open transactions to any depth, fail, catch faults and
go on.

The answers are still the same after enclosing transactions were taken back: what is put back then
is what would have been put back without the program.

## Key results

- `StoreProgram.respects_run`: a program respects what its reads, writes and transactions respect
- `UndoStore.keepsApart`, `SavepointStore.keepsApart`, `StoreFile.keepsApart`: what happens to one
  fingerprint changes no answer about another one
- `fingerprints_kept_apart`: keys and all stores tell fingerprints apart
-/

namespace ProofOfExistence

open StoreProgram (Session)

variable {σ τ ν φ α : Type} {p q : Fingerprint}

/-! ## Programs that write on one fingerprint -/

namespace StoreProgram

/-- Run a program on the durable store. -/
def onSavepoints (prog : StoreProgram ν) : Run (Session SavepointStore ν) ν :=
  prog.run (SavepointStore.store Session.storeCell)
    (do return (← SavepointStore.claims Session.storeCell).size) Session.tell

/-- Run a program on the `i`-th store on a file. -/
def onFile (i : Nat) (prog : StoreProgram ν) : Run (Session StoreFile ν) ν :=
  prog.run (StoreFile.claimStore Session.storeCell i) (StoreFile.count Session.storeCell i)
    Session.tell

/-- A program writes on no other fingerprint than `p`. -/
def WritesOnly (p : Fingerprint) : StoreProgram ν → Prop
  | done _ => True
  | get _ next => ∀ r, (next r).WritesOnly p
  | contains _ next => ∀ b, (next b).WritesOnly p
  | insert f _ next => f = p ∧ next.WritesOnly p
  | remove f next => f = p ∧ next.WritesOnly p
  | size next => ∀ n, (next n).WritesOnly p
  | transaction body next => body.WritesOnly p ∧ ∀ outcome, (next outcome).WritesOnly p

end StoreProgram

/-- What can be done with a store without writing on another fingerprint than `p` respects `R`. -/
structure ClaimStore.RespectsOn (p : Fingerprint) (R : σ → σ → Prop) (store : ClaimStore σ) :
    Prop where
  get : ∀ f, Run.Respects R (store.get f)
  contains : ∀ f, Run.Respects R (store.contains f)
  insert : ∀ r, Run.Respects R (store.insert p r)
  remove : Run.Respects R (store.remove p)
  transaction : ∀ {α : Type} {body : Run σ α}, Run.Respects R body →
    Run.Respects R (store.transaction body)

/-- A program respects what its reads, writes and transactions respect. -/
theorem StoreProgram.respects_run {R : σ → σ → Prop} [IsPreorder σ R] {store : ClaimStore σ}
    {count : Run σ Nat} {tell : StoreAnswer ν → Run σ Unit} (hstore : store.RespectsOn p R)
    (hcount : Run.Respects R count) (htell : ∀ a, Run.Respects R (tell a))
    {prog : StoreProgram ν} (hprog : prog.WritesOnly p) :
    Run.Respects R (prog.run store count tell) := by
  -- Induction on the program.  What it was answered does not matter: it goes on with a program that
  -- writes on `p` only, also after a transaction that failed.
  induction prog with
  | done outcome => exact Run.respects_ofExcept R outcome
  | get f next ih =>
    exact Run.respects_bind (hstore.get f) fun r => Run.respects_bind (htell _) fun _ =>
      ih r (hprog r)
  | contains f next ih =>
    exact Run.respects_bind (hstore.contains f) fun b => Run.respects_bind (htell _) fun _ =>
      ih b (hprog b)
  | insert f r next ih =>
    obtain ⟨rfl, hnext⟩ := hprog
    exact Run.respects_bind (hstore.insert r) fun _ => ih hnext
  | remove f next ih =>
    obtain ⟨rfl, hnext⟩ := hprog
    exact Run.respects_bind hstore.remove fun _ => ih hnext
  | size next ih =>
    exact Run.respects_bind hcount fun n => Run.respects_bind (htell _) fun _ => ih n (hprog n)
  | transaction body next ihbody ihnext =>
    obtain ⟨hbody, hnext⟩ := hprog
    have htransaction := Run.respects_observe (hstore.transaction (ihbody hbody))
    exact Run.respects_bind htransaction fun outcome => Run.respects_bind (htell _) fun _ =>
      ihnext outcome (hnext outcome)

/-! ## Sessions that look alike -/

namespace StoreProgram.Session

/-- The session after a change of its store. -/
def altered (change : τ → τ) (w : Session τ ν) : Session τ ν := { w with store := change w.store }

/-- The stores of two sessions look alike. -/
def Alike (view : τ → φ) (w w' : Session τ ν) : Prop := view w'.store = view w.store

variable {view : τ → φ} {change : τ → τ}

instance (view : τ → φ) : IsPreorder (Session τ ν) (Alike view) where
  refl _ := rfl
  trans _ _ _ h h' := Eq.trans h' h

/-- Sessions that look alike still do after any number of changes that respect the view. -/
theorem Alike.altered_iterate {w w' : Session τ ν} (h : Alike view w w')
    (hchange : ∀ s t, view t = view s → view (change t) = view (change s)) (n : Nat) :
    Alike view ((altered change)^[n] w) ((altered change)^[n] w') := by
  induction n with
  | zero => exact h
  | succ n ih =>
    rw [Function.iterate_succ_apply', Function.iterate_succ_apply']
    exact hchange _ _ ih

theorem respects_count (view : τ → φ) (size : τ → Nat) :
    Run.Respects (Alike (ν := ν) view) (count size) :=
  fun _ => rfl

theorem respects_tell (view : τ → φ) (a : StoreAnswer ν) : Run.Respects (Alike view) (tell a) :=
  fun _ => rfl

end StoreProgram.Session

/-- In two states a store answers alike about a fingerprint. -/
def ClaimStore.AnswersAlike (store : ClaimStore σ) (q : Fingerprint) (w w' : σ) : Prop :=
  ((store.get q).exec w').1 = ((store.get q).exec w).1 ∧
    ((store.contains q).exec w').1 = ((store.contains q).exec w).1

/-- What happens to one fingerprint changes no answer of a store about another one.  Programs are
carried out by `run`, and `undo` takes back the innermost open transaction; `UndoesOnly p` says that
this puts back nothing but what was at `p`. -/
structure ClaimStore.KeepsApart (store : ClaimStore σ) (run : StoreProgram ν → Run σ ν)
    (undo : σ → σ) (UndoesOnly : Fingerprint → σ → Prop) : Prop where
  rollback : ∀ {p q : Fingerprint}, q ≠ p → ∀ w, UndoesOnly p w → store.AnswersAlike q w (undo w)
  /-- A program that writes on `p` only also makes no difference to what is put back when enclosing
  transactions are taken back after it. -/
  program : ∀ {p q : Fingerprint}, q ≠ p → ∀ (w : σ) (prog : StoreProgram ν), prog.WritesOnly p →
    ∀ n, store.AnswersAlike q (undo^[n] w) (undo^[n] ((run prog).exec w).2)

/-! ## The store with undo logs -/

namespace UndoStore

theorem respectsOn_elsewhere (p : Fingerprint) :
    (store Session.storeCell).RespectsOn p (Session.Alike (ν := ν) (elsewhere p)) where
  get _ := fun _ => rfl
  contains _ := fun _ => rfl
  insert r := fun w => elsewhere_insert p w.store r
  remove := fun w => elsewhere_remove p w.store
  transaction hbody := by
    show Run.Respects _ (transactional.transaction Session.storeCell _)
    refine StoreOps.respects_transaction_of_commit ?_ ?_ hbody
    · rintro w s w' ⟨⟩ hrel
      exact elsewhere_rollback hrel
    · rintro w s w' ⟨⟩ hrel
      exact ⟨_, rfl, elsewhere_commit hrel⟩

/-- A program that writes on `p` only changes nothing that is kept elsewhere. -/
theorem alike_exec {prog : StoreProgram ν} (hprog : prog.WritesOnly p) (w : Session UndoStore ν) :
    Session.Alike (elsewhere p) w (prog.onUndoLogs.exec w).2 :=
  StoreProgram.respects_run (respectsOn_elsewhere p) (Session.respects_count _ _)
    (Session.respects_tell _) hprog w

theorem answersAlike {w w' : Session UndoStore ν} (h : w'.store.get? q = w.store.get? q) :
    (store Session.storeCell).AnswersAlike q w w' :=
  ⟨congrArg Except.ok h, congrArg (fun r => Except.ok (Option.isSome r)) h⟩

theorem keepsApart (ν : Type) :
    (store Session.storeCell).KeepsApart (StoreProgram.onUndoLogs (ν := ν))
      (Session.altered rollback) (fun p w => w.store.UndoesOnly p) where
  rollback hq w h := answersAlike (get?_rollback h hq)
  program hq w prog hprog n := by
    have hundone := (alike_exec hprog w).altered_iterate (fun _ _ => elsewhere_rollback_congr) n
    exact answersAlike (get?_of_elsewhere_eq hundone hq)

end UndoStore

/-! ## The durable store -/

namespace SavepointStore

theorem respectsOn_elsewhere (p : Fingerprint) :
    (store Session.storeCell).RespectsOn p (Session.Alike (ν := ν) (elsewhere p)) := by
  rw [store_eq]
  constructor
  · exact fun f => StoreOps.respects_ask _ _
  · exact fun f => StoreOps.respects_ask _ _
  · exact fun r => StoreOps.respects_update_of_ok fun w s => elsewhere_insert
  · exact StoreOps.respects_update_of_ok fun w s => elsewhere_remove
  · refine fun hbody => StoreOps.respects_transaction_of_commit ?_ ?_ hbody
    · exact fun w s w' => elsewhere_rollback
    · exact fun w s w' => elsewhere_commit

/-- Telling the claims of a store changes nothing. -/
theorem respects_claims {R : σ → σ → Prop} [IsPreorder σ R] (cell : Cell σ SavepointStore)
    (f : DurableClaims → α) : Run.Respects R (do return f (← claims cell)) := by
  rw [map_claims]
  exact StoreOps.respects_ask _ _

/-- A program that writes on `p` only changes nothing that is kept elsewhere. -/
theorem alike_exec {prog : StoreProgram ν} (hprog : prog.WritesOnly p)
    (w : Session SavepointStore ν) :
    Session.Alike (elsewhere p) w (prog.onSavepoints.exec w).2 :=
  StoreProgram.respects_run (respectsOn_elsewhere p) (respects_claims _ _) (Session.respects_tell _)
    hprog w

theorem answersAlike {w w' : Session SavepointStore ν} (hq : q ≠ p)
    (h : (w'.store.elsewhere p).shown = (w.store.elsewhere p).shown) :
    (store Session.storeCell).AnswersAlike q w w' := by
  rw [store_eq]
  exact ⟨get_congr h hq, contains_congr h hq⟩

theorem keepsApart (ν : Type) :
    (store Session.storeCell).KeepsApart (StoreProgram.onSavepoints (ν := ν))
      (Session.altered rollback) (fun p w => w.store.UndoesOnly p) where
  rollback hq w h := answersAlike hq (shown_rollback h)
  program hq w prog hprog n := by
    have hundone := (alike_exec hprog w).altered_iterate (fun _ _ => elsewhere_rollback_congr) n
    exact answersAlike hq (congrArg View.shown hundone)

end SavepointStore

/-! ## Stores on a file -/

namespace StoreFile

theorem respects_reading (i : Nat) {body : Run (Session StoreFile ν) α}
    (hbody : Run.Respects (Session.Alike (elsewhere p)) body) :
    Run.Respects (Session.Alike (elsewhere p)) (reading Session.storeCell i body) := by
  refine Run.respects_bind (fun w => ?_) fun _ => hbody
  exact funext fun j => congrArg (SavepointStore.elsewhere p) (store_look w.store i j)

theorem respects_writing (i : Nat) {change : SavepointStore → Except Fault SavepointStore}
    (hchange : ∀ {s t}, change s = .ok t → t.elsewhere p = s.elsewhere p) :
    Run.Respects (Session.Alike (ν := ν) (elsewhere p))
      (writing Session.storeCell i
        (SavepointStore.update (storeCell Session.storeCell i) change)) := by
  have hupdate : Run.Respects (Session.Alike (ν := ν) (elsewhere p))
      (StoreOps.update (storeCell Session.storeCell i) change) :=
    StoreOps.respects_update_of_ok fun w s hs => elsewhere_setStore_same (hchange hs)
  intro w
  rw [exec_writing]
  cases hhold : (Session.storeCell.get w).hold i with
  | error e => exact Std.Refl.refl w
  | ok g =>
    have hsame : Session.Alike (elsewhere p) w { w with store := g } :=
      funext fun j => congrArg (SavepointStore.elsewhere p) (store_of_hold hhold j)
    exact IsTrans.trans _ _ _ hsame (hupdate _)

theorem respectsOn_elsewhere (p : Fingerprint) (i : Nat) :
    (claimStore Session.storeCell i).RespectsOn p (Session.Alike (ν := ν) (elsewhere p)) where
  get f := respects_reading i (SavepointStore.respects_claims _ _)
  contains f := respects_reading i (SavepointStore.respects_claims _ _)
  insert r := respects_writing i SavepointStore.elsewhere_insert
  remove := respects_writing i SavepointStore.elsewhere_remove
  transaction hbody := by
    show Run.Respects _
      (SavepointStore.transactional.transaction (storeCell Session.storeCell i) _)
    refine StoreOps.respects_transaction_of_commit ?_ ?_ hbody
    · exact fun w s w' => elsewhere_rolledBack
    · exact fun w s w' => elsewhere_committed

/-- A program that writes on `p` only changes nothing that is kept elsewhere. -/
theorem alike_exec {prog : StoreProgram ν} (hprog : prog.WritesOnly p) (i : Nat)
    (w : Session StoreFile ν) : Session.Alike (elsewhere p) w ((prog.onFile i).exec w).2 :=
  StoreProgram.respects_run (respectsOn_elsewhere p i)
    (respects_reading i (SavepointStore.respects_claims _ _)) (Session.respects_tell _) hprog w

theorem claimStore_eq (file : Cell σ StoreFile) (i : Nat) :
    claimStore file i =
      let s := SavepointStore.transactional.store (storeCell file i)
      { s with
        get := fun f => reading file i (s.get f)
        contains := fun f => reading file i (s.contains f)
        insert := fun f r => writing file i (s.insert f r)
        remove := fun f => writing file i (s.remove f) } := by
  unfold claimStore
  rw [SavepointStore.store_eq]

/-! That a store looks at the file before it answers changes no answer. -/

theorem exec_get (i : Nat) (q : Fingerprint) (w : Session StoreFile ν) :
    (((claimStore Session.storeCell i).get q).exec w).1 =
      SavepointStore.transactional.get (w.store.store i) q := by
  rw [claimStore_eq]
  exact congrArg (SavepointStore.transactional.get · q) (store_look w.store i i)

theorem exec_contains (i : Nat) (q : Fingerprint) (w : Session StoreFile ν) :
    (((claimStore Session.storeCell i).contains q).exec w).1 =
      SavepointStore.transactional.contains (w.store.store i) q := by
  rw [claimStore_eq]
  exact congrArg (SavepointStore.transactional.contains · q) (store_look w.store i i)

theorem answersAlike {w w' : Session StoreFile ν} {i : Nat} (hq : q ≠ p)
    (h : (w'.store.elsewhere p i).shown = (w.store.elsewhere p i).shown) :
    (claimStore Session.storeCell i).AnswersAlike q w w' := by
  unfold ClaimStore.AnswersAlike
  rw [exec_get, exec_get, exec_contains, exec_contains]
  exact ⟨SavepointStore.get_congr h hq, SavepointStore.contains_congr h hq⟩

theorem keepsApart (ν : Type) (i j k : Nat) :
    (claimStore Session.storeCell j).KeepsApart (StoreProgram.onFile (ν := ν) i)
      (Session.altered (rollBack k)) (fun p w => (w.store.store k).UndoesOnly p) where
  rollback hq w h := answersAlike hq (shown_rollBack h j)
  program hq w prog hprog n := by
    have hundone := (alike_exec hprog i w).altered_iterate
      (fun _ _ h => elsewhere_rollBack_congr h k) n
    exact answersAlike hq (congrArg SavepointStore.View.shown (congrFun hundone j))

end StoreFile

/-! ## All stores -/

/-- Two storage keys, or their texts, are equal only for equal fingerprints, whatever the hash, as
long as it always has the same length.  So what happens to one fingerprint changes no answer about
another one.

This holds of each store in every state, with or without open transactions.  A rollback that puts
back nothing but what was at one fingerprint changes no other answer.  Neither does a program that
writes on one fingerprint, whatever it reads and however its transactions end, and the rollbacks of
enclosing transactions after it put back the same elsewhere.  On a file, this is true of the answers
of each store, whichever store the program runs on and whichever takes back its transactions. -/
theorem fingerprints_kept_apart (ν : Type) :
    (∀ hash : Bytes → Bytes, (∀ bytes, (hash bytes).length = 16) → ∀ p q : Fingerprint,
      (StorageKey.hashThenBytes hash p = StorageKey.hashThenBytes hash q ↔ p = q) ∧
      (Hex.encode (StorageKey.hashThenBytes hash p) =
        Hex.encode (StorageKey.hashThenBytes hash q) ↔ p = q)) ∧
    (∀ p q : Fingerprint,
      (StorageKey.ofFingerprint p = StorageKey.ofFingerprint q ↔ p = q) ∧
      (StorageKey.hexOfFingerprint p = StorageKey.hexOfFingerprint q ↔ p = q)) ∧
    (UndoStore.store Session.storeCell).KeepsApart (StoreProgram.onUndoLogs (ν := ν))
      (Session.altered UndoStore.rollback) (fun p w => w.store.UndoesOnly p) ∧
    (SavepointStore.store Session.storeCell).KeepsApart (StoreProgram.onSavepoints (ν := ν))
      (Session.altered SavepointStore.rollback) (fun p w => w.store.UndoesOnly p) ∧
    ∀ i j k : Nat,
      (StoreFile.claimStore Session.storeCell j).KeepsApart (StoreProgram.onFile (ν := ν) i)
        (Session.altered (StoreFile.rollBack k)) (fun p w => (w.store.store k).UndoesOnly p) := by
  refine ⟨fun hash hlen p q => ?_, fun p q => ?_, UndoStore.keepsApart ν,
    SavepointStore.keepsApart ν, StoreFile.keepsApart ν⟩
  · have hkeys : StorageKey.hashThenBytes hash p = StorageKey.hashThenBytes hash q ↔ p = q :=
      StorageKey.hashThenBytes_inj hlen
    exact ⟨hkeys, Hex.encode_inj.trans hkeys⟩
  · exact ⟨StorageKey.ofFingerprint_inj, StorageKey.hexOfFingerprint_inj⟩

/-- A fingerprint of one byte is claimed in a transaction, also by a program with an inner
transaction that fails.  The claim on a fingerprint that continues it stays, in all stores. -/
theorem fingerprints_kept_apart_prefix :
    let p : Fingerprint := [7]
    let q : Fingerprint := [7, 0]
    let r : ClaimRecord := ⟨"alice", .ofNat 1⟩
    let hash : Bytes → Bytes := fun _ => List.replicate 16 0
    let prog : StoreProgram Unit := .insert p r <|
      .transaction (.remove p (.done (.error .storeClosed))) fun _ => .done (.ok ())
    let claims : DurableClaims := Table.empty.insert (StorageKey.ofFingerprint q) r
    let o : StoreSession := ⟨[claims.insert (StorageKey.ofFingerprint p) r], true⟩
    let u : Session UndoStore Unit :=
      ⟨(UndoStore.empty.insert q r).openTransaction.insert p r, []⟩
    let s : Session SavepointStore Unit := ⟨⟨claims, 0, some o⟩, []⟩
    let f : Session StoreFile Unit := ⟨⟨claims, 0, [some ⟨o, some 0, true⟩, some .idle]⟩, []⟩
    (∀ bytes, (hash bytes).length = 16) ∧ q ≠ p ∧ prog.WritesOnly p ∧
      u.store.UndoesOnly p ∧ s.store.UndoesOnly p ∧ (f.store.store 0).UndoesOnly p ∧
      StorageKey.hashThenBytes hash p ≠ StorageKey.hashThenBytes hash q ∧
      (∀ w, w = u.altered UndoStore.rollback ∨ w = (prog.onUndoLogs.exec u).2 →
        (((UndoStore.store Session.storeCell).get q).exec w).1 = .ok (some r)) ∧
      (∀ w, w = s.altered SavepointStore.rollback ∨ w = (prog.onSavepoints.exec s).2 →
        (((SavepointStore.store Session.storeCell).get q).exec w).1 = .ok (some r)) ∧
      ∀ w, w = f.altered (StoreFile.rollBack 0) ∨ w = ((prog.onFile 0).exec f).2 →
        (((StoreFile.claimStore Session.storeCell 1).get q).exec w).1 = .ok (some r) := by
  intro p q r hash prog claims o u s f
  have hlen : ∀ bytes, (hash bytes).length = 16 := fun _ => rfl
  have hq : q ≠ p := by decide
  have hprog : prog.WritesOnly p := ⟨rfl, ⟨rfl, trivial⟩, fun _ => trivial⟩
  obtain ⟨hkeys, -, hundo, hsavepoints, hfile⟩ := fingerprints_kept_apart Unit
  -- The transaction of `u` has written `p` only, so its log has nothing else to undo.
  have hu : u.store.UndoesOnly p := by
    intro e he
    obtain rfl := List.mem_singleton.1 he
    rfl
  -- The copy of `s` differs from its claims on the key of `p` only.
  have hs : s.store.UndoesOnly p := by
    rintro _ ⟨⟩ k hk
    exact (Table.get?_insert claims _ k r).trans (if_neg hk)
  have hkey : StorageKey.ofFingerprint q ≠ StorageKey.ofFingerprint p :=
    fun heq => hq (StorageKey.ofFingerprint_inj.1 heq)
  have hdurable : claims.get? (StorageKey.ofFingerprint q) = some r := by
    rw [Table.get?_insert, if_pos rfl]
  refine ⟨hlen, hq, hprog, hu, hs, hs, fun heq => hq ((hkeys hash hlen p q).1.1 heq).symm,
    ?_, ?_, ?_⟩
  · -- The store with undo logs.
    have hget : u.store.get? q = some r := by
      rw [UndoStore.get?_insert, if_neg hq, UndoStore.get?_openTransaction, UndoStore.get?_insert,
        if_pos rfl]
    rintro w (rfl | rfl)
    · exact (hundo.rollback hq u hu).1.trans (congrArg Except.ok hget)
    · exact (hundo.program hq u prog hprog 0).1.trans (congrArg Except.ok hget)
  · -- The store with savepoints.
    have hget : (((SavepointStore.store Session.storeCell).get q).exec s).1 = .ok (some r) := by
      rw [SavepointStore.store_eq]
      exact congrArg Except.ok ((Table.get?_insert claims _ _ r).trans
        ((if_neg hkey).trans hdurable))
    rintro w (rfl | rfl)
    · exact (hsavepoints.rollback hq s hs).1.trans hget
    · exact (hsavepoints.program hq s prog hprog 0).1.trans hget
  · -- Two stores on one file: `p` is written through the first, `q` is looked up through the
    -- second.
    have hget : (((StoreFile.claimStore Session.storeCell 1).get q).exec f).1 = .ok (some r) := by
      rw [StoreFile.exec_get]
      exact congrArg Except.ok hdurable
    rintro w (rfl | rfl)
    · exact ((hfile 0 1 0).rollback hq f hs).1.trans hget
    · exact ((hfile 0 1 0).program hq f prog hprog 0).1.trans hget

end ProofOfExistence
