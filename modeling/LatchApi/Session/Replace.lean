import LatchApi.Lib.ReadCommitted
import LatchApi.Lib.Reply
import LatchApi.Store.Ops

namespace LatchApi.Session

open Lib Program List
open Store (Uuid DbError)

abbrev Key := Uuid × String

structure ProvedRow where
  provedAt : Int
  insertedBy : Option Nat
deriving DecidableEq

structure Tuple where
  key : Key
  insertedBy : Option Nat
deriving DecidableEq

inductive Op where
  | beginTx
  | scanSessionProvedCredentialsExcept (tx : Nat) (sessionID : Uuid) (credentialID : String)
  | deleteSessionProvedCredentials (tx : Nat) (found : List Tuple)
  | insertSessionProvedCredential (tx : Nat) (key : Key) (provedAt : Int)
  | commit (tx : Nat)
  | rollback (tx : Nat)
  | now

@[reducible] def Res : Op → Type
  | .beginTx => Except DbError Nat
  | .scanSessionProvedCredentialsExcept _ _ _ => Except DbError (List Tuple)
  | .deleteSessionProvedCredentials _ _ => Except DbError Unit
  | .insertSessionProvedCredential _ _ _ => Except DbError Unit
  | .commit _ => Except DbError Unit
  | .rollback _ => Unit
  | .now => Int

inductive SessionError where
  | parseSessionID
  | failed (context : String)
deriving DecidableEq

abbrev SessionProgram (α : Type) := Program Op Res SessionError α

def orFailed {α : Type} (context : String) : Except DbError α → SessionProgram α :=
  orFail fun _ => .failed context

def parseSessionID (sessionID : Encoded Uuid) : SessionProgram Uuid :=
  match sessionID.decode with
  | some sid => .ok sid
  | none => .fail .parseSessionID

def deleteSessionProvedCredentialsExcept (tx : Nat) (sid : Uuid) (credentialID : String) :
    SessionProgram Unit := do
  let found ← orFailed "clear prior proved credentials"
    (← perform (Op.scanSessionProvedCredentialsExcept tx sid credentialID))
  orFailed "clear prior proved credentials" (← perform (Op.deleteSessionProvedCredentials tx found))

def replaceIn (sid : Uuid) (credentialID : String) (tx : Nat) : SessionProgram Unit := do
  deleteSessionProvedCredentialsExcept tx sid credentialID
  let now ← perform Op.now
  orFailed "insert proved credential"
    (← perform (Op.insertSessionProvedCredential tx (sid, credentialID) now))
  orFailed "commit" (← perform (Op.commit tx))

def replaceProvedCredential (sessionID : Encoded Uuid) (credentialID : String) :
    SessionProgram Unit := do
  let sid ← parseSessionID sessionID
  let tx ← orFailed "begin tx" (← perform Op.beginTx)
  let out ← (replaceIn sid credentialID tx).attempt
  -- deferred; it does nothing once the transaction has ended
  perform (Op.rollback tx)
  ofExcept out

abbrev RowStore := TxStore Key ProvedRow

structure Db where
  store : RowStore
  index : List Key
  time : Int

def RowStore.tuple (s : RowStore) (tx : Nat) (k : Key) : Option Tuple :=
  (s.view tx k).map fun row => ⟨k, row.insertedBy⟩

def Db.scan (s : Db) (tx : Nat) (sid : Uuid) (credentialID : String) : List Tuple :=
  (s.index.filter fun k => decide (k.1 = sid ∧ k.2 ≠ credentialID)).filterMap (s.store.tuple tx)

def Db.remaining (s : Db) (tx : Nat) (found : List Tuple) : List Key :=
  (found.filter fun r => decide (s.store.tuple tx r.key = some r)).map Tuple.key

def Db.delete (s : Db) (tx : Nat) (found : List Tuple) : Db :=
  { s with store := s.store.remove tx (s.remaining tx found) }

def Db.upsert (s : Db) (tx : Nat) (k : Key) (provedAt : Int) : Db :=
  let insertedBy := ((s.store.view tx k).map ProvedRow.insertedBy).getD (some tx)
  { s with store := s.store.write tx k (some ⟨provedAt, insertedBy⟩), index := k :: s.index }

def exec (op : Op) (s : Db) (reply : Reply) : Res op × Db :=
  match op with
  | .beginTx => replied .failed reply s.store.next s { s with store := s.store.begin }
  | .scanSessionProvedCredentialsExcept tx sid credentialID =>
    (if reply = .done ∧ tx ∈ s.store.opened then .ok (s.scan tx sid credentialID)
      else .error .failed, s)
  | .deleteSessionProvedCredentials tx found =>
    if tx ∈ s.store.opened then replied .failed reply () s (s.delete tx found)
    else (.error .failed, s)
  | .insertSessionProvedCredential tx k provedAt =>
    if tx ∈ s.store.opened then replied .failed reply () s (s.upsert tx k provedAt)
    else (.error .failed, s)
  | .commit tx =>
    if tx ∈ s.store.opened then
      replied .failed reply () { s with store := s.store.close tx } { s with store := s.store.commit tx }
    else (.error .failed, s)
  | .rollback tx => ((), { s with store := s.store.close tx })
  | .now => (s.time, s)

inductive Outside where
  | tick (d : Nat)
  | abort (tx : Nat)

def outside : Outside → Db → Option Db
  | .tick d, s => some { s with time := s.time + d }
  | .abort tx, s => some { s with store := s.store.close tx }

def replaceSystem (sessionID : Encoded Uuid) :
    System String Op Res SessionError Unit Db Reply Outside where
  body := replaceProvedCredential sessionID
  exec _ := exec
  world := outside

abbrev ReplaceThread := Thread String Op Res SessionError Unit

abbrev ReplaceConfig := Config String Op Res SessionError Unit Db

def rowLocks : System.Schedule String Op Res SessionError Unit Db := fun s _ _ op =>
  match op with
  | .deleteSessionProvedCredentials tx found => ∀ r ∈ found, s.store.Free (some tx) r.key
  | .insertSessionProvedCredential tx k _ => s.store.Free (some tx) k
  | _ => True

instance (s : Db) (others : List ReplaceThread) (t : ReplaceThread) (op : Op) :
    Decidable (rowLocks s others t op) := by
  unfold rowLocks
  cases op <;> infer_instance

abbrev History := Log Res

def Begun (tx : Nat) (h : History) : Prop := ⟨Op.beginTx, Except.ok tx⟩ ∈ h

def Found (tx : Nat) (found : List Tuple) (h : History) : Prop :=
  ∃ sid c, ⟨Op.scanSessionProvedCredentialsExcept tx sid c, Except.ok found⟩ ∈ h

def Cleared (tx : Nat) (h : History) : Prop :=
  ∃ found, ⟨Op.deleteSessionProvedCredentials tx found, Except.ok ()⟩ ∈ h

def Stored (tx : Nat) (h : History) : Prop :=
  ∃ k provedAt, ⟨Op.insertSessionProvedCredential tx k provedAt, Except.ok ()⟩ ∈ h

def Committed (h : History) : Prop := ∃ tx, ⟨Op.commit tx, Except.ok ()⟩ ∈ h

def Scanned (tx : Nat) (h : History) : Prop := ∃ found, Found tx found h

def discipline (sessionID : Encoded Uuid) (credentialID : String) : Discipline Op Res where
  legal
    | .scanSessionProvedCredentialsExcept _ _ c, .ok found => ∀ r ∈ found, r.key.2 ≠ c
    | _, _ => True
  guard h
    | .scanSessionProvedCredentialsExcept tx sid c =>
      Begun tx h ∧ sessionID.decode = some sid ∧ c = credentialID
    | .deleteSessionProvedCredentials tx found =>
      Begun tx h ∧ Found tx found h ∧ ∀ r ∈ found, r.key.2 ≠ credentialID
    | .insertSessionProvedCredential tx k _ =>
      Begun tx h ∧ Scanned tx h ∧ Cleared tx h ∧ sessionID.decode = some k.1 ∧ k.2 = credentialID
    | .commit tx => Scanned tx h ∧ Cleared tx h ∧ Stored tx h
    | _ => True

section Obeys

variable {sessionID : Encoded Uuid} {sid : Uuid} {c : String} {h : History} {tx : Nat}

theorem obeys_deleteSessionProvedCredentialsExcept (hsid : sessionID.decode = some sid)
    (hb : Begun tx h) :
    Obeys (discipline sessionID c) h (deleteSessionProvedCredentialsExcept tx sid c)
      (onOk fun h' _ => Begun tx h' ∧ Scanned tx h' ∧ Cleared tx h') := by
  unfold deleteSessionProvedCredentialsExcept
  rw [obeys_perform_then]
  refine ⟨⟨hb, hsid, rfl⟩, fun r hlegal => obeys_orFail_bind fun found hr => ?_⟩
  subst hr
  rw [obeys_perform_then]
  refine ⟨⟨mem_cons_of_mem _ hb, ⟨sid, c, mem_cons_self⟩, hlegal⟩,
    fun r _ => obeys_orFail ?_⟩
  rintro _ rfl
  exact ⟨mem_cons_of_mem _ (mem_cons_of_mem _ hb),
    ⟨found, sid, c, mem_cons_of_mem _ mem_cons_self⟩, found, mem_cons_self⟩

theorem obeys_replaceIn (hsid : sessionID.decode = some sid) (hb : Begun tx h) :
    Obeys (discipline sessionID c) h (replaceIn sid c tx) (onOk fun h' _ => Committed h') := by
  refine (obeys_deleteSessionProvedCredentialsExcept hsid hb).bind_onOk
    fun h₁ _ ⟨hb, ⟨found, sid', c', hscan⟩, found', hclear⟩ => ?_
  rw [obeys_perform_then]
  refine ⟨trivial, fun now _ => ?_⟩
  rw [obeys_perform_then]
  refine ⟨⟨mem_cons_of_mem _ hb, ⟨found, sid', c', mem_cons_of_mem _ hscan⟩,
    ⟨found', mem_cons_of_mem _ hclear⟩, hsid, rfl⟩, fun r _ => obeys_orFail_bind fun _ hr => ?_⟩
  subst hr
  rw [obeys_perform_then]
  refine ⟨⟨⟨found, sid', c', ?_⟩, ⟨found', ?_⟩, (sid, c), now, mem_cons_self⟩,
    fun r _ => obeys_orFail ?_⟩
  · exact mem_cons_of_mem _ (mem_cons_of_mem _ hscan)
  · exact mem_cons_of_mem _ (mem_cons_of_mem _ hclear)
  · rintro _ rfl
    exact ⟨tx, mem_cons_self⟩

theorem obeys_replaceProvedCredential :
    Obeys (discipline sessionID c) [] (replaceProvedCredential sessionID c)
      (onOk fun h' _ => (∃ sid, sessionID.decode = some sid) ∧ Committed h') := by
  unfold replaceProvedCredential parseSessionID
  cases hsid : sessionID.decode with
  | none => exact .fail trivial
  | some sid =>
    change Obeys _ _ (perform Op.beginTx >>= _) _
    rw [obeys_perform_then]
    refine ⟨trivial, fun r _ => obeys_orFail_bind fun tx hr => ?_⟩
    subst hr
    rw [obeys_bind, obeys_attempt]
    refine (obeys_replaceIn hsid mem_cons_self).mono fun h' out hout => ?_
    refine (obeys_perform_then ..).mpr ⟨trivial, fun _ _ => ?_⟩
    rw [obeys_ofExcept]
    cases out with
    | error e => trivial
    | ok _ =>
      obtain ⟨tx', hcommit⟩ := hout
      exact ⟨⟨sid, rfl⟩, tx', mem_cons_of_mem _ hcommit⟩

end Obeys

end LatchApi.Session
