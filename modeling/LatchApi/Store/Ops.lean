import LatchApi.Lib.Interleaving
import LatchApi.Lib.Outcome
import LatchApi.Lib.Runs
import LatchApi.Store.Db

namespace LatchApi.Store

open Lib

structure RegisteredCredential where
  credentialID : String
  rawPublicKey : Bytes
  cosePublicKey : Bytes
deriving DecidableEq

structure DeployedAccount where
  keyDataHex : String
  saltHex : String
  smartAccountAddress : String
  deployed : Bool
  alreadyDeployed : Bool
deriving DecidableEq

inductive DbError where
  | noRows
  | failed
deriving DecidableEq

inductive CallError where
  | insufficientFeeBalance
  | feeQuoteStale
  | feeRuleNotFound
  | tooManyFailures
  | limited
  | unavailable
  | unknownAccount
  | internal
deriving DecidableEq

inductive Query where
  | getLatestWebauthnChallenge (userID : Uuid) (purpose : Purpose)
  | listWebauthnCredentialsForUser (userID : Uuid)
  | getWebauthnCredentialByCredentialID (credentialID : String)
  | getPasskeyCredential (credentialID : String)
  | sessionHasProvedCredential (sessionID : Uuid) (credentialID : String)
deriving DecidableEq

def Query.Answer : Query → Type
  | .getLatestWebauthnChallenge _ _ => ChallengeRow
  | .listWebauthnCredentialsForUser _ => List CredentialRow
  | .getWebauthnCredentialByCredentialID _ => CredentialRow
  | .getPasskeyCredential _ => PasskeyRow
  | .sessionHasProvedCredential _ _ => Bool

inductive Op where
  | read (q : Query)
  | write (w : Write)
  | beginTx
  | txWrite (pending : List Write) (w : Write)
  | commit (pending : List Write)
  | now
  | newUUID
  | random (n : Nat)
  | setNonce (key value : String)
  | takeNonce (key : String)
  | deployForCredential (userID : Uuid) (cred : RegisteredCredential)
  | deployByKeyData (keyDataHex : String)
  | attachCredential (smartAccountAddress credentialID : String) (label : Bytes)
  | isSignerOfAccount (credentialID smartAccountAddress : String)
  | accountForCredential (credentialID : String)

@[reducible] def Res : Op → Type
  | .read q => Except DbError q.Answer
  | .write _ => Except DbError Unit
  | .beginTx => Except DbError Unit
  | .txWrite _ _ => Except DbError Write
  | .commit _ => Except DbError Unit
  | .now => Int
  | .newUUID => Uuid
  | .random _ => Bytes
  | .setNonce _ _ => Except DbError Unit
  | .takeNonce _ => Except DbError String
  | .deployForCredential _ _ => Except CallError DeployedAccount
  | .deployByKeyData _ => Except CallError (String × Bool)
  | .attachCredential _ _ _ => Except CallError Unit
  | .isSignerOfAccount _ _ => Except CallError Bool
  | .accountForCredential _ => Except CallError DeployedAccount

section Calls

variable {ε : Type}

open Program (perform)

abbrev runQuery (q : Query) : Program Op Res ε (Except DbError q.Answer) := perform (Op.read q)

abbrev runWrite (w : Write) : Program Op Res ε (Except DbError Unit) := perform (Op.write w)

abbrev beginTx : Program Op Res ε (Except DbError Unit) := perform Op.beginTx

abbrev txWrite (pending : List Write) (w : Write) : Program Op Res ε (Except DbError Write) :=
  perform (Op.txWrite pending w)

abbrev commit (pending : List Write) : Program Op Res ε (Except DbError Unit) :=
  perform (Op.commit pending)

abbrev now : Program Op Res ε Int := perform Op.now

abbrev newUUID : Program Op Res ε Uuid := perform Op.newUUID

abbrev random (n : Nat) : Program Op Res ε Bytes := perform (Op.random n)

abbrev setNonce (key value : String) : Program Op Res ε (Except DbError Unit) :=
  perform (Op.setNonce key value)

abbrev takeNonce (key : String) : Program Op Res ε (Except DbError String) :=
  perform (Op.takeNonce key)

abbrev deployForCredential (userID : Uuid) (cred : RegisteredCredential) :
    Program Op Res ε (Except CallError DeployedAccount) :=
  perform (Op.deployForCredential userID cred)

abbrev deployByKeyData (keyDataHex : String) : Program Op Res ε (Except CallError (String × Bool)) :=
  perform (Op.deployByKeyData keyDataHex)

abbrev attachCredential (smartAccountAddress credentialID : String) (label : Bytes) :
    Program Op Res ε (Except CallError Unit) :=
  perform (Op.attachCredential smartAccountAddress credentialID label)

abbrev isSignerOfAccount (credentialID smartAccountAddress : String) :
    Program Op Res ε (Except CallError Bool) :=
  perform (Op.isSignerOfAccount credentialID smartAccountAddress)

abbrev accountForCredential (credentialID : String) :
    Program Op Res ε (Except CallError DeployedAccount) :=
  perform (Op.accountForCredential credentialID)

end Calls

structure Shared where
  db : Db
  nonces : List (String × String)

inductive Fault where
  | none
  | before
  | after
deriving DecidableEq

/-- Everything the handlers do not control: failing statements, the order of equal
rows, clocks, random draws and the answers of other services. -/
structure Choice where
  fault : Fault := .none
  pick : Nat := 0
  time : Int := 0
  uuid : Uuid := 0
  bytes : Bytes := []
  deployed : Except CallError DeployedAccount := .error .internal
  address : Except CallError (String × Bool) := .error .internal
  attached : Except CallError Unit := .error .internal
  signer : Except CallError Bool := .error .internal

def latest (rows : List ChallengeRow) : List ChallengeRow :=
  rows.filter fun r => rows.all fun r' => decide (r'.createdAt ≤ r.createdAt)

def orNoRows {α : Type} : Option α → Except DbError α := orError .noRows

variable {α : Type} {pick : Nat}

theorem orNoRows_eq_noRows {x : Option α} : orNoRows x = .error .noRows ↔ x = none := by
  cases x <;> simp [orNoRows, orError]

def Query.answer (db : Db) (pick : Nat) : (q : Query) → Except DbError q.Answer
  | .getLatestWebauthnChallenge userID purpose =>
    let rows := latest (db.challenges.rows.filter fun r =>
      r.userID == some userID && r.purpose == purpose)
    orNoRows (rows[pick % rows.length]?)
  | .listWebauthnCredentialsForUser userID =>
    .ok (db.credentials.rows.filter fun r => r.userID == userID)
  | .getWebauthnCredentialByCredentialID credentialID =>
    orNoRows (db.credentials.find fun r => r.credentialID == credentialID)
  | .getPasskeyCredential credentialID =>
    orNoRows (db.passkeys.find fun r => r.credentialID == credentialID)
  | .sessionHasProvedCredential sessionID credentialID =>
    .ok (db.proved.rows.any fun r => r.sessionID == sessionID && r.credentialID == credentialID)

theorem credential_of_answer {db : Db} {c : String} {cred : CredentialRow}
    (h : Query.answer db pick (.getWebauthnCredentialByCredentialID c) = .ok cred) :
    cred ∈ db.credentials.rows ∧ cred.credentialID = c := by
  obtain ⟨hmem, hc⟩ := Table.mem_of_find (orError_eq_ok.mp h)
  exact ⟨hmem, by simpa using hc⟩

theorem no_credential_of_answer {db : Db} {c : String}
    (h : Query.answer db pick (.getWebauthnCredentialByCredentialID c) = .error .noRows) :
    ∀ r ∈ db.credentials.rows, r.credentialID ≠ c := by
  intro r hr
  simpa using Table.find_none (orNoRows_eq_noRows.mp h) hr

theorem challenge_of_answer {db : Db} {userID : Uuid} {purpose : Purpose} {row : ChallengeRow}
    (h : Query.answer db pick (.getLatestWebauthnChallenge userID purpose) = .ok row) :
    row ∈ db.challenges.rows ∧ row.userID = some userID ∧ row.purpose = purpose := by
  have hfound := orError_eq_ok.mp h
  obtain ⟨hmem, hcols⟩ := List.mem_filter.mp (List.mem_filter.mp (List.mem_of_getElem? hfound)).1
  rw [Bool.and_eq_true, beq_iff_eq, beq_iff_eq] at hcols
  exact ⟨hmem, hcols⟩

def settle (s : Shared) (fault : Fault) (db : Option Db) : Except DbError Unit × Shared :=
  match fault, db with
  | .before, _ => (.error .failed, s)
  | _, .none => (.error .failed, s)
  | .none, some db => (.ok (), { s with db := db })
  | .after, some db => (.error .failed, { s with db := db })

def viewOf (db : Db) (pending : List Write) : Db := (applyAll db pending).getD db

def txWriteAnswer (s : Shared) (fault : Fault) (pending : List Write) (w : Write) :
    Except DbError Write :=
  let view := viewOf s.db pending
  let w := w.resolve view
  if fault = .none ∧ (w.apply view).isSome then .ok w else .error .failed

def exec : (op : Op) → Shared → Choice → Res op × Shared
  | .read q, s, c => (if c.fault = .none then q.answer s.db c.pick else .error .failed, s)
  | .write w, s, c => settle s c.fault (w.apply s.db)
  | .beginTx, s, c => (if c.fault = .none then .ok () else .error .failed, s)
  | .txWrite pending w, s, c => (txWriteAnswer s c.fault pending w, s)
  | .commit pending, s, c => settle s c.fault (applyAll s.db pending)
  | .now, s, c => (c.time, s)
  | .newUUID, s, c => (c.uuid, s)
  | .random n, s, c => ((c.bytes ++ List.replicate n 0).take n, s)
  | .setNonce key value, s, c =>
    (if c.fault = .none then .ok () else .error .failed,
      if c.fault = .before then s else { s with nonces := (key, value) :: s.nonces })
  | .takeNonce key, s, c =>
    if c.fault = .none then
      (orNoRows (s.nonces.lookup key), { s with nonces := s.nonces.filter fun n => n.1 != key })
    else (.error .failed,
      if c.fault = .before then s else { s with nonces := s.nonces.filter fun n => n.1 != key })
  | .deployForCredential _ _, s, c => (c.deployed, s)
  | .deployByKeyData _, s, c => (c.address, s)
  | .attachCredential _ _ _, s, c => (c.attached, s)
  | .isSignerOfAccount _ _, s, c => (c.signer, s)
  | .accountForCredential _, s, c => (c.deployed, s)

def Op.effects : Op → List Write
  | .write w => [w]
  | .commit ws => ws
  | _ => []

def Op.stores (op : Op) : List CredentialRow := op.effects.filterMap Write.storedCredential

def Op.indexes (op : Op) : List PasskeyRow := op.effects.filterMap Write.indexedPasskey

theorem mem_stores {op : Op} {row : CredentialRow} :
    row ∈ op.stores ↔ .upsertWebauthnCredential row ∈ op.effects := by
  simp only [Op.stores, List.mem_filterMap]
  constructor
  · rintro ⟨w, hw, hrow⟩
    cases w <;> cases hrow
    exact hw
  · exact fun h => ⟨_, h, rfl⟩

theorem applyAll_singleton (db : Db) (w : Write) : applyAll db [w] = w.apply db := by
  cases h : w.apply db <;> simp [applyAll, h]

theorem settle_db (s : Shared) (fault : Fault) (db : Option Db) :
    (settle s fault db).2.db = s.db ∨ db = some (settle s fault db).2.db := by
  unfold settle
  split <;> simp

theorem exec_db (op : Op) (s : Shared) (c : Choice) :
    (exec op s c).2.db = s.db ∨ applyAll s.db op.effects = some (exec op s c).2.db := by
  cases op with
  | write w =>
    rw [Op.effects, applyAll_singleton]
    exact settle_db s c.fault (w.apply s.db)
  | commit ws => exact settle_db s c.fault (applyAll s.db ws)
  | setNonce key value =>
    left
    simp only [exec]
    split <;> rfl
  | takeNonce key =>
    left
    simp only [exec]
    split
    · rfl
    · split <;> rfl
  | _ => exact .inl rfl

def credentialRead (credentialID : String) (row : CredentialRow) : Event Res :=
  ⟨.read (.getWebauthnCredentialByCredentialID credentialID),
    (.ok row : Except DbError CredentialRow)⟩

def written (w : Write) : Event Res := ⟨.write w, (.ok () : Except DbError Unit)⟩

def committed (ws : List Write) : Event Res := ⟨.commit ws, (.ok () : Except DbError Unit)⟩

def legal : (op : Op) → Res op → Prop
  | .txWrite _ w, .ok w' => ∃ db, w' = w.resolve db
  | _, _ => True

theorem exec_legal (op : Op) (s : Shared) (c : Choice) : legal op (exec op s c).1 := by
  cases op with
  | txWrite ws w =>
    simp only [exec, txWriteAnswer]
    split
    · exact ⟨_, rfl⟩
    · trivial
  | _ => trivial

def guarded (guard : Log Res → Op → Prop) : Program.Discipline Op Res := ⟨legal, guard⟩

section CallLemmas

open Program

variable {ε : Type} {s s' : Shared}

theorem obeys_perform_bind {g : Log Res → Op → Prop} {h : Log Res} {op : Op}
    {f : Res op → Program Op Res ε α} {Q : Log Res → Except ε α → Prop} (hg : g h op)
    (hf : ∀ r, legal op r → Obeys (guarded g) (⟨op, r⟩ :: h) (f r) Q) :
    Obeys (guarded g) h (perform op >>= f) Q := by
  rw [obeys_bind, obeys_perform]
  exact ⟨hg, hf⟩

theorem runs_runWrite_ok (w : Write) (r : Except DbError Unit) :
    Runs exec (runWrite w : Program Op Res ε _) s (.ok r) s' ↔
      ∃ fault, (r, s') = settle s fault (w.apply s.db) := by
  constructor
  · rintro ⟨c, hr, rfl⟩
    obtain rfl := Except.ok.inj hr
    exact ⟨c.fault, rfl⟩
  · rintro ⟨fault, h⟩
    obtain ⟨rfl, rfl⟩ := Prod.mk.inj h
    exact ⟨{ fault := fault }, rfl, rfl⟩

theorem runs_runWrite_done (w : Write) :
    Runs exec (runWrite w : Program Op Res ε _) s (.ok (.ok ())) s' ↔
      ∃ db, w.apply s.db = some db ∧ s' = { s with db := db } := by
  rw [runs_runWrite_ok]
  constructor
  · rintro ⟨fault, h⟩
    unfold settle at h
    split at h
    · cases h
    · cases h
    · rename_i db hw
      exact ⟨db, hw, (Prod.mk.inj h).2⟩
    · cases h
  · rintro ⟨db, hw, rfl⟩
    exact ⟨.none, by rw [hw]; rfl⟩

theorem runs_runQuery_ok (q : Query) (r : Except DbError q.Answer) :
    Runs exec (runQuery q : Program Op Res ε _) s (.ok r) s' ↔
      s' = s ∧ (r = .error .failed ∨ ∃ pick, r = q.answer s.db pick) := by
  constructor
  · rintro ⟨c, hr, rfl⟩
    cases hr
    refine ⟨rfl, ?_⟩
    by_cases hf : c.fault = .none
    · exact .inr ⟨c.pick, if_pos hf⟩
    · exact .inl (if_neg hf)
  · rintro ⟨rfl, rfl | ⟨pick, rfl⟩⟩
    · exact ⟨{ fault := .before }, rfl, rfl⟩
    · exact ⟨{ pick := pick }, rfl, rfl⟩

theorem runs_runQuery_bind {q : Query} {f : Except DbError q.Answer → Program Op Res ε α}
    {out : Except ε α} :
    Runs exec (runQuery q >>= f) s out s' ↔
      ∃ pick fault, Runs exec
        (f (if fault = Fault.none then q.answer s.db pick else .error .failed)) s out s' := by
  constructor
  · rintro ⟨c, h⟩
    exact ⟨c.pick, c.fault, h⟩
  · rintro ⟨pick, fault, h⟩
    exact ⟨{ pick, fault }, h⟩

theorem runs_now_ok (t : Int) : Runs exec (now : Program Op Res ε _) s (.ok t) s' ↔ s' = s := by
  constructor
  · rintro ⟨c, -, rfl⟩
    rfl
  · rintro rfl
    exact ⟨{ time := t }, rfl, rfl⟩

theorem runs_newUUID_ok (u : Uuid) :
    Runs exec (newUUID : Program Op Res ε _) s (.ok u) s' ↔ s' = s := by
  constructor
  · rintro ⟨c, -, rfl⟩
    rfl
  · rintro rfl
    exact ⟨{ uuid := u }, rfl, rfl⟩

end CallLemmas

end LatchApi.Store
