import LatchApi.Auth.Tokens
import LatchApi.Lib.Interleaving
import LatchApi.Lib.ReadCommitted
import LatchApi.Lib.Reply
import LatchApi.Lib.StrKey

namespace LatchApi.Auth

open Lib Program

structure RefreshTokenRow where
  userID : Option String
  walletAddress : Option String
  expiresAt : Int
  revoked : Bool := false
deriving DecidableEq

inductive QueryError where
  | noRows
  | failed
deriving DecidableEq

inductive Op where
  | beginTx
  | getRefreshToken (tx : Nat) (tokenHash : String)
  | revokeRefreshToken (tx : Option Nat) (tokenHash : String)
  | insertRefreshToken (tx : Nat) (tokenHash : String) (row : RefreshTokenRow)
  | commit (tx : Nat)
  | rollback (tx : Nat)
  | now
  | randRead (n : Nat)

@[reducible] def Res : Op → Type
  | .beginTx => Except QueryError Nat
  | .getRefreshToken _ _ => Except QueryError RefreshTokenRow
  | .revokeRefreshToken _ _ => Except QueryError Unit
  | .insertRefreshToken _ _ _ => Except QueryError Unit
  | .commit _ => Except QueryError Unit
  | .rollback _ => Unit
  | .now => Int
  | .randRead _ => Except QueryError Bytes

inductive RefreshError where
  | invalidRefreshToken
  | failed (context : String)
deriving DecidableEq

abbrev RefreshProgram (α : Type) := Program Op Res RefreshError α

structure AuthService where
  mac : Mac
  jwtSecret : String
  accessTTL : Int
  refreshTTL : Int

structure RotatedTokens where
  subject : String
  accessToken : Jwt
  refreshToken : String

def hashToken (raw : String) : String := hexEncode (sha256 (textBytes raw))

def keyTypeForWallet (wallet : String) : String :=
  if (strkeyDecode versionAccount wallet).isSome then "ed25519"
  else if (strkeyDecode versionContract wallet).isSome then "passkey"
  else ""

def orFailed {α : Type} (context : String) : Except QueryError α → RefreshProgram α :=
  orFail fun _ => .failed context

section Service

variable (svc : AuthService)

-- A wallet's token carries its address, every other one the user's id.
def insertRotated (tx : Nat) (newHash : String) (owner : String ⊕ String) : RefreshProgram Unit := do
  let t ← perform Op.now
  match owner with
  | .inl wallet =>
    orFailed "insert new wallet refresh token"
      (← perform (Op.insertRefreshToken tx newHash ⟨none, some wallet, t + svc.refreshTTL, false⟩))
  | .inr uid =>
    orFailed "insert new refresh token"
      (← perform (Op.insertRefreshToken tx newHash ⟨some uid, none, t + svc.refreshTTL, false⟩))

def accessTokenFor (owner : String ⊕ String) (t u : Int) : Jwt :=
  match owner with
  | .inl wallet =>
    issueWalletAccessToken svc.mac svc.jwtSecret svc.accessTTL wallet (keyTypeForWallet wallet) t u
  | .inr uid => issueAccessToken svc.mac svc.jwtSecret svc.accessTTL uid t u

def replaceToken (tx : Nat) (newRawToken : String) (owner : String ⊕ String) :
    RefreshProgram RotatedTokens := do
  insertRotated svc tx (hashToken newRawToken) owner
  orFailed "commit" (← perform (Op.commit tx))
  let t ← perform Op.now
  let u ← perform Op.now
  return ⟨owner.elim id id, accessTokenFor svc owner t u, newRawToken⟩

def owner (row : RefreshTokenRow) : Except RefreshError (String ⊕ String) :=
  match row.walletAddress, row.userID with
  | some wallet, _ => .ok (.inl wallet)
  | none, some uid => .ok (.inr uid)
  | none, none => .error .invalidRefreshToken

def revokeOld (tx : Nat) (tokenHash : String) (row : RefreshTokenRow) : RefreshProgram String := do
  -- the clock is read only for a row that is not revoked
  if row.revoked then .fail .invalidRefreshToken
  else
    let now ← perform Op.now
    if row.expiresAt < now then .fail .invalidRefreshToken
    else
      orFailed "revoke old refresh token" (← perform (Op.revokeRefreshToken (some tx) tokenHash))
      let raw ← orFailed "generate random bytes" (← perform (Op.randRead 32))
      return hexEncode raw

def rotateIn (rawToken : String) (tx : Nat) : RefreshProgram RotatedTokens := do
  match ← perform (Op.getRefreshToken tx (hashToken rawToken)) with
  | .error _ => .fail .invalidRefreshToken
  | .ok row =>
    let newRawToken ← revokeOld tx (hashToken rawToken) row
    let owner ← ofExcept (owner row)
    replaceToken svc tx newRawToken owner

def rotateRefreshToken (rawToken : String) : RefreshProgram RotatedTokens := do
  let tx ← orFailed "begin tx" (← perform Op.beginTx)
  let out ← (rotateIn svc rawToken tx).attempt
  -- deferred; it does nothing once the transaction has ended
  perform (Op.rollback tx)
  ofExcept out

def revokeRefreshToken (rawToken : String) : RefreshProgram Unit := do
  orFailed "revoke refresh token" (← perform (Op.revokeRefreshToken none (hashToken rawToken)))

end Service

structure Db where
  store : TxStore String RefreshTokenRow
  time : Int

structure Choice where
  reply : Reply := .done
  bytes : Bytes := []

def RefreshTokenRow.revoke (row : RefreshTokenRow) : RefreshTokenRow := { row with revoked := true }

def Db.revoke (s : Db) (tx : Option Nat) (k : String) : Db :=
  match tx with
  | some tx =>
    match s.store.view tx k with
    | some row => { s with store := s.store.write tx k (some row.revoke) }
    | none => s
  | none =>
    match s.store.committed k with
    | some row => { s with store := s.store.autocommit k (some row.revoke) }
    | none => s

def exec (op : Op) (s : Db) (ch : Choice) : Res op × Db :=
  match op with
  | .beginTx => replied .failed ch.reply s.store.next s { s with store := s.store.begin }
  | .getRefreshToken tx k =>
    match ch.reply, decide (tx ∈ s.store.opened), s.store.view tx k with
    | .done, true, some row => (.ok row, s)
    | .done, true, none => (.error .noRows, s)
    | _, _, _ => (.error .failed, s)
  | .revokeRefreshToken (some tx) k =>
    if tx ∈ s.store.opened then replied .failed ch.reply () s (s.revoke (some tx) k)
    else (.error .failed, s)
  | .revokeRefreshToken none k => replied .failed ch.reply () s (s.revoke none k)
  | .insertRefreshToken tx k row =>
    -- `token_hash` is unique
    if tx ∈ s.store.opened ∧ (s.store.view tx k).isNone then
      replied .failed ch.reply () s { s with store := s.store.write tx k (some row) }
    else (.error .failed, s)
  | .commit tx =>
    if tx ∈ s.store.opened then
      replied .failed ch.reply () { s with store := s.store.close tx } { s with store := s.store.commit tx }
    else (.error .failed, s)
  | .rollback tx => ((), { s with store := s.store.close tx })
  | .now => (s.time, s)
  | .randRead _ => (if ch.reply = .done then .ok ch.bytes else .error .failed, s)

inductive Outside where
  | tick (d : Nat)
  | abort (tx : Nat)

def outside : Outside → Db → Option Db
  | .tick d, s => some { s with time := s.time + d }
  | .abort tx, s => some { s with store := s.store.close tx }

inductive Request where
  | rotate
  | revoke
deriving DecidableEq

inductive Answer where
  | pair (tokens : RotatedTokens)
  | revoked

def refreshSystem (svc : AuthService) (rawToken : String) :
    System Request Op Res RefreshError Answer Db Choice Outside where
  body
    | .rotate => do return .pair (← rotateRefreshToken svc rawToken)
    | .revoke => do
      revokeRefreshToken rawToken
      return .revoked
  exec _ op s ch := exec op s ch
  world := outside

abbrev RefreshThread := Thread Request Op Res RefreshError Answer

def rowLocks : System.Schedule Request Op Res RefreshError Answer Db := fun s _ _ op =>
  match op with
  | .revokeRefreshToken tx k => s.store.Free tx k
  | .insertRefreshToken tx k _ => s.store.Free (some tx) k
  | _ => True

instance (s : Db) (others : List RefreshThread) (t : RefreshThread) (op : Op) :
    Decidable (rowLocks s others t op) := by
  unfold rowLocks
  cases op <;> infer_instance

end LatchApi.Auth
