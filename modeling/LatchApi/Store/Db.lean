import LatchApi.Lib.Table
import LatchApi.Lib.Encoding

/-!
The tables of the passkey sign-in flows and the statements that change them. Foreign keys are left
out: each is one more reason for a statement to fail, and every statement may fail.
-/

namespace LatchApi.Store

open Lib

abbrev Uuid := Nat

inductive Purpose where
  | registration
  | authentication
deriving DecidableEq

structure UserRow where
  id : Uuid
  createdAt : Int
deriving DecidableEq

structure SessionRow where
  id : Uuid
  userID : Uuid
  createdAt : Int
  expiresAt : Int
deriving DecidableEq

structure ChallengeRow where
  id : Uuid
  userID : Option Uuid
  purpose : Purpose
  challenge : String
  rpID : String
  origin : String
  expiresAt : Int
  createdAt : Int
deriving DecidableEq

structure CredentialRow where
  id : Uuid
  userID : Uuid
  credentialID : String
  credentialIDBytes : Bytes
  cosePublicKey : Bytes
  p256RawPublicKey : Bytes
  signCount : Int
  transports : Option (List String)
  deviceType : Option String
  backedUp : Nat
  createdAt : Int
deriving DecidableEq

structure ProvedRow where
  sessionID : Uuid
  credentialID : String
  provedAt : Int
deriving DecidableEq

structure PasskeyRow where
  credentialID : String
  keyDataHex : String
  smartAccountAddress : String
  label : String
  seq : Int
deriving DecidableEq

structure SmartAccountRow where
  id : Uuid
  userID : Uuid
  credentialID : String
  keyDataHex : String
  saltHex : String
  smartAccountAddress : String
  deployed : Nat
  createdAt : Int
deriving DecidableEq

structure MemberLinkRow where
  id : Uuid
  userID : Option Uuid
  credentialID : Option String
deriving DecidableEq

def ProvedRow.key (r : ProvedRow) : Uuid × String := (r.sessionID, r.credentialID)

structure Db where
  users : Table UserRow Uuid Uuid UserRow.id UserRow.id
  sessions : Table SessionRow Uuid Uuid SessionRow.id SessionRow.id
  challenges : Table ChallengeRow Uuid Uuid ChallengeRow.id ChallengeRow.id
  credentials : Table CredentialRow Uuid String CredentialRow.id CredentialRow.credentialID
  proved : Table ProvedRow (Uuid × String) (Uuid × String) ProvedRow.key ProvedRow.key
  passkeys : Table PasskeyRow String String PasskeyRow.credentialID PasskeyRow.credentialID
  smartAccounts :
    Table SmartAccountRow Uuid String SmartAccountRow.id SmartAccountRow.credentialID
  members : Table MemberLinkRow Uuid Uuid MemberLinkRow.id MemberLinkRow.id

def Db.empty : Db :=
  ⟨.empty, .empty, .empty, .empty, .empty, .empty, .empty, .empty⟩

inductive Write where
  | insertWebappUser (row : UserRow)
  | insertWebappSession (row : SessionRow)
  | insertWebauthnChallenge (row : ChallengeRow)
  | deleteWebauthnChallenge (id : Uuid)
  | upsertWebauthnCredential (row : CredentialRow)
  | updateWebauthnCredentialSignCount (credentialID : String) (signCount : Int)
  | upsertSmartAccount (row : SmartAccountRow)
  | relinkMultisigMembersByCredential (userID : Uuid) (credentialID : String)
  | deleteSessionProvedCredentialsExcept (sessionID : Uuid) (credentialID : String)
  | deleteSessionProvedCredentials (keys : List (Uuid × String))
  | insertSessionProvedCredential (row : ProvedRow)
  | upsertPasskeyCredential (row : PasskeyRow)
deriving DecidableEq

def Write.Routine : Write → Prop
  | .upsertWebauthnCredential _ => False
  | .insertSessionProvedCredential _ => False
  | _ => True

def Write.storedCredential : Write → Option CredentialRow
  | .upsertWebauthnCredential row => some row
  | _ => none

def Write.indexedPasskey : Write → Option PasskeyRow
  | .upsertPasskeyCredential row => some row
  | _ => none

def CredentialRow.overwrite (row old : CredentialRow) : CredentialRow :=
  { old with
    cosePublicKey := row.cosePublicKey
    p256RawPublicKey := row.p256RawPublicKey
    signCount := row.signCount
    transports := row.transports
    deviceType := row.deviceType
    backedUp := row.backedUp }

def PasskeyRow.overwrite (row old : PasskeyRow) : PasskeyRow :=
  { old with
    keyDataHex := row.keyDataHex
    smartAccountAddress := row.smartAccountAddress
    label := row.label
    seq := row.seq }

def Write.apply (db : Db) : Write → Option Db
  | .insertWebappUser row => (db.users.insert row).map fun t => { db with users := t }
  | .insertWebappSession row => (db.sessions.insert row).map fun t => { db with sessions := t }
  | .insertWebauthnChallenge row =>
    (db.challenges.insert row).map fun t => { db with challenges := t }
  | .deleteWebauthnChallenge id =>
    some { db with challenges := db.challenges.delete fun r => r.id == id }
  | .upsertWebauthnCredential row =>
    (db.credentials.upsert row row.overwrite fun _ => ⟨rfl, rfl⟩).map
      fun t => { db with credentials := t }
  | .updateWebauthnCredentialSignCount credentialID signCount =>
    some { db with
      credentials := db.credentials.update (fun r => r.credentialID == credentialID)
        (fun r => { r with signCount := signCount }) fun _ => ⟨rfl, rfl⟩ }
  | .upsertSmartAccount row =>
    (db.smartAccounts.upsert row (fun r => { r with deployed := row.deployed })
      fun _ => ⟨rfl, rfl⟩).map fun t => { db with smartAccounts := t }
  | .relinkMultisigMembersByCredential userID credentialID =>
    some { db with
      members := db.members.update (fun r => r.credentialID == some credentialID)
        (fun r => { r with userID := some userID }) fun _ => ⟨rfl, rfl⟩ }
  | .deleteSessionProvedCredentialsExcept sessionID credentialID =>
    some { db with
      proved := db.proved.delete fun r => r.sessionID == sessionID && r.credentialID != credentialID }
  | .deleteSessionProvedCredentials keys =>
    some { db with proved := db.proved.delete fun r => decide (r.key ∈ keys) }
  | .insertSessionProvedCredential row =>
    (db.proved.upsert row (fun r => { r with provedAt := row.provedAt }) fun _ => ⟨rfl, rfl⟩).map
      fun t => { db with proved := t }
  | .upsertPasskeyCredential row =>
    (db.passkeys.upsert row row.overwrite fun _ => ⟨rfl, rfl⟩).map fun t => { db with passkeys := t }

def applyAll (db : Db) : List Write → Option Db
  | [] => some db
  | w :: ws => (w.apply db).bind fun db' => applyAll db' ws

def Write.resolve (db : Db) : Write → Write
  | .deleteSessionProvedCredentialsExcept sessionID credentialID =>
    .deleteSessionProvedCredentials ((db.proved.rows.filter fun r =>
      r.sessionID == sessionID && r.credentialID != credentialID).map ProvedRow.key)
  | w => w

end LatchApi.Store
