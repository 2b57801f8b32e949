import LatchApi.Passkey.Index
import LatchApi.WebAuthn.Ceremony

namespace LatchApi.WebAuthn

open Lib Program Store Passkey

abbrev Service (α : Type) := Program Op Res CeremonyError α

def challengeTTL : Int := 300000

def orInternal {α : Type} (context : String) : Except DbError α → Service α :=
  orFail fun _ => .internal context

def parseUserID (userID : Encoded Uuid) : Service Uuid :=
  match userID.decode with
  | some uid => .ok uid
  | none => .fail (.internal "parse user id")

def execute (context : String) (w : Write) : Service Unit := do
  orInternal context (← runWrite w)

def issueChallenge (userID : Encoded Uuid) (purpose : Purpose) (rpID origin : String) :
    Service String := do
  let raw ← random 32
  let challengeB64 := base64UrlEncode raw
  let uid ← parseUserID userID
  let now ← now
  let id ← newUUID
  execute "store challenge" (.insertWebauthnChallenge
    { id := id, userID := some uid, purpose := purpose, challenge := challengeB64
      rpID := rpID, origin := origin, expiresAt := now + challengeTTL, createdAt := now })
  return challengeB64

def unexpired (row : ChallengeRow) (now : Int) : Except CeremonyError ChallengeRow :=
  if row.expiresAt ≤ now then .error .challengeExpired else .ok row

def getActiveChallenge (userID : Encoded Uuid) (purpose : Purpose) : Service ChallengeRow := do
  let uid ← parseUserID userID
  match ← runQuery (.getLatestWebauthnChallenge uid purpose) with
  | .error _ => .fail .challengeNotFound
  | .ok row => do ofExcept (unexpired row (← now))

def consumeChallenge (id : Uuid) : Service Unit :=
  execute "delete consumed challenge" (.deleteWebauthnChallenge id)

structure BeginOptions where
  challenge : String
  rpID : String
  userID : Bytes
  credentials : List String
  timeout : Nat

def beginCeremony (purpose : Purpose) (userID : Encoded Uuid) (rpID origin : String) :
    Service (String × List String) := do
  let challengeB64 ← issueChallenge userID purpose rpID origin
  let uid ← parseUserID userID
  let rows : List CredentialRow ←
    orInternal "list credentials" (← runQuery (.listWebauthnCredentialsForUser uid))
  return (challengeB64, rows.map CredentialRow.credentialID)

def beginRegistration (userID : Encoded Uuid) (rpID origin : String) : Service BeginOptions := do
  let (challenge, exclude) ← beginCeremony .registration userID rpID origin
  let handle ← random 16
  return { challenge := challenge, rpID := rpID, userID := handle, credentials := exclude
           timeout := 60000 }

def beginAuthentication (userID : Encoded Uuid) (rpID origin : String) : Service BeginOptions := do
  let (challenge, allowed) ← beginCeremony .authentication userID rpID origin
  return { challenge := challenge, rpID := rpID, userID := [], credentials := allowed
           timeout := 60000 }

def registeredRow (id uid : Uuid) (a : AttestedCredential) (transports : List String)
    (now : Int) : CredentialRow :=
  { id := id
    userID := uid
    credentialID := base64UrlEncode a.credentialID
    credentialIDBytes := a.credentialID
    cosePublicKey := a.cosePublicKey
    p256RawPublicKey := a.rawPublicKey
    signCount := a.signCount
    transports := if transports.isEmpty then none else some transports
    deviceType := none
    backedUp := 0
    createdAt := now }

def storeRegistration (input : FinishRegistrationInput) (challenge : ChallengeRow)
    (a : AttestedCredential) : Service RegisteredCredential := do
  consumeChallenge challenge.id
  let uid ← parseUserID input.userID
  let id ← newUUID
  let now ← now
  execute "store webauthn credential"
    (.upsertWebauthnCredential (registeredRow id uid a input.transports now))
  return { credentialID := base64UrlEncode a.credentialID, rawPublicKey := a.rawPublicKey
           cosePublicKey := a.cosePublicKey }

def finishRegistration (L : Libraries) (input : FinishRegistrationInput) :
    Service RegisteredCredential := do
  let challenge ← getActiveChallenge input.userID .registration
  let a ← ofExcept (verifyRegistration L input challenge)
  storeRegistration input challenge a

structure AuthenticatedCredential where
  credentialID : String
  userID : Uuid
deriving DecidableEq

def indexedPublicKey (keyDataHex : String) : Except CeremonyError Bytes :=
  if keyDataHex.utf8ByteSize ≤ webauthnPubKeyHexLen then
    .error (.verificationFailed "indexed key data too short")
  else
    match hexDecode (publicKeyHex keyDataHex) with
    | none => .error (.verificationFailed "indexed key data not hex")
    | some pubKey => .ok pubKey

def deriveWebauthnSalt (keyDataHex : String) : Bytes := sha256 (textBytes (keyDataHex ++ "webauthn-v1"))

def adoptedRow (id owner : Uuid) (credentialIDB64 : String) (credentialID cose pubKey : Bytes)
    (signCount : Nat) (now : Int) : CredentialRow :=
  { id := id
    userID := owner
    credentialID := credentialIDB64
    credentialIDBytes := credentialID
    cosePublicKey := cose
    p256RawPublicKey := pubKey
    signCount := signCount
    transports := none
    deviceType := none
    backedUp := 1
    createdAt := now }

def adoptedAccount (id owner : Uuid) (credentialIDB64 : String) (row : PasskeyRow) (now : Int) :
    SmartAccountRow :=
  { id := id
    userID := owner
    credentialID := credentialIDB64
    keyDataHex := row.keyDataHex
    saltHex := hexEncode (deriveWebauthnSalt row.keyDataHex)
    smartAccountAddress := row.smartAccountAddress
    deployed := 1
    createdAt := now }

def txExecute (context : String) (pending : List Write) (w : Write) : Service (List Write) := do
  let w ← orInternal context (← txWrite pending w)
  return pending ++ [w]

variable (L : Libraries) (input : FinishAuthenticationInput)

def adoptionTx (row : PasskeyRow) (pubKey cose : Bytes) (signCount : Nat) (credentialIDB64 : String) :
    Service AuthenticatedCredential := do
  orInternal "begin tx" (← beginTx)
  let now ← now
  let owner ← newUUID
  let ws ← txExecute "create user for adopted passkey" [] (.insertWebappUser ⟨owner, now⟩)
  let id ← newUUID
  let ws ← txExecute "store adopted webauthn credential" ws (.upsertWebauthnCredential
    (adoptedRow id owner credentialIDB64 input.credentialID cose pubKey signCount now))
  let id ← newUUID
  let ws ← txExecute "store adopted smart account" ws (.upsertSmartAccount
    (adoptedAccount id owner credentialIDB64 row now))
  let ws ← txExecute "relink multisig members" ws
    (.relinkMultisigMembersByCredential owner credentialIDB64)
  orInternal "commit" (← commit ws)
  return ⟨credentialIDB64, owner⟩

def requireSignature (pubKey : Bytes) : Except CeremonyError Unit :=
  if input.signedBy L pubKey then .ok ()
  else .error (.verificationFailed "signature verification failed")

def requireSignCount (received : Nat) (stored : Int) : Except CeremonyError Unit :=
  if (received ≠ 0 ∨ stored ≠ 0) ∧ (received : Int) ≤ stored then
    .error (.verificationFailed "sign count did not increase (possible cloned authenticator)")
  else .ok ()

def adoptIndexed (challenge : ChallengeRow) (authData : AuthenticatorData)
    (credentialIDB64 : String) (row : PasskeyRow) :
    Service AuthenticatedCredential := do
  let pubKey ← ofExcept (indexedPublicKey row.keyDataHex)
  ofExcept (requireSignature L input pubKey)
  consumeChallenge challenge.id
  match rawP256ToCoseEC2 L pubKey with
  | .error _ => .fail (.internal "encode cose key")
  | .ok cose => adoptionTx input row pubKey cose authData.signCount credentialIDB64

def adoptExternalPasskey (challenge : ChallengeRow) (authData : AuthenticatorData)
    (credentialIDB64 : String) :
    Service AuthenticatedCredential := do
  match ← runQuery (.getPasskeyCredential (hexEncode input.credentialID)) with
  | .error .noRows => .fail (.credentialNotFound "no row for credential id")
  | .error .failed => .fail (.internal "get passkey credential index")
  | .ok row => adoptIndexed L input challenge authData credentialIDB64 row

def authenticateStored (challenge : ChallengeRow) (authData : AuthenticatorData)
    (credentialIDB64 : String) (cred : CredentialRow) : Service AuthenticatedCredential := do
  ofExcept (requireSignature L input cred.p256RawPublicKey)
  ofExcept (requireSignCount authData.signCount cred.signCount)
  consumeChallenge challenge.id
  execute "update sign count"
    (.updateWebauthnCredentialSignCount credentialIDB64 authData.signCount)
  execute "relink multisig members"
    (.relinkMultisigMembersByCredential cred.userID credentialIDB64)
  return ⟨credentialIDB64, cred.userID⟩

def finishAuthentication : Service AuthenticatedCredential := do
  let challenge ← getActiveChallenge input.userID .authentication
  let authData ← ofExcept (verifyAssertionData L input challenge)
  let credentialIDB64 := base64UrlEncode input.credentialID
  match ← runQuery (.getWebauthnCredentialByCredentialID credentialIDB64) with
  | .error .noRows => adoptExternalPasskey L input challenge authData credentialIDB64
  | .error .failed => .fail (.internal "get webauthn credential")
  | .ok cred => authenticateStored L input challenge authData credentialIDB64 cred

end LatchApi.WebAuthn
