import LatchApi.WebAuthn.Service

namespace LatchApi.WebAuthn

open Lib Program Store Passkey

def sessionTTL : Int := 2592000000

def issueForUser (userID : Uuid) : Service SessionRow := do
  let now ← now
  let id ← newUUID
  let row : SessionRow := ⟨id, userID, now, now + sessionTTL⟩
  execute "insert webapp session for user" (.insertWebappSession row)
  return row

def replaceProvedCredential (sessionID : Uuid) (credentialID : String) : Service Unit := do
  orInternal "begin tx" (← beginTx)
  let ws ← txExecute "clear prior proved credentials" []
    (.deleteSessionProvedCredentialsExcept sessionID credentialID)
  let now ← now
  let ws ← txExecute "insert proved credential" ws
    (.insertSessionProvedCredential ⟨sessionID, credentialID, now⟩)
  orInternal "commit" (← commit ws)

def addProvedCredential (sessionID : Uuid) (credentialID : String) : Service Unit := do
  let now ← now
  execute "insert proved credential"
    (.insertSessionProvedCredential ⟨sessionID, credentialID, now⟩)

def hasProvedCredential (sessionID : Uuid) (credentialID : String) : Service Bool := do
  if credentialID = "" then return false
  else
    let proved : Bool ← orInternal "check proved credential"
      (← runQuery (.sessionHasProvedCredential sessionID credentialID))
    return proved

structure HttpFail where
  status : Nat
  message : String
deriving DecidableEq

abbrev Handler (α : Type) := Program Op Res HttpFail α

def internalError : HttpFail := ⟨500, "internal error"⟩

def failCall : CallError → HttpFail
  | .insufficientFeeBalance => ⟨400, "not enough XLM or USDC to pay the network fee: add XLM or USDC"⟩
  | .feeQuoteStale => ⟨409, "the network fee changed: review the transaction and sign again"⟩
  | .feeRuleNotFound =>
    ⟨400, "this signer can't authorize the network fee payment for this wallet"⟩
  | .tooManyFailures =>
    ⟨429, "too many recent transactions from this wallet failed, please try again later"⟩
  | .limited => ⟨429, "sponsorship limit reached, please try again later"⟩
  | .unavailable => ⟨503, "transaction service is temporarily unavailable, please retry"⟩
  | .unknownAccount => ⟨404, "unknown smart account"⟩
  | .internal => internalError

structure SessionContext where
  sessionID : Uuid
  userID : Uuid
deriving DecidableEq

structure FinishRegistrationRequest where
  rawID : Encoded Bytes
  clientDataJSON : Encoded Bytes
  attestationObject : Encoded Bytes
  transports : List String
  chromeExtensionID : String
  extensionIDHeader : String
  displayName : String
  seq : Int
  callerCredentialID : String

structure FinishAuthenticationRequest where
  rawID : Encoded Bytes
  clientDataJSON : Encoded Bytes
  authenticatorData : Encoded Bytes
  signature : Encoded Bytes
  chromeExtensionID : String
  extensionIDHeader : String

def decodeField (name : String) (field : Encoded Bytes) : Except HttpFail Bytes :=
  match field.decode with
  | some bytes => .ok bytes
  | none => .error ⟨400, "invalid " ++ name ++ " encoding"⟩

def bindBody {α : Type} : Option α → Except HttpFail α
  | some body => .ok body
  | none => .error ⟨400, "invalid request body"⟩

variable (L : Libraries) (cfg : WebAuthnConfig) (ctx : SessionContext) (input : CeremonyBeginInput)

def registrationInput (req : FinishRegistrationRequest) :
    Except HttpFail FinishRegistrationInput := do
  let rawID ← decodeField "rawId" req.rawID
  let clientDataJSON ← decodeField "clientDataJSON" req.clientDataJSON
  let attestationObject ← decodeField "attestationObject" req.attestationObject
  return { userID := .of ctx.userID, credentialID := rawID, clientDataJSON := clientDataJSON
           attestationObject := attestationObject, transports := req.transports
           chromeExtensionIDFromBody := req.chromeExtensionID
           extensionIDHeader := req.extensionIDHeader, config := cfg }

def authenticationInput (req : FinishAuthenticationRequest) :
    Except HttpFail FinishAuthenticationInput := do
  let rawID ← decodeField "rawId" req.rawID
  let clientDataJSON ← decodeField "clientDataJSON" req.clientDataJSON
  let authenticatorData ← decodeField "authenticatorData" req.authenticatorData
  let signature ← decodeField "signature" req.signature
  return { userID := .of ctx.userID, credentialID := rawID, clientDataJSON := clientDataJSON
           authenticatorData := authenticatorData, signature := signature
           chromeExtensionIDFromBody := req.chromeExtensionID
           extensionIDHeader := req.extensionIDHeader, config := cfg }

def labelOf (displayName : String) : Option String :=
  let label := trimSpace displayName
  if label.utf8ByteSize ≤ 256 then some label
  else String.fromUTF8? ⟨((textBytes label).take 256).toArray⟩

/-- The label may be cut inside a character; the database then refuses it. -/
def attachedLabel (displayName : String) : Bytes := (textBytes (trimSpace displayName)).take 256

inductive Reply where
  | begun (options : BeginOptions)
  | registered (cred : RegisteredCredential) (account : DeployedAccount)
  | attached (cred : RegisteredCredential) (keyDataHex : String)
  | authenticated (cred : AuthenticatedCredential) (sessionID : Uuid) (account : DeployedAccount)

def finishRegistrationOrFail (input : FinishRegistrationInput) : Handler RegisteredCredential := do
  match ← (finishRegistration L input).attempt with
  | .error _ => .fail ⟨400, "webauthn verification failed"⟩
  | .ok cred => return cred

def callOrFail {α : Type} : Except CallError α → Handler α := orFail failCall

def registerBestEffort (keyDataHex address : String) (label : Option String) (seq : Int) :
    Handler Unit := do
  match label with
  | none => return ()
  | some label =>
    let _ ← (register keyDataHex address label seq).attempt
    return ()

def registrationFinish (body : Option FinishRegistrationRequest) : Handler Reply := do
  let req ← ofExcept (bindBody body)
  let input ← ofExcept (registrationInput cfg ctx req)
  let cred ← finishRegistrationOrFail L input
  let account ← callOrFail (← deployForCredential ctx.userID cred)
  registerBestEffort account.keyDataHex account.smartAccountAddress (labelOf req.displayName) req.seq
  let _ ← (addProvedCredential ctx.sessionID cred.credentialID).attempt
  return .registered cred account

def requireProvedSigner (callerCredentialID smartAccountAddress : String) : Handler Unit := do
  if callerCredentialID = "" then
    .fail ⟨401, "prove this passkey in this session before changing signers"⟩
  else
    match ← (hasProvedCredential ctx.sessionID callerCredentialID).attempt with
    | .error _ => .fail internalError
    | .ok false => .fail ⟨403, "prove this passkey in this session before changing signers"⟩
    | .ok true =>
      let isSigner ← callOrFail (← isSignerOfAccount callerCredentialID smartAccountAddress)
      if isSigner then return ()
      else .fail ⟨403, "you are not an authorized signer of this account"⟩

def buildKeyDataHex (rawPubKey credentialIDBytes : Bytes) : String :=
  hexEncode rawPubKey ++ hexEncode credentialIDBytes

def attachSignerFinish (smartAccountAddress : String) (body : Option FinishRegistrationRequest) :
    Handler Reply := do
  let req ← ofExcept (bindBody body)
  requireProvedSigner ctx req.callerCredentialID smartAccountAddress
  let input ← ofExcept (registrationInput cfg ctx req)
  let cred ← finishRegistrationOrFail L input
  callOrFail (← attachCredential smartAccountAddress cred.credentialID (attachedLabel req.displayName))
  let _ ← (addProvedCredential ctx.sessionID cred.credentialID).attempt
  return .attached cred (buildKeyDataHex cred.rawPublicKey input.credentialID)

def sessionFor (cred : AuthenticatedCredential) : Handler Uuid := do
  if cred.userID = ctx.userID then return ctx.sessionID
  else
    match ← (issueForUser cred.userID).attempt with
    | .error _ => .fail internalError
    | .ok session => return session.id

def authenticationFinish (body : Option FinishAuthenticationRequest) : Handler Reply := do
  let req ← ofExcept (bindBody body)
  let input ← ofExcept (authenticationInput cfg ctx req)
  match ← (finishAuthentication L input).attempt with
  | .error _ => .fail ⟨400, "webauthn verification failed"⟩
  | .ok cred =>
    let sessionID ← sessionFor ctx cred
    match ← (replaceProvedCredential sessionID cred.credentialID).attempt with
    | .error _ => .fail internalError
    | .ok () =>
      let account ← callOrFail (← accountForCredential cred.credentialID)
      return .authenticated cred sessionID account

def ceremonyBegin (start : (rpID origin : String) → Service BeginOptions) : Handler Reply := do
  match resolveCeremonyContext L input cfg with
  | .error _ => .fail ⟨400, "conflicting chrome extension id sources"⟩
  | .ok (rpID, origin) =>
    match ← (start rpID origin).attempt with
    | .error _ => .fail internalError
    | .ok options => return .begun options

def registrationBegin : Handler Reply :=
  ceremonyBegin L cfg input (beginRegistration (.of ctx.userID))

def authenticationBegin : Handler Reply :=
  ceremonyBegin L cfg input (beginAuthentication (.of ctx.userID))

end LatchApi.WebAuthn
