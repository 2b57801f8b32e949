import LatchApi.Deploy.Proof

namespace LatchApi.Nonce

open Lib Program Store Passkey WebAuthn
  Deploy

inductive SignerReadError where
  | noWebAuthnSigner
  | failed
deriving DecidableEq

inductive FlowOp where
  | store (op : Store.Op)
  | webAuthnSignerKeys (wallet : String)
  | issueWalletTokenPair (wallet keyType : String)

@[reducible] def FlowRes : FlowOp → Type
  | .store op => Store.Res op
  | .webAuthnSignerKeys _ => Except SignerReadError (List Bytes)
  | .issueWalletTokenPair _ _ => Except DbError Unit

inductive FlowError where
  | proof (e : ProofError)
  | network (e : NetworkError)
  | credentialNotFound
  | internal (context : String)
deriving DecidableEq

abbrev Flow (α : Type) := Program FlowOp FlowRes FlowError α

def ofProof {α : Type} : ProofService α → Flow α
  | .ok a => .ok a
  | .fail e => .fail (.proof e)
  | .call op next => .call (.store op) fun r => ofProof (next r)

def orProofError {α : Type} : Except ProofError α → Flow α := orFail .proof

inductive WalletKeyType where
  | ed25519
  | passkey
  | other (name : String)
deriving DecidableEq

def WalletKeyType.name : WalletKeyType → String
  | .ed25519 => "ed25519"
  | .passkey => "passkey"
  | .other name => name

def validWalletShape (wallet : String) : WalletKeyType → Bool
  | .ed25519 => (strkeyDecode versionAccount wallet).isSome
  | .passkey => (strkeyDecode versionContract wallet).isSome
  | .other _ => false

variable (L : Libraries) (cfg : DeployConfig) (input : WalletSignInInput)

def checkWallet (wallet : String) (keyType : WalletKeyType) (network : String) :
    Except FlowError Network :=
  if !validWalletShape wallet keyType then
    .error (.proof (.invalidWallet "wallet does not match key_type"))
  else
    match resolveNetwork cfg network with
    | .error e => .error (.network e)
    | .ok network => .ok network

def walletNonceTTL : Nat := 60

def walletChallenge (cfg : DeployConfig) (wallet : String) (keyType : WalletKeyType)
    (network : String) : Flow (String × Nat × Network) := do
  let network ← ofExcept (checkWallet cfg wallet keyType network)
  let nonceHex ← ofProof (issueNonce wallet keyType.name network.name)
  match hexDecode nonceHex with
  | none => .fail (.internal "decode nonce")
  | some nonce => return (base64UrlEncode nonce, walletNonceTTL, network)

structure WalletSignInInput where
  wallet : String
  keyType : WalletKeyType
  network : String
  nonceB64URL : Encoded Bytes
  signature : Bytes
  assertion : Assertion

def signInNonce : Except FlowError Bytes :=
  match input.nonceB64URL.decode with
  | none => .error (.proof .nonceInvalid)
  | some nonce => if nonce = [] then .error (.proof .nonceInvalid) else .ok nonce

def verifyPasskey (nonce : Bytes) : Flow Unit := do
  match ← perform (FlowOp.webAuthnSignerKeys input.wallet) with
  | .error .noWebAuthnSigner =>
    .fail (.proof (.badSignature "no webauthn signer registered for wallet"))
  | .error .failed => .fail (.internal "read webauthn signer keys")
  | .ok keys =>
    orProofError (verifyWebAuthnAssertion L keys nonce input.assertion cfg.allowedOrigins)

def verifyWallet (E : Ed25519Verify) (cfg : DeployConfig) (input : WalletSignInInput)
    (nonce : Bytes) : Flow Unit :=
  match input.keyType with
  | .ed25519 => orProofError (verifyEd25519 E input.wallet nonce input.signature)
  | .passkey => verifyPasskey L cfg input nonce
  | .other _ => .fail (.proof .unsupportedKeyType)

def signIn (E : Ed25519Verify) (cfg : DeployConfig) (input : WalletSignInInput) : Flow Unit := do
  let network ← ofExcept (checkWallet cfg input.wallet input.keyType input.network)
  let nonce ← ofExcept (signInNonce input)
  ofProof (consumeNonce (hexEncode nonce) input.wallet input.keyType.name network.name)
  verifyWallet L E cfg input nonce
  match ← perform (FlowOp.issueWalletTokenPair input.wallet input.keyType.name) with
  | .ok () => return ()
  | .error _ => .fail (.internal "issue wallet token pair")

def passkeyLookupNonceTTL : Nat := 60

def passkeyLookupNonceKeyType : String := "webauthn-lookup"

def passkeyLookupNonceScope : String := "passkey-lookup"

def lookupChallenge : Flow (String × Nat) := do
  let nonce ← ofProof (issueNonce "" passkeyLookupNonceKeyType passkeyLookupNonceScope)
  return (nonce, passkeyLookupNonceTTL)

structure PasskeyLookup where
  credentialID : String
  nonceHex : String
  assertion : Assertion

def verifyLookup (input : PasskeyLookup) (row : PasskeyRow) : Except FlowError Unit :=
  if row.keyDataHex.utf8ByteSize < webauthnPubKeyHexLen then
    .error (.internal "stored key_data_hex too short")
  else
    match hexDecode (publicKeyHex row.keyDataHex), hexDecode input.nonceHex with
    | none, _ => .error (.internal "decode stored public key")
    | some _, none => .error .credentialNotFound
    | some pubKey, some nonce =>
      match verifyWebAuthnAssertion L [pubKey] nonce input.assertion cfg.allowedOrigins with
      | .error _ => .error .credentialNotFound
      | .ok () => .ok ()

def lookup (L : Libraries) (cfg : DeployConfig) (input : PasskeyLookup) : Flow PasskeyRow := do
  match ← (ofProof (consumeNonce input.nonceHex "" passkeyLookupNonceKeyType
      passkeyLookupNonceScope)).attempt with
  | .error _ => .fail .credentialNotFound
  | .ok () =>
    match ← perform (FlowOp.store (.read (.getPasskeyCredential input.credentialID))) with
    | .error .noRows => .fail .credentialNotFound
    | .error .failed => .fail (.internal "get passkey credential")
    | .ok row =>
      ofExcept (verifyLookup L cfg input row)
      return row

inductive Request where
  | walletChallenge (wallet : String) (keyType : WalletKeyType) (network : String)
  | signIn (input : WalletSignInInput)
  | deployChallenge (keyRef : String) (keyType : KeyType) (network : Network)
  | deployVerify (input : DeployProofInput)
  | lookupChallenge
  | lookup (input : PasskeyLookup)

inductive Answer where
  | challenge (nonce : String)
  | verified
  | found (row : PasskeyRow)

def body (L : Libraries) (E : Ed25519Verify) (cfg : DeployConfig) : Request → Flow Answer
  | .walletChallenge wallet keyType network => do
    let issued ← walletChallenge cfg wallet keyType network
    return .challenge issued.1
  | .signIn input => do
    signIn L E cfg input
    return .verified
  | .deployChallenge keyRef keyType network => do
    let issued ← ofProof (proofChallenge keyRef keyType network)
    return .challenge issued.1
  | .deployVerify input => do
    ofProof (proofVerify L E cfg input)
    return .verified
  | .lookupChallenge => do
    let issued ← lookupChallenge
    return .challenge issued.1
  | .lookup input => do
    let row ← lookup L cfg input
    return .found row

structure State where
  shared : Shared
  drawn : Nat

structure Choice where
  store : Store.Choice := {}
  keys : Except SignerReadError (List Bytes) := .error .failed
  tokens : Except DbError Unit := .ok ()

def exec (draw : Nat → Bytes) (op : FlowOp) (s : State) (ch : Choice) : FlowRes op × State :=
  match op with
  | .store (.random _) => (draw s.drawn, { s with drawn := s.drawn + 1 })
  | .store op =>
    let out := Store.exec op s.shared ch.store
    (out.1, { s with shared := out.2 })
  | .webAuthnSignerKeys _ => (ch.keys, s)
  | .issueWalletTokenPair _ _ => (ch.tokens, s)

def expire (key : String) (s : State) : Option State :=
  some { s with shared := { s.shared with nonces := s.shared.nonces.filter fun n => n.1 != key } }

def nonceSystem (L : Libraries) (E : Ed25519Verify) (cfg : DeployConfig) (draw : Nat → Bytes) :
    System Request FlowOp FlowRes FlowError Answer State Choice String where
  body := body L E cfg
  exec _ op s ch := exec draw op s ch
  world := expire

end LatchApi.Nonce
