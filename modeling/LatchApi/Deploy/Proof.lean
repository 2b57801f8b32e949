import LatchApi.Lib.Lower
import LatchApi.Lib.StrKey
import LatchApi.Passkey.Index
import LatchApi.WebAuthn.AuthData

namespace LatchApi.Deploy

open Lib Program Store Passkey WebAuthn

inductive Network where
  | testnet
  | mainnet
deriving DecidableEq

def Network.name : Network → String
  | .testnet => "testnet"
  | .mainnet => "mainnet"

inductive NetworkError where
  | invalid
  | mismatch (deployed named : Network)
deriving DecidableEq

structure DeployConfig where
  network : Option Network
  allowedOrigins : List String

def namedNetwork (raw : String) : Except NetworkError (Option Network) :=
  match toLower (trimSpace raw) with
  | "" => .ok none
  | "testnet" => .ok (some .testnet)
  | "mainnet" => .ok (some .mainnet)
  | _ => .error .invalid

def resolveNetwork (cfg : DeployConfig) (raw : String) : Except NetworkError Network :=
  match namedNetwork raw with
  | .error e => .error e
  | .ok named =>
    match cfg.network with
    | none => .ok (named.getD .testnet)
    | some deployed =>
      let network := named.getD deployed
      if network = deployed then .ok deployed else .error (.mismatch deployed network)

inductive KeyType where
  | ed25519
  | webauthn
  | delegated
  | unsupported (name : String)
deriving DecidableEq

def KeyType.name : KeyType → String
  | .ed25519 => "ed25519"
  | .webauthn => "webauthn"
  | .delegated => "delegated"
  | .unsupported name => name

inductive ProofError where
  | invalidWallet (reason : String)
  | unsupportedKeyType
  | nonceUnknown
  | nonceMismatch
  | nonceInvalid
  | badWalletAddress
  | badSignature (reason : String)
  | noWebAuthnSigner
  | internal (context : String)
deriving DecidableEq

abbrev ProofService (α : Type) := Program Op Res ProofError α

def requireHex (reason keyRef : String) : Except ProofError Unit :=
  if (hexDecode keyRef).isSome then .ok () else .error (.invalidWallet reason)

def validateKeyRef (keyRef : String) : KeyType → Except ProofError Unit
  | .ed25519 =>
    if keyRef.utf8ByteSize ≠ 64 then
      .error (.invalidWallet "ed25519 key reference must be 64 hex characters")
    else requireHex "ed25519 key reference must be hex" keyRef
  | .webauthn =>
    if keyRef.utf8ByteSize ≤ webauthnPubKeyHexLen then
      .error (.invalidWallet "webauthn key reference must exceed 130 hex characters")
    else requireHex "webauthn key reference must be hex" keyRef
  | .delegated =>
    if (strkeyDecode versionAccount keyRef).isSome then .ok ()
    else .error (.invalidWallet "delegated key reference must be a G-address")
  | .unsupported _ => .error .unsupportedKeyType

def walletNoncePrefix : String := "walletnonce:"

def walletNonceBytes : Nat := 32

def deployNonceTTL : Nat := 300

def bindNonce (wallet keyType scope : String) : String := wallet ++ "|" ++ keyType ++ "|" ++ scope

def deployNonceScope (network : Network) : String := "deploy:" ++ network.name

def issueNonce (wallet keyType scope : String) : ProofService String := do
  let raw ← random walletNonceBytes
  let nonceHex := hexEncode raw
  match ← setNonce (walletNoncePrefix ++ nonceHex) (bindNonce wallet keyType scope) with
  | .ok () => return nonceHex
  | .error _ => .fail (.internal "store nonce")

def boundTo (binding stored : String) : Except ProofError Unit :=
  if stored = binding then .ok () else .error .nonceMismatch

def consumeNonce (nonceHex wallet keyType scope : String) : ProofService Unit := do
  match ← takeNonce (walletNoncePrefix ++ nonceHex) with
  | .error .noRows => .fail .nonceUnknown
  | .error .failed => .fail (.internal "consume nonce")
  | .ok stored => ofExcept (boundTo (bindNonce wallet keyType scope) stored)

def httpsForm (origin : String) : String :=
  if origin = "" ∨ ':' ∈ origin.toList then origin else "https://" ++ origin

def originAllowed (origin : String) (allowed : List String) : Bool :=
  origin ≠ "" && allowed.any fun a => origin == a || httpsForm origin == httpsForm a

structure Assertion where
  authenticatorData : Bytes
  clientDataJSON : Bytes
  signature : Bytes

variable (L : Libraries)

def verifyAssertionFor (nonce : Bytes) (a : Assertion) (allowedOrigins : List String) :
    Except ProofError Unit :=
  if a.authenticatorData.length < 37 then .error (.badSignature "authenticator data too short")
  else
    match L.unmarshalClientData a.clientDataJSON with
    | none => .error (.badSignature "malformed clientDataJSON")
    | some cd =>
      if cd.type ≠ "webauthn.get" then
        .error (.badSignature "clientData type, want webauthn.get")
      else if cd.challenge ≠ base64UrlEncode nonce then
        .error (.badSignature "challenge does not match the issued nonce")
      else if !originAllowed cd.origin allowedOrigins then
        .error (.badSignature "origin is not in WEBAUTHN_ALLOWED_ORIGINS")
      else .ok ()

def Assertion.signedBy (a : Assertion) (pubKey : Bytes) : Bool :=
  verifyP256Signature L pubKey (signedDataDigest a.authenticatorData a.clientDataJSON) a.signature

def verifyWebAuthnAssertion (candidates : List Bytes) (nonce : Bytes) (a : Assertion)
    (allowedOrigins : List String) : Except ProofError Unit :=
  match candidates with
  | [] => .error .noWebAuthnSigner
  | _ =>
    match verifyAssertionFor L nonce a allowedOrigins with
    | .error e => .error e
    | .ok () =>
      if candidates.any (a.signedBy L) then .ok ()
      else .error (.badSignature "no on-chain signer key verified the assertion")

abbrev Ed25519Verify := (publicKey message signature : Bytes) → Bool

def verifyEd25519 (E : Ed25519Verify) (walletGAddress : String) (message signature : Bytes) :
    Except ProofError Unit :=
  match strkeyDecode versionAccount walletGAddress with
  | none => .error .badWalletAddress
  | some pub =>
    if pub.length ≠ 32 then .error .badWalletAddress
    else if E pub message signature then .ok ()
    else .error (.badSignature "signature verification failed")

/-- A signature for samples: the key in front of what is signed. -/
def Sample.keyed : Ed25519Verify := fun publicKey message signature => signature == publicKey ++ message

structure DeployProofInput where
  keyRef : String
  keyType : KeyType
  network : Network
  nonceHex : String
  assertion : Assertion

def webauthnKey (keyRef : String) : Option Bytes := hexDecode (publicKeyHex keyRef)

def verifySignature (E : Ed25519Verify) (cfg : DeployConfig) (input : DeployProofInput)
    (nonce : Bytes) : Except ProofError Unit :=
  match input.keyType with
  | .ed25519 =>
    match hexDecode input.keyRef with
    | none => .error (.invalidWallet "decode ed25519 public key")
    | some raw =>
      verifyEd25519 E (strkeyEncode versionAccount raw) nonce input.assertion.signature
  | .delegated => verifyEd25519 E input.keyRef nonce input.assertion.signature
  | .webauthn =>
    match webauthnKey input.keyRef with
    | none => .error (.badSignature "decode webauthn public key")
    | some pubKey =>
      verifyWebAuthnAssertion L [pubKey] nonce input.assertion cfg.allowedOrigins
  | .unsupported _ => .error .unsupportedKeyType

def decodeNonce (nonceHex : String) : Except ProofError Bytes :=
  match hexDecode nonceHex with
  | none => .error .nonceInvalid
  | some nonce => .ok nonce

def proofChallenge (keyRef : String) (keyType : KeyType) (network : Network) :
    ProofService (String × Nat) := do
  ofExcept (validateKeyRef keyRef keyType)
  let nonce ← issueNonce keyRef keyType.name (deployNonceScope network)
  return (nonce, deployNonceTTL)

def proofVerify (E : Ed25519Verify) (cfg : DeployConfig) (input : DeployProofInput) :
    ProofService Unit := do
  ofExcept (validateKeyRef input.keyRef input.keyType)
  consumeNonce input.nonceHex input.keyRef input.keyType.name (deployNonceScope input.network)
  let nonce ← ofExcept (decodeNonce input.nonceHex)
  ofExcept (verifySignature L E cfg input nonce)

section Specs

variable {L : Libraries} {E : Ed25519Verify} {cfg : DeployConfig} {g : Log Res → Op → Prop}
  {h : Log Res}

section

variable (hg : ∀ h op, op.effects = [] → g h op)

include hg

theorem obeys_issueNonce (wallet keyType scope : String) :
    Obeys (guarded g) h (issueNonce wallet keyType scope) (onOk fun _ _ => True) := by
  refine obeys_perform_bind (hg _ _ rfl) fun raw _ => ?_
  refine obeys_perform_bind (hg _ _ rfl) fun r _ => ?_
  cases r with
  | error e => exact .fail trivial
  | ok _ => exact .ok trivial

theorem obeys_consumeNonce (nonceHex wallet keyType scope : String) :
    Obeys (guarded g) h (consumeNonce nonceHex wallet keyType scope) (onOk fun _ _ => True) := by
  refine obeys_perform_bind (hg _ _ rfl) fun r _ => ?_
  match r with
  | .error .noRows => exact .fail trivial
  | .error .failed => exact .fail trivial
  | .ok stored =>
    rw [obeys_ofExcept]
    cases boundTo (bindNonce wallet keyType scope) stored with
    | _ => trivial

theorem obeys_proofVerify (input : DeployProofInput) :
    Obeys (guarded g) h (proofVerify L E cfg input) (onOk fun _ _ =>
      ∃ nonce, decodeNonce input.nonceHex = .ok nonce ∧
        verifySignature L E cfg input nonce = .ok ()) := by
  refine obeys_ofExcept_bind fun _ _ => ?_
  refine (obeys_consumeNonce hg _ _ _ _).bind_onOk fun _ _ _ => ?_
  refine obeys_ofExcept_bind fun nonce hnonce => ?_
  rw [obeys_ofExcept]
  cases hsig : verifySignature L E cfg input nonce with
  | error e => trivial
  | ok u => exact ⟨nonce, hnonce, hsig⟩

end

end Specs

end LatchApi.Deploy
