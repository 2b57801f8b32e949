import LatchApi.WebAuthn.RpId
import LatchApi.Store.Ops

namespace LatchApi.WebAuthn

open Lib Store

structure FinishRegistrationInput where
  userID : Encoded Uuid
  credentialID : Bytes
  clientDataJSON : Bytes
  attestationObject : Bytes
  transports : List String
  chromeExtensionIDFromBody : String
  extensionIDHeader : String
  config : WebAuthnConfig

structure FinishAuthenticationInput where
  userID : Encoded Uuid
  credentialID : Bytes
  clientDataJSON : Bytes
  authenticatorData : Bytes
  signature : Bytes
  chromeExtensionIDFromBody : String
  extensionIDHeader : String
  config : WebAuthnConfig

structure AttestedCredential where
  credentialID : Bytes
  cosePublicKey : Bytes
  rawPublicKey : Bytes
  signCount : Nat
deriving DecidableEq

def failWith {α : Type} (reason : String) : Except String α → Except CeremonyError α
  | .ok a => .ok a
  | .error e => .error (.verificationFailed (reason ++ e))

variable (L : Libraries) (input : FinishRegistrationInput)

def verifyCeremony (clientDataJSON : Bytes) (fromBody header : String) (cfg : WebAuthnConfig)
    (wantType : String) (challenge : ChallengeRow) :
    Except CeremonyError FinishVerification :=
  match L.unmarshalClientData clientDataJSON with
  | none => .error (.verificationFailed "decode clientDataJSON")
  | some cd =>
    match resolveFinishVerification L ⟨fromBody, header, cd.origin⟩
        ⟨challenge.rpID, challenge.origin⟩ cfg with
    | .error e => .error (.verificationFailed e.message)
    | .ok expected =>
      match verifyClientData cd wantType challenge.challenge expected.expectedOrigin with
      | .error e => .error e
      | .ok () => .ok expected

def decodeAttestation (attestationObject : Bytes) : Except CeremonyError AuthenticatorData :=
  match L.unmarshalAttestation attestationObject with
  | none => .error (.verificationFailed "decode attestationObject")
  | some att =>
    if att.fmt ≠ "none" then .error (.unsupportedAttFmt att.fmt)
    else failWith "parse authenticatorData: " (parseAuthenticatorData L att.authData)

def attestedCredential (authData : AuthenticatorData) : Except CeremonyError AttestedCredential :=
  match coseEC2ToRawP256Uncompressed L authData.credentialPublicKeyRaw with
  | .error e => .error (.verificationFailed e)
  | .ok rawPubKey =>
    .ok ⟨authData.credentialID, authData.credentialPublicKeyRaw, rawPubKey, authData.signCount⟩

def verifyAttestation (attestationObject : Bytes) (expectedRPIDs : List String) :
    Except CeremonyError AttestedCredential :=
  match decodeAttestation L attestationObject with
  | .error e => .error e
  | .ok authData =>
    if !authData.attested then .error (.verificationFailed "no attested credential data")
    else if !authData.userPresent then .error (.verificationFailed "user not present")
    else if !rpIDHashMatchesAny authData.rpIDHash expectedRPIDs then
      .error (.verificationFailed "rpID hash mismatch")
    else attestedCredential L authData

def verifyRegistration (challenge : ChallengeRow) : Except CeremonyError AttestedCredential :=
  match verifyCeremony L input.clientDataJSON input.chromeExtensionIDFromBody
      input.extensionIDHeader input.config "webauthn.create" challenge with
  | .error e => .error e
  | .ok expected => verifyAttestation L input.attestationObject expected.expectedRPIDs

def verifyAssertionData (input : FinishAuthenticationInput) (challenge : ChallengeRow) :
    Except CeremonyError AuthenticatorData :=
  match verifyCeremony L input.clientDataJSON input.chromeExtensionIDFromBody
      input.extensionIDHeader input.config "webauthn.get" challenge with
  | .error e => .error e
  | .ok expected =>
    match parseAuthenticatorData L input.authenticatorData with
    | .error e => .error (.verificationFailed ("parse authenticatorData: " ++ e))
    | .ok authData =>
      if !authData.userPresent then .error (.verificationFailed "user not present")
      else if !rpIDHashMatchesAny authData.rpIDHash expected.expectedRPIDs then
        .error (.verificationFailed "rpID hash mismatch")
      else .ok authData

def FinishAuthenticationInput.signedBy (input : FinishAuthenticationInput) (rawPubKey : Bytes) :
    Bool :=
  verifyP256Signature L rawPubKey
    (signedDataDigest input.authenticatorData input.clientDataJSON) input.signature

def FinishRegistrationInput.presented : Option AttestedCredential :=
  match decodeAttestation L input.attestationObject with
  | .error _ => none
  | .ok authData => (attestedCredential L authData).toOption

theorem verifyRegistration_presented (challenge : ChallengeRow) (a : AttestedCredential)
    (h : verifyRegistration L input challenge = .ok a) : input.presented L = some a := by
  unfold verifyRegistration at h
  split at h
  · cases h
  unfold verifyAttestation at h
  unfold FinishRegistrationInput.presented
  split at h
  · cases h
  split_ifs at h
  rw [h]
  rfl

end LatchApi.WebAuthn
