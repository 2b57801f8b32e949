import LatchApi.Deploy.Proof
import LatchApi.WebAuthn.Handlers

namespace LatchApi.Deploy

open Lib Program Store Passkey WebAuthn

def minWebauthnKeyDataHexLen : Nat := 132

structure DeployProof where
  nonce : String
  signature : Encoded Bytes
  authenticatorData : Encoded Bytes
  clientDataJSON : Encoded Bytes

structure DeployChallengeRequest where
  keyType : KeyType
  keyRef : String
  network : String

structure DeployWebauthnRequest where
  keyDataHex : String
  network : String
  proof : DeployProof
  label : String
  seq : Int

def DeployChallengeRequest.hasRequired (req : DeployChallengeRequest) : Bool :=
  req.keyType.name ≠ "" && req.keyRef ≠ ""

def DeployWebauthnRequest.hasRequired (req : DeployWebauthnRequest) : Bool :=
  req.keyDataHex ≠ "" && req.proof.nonce ≠ "" && decide (req.proof.signature ≠ .of [])

def bindRequired {α : Type} (required : α → Bool) (body : Option α) : Except HttpFail α :=
  match bindBody body with
  | .error e => .error e
  | .ok req => if required req then .ok req else .error ⟨400, "invalid request body"⟩

inductive DeployReply where
  | challenge (nonce : String) (expiresIn : Nat)
  | deployed (smartAccountAddress : String) (alreadyDeployed : Bool)
deriving DecidableEq

abbrev DeployHandler := Program Op Res HttpFail

def failRequestNetwork : NetworkError → HttpFail
  | .mismatch deployed named =>
    ⟨400, "network mismatch: this deployment serves " ++ deployed.name ++ " only; send " ++
      named.name ++ " requests to the " ++ named.name ++ " deployment"⟩
  | .invalid => ⟨400, "network must be \"testnet\" or \"mainnet\""⟩

def parseNetwork (cfg : DeployConfig) (raw : String) : Except HttpFail Network :=
  match resolveNetwork cfg raw with
  | .ok network => .ok network
  | .error e => .error (failRequestNetwork e)

def failGasless : CallError → HttpFail
  | .limited => ⟨429, "too many requests, please try again later"⟩
  | .unknownAccount => internalError
  | e => failCall e

def failChallenge : ProofError → HttpFail
  | .invalidWallet _ => ⟨400, "invalid key_type or key_ref"⟩
  | .unsupportedKeyType => ⟨400, "invalid key_type or key_ref"⟩
  | _ => internalError

def deployChallenge (cfg : DeployConfig) (body : Option DeployChallengeRequest) :
    DeployHandler DeployReply := do
  let req ← ofExcept (bindRequired DeployChallengeRequest.hasRequired body)
  let network ← ofExcept (parseNetwork cfg req.network)
  match ← (proofChallenge req.keyRef req.keyType network).attempt with
  | .error e => .fail (failChallenge e)
  | .ok (nonce, ttl) => return .challenge nonce ttl

def decodeBase64 (name : String) (field : Encoded Bytes) : Except HttpFail Bytes :=
  match field.decode with
  | some bytes => .ok bytes
  | none => .error ⟨400, name ++ " must be base64"⟩

def proofAssertion (proof : DeployProof) (keyType : KeyType) : Except HttpFail Assertion := do
  let signature ← decodeBase64 "signature" proof.signature
  if keyType = .webauthn then
    let authenticatorData ← decodeBase64 "authenticator_data" proof.authenticatorData
    let clientDataJSON ← decodeBase64 "client_data_json" proof.clientDataJSON
    return ⟨authenticatorData, clientDataJSON, signature⟩
  else return ⟨[], [], signature⟩

def verifyProof (L : Libraries) (E : Ed25519Verify) (cfg : DeployConfig) (proof : DeployProof)
    (keyRef : String) (keyType : KeyType) (network : Network) : DeployHandler Unit := do
  let assertion ← ofExcept (proofAssertion proof keyType)
  match ← (proofVerify L E cfg ⟨keyRef, keyType, network, proof.nonce, assertion⟩).attempt with
  | .error _ => .fail ⟨401, "invalid or expired deployment proof"⟩
  | .ok () => return ()

def checkKeyData (keyDataHex : String) : Except HttpFail Unit :=
  if keyDataHex.utf8ByteSize < minWebauthnKeyDataHexLen then
    .error ⟨400, "key_data_hex must be at least 132 hex characters"⟩
  else if (hexDecode keyDataHex).isNone then .error ⟨400, "key_data_hex must be valid hex"⟩
  else .ok ()

def deployWebauthn (L : Libraries) (E : Ed25519Verify) (cfg : DeployConfig)
    (body : Option DeployWebauthnRequest) : DeployHandler DeployReply := do
  let req ← ofExcept (bindRequired DeployWebauthnRequest.hasRequired body)
  ofExcept (checkKeyData req.keyDataHex)
  let network ← ofExcept (parseNetwork cfg req.network)
  verifyProof L E cfg req.proof req.keyDataHex .webauthn network
  match ← deployByKeyData req.keyDataHex with
  | .error e => .fail (failGasless e)
  | .ok (address, alreadyDeployed) =>
    let _ ← (register req.keyDataHex address req.label req.seq).attempt
    return .deployed address alreadyDeployed

end LatchApi.Deploy
