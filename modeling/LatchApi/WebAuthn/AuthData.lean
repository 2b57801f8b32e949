import LatchApi.Lib.Encoding

namespace LatchApi.WebAuthn

open Lib

structure ClientData where
  type : String
  challenge : String
  origin : String

structure AttestationObject where
  fmt : String
  authData : Bytes

structure CoseKey where
  kty : Int
  alg : Int
  crv : Int
  x : Bytes
  y : Bytes

structure Url where
  scheme : String
  host : String

/-- What the service takes from libraries: the JSON, CBOR and URL decoders and the
arithmetic of the P-256 curve. -/
structure Libraries where
  unmarshalClientData : Bytes → Option ClientData
  unmarshalAttestation : Bytes → Option AttestationObject
  unmarshalCoseKey : Bytes → Option CoseKey
  marshalCoseKey : CoseKey → Bytes
  unmarshalFirst : Bytes → Option Bytes
  parseUrl : String → Option Url
  onCurve : Bytes → Bool
  verifyASN1 : (point digest signature : Bytes) → Bool

def noLibraries : Libraries where
  unmarshalClientData _ := none
  unmarshalAttestation _ := none
  unmarshalCoseKey _ := none
  marshalCoseKey _ := []
  unmarshalFirst _ := none
  parseUrl _ := none
  onCurve _ := false
  verifyASN1 _ _ _ := false

inductive CeremonyError where
  | challengeNotFound
  | challengeExpired
  | verificationFailed (reason : String)
  | credentialNotFound (reason : String)
  | unsupportedAttFmt (fmt : String)
  | internal (context : String)
deriving DecidableEq

def flagUserPresent : UInt8 := 0x01

def flagAttestedData : UInt8 := 0x40

def bigEndian (bs : Bytes) : Nat := bs.foldl (fun acc b => acc * 256 + b.toNat) 0

structure AuthenticatorData where
  rpIDHash : Bytes
  flags : UInt8
  signCount : Nat
  credentialID : Bytes
  credentialPublicKeyRaw : Bytes

def AuthenticatorData.attested (ad : AuthenticatorData) : Bool := ad.flags &&& flagAttestedData != 0

def AuthenticatorData.userPresent (ad : AuthenticatorData) : Bool :=
  ad.flags &&& flagUserPresent != 0

variable (L : Libraries)

def parseAttestedCredential (ad : AuthenticatorData) (rest : Bytes) :
    Except String AuthenticatorData :=
  if rest.length < 18 then .error "attested credential data truncated"
  else
    let credIDLen := bigEndian ((rest.drop 16).take 2)
    let rest := rest.drop 18
    if rest.length < credIDLen then .error "credential id truncated"
    else
      match L.unmarshalFirst (rest.drop credIDLen) with
      | none => .error "decode credential public key"
      | some pubKeyRaw =>
        .ok { ad with credentialID := rest.take credIDLen, credentialPublicKeyRaw := pubKeyRaw }

def parseAuthenticatorData (data : Bytes) : Except String AuthenticatorData :=
  if data.length < 37 then
    .error ("authenticator data too short: " ++ toString data.length ++ " bytes")
  else
    let ad : AuthenticatorData :=
      { rpIDHash := data.take 32
        flags := data.getD 32 0
        signCount := bigEndian ((data.drop 33).take 4)
        credentialID := []
        credentialPublicKeyRaw := [] }
    if ad.attested then parseAttestedCredential L ad (data.drop 37) else .ok ad

def coseEC2ToRawP256Uncompressed (cosePublicKey : Bytes) : Except String Bytes :=
  match L.unmarshalCoseKey cosePublicKey with
  | none => .error "decode COSE key"
  | some key =>
    if key.x.length ≠ 32 ∨ key.y.length ≠ 32 then
      .error "unsupported COSE key format: expected 32-byte x/y coordinates"
    else .ok (0x04 :: key.x ++ key.y)

def rawP256ToCoseEC2 (rawPubKey : Bytes) : Except String Bytes :=
  if rawPubKey.length ≠ 65 ∨ rawPubKey.head? ≠ some 0x04 then
    .error "expected 65-byte uncompressed P-256 point"
  else
    .ok (L.marshalCoseKey
      { kty := 2, alg := -7, crv := 1
        x := (rawPubKey.drop 1).take 32, y := (rawPubKey.drop 33).take 32 })

def verifyP256Signature (rawPubKey digest derSignature : Bytes) : Bool :=
  rawPubKey.length == 65 && rawPubKey.head? == some 0x04 && L.onCurve rawPubKey &&
    L.verifyASN1 rawPubKey digest derSignature

def signedDataDigest (authenticatorData clientDataJSON : Bytes) : Bytes :=
  sha256 (authenticatorData ++ sha256 clientDataJSON)

def verifyClientData (cd : ClientData) (wantType wantChallenge wantOrigin : String) :
    Except CeremonyError Unit :=
  if cd.type ≠ wantType then .error (.verificationFailed "unexpected clientData.type")
  else if cd.challenge ≠ wantChallenge then .error (.verificationFailed "challenge mismatch")
  else if cd.origin ≠ wantOrigin then .error (.verificationFailed "origin mismatch")
  else .ok ()

def rpIDHashMatchesAny (rpIDHash : Bytes) (candidates : List String) : Bool :=
  candidates.any fun c => sha256 (textBytes c) == rpIDHash

end LatchApi.WebAuthn
