import LatchApi.Deploy.Proof
import LatchApi.Soroban.Auth

namespace LatchApi.Soroban

open Lib Deploy

def delegatedRawSignatureLen : Nat := 64

def delegatedFullEntryMinLen : Nat := 128

def checkAuthInvocation (contract : ScAddress) (digest : Bytes) : SorobanAuthorizedInvocation :=
  ⟨.contractFn ⟨contract, "__check_auth", [scBytes digest]⟩, []⟩

def checkAuthEntry (smartAccount signer : ScAddress) (digest : Bytes) (nonce : Int64)
    (expirationLedger : UInt32) : SorobanAuthorizationEntry :=
  ⟨.address ⟨signer, nonce, expirationLedger, scVec []⟩, checkAuthInvocation smartAccount digest⟩

def delegatedCheckAuthArg (entry : SorobanAuthorizationEntry) : Option Bytes :=
  match entry.rootInvocation.function with
  | .contractFn ⟨_, functionName, [.bytes arg]⟩ =>
    if functionName = "__check_auth" then some arg else none
  | _ => none

def delegatedCheckAuthArgHex (entry : SorobanAuthorizationEntry) : Option String :=
  (delegatedCheckAuthArg entry).map hexEncode

def accountSignature (publicKey signature : Bytes) : ScVal :=
  scVec [scMap [scMapEntry "public_key" (scBytes publicKey), scMapEntry "signature" (scBytes signature)]]

inductive DelegatedError where
  | decode (what : String)
  | signatureLength (n : Nat)
  | signatureInvalid
  | notAddressCredentials
deriving DecidableEq

/-- What the service takes from libraries for approvals: the decoder of entries and
the signature check. -/
structure Codec where
  unmarshalEntry : Bytes → Option SorobanAuthorizationEntry
  verifyEd25519 : Ed25519Verify

def noCodec : Codec := ⟨fun _ => none, fun _ _ _ => false⟩

/-- A long blob is taken for a complete signed entry and trusted. -/
def verifyDelegatedSignature (X : Codec) (template : Encoded SorobanAuthorizationEntry)
    (signed : Encoded Bytes) (signerAddress passphrase : String) : Except DelegatedError Unit :=
  match signed.decode with
  | none => .error (.decode "signed auth entry")
  | some blob =>
    if delegatedFullEntryMinLen < blob.length then .ok ()
    else if blob.length ≠ delegatedRawSignatureLen then .error (.signatureLength blob.length)
    else
      match template.decode with
      | none => .error (.decode "entry template")
      | some entry =>
        match hashSorobanAuthPayload entry passphrase with
        | none => .error .notAddressCredentials
        | some payload =>
          match verifyEd25519 X.verifyEd25519 signerAddress payload blob with
          | .error _ => .error .signatureInvalid
          | .ok () => .ok ()

def applyDelegatedSignature (X : Codec) (template : Encoded SorobanAuthorizationEntry)
    (signed : Encoded Bytes) (signerAddress : String) :
    Except DelegatedError SorobanAuthorizationEntry :=
  match signed.decode with
  | none => .error (.decode "signed auth entry")
  | some blob =>
    if delegatedFullEntryMinLen < blob.length then
      match X.unmarshalEntry blob with
      | none => .error (.decode "full signed entry")
      | some entry => .ok entry
    else if blob.length ≠ delegatedRawSignatureLen then .error (.signatureLength blob.length)
    else
      match template.decode with
      | none => .error (.decode "entry template")
      | some entry =>
        if entry.hasSourceAccount then .error .notAddressCredentials
        else
          match strkeyDecode versionAccount signerAddress with
          | none => .error (.decode "signer public key")
          | some key => .ok (entry.withSignature (accountSignature key blob))

variable {template : Encoded SorobanAuthorizationEntry}

variable {signed : Encoded Bytes} {signerAddress : String}

theorem applyDelegatedSignature_eq_ok {X : Codec} {entry : SorobanAuthorizationEntry}
    (h : applyDelegatedSignature X template signed signerAddress = .ok entry) :
    ∃ blob, signed.decode = some blob ∧
      ((delegatedFullEntryMinLen < blob.length ∧ X.unmarshalEntry blob = some entry) ∨
        (blob.length = delegatedRawSignatureLen ∧ ∃ t key, template.decode = some t ∧
          t.hasSourceAccount = false ∧ strkeyDecode versionAccount signerAddress = some key ∧
          entry = t.withSignature (accountSignature key blob))) := by
  unfold applyDelegatedSignature at h
  split at h
  · cases h
  rename_i blob hblob
  refine ⟨blob, hblob, ?_⟩
  by_cases hlong : delegatedFullEntryMinLen < blob.length
  · rw [if_pos hlong] at h
    split at h
    · cases h
    · rename_i whole hwhole
      exact .inl ⟨hlong, Except.ok.inj h ▸ hwhole⟩
  · rw [if_neg hlong] at h
    by_cases hraw : blob.length = delegatedRawSignatureLen
    · rw [if_neg (not_not.mpr hraw)] at h
      split at h
      · cases h
      rename_i t ht
      by_cases hsource : t.hasSourceAccount = true
      · rw [if_pos hsource] at h
        cases h
      rw [if_neg hsource] at h
      split at h
      · cases h
      · rename_i key hkey
        exact .inr ⟨hraw, t, key, ht, by simpa using hsource, hkey, (Except.ok.inj h).symm⟩
    · rw [if_pos hraw] at h
      cases h

theorem verifyDelegatedSignature_eq_ok {X : Codec} {passphrase : String}
    (h : verifyDelegatedSignature X template signed signerAddress passphrase = .ok ()) :
    ∃ blob, signed.decode = some blob ∧ (delegatedFullEntryMinLen < blob.length ∨
      blob.length = delegatedRawSignatureLen ∧ ∃ t payload, template.decode = some t ∧
        hashSorobanAuthPayload t passphrase = some payload ∧
        verifyEd25519 X.verifyEd25519 signerAddress payload blob = .ok ()) := by
  unfold verifyDelegatedSignature at h
  split at h
  · cases h
  rename_i blob hblob
  refine ⟨blob, hblob, ?_⟩
  by_cases hlong : delegatedFullEntryMinLen < blob.length
  · exact .inl hlong
  rw [if_neg hlong] at h
  by_cases hraw : blob.length = delegatedRawSignatureLen
  · rw [if_neg (not_not.mpr hraw)] at h
    split at h
    · cases h
    rename_i t ht
    split at h
    · cases h
    rename_i payload hpayload
    split at h
    · cases h
    · rename_i hverify
      exact .inr ⟨hraw, t, payload, ht, hpayload, hverify⟩
  · rw [if_pos hraw] at h
    cases h

end LatchApi.Soroban
