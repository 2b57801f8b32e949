import LatchApi.Factory.OneShot

namespace LatchApi.Draft

open Lib Store Soroban Multisig Factory

inductive DraftStatus where
  | collecting
  | deployed
deriving DecidableEq

inductive MemberSource where
  | creator
  | invite
deriving DecidableEq

structure DraftRow where
  id : Uuid
  creatorUserID : Uuid
  threshold : Int
  accountSaltHex : String
  inviteToken : String
  status : DraftStatus
  predictedAddress : Option String
  smartAccountAddress : Option String
  createdAt : Int
  expiresAt : Option Int
deriving DecidableEq

structure DraftMemberRow where
  id : Uuid
  draftID : Uuid
  label : String
  memberType : MultisigSignerKind
  gAddress : Option String
  keyDataHex : Option String
  credentialID : Option String
  publicKeyHex : Option String
  source : MemberSource
  createdAt : Int
  userID : Option Uuid
deriving DecidableEq

structure DraftMultisigMember where
  label : String
  kind : MultisigSignerKind
  gAddress : String
  keyDataHex : String
  credentialID : String
  publicKeyHex : String
deriving DecidableEq

def domainMemberFromRow (row : DraftMemberRow) : DraftMultisigMember where
  label := row.label
  kind := row.memberType
  gAddress := strOrEmpty row.gAddress
  keyDataHex := strOrEmpty row.keyDataHex
  credentialID := strOrEmpty row.credentialID
  publicKeyHex := strOrEmpty row.publicKeyHex

def isValidEd25519PublicKeyHex (h : String) : Bool :=
  let normalized := normalizeHex h
  normalized.utf8ByteSize == ed25519PublicKeyHexLen && (hexDecode normalized).isSome

def validateDraftMember (m : DraftMultisigMember) : String :=
  if trimSpace m.label = "" then "label is required"
  else
    match m.kind with
    | .delegated =>
      if m.gAddress = "" then "gAddress is required for a delegated signer"
      else if isValidGAddress m.gAddress then ""
      else "gAddress is not a valid Stellar account address"
    | .webauthn =>
      if m.keyDataHex = "" then "keyDataHex is required for a webauthn signer"
      else if Multisig.isValidWebauthnKeyDataHex m.keyDataHex then ""
      else "keyDataHex must be a hex-encoded uncompressed P-256 key plus credential id"
    | .ed25519 =>
      if m.publicKeyHex = "" then "publicKeyHex is required for an ed25519 signer"
      else if isValidEd25519PublicKeyHex m.publicKeyHex then ""
      else "publicKeyHex must be a 32-byte hex-encoded Ed25519 public key"
    | .unsupported name => "unsupported member type " ++ quoted name

def DraftMultisigMember.valid (m : DraftMultisigMember) : Bool := validateDraftMember m == ""

def duplicatesMember (candidate m : DraftMultisigMember) : Option String :=
  if m.kind ≠ candidate.kind then none
  else
    match candidate.kind with
    | .delegated =>
      if candidate.gAddress ≠ "" ∧ m.gAddress = candidate.gAddress then
        some "a delegated signer with this address has already been added"
      else none
    | .webauthn =>
      if candidate.keyDataHex ≠ "" ∧ normalizeHex m.keyDataHex = normalizeHex candidate.keyDataHex then
        some "a webauthn signer with this key has already been added"
      else none
    | .ed25519 =>
      if candidate.publicKeyHex ≠ "" ∧
          normalizeHex m.publicKeyHex = normalizeHex candidate.publicKeyHex then
        some "an ed25519 signer with this key has already been added"
      else none
    | .unsupported _ => none

def duplicateMemberError (candidate : DraftMultisigMember) (existing : List DraftMultisigMember) :
    String := (existing.findSome? (duplicatesMember candidate)).getD ""

def fingerprintOf (material : String) : String :=
  String.ofList ((hexEncode (sha256 (textBytes material))).toList.take 8)

def memberFingerprint (m : DraftMultisigMember) : String :=
  match m.kind with
  | .delegated => fingerprintOf ("delegated:" ++ m.gAddress)
  | .webauthn => fingerprintOf ("webauthn:" ++ normalizeHex m.keyDataHex)
  | .ed25519 => fingerprintOf ("ed25519:" ++ normalizeHex m.publicKeyHex)
  | .unsupported _ => ""

def factoryEntry (m : DraftMultisigMember) : Option (String × MultisigSignerInit) :=
  match m.kind with
  | .delegated => some ("0:delegated:" ++ m.gAddress, ⟨.delegated, "", m.gAddress, m.label⟩)
  | .webauthn => some ("1:webauthn:" ++ normalizeHex m.keyDataHex,
      ⟨.webauthn, normalizeHex m.keyDataHex, "", m.label⟩)
  | _ => none

def entryLE (a b : String × MultisigSignerInit) : Prop := a.1 ≤ b.1

instance : DecidableRel entryLE := fun a b => inferInstanceAs (Decidable (a.1 ≤ b.1))

instance : Std.Total entryLE where
  total a b := String.le_total a.1 b.1

instance : IsTrans (String × MultisigSignerInit) entryLE where
  trans _ _ _ hab hbc := String.le_trans hab hbc

def draftMembersToFactorySigners (members : List DraftMultisigMember) : List MultisigSignerInit :=
  ((members.filterMap factoryEntry).insertionSort entryLE).map Prod.snd

def validDeployableFactorySigners (rows : List DraftMemberRow) : List MultisigSignerInit :=
  draftMembersToFactorySigners ((rows.map domainMemberFromRow).filter DraftMultisigMember.valid)

structure SerializedDraftMember where
  id : Uuid
  label : String
  memberType : MultisigSignerKind
  gAddress : String
  keyDataHex : String
  credentialID : String
  publicKeyHex : String
  source : MemberSource
  valid : Bool
  validationError : String
  fingerprint : String
deriving DecidableEq

structure SerializedDraft where
  id : Uuid
  threshold : Int
  accountSaltHex : String
  inviteToken : String
  status : DraftStatus
  predictedAddress : String
  smartAccountAddress : String
  createdAt : Int
  expiresAt : Option Int
  members : List SerializedDraftMember
  validMemberCount : Nat
  canDeploy : Bool

structure PublicDraftMember where
  id : Uuid
  label : String
  memberType : MultisigSignerKind
  source : MemberSource
  fingerprint : String
  valid : Bool

structure PublicDraftView where
  id : Uuid
  threshold : Int
  status : DraftStatus
  memberCount : Nat
  validMemberCount : Nat
  members : List PublicDraftMember

def serializeDraftMember (row : DraftMemberRow) : SerializedDraftMember :=
  let m := domainMemberFromRow row
  { id := row.id
    label := m.label
    memberType := m.kind
    gAddress := m.gAddress
    keyDataHex := m.keyDataHex
    credentialID := m.credentialID
    publicKeyHex := m.publicKeyHex
    source := row.source
    valid := m.valid
    validationError := validateDraftMember m
    fingerprint := memberFingerprint m }

def validCount (memberRows : List DraftMemberRow) : Nat :=
  memberRows.countP fun row => (domainMemberFromRow row).valid

def canDeploy (draft : DraftRow) (memberRows : List DraftMemberRow) : Bool :=
  decide (draft.status = .collecting) && decide (2 ≤ validCount memberRows) &&
    decide (1 ≤ draft.threshold) && decide (draft.threshold ≤ validCount memberRows) &&
    decide (2 ≤ (validDeployableFactorySigners memberRows).length)

def serialize (draft : DraftRow) (memberRows : List DraftMemberRow) : SerializedDraft where
  id := draft.id
  threshold := draft.threshold
  accountSaltHex := draft.accountSaltHex
  inviteToken := draft.inviteToken
  status := draft.status
  predictedAddress := strOrEmpty draft.predictedAddress
  smartAccountAddress := strOrEmpty draft.smartAccountAddress
  createdAt := draft.createdAt
  expiresAt := draft.expiresAt
  members := memberRows.map serializeDraftMember
  validMemberCount := validCount memberRows
  canDeploy := canDeploy draft memberRows

def serializePublic (draft : DraftRow) (memberRows : List DraftMemberRow) : PublicDraftView where
  id := draft.id
  threshold := draft.threshold
  status := draft.status
  memberCount := memberRows.length
  validMemberCount := validCount memberRows
  members := memberRows.map fun row =>
    let m := domainMemberFromRow row
    ⟨row.id, m.label, m.kind, row.source, memberFingerprint m, m.valid⟩

def buildParams (draft : DraftRow) (signers : List MultisigSignerInit) : Except ParamsError ScVal := do
  let salt ← hexDecodeSalt draft.accountSaltHex
  buildMultisigAccountInitParams (UInt32.ofInt draft.threshold) salt signers

end LatchApi.Draft
