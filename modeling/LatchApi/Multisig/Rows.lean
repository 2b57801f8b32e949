import LatchApi.Soroban.Auth
import LatchApi.Store.Ops

namespace LatchApi.Multisig

open Lib Soroban Store

inductive MemberType where
  | webauthn
  | delegated
  | other (name : String)
deriving DecidableEq

inductive ApprovalType where
  | webauthn
  | delegated
deriving DecidableEq

inductive ProposalStatus where
  | pending
  | executed
deriving DecidableEq

inductive OperationKind where
  | counterIncrement
  | sacTransfer
  | other (name : String)
deriving DecidableEq

structure SacTransferOperationParams where
  tokenContractID : String
  recipient : String
  amountI128 : String
  assetID : String
  symbol : String
  amount : String
deriving DecidableEq

structure AccountRow where
  id : Uuid
  userID : Uuid
  smartAccountAddress : String
  threshold : Nat
  accountSaltHex : String
  createdAt : Int
deriving DecidableEq

structure MemberRow where
  id : Uuid
  multisigAccountID : Uuid
  memberType : MemberType
  label : Option String
  keyDataHex : Option String
  credentialID : Option String
  gAddress : Option String
  createdAt : Int
  userID : Option Uuid
deriving DecidableEq

structure BuiltProposalArtifacts where
  txXdr : Encoded TransactionEnvelope
  authEntries : Encoded (List (Encoded SorobanAuthorizationEntry))
  smartAccountAuthEntryIndex : Int
  contextRuleID : UInt32
  authDigestHex : String
  signaturePayloadHex : String
  validUntilLedger : UInt32

structure ProposalRow where
  id : Uuid
  multisigAccountID : Uuid
  createdByUserID : Uuid
  targetContractID : String
  operationKind : OperationKind
  operationParams : Encoded SacTransferOperationParams
  built : BuiltProposalArtifacts
  status : ProposalStatus
  executedTxHash : Option String
  createdAt : Int

/-- `tag` is not a column: it records the digest that the proposal had when the request
that last approved through this row read it. -/
structure ApprovalRow where
  id : Uuid
  proposalID : Uuid
  memberID : Uuid
  approvalType : ApprovalType
  webauthnSigDataXdrHex : Option String
  delegatedEntryTemplateXdr : Option (Encoded SorobanAuthorizationEntry)
  delegatedSignedAuthEntryBase64 : Option (Encoded Bytes)
  delegatedSignerAddress : Option String
  createdAt : Int
  tag : String

def ApprovalRow.key (r : ApprovalRow) : Uuid × Uuid := (r.proposalID, r.memberID)

structure ApprovalWithMember where
  approval : ApprovalRow
  member : MemberRow

/-- The members table also has two partial unique indexes, which its upserts check. -/
structure Db where
  accounts : Table AccountRow Uuid String AccountRow.id AccountRow.smartAccountAddress
  members : Table MemberRow Uuid Uuid MemberRow.id MemberRow.id
  proposals : Table ProposalRow Uuid Uuid ProposalRow.id ProposalRow.id
  approvals : Table ApprovalRow Uuid (Uuid × Uuid) ApprovalRow.id ApprovalRow.key

def Db.empty : Db := ⟨.empty, .empty, .empty, .empty⟩

def Db.Linked (db : Db) (accountID userID : Uuid) : Prop :=
  ∃ m ∈ db.members.rows, m.multisigAccountID = accountID ∧ m.userID = some userID

def Db.Participates (db : Db) (account : AccountRow) (userID : Uuid) : Prop :=
  account.userID = userID ∨ db.Linked account.id userID

def webauthnApproval (id proposalID memberID : Uuid) (sigDataXdrHex : Option String)
    (createdAt : Int) (tag : String) : ApprovalRow where
  id := id
  proposalID := proposalID
  memberID := memberID
  approvalType := .webauthn
  webauthnSigDataXdrHex := sigDataXdrHex
  delegatedEntryTemplateXdr := none
  delegatedSignedAuthEntryBase64 := none
  delegatedSignerAddress := none
  createdAt := createdAt
  tag := tag

def delegatedApproval (id proposalID memberID : Uuid) (template : SorobanAuthorizationEntry)
    (signerAddress : String) (createdAt : Int) (tag : String) : ApprovalRow where
  id := id
  proposalID := proposalID
  memberID := memberID
  approvalType := .delegated
  webauthnSigDataXdrHex := none
  delegatedEntryTemplateXdr := some (.of template)
  delegatedSignedAuthEntryBase64 := none
  delegatedSignerAddress := some signerAddress
  createdAt := createdAt
  tag := tag

inductive Write where
  | insertMultisigProposal (row : ProposalRow)
  | updateMultisigProposalRebuild (id : Uuid) (built : BuiltProposalArtifacts)
  | updateMultisigProposalExecuted (id : Uuid) (txHash : Option String)
  | deleteMultisigApprovalsForProposal (proposalID : Uuid)
  | upsertMultisigApprovalWebauthn (row : ApprovalRow)
  | upsertMultisigApprovalDelegatedBegin (row : ApprovalRow)
  | updateMultisigApprovalDelegatedFinish (proposalID memberID : Uuid) (signed : Encoded Bytes)
      (signerAddress : Option String) (tag : String)

def Write.proposalID : Write → Uuid
  | .insertMultisigProposal row => row.id
  | .updateMultisigProposalRebuild id _ => id
  | .updateMultisigProposalExecuted id _ => id
  | .deleteMultisigApprovalsForProposal id => id
  | .upsertMultisigApprovalWebauthn row => row.proposalID
  | .upsertMultisigApprovalDelegatedBegin row => row.proposalID
  | .updateMultisigApprovalDelegatedFinish id _ _ _ _ => id

def setWebauthn (row r : ApprovalRow) : ApprovalRow :=
  { r with
    approvalType := .webauthn
    webauthnSigDataXdrHex := row.webauthnSigDataXdrHex
    tag := row.tag }

def setDelegatedBegin (row r : ApprovalRow) : ApprovalRow :=
  { r with
    approvalType := .delegated
    delegatedEntryTemplateXdr := row.delegatedEntryTemplateXdr
    delegatedSignerAddress := row.delegatedSignerAddress
    delegatedSignedAuthEntryBase64 := none
    tag := row.tag }

def setDelegatedFinish (signed : Encoded Bytes) (signerAddress : Option String) (tag : String)
    (r : ApprovalRow) : ApprovalRow :=
  { r with
    delegatedSignedAuthEntryBase64 := some signed
    delegatedSignerAddress := signerAddress
    tag := tag }

def isRow (id : Uuid) (r : ProposalRow) : Bool := decide (r.id = id)

def Db.write (db : Db) : Write → Option Db
  | .insertMultisigProposal row =>
    (db.proposals.insert row).map fun t => { db with proposals := t }
  | .updateMultisigProposalRebuild id built =>
    some { db with
      proposals := db.proposals.update (isRow id) (fun r => { r with built := built })
        fun _ => ⟨rfl, rfl⟩ }
  | .updateMultisigProposalExecuted id txHash =>
    some { db with
      proposals := db.proposals.update (isRow id)
        (fun r => { r with status := .executed, executedTxHash := txHash }) fun _ => ⟨rfl, rfl⟩ }
  | .deleteMultisigApprovalsForProposal id =>
    some { db with approvals := db.approvals.delete fun r => decide (r.proposalID = id) }
  | .upsertMultisigApprovalWebauthn row =>
    (db.approvals.upsert row (setWebauthn row) fun _ => ⟨rfl, rfl⟩).map fun t =>
      { db with approvals := t }
  | .upsertMultisigApprovalDelegatedBegin row =>
    (db.approvals.upsert row (setDelegatedBegin row) fun _ => ⟨rfl, rfl⟩).map fun t =>
      { db with approvals := t }
  | .updateMultisigApprovalDelegatedFinish proposalID memberID signed signerAddress tag =>
    some { db with
      approvals := db.approvals.update (fun r => decide (r.key = (proposalID, memberID)))
        (setDelegatedFinish signed signerAddress tag) fun _ => ⟨rfl, rfl⟩ }

def Db.proposal (db : Db) (id : Uuid) : Option ProposalRow := db.proposals.find (isRow id)

def Db.approvalsOf (db : Db) (id : Uuid) : List ApprovalRow :=
  db.approvals.rows.filter fun r => decide (r.proposalID = id)

end LatchApi.Multisig
