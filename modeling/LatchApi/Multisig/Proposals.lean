import LatchApi.Multisig.Operations

namespace LatchApi.Multisig

open Lib Program Soroban Store Bundler

structure RefreshResult where
  refreshed : Bool
  validUntilLedger : UInt32
  authDigestHex : String

structure ProposalSummary where
  id : Uuid
  authDigestHex : String
  validUntilLedger : UInt32
  contextRuleID : UInt32
  signaturePayloadHex : String

structure DelegatedBeginResult where
  authDigestHex : String
  preimage : Bytes
  template : SorobanAuthorizationEntry
  signerAddress : String
  validUntilLedger : UInt32

section Ownership

def accountAccessGranted (account : AccountRow) (userID : Uuid) : Service Bool := do
  if account.userID = userID then return true
  else
    let members ← orDbError "list multisig members"
      (← runQuery (.listMultisigMembersForAccount account.id))
    return members.any fun m => decide (m.userID = some userID)

def requireAccess (account : AccountRow) (userID : Uuid) : Service AccountRow := do
  if ← accountAccessGranted account userID then return account
  else .fail .accountNotFound

def getOwnedAccountByAddress (address : String) (userID : Uuid) : Service AccountRow := do
  let account ← orMissing .accountNotFound "get multisig account"
    (← runQuery (.getMultisigAccountByAddress address))
  requireAccess account userID

def getOwnedAccountByID (accountID userID : Uuid) : Service AccountRow := do
  let account ← orMissing .accountNotFound "get multisig account"
    (← runQuery (.getMultisigAccountByID accountID))
  requireAccess account userID

def getOwnedProposal (proposalID : Option Uuid) (userID : Uuid) :
    Service (ProposalRow × AccountRow) := do
  let some pid := proposalID | .fail .proposalNotFound
  let proposal ← orMissing .proposalNotFound "get multisig proposal"
    (← runQuery (.getMultisigProposalByID pid))
  match ← (getOwnedAccountByID proposal.multisigAccountID userID).attempt with
  | .ok account => return (proposal, account)
  | .error _ => .fail .proposalNotFound

def mayActAs (account : AccountRow) (member : MemberRow) (callerUserID : Uuid)
    (expectedType : MemberType) : Except MultisigError Unit :=
  if member.multisigAccountID ≠ account.id then .error .memberNotFound
  else if member.memberType ≠ expectedType then .error .wrongMemberType
  else if account.userID ≠ callerUserID ∧ member.userID ≠ some callerUserID then
    .error .memberNotFound
  else .ok ()

def getOwnedMember (account : AccountRow) (callerUserID : Uuid) (memberID : Option Uuid)
    (expectedType : MemberType) : Service MemberRow := do
  let some mid := memberID | .fail .memberNotFound
  let member ← orMissing .memberNotFound "get multisig member"
    (← runQuery (.getMultisigMemberByID mid))
  ofExcept (mayActAs account member callerUserID expectedType)
  return member

def requirePending (proposal : ProposalRow) : Except MultisigError Unit :=
  if proposal.status = .pending then .ok () else .error .notPending

def getPendingProposal (proposalID : Option Uuid) (userID : Uuid) :
    Service (ProposalRow × AccountRow) := do
  let (proposal, account) ← getOwnedProposal proposalID userID
  ofExcept (requirePending proposal)
  return (proposal, account)

end Ownership

def newProposalRow (id : Uuid) (account : AccountRow) (userID : Uuid) (op : ProposalOperation)
    (kind : OperationKind) (built : BuiltProposalArtifacts) (createdAt : Int) : ProposalRow where
  id := id
  multisigAccountID := account.id
  createdByUserID := userID
  targetContractID := op.targetContractID
  operationKind := kind
  operationParams := op.params
  built := built
  status := .pending
  executedTxHash := none
  createdAt := createdAt

variable (cfg : TxConfig)

def createProposal (userID : Uuid) (input : CreateProposalInput) (catalog : List CatalogAsset) :
    Service ProposalSummary := do
  let account ← getOwnedAccountByAddress input.smartAccountAddress userID
  let op ← buildOperation input catalog
  let (built, discovery) ← simulateAndExtract cfg input.smartAccountAddress op
  if input.requireMatchedContextRule ∧ discovery ≠ .matched then .fail .noContextRule
  else
    let id ← newUUID
    let createdAt ← now
    let id ← orDbError "insert multisig proposal" (← runWrite (.insertMultisigProposal
      (newProposalRow id account userID op input.operationKind built createdAt)))
    return ⟨id, built.authDigestHex, built.validUntilLedger, built.contextRuleID,
      built.signaturePayloadHex⟩

def rebuildProposal (proposal : ProposalRow) (account : AccountRow) : Service RefreshResult := do
  let op ← ofExcept (reconstructOperation account.smartAccountAddress proposal.operationKind
    proposal.targetContractID proposal.operationParams)
  let (built, _) ← simulateAndExtract cfg account.smartAccountAddress op
  let _ ← orDbError "clear stale approvals"
    (← runWrite (.deleteMultisigApprovalsForProposal proposal.id))
  let _ ← orDbError "persist rebuilt proposal"
    (← runWrite (.updateMultisigProposalRebuild proposal.id built))
  return ⟨true, built.validUntilLedger, built.authDigestHex⟩

def refreshProposal (userID : Uuid) (proposalID : Option Uuid) : Service RefreshResult := do
  let (proposal, account) ← getPendingProposal proposalID userID
  rebuildProposal cfg proposal account

def isAuthExpired (validUntilLedger : UInt32) : Service Bool := do
  let latest ← orRpcError "get latest ledger" (← latestLedger)
  if validUntilLedger < multisigExpirySafetyLedgers then return true
  else
    return decide (validUntilLedger - multisigExpirySafetyLedgers ≤ latest.toUInt64.toUInt32)

def ensureFresh (proposal : ProposalRow) (account : AccountRow) : Service Unit := do
  if ← isAuthExpired proposal.built.validUntilLedger then
    let _ ← rebuildProposal cfg proposal account
    .fail .refreshed
  else return ()

def approveWebauthn (userID : Uuid) (proposalID memberID : Option Uuid) (sigDataXdrHex : String) :
    Service Uuid := do
  let (proposal, account) ← getPendingProposal proposalID userID
  let member ← getOwnedMember account userID memberID .webauthn
  let id ← newUUID
  let createdAt ← now
  orDbError "upsert webauthn approval" (← runWrite (.upsertMultisigApprovalWebauthn
    (webauthnApproval id proposal.id member.id (nullStr (normalizeHex sigDataXdrHex)) createdAt
      proposal.built.authDigestHex)))

def orAssembleError {α : Type} (x : Except AssembleError α) : Except MultisigError α :=
  x.mapError .assemble

def buildDelegatedCheckAuthTemplate (smartAccountAddress signerG : String)
    (entry : SorobanAuthorizationEntry) (contextRuleIDs : List UInt32) (validUntil : UInt32) :
    Service (Bytes × SorobanAuthorizationEntry) := do
  let some digest := computeAuthDigest entry cfg.networkPassphrase contextRuleIDs
    | .fail .notAddressCredentials
  let smartAccount ← ofExcept
    (orInvalid "resolve smart account address" (scAddressFromString smartAccountAddress))
  let signer ← ofExcept (orInvalid "resolve signer address" (scAddressFromString signerG))
  let nonce ← orRpcError "generate nonce entropy" (← randomNonce48)
  return (digest, checkAuthEntry smartAccount signer digest nonce validUntil)

def requireGAddress (member : MemberRow) : Except MultisigError String :=
  if strOrEmpty member.gAddress = "" then .error .wrongMemberType
  else .ok (strOrEmpty member.gAddress)

def orEntryIndex {α : Type} : Option α → Except MultisigError α := orError .smartAccountEntryIndex

def approveDelegatedBegin (userID : Uuid) (proposalID memberID : Option Uuid) :
    Service DelegatedBeginResult := do
  let (proposal, account) ← getPendingProposal proposalID userID
  ensureFresh cfg proposal account
  let member ← getOwnedMember account userID memberID .delegated
  let gAddress ← ofExcept (requireGAddress member)
  let entries ← ofExcept (orAssembleError (storedEntries proposal.built))
  let (_, entry) ← ofExcept
    (orEntryIndex (smartAccountEntryAt entries proposal.built.smartAccountAuthEntryIndex))
  let (digest, template) ← buildDelegatedCheckAuthTemplate cfg account.smartAccountAddress gAddress
    entry (contextRuleIDsForEntry entry proposal.built.contextRuleID) proposal.built.validUntilLedger
  let id ← newUUID
  let createdAt ← now
  let _ ← orDbError "upsert delegated approval" (← runWrite (.upsertMultisigApprovalDelegatedBegin
    (delegatedApproval id proposal.id member.id template gAddress createdAt
      proposal.built.authDigestHex)))
  return ⟨hexEncode digest, (sorobanAuthPreimageBytes template cfg.networkPassphrase).getD [],
    template, gAddress, proposal.built.validUntilLedger⟩

def startedTemplate (approval : ApprovalRow) : Except MultisigError (Encoded SorobanAuthorizationEntry) :=
  match approval.delegatedEntryTemplateXdr with
  | none => .error .approvalNotStarted
  | some template => if isEmptyTemplate template then .error .approvalNotStarted else .ok template

def approveDelegatedFinish (X : Codec) (userID : Uuid) (proposalID memberID : Option Uuid)
    (signed : Encoded Bytes) (signerAddress : String) :
    Service Uuid := do
  let (proposal, account) ← getPendingProposal proposalID userID
  let member ← getOwnedMember account userID memberID .delegated
  let existing ← orMissing .approvalNotStarted "get existing approval"
    (← runQuery (.getMultisigApprovalByProposalAndMember proposal.id member.id))
  let template ← ofExcept (startedTemplate existing)
  ofExcept ((verifyDelegatedSignature X template signed signerAddress cfg.networkPassphrase).mapError
    .delegated)
  let _ ← orDbError "update delegated approval" (← runWrite
    (.updateMultisigApprovalDelegatedFinish proposal.id member.id signed (nullStr signerAddress)
      proposal.built.authDigestHex))
  return existing.id

def orSubmitError {α : Type} : Except SubmitError α → Service α := orFail .submit

def executeProposal (X : Codec) (userID : Uuid) (proposalID : Option Uuid) :
    Service SubmitResult := do
  let (proposal, account) ← getPendingProposal proposalID userID
  ensureFresh cfg proposal account
  let rows ← orDbError "list approvals"
    (← runQuery (.listMultisigApprovalsWithMemberForProposal proposal.id))
  let execution ← ofExcept
    (orAssembleError (assembleExecution cfg X proposal.built account.threshold rows))
  let result ← orSubmitError (← submitAuthEntries ⟨proposal, account, execution⟩)
  let _ ← orDbError "persist execution result" (← runWrite
    (.updateMultisigProposalExecuted proposal.id (nullStr result.hash)))
  return result

end LatchApi.Multisig
