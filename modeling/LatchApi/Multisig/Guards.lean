import LatchApi.Multisig.Consistent
import LatchApi.Multisig.Requests

/-!
What a request has done before each of its operations. A request reads its proposal once
and writes last; a rebuild clears the approvals first.
-/

namespace LatchApi.Multisig

open Lib Program Soroban Store Bundler

abbrev History := Log MsRes

section Views

def rowRead : Event MsRes → Option ProposalRow
  | ⟨.read (.getMultisigProposalByID _), r⟩ => r.toOption
  | _ => none

def accountRead : Event MsRes → Option (Uuid × AccountRow)
  | ⟨.read (.getMultisigAccountByID id), r⟩ => r.toOption.map fun row => (id, row)
  | _ => none

def memberRead : Event MsRes → Option MemberRow
  | ⟨.read (.getMultisigMemberByID _), r⟩ => r.toOption
  | _ => none

def approvalRead : Event MsRes → Option (Uuid × Uuid × ApprovalRow)
  | ⟨.read (.getMultisigApprovalByProposalAndMember p m), r⟩ => r.toOption.map fun row => (p, m, row)
  | _ => none

def listed : Event MsRes → Option (Uuid × List ApprovalWithMember)
  | ⟨.read (.listMultisigApprovalsWithMemberForProposal p), r⟩ => r.toOption.map fun rows => (p, rows)
  | _ => none

def accountFound : Event MsRes → Option AccountRow
  | ⟨.read (.getMultisigAccountByAddress _), r⟩ => r.toOption
  | _ => none

def membersListed : Event MsRes → Option (Uuid × List MemberRow)
  | ⟨.read (.listMultisigMembersForAccount a), r⟩ => r.toOption.map fun rows => (a, rows)
  | _ => none

def writeOf : Event MsRes → Option Write
  | ⟨.write w, _⟩ => some w
  | _ => none

def rowsRead (h : History) : List ProposalRow := h.filterMap rowRead

def accountsRead (h : History) : List (Uuid × AccountRow) := h.filterMap accountRead

def membersRead (h : History) : List MemberRow := h.filterMap memberRead

def approvalsRead (h : History) : List (Uuid × Uuid × ApprovalRow) := h.filterMap approvalRead

def listings (h : History) : List (Uuid × List ApprovalWithMember) := h.filterMap listed

def writes (h : History) : List Write := h.filterMap writeOf

def clearedIn : Event MsRes → Option Uuid
  | ⟨.write (.deleteMultisigApprovalsForProposal p), .ok _⟩ => some p
  | _ => none

def cleared (h : History) : List Uuid := h.filterMap clearedIn

end Views

def MsOp.quiet : MsOp → Bool
  | .read (.getMultisigProposalByID _) => false
  | .write _ => false
  | .submitAuthEntries _ => false
  | _ => true

structure PendingRead (h : History) (r : ProposalRow) (p : Uuid) : Prop where
  rows : rowsRead h = [r]
  pending : r.status = .pending
  id : r.id = p

def TemplateFor (h : History) (r : ProposalRow) (row : ApprovalRow) : Prop :=
  ∃ account member g smartAccount signer digest nonce id createdAt,
    (r.multisigAccountID, account) ∈ accountsRead h ∧ member ∈ membersRead h ∧
    member.multisigAccountID = account.id ∧ member.gAddress = some g ∧ g ≠ "" ∧
    scAddressFromString account.smartAccountAddress = some smartAccount ∧
    scAddressFromString g = some signer ∧
    row = delegatedApproval id r.id member.id
      (checkAuthEntry smartAccount signer digest nonce r.built.validUntilLedger) g createdAt
      r.built.authDigestHex

def CheckedSignature (cfg : TxConfig) (X : Codec) (h : History) (p m : Uuid)
    (signed : Encoded Bytes) (signerAddress : Option String) : Prop :=
  ∃ existing template signer, (p, m, existing) ∈ approvalsRead h ∧
    existing.delegatedEntryTemplateXdr = some template ∧ signerAddress = nullStr signer ∧
    verifyDelegatedSignature X template signed signer cfg.networkPassphrase = .ok ()

def WriteGuard (cfg : TxConfig) (X : Codec) (h : History) (r : ProposalRow) : Write → Prop
  | .insertMultisigProposal _ => False
  | .updateMultisigProposalRebuild p built => built.Coherent cfg ∧
      writes h = [.deleteMultisigApprovalsForProposal p] ∧ p ∈ cleared h
  | .updateMultisigProposalExecuted _ _ => writes h = []
  | .deleteMultisigApprovalsForProposal _ => writes h = []
  | .upsertMultisigApprovalWebauthn row => writes h = [] ∧ ∃ id memberID sigData createdAt,
      row = webauthnApproval id r.id memberID sigData createdAt r.built.authDigestHex
  | .upsertMultisigApprovalDelegatedBegin row => writes h = [] ∧ TemplateFor h r row
  | .updateMultisigApprovalDelegatedFinish p m signed signerAddress tag => writes h = [] ∧
      CheckedSignature cfg X h p m signed signerAddress ∧ tag = r.built.authDigestHex

structure JobGuard (cfg : TxConfig) (X : Codec) (req : Request) (h : History) (job : Job) : Prop where
  read : PendingRead h job.proposal job.proposal.id
  account : (job.proposal.multisigAccountID, job.account) ∈ accountsRead h
  executes : ∃ userID proposalID, req = .execute userID proposalID
  assembled : ∃ rows, (job.proposal.id, rows) ∈ listings h ∧
    assembleExecution cfg X job.proposal.built job.account.threshold rows = .ok job.execution

def guard (cfg : TxConfig) (X : Codec) (req : Request) (h : History) : MsOp → Prop
  | .write (.insertMultisigProposal row) => writes h = [] ∧ rowsRead h = [] ∧
      row.status = .pending ∧ row.built.Coherent cfg
  | .write w => ∃ r, PendingRead h r w.proposalID ∧ WriteGuard cfg X h r w
  | .read (.getMultisigProposalByID _) => h = []
  | .submitAuthEntries job => writes h = [] ∧ JobGuard cfg X req h job
  | _ => writes h = []

def discipline (cfg : TxConfig) (X : Codec) (req : Request) : Discipline MsOp MsRes where
  legal _ _ := True
  guard := guard cfg X req

section Access

def Request.userID : Request → Uuid
  | .create userID _ _ => userID
  | .refresh userID _ => userID
  | .approveWebauthn userID _ _ _ => userID
  | .approveDelegatedBegin userID _ _ => userID
  | .approveDelegatedFinish userID _ _ _ _ => userID
  | .execute userID _ => userID
  | .register userID _ => userID

def Write.memberID : Write → Option Uuid
  | .upsertMultisigApprovalWebauthn row => some row.memberID
  | .upsertMultisigApprovalDelegatedBegin row => some row.memberID
  | .updateMultisigApprovalDelegatedFinish _ memberID _ _ _ => some memberID
  | _ => none

def Granted (userID : Uuid) (h : History) (account : AccountRow) : Prop :=
  account.userID = userID ∨ ∃ rows, (account.id, rows) ∈ h.filterMap membersListed ∧
    ∃ m ∈ rows, m.userID = some userID

def ActsAs (userID : Uuid) (h : History) (account : AccountRow) (memberID : Uuid) : Prop :=
  ∃ member ∈ membersRead h, member.id = memberID ∧ member.multisigAccountID = account.id ∧
    (account.userID = userID ∨ member.userID = some userID)

def Access (userID : Uuid) (h : History) : MsOp → Prop
  | .write (.insertMultisigProposal row) => ∃ account ∈ h.filterMap accountFound,
      row.multisigAccountID = account.id ∧ Granted userID h account
  | .write w => ∃ r account, rowsRead h = [r] ∧ r.id = w.proposalID ∧
      (r.multisigAccountID, account) ∈ accountsRead h ∧ Granted userID h account ∧
      ∀ m ∈ w.memberID, ActsAs userID h account m
  | _ => True

end Access

section Built

def foundAt : Event MsRes → Option (String × AccountRow)
  | ⟨.read (.getMultisigAccountByAddress address), r⟩ => r.toOption.map fun row => (address, row)
  | _ => none

def BuildGuard (cfg : TxConfig) (h : History) : MsOp → Prop
  | .write (.insertMultisigProposal row) => ∃ address account,
      (address, account) ∈ h.filterMap foundAt ∧ row.multisigAccountID = account.id ∧
        row.Consistent cfg address
  | .write (.updateMultisigProposalRebuild p built) => ∃ r account, r ∈ rowsRead h ∧ r.id = p ∧
      (r.multisigAccountID, account) ∈ accountsRead h ∧
        ({ r with built := built } : ProposalRow).Consistent cfg account.smartAccountAddress
  | _ => True

def buildDiscipline (cfg : TxConfig) : Discipline MsOp MsRes where
  legal _ _ := True
  guard := BuildGuard cfg

def BuiltFor (cfg : TxConfig) (address : String) (op : ProposalOperation)
    (built : BuiltProposalArtifacts) : Prop :=
  ∃ contextRuleID sim rest,
    extractArtifacts cfg address op.hostFunction contextRuleID sim = .ok (built, rest)

def MsOp.tame : MsOp → Prop
  | .write (.insertMultisigProposal row) => row.status = .pending
  | .write (.updateMultisigProposalExecuted _ _) => False
  | _ => True

def submittedIn : Event MsRes → Option String
  | ⟨.submitAuthEntries _, .ok result⟩ => some result.hash
  | _ => none

def submittedFirst : Discipline MsOp MsRes where
  legal _ _ := True
  guard h
    | .write (.updateMultisigProposalExecuted _ txHash) =>
      ∃ hash ∈ h.filterMap submittedIn, txHash = nullStr hash
    | op => op.tame

end Built

def fullDiscipline (cfg : TxConfig) (X : Codec) (req : Request) : Discipline MsOp MsRes where
  legal _ _ := True
  guard h op := guard cfg X req h op ∧ Access req.userID h op ∧ BuildGuard cfg h op ∧
    submittedFirst.guard h op

theorem guard_of_quiet {cfg : TxConfig} {X : Codec} {req : Request} {h : History} {op : MsOp}
    (hq : op.quiet = true) (hw : writes h = []) : (fullDiscipline cfg X req).guard h op := by
  cases op with
  | read q => cases q <;> first | exact ⟨hw, trivial, trivial, trivial⟩ | cases hq
  | write w => cases hq
  | submitAuthEntries job => cases hq
  | _ => exact ⟨hw, trivial, trivial, trivial⟩

end LatchApi.Multisig
