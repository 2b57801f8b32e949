import LatchApi.Multisig.Proposals

namespace LatchApi.Multisig

open Lib Program Soroban Store Bundler

def minAccountSigners : Nat := 2

structure RegisterMemberInput where
  type : MemberType
  keyDataHex : String
  credentialID : String
  gAddress : String
  label : String

structure RegisterAccountInput where
  smartAccountAddress : String
  threshold : Int
  accountSaltHex : String
  members : List RegisterMemberInput

def validateRegistration (input : RegisterAccountInput) : Except MultisigError Unit :=
  if input.threshold < 1 then .error (.signerValidation "threshold must be at least 1")
  else if input.smartAccountAddress = "" then
    .error (.signerValidation "smartAccountAddress is required")
  else if input.accountSaltHex = "" then .error (.signerValidation "accountSaltHex is required")
  else if input.members.length < minAccountSigners then
    .error (.signerValidation "at least 2 members are required")
  else if (input.members.length : Int) < input.threshold then
    .error (.signerValidation "threshold cannot exceed the number of members")
  else .ok ()

def newUUIDs : Nat → Service (List Uuid)
  | 0 => .ok []
  | n + 1 => do
    let id ← newUUID
    let ids ← newUUIDs n
    return id :: ids

def memberRow (userID : Uuid) (own : List String) (createdAt : Int) (id : Uuid)
    (m : RegisterMemberInput) : MemberRow where
  id := id
  multisigAccountID := 0
  memberType := m.type
  label := nullStr m.label
  keyDataHex := nullStr m.keyDataHex
  credentialID := nullStr m.credentialID
  gAddress := nullStr m.gAddress
  createdAt := createdAt
  userID := if m.type = .webauthn ∧ m.credentialID ≠ "" ∧ m.credentialID ∈ own then some userID
    else none

structure RegisteredAccount where
  id : Uuid
  memberIDs : List Uuid

def registerAccount (userID : Uuid) (input : RegisterAccountInput) : Service RegisteredAccount := do
  ofExcept (validateRegistration input)
  let own ← orDbError "list caller webauthn credentials" (← perform (MsOp.ownCredentialIDs userID))
  let id ← newUUID
  let createdAt ← now
  let membersCreatedAt ← now
  let ids ← newUUIDs input.members.length
  let (accountID, memberIDs) ← orDbError "register multisig account" (← perform (MsOp.registerTx
    ⟨id, userID, input.smartAccountAddress, input.threshold.toNat, input.accountSaltHex, createdAt⟩
    (List.zipWith (memberRow userID own membersCreatedAt) ids input.members)))
  return ⟨accountID, memberIDs⟩

inductive Request where
  | create (userID : Uuid) (input : CreateProposalInput) (catalog : List CatalogAsset)
  | refresh (userID : Uuid) (proposalID : Option Uuid)
  | approveWebauthn (userID : Uuid) (proposalID memberID : Option Uuid) (sigDataXdrHex : String)
  | approveDelegatedBegin (userID : Uuid) (proposalID memberID : Option Uuid)
  | approveDelegatedFinish (userID : Uuid) (proposalID memberID : Option Uuid)
      (signed : Encoded Bytes) (signerAddress : String)
  | execute (userID : Uuid) (proposalID : Option Uuid)
  | register (userID : Uuid) (input : RegisterAccountInput)

inductive Reply where
  | created (summary : ProposalSummary)
  | refreshed (result : RefreshResult)
  | approved (id : Uuid)
  | begun (result : DelegatedBeginResult)
  | executed (result : SubmitResult)
  | registered (account : RegisteredAccount)

variable (cfg : TxConfig) (X : Codec)

def Request.body : Request → Service Reply
  | .create userID input catalog => do return .created (← createProposal cfg userID input catalog)
  | .refresh userID proposalID => do return .refreshed (← refreshProposal cfg userID proposalID)
  | .approveWebauthn userID proposalID memberID sigDataXdrHex => do
    return .approved (← Multisig.approveWebauthn userID proposalID memberID sigDataXdrHex)
  | .approveDelegatedBegin userID proposalID memberID => do
    return .begun (← Multisig.approveDelegatedBegin cfg userID proposalID memberID)
  | .approveDelegatedFinish userID proposalID memberID signed signerAddress => do
    return .approved
      (← Multisig.approveDelegatedFinish cfg X userID proposalID memberID signed signerAddress)
  | .execute userID proposalID => do return .executed (← executeProposal cfg X userID proposalID)
  | .register userID input => do return .registered (← registerAccount userID input)

abbrev MsThread := Thread Request MsOp MsRes MultisigError Reply

abbrev MsRun := Config Request MsOp MsRes MultisigError Reply State

abbrev MsSchedule := System.Schedule Request MsOp MsRes MultisigError Reply State

def multisigSystem : System Request MsOp MsRes MultisigError Reply State Choice ChainEvent where
  body req := req.body cfg X
  exec _ op s c := exec cfg op s c
  world e s := (s.chain.step e).map fun chain => { s with chain := chain }

end LatchApi.Multisig
