import LatchApi.Multisig.ExecuteAuth

namespace LatchApi.Multisig

open Lib Soroban Store Bundler

inductive Query where
  | getMultisigProposalByID (id : Uuid)
  | getMultisigAccountByAddress (address : String)
  | getMultisigAccountByID (id : Uuid)
  | listMultisigMembersForAccount (accountID : Uuid)
  | getMultisigMemberByID (id : Uuid)
  | getMultisigApprovalByProposalAndMember (proposalID memberID : Uuid)
  | listMultisigApprovalsWithMemberForProposal (proposalID : Uuid)

@[reducible] def Query.Answer : Query → Type
  | .getMultisigProposalByID _ => ProposalRow
  | .getMultisigAccountByAddress _ => AccountRow
  | .getMultisigAccountByID _ => AccountRow
  | .listMultisigMembersForAccount _ => List MemberRow
  | .getMultisigMemberByID _ => MemberRow
  | .getMultisigApprovalByProposalAndMember _ _ => ApprovalRow
  | .listMultisigApprovalsWithMemberForProposal _ => List ApprovalWithMember

inductive ContextRuleDiscovery where
  | matched
  | default
  | fallback
deriving DecidableEq

structure OperationSimulation where
  error : String
  auth : Option (List (Encoded SorobanAuthorizationEntry))
  latestLedger : Int64
  transactionData : Encoded Bytes

structure Job where
  proposal : ProposalRow
  account : AccountRow
  execution : Execution

inductive MsOp where
  | read (q : Query)
  | write (w : Write)
  | registerTx (account : AccountRow) (members : List MemberRow)
  | ownCredentialIDs (userID : Uuid)
  | newUUID
  | now
  | randomNonce48
  | fetchSACBalance (contractID holder : String)
  | discoverContextRule (smartAccountAddress targetContractID : String)
  | ledgerSequence (account : String)
  | buildTransaction (tx : Transaction)
  | simulate (tx : Transaction)
  | latestLedger
  | submitAuthEntries (job : Job)

@[reducible] def MsRes : MsOp → Type
  | .read q => Except DbError q.Answer
  | .write _ => Except DbError Uuid
  | .registerTx _ _ => Except DbError (Uuid × List Uuid)
  | .ownCredentialIDs _ => Except DbError (List String)
  | .newUUID => Uuid
  | .now => Int
  | .randomNonce48 => Except RpcError Int64
  | .fetchSACBalance _ _ => Except RpcError (Int64 × UInt64)
  | .discoverContextRule _ _ => Except RpcError (UInt32 × ContextRuleDiscovery)
  | .ledgerSequence _ => Except RpcError Int
  | .buildTransaction _ => Except RpcError Unit
  | .simulate _ => Except RpcError OperationSimulation
  | .latestLedger => Except RpcError Int64
  | .submitAuthEntries _ => Except SubmitError SubmitResult

abbrev NonceKey := ScAddress × Int64

def nonceKey (e : SorobanAuthorizationEntry) : Option NonceKey :=
  e.addressCredentials.map fun creds => (creds.address, creds.nonce)

structure SentTx where
  proposalID : Uuid
  entries : AuthEntries

def SentTx.keys (tx : SentTx) : List NonceKey := tx.entries.filterMap nonceKey

/-- `issued` are the nonces of all simulations; nothing the services do depends on it. -/
structure Chain where
  live : List SentTx
  settled : List SentTx
  issued : List NonceKey

def Chain.empty : Chain := ⟨[], [], []⟩

inductive ChainEvent where
  | settle (i : Nat)
  | drop (i : Nat)

def Chain.step (chain : Chain) : ChainEvent → Option Chain
  | .settle i =>
    match chain.live[i]? with
    | none => none
    | some tx =>
      if tx.keys.any fun k => chain.settled.any fun other => decide (k ∈ other.keys) then none
      else some { chain with live := chain.live.eraseIdx i, settled := chain.settled ++ [tx] }
  | .drop i => some { chain with live := chain.live.eraseIdx i }

structure State where
  db : Db
  chain : Chain

/-- Everything the services do not control. `order` decides between rows of the same age,
`rpc` is what the submitting service hears, `accepted` whether the network got what it sent. -/
structure Choice where
  fault : Fault := .none
  order : List Uuid := []
  uuid : Uuid := 0
  time : Int := 0
  credentialIDs : List String := []
  nonce : Except RpcError Int64 := .error .failed
  balance : Except RpcError (Int64 × UInt64) := .error .failed
  rule : Except RpcError (UInt32 × ContextRuleDiscovery) := .error .failed
  sequence : Except RpcError Int := .error .failed
  built : Except RpcError Unit := .ok ()
  simulation : Except RpcError OperationSimulation := .error .failed
  ledger : Except RpcError Int64 := .error .failed
  rpc : Script TxRes
  accepted : Bool := false

def rowOrder {ρ : Type} (createdAt : ρ → Int) (id : ρ → Uuid) (order : List Uuid) (a b : ρ) : Prop :=
  createdAt a < createdAt b ∨ (createdAt a = createdAt b ∧ order.idxOf (id a) ≤ order.idxOf (id b))

instance {ρ : Type} (createdAt : ρ → Int) (id : ρ → Uuid) (order : List Uuid) :
    DecidableRel (rowOrder createdAt id order) := fun _ _ =>
  inferInstanceAs (Decidable (_ ∨ (_ ∧ _)))

def Db.withMember (db : Db) (a : ApprovalRow) : Option ApprovalWithMember :=
  (db.members.find fun m => decide (m.id = a.memberID)).map fun m => ⟨a, m⟩

def Query.answer (db : Db) (order : List Uuid) : (q : Query) → Except DbError q.Answer
  | .getMultisigProposalByID id => orNoRows (db.proposal id)
  | .getMultisigAccountByAddress address =>
    orNoRows (db.accounts.find fun r => decide (r.smartAccountAddress = address))
  | .getMultisigAccountByID id => orNoRows (db.accounts.find fun r => decide (r.id = id))
  | .listMultisigMembersForAccount accountID =>
    .ok ((db.members.rows.filter fun r => decide (r.multisigAccountID = accountID)).insertionSort
      (rowOrder MemberRow.createdAt MemberRow.id order))
  | .getMultisigMemberByID id => orNoRows (db.members.find fun r => decide (r.id = id))
  | .getMultisigApprovalByProposalAndMember proposalID memberID =>
    orNoRows (db.approvals.find fun r => decide (r.key = (proposalID, memberID)))
  | .listMultisigApprovalsWithMemberForProposal proposalID =>
    .ok (((db.approvalsOf proposalID).insertionSort
      (rowOrder ApprovalRow.createdAt ApprovalRow.id order)).filterMap db.withMember)

section Register

def MemberRow.conflicts (row r : MemberRow) : Bool :=
  decide (r.multisigAccountID = row.multisigAccountID) &&
    if row.memberType = .delegated then row.gAddress.isSome && r.gAddress == row.gAddress
    else row.credentialID.isSome && r.credentialID == row.credentialID

def MemberRow.clashes (row r : MemberRow) : Bool :=
  decide (r.multisigAccountID = row.multisigAccountID) &&
    ((row.gAddress.isSome && r.gAddress == row.gAddress) ||
      (row.credentialID.isSome && r.credentialID == row.credentialID))

def setMember (row r : MemberRow) : MemberRow :=
  { r with
    memberType := row.memberType
    label := row.label
    keyDataHex := if row.memberType = .delegated then r.keyDataHex else row.keyDataHex
    userID := row.userID.or r.userID }

def Db.upsertMember (db : Db) (row : MemberRow) : Option (Db × Uuid) :=
  match db.members.find row.conflicts with
  | some r => some ({ db with
      members := db.members.update (fun r' => decide (r'.id = r.id)) (setMember row)
        fun _ => ⟨rfl, rfl⟩ }, r.id)
  | none =>
    if db.members.rows.any row.clashes then none
    else (db.members.insert row).map fun t => ({ db with members := t }, row.id)

def Db.upsertMembers (db : Db) : List MemberRow → Option (Db × List Uuid)
  | [] => some (db, [])
  | row :: rows => do
    let (db, id) ← db.upsertMember row
    let (db, ids) ← db.upsertMembers rows
    return (db, id :: ids)

def setAccount (row r : AccountRow) : AccountRow :=
  { r with threshold := row.threshold, accountSaltHex := row.accountSaltHex }

def Db.register (db : Db) (account : AccountRow) (members : List MemberRow) :
    Option (Db × Uuid × List Uuid) := do
  let accounts ← db.accounts.upsert account (setAccount account) fun _ => ⟨rfl, rfl⟩
  let row ← accounts.find fun r => decide (r.smartAccountAddress = account.smartAccountAddress)
  let (db, ids) ← Db.upsertMembers { db with accounts := accounts }
    (members.map fun m => { m with multisigAccountID := row.id })
  return (db, row.id, ids)

end Register

def Db.idOf (db : Db) : Write → Uuid
  | .insertMultisigProposal row => row.id
  | .updateMultisigProposalRebuild id _ => id
  | .updateMultisigProposalExecuted id _ => id
  | .deleteMultisigApprovalsForProposal id => id
  | .upsertMultisigApprovalWebauthn row => approvalID row.key
  | .upsertMultisigApprovalDelegatedBegin row => approvalID row.key
  | .updateMultisigApprovalDelegatedFinish proposalID memberID _ _ _ => approvalID (proposalID, memberID)
where
  approvalID (key : Uuid × Uuid) : Uuid :=
    ((db.approvals.find fun r => decide (r.key = key)).map ApprovalRow.id).getD 0

def settle {α : Type} (s : State) (fault : Fault) (change : Option (Db × α)) :
    Except DbError α × State :=
  match fault, change with
  | .before, _ => (.error .failed, s)
  | _, none => (.error .failed, s)
  | .none, some (db, a) => (.ok a, { s with db := db })
  | .after, some (db, _) => (.error .failed, { s with db := db })

def Job.txXdr (job : Job) : Encoded TransactionEnvelope := job.proposal.built.txXdr

def Job.entries (job : Job) : AuthEntries := job.execution.entries

def handedOn : TxOp → Option Transaction
  | .send tx => some tx.transaction
  | .gaslessSubmit _ _ _ tx => some tx
  | _ => none

def authEntriesOf (tx : Transaction) : AuthEntries :=
  tx.operations.flatMap InvokeOperation.auth

def Job.submit (job : Job) (cfg : TxConfig) (c : Choice) :
    Except SubmitError SubmitResult × Log TxRes :=
  (submitWithBundler cfg job.txXdr job.entries).runWith c.rpc []

def Job.sent (job : Job) (cfg : TxConfig) (c : Choice) : List SentTx :=
  if c.accepted then
    ((job.submit cfg c).2.filterMap fun e => handedOn e.1).map fun tx =>
      ⟨job.proposal.id, authEntriesOf tx⟩
  else []

def OperationSimulation.keys (sim : OperationSimulation) : List NonceKey :=
  (sim.auth.getD []).filterMap fun raw => raw.decode.bind nonceKey

def simulated (s : State) : Except RpcError OperationSimulation → State
  | .error _ => s
  | .ok sim => { s with chain := { s.chain with issued := sim.keys ++ s.chain.issued } }

def exec (cfg : TxConfig) : (op : MsOp) → State → Choice → MsRes op × State
  | .read q, s, c => (if c.fault = .none then q.answer s.db c.order else .error .failed, s)
  | .write w, s, c => settle s c.fault ((s.db.write w).map fun db => (db, db.idOf w))
  | .registerTx account members, s, c => settle s c.fault (s.db.register account members)
  | .ownCredentialIDs _, s, c => (if c.fault = .none then .ok c.credentialIDs else .error .failed, s)
  | .newUUID, s, c => (c.uuid, s)
  | .now, s, c => (c.time, s)
  | .randomNonce48, s, c => (c.nonce, s)
  | .fetchSACBalance _ _, s, c => (c.balance, s)
  | .discoverContextRule _ _, s, c => (c.rule, s)
  | .ledgerSequence _, s, c => (c.sequence, s)
  | .buildTransaction _, s, c => (c.built, s)
  | .simulate _, s, c => (c.simulation, simulated s c.simulation)
  | .latestLedger, s, c => (c.ledger, s)
  | .submitAuthEntries job, s, c =>
    ((job.submit cfg c).1,
      { s with chain := { s.chain with live := s.chain.live ++ job.sent cfg c } })

def Sample.offline : (op : MsOp) → MsRes op
  | .read _ => .error .failed
  | .write _ => .error .failed
  | .registerTx _ _ => .error .failed
  | .ownCredentialIDs _ => .error .failed
  | .newUUID => 0
  | .now => 0
  | .randomNonce48 => .error .failed
  | .fetchSACBalance _ _ => .error .failed
  | .discoverContextRule _ _ => .error .failed
  | .ledgerSequence _ => .error .failed
  | .buildTransaction _ => .error .failed
  | .simulate _ => .error .failed
  | .latestLedger => .error .failed
  | .submitAuthEntries _ => .error .transactionFailed

end LatchApi.Multisig
