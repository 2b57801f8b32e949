import LatchApi.Multisig.Ops

namespace LatchApi.Multisig

open Lib Program Soroban Store Bundler

def multisigAuthLedgerTTL : UInt32 := 10000

def multisigExpirySafetyLedgers : UInt32 := 25

def multisigBuildTimeoutSeconds : Nat := 30

inductive MultisigError where
  | accountNotFound
  | proposalNotFound
  | notPending
  | refreshed
  | memberNotFound
  | wrongMemberType
  | operationUnsupported
  | insufficientBalance (have_ need : String)
  | missingField (name : String)
  | approvalNotStarted
  | noContextRule
  | signerValidation (message : String)
  | assetNotFound
  | assetIdentifierRequired
  | invalid (context : String)
  | db (context : String)
  | rpc (context : String)
  | simulationFailed (message : String)
  | smartAccountEntryIndex
  | notAddressCredentials
  | delegated (e : DelegatedError)
  | assemble (e : AssembleError)
  | submit (e : SubmitError)

abbrev Service (α : Type) := Program MsOp MsRes MultisigError α

section Calls

open Program (perform)

abbrev runQuery (q : Query) : Service (Except DbError q.Answer) := perform (MsOp.read q)

abbrev runWrite (w : Write) : Service (Except DbError Uuid) := perform (MsOp.write w)

abbrev newUUID : Service Uuid := perform MsOp.newUUID

abbrev now : Service Int := perform MsOp.now

abbrev randomNonce48 : Service (Except RpcError Int64) := perform MsOp.randomNonce48

abbrev fetchSACBalance (contractID holder : String) : Service (Except RpcError (Int64 × UInt64)) :=
  perform (MsOp.fetchSACBalance contractID holder)

abbrev discoverContextRule (smartAccountAddress targetContractID : String) :
    Service (Except RpcError (UInt32 × ContextRuleDiscovery)) :=
  perform (MsOp.discoverContextRule smartAccountAddress targetContractID)

abbrev ledgerSequence (account : String) : Service (Except RpcError Int) :=
  perform (MsOp.ledgerSequence account)

abbrev buildTransaction (tx : Transaction) : Service (Except RpcError Unit) :=
  perform (MsOp.buildTransaction tx)

abbrev simulate (tx : Transaction) : Service (Except RpcError OperationSimulation) :=
  perform (MsOp.simulate tx)

abbrev latestLedger : Service (Except RpcError Int64) := perform MsOp.latestLedger

abbrev submitAuthEntries (job : Job) : Service (Except SubmitError SubmitResult) :=
  perform (MsOp.submitAuthEntries job)

end Calls

def orRpcError {α : Type} (context : String) : Except RpcError α → Service α :=
  orFail fun _ => .rpc context

def orDbError {α : Type} (context : String) : Except DbError α → Service α :=
  orFail fun _ => .db context

def orMissing {α : Type} (missing : MultisigError) (context : String) :
    Except DbError α → Service α :=
  orFail fun
    | .noRows => missing
    | .failed => .db context

def orInvalid {α : Type} (context : String) : Option α → Except MultisigError α :=
  orError (.invalid context)

def decimalOf : Nat → List Char → Option Nat
  | n, [] => some n
  | n, c :: cs => if '0' ≤ c ∧ c ≤ '9' then decimalOf (10 * n + (c.toNat - 48)) cs else none

def parseDecimal : List Char → Option Nat
  | [] => none
  | '+' :: [] => none
  | '+' :: cs => decimalOf 0 cs
  | cs => decimalOf 0 cs

def parseAmountToI128 (amount : String) (decimals : Nat) : Option (Int64 × UInt64) :=
  let text := (trimSpace amount).toList
  let whole := text.takeWhile (· ≠ '.')
  let frac := (text.dropWhile (· ≠ '.')).drop 1
  if text.isEmpty ∨ text.head? = some '-' ∨ decimals < frac.length then none
  else
    match parseDecimal ((if whole.isEmpty then ['0'] else whole) ++ frac ++
        List.replicate (decimals - frac.length) '0') with
    | none => none
    | some raw =>
      if raw < 2 ^ 127 then some (Int64.ofNat (raw / 2 ^ 64), UInt64.ofNat raw) else none

example : parseAmountToI128 " 1.50 " 7 = some (0, 15000000) := by decide +kernel

def formatI128Amount (hi : Int64) (lo : UInt64) (decimals : Nat) : String :=
  let raw := i128ToInt hi lo
  let frac := (toString (raw.tmod (10 ^ decimals))).toList
  let trimmed := ((List.replicate (decimals - frac.length) '0' ++ frac).reverse.dropWhile
    (· == '0')).reverse
  String.ofList ((toString (raw.tdiv (10 ^ decimals))).toList ++
    if trimmed.isEmpty then [] else '.' :: trimmed)

def formatI128Raw (hi : Int64) (lo : UInt64) : String := formatI128Amount hi lo 0

structure CatalogAsset where
  assetID : String
  symbol : String
  contractID : String
  decimals : Nat

def resolveAsset (catalog : List CatalogAsset) (assetID contractID : String) :
    Except MultisigError CatalogAsset :=
  if contractID ≠ "" then
    match catalog.find? fun a => a.contractID == contractID with
    | some a => .ok a
    | none => .error .assetNotFound
  else if assetID = "" then .error .assetIdentifierRequired
  else
    match catalog.find? fun a => a.assetID == assetID with
    | some a => .ok a
    | none => .error .assetNotFound

structure CreateProposalInput where
  smartAccountAddress : String
  operationKind : OperationKind
  targetContractID : String
  assetID : String
  contractID : String
  recipient : String
  amount : String
  requireMatchedContextRule : Bool

structure ProposalOperation where
  hostFunction : HostFunction
  targetContractID : String
  params : Encoded SacTransferOperationParams

def invokeContractHostFunction (contractID : Hash) (fn : String) (args : List ScVal) : HostFunction :=
  .invokeContract ⟨.contract contractID, fn, args⟩

def noParams : SacTransferOperationParams := ⟨"", "", "", "", "", ""⟩

def buildCounterIncrementOperation (smartAccountAddress targetContractID : String) :
    Except MultisigError ProposalOperation := do
  if targetContractID = "" then .error (.missingField "targetContractId")
  else
    let contractID ← orInvalid "resolve target contract" (contractIDFromAddress targetContractID)
    let account ← orInvalid "resolve smart account address" (scAddress smartAccountAddress)
    return ⟨invokeContractHostFunction contractID "increment" [account], targetContractID,
      .of noParams⟩

def transferFunction (what smartAccountAddress recipient tokenContractID : String) (hi : Int64)
    (lo : UInt64) : Except MultisigError HostFunction := do
  let sender ← orInvalid "resolve smart account address" (scAddress smartAccountAddress)
  let receiver ← orInvalid "resolve recipient address" (scAddress recipient)
  let contractID ← orInvalid ("resolve " ++ what ++ " contract") (contractIDFromAddress tokenContractID)
  return invokeContractHostFunction contractID "transfer" [sender, receiver, scI128 hi lo]

def buildSacTransferOperation (input : CreateProposalInput) (catalog : List CatalogAsset) :
    Service ProposalOperation := do
  if input.recipient = "" then .fail (.missingField "recipient")
  else
    let asset ← ofExcept (resolveAsset catalog input.assetID input.contractID)
    let (hi, lo) ← ofExcept (orInvalid "parse amount" (parseAmountToI128 input.amount asset.decimals))
    let (balHi, balLo) ← orRpcError "fetch balance"
      (← fetchSACBalance asset.contractID input.smartAccountAddress)
    if i128ToInt balHi balLo < i128ToInt hi lo then
      .fail (.insufficientBalance (formatI128Raw balHi balLo) (formatI128Raw hi lo))
    else
      let fn ← ofExcept
        (transferFunction "asset" input.smartAccountAddress input.recipient asset.contractID hi lo)
      return ⟨fn, asset.contractID, .of ⟨asset.contractID, input.recipient, formatI128Raw hi lo,
        asset.assetID, asset.symbol, input.amount⟩⟩

def buildOperation (input : CreateProposalInput) (catalog : List CatalogAsset) :
    Service ProposalOperation :=
  match input.operationKind with
  | .counterIncrement =>
    ofExcept (buildCounterIncrementOperation input.smartAccountAddress input.targetContractID)
  | .sacTransfer => buildSacTransferOperation input catalog
  | .other _ => .fail .operationUnsupported

def reconstructOperation (smartAccountAddress : String) (kind : OperationKind)
    (targetContractID : String) (params : Encoded SacTransferOperationParams) :
    Except MultisigError ProposalOperation :=
  match kind with
  | .counterIncrement => buildCounterIncrementOperation smartAccountAddress targetContractID
  | .sacTransfer => do
    let stored ← orInvalid "decode stored operation params" params.decode
    let (hi, lo) ← orInvalid "parse stored amount" (parseAmountToI128 stored.amountI128 0)
    let fn ← transferFunction "token" smartAccountAddress stored.recipient stored.tokenContractID hi lo
    return ⟨fn, stored.tokenContractID, params⟩
  | .other _ => .error .operationUnsupported

def proposalTransaction (cfg : TxConfig) (seq : Int) (fn : HostFunction) (entries : AuthEntries)
    (sorobanData : Option Bytes) : Transaction :=
  { rebuiltCall cfg seq fn entries sorobanData with timeoutSeconds := multisigBuildTimeoutSeconds }

def isSmartAccounts (smartAccountAddress : String) (e : SorobanAuthorizationEntry) : Bool :=
  addressStringFromCredentials e == some smartAccountAddress

def extractArtifacts (cfg : TxConfig) (smartAccountAddress : String) (fn : HostFunction)
    (contextRuleID : UInt32) (sim : OperationSimulation) :
    Except MultisigError (BuiltProposalArtifacts × AuthEntries × Bytes) := do
  if sim.error ≠ "" then .error (.simulationFailed sim.error)
  else
    let raw ← orInvalid "simulation returned no results" sim.auth
    let simulated ← orInvalid "normalize auth entries" (normalizeAuthEntries raw)
    let validUntil := sim.latestLedger.toUInt64.toUInt32 + multisigAuthLedgerTTL
    let entries := setAddressCredentialExpiration simulated validUntil
    let idx ← orInvalid "no smart account auth entry found in simulation result"
      (entries.findIdx? (isSmartAccounts smartAccountAddress))
    let some entry := entries[idx]? | .error .smartAccountEntryIndex
    let some payload := hashSorobanAuthPayload entry cfg.networkPassphrase
      | .error .notAddressCredentials
    let some digest := computeAuthDigest entry cfg.networkPassphrase
        (contextRuleIDsForEntry entry contextRuleID) | .error .notAddressCredentials
    let data ← orInvalid "decode soroban transaction data" sim.transactionData.decode
    return ({
      txXdr := .of (.v1 [.invokeHostFunction fn entries])
      authEntries := .of (entries.map .of)
      smartAccountAuthEntryIndex := idx
      contextRuleID := contextRuleID
      authDigestHex := hexEncode digest
      signaturePayloadHex := hexEncode payload
      validUntilLedger := validUntil }, entries, data)

def simulateAndExtract (cfg : TxConfig) (smartAccountAddress : String) (op : ProposalOperation) :
    Service (BuiltProposalArtifacts × ContextRuleDiscovery) := do
  let (contextRuleID, discovery) ← orRpcError "discover context rule"
    (← discoverContextRule smartAccountAddress op.targetContractID)
  let seq ← orRpcError "fetch bundler sequence" (← ledgerSequence cfg.bundlerG)
  orRpcError "build simulate tx"
    (← buildTransaction (proposalTransaction cfg seq op.hostFunction [] none))
  let sim ← orRpcError "simulate operation"
    (← simulate (proposalTransaction cfg seq op.hostFunction [] none))
  let (built, entries, data) ← ofExcept
    (extractArtifacts cfg smartAccountAddress op.hostFunction contextRuleID sim)
  orRpcError "build final tx"
    (← buildTransaction (proposalTransaction cfg seq op.hostFunction entries (some data)))
  return (built, discovery)

def BuiltProposalArtifacts.liveEntry (built : BuiltProposalArtifacts) :
    Option SorobanAuthorizationEntry :=
  match storedEntries built with
  | .ok entries => (smartAccountEntryAt entries built.smartAccountAuthEntryIndex).map Prod.snd
  | .error _ => none

def BuiltProposalArtifacts.liveDigest (cfg : TxConfig) (built : BuiltProposalArtifacts) :
    Option String :=
  built.liveEntry.bind fun entry => computeAuthDigestHex entry cfg.networkPassphrase
    (contextRuleIDsForEntry entry built.contextRuleID)

def BuiltProposalArtifacts.Coherent (cfg : TxConfig) (built : BuiltProposalArtifacts) : Prop :=
  built.liveDigest cfg = some built.authDigestHex

theorem normalizeAuthEntries_map_of (entries : AuthEntries) :
    normalizeAuthEntries (entries.map .of) = some entries := by
  induction entries with
  | nil => rfl
  | cons e es ih =>
    unfold normalizeAuthEntries at ih ⊢
    simp [ih]

variable {cfg : TxConfig} {out : BuiltProposalArtifacts × AuthEntries × Bytes}
  {smartAccountAddress : String}

variable {contextRuleID : UInt32} {sim : OperationSimulation}

theorem extractArtifacts_eq_ok {fn : HostFunction}
    (h : extractArtifacts cfg smartAccountAddress fn contextRuleID sim = .ok out) :
    ∃ simulated entries idx entry payload digest validUntil,
      entries = setAddressCredentialExpiration simulated validUntil ∧
      entries[idx]? = some entry ∧ isSmartAccounts smartAccountAddress entry = true ∧
      hashSorobanAuthPayload entry cfg.networkPassphrase = some payload ∧
      computeAuthDigest entry cfg.networkPassphrase
        (contextRuleIDsForEntry entry contextRuleID) = some digest ∧
      out.1 = {
        txXdr := .of (.v1 [.invokeHostFunction fn entries])
        authEntries := .of (entries.map .of)
        smartAccountAuthEntryIndex := (idx : Nat)
        contextRuleID := contextRuleID
        authDigestHex := hexEncode digest
        signaturePayloadHex := hexEncode payload
        validUntilLedger := validUntil } := by
  unfold extractArtifacts at h
  by_cases herror : sim.error ≠ ""
  · rw [if_pos herror] at h
    cases h
  rw [if_neg herror] at h
  obtain ⟨raw, -, h⟩ := bind_eq_ok.mp h
  obtain ⟨simulated, -, h⟩ := bind_eq_ok.mp h
  obtain ⟨idx, hidx, h⟩ := bind_eq_ok.mp h
  obtain ⟨hlt, hmine, -⟩ := List.findIdx?_eq_some_iff_getElem.mp (orError_eq_ok.mp hidx)
  split at h
  · rename_i entry hentry
    obtain ⟨_, hget⟩ := List.getElem?_eq_some_iff.mp hentry
    rw [hget] at hmine
    split at h
    · rename_i payload hpayload
      split at h
      · rename_i digest hdigest
        obtain ⟨data, -, h⟩ := bind_eq_ok.mp h
        cases h
        exact ⟨simulated, _, idx, entry, payload, digest, _, rfl, hentry, hmine, hpayload, hdigest, rfl⟩
      · cases h
    · cases h
  · cases h

theorem coherent_of_extractArtifacts {fn : HostFunction}
    (h : extractArtifacts cfg smartAccountAddress fn contextRuleID sim = .ok out) :
    out.1.Coherent cfg := by
  obtain ⟨-, entries, idx, entry, payload, digest, validUntil, -, hentry, -, -, hdigest, hout⟩ :=
    extractArtifacts_eq_ok h
  rw [hout]
  simp [BuiltProposalArtifacts.Coherent, BuiltProposalArtifacts.liveDigest,
    BuiltProposalArtifacts.liveEntry, storedEntries, normalizeAuthEntries_map_of,
    smartAccountEntryAt, hentry, computeAuthDigestHex, hdigest]

def Job.digest (cfg : TxConfig) (job : Job) : Option Bytes :=
  job.entries.head?.bind fun e => computeAuthDigest e cfg.networkPassphrase
    (contextRuleIDsForEntry e job.proposal.built.contextRuleID)

theorem liveEntry_of_assembled {X : Codec} {built : BuiltProposalArtifacts}
    {entries final : AuthEntries} {picked : PickedApprovals}
    (hentries : storedEntries built = .ok entries)
    (a : Assembled cfg X entries built.smartAccountAuthEntryIndex built.contextRuleID picked final)
    : built.liveEntry = some a.entry := by
  have hindex : smartAccountEntryAt entries built.smartAccountAuthEntryIndex = some (a.idx, a.entry) :=
    smartAccountEntryAt_eq_some.mpr ⟨a.entry_at, a.index_eq⟩
  simp [BuiltProposalArtifacts.liveEntry, hentries, hindex]

theorem Job.digest_eq {X : Codec} {job : Job} {threshold : Nat} {rows : List ApprovalWithMember}
    (h : assembleExecution cfg X job.proposal.built threshold rows = .ok job.execution) :
    (job.digest cfg).map hexEncode = job.proposal.built.liveDigest cfg := by
  obtain ⟨-, -, entries, hentries, ⟨a⟩⟩ := assembleExecution_eq_ok h
  rw [Job.digest, Job.entries, a.head_eq, BuiltProposalArtifacts.liveDigest,
    liveEntry_of_assembled hentries a, Option.bind_some, Option.bind_some]
  exact computeAuthDigestHex_withSignature a.entry _ _ _

end LatchApi.Multisig
