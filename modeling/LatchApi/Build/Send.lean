import LatchApi.Build.Core

namespace LatchApi.Build

open Lib Program Soroban Bundler Rules
open Multisig (ContextRuleDiscovery CatalogAsset resolveAsset parseAmountToI128
  formatI128Raw)

section Rules

def ruleHasExternalSigner (rule : ContextRuleSummary) : Bool :=
  rule.signers.any fun
    | .external _ _ => true
    | _ => false

def ruleHasDelegatedSignerG (rule : ContextRuleSummary) (gAddress : String) : Bool :=
  rule.signers.any fun
    | .delegated g => g == gAddress
    | _ => false

def ruleAuthorizesSigner (rule : ContextRuleSummary) (signerType : SignerType)
    (verifierAddress gAddress : String) : Bool :=
  if signerType = .delegated then ruleHasDelegatedSignerG rule gAddress
  else
    rule.signers.any fun
      | .external verifier _ => verifierAddress == "" || verifier == verifierAddress
      | _ => false

def ruleAtID (id : UInt32) : RuleReader (Option ContextRuleSummary) := getRule id

def resolveSignerRule (cfg : BuildConfig) (wallet : String) (signerType : SignerType)
    (signerG keyDataHex contract : String) : Builder (Except RpcError (Option UInt32)) := do
  if signerType = .passkey ∧ keyDataHex ≠ "" then
    let found ← readRules wallet (findRuleForSigner cfg.webauthnVerifierAddress keyDataHex contract)
    return found.map (Option.map Prod.fst)
  else
    match ← readRules wallet (discoverContextRule contract) with
    | .error e => return .error e
    | .ok (id, discovery) =>
      if discovery = .fallback then return .ok none
      else
        match ← readRules wallet (ruleAtID id) with
        | .error e => return .error e
        | .ok none => return .ok none
        | .ok (some rule) =>
          let authorized := match signerType with
            | .delegated => signerG != "" && ruleAuthorizesSigner rule signerType "" signerG
            | .ed25519 => ruleAuthorizesSigner rule signerType cfg.ed25519VerifierAddress ""
            | _ => ruleAuthorizesSigner rule signerType cfg.webauthnVerifierAddress ""
          return .ok (if authorized then some id else none)

def contextContract : SorobanAuthorizedFunction → String
  | .contractFn inv => inv.contractAddress.text
  | _ => ""

section Contexts

variable {σ : Type} (ruleFor : σ → String → Builder (UInt32 × σ))

-- `ruleFor` keeps what it found so far in a state of its own.
mutual

def walkContexts : SorobanAuthorizedInvocation → σ → Builder (List UInt32 × σ)
  | ⟨function, subInvocations⟩, s => do
    let (id, s) ← ruleFor s (contextContract function)
    let (ids, s) ← walkSubInvocations subInvocations s
    return (id :: ids, s)

def walkSubInvocations : List SorobanAuthorizedInvocation → σ → Builder (List UInt32 × σ)
  | [], s => .ok ([], s)
  | inv :: invs, s => do
    let (ids, s) ← walkContexts inv s
    let (ids', s) ← walkSubInvocations invs s
    return (ids ++ ids', s)

end

def contextRuleIDsPerContext (entry : SorobanAuthorizationEntry) (s : σ) : Builder (List UInt32) := do
  let (ids, _) ← walkContexts ruleFor entry.rootInvocation s
  return ids

end Contexts

def embedContextRuleIDs (entry : SorobanAuthorizationEntry) (ids : List UInt32) :
    SorobanAuthorizationEntry := entry.withSignature (authPayload ids [])

end Rules

section Send

structure BuildSendInput where
  smartAccountAddress : String
  signerType : SignerType
  signerG : String
  assetID : String
  contractID : String
  recipient : String
  amount : String
  keyDataHex : String

structure BuildSendResult extends BuildAuthTransactionResult where
  asset : CatalogAsset
  recipient : String
  amount : String
  amountRaw : String
  networkFee : NetworkFee

variable (cfg : BuildConfig) (input : BuildSendInput)

def sendContextRule (target : String) : Builder (UInt32 × ContextRuleDiscovery) := do
  if input.signerType = .passkey ∧ input.keyDataHex ≠ "" then
    match ← orRpc "find rule for signer" (← readRules input.smartAccountAddress
        (findRuleForSigner cfg.webauthnVerifierAddress input.keyDataHex target)) with
    | none => .fail .signerRuleNotFound
    | some found => return found
  else
    orRpc "discover context rule"
      (← readRules input.smartAccountAddress (discoverContextRule target))

def transferCall (input : BuildSendInput) (asset : CatalogAsset) (hi : Int64) (lo : UInt64) :
    Except BuildError InvokeContractArgs := do
  let sender ← orInvalid "resolve smart account address" (scAddress input.smartAccountAddress)
  let receiver ← orInvalid "resolve recipient address" (scAddress input.recipient)
  let contractID ← orInvalid "resolve asset contract" (contractIDFromAddress asset.contractID)
  return ⟨.contract contractID, "transfer", [sender, receiver, scI128 hi lo]⟩

def sendRuleFor (wrap : ForwardWrap) (contextRuleID : UInt32) (rules : List (String × UInt32))
    (contract : String) :
    Builder (UInt32 × List (String × UInt32)) := do
  match rules.lookup contract with
  | some id => return (id, rules)
  | none =>
    if contract ≠ wrap.feeForwarder ∧ contract ≠ wrap.fee.token then return (contextRuleID, rules)
    else
      match ← orRpc "resolve fee rule" (← resolveSignerRule cfg input.smartAccountAddress
          input.signerType input.signerG input.keyDataHex contract) with
      | none => .fail .feeRuleNotFound
      | some id => return (id, (contract, id) :: rules)

def synthesizeSignerEntry (smartAccountAddress signerG : String) (validUntil : UInt32)
    (ready : Signable) (entries : AuthEntries) : Builder Synthesis := do
  let indices := delegatedNativeIndices smartAccountAddress signerG entries
  let st : Synthesis := ⟨entries, indices, false⟩
  if signerG ≠ "" ∧ indices = [] then
    let e ← buildUnsignedDelegatedGCheckAuthEntry smartAccountAddress signerG ready.authDigest
      validUntil
    return st.append e
  else .ok st

def sendSubmitMethod (signerType : SignerType) : SubmitMethod :=
  if signerType = .delegated then .delegated else .webauthn

def buildSend (catalog : List CatalogAsset) : Builder BuildSendResult := do
  let asset ← ofExcept ((resolveAsset catalog input.assetID input.contractID).mapError .resolveAsset)
  let (hi, lo) ← ofExcept (orInvalid "parse amount" (parseAmountToI128 input.amount asset.decimals))
  let (contextRuleID, discovery) ← sendContextRule cfg input asset.contractID
  let transfer ← ofExcept (transferCall input asset hi lo)
  let wrap ← planForward cfg input.smartAccountAddress transfer asset.contractID
    (some (i128ToInt hi lo))
  let seq ← orRpc "fetch bundler sequence" (← ledgerSequence cfg.bundlerG)
  let buildTx := bundlerTransaction cfg seq wrap.hostFunction
  orRpc "build simulate tx" (← buildTransaction (buildTx [] none))
  let sim ← orRpc "simulate transfer" (← simulate (buildTx [] none))
  let simulated ← ofExcept (simulatedEntries "transfer simulation failed" sim)
  let validUntil := sim.validUntilLedger
  let entries := setAddressCredentialExpiration (dropAuthFor simulated wrap.executor) validUntil
  let signerG := delegatedSignerG input.signerType input.signerG
  let (idx, unsigned) ← ofExcept (smartAccountEntry
    "no smart account auth entry found in simulation result" input.smartAccountAddress signerG
    entries)
  let contextRuleIDs ← contextRuleIDsPerContext (sendRuleFor cfg input wrap contextRuleID) unsigned
    [(asset.contractID, contextRuleID)]
  let entry := embedContextRuleIDs unsigned contextRuleIDs
  let ready ← ofExcept (signable cfg idx entry contextRuleIDs)
  let st ← synthesizeSignerEntry input.smartAccountAddress signerG validUntil ready
    (entries.set idx entry)
  let payloads ← ofExcept (signBlobPayloads cfg st)
  let data ← ofExcept (orInvalid "decode soroban transaction data" sim.transactionData.decode)
  orRpc "build final tx" (← buildTransaction (buildTx st.entries (some data)))
  return {
    toBuildAuthTransactionResult := buildResult sim (envelopeOf (buildTx st.entries (some data)))
      ready st payloads contextRuleID (some discovery) (sendSubmitMethod input.signerType)
    asset := asset
    recipient := input.recipient
    amount := input.amount
    amountRaw := formatI128Raw hi lo
    networkFee := wrap.fee }

end Send

section PrepareSign

structure PrepareSignInput where
  smartAccountAddress : String
  unsignedTxXdr : Encoded TransactionEnvelope
  signerType : SignerType
  signerG : String
  keyDataHex : String

def singleOperation (tx : Encoded TransactionEnvelope) : Except BuildError OperationBody :=
  match tx.decode with
  | none => .error (.prepareSignValidation "decode unsignedTxXdr")
  | some (.v1 [op]) => .ok op
  | some _ => .error (.prepareSignValidation "expected a single-operation transaction envelope")

def existingRule (message : String) : Option ContextRuleSummary → Builder ContextRuleSummary
  | some rule => .ok rule
  | none => .fail (.prepareSignNoContextRule message)

def prepareSignContextRule (cfg : BuildConfig) (input : PrepareSignInput) :
    Builder (UInt32 × ContextRuleDiscovery × ContextRuleSummary) := do
  if input.signerType = .passkey ∧ input.keyDataHex ≠ "" then
    match ← orRpc "find rule for signer" (← readRules input.smartAccountAddress
        (findRuleForSigner cfg.webauthnVerifierAddress input.keyDataHex "")) with
    | none => .fail .signerRuleNotFound
    | some (id, discovery) =>
      let rule ← existingRule ("context rule " ++ toString id ++ " no longer exists")
        (← orRpc "fetch context rule" (← readRules input.smartAccountAddress (ruleAtID id)))
      return (id, discovery, rule)
  else
    let (id, discovery) ← orRpc "discover context rule"
      (← readRules input.smartAccountAddress discoverDefaultContextRule)
    if discovery = .fallback then
      .fail (.prepareSignNoContextRule "no Default context rule found for this smart account")
    else
      let rule ← existingRule ("default context rule " ++ toString id ++ " no longer exists")
        (← orRpc "fetch context rule" (← readRules input.smartAccountAddress (ruleAtID id)))
      return (id, discovery, rule)

def validatePrepareSignSignerAuthorization (rule : ContextRuleSummary) (signerType : SignerType)
    (signerG bundlerPublicKey : String) : Except BuildError Unit :=
  if signerG ≠ "" ∧ signerG = bundlerPublicKey then
    .error (.prepareSignValidation
      "signerG must be the user's G-address, not the bundler fee-payer")
  else
    match signerType with
    | .passkey | .ed25519 =>
      if ruleHasExternalSigner rule then .ok ()
      else .error (.prepareSignSignerMismatch
        "default context rule has no External passkey signer configured; run setup-send-rules or setup-swap-rules first")
    | .delegated =>
      if ruleHasDelegatedSignerG rule signerG then .ok ()
      else .error (.prepareSignSignerMismatch ("default context rule does not authorize signerG " ++
        signerG ++ "; run setup-send-rules or setup-swap-rules with your delegated G-address"))
    | .other _ => .ok ()

def withAuth (op : OperationBody) (entries : AuthEntries) :
    Except BuildError TransactionEnvelope :=
  match op with
  | .invokeHostFunction fn _ => .ok (.v1 [.invokeHostFunction fn entries])
  | .other => .error (.prepareSignValidation "expected an invoke host function operation")

def prepareSignSubmitMethod (signerType : SignerType) : SubmitMethod :=
  if signerType = .delegated then .delegated
  else if signerType = .ed25519 then .bundlerDelegated
  else .webauthn

def prepareSign (cfg : BuildConfig) (input : PrepareSignInput) :
    Builder BuildAuthTransactionResult := do
  let op ← ofExcept (singleOperation input.unsignedTxXdr)
  let (contextRuleID, discovery, rule) ← prepareSignContextRule cfg input
  ofExcept (validatePrepareSignSignerAuthorization rule input.signerType input.signerG cfg.bundlerG)
  let sim ← orRpc "simulate transaction" (← simulateEnvelope input.unsignedTxXdr)
  let simulated ← ofExcept (simulatedEntries "simulation failed" sim)
  let validUntil := sim.validUntilLedger
  let entries := setAddressCredentialExpiration simulated validUntil
  let signerG := delegatedSignerG input.signerType input.signerG
  let (idx, entry) ← ofExcept (smartAccountEntry
    "no smart account auth entry found in simulation result" input.smartAccountAddress signerG
    entries)
  let ready ← ofExcept (signable cfg idx entry (contextRuleIDsForEntry entry contextRuleID))
  let st ← synthesizeSignerEntry input.smartAccountAddress signerG validUntil ready entries
  let payloads ← ofExcept (signBlobPayloads cfg st)
  let _data ← ofExcept (orInvalid "decode soroban transaction data" sim.transactionData.decode)
  let envelope ← ofExcept (withAuth op st.entries)
  return buildResult sim envelope ready st payloads contextRuleID (some discovery)
    (prepareSignSubmitMethod input.signerType)

end PrepareSign

end LatchApi.Build
