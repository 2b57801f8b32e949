import LatchApi.Build.Ops

namespace LatchApi.Build

open Lib Program Soroban Bundler
open Multisig (ContextRuleDiscovery)

inductive SignerType where
  | passkey
  | ed25519
  | delegated
  | other (text : String)
deriving DecidableEq

inductive SubmitMethod where
  | webauthn
  | delegated
  | bundlerDelegated
deriving DecidableEq

structure SimulationSummary where
  transactionData : Encoded Bytes
  minResourceFee : String
  latestLedger : Int64

structure BuildAuthTransactionResult where
  txXdr : Encoded TransactionEnvelope
  authEntryXdr : Encoded SorobanAuthorizationEntry
  authEntriesXdr : List (Encoded SorobanAuthorizationEntry)
  smartAccountAuthEntryIndex : Nat
  delegatedNativeAuthEntryIndices : List Nat
  delegatedNativeSignBlobPayloadsBase64 : List (Encoded Bytes)
  delegatedGAuthEntrySynthesized : Bool
  contextRuleID : UInt32
  contextRuleIDs : List UInt32
  contextRuleDiscovery : Option ContextRuleDiscovery
  authDigestHex : String
  signaturePayloadHex : String
  validUntilLedger : UInt32
  simulationResultXdr : SimulationSummary
  submitMethod : SubmitMethod
  smartAccountAuthEntryXdr : Encoded SorobanAuthorizationEntry := .malformed ""
  gAddressPreimageXdr : Encoded Bytes := .of []
  gAddressEntryTemplateXdr : Encoded SorobanAuthorizationEntry := .malformed ""
  delegatedAuthG : String := ""

section Entries

inductive AuthEntryRole where
  | other
  | smartAccountCustom
  | delegatedNative
deriving DecidableEq

def classifyAuthEntryRole (entry : SorobanAuthorizationEntry)
    (smartAccountAddress signerG : String) : AuthEntryRole :=
  match addressStringFromCredentials entry with
  | none => .other
  | some addr =>
    if addr = smartAccountAddress then .smartAccountCustom
    else if signerG ≠ "" ∧ addr = signerG then .delegatedNative
    else .other

def dropAuthFor (entries : AuthEntries) (address : String) :
    AuthEntries :=
  entries.filter fun e => addressStringFromCredentials e != some address

def simulatedEntries (context : String) (sim : Simulation) :
    Except BuildError AuthEntries := do
  if sim.error ≠ "" then .error (.simulationFailed context sim.error)
  else
    let raw ← orInvalid "simulation returned no results" sim.auth
    orInvalid "normalize auth entries" (normalizeAuthEntries raw)

def authLedgerDelta : UInt32 := 60

def Simulation.validUntilLedger (sim : Simulation) : UInt32 :=
  sim.latestLedger.toUInt64.toUInt32 + authLedgerDelta

def smartAccountEntry (missing smartAccountAddress signerG : String) (entries : AuthEntries) :
    Except BuildError (Nat × SorobanAuthorizationEntry) := do
  let idx ← orInvalid missing (entries.findIdx? fun e =>
    classifyAuthEntryRole e smartAccountAddress signerG = .smartAccountCustom)
  let entry ← orInvalid missing entries[idx]?
  return (idx, entry)

def delegatedNativeIndices (smartAccountAddress signerG : String)
    (entries : AuthEntries) : List Nat :=
  (List.range entries.length).filter fun i => entries[i]?.any fun e =>
    classifyAuthEntryRole e smartAccountAddress signerG = .delegatedNative

def delegatedSignerG (signerType : SignerType) (signerG : String) : String :=
  if signerType = .delegated then signerG else ""

def buildUnsignedDelegatedGCheckAuthEntry (smartAccountAddress signerG : String) (digest : Bytes)
    (expirationLedger : UInt32) : Builder SorobanAuthorizationEntry := do
  let smartAccount ← ofExcept (orInvalid "resolve smart account address"
    (scAddressFromString smartAccountAddress))
  let signer ← ofExcept (orInvalid "resolve signer address" (scAddressFromString signerG))
  let nonce ← orRpc "generate nonce entropy" (← randomNonce48 signerG)
  return checkAuthEntry smartAccount signer digest nonce expirationLedger

structure Synthesis where
  entries : AuthEntries
  delegatedNativeIndices : List Nat
  synthesized : Bool

def Synthesis.append (st : Synthesis) (e : SorobanAuthorizationEntry) : Synthesis :=
  ⟨st.entries ++ [e], st.delegatedNativeIndices ++ [st.entries.length], true⟩

structure Signable where
  idx : Nat
  entry : SorobanAuthorizationEntry
  contextRuleIDs : List UInt32
  signaturePayload : Bytes
  authDigest : Bytes

def signable (cfg : BuildConfig) (idx : Nat) (entry : SorobanAuthorizationEntry)
    (contextRuleIDs : List UInt32) : Except BuildError Signable := do
  let payload ← orNotAddress (hashSorobanAuthPayload entry cfg.networkPassphrase)
  let digest ← orNotAddress (computeAuthDigest entry cfg.networkPassphrase contextRuleIDs)
  return ⟨idx, entry, contextRuleIDs, payload, digest⟩

def signBlobPayloads (cfg : BuildConfig) (st : Synthesis) : Except BuildError (List Bytes) :=
  st.delegatedNativeIndices.mapM fun i =>
    orNotAddress (st.entries[i]?.bind fun e => hashSorobanAuthPayload e cfg.networkPassphrase)

def encodeEntries (entries : AuthEntries) :
    List (Encoded SorobanAuthorizationEntry) := entries.map .of

def encodedAt (entries : AuthEntries) (idx : Nat) :
    Encoded SorobanAuthorizationEntry := ((encodeEntries entries)[idx]?).getD (.malformed "")

def envelopeOf (tx : Transaction) : TransactionEnvelope :=
  .v1 (tx.operations.map fun op => .invokeHostFunction op.hostFunction op.auth)

def bundlerTransaction (cfg : BuildConfig) (seq : Int) (fn : HostFunction) (auth : AuthEntries)
    (sorobanData : Option Bytes) : Transaction :=
  rebuiltCall cfg.toTxConfig seq fn auth sorobanData

def buildResult (sim : Simulation) (tx : TransactionEnvelope) (ready : Signable) (st : Synthesis)
    (payloads : List Bytes) (contextRuleID : UInt32) (discovery : Option ContextRuleDiscovery)
    (submitMethod : SubmitMethod) : BuildAuthTransactionResult where
  txXdr := .of tx
  authEntryXdr := encodedAt st.entries ready.idx
  authEntriesXdr := encodeEntries st.entries
  smartAccountAuthEntryIndex := ready.idx
  delegatedNativeAuthEntryIndices := st.delegatedNativeIndices
  delegatedNativeSignBlobPayloadsBase64 := payloads.map .of
  delegatedGAuthEntrySynthesized := st.synthesized
  contextRuleID := contextRuleID
  contextRuleIDs := ready.contextRuleIDs
  contextRuleDiscovery := discovery
  authDigestHex := hexEncode ready.authDigest
  signaturePayloadHex := hexEncode ready.signaturePayload
  validUntilLedger := sim.validUntilLedger
  simulationResultXdr := ⟨sim.transactionData, sim.minResourceFee, sim.latestLedger⟩
  submitMethod := submitMethod

end Entries

section Core

structure AuthTransactionCoreInput where
  smartAccountAddress : String
  contextRuleID : UInt32
  signerType : SignerType
  signerG : String
  feePayerG : String
  bundlerDelegatedAuthMode : Bool
  delegatedAuthG : String
  dropAuthAddress : String

namespace AuthTransactionCoreInput

variable (input : AuthTransactionCoreInput)

def signerGStr : String :=
  delegatedSignerG input.signerType input.signerG

def authG : String :=
  if input.delegatedAuthG = "" then input.feePayerG else input.delegatedAuthG

def kept (entries : AuthEntries) : AuthEntries :=
  if input.dropAuthAddress = "" then entries else dropAuthFor entries input.dropAuthAddress

end AuthTransactionCoreInput

def synthesizeDelegatedGEntry (smartAccountAddress gAddr : String) (digest : Bytes)
    (validUntil : UInt32) (st : Synthesis) : Builder Synthesis :=
  if st.entries.any fun e => addressStringFromCredentials e == some gAddr then .ok st
  else do
    let e ← buildUnsignedDelegatedGCheckAuthEntry smartAccountAddress gAddr digest validUntil
    return st.append e

def rewriteSmartAccountEntrySignature (entries : AuthEntries) (idx : Nat) (gAddress : String)
    (contextRuleIDs : List UInt32) :
    Except BuildError AuthEntries :=
  match buildDelegatedAuthPayload gAddress contextRuleIDs, entries[idx]? with
  | .ok payload, some entry =>
    if entry.hasSourceAccount then .error .notAddressCredentials
    else .ok (entries.set idx (entry.withSignature payload))
  | _, _ => .error (.invalid "build delegated auth payload")

variable (cfg : BuildConfig)

def buildDelegatedSigningTemplates (smartAccountAddress signerG : String) (digest : Bytes)
    (validUntil : UInt32) : Builder (Bytes × SorobanAuthorizationEntry) := do
  let entry ← buildUnsignedDelegatedGCheckAuthEntry smartAccountAddress signerG digest validUntil
  let preimage ← ofExcept (orInvalid "build signing preimage"
    (sorobanAuthPreimageBytes entry cfg.networkPassphrase))
  return (preimage, entry)

def BuildAuthTransactionResult.rewritten (r : BuildAuthTransactionResult)
    (entries : AuthEntries) : BuildAuthTransactionResult :=
  { r with
    authEntryXdr := encodedAt entries r.smartAccountAuthEntryIndex
    authEntriesXdr := encodeEntries entries
    smartAccountAuthEntryXdr := encodedAt entries r.smartAccountAuthEntryIndex }

def BuildAuthTransactionResult.withTemplate (r : BuildAuthTransactionResult)
    (template : Bytes × SorobanAuthorizationEntry) : BuildAuthTransactionResult :=
  { r with
    gAddressPreimageXdr := .of template.1
    gAddressEntryTemplateXdr := .of template.2
    submitMethod := .delegated }

def synthesizeEntries (input : AuthTransactionCoreInput) (validUntil : UInt32) (ready : Signable)
    (entries : AuthEntries) : Builder Synthesis := do
  let indices := delegatedNativeIndices input.smartAccountAddress input.signerGStr entries
  let st ← synthesizeIf (input.signerGStr ≠ "" ∧ indices = []) input.signerGStr
    ⟨entries, indices, false⟩
  synthesizeIf (input.signerType = .delegated ∧ input.feePayerG ≠ "" ∧
    input.feePayerG ≠ input.signerGStr) input.feePayerG st
where
  synthesizeIf (needed : Prop) [Decidable needed] (gAddr : String) (st : Synthesis) :
      Builder Synthesis :=
    if needed then
      synthesizeDelegatedGEntry input.smartAccountAddress gAddr ready.authDigest validUntil st
    else .ok st

def chooseSigning (input : AuthTransactionCoreInput) (validUntil : UInt32) (ready : Signable)
    (st : Synthesis) (r : BuildAuthTransactionResult) :
    Builder BuildAuthTransactionResult := do
  if input.bundlerDelegatedAuthMode then
    if input.authG = "" then
      .fail (.invalid "delegatedAuthG or feePayerG is required for bundler delegated auth mode")
    else
      let entries ← ofExcept (rewriteSmartAccountEntrySignature st.entries ready.idx input.authG
        ready.contextRuleIDs)
      let st ← synthesizeDelegatedGEntry input.smartAccountAddress input.authG ready.authDigest
        validUntil { st with entries := entries }
      let r := { r.rewritten st.entries with
        delegatedGAuthEntrySynthesized := st.synthesized
        delegatedNativeAuthEntryIndices := st.delegatedNativeIndices
        delegatedAuthG := input.authG }
      if cfg.resolvesSigner input.authG then return { r with submitMethod := .bundlerDelegated }
      else
        let template ← buildDelegatedSigningTemplates cfg input.smartAccountAddress input.authG
          ready.authDigest validUntil
        return r.withTemplate template
  else if input.signerType = .delegated ∧ input.signerGStr ≠ "" then
    let entries ← ofExcept (rewriteSmartAccountEntrySignature st.entries ready.idx input.signerGStr
      ready.contextRuleIDs)
    let template ← buildDelegatedSigningTemplates cfg input.smartAccountAddress input.signerGStr
      ready.authDigest validUntil
    return (r.rewritten entries).withTemplate template
  else if input.signerType = .ed25519 then return { r with submitMethod := .bundlerDelegated }
  else return { r with submitMethod := .webauthn }

def buildAuthTransactionCore (input : AuthTransactionCoreInput)
    (buildTx : AuthEntries → Option Bytes → Transaction) :
    Builder BuildAuthTransactionResult := do
  orRpc "build simulate tx" (← buildTransaction (buildTx [] none))
  let sim ← orRpc "simulate transaction" (← simulate (buildTx [] none))
  let simulated ← ofExcept (simulatedEntries "simulation failed" sim)
  let kept := input.kept simulated
  if kept.isEmpty then .fail (.invalid "no auth entries in simulation result")
  else
    let validUntil := sim.validUntilLedger
    let entries := setAddressCredentialExpiration kept validUntil
    let (idx, entry) ← ofExcept (smartAccountEntry
      ("transaction does not require authorization from " ++ input.smartAccountAddress)
      input.smartAccountAddress input.signerGStr entries)
    let ready ← ofExcept (signable cfg idx entry (contextRuleIDsForEntry entry input.contextRuleID))
    let st ← synthesizeEntries input validUntil ready entries
    let payloads ← ofExcept (signBlobPayloads cfg st)
    let data ← ofExcept (orInvalid "decode soroban transaction data" sim.transactionData.decode)
    orRpc "build final tx" (← buildTransaction (buildTx st.entries (some data)))
    chooseSigning cfg input validUntil ready st (buildResult sim
      (envelopeOf (buildTx st.entries (some data))) ready st payloads input.contextRuleID none
      .webauthn)

end Core

end LatchApi.Build
