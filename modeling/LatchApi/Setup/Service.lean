import LatchApi.Build.Send
import LatchApi.Rules.Values

namespace LatchApi.Setup

open Lib Program Soroban Bundler Rules Build
open Multisig (CatalogAsset MultisigError resolveAsset invokeContractHostFunction)

section Values

def contextRuleNameMaxLen : Nat := 20

def buildContextRuleName (assetID start : String) : Except BuildError String :=
  let name := start ++ "-" ++ assetID
  if contextRuleNameMaxLen < name.utf8ByteSize then
    .error (.invalid ("context rule name " ++ quoted name ++ " exceeds 20 chars"))
  else .ok name

def externalSigner (verifierAddress : String) (keyData : Bytes) : Except BuildError ScVal :=
  orInvalid "resolve verifier address" (buildExternalSignerScVal verifierAddress keyData)

def delegatedSigner (gAddress : String) : Except BuildError ScVal :=
  orInvalid "resolve delegated signer address" (buildDelegatedSignerScVal gAddress)

def buildSignersVecForSetup (signerType : SignerType)
    (verifierAddress publicKeyHex keyDataHex gAddress : String) : Except BuildError ScVal := do
  match signerType with
  | .ed25519 =>
    if verifierAddress = "" ∨ publicKeyHex = "" then
      .error (.invalid "verifierAddress and publicKeyHex required for ed25519 setup")
    else if publicKeyHex.utf8ByteSize ≠ 64 then .error (.invalid "publicKeyHex must be 64 hex chars")
    else
      let keyData ← orInvalid "decode publicKeyHex" (hexDecode publicKeyHex)
      let signer ← externalSigner verifierAddress keyData
      return scVec [signer]
  | .passkey =>
    if verifierAddress = "" ∨ keyDataHex = "" then
      .error (.invalid "verifierAddress and keyDataHex required for passkey setup")
    else
      let keyData ← orInvalid "decode keyDataHex" (hexDecode keyDataHex)
      let signer ← externalSigner verifierAddress keyData
      return scVec [signer]
  | .delegated =>
    if gAddress = "" then .error (.invalid "gAddress required for delegated setup")
    else
      let signer ← delegatedSigner gAddress
      return scVec [signer]
  | .other text => .error (.invalid ("unknown signerType: " ++ text))

def verifierFor (cfg : BuildConfig) (signerType : SignerType) : String :=
  if signerType = .passkey then cfg.webauthnVerifierAddress else cfg.ed25519VerifierAddress

def delegatedGFromContextRule (rule : ContextRuleSummary) : String :=
  if ruleHasExternalSigner rule then ""
  else
    match rule.signers.filterMap (fun | .delegated g => some g | _ => none) with
    | [g] => g
    | _ => ""

def adminBundlerDelegatedAuth : Option ContextRuleSummary → Bool × String
  | none => (false, "")
  | some rule =>
    let ruleG := delegatedGFromContextRule rule
    if ruleG ≠ "" ∧ !ruleHasExternalSigner rule then (true, ruleG) else (false, "")

def resolveAssetsToConfigure (catalog : List CatalogAsset) (assetID : String)
    (assetIDs : List String) : Except MultisigError (List CatalogAsset) :=
  if assetID ≠ "" then (resolveAsset catalog assetID "").map fun asset => [asset]
  else if assetIDs ≠ [] then assetIDs.mapM fun id => resolveAsset catalog id ""
  else .ok catalog

end Values

def buildSetupAuthTransaction (cfg : BuildConfig) (fn : HostFunction)
    (input : AuthTransactionCoreInput) : Builder BuildAuthTransactionResult := do
  let seq ← orRpc "fetch bundler sequence" (← ledgerSequence cfg.bundlerG)
  buildAuthTransactionCore cfg input (bundlerTransaction cfg seq fn)

def setupAuth (cfg : BuildConfig) (smartAccountAddress : String) (contextRuleID : UInt32)
    (signerType : SignerType) (signerG : String) (admin : Bool × String) :
    AuthTransactionCoreInput where
  smartAccountAddress := smartAccountAddress
  contextRuleID := contextRuleID
  signerType := signerType
  signerG := signerG
  feePayerG := cfg.bundlerG
  bundlerDelegatedAuthMode := admin.1
  delegatedAuthG := admin.2
  dropAuthAddress := ""

section Send

structure SetupSendRulesInput where
  smartAccountAddress : String
  signerType : SignerType
  assetID : String
  assetIDs : List String
  publicKeyHex : String
  keyDataHex : String
  gAddress : String

inductive SetupSendRulesResult where
  | alreadyConfigured (message : String)
  | built (tx : BuildAuthTransactionResult) (configuredAsset : CatalogAsset)
      (remainingSetupCount : Nat)

variable (cfg : BuildConfig) (input : SetupSendRulesInput)

/-- Is there a rule to be added for the asset? A passkey that names its key is looked for in every
rule; any other signer in the first rule of the asset. -/
def isMissing (verifierAddress : String) (asset : CatalogAsset) : Builder Bool := do
  if input.signerType = .passkey ∧ input.keyDataHex ≠ "" then
    match ← orRpc "find rule for signer" (← readRules input.smartAccountAddress
        (findRuleForSigner verifierAddress input.keyDataHex asset.contractID)) with
    | none => .fail .signerRuleNotFound
    | some _ => return false
  else
    let (id, discovery) ← orRpc "discover context rule"
      (← readRules input.smartAccountAddress (discoverContextRule asset.contractID))
    if discovery ≠ .matched then return true
    else
      match ← orRpc "fetch context rule" (← readRules input.smartAccountAddress (ruleAtID id)) with
      | none => return true
      | some rule =>
        return !ruleAuthorizesSigner rule input.signerType verifierAddress input.gAddress

def missingAssets (verifierAddress : String) : List CatalogAsset → Builder (List CatalogAsset)
  | [] => .ok []
  | asset :: assets => do
    let missing ← isMissing input verifierAddress asset
    let rest ← missingAssets verifierAddress assets
    return if missing then asset :: rest else rest

def addSendRuleCall (verifierAddress : String) (asset : CatalogAsset) :
    Except BuildError HostFunction := do
  let signers ← buildSignersVecForSetup input.signerType verifierAddress input.publicKeyHex
    input.keyDataHex input.gAddress
  let name ← buildContextRuleName asset.assetID "send"
  let contextType ← orInvalid "resolve contract address" (buildCallContractContextType asset.contractID)
  let account ← orInvalid "resolve smart account contract"
    (contractIDFromAddress input.smartAccountAddress)
  return invokeContractHostFunction account "add_context_rule"
    [contextType, scString name, scVoid, signers, scMap []]

def resolveAdminBundlerDelegatedAuth (smartAccountAddress : String) (contextRuleID : UInt32) :
    Builder (Bool × String) := do
  let rule ← orRpc "fetch admin context rule"
    (← readRules smartAccountAddress (ruleAtID contextRuleID))
  return adminBundlerDelegatedAuth rule

inductive SendPlan where
  | configured
  | add (asset : CatalogAsset) (remaining : Nat) (fn : HostFunction) (auth : AuthTransactionCoreInput)

def planSendRules (catalog : List CatalogAsset) : Builder SendPlan := do
  let assets ← ofExcept
    ((resolveAssetsToConfigure catalog input.assetID input.assetIDs).mapError .resolveAsset)
  let verifierAddress := verifierFor cfg input.signerType
  if verifierAddress = "" ∧ input.signerType ≠ .delegated then
    .fail (.invalid "verifier address not configured for this signer type")
  else
    match ← missingAssets input verifierAddress assets with
    | [] => return .configured
    | asset :: others =>
      let fn ← ofExcept (addSendRuleCall input verifierAddress asset)
      let (contextRuleID, _) ← orRpc "discover default context rule"
        (← readRules input.smartAccountAddress discoverDefaultContextRule)
      let admin ← resolveAdminBundlerDelegatedAuth input.smartAccountAddress contextRuleID
      return .add asset others.length fn (setupAuth cfg input.smartAccountAddress contextRuleID
        input.signerType input.gAddress admin)

def finishSend : SendPlan → Builder SetupSendRulesResult
  | .configured =>
    .ok (.alreadyConfigured "Context rules already exist for all requested assets.")
  | .add asset remaining fn auth => do
    let tx ← buildSetupAuthTransaction cfg fn auth
    return .built tx asset remaining

def setupSendRules (catalog : List CatalogAsset) : Builder SetupSendRulesResult := do
  finishSend cfg (← planSendRules cfg input catalog)

end Send

section Swap

structure SetupSwapRulesInput where
  smartAccountAddress : String
  signerType : SignerType
  routerContractID : String
  publicKeyHex : String
  keyDataHex : String
  gAddress : String

def aquariusRouterTestnet : String := "CBCFTQSPDBAIZ6R6PJQKSQWKNKWH2QIV3I4J72SHWBIK3ADRRAM5A6GD"

def resolveRouterContractID (routerContractID : String) : String :=
  if routerContractID ≠ "" then routerContractID else aquariusRouterTestnet

inductive SetupSwapRulesResult where
  | alreadyConfigured (message routerContractID : String) (contextRuleID : UInt32)
  | built (tx : BuildAuthTransactionResult) (routerContractID : String) (contextRuleID : UInt32)

def swapSignerType (input : SetupSwapRulesInput) : SignerType :=
  if input.signerType = .other "" then .passkey else input.signerType

variable (cfg : BuildConfig) (input : SetupSwapRulesInput)

def checkSwapInput (signerType : SignerType) : Except BuildError Unit :=
  if signerType = .delegated ∧ input.gAddress = "" then
    .error (.invalid "gAddress is required for delegated setup")
  else if signerType = .delegated ∧ input.gAddress = cfg.bundlerG then
    .error (.invalid "gAddress must be your delegated G-address, not the bundler fee-payer")
  else if signerType = .ed25519 ∧ input.publicKeyHex = "" then
    .error (.invalid "publicKeyHex is required for ed25519 setup")
  else if signerType = .passkey ∧ input.keyDataHex = "" then
    .error (.invalid "keyDataHex is required for passkey setup")
  else if verifierFor cfg signerType = "" ∧ signerType ≠ .delegated then
    .error (.invalid "verifier address not configured for this signer type")
  else .ok ()

def swapSigner (signerType : SignerType) : Except BuildError ScVal := do
  match signerType with
  | .passkey =>
    let keyData ← orInvalid "decode key data" (hexDecode input.keyDataHex)
    externalSigner (verifierFor cfg signerType) keyData
  | .ed25519 =>
    let keyData ← orInvalid "decode key data" (hexDecode input.publicKeyHex)
    externalSigner (verifierFor cfg signerType) keyData
  | .delegated => delegatedSigner input.gAddress
  | .other text => .error (.invalid ("unsupported signer configuration for " ++ text ++ " setup"))

inductive SwapPlan where
  | configured (contextRuleID : UInt32)
  | add (contextRuleID : UInt32) (fn : HostFunction) (auth : AuthTransactionCoreInput)

def passkeyRule (signerType : SignerType) (defaultRule : Option ContextRuleSummary) :
    Builder (Option UInt32) := do
  if signerType = .passkey ∧ input.keyDataHex ≠ "" then
    match ← orRpc "find rule for signer" (← readRules input.smartAccountAddress
        (findRuleForSigner (verifierFor cfg signerType) input.keyDataHex "")) with
    | some (id, _) => return some id
    | none =>
      if defaultRule.any ruleHasExternalSigner then .fail .signerRuleNotFound else return none
  else return none

def addSwapSignerCall (signerType : SignerType) (contextRuleID : UInt32) :
    Except BuildError HostFunction := do
  let signer ← swapSigner cfg input signerType
  let account ← orInvalid "resolve smart account contract"
    (contractIDFromAddress input.smartAccountAddress)
  return invokeContractHostFunction account "add_signer" [scU32 contextRuleID, signer]

def planDefaultRule (signerType : SignerType) (contextRuleID : UInt32)
    (defaultRule : Option ContextRuleSummary) : Except BuildError SwapPlan :=
  if defaultRule.any fun rule =>
      ruleAuthorizesSigner rule signerType (verifierFor cfg signerType) input.gAddress then
    .ok (.configured contextRuleID)
  else do
    let fn ← addSwapSignerCall cfg input signerType contextRuleID
    return .add contextRuleID fn (setupAuth cfg input.smartAccountAddress contextRuleID signerType
      input.gAddress (adminBundlerDelegatedAuth defaultRule))

def planSwapRules : Builder SwapPlan := do
  let signerType := swapSignerType input
  ofExcept (checkSwapInput cfg input signerType)
  let (contextRuleID, _) ← orRpc "discover default context rule"
    (← readRules input.smartAccountAddress discoverDefaultContextRule)
  let defaultRule ← orRpc "fetch default context rule"
    (← readRules input.smartAccountAddress (ruleAtID contextRuleID))
  match ← passkeyRule cfg input signerType defaultRule with
  | some id => return .configured id
  | none => ofExcept (planDefaultRule cfg input signerType contextRuleID defaultRule)

def finishSwap : SwapPlan → Builder SetupSwapRulesResult
  | .configured contextRuleID =>
    .ok (.alreadyConfigured "Default context rule already has your signer for swaps."
      (resolveRouterContractID input.routerContractID) contextRuleID)
  | .add contextRuleID fn auth => do
    let tx ← buildSetupAuthTransaction cfg fn auth
    return .built tx (resolveRouterContractID input.routerContractID) contextRuleID

def setupSwapRules : Builder SetupSwapRulesResult := do
  finishSwap cfg input (← planSwapRules cfg input)

end Swap

section Backup

inductive SignerError where
  | noDefaultRule
  | lastSigner
  | backupSignerAlreadyConfigured
  | build (e : BuildError)

abbrev SignerBuilder (α : Type) := Program BuildOp BuildRes SignerError α

def orBuild {α : Type} (p : Builder α) : SignerBuilder α := do
  match ← p.attempt with
  | .ok a => return a
  | .error e => .fail (.build e)

structure AddSignerInput where
  smartAccountAddress : String
  keyDataHex : String

inductive AddSignerResult where
  | alreadyConfigured (message : String) (contextRuleID : UInt32)
  | built (tx : BuildAuthTransactionResult) (contextRuleID : UInt32)

structure RemoveSignerInput where
  smartAccountAddress : String
  contextRuleID : UInt32

variable (cfg : BuildConfig)

/-- An account has at most one backup signer: two rules with signers are as many as there may be. -/
def chooseDefaultRule (keyDataHex : String) (rules : List ContextRuleSummary) :
    Except SignerError (UInt32 ⊕ ContextRuleSummary) :=
  let withSigners := rules.filter fun rule => !rule.signers.isEmpty
  match withSigners.find? fun rule =>
      ruleHasExactExternalSigner rule cfg.webauthnVerifierAddress keyDataHex with
  | some rule => .ok (.inl rule.id)
  | none =>
    if 2 ≤ withSigners.length then .error .backupSignerAlreadyConfigured
    else
      match rules.find? fun rule => rule.isDefault with
      | some rule => .ok (.inr rule)
      | none => .error .noDefaultRule

variable (input : AddSignerInput)

def addSignerCall : Except BuildError HostFunction := do
  let keyData ← orInvalid "decode keyDataHex" (hexDecode input.keyDataHex)
  let signer ← externalSigner cfg.webauthnVerifierAddress keyData
  let account ← orInvalid "resolve smart account contract"
    (contractIDFromAddress input.smartAccountAddress)
  return invokeContractHostFunction account "add_context_rule" (addSignerRuleArgs signer)

def checkAddInput : Except BuildError Unit :=
  if input.keyDataHex = "" then .error (.invalid "keyDataHex is required")
  else if cfg.webauthnVerifierAddress = "" then
    .error (.invalid "webauthn verifier address not configured")
  else .ok ()

def addSigner : SignerBuilder AddSignerResult := do
  orBuild (ofExcept (checkAddInput cfg input))
  let rules ← orBuild do
    orRpc "list context rules" (← readRules input.smartAccountAddress listContextRules)
  match ← ofExcept (chooseDefaultRule cfg input.keyDataHex rules) with
  | .inl id => return .alreadyConfigured "This passkey already signs for this account." id
  | .inr rule =>
    let fn ← orBuild (ofExcept (addSignerCall cfg input))
    let tx ← orBuild (buildSetupAuthTransaction cfg fn (setupAuth cfg input.smartAccountAddress rule.id
      .passkey "" (adminBundlerDelegatedAuth (some rule))))
    return .built tx rule.id

def removeSignerCall (input : RemoveSignerInput) : Except BuildError HostFunction := do
  let account ← orInvalid "resolve smart account contract"
    (contractIDFromAddress input.smartAccountAddress)
  return invokeContractHostFunction account "remove_context_rule" [scU32 input.contextRuleID]

def removeSigner (input : RemoveSignerInput) :
    SignerBuilder (BuildAuthTransactionResult × UInt32) := do
  let (authRuleID, discovery) ← orBuild do
    orRpc "discover default context rule"
      (← readRules input.smartAccountAddress discoverDefaultContextRule)
  if discovery ≠ .default then .fail .noDefaultRule
  else if input.contextRuleID = authRuleID then .fail .lastSigner
  else
    let authRule ← orBuild do
      orRpc "fetch default context rule"
        (← readRules input.smartAccountAddress (ruleAtID authRuleID))
    let fn ← orBuild (ofExcept (removeSignerCall input))
    let tx ← orBuild (buildSetupAuthTransaction cfg fn (setupAuth cfg input.smartAccountAddress
      authRuleID .passkey "" (adminBundlerDelegatedAuth authRule)))
    return (tx, authRuleID)

end Backup

end LatchApi.Setup
