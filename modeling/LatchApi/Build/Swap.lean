import LatchApi.Setup.Service

namespace LatchApi.Build

open Lib Program Soroban Bundler Rules
open Multisig (decimalOf)
open Setup (resolveRouterContractID delegatedGFromContextRule)

inductive SwapError where
  | build (e : BuildError)
  | signerMismatch (message : String)
  | validation (message : String)
  | invalidSwapChainXdr

abbrev SwapBuilder (α : Type) := Program BuildOp BuildRes SwapError α

def ofBuilder {α : Type} (p : Builder α) : SwapBuilder α := do
  match ← p.attempt with
  | .ok a => return a
  | .error e => .fail (.build e)

def callRpc {α : Type} (context : String) (p : Builder (Except RpcError α)) : SwapBuilder α :=
  ofBuilder (p >>= orRpc context)

section Amounts

def notAnInteger (fieldName : String) : SwapError :=
  .validation (fieldName ++ " must be a non-negative integer string")

def parseU128Raw (raw fieldName : String) : Except SwapError Nat :=
  match raw.toList with
  | [] => .error (notAnInteger fieldName)
  | c :: cs =>
    match decimalOf 0 (c :: cs) with
    | none => .error (notAnInteger fieldName)
    | some v =>
      if v < 2 ^ 128 then .ok v else .error (.validation (fieldName ++ " is out of u128 range"))

def bigIntToU128 (v : Nat) : UInt64 × UInt64 := (UInt64.ofNat (v / 2 ^ 64), UInt64.ofNat (v % 2 ^ 64))

def scU128 (hi lo : UInt64) : ScVal := .u128 hi lo

end Amounts

section Rules

def isDelegated : ContextRuleSigner → Bool
  | .delegated _ => true
  | _ => false

def ruleIsDelegatedOnly (rule : ContextRuleSummary) : Bool :=
  !rule.signers.isEmpty && rule.signers.all isDelegated

def ruleHasOnlyDelegatedGSigner (rule : ContextRuleSummary) (gAddress : String) : Bool :=
  !rule.signers.isEmpty && rule.signers.all fun
    | .delegated g => g == gAddress
    | _ => false

def ruleHasAnyDelegatedSigner (rule : ContextRuleSummary) : Bool := rule.signers.any isDelegated

structure SwapAuthResolution where
  useDelegatedAuth : Bool := false
  delegatedAuthG : String := ""
  needsPasskeySetup : Bool := false

def resolveSwapAuthMode (rule : Option ContextRuleSummary) (signerType : SignerType)
    (signerG : String) : SwapAuthResolution :=
  match rule with
  | none => {}
  | some rule =>
    let ruleG := delegatedGFromContextRule rule
    if !ruleIsDelegatedOnly rule ∨ ruleG = "" then {}
    else if signerType = .delegated ∧ signerG = ruleG then
      { useDelegatedAuth := true, delegatedAuthG := ruleG }
    else if signerType = .passkey ∨ signerType = .ed25519 then { needsPasskeySetup := true }
    else {}

def firstDelegatedG (rule : ContextRuleSummary) : String :=
  (rule.signers.findSome? fun
    | .delegated g => some g
    | _ => none).getD "unknown"

def assertSwapRuleReadyForSign (rule : Option ContextRuleSummary) (contextRuleID : UInt32) :
    Except SwapError Unit :=
  match rule with
  | none => .ok ()
  | some rule =>
    if ruleIsDelegatedOnly rule then
      .error (.signerMismatch ("default context rule " ++ toString contextRuleID ++
        " only authorizes Delegated(" ++ firstDelegatedG rule ++ "); confirm the swap again to run " ++
        "setup-swap-rules (adds your passkey to the default rule), then retry"))
    else .ok ()

def validateContextRuleForSignerType (rule : Option ContextRuleSummary) (signerType : SignerType)
    (signerG bundlerPublicKey : String) : Except SwapError Unit :=
  if signerG ≠ "" ∧ signerG = bundlerPublicKey then
    .error (.validation "signerG must be the user's delegated G-address, not the bundler fee-payer")
  else
    match rule with
    | none => .ok ()
    | some rule =>
      match signerType with
      | .passkey | .ed25519 =>
        if ruleHasOnlyDelegatedGSigner rule bundlerPublicKey ∧ !ruleHasExternalSigner rule then
          .error (.signerMismatch ("swap rule was configured for Delegated G (bundler), but passkey " ++
            "was requested; remove the rule and run setup-swap-rules again with keyDataHex"))
        else if !ruleHasExternalSigner rule then
          .error (.signerMismatch ("swap context rule has no External passkey signer yet; confirm the " ++
            "swap again to run setup-swap-rules (adds your passkey to the existing rule)"))
        else .ok ()
      | .delegated =>
        if signerG = "" then .error (.validation "signerG is required for delegated")
        else if !ruleHasExternalSigner rule then
          .error (.signerMismatch ("swap context rule has no External passkey signer yet; confirm the " ++
            "swap again to run setup-swap-rules first"))
        else if ruleHasExternalSigner rule ∧ !ruleHasDelegatedSignerG rule signerG then
          .error (.signerMismatch ("swap rule was configured for passkey (External signer), but " ++
            "delegated was requested; remove the rule and run setup-swap-rules with gAddress"))
        -- Never reached: a rule without an external signer was refused above.
        else if !ruleHasExternalSigner rule ∧ !ruleHasDelegatedSignerG rule signerG ∧
            ruleHasAnyDelegatedSigner rule then
          .error (.signerMismatch ("swap rule Delegated signer does not match signerG (" ++ signerG ++
            "); re-run setup-swap-rules with your delegated G-address"))
        else .ok ()
      | .other _ => .ok ()

end Rules

section Swap

structure BuildSwapInput where
  smartAccountAddress : String
  signerType : SignerType
  signerG : String
  routerContractID : String
  keyDataHex : String
  swapChainXdr : Encoded ScVal
  tokenInContractID : String
  amountInRaw : String
  amountOutMinRaw : String

structure BuildSwapResult extends BuildAuthTransactionResult where
  routerContractID : String
  tokenInContractID : String
  amountInRaw : String
  amountOutMinRaw : String
  networkFee : NetworkFee

variable (cfg : BuildConfig) (input : BuildSwapInput)

def swapContextRule : Builder UInt32 := do
  if input.signerType = .passkey ∧ input.keyDataHex ≠ "" then
    match ← orRpc "find rule for signer" (← readRules input.smartAccountAddress
        (findRuleForSigner cfg.webauthnVerifierAddress input.keyDataHex "")) with
    | none => .fail .signerRuleNotFound
    | some (id, _) => return id
  else
    let (id, _) ← orRpc "discover default context rule"
      (← readRules input.smartAccountAddress discoverDefaultContextRule)
    return id

def checkSwapAuth (auth : SwapAuthResolution) (rule : Option ContextRuleSummary)
    (contextRuleID : UInt32) (signerType : SignerType) (signerG bundlerPublicKey : String) :
    Except SwapError Unit := do
  if auth.needsPasskeySetup then assertSwapRuleReadyForSign rule contextRuleID
  if auth.useDelegatedAuth then return ()
  else validateContextRuleForSignerType rule signerType signerG bundlerPublicKey

def checkSwapBalance (amountIn : Nat) (balance : Int64 × UInt64) : Except SwapError Unit :=
  if i128ToInt balance.1 balance.2 < amountIn then
    .error (.validation ("insufficient balance: have " ++ toString (i128ToInt balance.1 balance.2) ++
      " minimal units, need " ++ toString amountIn))
  else .ok ()

def orBuild {α : Type} (context : String) (x : Option α) : Except SwapError α :=
  (orInvalid context x).mapError .build

def orSwapChain : Option ScVal → Except SwapError ScVal := orError .invalidSwapChainXdr

def swapCall (amountIn amountOutMin : Nat) : Except SwapError InvokeContractArgs := do
  let router ← orBuild "resolve router contract"
    (contractIDFromAddress (resolveRouterContractID input.routerContractID))
  let swapChain ← orSwapChain input.swapChainXdr.decode
  let smartAccount ← orBuild "resolve smart account address" (scAddress input.smartAccountAddress)
  let tokenIn ← orBuild "resolve token-in address" (scAddress input.tokenInContractID)
  let (inHi, inLo) := bigIntToU128 amountIn
  let (outHi, outLo) := bigIntToU128 amountOutMin
  return ⟨.contract router, "swap_chained",
    [smartAccount, swapChain, tokenIn, scU128 inHi inLo, scU128 outHi outLo]⟩

def requireDefault (rule : Option ContextRuleSummary) : Except SwapError Unit :=
  if rule.any ContextRuleSummary.isDefault then .ok () else .error (.build .feeRuleNotFound)

def refuseBundler : Except SwapError Unit :=
  if input.signerType = .delegated ∧ input.signerG = cfg.bundlerG then
    .error (.validation "signerG must be your delegated G-address, not the bundler fee-payer")
  else .ok ()

def buildSwap : SwapBuilder BuildSwapResult := do
  ofExcept (refuseBundler cfg input)
  let amountIn ← ofExcept (parseU128Raw input.amountInRaw "amountInRaw")
  let amountOutMin ← ofExcept (parseU128Raw input.amountOutMinRaw "amountOutMinRaw")
  let contextRuleID ← ofBuilder (swapContextRule cfg input)
  let rule ← callRpc "fetch default context rule"
    (readRules input.smartAccountAddress (ruleAtID contextRuleID))
  let auth := resolveSwapAuthMode rule input.signerType input.signerG
  ofExcept (checkSwapAuth auth rule contextRuleID input.signerType input.signerG cfg.bundlerG)
  let balance ← callRpc "fetch token balance"
    (balanceOf input.tokenInContractID input.smartAccountAddress)
  ofExcept (checkSwapBalance amountIn balance)
  let swap ← ofExcept (swapCall input amountIn amountOutMin)
  ofExcept (requireDefault rule)
  let wrap ← ofBuilder (planForward cfg input.smartAccountAddress swap input.tokenInContractID
    (some amountIn))
  let seq ← callRpc "fetch bundler sequence" (ledgerSequence cfg.bundlerG)
  let core ← ofBuilder (buildAuthTransactionCore cfg
    { smartAccountAddress := input.smartAccountAddress
      contextRuleID := contextRuleID
      signerType := input.signerType
      signerG := if auth.useDelegatedAuth then auth.delegatedAuthG else input.signerG
      feePayerG := cfg.bundlerG
      bundlerDelegatedAuthMode := auth.useDelegatedAuth
      delegatedAuthG := auth.delegatedAuthG
      dropAuthAddress := wrap.executor }
    (bundlerTransaction cfg seq wrap.hostFunction))
  return {
    toBuildAuthTransactionResult := core
    routerContractID := resolveRouterContractID input.routerContractID
    tokenInContractID := input.tokenInContractID
    amountInRaw := toString amountIn
    amountOutMinRaw := toString amountOutMin
    networkFee := wrap.fee }

end Swap

end LatchApi.Build
