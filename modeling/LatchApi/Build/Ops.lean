import Mathlib.Algebra.Order.Ring.Rat
import LatchApi.Multisig.Operations
import LatchApi.Rules.Scan

namespace LatchApi.Build

open Lib Program Soroban Bundler Rules
open Multisig (OperationSimulation MultisigError invokeContractHostFunction decimalOf)

structure Simulation extends OperationSimulation where
  minResourceFee : String

structure GaslessFeeToken where
  contract : String
  symbol : String
  native : Bool

structure GaslessFeeConfig where
  feeForwarder : String
  relayer : String
  feeTokens : List GaslessFeeToken

structure GaslessQuote where
  feeToken : String
  symbol : String
  maxFeeAmount : Int64

inductive BuildOp where
  | readRules (smartAccountAddress : String) (read : ReadCall)
  | feeTokens
  | quote (feeToken : String) (resourceFeeStroops : Int64)
  | balanceOf (tokenContractID holderAddress : String)
  | ledgerSequence (account : String)
  | buildTransaction (tx : Transaction)
  | simulate (tx : Transaction)
  | simulateEnvelope (tx : Encoded TransactionEnvelope)
  | randomNonce48 (signerG : String)

@[reducible] def BuildRes : BuildOp → Type
  | .readRules _ read => ReadRes read
  | .feeTokens => Except GaslessError GaslessFeeConfig
  | .quote _ _ => Except GaslessError GaslessQuote
  | .balanceOf _ _ => Except RpcError (Int64 × UInt64)
  | .ledgerSequence _ => Except RpcError Int
  | .buildTransaction _ => Except RpcError Unit
  | .simulate _ => Except RpcError Simulation
  | .simulateEnvelope _ => Except RpcError Simulation
  | .randomNonce48 _ => Except RpcError Int64

inductive BuildError where
  | invalid (context : String)
  | rpc (context : String)
  | gasless (context : String) (e : GaslessError)
  | simulationFailed (context message : String)
  | resolveAsset (e : MultisigError)
  | signerRuleNotFound
  | feeRuleNotFound
  | insufficientFeeBalance
  | notAddressCredentials
  | prepareSignNoContextRule (message : String)
  | prepareSignSignerMismatch (message : String)
  | prepareSignValidation (message : String)

abbrev Builder (α : Type) := Program BuildOp BuildRes BuildError α

structure BuildConfig extends TxConfig where
  ed25519VerifierAddress : String
  legacyDelegatedSigner : Option Hash

def BuildConfig.resolvesSigner (cfg : BuildConfig) (gAddress : String) : Bool :=
  cfg.bundlerG == gAddress || cfg.legacyDelegatedSigner.any fun key => accountText key == gAddress

section Calls

open Program (perform)

abbrev feeTokens : Builder (Except GaslessError GaslessFeeConfig) := perform BuildOp.feeTokens

abbrev quote (feeToken : String) (resourceFeeStroops : Int64) :
    Builder (Except GaslessError GaslessQuote) := perform (BuildOp.quote feeToken resourceFeeStroops)

abbrev balanceOf (tokenContractID holderAddress : String) :
    Builder (Except RpcError (Int64 × UInt64)) :=
  perform (BuildOp.balanceOf tokenContractID holderAddress)

abbrev ledgerSequence (account : String) : Builder (Except RpcError Int) :=
  perform (BuildOp.ledgerSequence account)

abbrev buildTransaction (tx : Transaction) : Builder (Except RpcError Unit) :=
  perform (BuildOp.buildTransaction tx)

abbrev simulate (tx : Transaction) : Builder (Except RpcError Simulation) :=
  perform (BuildOp.simulate tx)

abbrev simulateEnvelope (tx : Encoded TransactionEnvelope) : Builder (Except RpcError Simulation) :=
  perform (BuildOp.simulateEnvelope tx)

abbrev randomNonce48 (signerG : String) : Builder (Except RpcError Int64) :=
  perform (BuildOp.randomNonce48 signerG)

end Calls

def readRules {α : Type} (smartAccountAddress : String) (p : RuleReader α) :
    Builder (Except RpcError α) :=
  (p.embed (BuildOp.readRules smartAccountAddress) fun _ r => r).attempt

def orRpc {α : Type} (context : String) : Except RpcError α → Builder α :=
  orFail fun _ => .rpc context

def orGasless {α : Type} (context : String) : Except GaslessError α → Builder α :=
  orFail (.gasless context)

def orInvalid {α : Type} (context : String) : Option α → Except BuildError α :=
  orError (.invalid context)

def orNotAddress {α : Type} : Option α → Except BuildError α := orError .notAddressCredentials

section Forward

def forwardResourceFactor : Int64 := 2

def forwardExpiryLedgers : UInt32 := 120

structure NetworkFee where
  token : String
  symbol : String
  maxAmountRaw : String
  maxAmount : String

structure ForwardWrap where
  hostFunction : HostFunction
  fee : NetworkFee
  executor : String
  feeForwarder : String

def parseInt64 (text : String) : Option Int64 :=
  let bounded (n : Int) : Option Int64 :=
    if Int64.minValue.toInt ≤ n ∧ n ≤ Int64.maxValue.toInt then some (Int64.ofInt n) else none
  match text.toList with
  | [] => none
  | ['+'] => none
  | ['-'] => none
  | '+' :: cs => (decimalOf 0 cs).bind fun n => bounded n
  | '-' :: cs => (decimalOf 0 cs).bind fun n => bounded (-n)
  | cs => (decimalOf 0 cs).bind fun n => bounded n

def resourceFeeTransaction (target : InvokeContractArgs) : Transaction where
  source := simDummySourceAccount
  sequence := 1
  operations := [⟨.invokeContract target, simDummySourceAccount, []⟩]
  baseFee := minBaseFee
  timeoutSeconds := buildTimeoutSeconds
  sorobanData := none

def simulateResourceFee (target : InvokeContractArgs) : Builder (Int64 × Int64) := do
  orRpc "build fee simulation" (← buildTransaction (resourceFeeTransaction target))
  let sim ← orRpc "simulate for network fee" (← simulate (resourceFeeTransaction target))
  if sim.error ≠ "" then .fail (.simulationFailed "simulation failed" sim.error)
  else
    let fee ← ofExcept (orInvalid "parse resource fee" (parseInt64 sim.minResourceFee))
    return (fee, sim.latestLedger)

def swapStep (ts : List GaslessFeeToken) (i : Nat) : List GaslessFeeToken :=
  match ts[0]?, ts[i]? with
  | some first, some t => if t.native ∧ i ≠ 0 then (ts.set 0 t).set i first else ts
  | _, _ => ts

def nativeFirst (tokens : List GaslessFeeToken) : List GaslessFeeToken :=
  (List.range tokens.length).foldl swapStep tokens

def forwardFeeNeed (maxFeeAmount : Int64) (spendToken feeToken : String)
    (spendAmount : Option Int) : Int :=
  maxFeeAmount.toInt + if spendToken = feeToken then spendAmount.getD 0 else 0

def chooseFeeToken (wallet spendToken : String) (spendAmount : Option Int) (resourceFee : Int64) :
    Option GaslessError → List GaslessFeeToken → Builder GaslessQuote
  | quoteErr, [] =>
    if quoteErr = some .unavailable then .fail (.gasless "quote network fee" .unavailable)
    else .fail .insufficientFeeBalance
  | quoteErr, t :: ts => do
    match ← quote t.contract (forwardResourceFactor * resourceFee) with
    | .error e => chooseFeeToken wallet spendToken spendAmount resourceFee (some e) ts
    | .ok q =>
      let (hi, lo) ← orRpc "fee token balance" (← balanceOf t.contract wallet)
      if forwardFeeNeed q.maxFeeAmount spendToken t.contract spendAmount ≤ i128ToInt hi lo then
        return q
      else chooseFeeToken wallet spendToken spendAmount resourceFee quoteErr ts

def forwardHostFunction (feeForwarder feeToken : String) (maxFee : Int64) (expiration : UInt32)
    (target : InvokeContractArgs) (user relayer : String) : Except BuildError HostFunction := do
  let forwarder ← orInvalid "resolve fee forwarder" (contractIDFromAddress feeForwarder)
  let token ← orInvalid "resolve fee token" (scAddress feeToken)
  let user ← orInvalid "resolve user" (scAddress user)
  let relayer ← orInvalid "resolve relayer" (scAddress relayer)
  return invokeContractHostFunction forwarder forwardFn
    [token, scI128 0 1, scI128 0 maxFee.toUInt64, scU32 expiration,
      .address target.contractAddress, scSymbol target.functionName, scVec target.args, user, relayer]

/-- `big.Rat.FloatString`: the fraction is in lowest terms, and a half is rounded up. -/
def floatString (x : ℚ) (prec : Nat) : List Char :=
  let sign := if x.num < 0 then ['-'] else []
  if x.den = 1 then
    sign ++ Nat.toDigits 10 x.num.natAbs ++ if 0 < prec then '.' :: List.replicate prec '0' else []
  else
    let scaled := x.num.natAbs % x.den * 10 ^ prec
    let up := x.den ≤ 2 * (scaled % x.den)
    let r := if up then scaled / x.den + 1 else scaled / x.den
    let carry := up ∧ 10 ^ prec ≤ r
    let q := if carry then x.num.natAbs / x.den + 1 else x.num.natAbs / x.den
    let rs := Nat.toDigits 10 (if carry then r - 10 ^ prec else r)
    sign ++ Nat.toDigits 10 q ++
      if 0 < prec then '.' :: (List.replicate (prec - rs.length) '0' ++ rs) else []

/-- Drops zeros at the front of a reversed text, but not its last character. -/
def trimZeros : List Char → List Char
  | '0' :: c :: cs => trimZeros (c :: cs)
  | cs => cs

def dropPoint (s : List Char) : List Char := if s.head? = some '.' then s.drop 1 else s

def formatSevenDecimals (units : Int64) : String :=
  String.ofList (dropPoint (trimZeros (floatString (mkRat units.toInt 10000000) 7).reverse)).reverse

example : formatSevenDecimals 14000 = "0.0014" := by decide +kernel

def planForward (cfg : BuildConfig) (wallet : String) (target : InvokeContractArgs)
    (spendToken : String) (spendAmount : Option Int) : Builder ForwardWrap := do
  if cfg.gaslessConfigured then
    let config ← orGasless "fee token config" (← feeTokens)
    let (resourceFee, latest) ← simulateResourceFee target
    let chosen ← chooseFeeToken wallet spendToken spendAmount resourceFee none
      (nativeFirst config.feeTokens)
    let fn ← ofExcept (forwardHostFunction config.feeForwarder chosen.feeToken chosen.maxFeeAmount
      (latest.toUInt64.toUInt32 + forwardExpiryLedgers) target wallet config.relayer)
    return {
      hostFunction := fn
      executor := config.relayer
      feeForwarder := config.feeForwarder
      fee := ⟨chosen.feeToken, chosen.symbol, toString chosen.maxFeeAmount,
        formatSevenDecimals chosen.maxFeeAmount⟩ }
  else .fail (.gasless "" .notConfigured)

end Forward

end LatchApi.Build
