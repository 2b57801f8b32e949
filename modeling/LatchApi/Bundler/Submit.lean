import Mathlib.Algebra.Ring.Int.Defs
import LatchApi.Bundler.Rpc

namespace LatchApi.Bundler

open Lib Program Soroban

def deployFee : Nat := 1500000

def minBaseFee : Nat := 100

def buildTimeoutSeconds : Nat := 30

def submitPollAttempts : Nat := 20

def maxBatchOperations : Nat := 4

def forwardFn : String := "forward"

def forwardArgCount : Nat := 9

def simDummySourceAccount : String := "GA5WUJ54Z23KILLCUOUNAKTPBVZWKMQVO4O6EQ5GHLAERIMLLHNCSKYH"

def orRpc {α : Type} (context : String) : Except RpcError α → Submitter α :=
  orFail fun _ => .rpc context

def invokedContract : HostFunction → Option InvokeContractArgs
  | .invokeContract inv => some inv
  | _ => none

def callArgs (fn : HostFunction) : List ScVal :=
  ((invokedContract fn).map InvokeContractArgs.args).getD []

def isForwardShaped (fn : HostFunction) : Bool :=
  (invokedContract fn).any fun inv =>
    inv.functionName == forwardFn && inv.args.length == forwardArgCount

def forwardCallWallet (fn : HostFunction) (feeForwarder : String) : Option String :=
  match invokedContract fn with
  | none => none
  | some inv =>
    if inv.functionName = forwardFn ∧ inv.args.length = forwardArgCount ∧
        inv.contractAddress.text = feeForwarder then
      inv.args[7]?.bind scValToAddressString
    else none

variable (cfg : TxConfig)

def userPaidWallet (fn : HostFunction) : Submitter (Option String) :=
  if isForwardShaped fn then
    if cfg.gaslessConfigured then do
      match ← feeTokens with
      | .error e => .fail (.gasless e)
      | .ok feeForwarder => return forwardCallWallet fn feeForwarder
    else .fail (.gasless .notConfigured)
  else .ok none

def sponsoredWalletFunctions : List String :=
  ["add_context_rule", "add_signer", "remove_context_rule"]

def sponsoredWallet (fn : HostFunction) : Option String :=
  match invokedContract fn with
  | none => none
  | some inv =>
    if inv.functionName ∈ sponsoredWalletFunctions then some inv.contractAddress.text else none

def gaslessRequestID (fn : HostFunction) (entries : AuthEntries) : String :=
  "latch_" ++ asciiText ((textBytes (hexEncode (sha256 (marshalHostFunction fn ++
    (entries.map marshalAuthEntry).flatten)))).take 40)

def gaslessTransaction (fn : HostFunction) (entries : AuthEntries) :
    Transaction where
  source := simDummySourceAccount
  sequence := 1
  operations := [⟨fn, simDummySourceAccount, entries⟩]
  baseFee := minBaseFee
  timeoutSeconds := buildTimeoutSeconds
  sorobanData := none

def submitGasless (mode : GaslessMode) (wallet : String) (fn : HostFunction)
    (entries : AuthEntries) : Submitter SubmitResult := do
  if cfg.gaslessConfigured then
    orRpc "build gasless envelope" (← buildTransaction (gaslessTransaction fn entries))
    match ← gaslessSubmit mode wallet (gaslessRequestID fn entries) (gaslessTransaction fn entries) with
    | .ok hash => return ⟨hash, .success, ""⟩
    | .error (e, hash) =>
      if e = .pending ∧ hash ≠ "" then return ⟨hash, .pending, ""⟩ else .fail (.gasless e)
  else .fail (.gasless .notConfigured)

def i128ToInt (hi : Int64) (lo : UInt64) : Int := hi.toInt * 2 ^ 64 + lo.toNat

def spendOf (target : String) (fn args : ScVal) : Option (String × Int) :=
  match fn, args with
  | .symbol "transfer", .vec (some [_, _, .i128 hi lo]) => some (target, i128ToInt hi lo)
  | .symbol "swap_chained", .vec (some [_, _, tokenIn, .u128 hi lo, _]) =>
    (scValToAddressString tokenIn).map fun token => (token, (hi.toNat : Int) * 2 ^ 64 + lo.toNat)
  | _, _ => none

def forwardSpend (args : List ScVal) : Option (String × Int) := do
  let target ← args[4]?.bind scValToAddressString
  spendOf target (← args[5]?) (← args[6]?)

def forwardNeed (token : String) (args : List ScVal) (maxFee : Int) : Int :=
  match forwardSpend args with
  | some (spendToken, amount) => if spendToken = token then maxFee + amount else maxFee
  | none => maxFee

def i128Of : ScVal → Option Int
  | .i128 hi lo => some (i128ToInt hi lo)
  | _ => none

def forwardBalanceShort (wallet : String) (args : List ScVal) : Submitter Bool := do
  match args[0]?.bind scValToAddressString with
  | none => return false
  | some token =>
    match args[2]?.bind i128Of with
    | none => .fail .panicked
    | some maxFee =>
      match ← tokenBalance token wallet with
      | .error _ => return false
      | .ok balance => return decide (balance < forwardNeed token args maxFee)

def submitForward (wallet : String) (fn : HostFunction) (entries : AuthEntries) :
    Submitter SubmitResult := do
  match ← (submitGasless cfg .forward wallet fn entries).attempt with
  | .ok result => return result
  | .error (.gasless .refused) =>
    if ← forwardBalanceShort wallet (callArgs fn) then
      .fail .insufficientFeeBalance
    else .fail .feeQuoteStale
  | .error e => .fail e

def hostFunctionContractID (fn : HostFunction) : Except String String :=
  match invokedContract fn with
  | none => .error "expected a contract invocation"
  | some inv =>
    match inv.contractAddress with
    | .contract id => .ok (contractText id)
    | _ => .error "invocation target is not a contract address"

def decodeSorobanData (sim : SimulateResult) : Except SubmitError Bytes :=
  match sim.transactionData.decode with
  | some data => .ok data
  | none => .error (.decode "soroban transaction data")

def requireAuthValid (sim : SimulateResult) : Except SubmitError Unit :=
  if sim.error = "" then .ok () else .error (.rejected "auth validation failed" sim.error)

def hostFunctionOf : OperationBody → Option HostFunction
  | .invokeHostFunction fn _ => some fn
  | .other => none

def singleHostFunction (tx : Encoded TransactionEnvelope) : Except SubmitError HostFunction :=
  match tx.decode with
  | none => .error (.decode "tx envelope")
  | some (.v1 [op]) =>
    match hostFunctionOf op with
    | some fn => .ok fn
    | none => .error (.invalid "expected an invoke host function operation")
  | some _ => .error (.invalid "expected a single-operation transaction envelope")

section Single

def pollSubmitResult (hash : String) : Nat → Submitter SubmitStatus
  | 0 => .ok .pending
  | attempts + 1 => do
    match ← getTransaction hash with
    | .error .cancelled => .fail .cancelled
    | .error .failed => .fail (.rpc "poll transaction")
    | .ok (.success _) => return .success
    | .ok .failed => .fail .transactionFailed
    | .ok .notFound => pollSubmitResult hash attempts
    | .ok .pending => pollSubmitResult hash attempts

def rebuiltCall (cfg : TxConfig) (seq : Int) (fn : HostFunction) (entries : AuthEntries)
    (sorobanData : Option Bytes) : Transaction where
  source := cfg.bundlerG
  sequence := seq + 1
  operations := [⟨fn, cfg.bundlerG, entries⟩]
  baseFee := deployFee
  timeoutSeconds := buildTimeoutSeconds
  sorobanData := sorobanData

def sendAndPoll (tx : SignedTransaction) : Submitter SubmitResult := do
  let sent ← orRpc "send transaction" (← send tx)
  if sent.isError then .fail (.rejected "transaction submission failed" sent.errorResultXdr)
  else
    let status ← pollSubmitResult sent.hash submitPollAttempts
    return ⟨sent.hash, status, ""⟩

def submitRebuilt (fn : HostFunction) (entries : AuthEntries) :
    Submitter SubmitResult := do
  let wallet := sponsoredWallet fn
  let seq ← if wallet.isSome then pure 0
    else do orRpc "refresh bundler sequence" (← ledgerSequence cfg.bundlerG)
  let simTx := rebuiltCall cfg seq fn entries none
  orRpc "build enforcing-mode simulate tx" (← buildTransaction simTx)
  let sim ← orRpc "enforcing-mode simulation" (← simulate simTx)
  ofExcept (requireAuthValid sim)
  match wallet with
  | some wallet => submitGasless cfg .sponsored wallet fn entries
  | none =>
    let data ← ofExcept (decodeSorobanData sim)
    let finalTx := rebuiltCall cfg seq fn entries (some data)
    orRpc "build final tx" (← buildTransaction finalTx)
    sendAndPoll ⟨finalTx, cfg.networkPassphrase, cfg.bundler⟩

def submitHostFunction (fn : HostFunction) (entries : AuthEntries) :
    Submitter SubmitResult := do
  match ← userPaidWallet cfg fn with
  | some wallet => submitForward cfg wallet fn entries
  | none => submitRebuilt cfg fn entries

def submitWithBundler (tx : Encoded TransactionEnvelope) (entries : AuthEntries) :
    Submitter SubmitResult := do
  let fn ← ofExcept (singleHostFunction tx)
  submitHostFunction cfg fn entries

end Single

section Batch

def sameContract (target : Option String) (i : Nat) : List OperationBody →
    Except SubmitError (List HostFunction)
  | [] => .ok []
  | op :: ops => do
    let some fn := hostFunctionOf op
      | .error (.invalid ("operation " ++ toString i ++ " is not an invoke host function"))
    let contract ← (hostFunctionContractID fn).mapError fun e =>
      .invalid ("operation " ++ toString i ++ ": " ++ e)
    if target.any (· ≠ contract) then .error (.batchMixedContracts (target.getD "") contract)
    else
      let fns ← sameContract (some (target.getD contract)) (i + 1) ops
      return fn :: fns

def batchHostFunctions (tx : Encoded TransactionEnvelope) :
    Except SubmitError (List HostFunction) :=
  match tx.decode with
  | none => .error (.decode "tx envelope")
  | some .other => .error (.invalid "expected a v1 transaction envelope")
  | some (.v1 ops) =>
    if ops.length = 0 ∨ maxBatchOperations < ops.length then
      .error (.invalid ("expected between 1 and 4 operations, got " ++ toString ops.length))
    else sameContract none 0 ops

def pollSubmitResultWithMeta (hash : String) : Nat → Submitter (SubmitStatus × String)
  | 0 => .ok (.pending, "")
  | attempts + 1 => do
    match ← getTransaction hash with
    | .error .cancelled => .fail .cancelled
    | .error .failed => .fail (.rpc "poll transaction")
    | .ok (.success resultMeta) => return (.success, resultMeta)
    | .ok .failed => .fail .transactionFailed
    | .ok .notFound => pollSubmitResultWithMeta hash attempts
    | .ok .pending => pollSubmitResultWithMeta hash attempts

def rebuiltTransaction (cfg : TxConfig) (seq : Int) (fns : List HostFunction)
    (entries : AuthEntries) (sorobanData : Option Bytes) : Transaction where
  source := cfg.bundlerG
  sequence := seq + 1
  operations := fns.map fun fn => ⟨fn, cfg.bundlerG, entries⟩
  baseFee := deployFee
  timeoutSeconds := buildTimeoutSeconds
  sorobanData := sorobanData

def sendAndPollWithMeta (tx : SignedTransaction) : Submitter SubmitResult := do
  let sent ← orRpc "send tx" (← send tx)
  if sent.isError then .fail (.rejected "submission failed" sent.errorResultXdr)
  else
    let (status, resultMeta) ← pollSubmitResultWithMeta sent.hash submitPollAttempts
    return ⟨sent.hash, status, resultMeta⟩

def submitBatch (fns : List HostFunction) (entries : AuthEntries)
    (sponsored : Option (String × HostFunction)) : Submitter SubmitResult := do
  let seq ← match sponsored with
    | some _ => pure 0
    | none => do orRpc "refresh bundler sequence" (← ledgerSequence cfg.bundlerG)
  let simTx := rebuiltTransaction cfg seq fns entries none
  orRpc "build enforcing-mode simulate tx" (← buildTransaction simTx)
  let sim ← orRpc "enforcing-mode simulation" (← simulate simTx)
  ofExcept (requireAuthValid sim)
  match sponsored with
  | some (wallet, fn) => submitGasless cfg .sponsored wallet fn entries
  | none =>
    let data ← ofExcept (decodeSorobanData sim)
    let finalTx := rebuiltTransaction cfg seq fns entries (some data)
    orRpc "build final tx" (← buildTransaction finalTx)
    sendAndPollWithMeta ⟨finalTx, cfg.networkPassphrase, cfg.bundler⟩

def submitHostFunctions (fns : List HostFunction) (entries : AuthEntries) :
    Submitter SubmitResult :=
  match fns with
  | [fn] => do
    match ← userPaidWallet cfg fn with
    | some wallet => submitForward cfg wallet fn entries
    | none => submitBatch cfg [fn] entries ((sponsoredWallet fn).map fun wallet => (wallet, fn))
  | fns => submitBatch cfg fns entries none

def submitBatchAuthEntries (tx : Encoded TransactionEnvelope)
    (entries : AuthEntries) : Submitter SubmitResult := do
  let fns ← ofExcept (batchHostFunctions tx)
  submitHostFunctions cfg fns entries

end Batch

end LatchApi.Bundler
