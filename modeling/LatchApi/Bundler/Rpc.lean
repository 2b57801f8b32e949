import LatchApi.Soroban.Delegated

namespace LatchApi.Bundler

open Lib Soroban

structure InvokeOperation where
  hostFunction : HostFunction
  sourceAccount : String
  auth : AuthEntries

structure Transaction where
  source : String
  sequence : Int
  operations : List InvokeOperation
  baseFee : Nat
  timeoutSeconds : Nat
  sorobanData : Option Bytes

structure SignedTransaction where
  transaction : Transaction
  networkPassphrase : String
  signer : Hash

inductive GaslessMode where
  | sponsored
  | forward
deriving DecidableEq

inductive GaslessError where
  | notConfigured
  | unavailable
  | pending
  | refused
  | limited
  | tooManyFailures
  | other
deriving DecidableEq

inductive RpcError where
  | failed
deriving DecidableEq

structure SimulateResult where
  error : String
  transactionData : Encoded Bytes

structure SendResult where
  hash : String
  isError : Bool
  errorResultXdr : String

inductive PollError where
  | cancelled
  | failed
deriving DecidableEq

inductive TransactionStatus where
  | success (resultMetaXdr : String)
  | failed
  | notFound
  | pending
deriving DecidableEq

inductive TxOp where
  | feeTokens
  | ledgerSequence (account : String)
  | buildTransaction (tx : Transaction)
  | simulate (tx : Transaction)
  | signPayload (entry : SorobanAuthorizationEntry) (payload : Bytes)
  | send (tx : SignedTransaction)
  | getTransaction (hash : String)
  | gaslessSubmit (mode : GaslessMode) (wallet requestID : String) (tx : Transaction)
  | tokenBalance (token wallet : String)

@[reducible] def TxRes : TxOp → Type
  | .feeTokens => Except GaslessError String
  | .ledgerSequence _ => Except RpcError Int
  | .buildTransaction _ => Except RpcError Unit
  | .simulate _ => Except RpcError SimulateResult
  | .signPayload _ _ => Except RpcError Bytes
  | .send _ => Except RpcError SendResult
  | .getTransaction _ => Except PollError TransactionStatus
  | .gaslessSubmit _ _ _ _ => Except (GaslessError × String) String
  | .tokenBalance _ _ => Except RpcError Int

inductive SubmitError where
  | invalid (message : String)
  | decode (what : String)
  | rpc (context : String)
  | rejected (context message : String)
  | transactionFailed
  | cancelled
  | gasless (e : GaslessError)
  | insufficientFeeBalance
  | feeQuoteStale
  | notAddressCredentials
  | contextRuleIDRequired
  | batchMixedContracts (first other : String)
  | delegated (e : DelegatedError)
  | panicked

abbrev Submitter (α : Type) := Program TxOp TxRes SubmitError α

inductive SubmitStatus where
  | success
  | pending
deriving DecidableEq

structure SubmitResult where
  hash : String
  status : SubmitStatus
  resultMetaXdr : String
deriving DecidableEq

structure TxConfig where
  networkPassphrase : String
  bundler : Hash
  webauthnVerifierAddress : String
  gaslessConfigured : Bool

def TxConfig.bundlerG (cfg : TxConfig) : String := accountText cfg.bundler

section Calls

open Program (perform)

abbrev feeTokens : Submitter (Except GaslessError String) := perform TxOp.feeTokens

abbrev ledgerSequence (account : String) : Submitter (Except RpcError Int) :=
  perform (TxOp.ledgerSequence account)

abbrev buildTransaction (tx : Transaction) : Submitter (Except RpcError Unit) :=
  perform (TxOp.buildTransaction tx)

abbrev simulate (tx : Transaction) : Submitter (Except RpcError SimulateResult) :=
  perform (TxOp.simulate tx)

abbrev signPayload (entry : SorobanAuthorizationEntry) (payload : Bytes) :
    Submitter (Except RpcError Bytes) := perform (TxOp.signPayload entry payload)

abbrev send (tx : SignedTransaction) : Submitter (Except RpcError SendResult) :=
  perform (TxOp.send tx)

abbrev getTransaction (hash : String) : Submitter (Except PollError TransactionStatus) :=
  perform (TxOp.getTransaction hash)

abbrev gaslessSubmit (mode : GaslessMode) (wallet requestID : String) (tx : Transaction) :
    Submitter (Except (GaslessError × String) String) :=
  perform (TxOp.gaslessSubmit mode wallet requestID tx)

abbrev tokenBalance (token wallet : String) : Submitter (Except RpcError Int) :=
  perform (TxOp.tokenBalance token wallet)

end Calls

end LatchApi.Bundler
