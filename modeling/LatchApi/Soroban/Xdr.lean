import LatchApi.Lib.Encoding

namespace LatchApi.Soroban

open Lib

abbrev Hash := { b : Bytes // b.length = 32 }

inductive ScAddress where
  | account (key : Hash)
  | contract (id : Hash)
  | muxedAccount (id : UInt64) (key : Hash)
  | claimableBalance (id : Hash)
  | liquidityPool (id : Hash)
deriving DecidableEq

inductive ScVal where
  | bool (b : Bool)
  | void
  | u32 (n : UInt32)
  | i32 (n : Int32)
  | u64 (n : UInt64)
  | i64 (n : Int64)
  | timepoint (n : UInt64)
  | duration (n : UInt64)
  | u128 (hi lo : UInt64)
  | i128 (hi : Int64) (lo : UInt64)
  | u256 (a b c d : UInt64)
  | i256 (a : Int64) (b c d : UInt64)
  | bytes (b : Bytes)
  | string (s : String)
  | symbol (s : String)
  | vec (items : Option (List ScVal))
  | map (entries : Option (List (ScVal × ScVal)))
  | address (a : ScAddress)
  | other (tag : UInt32) (body : Bytes)

structure InvokeContractArgs where
  contractAddress : ScAddress
  functionName : String
  args : List ScVal

inductive SorobanAuthorizedFunction where
  | contractFn (call : InvokeContractArgs)
  | createContractHostFn (body : Bytes)
  | createContractV2HostFn (body : Bytes)

structure SorobanAuthorizedInvocation where
  function : SorobanAuthorizedFunction
  subInvocations : List SorobanAuthorizedInvocation

structure SorobanAddressCredentials where
  address : ScAddress
  nonce : Int64
  signatureExpirationLedger : UInt32
  signature : ScVal

inductive SorobanCredentials where
  | sourceAccount
  | address (creds : SorobanAddressCredentials)

structure SorobanAuthorizationEntry where
  credentials : SorobanCredentials
  rootInvocation : SorobanAuthorizedInvocation

abbrev AuthEntries := List SorobanAuthorizationEntry

inductive HostFunction where
  | invokeContract (call : InvokeContractArgs)
  | createContract (body : Bytes)
  | uploadContractWasm (wasm : Bytes)
  | createContractV2 (body : Bytes)

inductive OperationBody where
  | invokeHostFunction (fn : HostFunction) (auth : AuthEntries)
  | other

/-- Only the operations of a version 1 envelope are looked at. -/
inductive TransactionEnvelope where
  | v1 (operations : List OperationBody)
  | other

end LatchApi.Soroban
