import LatchApi.Soroban.Xdr

namespace LatchApi.Soroban

open Lib

def xdrUInt32 (n : UInt32) : Bytes :=
  [(n >>> 24).toUInt8, (n >>> 16).toUInt8, (n >>> 8).toUInt8, n.toUInt8]

def xdrUInt64 (n : UInt64) : Bytes := xdrUInt32 (n >>> 32).toUInt32 ++ xdrUInt32 n.toUInt32

def xdrLength {α : Type} (xs : List α) : Bytes := xdrUInt32 xs.length.toUInt32

def xdrOpaque (b : Bytes) : Bytes :=
  xdrLength b ++ b ++ List.replicate ((4 - b.length % 4) % 4) (0 : UInt8)

def marshalAddress : ScAddress → Bytes
  | .account key => xdrUInt32 0 ++ xdrUInt32 0 ++ key.val
  | .contract id => xdrUInt32 1 ++ id.val
  | .muxedAccount id key => xdrUInt32 2 ++ xdrUInt64 id ++ key.val
  | .claimableBalance id => xdrUInt32 3 ++ xdrUInt32 0 ++ id.val
  | .liquidityPool id => xdrUInt32 4 ++ id.val

mutual

def marshalScVal : ScVal → Bytes
  | .bool b => xdrUInt32 0 ++ xdrUInt32 (if b then 1 else 0)
  | .void => xdrUInt32 1
  | .u32 n => xdrUInt32 3 ++ xdrUInt32 n
  | .i32 n => xdrUInt32 4 ++ xdrUInt32 n.toUInt32
  | .u64 n => xdrUInt32 5 ++ xdrUInt64 n
  | .i64 n => xdrUInt32 6 ++ xdrUInt64 n.toUInt64
  | .timepoint n => xdrUInt32 7 ++ xdrUInt64 n
  | .duration n => xdrUInt32 8 ++ xdrUInt64 n
  | .u128 hi lo => xdrUInt32 9 ++ xdrUInt64 hi ++ xdrUInt64 lo
  | .i128 hi lo => xdrUInt32 10 ++ xdrUInt64 hi.toUInt64 ++ xdrUInt64 lo
  | .u256 a b c d => xdrUInt32 11 ++ xdrUInt64 a ++ xdrUInt64 b ++ xdrUInt64 c ++ xdrUInt64 d
  | .i256 a b c d =>
    xdrUInt32 12 ++ xdrUInt64 a.toUInt64 ++ xdrUInt64 b ++ xdrUInt64 c ++ xdrUInt64 d
  | .bytes b => xdrUInt32 13 ++ xdrOpaque b
  | .string s => xdrUInt32 14 ++ xdrOpaque (textBytes s)
  | .symbol s => xdrUInt32 15 ++ xdrOpaque (textBytes s)
  | .vec none => xdrUInt32 16 ++ xdrUInt32 0
  | .vec (some items) => xdrUInt32 16 ++ xdrUInt32 1 ++ xdrLength items ++ marshalScVals items
  | .map none => xdrUInt32 17 ++ xdrUInt32 0
  | .map (some entries) =>
    xdrUInt32 17 ++ xdrUInt32 1 ++ xdrLength entries ++ marshalScMap entries
  | .address a => xdrUInt32 18 ++ marshalAddress a
  | .other tag body => xdrUInt32 tag ++ body

def marshalScVals : List ScVal → Bytes
  | [] => []
  | v :: vs => marshalScVal v ++ marshalScVals vs

def marshalScMap : List (ScVal × ScVal) → Bytes
  | [] => []
  | (k, v) :: es => marshalScVal k ++ marshalScVal v ++ marshalScMap es

end

def marshalInvokeContract (call : InvokeContractArgs) : Bytes :=
  marshalAddress call.contractAddress ++ xdrOpaque (textBytes call.functionName) ++
    xdrLength call.args ++ marshalScVals call.args

def marshalFunction : SorobanAuthorizedFunction → Bytes
  | .contractFn call => xdrUInt32 0 ++ marshalInvokeContract call
  | .createContractHostFn body => xdrUInt32 1 ++ body
  | .createContractV2HostFn body => xdrUInt32 2 ++ body

mutual

def marshalInvocation : SorobanAuthorizedInvocation → Bytes
  | ⟨function, subInvocations⟩ =>
    marshalFunction function ++ xdrLength subInvocations ++ marshalInvocations subInvocations

def marshalInvocations : List SorobanAuthorizedInvocation → Bytes
  | [] => []
  | i :: is => marshalInvocation i ++ marshalInvocations is

end

def marshalCredentials : SorobanCredentials → Bytes
  | .sourceAccount => xdrUInt32 0
  | .address creds =>
    xdrUInt32 1 ++ marshalAddress creds.address ++ xdrUInt64 creds.nonce.toUInt64 ++
      xdrUInt32 creds.signatureExpirationLedger ++ marshalScVal creds.signature

def marshalAuthEntry (entry : SorobanAuthorizationEntry) : Bytes :=
  marshalCredentials entry.credentials ++ marshalInvocation entry.rootInvocation

def marshalHostFunction : HostFunction → Bytes
  | .invokeContract call => xdrUInt32 0 ++ marshalInvokeContract call
  | .createContract body => xdrUInt32 1 ++ body
  | .uploadContractWasm wasm => xdrUInt32 2 ++ xdrOpaque wasm
  | .createContractV2 body => xdrUInt32 3 ++ body

end LatchApi.Soroban
