import LatchApi.Soroban.Marshal
import LatchApi.Soroban.ScVal

namespace LatchApi.Soroban

open Lib

def SorobanAuthorizationEntry.addressCredentials (e : SorobanAuthorizationEntry) :
    Option SorobanAddressCredentials :=
  match e.credentials with
  | .address creds => some creds
  | .sourceAccount => none

def SorobanAuthorizationEntry.hasSourceAccount (e : SorobanAuthorizationEntry) : Bool :=
  e.addressCredentials.isNone

def SorobanAuthorizationEntry.withSignature (e : SorobanAuthorizationEntry) (signature : ScVal) :
    SorobanAuthorizationEntry :=
  match e.credentials with
  | .address creds => { e with credentials := .address { creds with signature := signature } }
  | .sourceAccount => e

variable (e : SorobanAuthorizationEntry) (signature : ScVal) (passphrase : String)

@[simp] theorem withSignature_rootInvocation :
    (e.withSignature signature).rootInvocation = e.rootInvocation := by
  unfold SorobanAuthorizationEntry.withSignature
  split <;> rfl

@[simp] theorem withSignature_hasSourceAccount :
    (e.withSignature signature).hasSourceAccount = e.hasSourceAccount := by
  obtain ⟨credentials, invocation⟩ := e
  cases credentials <;> rfl

def networkID : Bytes := sha256 (textBytes passphrase)

def authPreimage (creds : SorobanAddressCredentials) (invocation : SorobanAuthorizedInvocation) :
    Bytes :=
  xdrUInt32 9 ++ networkID passphrase ++ xdrUInt64 creds.nonce.toUInt64 ++
    xdrUInt32 creds.signatureExpirationLedger ++ marshalInvocation invocation

def sorobanAuthPreimageBytes (entry : SorobanAuthorizationEntry) (passphrase : String) :
    Option Bytes :=
  entry.addressCredentials.map fun creds => authPreimage passphrase creds entry.rootInvocation

def hashSorobanAuthPayload (entry : SorobanAuthorizationEntry) (passphrase : String) :
    Option Bytes :=
  (sorobanAuthPreimageBytes entry passphrase).map sha256

theorem preimage_withSignature : sorobanAuthPreimageBytes (e.withSignature signature) passphrase =
      sorobanAuthPreimageBytes e passphrase := by
  obtain ⟨credentials, invocation⟩ := e
  cases credentials <;> rfl

def ruleIDVals (contextRuleIDs : List UInt32) : ScVal := scVec (contextRuleIDs.map scU32)

def computeAuthDigest (entry : SorobanAuthorizationEntry) (passphrase : String)
    (contextRuleIDs : List UInt32) : Option Bytes :=
  (hashSorobanAuthPayload entry passphrase).map fun payload =>
    sha256 (payload ++ marshalScVal (ruleIDVals contextRuleIDs))

def computeAuthDigestHex (entry : SorobanAuthorizationEntry) (passphrase : String)
    (contextRuleIDs : List UInt32) : Option String :=
  (computeAuthDigest entry passphrase contextRuleIDs).map hexEncode

theorem computeAuthDigest_withSignature (ids : List UInt32) :
    computeAuthDigest (e.withSignature signature) passphrase ids =
      computeAuthDigest e passphrase ids := by
  simp only [computeAuthDigest, hashSorobanAuthPayload, preimage_withSignature]

mutual

def countAuthContexts : SorobanAuthorizedInvocation → Nat
  | ⟨_, subInvocations⟩ => 1 + countContexts subInvocations

def countContexts : List SorobanAuthorizedInvocation → Nat
  | [] => 0
  | i :: is => countAuthContexts i + countContexts is

end

def contextRuleIDsForEntry (entry : SorobanAuthorizationEntry) (ruleID : UInt32) : List UInt32 :=
  List.replicate (countAuthContexts entry.rootInvocation) ruleID

theorem computeAuthDigestHex_withSignature (ruleID : UInt32) :
    computeAuthDigestHex (e.withSignature signature) passphrase
        (contextRuleIDsForEntry (e.withSignature signature) ruleID) =
      computeAuthDigestHex e passphrase (contextRuleIDsForEntry e ruleID) := by
  simp only [computeAuthDigestHex, contextRuleIDsForEntry, computeAuthDigest_withSignature,
    withSignature_rootInvocation]

def u32Of : ScVal → Option UInt32
  | .u32 n => some n
  | _ => none

def isSymbol (name : String) : ScVal → Bool
  | .symbol s => s == name
  | _ => false

def embeddedRuleIDs (entries : List (ScVal × ScVal)) : List UInt32 :=
  match entries.find? fun e => isSymbol "context_rule_ids" e.1 with
  | some (_, .vec (some items)) => (items.mapM u32Of).getD []
  | _ => []

def contextRuleIDsFromSmartAccountAuthEntry (entry : SorobanAuthorizationEntry) : List UInt32 :=
  match entry.addressCredentials.map SorobanAddressCredentials.signature with
  | some (.map (some entries)) => embeddedRuleIDs entries
  | _ => []

/-- The ids the entry carries already, else the requested rule for every context; the
request must name one then. -/
def resolveContextRuleIDs (entry : SorobanAuthorizationEntry) (requested : Option UInt32) :
    Option (List UInt32) :=
  match contextRuleIDsFromSmartAccountAuthEntry entry with
  | [] => requested.map (contextRuleIDsForEntry entry)
  | ids => some ids

def addressStringFromCredentials (entry : SorobanAuthorizationEntry) : Option String :=
  entry.addressCredentials.bind fun creds => addressString creds.address

def isUnsigned : ScVal → Bool
  | .void => true
  | .vec none => true
  | .vec (some items) => items.isEmpty
  | _ => false

def isUnsignedAddressAuthEntry (entry : SorobanAuthorizationEntry) : Bool :=
  entry.addressCredentials.any fun creds => isUnsigned creds.signature

def setAddressCredentialExpiration (entries : AuthEntries) (validUntil : UInt32) : AuthEntries :=
  entries.map fun e => match e.credentials with
    | .address creds =>
      { e with credentials := .address { creds with signatureExpirationLedger := validUntil } }
    | .sourceAccount => e

def normalizeAuthEntries (raw : List (Encoded SorobanAuthorizationEntry)) :
    Option AuthEntries := raw.mapM Encoded.decode

def sameCredentials (e target : SorobanAuthorizationEntry) : Bool :=
  match e.addressCredentials, target.addressCredentials with
  | some a, some b => addressString a.address == addressString b.address && a.nonce == b.nonce
  | _, _ => false

def findMatchingAuthEntryIndex (entries : AuthEntries) (target : SorobanAuthorizationEntry)
    (skipIdx : Nat) : Option Nat :=
  (List.range entries.length).find? fun i =>
    i != skipIdx && entries[i]?.any fun e => sameCredentials e target

end LatchApi.Soroban
