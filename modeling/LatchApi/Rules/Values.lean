import LatchApi.Soroban.ScVal

namespace LatchApi.Rules

open Lib Soroban

def backupSignerRuleName : String := "backup"

def buildDefaultContextType : ScVal := scVec [scSymbol "Default"]

def buildCallContractContextType (contractID : String) : Option ScVal :=
  (scAddress contractID).map fun address => scVec [scSymbol "CallContract", address]

def buildExternalSignerScVal (verifierAddress : String) (keyData : Bytes) : Option ScVal :=
  (scAddress verifierAddress).map fun verifier =>
    scVec [scSymbol "External", verifier, scBytes keyData]

def buildDelegatedSignerScVal (gAddress : String) : Option ScVal :=
  (scAddress gAddress).map fun address => scVec [scSymbol "Delegated", address]

def addSignerRuleArgs (signer : ScVal) : List ScVal :=
  [buildDefaultContextType, scString backupSignerRuleName, scVoid, scVec [signer], scMap []]

end LatchApi.Rules
