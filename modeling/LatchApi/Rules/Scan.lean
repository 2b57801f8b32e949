import LatchApi.Multisig.Ops

namespace LatchApi.Rules

open Lib Program Soroban Bundler
open Multisig (ContextRuleDiscovery)

def maxContextRuleScan : UInt32 := 64

inductive ContextRuleSigner where
  | external (verifierAddress keyDataHex : String)
  | delegated (gAddress : String)
  | other
deriving DecidableEq

structure ContextRuleSummary where
  id : UInt32
  name : String
  isDefault : Bool
  callContractAddress : String
  signers : List ContextRuleSigner
deriving DecidableEq

section Parse

def scMapGet (m : ScVal) (key : String) : Option ScVal :=
  match m with
  | .map (some entries) => (entries.find? fun e => isSymbol key e.1).map Prod.snd
  | _ => none

def ruleContextTypeIsDefault : ScVal → Bool
  | .symbol name => name == "Default"
  | .vec (some (.symbol name :: _)) => name == "Default"
  | _ => false

def ruleContextTypeCallContractAddress : ScVal → Option String
  | .vec (some (.symbol "CallContract" :: address :: _)) => scValToAddressString address
  | _ => none

def keyDataHexOf : ScVal → String
  | .bytes keyData => hexEncode keyData
  | _ => ""

def parseContextRuleSigner : ScVal → ContextRuleSigner
  | .vec (some (.symbol "External" :: verifier :: keyData :: _)) =>
    .external ((scValToAddressString verifier).getD "") (keyDataHexOf keyData)
  | .vec (some (.symbol "Delegated" :: g :: _)) => .delegated ((scValToAddressString g).getD "")
  | _ => .other

def ruleName : ScVal → String
  | .string name => name
  | _ => ""

def ruleSigners : ScVal → List ContextRuleSigner
  | .vec (some signers) => signers.map parseContextRuleSigner
  | _ => []

def parseContextRuleSummary (id : UInt32) (rule : ScVal) : ContextRuleSummary where
  id := id
  name := ((scMapGet rule "name").map ruleName).getD ""
  isDefault := (scMapGet rule "context_type").any ruleContextTypeIsDefault
  callContractAddress :=
    ((scMapGet rule "context_type").bind ruleContextTypeCallContractAddress).getD ""
  signers := ((scMapGet rule "signers").map ruleSigners).getD []

def equalFold (s t : String) : Bool := toLower s == toLower t

def ruleHasExactExternalSigner (rule : ContextRuleSummary) (verifierAddress keyDataHex : String) :
    Bool :=
  rule.signers.any fun
    | .external verifier keyData => verifier == verifierAddress && equalFold keyData keyDataHex
    | _ => false

end Parse

section Read

inductive ReadCall where
  | getContextRulesCount
  | getContextRule (id : UInt32)

@[reducible] def ReadRes (_ : ReadCall) : Type := Except RpcError (Option ScVal)

abbrev RuleReader (α : Type) := Program ReadCall ReadRes RpcError α

def rulesCount : RuleReader UInt32 := do
  match ← ofExcept (← perform ReadCall.getContextRulesCount) with
  | some (.u32 n) => return n
  | _ => return 0

def getRule (id : UInt32) : RuleReader (Option ContextRuleSummary) := do
  let rule ← ofExcept (← perform (ReadCall.getContextRule id))
  return rule.map (parseContextRuleSummary id)

/-- The loop of a scan: `visit` the rules from `id` on, at most `n` ids, until it is `done`. -/
def scan {β α : Type} (visit : β → UInt32 → ContextRuleSummary → β ⊕ α) :
    Nat → UInt32 → β → RuleReader (β ⊕ α)
  | 0, _, b => .ok (.inl b)
  | n + 1, id, b => do
    match ← getRule id with
    | none => scan visit n (id + 1) b
    | some rule =>
      match visit b id rule with
      | .inl b => scan visit n (id + 1) b
      | .inr a => return .inr a

def scanRules {β α : Type} (visit : β → UInt32 → ContextRuleSummary → β ⊕ α) (b : β) :
    RuleReader (β ⊕ α) := do
  let count ← rulesCount
  scan visit (min count maxContextRuleScan).toNat 0 b

def discoverContextRule (targetContractID : String) : RuleReader (UInt32 × ContextRuleDiscovery) := do
  let visit (default : Option UInt32) (id : UInt32) (rule : ContextRuleSummary) :
      Option UInt32 ⊕ UInt32 :=
    let default := if rule.isDefault ∧ default.isNone then some id else default
    if rule.callContractAddress = targetContractID then .inr id else .inl default
  match ← scanRules visit none with
  | .inr id => return (id, .matched)
  | .inl (some id) => return (id, .default)
  | .inl none => return (0, .fallback)

def discoverDefaultContextRule : RuleReader (UInt32 × ContextRuleDiscovery) := do
  let visit (_ : Unit) (id : UInt32) (rule : ContextRuleSummary) : Unit ⊕ UInt32 :=
    if rule.isDefault then .inr id else .inl ()
  match ← scanRules visit () with
  | .inr id => return (id, .default)
  | .inl () => return (0, .fallback)

def findRuleForSigner (verifierAddress keyDataHex targetContractID : String) :
    RuleReader (Option (UInt32 × ContextRuleDiscovery)) := do
  let visit (default : Option UInt32) (id : UInt32) (rule : ContextRuleSummary) :
      Option UInt32 ⊕ UInt32 :=
    if ruleHasExactExternalSigner rule verifierAddress keyDataHex then
      if targetContractID ≠ "" ∧ rule.callContractAddress = targetContractID then .inr id
      else .inl (if rule.isDefault ∧ default.isNone then some id else default)
    else .inl default
  match ← scanRules visit none with
  | .inr id => return some (id, .matched)
  | .inl (some id) => return some (id, .default)
  | .inl none => return none

def listContextRules : RuleReader (List ContextRuleSummary) := do
  let visit (rules : List ContextRuleSummary) (_ : UInt32) (rule : ContextRuleSummary) :
      List ContextRuleSummary ⊕ Empty := .inl (rules ++ [rule])
  match ← scanRules visit [] with
  | .inl rules => return rules

end Read

end LatchApi.Rules
