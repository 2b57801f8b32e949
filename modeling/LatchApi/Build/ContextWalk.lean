import LatchApi.Build.Built
import LatchApi.Build.Send
import LatchApi.Multisig.Consistent

namespace LatchApi.Build

open Lib Program Soroban List
open Multisig (invocationNodes forestNodes countAuthContexts_eq_length contextRuleIDsForEntry_eq_map)

def contextContracts (entry : SorobanAuthorizationEntry) : List String :=
  (invocationNodes entry.rootInvocation).map contextContract

section Walk

variable {σ : Type} (ruleFor : σ → String → Builder (UInt32 × σ))

def ruleForEach : List String → σ → Builder (List UInt32 × σ)
  | [], s => .ok ([], s)
  | contract :: contracts, s => do
    let (id, s) ← ruleFor s contract
    let (ids, s) ← ruleForEach contracts s
    return (id :: ids, s)

theorem bind_ok {α : Type} (p : Builder α) : p >>= .ok = p := by
  induction p with
  | ok a => rfl
  | fail e => rfl
  | call op next ih => simp only [call_bind, ih]

theorem ruleForEach_append (cs cs' : List String) (s : σ) : ruleForEach ruleFor (cs ++ cs') s = (do
      let (ids, s) ← ruleForEach ruleFor cs s
      let (ids', s) ← ruleForEach ruleFor cs' s
      return (ids ++ ids', s)) := by
  induction cs generalizing s with
  | nil => exact (bind_ok _).symm
  | cons c cs ih =>
    simp only [cons_append, ruleForEach, ih, Program.bind_assoc]
    rfl

mutual

theorem walkContexts_eq : ∀ (inv : SorobanAuthorizedInvocation) (s : σ),
    walkContexts ruleFor inv s =
      ruleForEach ruleFor ((invocationNodes inv).map contextContract) s
  | ⟨function, subInvocations⟩, s => by
    simp only [walkContexts, invocationNodes, map_cons, ruleForEach,
      walkSubInvocations_eq subInvocations]

theorem walkSubInvocations_eq : ∀ (invs : List SorobanAuthorizedInvocation) (s : σ),
    walkSubInvocations ruleFor invs s =
      ruleForEach ruleFor ((forestNodes invs).map contextContract) s
  | [], s => by rw [walkSubInvocations, forestNodes, map_nil, ruleForEach]
  | inv :: invs, s => by
    simp only [walkSubInvocations, forestNodes, map_append, ruleForEach_append,
      walkContexts_eq inv, walkSubInvocations_eq invs]

end

theorem contextRuleIDsPerContext_eq (entry : SorobanAuthorizationEntry) (s : σ) :
    contextRuleIDsPerContext ruleFor entry s = (do
      let (ids, _) ← ruleForEach ruleFor (contextContracts entry) s
      return ids) := by
  rw [contextRuleIDsPerContext, walkContexts_eq]
  rfl

end Walk

section Rules

variable {ruleFor : String → Except BuildError UInt32}

def rulesOf (ruleFor : String → Except BuildError UInt32) : Unit → String → Builder (UInt32 × Unit) :=
  fun s contract => do
    let id ← ofExcept (ruleFor contract)
    return (id, s)

theorem ruleForEach_ok {rule : String → UInt32} {cs : List String}
    (h : ∀ c ∈ cs, ruleFor c = .ok (rule c)) :
    ruleForEach (rulesOf ruleFor) cs () = .ok (cs.map rule, ()) := by
  induction cs with
  | nil => rfl
  | cons c cs ih =>
    obtain ⟨hc, hcs⟩ := forall_mem_cons.mp h
    simp [ruleForEach, rulesOf, Program.ofExcept, hc, ih hcs]

theorem ruleForEach_fail {before after : List String} {c : String} {e : BuildError}
    (hbefore : ∀ c ∈ before, ∃ id, ruleFor c = .ok id) (hc : ruleFor c = .error e) :
    ruleForEach (rulesOf ruleFor) (before ++ c :: after) () = .fail e := by
  induction before with
  | nil => simp [ruleForEach, rulesOf, Program.ofExcept, hc]
  | cons b before ih =>
    obtain ⟨⟨id, hid⟩, hrest⟩ := forall_mem_cons.mp hbefore
    simp [ruleForEach, rulesOf, Program.ofExcept, hid, ih hrest]

/-- The walk asks for the rules of the contexts in pre-order, one for each, and stops at the first
that fails. -/
theorem contextRuleIDsPerContext_preorder (entry : SorobanAuthorizationEntry) :
    (contextContracts entry).length = countAuthContexts entry.rootInvocation ∧
    (∀ (σ : Type) (ruleFor : σ → String → Builder (UInt32 × σ)) (s : σ),
      contextRuleIDsPerContext ruleFor entry s = (do
        let (ids, _) ← ruleForEach ruleFor (contextContracts entry) s
        return ids)) ∧
    ∀ ruleFor : String → Except BuildError UInt32,
      (∀ rule : String → UInt32, (∀ c ∈ contextContracts entry, ruleFor c = .ok (rule c)) →
        contextRuleIDsPerContext (rulesOf ruleFor) entry () =
          .ok ((contextContracts entry).map rule)) ∧
      (∀ id, (∀ c ∈ contextContracts entry, ruleFor c = .ok id) →
        contextRuleIDsPerContext (rulesOf ruleFor) entry () =
          .ok (contextRuleIDsForEntry entry id)) ∧
      ∀ before c after e, contextContracts entry = before ++ c :: after →
        (∀ c ∈ before, ∃ id, ruleFor c = .ok id) → ruleFor c = .error e →
        contextRuleIDsPerContext (rulesOf ruleFor) entry () = .fail e := by
  refine ⟨?_, fun σ ruleFor s => contextRuleIDsPerContext_eq ruleFor entry s, fun ruleFor =>
    ⟨fun rule h => ?_, fun id h => ?_, fun before c after e hcs hbefore hc => ?_⟩⟩
  · rw [contextContracts, length_map, countAuthContexts_eq_length]
  · rw [contextRuleIDsPerContext_eq, ruleForEach_ok h]
    rfl
  · rw [contextRuleIDsPerContext_eq, ruleForEach_ok h, contextRuleIDsForEntry_eq_map, contextContracts, map_map]
    rfl
  · rw [contextRuleIDsPerContext_eq, hcs, ruleForEach_fail hbefore hc]
    rfl

namespace Sample

/-- A call that deploys a contract: its second context has no contract address. -/
def deployEntry : SorobanAuthorizationEntry :=
  ⟨.sourceAccount, ⟨.contractFn increment, [⟨.createContractHostFn [], []⟩]⟩⟩

def called (contract : String) : Except BuildError UInt32 :=
  if contract = "" then .error .feeRuleNotFound else .ok 1

theorem deploy_fails_at_second :
    contextRuleIDsPerContext (rulesOf fun _ => .ok 1) deployEntry () = .ok [1, 1] ∧
    contextRuleIDsPerContext (rulesOf called) deployEntry () = .fail .feeRuleNotFound := by
  obtain ⟨_, _, hrules⟩ := contextRuleIDsPerContext_preorder deployEntry
  have hcalled : called (contextContract (.contractFn increment)) = .ok 1 :=
    if_neg (by decide +kernel)
  refine ⟨(hrules _).2.1 1 fun _ _ => rfl, (hrules called).2.2 [_] "" [] _ rfl ?_ rfl⟩
  simpa using ⟨1, hcalled⟩

end Sample

end Rules

end LatchApi.Build
