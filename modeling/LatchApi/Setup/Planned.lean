import LatchApi.Build.Transactions
import LatchApi.Lib.Eval
import LatchApi.Rules.SignerRule
import LatchApi.Setup.Service

namespace LatchApi.Setup

open Lib Program Soroban Bundler Rules Build
open Multisig (ContextRuleDiscovery)

section Scans

variable (t : RuleTable)

theorem result_eq_eval {α : Type} (p : RuleReader α) : t.result p = eval (t.answers []) p := by
  refine runWith_eq_eval (always_of_forall (G := fun _ => True) (fun _ => trivial) p) ?_ []
  intro h op _
  cases op <;> rfl

def discovered (target : String) : UInt32 × ContextRuleDiscovery :=
  match t.scanned.find? fun r => decide (r.callContractAddress = target) with
  | some r => (r.id, .matched)
  | none =>
    match t.scanned.find? ContextRuleSummary.isDefault with
    | some r => (r.id, .default)
    | none => (0, .fallback)

theorem result_discoverContextRule (target : String) :
    t.result (discoverContextRule target) = .ok (discovered t target) := by
  refine t.result_scanRules_bind ?_
  rw [RuleTable.visitAll_discover, discovered]
  cases t.scanned.find? fun r => decide (r.callContractAddress = target) with
  | some r => rfl
  | none => cases t.scanned.find? ContextRuleSummary.isDefault <;> rfl

def defaultRuleID : UInt32 :=
  ((t.scanned.find? ContextRuleSummary.isDefault).map ContextRuleSummary.id).getD 0

theorem result_discoverDefault : ∃ how,
    t.result discoverDefaultContextRule = .ok (defaultRuleID t, how) := by
  cases hfind : t.scanned.find? ContextRuleSummary.isDefault with
  | some r =>
    refine ⟨.default, ?_⟩
    rw [defaultRuleID, hfind]
    exact RuleTable.result_discoverDefaultContextRule hfind
  | none =>
    refine ⟨.fallback, t.result_scanRules_bind ?_⟩
    rw [RuleTable.visitAll_first, hfind, defaultRuleID, hfind]
    rfl

def ruleWithID (id : UInt32) : Option ContextRuleSummary :=
  (t.rule id.toNat).map (parseContextRuleSummary id)

theorem result_ruleAtID (id : UInt32) : t.result (ruleAtID id) = .ok (ruleWithID t id) := rfl

variable {t}

theorem ruleWithID_of_scanned {r : ContextRuleSummary} (hr : r ∈ t.scanned) :
    ruleWithID t r.id = some r := by
  obtain ⟨-, rule, hrule, hparse⟩ := RuleTable.mem_scanned.mp hr
  rw [ruleWithID, RuleTable.rule_eq_some_iff.mpr hrule, Option.map_some, hparse]

theorem result_findRuleForSigner (t : RuleTable) (verifier keyData target : String) :
    ∃ found, t.result (findRuleForSigner verifier keyData target) = .ok found ∧
      ∀ id how, found = some (id, how) → ∃ r ∈ t.scanned, r.id = id ∧
        ruleHasExactExternalSigner r verifier keyData = true ∧
        (r.isDefault = true ∨ target ≠ "" ∧ r.callContractAddress = target) := by
  refine ⟨_, result_signerRule t verifier keyData target, fun id how hfound => ?_⟩
  obtain ⟨r, hr, hid, hlists, hkind⟩ := RuleTable.scanned_iff.mp (exists_of_signerRule hfound)
  exact ⟨r, hr, hid, exact_iff_lists.mpr hlists, hkind.symm⟩

end Scans

variable {script : Script BuildRes}

section Reads

def ReadsRules (account : String) : BuildOp → Prop
  | .readRules address _ => address = account
  | _ => False

def AnsweredFrom (t : RuleTable) (account : String) (script : Script BuildRes) : Prop :=
  ∀ h read, script h (.readRules account read) = t.answers [] read

def tableAnswers (t : RuleTable) : (op : BuildOp) → BuildRes op
  | .readRules _ read => t.answers [] read
  | .feeTokens => .error .unavailable
  | .quote _ _ => .error .unavailable
  | .balanceOf _ _ => .error .failed
  | .ledgerSequence _ => .ok 0
  | .buildTransaction _ => .error .failed
  | .simulate _ => .error .failed
  | .simulateEnvelope _ => .error .failed
  | .randomNonce48 _ => .error .failed

def decides {α : Type} (t : RuleTable) (p : Builder α) : Except BuildError α :=
  eval (tableAnswers t) p

variable {t : RuleTable} {account : String} {α β : Type} (reader : RuleReader α)

theorem runWith_decides {p : Builder α} (hp : Always (ReadsRules account) p)
    (hscript : AnsweredFrom t account script) (h : Log BuildRes) :
    (p.runWith script h).1 = decides t p := by
  refine runWith_eq_eval hp (fun h op hop => ?_) h
  cases op with
  | readRules address read =>
    obtain rfl : address = account := hop
    exact hscript h read
  | _ => exact hop.elim

@[simp] theorem decides_ok (a : α) : decides t (.ok a : Builder α) = .ok a := rfl

@[simp] theorem decides_ofExcept (x : Except BuildError α) :
    decides t (Program.ofExcept x : Builder α) = x := eval_ofExcept _ x

theorem decides_bind (p : Builder α) (f : α → Builder β) :
    decides t (p >>= f) = decides t p >>= fun a => decides t (f a) := eval_bind _ p f

theorem decides_reader : decides t (readRules account reader) = .ok (t.result reader) := by
  unfold decides readRules
  rw [eval_attempt, eval_embed, result_eq_eval]
  rfl

theorem decides_readRules {context : String} {reader : RuleReader α} {a : α}
    (h : t.result reader = .ok a) (f : α → Builder β) :
    decides t (readRules account reader >>= fun r => orRpc context r >>= f) = decides t (f a) := by
  rw [decides_bind, decides_reader, h]
  rfl

theorem always_readRules : Always (ReadsRules account) (readRules account reader) := by
  refine (Always.embed ?_).attempt
  exact always_of_forall (fun _ => rfl) reader

theorem always_readRules_bind {context : String} {f : α → Builder β}
    (hf : ∀ a, Always (ReadsRules account) (f a)) :
    Always (ReadsRules account) (readRules account reader >>= fun r => Build.orRpc context r >>= f) :=
  (always_readRules reader).bind fun _ => (always_orFail _ _).bind hf

end Reads

section Delegated

theorem mem_of_delegatedG {rule : ContextRuleSummary} {g : String}
    (h : delegatedGFromContextRule rule = g) (hg : g ≠ "") :
    .delegated g ∈ rule.signers := by
  unfold delegatedGFromContextRule at h
  split_ifs at h
  · exact absurd h.symm hg
  split at h
  · rename_i g' hone
    subst h
    have hmem := List.mem_singleton_self g'
    rw [← hone] at hmem
    obtain ⟨signer, hsigner, hkind⟩ := List.mem_filterMap.mp hmem
    cases signer with
    | delegated g =>
      cases hkind
      exact hsigner
    | _ => cases hkind
  · exact absurd h.symm hg

end Delegated

section Builds

def Invokes (fn : HostFunction) (tx : Transaction) : Prop :=
  tx.operations.map InvokeOperation.hostFunction = [fn]

theorem obeys_buildSetupAuthTransaction (cfg : BuildConfig) (fn : HostFunction)
    (auth : AuthTransactionCoreInput) {h : Log BuildRes} :
    Obeys anyRun h (buildSetupAuthTransaction cfg fn auth) (onOk fun _ r =>
      (∃ entries, r.txXdr = .of (.v1 [.invokeHostFunction fn entries])) ∧
        r.contextRuleID = auth.contextRuleID) := by
  refine obeys_call_then fun r => obeys_orFail_bind fun seq _ => ?_
  refine (shape_buildAuthTransactionCore _).mono_onOk fun _ r hr => ?_
  obtain ⟨⟨entries, data, hxdr⟩, hid⟩ := hr
  exact ⟨⟨entries, hxdr⟩, hid⟩

theorem always_buildSetupAuth (cfg : BuildConfig) (fn : HostFunction)
    (auth : AuthTransactionCoreInput) :
    Always (BuildsOnly (Invokes fn)) (buildSetupAuthTransaction cfg fn auth) :=
  always_call_orRpc trivial fun _ => always_buildAuthTransactionCore fun _ _ => rfl

variable {π ρ : Type} {t : RuleTable} {account : String} {plan : Builder π} {f : π → Builder ρ}

theorem buildsOnly_of_decides {T : Transaction → Prop} (hplan : Always (ReadsRules account) plan)
    (hfinish : ∀ a, decides t plan = .ok a → Always (BuildsOnly T) (f a))
    (hscript : AnsweredFrom t account script) :
    ∀ e ∈ ((plan >>= f).runWith script []).2, BuildsOnly T e.1 := by
  have hreads : ∀ e ∈ (plan.runWith script []).2, BuildsOnly T e.1 := by
    refine (hplan.mono fun op hop => ?_).runWith script (by simp)
    cases op with
    | readRules address read => trivial
    | _ => exact hop.elim
  have hout := runWith_decides hplan hscript []
  cases hdecides : decides t plan with
  | error e =>
    rw [runWith_bind_error (hout.trans hdecides)]
    exact hreads
  | ok a =>
    rw [runWith_bind_ok (hout.trans hdecides)]
    exact (hfinish a hdecides).runWith script hreads

theorem built_of_decides {cfg : BuildConfig} {fn : HostFunction} {auth : AuthTransactionCoreInput}
    {k : BuildAuthTransactionResult → Builder ρ} {a : π} (hplan : Always (ReadsRules account) plan)
    (hdecides : decides t plan = .ok a)
    (hfinish : f a = buildSetupAuthTransaction cfg fn auth >>= k) :
    ∃ e ∈ ((plan >>= f).runWith (fun _ => tableAnswers t) []).2,
      e.1 = .buildTransaction (bundlerTransaction cfg 0 fn [] none) := by
  have hout : (plan.runWith (fun _ => tableAnswers t) []).1 = decides t plan :=
    runWith_decides hplan (fun _ _ => rfl) []
  rw [runWith_bind_ok (hout.trans hdecides), hfinish]
  exact ⟨⟨.buildTransaction (bundlerTransaction cfg 0 fn [] none), .error .failed⟩,
    List.mem_cons_self, rfl⟩

end Builds

end LatchApi.Setup
