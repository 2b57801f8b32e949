import LatchApi.Setup.Send

/-!
What setting up a signer for swaps decides. A passkey is looked for in every rule and refused next to
another one; any other signer is compared with, and added to, the default rule only.
-/

namespace LatchApi.Setup

open Lib Program Soroban Bundler Rules Build

namespace SetupSwapRulesInput

variable (cfg : BuildConfig) (input : SetupSwapRulesInput) (t : RuleTable)

def signer : Option ContextRuleSigner :=
  suppliedSigner cfg (swapSignerType input) input.publicKeyHex input.keyDataHex input.gAddress

def NamesKey : Prop := swapSignerType input = .passkey ∧ input.keyDataHex ≠ ""

def Accepted : Prop := checkSwapInput cfg input (swapSignerType input) = .ok ()

def consulted : Option ContextRuleSummary := ruleWithID t (defaultRuleID t)

def Authorized : Prop :=
  ∃ r, consulted t = some r ∧ ruleAuthorizesSigner r (swapSignerType input)
    (verifierFor cfg (swapSignerType input)) input.gAddress = true

instance : Decidable (input.Authorized cfg t) := decidable_of_iff _ (Option.any_eq_true _ _)

def added : Except BuildError SwapPlan :=
  (addSwapSignerCall cfg input (swapSignerType input) (defaultRuleID t)).map fun fn =>
    .add (defaultRuleID t) fn (setupAuth cfg input.smartAccountAddress (defaultRuleID t)
      (swapSignerType input) input.gAddress (adminBundlerDelegatedAuth (consulted t)))

end SetupSwapRulesInput

open SetupSwapRulesInput

section Decisions

variable {cfg : BuildConfig} {input : SetupSwapRulesInput} {t : RuleTable} {plan : SwapPlan}

theorem always_passkeyRule (cfg : BuildConfig) (input : SetupSwapRulesInput)
    (signerType : SignerType) (rule : Option ContextRuleSummary) :
    Always (ReadsRules input.smartAccountAddress) (passkeyRule cfg input signerType rule) := by
  unfold passkeyRule
  split
  · refine always_readRules_bind _ fun found => ?_
    cases found with
    | some found => trivial
    | none =>
      dsimp only
      split <;> trivial
  · trivial

theorem always_planSwapRules (cfg : BuildConfig) (input : SetupSwapRulesInput) :
    Always (ReadsRules input.smartAccountAddress) (planSwapRules cfg input) := by
  refine (always_ofExcept _).bind fun _ => always_readRules_bind _ fun found => ?_
  refine always_readRules_bind _ fun rule => ?_
  refine (always_passkeyRule cfg input _ rule).bind fun listed => ?_
  cases listed with
  | some id => trivial
  | none => exact always_ofExcept _

theorem accepted_ed25519 (htype : swapSignerType input = .ed25519) : input.Accepted cfg ↔
    input.publicKeyHex ≠ "" ∧ cfg.ed25519VerifierAddress ≠ "" := by
  by_cases hkey : input.publicKeyHex = ""
  · simp [Accepted, checkSwapInput, htype, hkey]
  · by_cases hverifier : cfg.ed25519VerifierAddress = "" <;>
      simp [Accepted, checkSwapInput, htype, verifierFor, hkey, hverifier]

theorem accepted_of_decides (h : decides t (planSwapRules cfg input) = .ok plan) :
    input.Accepted cfg := by
  unfold planSwapRules at h
  rw [decides_bind, decides_ofExcept, bind_eq_ok] at h
  obtain ⟨_, hcheck, -⟩ := h
  exact hcheck

theorem added_eq_add (h : input.added cfg t = .ok plan) :
    ∃ fn, addSwapSignerCall cfg input (swapSignerType input) (defaultRuleID t) = .ok fn ∧
      plan = .add (defaultRuleID t) fn (setupAuth cfg input.smartAccountAddress (defaultRuleID t)
        (swapSignerType input) input.gAddress (adminBundlerDelegatedAuth (consulted t))) := by
  unfold added at h
  cases hcall : addSwapSignerCall cfg input (swapSignerType input) (defaultRuleID t) with
  | error e =>
    rw [hcall] at h
    cases h
  | ok fn =>
    rw [hcall] at h
    exact ⟨fn, rfl, (Except.ok.inj h).symm⟩

theorem planDefaultRule_eq : planDefaultRule cfg input (swapSignerType input) (defaultRuleID t)
    (consulted t) =
      if input.Authorized cfg t then .ok (.configured (defaultRuleID t)) else input.added cfg t := by
  have hauth : (consulted t).any (fun rule => ruleAuthorizesSigner rule (swapSignerType input)
      (verifierFor cfg (swapSignerType input)) input.gAddress) = true ↔ input.Authorized cfg t :=
    Option.any_eq_true _ _
  unfold planDefaultRule
  simp only [hauth]
  split
  · rfl
  · rw [added]
    cases addSwapSignerCall cfg input (swapSignerType input) (defaultRuleID t) <;> rfl

theorem decides_accepted (hcheck : input.Accepted cfg) : decides t (planSwapRules cfg input) =
      decides t (passkeyRule cfg input (swapSignerType input) (consulted t)) >>= fun listed =>
        match listed with
        | some id => .ok (.configured id)
        | none =>
          if input.Authorized cfg t then .ok (.configured (defaultRuleID t))
          else input.added cfg t := by
  obtain ⟨how, hdefault⟩ := result_discoverDefault t
  unfold planSwapRules
  dsimp only
  rw [hcheck]
  change decides t (readRules _ _ >>= _) = _
  rw [decides_readRules hdefault, decides_readRules (result_ruleAtID t _), decides_bind]
  refine congrArg _ (funext fun listed => ?_)
  cases listed with
  | some id => rfl
  | none =>
    rw [decides_ofExcept]
    exact planDefaultRule_eq

theorem decides_unnamed (hcheck : input.Accepted cfg) (hkey : ¬ input.NamesKey) :
    decides t (planSwapRules cfg input) =
      if input.Authorized cfg t then .ok (.configured (defaultRuleID t)) else input.added cfg t := by
  have hkey : ¬ (swapSignerType input = .passkey ∧ input.keyDataHex ≠ "") := hkey
  rw [decides_accepted hcheck, passkeyRule, if_neg hkey]
  rfl

theorem not_authorized_of_no_external (hkey : input.NamesKey)
    (hnone : (consulted t).any ruleHasExternalSigner ≠ true) : ¬ input.Authorized cfg t := by
  rintro ⟨r, hr, hauth⟩
  have hdelegated : swapSignerType input ≠ .delegated := fun h => by cases hkey.1.symm.trans h
  refine hnone ((Option.any_eq_true _ _).mpr ⟨r, hr, ?_⟩)
  rw [ruleAuthorizesSigner, if_neg hdelegated, List.any_eq_true] at hauth
  obtain ⟨s, hs, hmatch⟩ := hauth
  refine List.any_eq_true.mpr ⟨s, hs, ?_⟩
  cases s with
  | external verifier keyData => rfl
  | _ => cases hmatch

theorem decides_named (hkey : input.NamesKey) (h : decides t (planSwapRules cfg input) = .ok plan) :
    (∃ r ∈ t.scanned, plan = .configured r.id ∧ r.isDefault = true ∧ ruleHasExactExternalSigner r
      (verifierFor cfg (swapSignerType input)) input.keyDataHex = true) ∨
    (consulted t).any ruleHasExternalSigner ≠ true ∧ input.added cfg t = .ok plan := by
  have hnamed : swapSignerType input = .passkey ∧ input.keyDataHex ≠ "" := hkey
  obtain ⟨found, hfound, hrule⟩ :=
    result_findRuleForSigner t (verifierFor cfg (swapSignerType input)) input.keyDataHex ""
  rw [decides_accepted (accepted_of_decides h), passkeyRule, if_pos hnamed,
    decides_readRules hfound] at h
  cases found with
  | some found =>
    obtain ⟨r, hr, hid, hexact, happlies⟩ := hrule found.1 found.2 rfl
    refine .inl ⟨r, hr, ?_, by simpa using happlies, hexact⟩
    rw [hid]
    exact (Except.ok.inj h).symm
  | none =>
    by_cases hexternal : (consulted t).any ruleHasExternalSigner = true
    · simp only [hexternal, if_true] at h
      cases h
    refine .inr ⟨hexternal, ?_⟩
    simp only [hexternal] at h
    rwa [if_neg (not_authorized_of_no_external hkey hexternal)] at h

end Decisions

namespace Sample

open Build.Sample (config key)

def twoVerifiers : BuildConfig := { config with ed25519VerifierAddress := contractText (key 5) }

def externalRule (verifier : UInt8) : ScVal :=
  scMap [(scSymbol "context_type", scVec [scSymbol "Default"]),
    (scSymbol "signers", scVec [scVec [scSymbol "External", .address (.contract (key verifier)),
      scBytes [1, 2, 3]]])]

def ed25519Request : SetupSwapRulesInput where
  smartAccountAddress := contractText (key 2)
  signerType := .ed25519
  routerContractID := ""
  publicKeyHex := "0a0b"
  keyDataHex := ""
  gAddress := ""

end Sample

end LatchApi.Setup
