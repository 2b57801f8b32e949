import LatchApi.Build.PlannedNeed
import LatchApi.Setup.Planned

namespace LatchApi.Build

open Lib Program Soroban Bundler Rules
open Setup (delegatedGFromContextRule mem_of_delegatedG ruleWithID result_ruleAtID AnsweredFrom
  ReadsRules decides runWith_decides decides_readRules always_readRules_bind always_readRules
  decides_bind decides_reader)

structure Authorizes (cfg : BuildConfig) (input : BuildSwapInput) (rule : ContextRuleSummary) :
    Prop where
  delegated : input.signerType = .delegated → input.signerG ≠ "" ∧
    .delegated input.signerG ∈ rule.signers
  named : input.signerType = .passkey → input.keyDataHex ≠ "" →
    Lists cfg.webauthnVerifierAddress input.keyDataHex rule
  external : input.signerType = .passkey ∨ input.signerType = .ed25519 →
    ∃ verifier keyData, .external verifier keyData ∈ rule.signers

variable {id : UInt32}

section Checks

variable {rule : ContextRuleSummary} {g bundlerG : String} {signerType : SignerType}

theorem exists_of_hasExternal (h : ruleHasExternalSigner rule = true) :
    ∃ verifier keyData, .external verifier keyData ∈ rule.signers := by
  obtain ⟨signer, hmem, hkind⟩ := List.any_eq_true.mp h
  cases signer with
  | external verifier keyData => exact ⟨verifier, keyData, hmem⟩
  | _ => cases hkind

theorem mem_of_hasDelegated (h : ruleHasDelegatedSignerG rule g = true) :
    .delegated g ∈ rule.signers := by
  obtain ⟨signer, hmem, hkind⟩ := List.any_eq_true.mp h
  cases signer with
  | delegated g' =>
    obtain rfl : g' = g := beq_iff_eq.mp hkind
    exact hmem
  | _ => cases hkind

theorem of_useDelegatedAuth
    (h : (resolveSwapAuthMode (some rule) signerType g).useDelegatedAuth = true) :
    signerType = .delegated ∧ g ≠ "" ∧ delegatedGFromContextRule rule = g := by
  unfold resolveSwapAuthMode at h
  dsimp only at h
  split_ifs at h with hother hsigner
  obtain ⟨htype, rfl⟩ := hsigner
  exact ⟨htype, fun hg => hother (.inr hg), rfl⟩

theorem lists_of_validate
    (h : validateContextRuleForSignerType (some rule) signerType g bundlerG = .ok ()) :
    (signerType = .delegated → g ≠ "" ∧ .delegated g ∈ rule.signers) ∧
    (signerType = .passkey ∨ signerType = .ed25519 →
      ∃ verifier keyData, .external verifier keyData ∈ rule.signers) := by
  unfold validateContextRuleForSignerType at h
  by_cases hbundler : g ≠ "" ∧ g = bundlerG
  · rw [if_pos hbundler] at h
    cases h
  rw [if_neg hbundler] at h
  cases signerType with
  | delegated =>
    dsimp only at h
    split_ifs at h with hempty hnone hmissing
    refine ⟨fun _ => ⟨hempty, mem_of_hasDelegated ?_⟩, nofun⟩
    by_contra hother
    exact hmissing ⟨by simpa using hnone, by simpa using hother⟩
  | other text => exact ⟨nofun, nofun⟩
  | _ =>
    dsimp only at h
    split_ifs at h with honly hnone
    exact ⟨nofun, fun _ => exists_of_hasExternal (by simpa using hnone)⟩

theorem lists_of_checkSwapAuth
    (h : checkSwapAuth (resolveSwapAuthMode (some rule) signerType g) (some rule) id signerType g
      bundlerG = .ok ()) :
    (signerType = .delegated → g ≠ "" ∧ .delegated g ∈ rule.signers) ∧
    (signerType = .passkey ∨ signerType = .ed25519 →
      ∃ verifier keyData, .external verifier keyData ∈ rule.signers) := by
  unfold checkSwapAuth at h
  have hchecked : (if (resolveSwapAuthMode (some rule) signerType g).useDelegatedAuth = true then .ok ()
      else validateContextRuleForSignerType (some rule) signerType g bundlerG) = .ok () := by
    dsimp only at h
    split at h
    · obtain ⟨-, -, h⟩ := bind_eq_ok.mp h
      exact h
    · exact h
  split_ifs at hchecked with hdelegated
  · obtain ⟨rfl, hg, hrule⟩ := of_useDelegatedAuth hdelegated
    exact ⟨fun _ => ⟨hg, mem_of_delegatedG hrule hg⟩, nofun⟩
  · exact lists_of_validate hchecked

end Checks

section Run

variable {cfg : BuildConfig} {input : BuildSwapInput} {t : RuleTable}

theorem always_swapContextRule :
    Always (ReadsRules input.smartAccountAddress) (swapContextRule cfg input) := by
  unfold swapContextRule
  split_ifs
  · refine always_readRules_bind _ fun found => ?_
    cases found <;> trivial
  · exact always_readRules_bind _ fun _ => trivial

theorem decides_swapContextRule (h : decides t (swapContextRule cfg input) = .ok id) :
    input.signerType = .passkey → input.keyDataHex ≠ "" →
      t.Live (Lists cfg.webauthnVerifierAddress input.keyDataHex) id := by
  intro htype hkey
  unfold swapContextRule at h
  rw [if_pos ⟨htype, hkey⟩, decides_readRules (result_signerRule t _ _ _)] at h
  split at h
  · cases h
  rename_i id' how hfound
  cases h
  obtain ⟨-, rule, hrule, hlists, -⟩ := exists_of_signerRule hfound
  exact ⟨rule, hrule, hlists⟩

variable {script : Script BuildRes} {h : Log BuildRes}

theorem runWith_ofBuilder {α : Type} {p : Builder α} {a : α}
    (hrun : ((ofBuilder p).runWith script h).1 = .ok a) : (p.runWith script h).1 = .ok a := by
  obtain ⟨out, hout, hrun⟩ := exists_of_runWith_bind hrun
  rw [runWith_attempt] at hout
  cases hout
  cases hp : (p.runWith script h).1 with
  | ok a' =>
    rw [hp] at hrun
    exact congrArg Except.ok (Except.ok.inj hrun)
  | error e =>
    rw [hp] at hrun
    cases hrun

theorem runWith_ruleAtID (hscript : AnsweredFrom t input.smartAccountAddress script)
    {context : String} {rule : Option ContextRuleSummary}
    (hrun : ((callRpc context (readRules input.smartAccountAddress (ruleAtID id))).runWith script h).1 =
      .ok rule) : rule = ruleWithID t id := by
  have hread : Always (ReadsRules input.smartAccountAddress)
      (readRules input.smartAccountAddress (ruleAtID id) >>= orRpc context) :=
    (always_readRules _).bind fun _ => always_orFail _ _
  have hdecides := runWith_ofBuilder hrun
  rw [runWith_decides hread hscript, decides_bind, decides_reader, result_ruleAtID] at hdecides
  exact (Except.ok.inj hdecides).symm

theorem contextRuleID_of_core {input : AuthTransactionCoreInput} {core : BuildAuthTransactionResult}
    {buildTx : AuthEntries → Option Bytes → Transaction}
    (hrun : ((ofBuilder (buildAuthTransactionCore cfg input buildTx)).runWith script h).1 = .ok core) :
    core.contextRuleID = input.contextRuleID := by
  have hlegal : ∀ h op, anyRun.legal op (script h op) := fun _ _ => trivial
  have hshape := (@shape_buildAuthTransactionCore h cfg input buildTx).runWith hlegal
  rw [runWith_ofBuilder hrun] at hshape
  exact hshape.2

end Run

/-- The rule that a swap is built under is a live default rule that lists the one who signs. -/
theorem buildSwap_rule_authorizes (cfg : BuildConfig) (input : BuildSwapInput) (t : RuleTable)
    (script : Script BuildRes) (hscript : AnsweredFrom t input.smartAccountAddress script)
    (r : BuildSwapResult) (hbuilt : ((buildSwap cfg input).runWith script []).1 = .ok r) :
    t.Live (fun rule => rule.isDefault = true ∧ Authorizes cfg input rule) r.contextRuleID := by
  obtain ⟨_, -, hbuilt⟩ := exists_of_runWith_ofExcept hbuilt
  obtain ⟨amountIn, -, hbuilt⟩ := exists_of_runWith_ofExcept hbuilt
  obtain ⟨amountOutMin, -, hbuilt⟩ := exists_of_runWith_ofExcept hbuilt
  obtain ⟨id, hid, hbuilt⟩ := exists_of_runWith_bind hbuilt
  obtain ⟨rule, hrule, hbuilt⟩ := exists_of_runWith_bind hbuilt
  obtain ⟨_, hcheck, hbuilt⟩ := exists_of_runWith_ofExcept hbuilt
  obtain ⟨balance, -, hbuilt⟩ := exists_of_runWith_bind hbuilt
  obtain ⟨_, -, hbuilt⟩ := exists_of_runWith_ofExcept hbuilt
  obtain ⟨swap, -, hbuilt⟩ := exists_of_runWith_ofExcept hbuilt
  obtain ⟨_, hdefault, hbuilt⟩ := exists_of_runWith_ofExcept hbuilt
  obtain ⟨wrap, -, hbuilt⟩ := exists_of_runWith_bind hbuilt
  obtain ⟨seq, -, hbuilt⟩ := exists_of_runWith_bind hbuilt
  obtain ⟨core, hcore, hbuilt⟩ := exists_of_runWith_bind hbuilt
  cases hbuilt
  have hlisted : decides t (swapContextRule cfg input) = .ok id := by
    rw [← runWith_decides always_swapContextRule hscript]
    exact runWith_ofBuilder hid
  obtain rfl := runWith_ruleAtID hscript hrule
  rw [contextRuleID_of_core hcore]
  unfold requireDefault at hdefault
  split_ifs at hdefault with hany
  obtain ⟨summary, hsummary, hisDefault⟩ := (Option.any_eq_true _ _).mp hany
  obtain ⟨value, hvalue, rfl⟩ := Option.map_eq_some_iff.mp hsummary
  rw [hsummary] at hcheck
  obtain ⟨hdelegated, hexternal⟩ := lists_of_checkSwapAuth hcheck
  refine ⟨value, RuleTable.rule_eq_some_iff.mp hvalue, hisDefault, hdelegated, ?_, hexternal⟩
  intro htype hkey
  obtain ⟨value', hvalue', hlists⟩ := decides_swapContextRule hlisted htype hkey
  rw [RuleTable.rule_eq_some_iff.mpr hvalue'] at hvalue
  exact Option.some.inj hvalue ▸ hlists

namespace Sample

def passkeyDefault : ScVal :=
  scMap [(scSymbol "context_type", scVec [scSymbol "Default"]),
    (scSymbol "signers", scVec
      [scVec [scSymbol "External", .address (.contract (key 4)), scBytes [4, 1]]])]

def swapsLumens : BuildSwapInput where
  smartAccountAddress := contractText (key 2)
  signerType := .passkey
  signerG := ""
  routerContractID := contractText (key 6)
  keyDataHex := "0401"
  swapChainXdr := .of (scVec [])
  tokenInContractID := lumensAsset.contractID
  amountInRaw := "3000"
  amountOutMinRaw := "1"

def swapAnswers (h : Log BuildRes) : (op : BuildOp) → BuildRes op
  | .readRules _ read => (RuleTable.after [.add passkeyDefault]).answers [] read
  | op => sendAnswers h op

end Sample

theorem Sample.swap_under_listing_rule : ∃ r h,
    (buildSwap Sample.gaslessConfig Sample.swapsLumens).runWith Sample.swapAnswers [] = (.ok r, h) ∧
    (RuleTable.after [.add Sample.passkeyDefault]).Live (fun rule => rule.isDefault = true ∧
      Authorizes Sample.gaslessConfig Sample.swapsLumens rule) r.contextRuleID := by
  have hcheck : ((buildSwap Sample.gaslessConfig Sample.swapsLumens).runWith
      Sample.swapAnswers []).1.toOption.any (fun _ => true) = true := by
    decide +kernel
  obtain ⟨r, h, hrun, -⟩ := exists_ok_of_any hcheck
  exact ⟨r, h, hrun, buildSwap_rule_authorizes _ _ _ _ (fun _ _ => rfl) r (congrArg Prod.fst hrun)⟩

end LatchApi.Build
