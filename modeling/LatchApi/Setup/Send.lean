import LatchApi.Setup.Planned

namespace LatchApi.Setup

open Lib Program Soroban Bundler Rules Build
open Multisig (CatalogAsset)

section Signers

def keySigner (verifierAddress keyHex : String) : Option ContextRuleSigner :=
  if keyHex = "" then none
  else (hexDecode keyHex).map fun keyData => .external verifierAddress (hexEncode keyData)

def suppliedSigner (cfg : BuildConfig) (signerType : SignerType)
    (publicKeyHex keyDataHex gAddress : String) : Option ContextRuleSigner :=
  match signerType with
  | .ed25519 => keySigner (verifierFor cfg signerType) publicKeyHex
  | .passkey => keySigner (verifierFor cfg signerType) keyDataHex
  | .delegated => if gAddress = "" then none else some (.delegated gAddress)
  | .other _ => none

def SetupSendRulesInput.signer (cfg : BuildConfig) (input : SetupSendRulesInput) :
    Option ContextRuleSigner :=
  suppliedSigner cfg input.signerType input.publicKeyHex input.keyDataHex input.gAddress

end Signers

section Requests

variable (cfg : BuildConfig) (input : SetupSendRulesInput) (t : RuleTable) (asset : CatalogAsset)

def SetupSendRulesInput.NamesKey : Prop := input.signerType = .passkey ∧ input.keyDataHex ≠ ""

def SetupSendRulesInput.HasVerifier : Prop :=
  verifierFor cfg input.signerType = "" → input.signerType = .delegated

def FirstRuleAuthorizes : Prop :=
  ∃ r, t.scanned.find? (fun r => decide (r.callContractAddress = asset.contractID)) = some r ∧
    ruleAuthorizesSigner r input.signerType (verifierFor cfg input.signerType) input.gAddress = true

instance : Decidable (FirstRuleAuthorizes cfg input t asset) :=
  decidable_of_iff _ (Option.any_eq_true _ _)

def unauthorized (assets : List CatalogAsset) : List CatalogAsset :=
  assets.filter fun asset => !decide (FirstRuleAuthorizes cfg input t asset)

end Requests

section Reads

variable (input : SetupSendRulesInput)

theorem always_isMissing (verifier : String) (asset : CatalogAsset) :
    Always (ReadsRules input.smartAccountAddress) (isMissing input verifier asset) := by
  unfold isMissing
  split
  · refine always_readRules_bind _ fun found => ?_
    cases found <;> trivial
  refine always_readRules_bind _ fun found => ?_
  obtain ⟨id, discovery⟩ := found
  by_cases hmatched : discovery ≠ .matched
  · simp [hmatched]
  simp only [hmatched, if_false]
  refine always_readRules_bind _ fun rule => ?_
  cases rule <;> trivial

theorem always_missingAssets (verifier : String) (assets : List CatalogAsset) :
    Always (ReadsRules input.smartAccountAddress) (missingAssets input verifier assets) := by
  induction assets with
  | nil => trivial
  | cons asset assets ih =>
    exact (always_isMissing input verifier asset).bind fun _ => ih.bind fun _ => trivial

theorem always_resolveAdmin (account : String) (id : UInt32) :
    Always (ReadsRules account) (resolveAdminBundlerDelegatedAuth account id) :=
  always_readRules_bind _ fun _ => trivial

theorem always_planSendRules (cfg : BuildConfig) (input : SetupSendRulesInput)
    (catalog : List CatalogAsset) :
    Always (ReadsRules input.smartAccountAddress) (planSendRules cfg input catalog) := by
  refine (always_ofExcept _).bind fun assets => ?_
  dsimp only
  split
  · trivial
  refine (always_missingAssets input _ assets).bind fun missing => ?_
  cases missing with
  | nil => trivial
  | cons asset others =>
    refine (always_ofExcept _).bind fun fn => always_readRules_bind _ fun found => ?_
    exact (always_resolveAdmin _ _).bind fun _ => trivial

end Reads

section Decisions

variable {cfg : BuildConfig} {input : SetupSendRulesInput} {t : RuleTable} {asset : CatalogAsset}
variable {catalog assets : List CatalogAsset} {verifier : String} {fn : HostFunction}

theorem decides_isMissing (hkey : ¬ input.NamesKey) :
    decides t (isMissing input (verifierFor cfg input.signerType) asset) =
      .ok (!decide (FirstRuleAuthorizes cfg input t asset)) := by
  have hkey : ¬ (input.signerType = .passkey ∧ input.keyDataHex ≠ "") := hkey
  unfold isMissing
  rw [if_neg hkey, decides_readRules (result_discoverContextRule t asset.contractID)]
  cases hfind : t.scanned.find? fun r => decide (r.callContractAddress = asset.contractID) with
  | none =>
    have hnot : ¬ FirstRuleAuthorizes cfg input t asset := by
      rintro ⟨r, hr, -⟩
      cases hfind.symm.trans hr
    have hdisc : (discovered t asset.contractID).2 ≠ .matched := by
      rw [discovered, hfind]
      cases t.scanned.find? ContextRuleSummary.isDefault <;> simp
    simp [hdisc, hnot]
  | some r =>
    have hdisc : discovered t asset.contractID = (r.id, .matched) := by
      rw [discovered, hfind]
    have hrule : t.result (ruleAtID r.id) = .ok (some r) := by
      rw [result_ruleAtID, ruleWithID_of_scanned (List.mem_of_find?_eq_some hfind)]
    have hiff : FirstRuleAuthorizes cfg input t asset ↔ ruleAuthorizesSigner r input.signerType
        (verifierFor cfg input.signerType) input.gAddress = true := by
      constructor
      · rintro ⟨r', hr', hauth⟩
        rwa [Option.some.inj (hfind.symm.trans hr')]
      · exact fun hauth => ⟨r, hfind, hauth⟩
    simp only [hdisc, ne_eq, not_true_eq_false, if_false]
    rw [decides_readRules hrule]
    simp [hiff]

theorem decides_missingAssets (hkey : ¬ input.NamesKey) (assets : List CatalogAsset) :
    decides t (missingAssets input (verifierFor cfg input.signerType) assets) =
      .ok (unauthorized cfg input t assets) := by
  induction assets with
  | nil => rfl
  | cons asset assets ih =>
    rw [missingAssets, decides_bind, decides_isMissing hkey]
    change decides t (missingAssets _ _ _ >>= _) = _
    have hcons : unauthorized cfg input t (asset :: assets) =
        if !decide (FirstRuleAuthorizes cfg input t asset) then
          asset :: unauthorized cfg input t assets
        else unauthorized cfg input t assets := List.filter_cons
    rw [decides_bind, ih, hcons]
    rfl

theorem listed_of_isMissing (hkey : input.NamesKey) {missing : Bool}
    (h : decides t (isMissing input verifier asset) = .ok missing) :
    missing = false ∧ ∃ r ∈ t.scanned,
      ruleHasExactExternalSigner r verifier input.keyDataHex = true ∧
      (r.isDefault = true ∨ asset.contractID ≠ "" ∧ r.callContractAddress = asset.contractID) := by
  have hkey : input.signerType = .passkey ∧ input.keyDataHex ≠ "" := hkey
  obtain ⟨found, hfound, hrule⟩ := result_findRuleForSigner t verifier input.keyDataHex asset.contractID
  unfold isMissing at h
  rw [if_pos hkey, decides_readRules hfound] at h
  cases found with
  | none => cases h
  | some rule =>
    obtain ⟨r, hr, -, hexact, happlies⟩ := hrule rule.1 rule.2 rfl
    exact ⟨(Except.ok.inj h).symm, r, hr, hexact, happlies⟩

theorem listed_of_missingAssets (hkey : input.NamesKey) {missing : List CatalogAsset}
    (h : decides t (missingAssets input verifier assets) = .ok missing) :
    missing = [] ∧ ∀ asset ∈ assets, ∃ r ∈ t.scanned,
      ruleHasExactExternalSigner r verifier input.keyDataHex = true ∧
      (r.isDefault = true ∨ asset.contractID ≠ "" ∧ r.callContractAddress = asset.contractID) := by
  induction assets generalizing missing with
  | nil => exact ⟨(Except.ok.inj h).symm, by simp⟩
  | cons asset assets ih =>
    rw [missingAssets, decides_bind, bind_eq_ok] at h
    obtain ⟨first, hfirst, h⟩ := h
    rw [decides_bind, bind_eq_ok] at h
    obtain ⟨rest, hrest, h⟩ := h
    obtain ⟨rfl, hlisted⟩ := listed_of_isMissing hkey hfirst
    obtain ⟨rfl, hothers⟩ := ih hrest
    exact ⟨(Except.ok.inj h).symm, List.forall_mem_cons.mpr ⟨hlisted, hothers⟩⟩

theorem addSendRuleCall_eq_ok : addSendRuleCall input verifier asset = .ok fn ↔
    ∃ signers contextType account, buildSignersVecForSetup input.signerType verifier input.publicKeyHex
        input.keyDataHex input.gAddress = .ok signers ∧
      ("send" ++ "-" ++ asset.assetID).utf8ByteSize ≤ contextRuleNameMaxLen ∧
      buildCallContractContextType asset.contractID = some contextType ∧
      contractIDFromAddress input.smartAccountAddress = some account ∧
      fn = .invokeContract ⟨.contract account, "add_context_rule", [contextType,
        scString ("send" ++ "-" ++ asset.assetID), scVoid, signers, scMap []]⟩ := by
  unfold addSendRuleCall buildContextRuleName
  simp only [bind_eq_ok, orInvalid, orError_eq_ok]
  constructor
  · rintro ⟨signers, hsigners, name, hname, contextType, htype, account, haccount, hfn⟩
    split at hname
    · cases hname
    rename_i hle
    cases hname
    exact ⟨signers, contextType, account, hsigners, Nat.le_of_not_lt hle, htype, haccount,
      (Except.ok.inj hfn).symm⟩
  · rintro ⟨signers, contextType, account, hsigners, hle, htype, haccount, rfl⟩
    exact ⟨signers, hsigners, _, if_neg (Nat.not_lt.mpr hle), contextType, htype, account, haccount, rfl⟩

theorem decides_resolveAdmin (t : RuleTable) (account : String) (id : UInt32) :
    decides t (resolveAdminBundlerDelegatedAuth account id) =
      .ok (adminBundlerDelegatedAuth (ruleWithID t id)) :=
  decides_readRules (result_ruleAtID t id) _

def planned (cfg : BuildConfig) (input : SetupSendRulesInput) (t : RuleTable) :
    List CatalogAsset → Except BuildError SendPlan
  | [] => .ok .configured
  | asset :: others => (addSendRuleCall input (verifierFor cfg input.signerType) asset).map fun fn =>
      .add asset others.length fn (setupAuth cfg input.smartAccountAddress (defaultRuleID t)
        input.signerType input.gAddress (adminBundlerDelegatedAuth (ruleWithID t (defaultRuleID t))))

theorem planned_eq_add {a : CatalogAsset} {n : Nat} {auth : AuthTransactionCoreInput}
    (h : planned cfg input t assets = .ok (.add a n fn auth)) :
    assets.head? = some a ∧ addSendRuleCall input (verifierFor cfg input.signerType) a = .ok fn ∧
      auth = setupAuth cfg input.smartAccountAddress (defaultRuleID t) input.signerType input.gAddress
        (adminBundlerDelegatedAuth (ruleWithID t (defaultRuleID t))) := by
  cases assets with
  | nil => cases h
  | cons asset others =>
    rw [planned] at h
    cases hcall : addSendRuleCall input (verifierFor cfg input.signerType) asset with
    | error e =>
      rw [hcall] at h
      cases h
    | ok fn' =>
      rw [hcall] at h
      cases h
      exact ⟨rfl, hcall, rfl⟩

theorem planned_eq_configured (h : planned cfg input t assets = .ok .configured) : assets = [] := by
  cases assets with
  | nil => rfl
  | cons asset others =>
    rw [planned] at h
    cases hcall : addSendRuleCall input (verifierFor cfg input.signerType) asset <;>
      rw [hcall] at h <;> cases h

theorem exists_planned (hhead : assets.head? = some asset)
    (hcall : addSendRuleCall input (verifierFor cfg input.signerType) asset = .ok fn) :
    ∃ n, planned cfg input t assets = .ok (.add asset n fn
      (setupAuth cfg input.smartAccountAddress (defaultRuleID t) input.signerType input.gAddress
        (adminBundlerDelegatedAuth (ruleWithID t (defaultRuleID t))))) := by
  obtain ⟨others, rfl⟩ := List.head?_eq_some_iff.mp hhead
  rw [planned, hcall]
  exact ⟨_, rfl⟩

theorem decides_planSendRules (hkey : ¬ input.NamesKey) (hverifier : input.HasVerifier cfg)
    (hassets : resolveAssetsToConfigure catalog input.assetID input.assetIDs = .ok assets) :
    decides t (planSendRules cfg input catalog) =
      planned cfg input t (unauthorized cfg input t assets) := by
  have hconfigured : ¬ (verifierFor cfg input.signerType = "" ∧ input.signerType ≠ .delegated) :=
    fun h => h.2 (hverifier h.1)
  obtain ⟨how, hdefault⟩ := result_discoverDefault t
  unfold planSendRules
  rw [hassets]
  change decides t (if _ then _ else _) = _
  rw [if_neg hconfigured, decides_bind, decides_missingAssets hkey]
  cases unauthorized cfg input t assets with
  | nil => rfl
  | cons asset others =>
    change decides t (ofExcept _ >>= _) = _
    rw [decides_bind, decides_ofExcept, planned]
    cases addSendRuleCall input (verifierFor cfg input.signerType) asset with
    | error e => rfl
    | ok fn =>
      change decides t (readRules _ _ >>= _) = _
      rw [decides_readRules hdefault, decides_bind, decides_resolveAdmin]
      rfl

theorem of_decides_planSendRules {plan : SendPlan}
    (h : decides t (planSendRules cfg input catalog) = .ok plan) :
    input.HasVerifier cfg ∧ ∃ assets missing,
      resolveAssetsToConfigure catalog input.assetID input.assetIDs = .ok assets ∧
      decides t (missingAssets input (verifierFor cfg input.signerType) assets) = .ok missing ∧
      (plan = .configured ↔ missing = []) := by
  unfold planSendRules at h
  rw [decides_bind, decides_ofExcept, bind_eq_ok] at h
  obtain ⟨assets, hassets, h⟩ := h
  have hassets : resolveAssetsToConfigure catalog input.assetID input.assetIDs = .ok assets := by
    cases hresolve : resolveAssetsToConfigure catalog input.assetID input.assetIDs with
    | error e =>
      rw [hresolve] at hassets
      cases hassets
    | ok a =>
      rw [hresolve] at hassets
      exact congrArg Except.ok (Except.ok.inj hassets)
  dsimp only at h
  split at h
  · cases h
  rename_i hset
  rw [decides_bind, bind_eq_ok] at h
  obtain ⟨missing, hmissing, h⟩ := h
  refine ⟨fun hverifier => by simpa [hverifier] using hset, assets, missing, hassets, hmissing, ?_⟩
  cases missing with
  | nil =>
    cases h
    simp
  | cons asset others =>
    obtain ⟨how, hdefault⟩ := result_discoverDefault t
    rw [decides_bind, bind_eq_ok] at h
    obtain ⟨fn, -, h⟩ := h
    rw [decides_readRules hdefault, decides_bind, decides_resolveAdmin] at h
    cases h
    simp

end Decisions

end LatchApi.Setup
