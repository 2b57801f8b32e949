import LatchApi.Build.Buildable
import LatchApi.Setup.CoSigners
import LatchApi.Setup.Configured
import LatchApi.Setup.Idempotent

/-!
The rule that a setup transaction is signed under. Where no default rule is found, the requests go on
with the rule of id zero, whatever it is and whether there is one.
-/

namespace LatchApi.Setup

open Lib Program Soroban Bundler Rules Build List Option
open Multisig (CatalogAsset)
open SetupSwapRulesInput

def AddsSignerTo (id : UInt32) (tx : BuildAuthTransactionResult) : Prop :=
  ∃ account signer entries, tx.txXdr = .of (.v1 [.invokeHostFunction
    (.invokeContract ⟨account, "add_signer", [scU32 id, signer]⟩) entries])

def LiveDefault (t : RuleTable) (id : UInt32) : Prop := t.Live (fun r => r.isDefault = true) id

def FindsDefault (t : RuleTable) : Prop := ∃ r ∈ t.scanned, r.isDefault = true

structure Encodable (cfg : BuildConfig) (input : SetupSwapRulesInput) : Prop where
  signer : ∃ signer, swapSigner cfg input (swapSignerType input) = .ok signer
  account : ∃ id, contractIDFromAddress input.smartAccountAddress = some id

namespace SetupRequest

variable (cfg : BuildConfig) (t : RuleTable)

def Builds (script : Script BuildRes) (tx : BuildAuthTransactionResult) : SetupRequest → Prop
  | .send input catalog => ∃ asset remaining,
      ((setupSendRules cfg input catalog).runWith script []).1 = .ok (.built tx asset remaining)
  | .swap input => ∃ router id,
      ((setupSwapRules cfg input).runWith script []).1 = .ok (.built tx router id)

def RestsOnDefault (tx : BuildAuthTransactionResult) : SetupRequest → Prop
  | .send _ _ => LiveDefault t tx.contextRuleID
  | .swap _ => LiveDefault t tx.contextRuleID ∧ ∃ id, AddsSignerTo id tx ∧ LiveDefault t id

def UsesDefault (req : SetupRequest) : Prop :=
  ∀ script, AnsweredFrom t req.account script →
    ∀ tx, req.Builds cfg script tx → req.RestsOnDefault t tx

/-- Without a default rule to be found there is still something to add: the first rule of an asset does
not pass for the signer's, or the rule of id zero does not and is open to it. -/
def AddsAnyway : SetupRequest → Prop
  | .send input catalog => ¬ input.NamesKey ∧ ∃ assets asset,
      resolveAssetsToConfigure catalog input.assetID input.assetIDs = .ok assets ∧
      (unauthorized cfg input t assets).head? = some asset ∧ Buildable cfg input asset
  | .swap input => input.Accepted cfg ∧ ¬ input.Authorized cfg t ∧
      (input.NamesKey → (consulted t).any ruleHasExternalSigner ≠ true) ∧ Encodable cfg input

end SetupRequest

open SetupRequest

variable {t : RuleTable}

section Rules

theorem liveDefault_of_finds (h : FindsDefault t) : LiveDefault t (defaultRuleID t) := by
  obtain ⟨r, hr, hdefault⟩ := h
  obtain ⟨r', hfind⟩ := isSome_iff_exists.mp (find?_isSome.mpr ⟨r, hr, hdefault⟩)
  rw [defaultRuleID, hfind]
  exact (RuleTable.live_of_scanned (mem_of_find?_eq_some hfind) (find?_some hfind)).2

theorem not_default_of_scanned (h : ¬ FindsDefault t) :
    t.scanned.find? ContextRuleSummary.isDefault = none :=
  find?_eq_none.mpr fun r hr hdefault => h ⟨r, hr, hdefault⟩

theorem not_liveDefault_of_finds (h : ¬ FindsDefault t) : ¬ LiveDefault t (defaultRuleID t) := by
  rw [defaultRuleID, not_default_of_scanned h]
  rintro ⟨rule, hrule, hdefault⟩
  refine h ⟨_, RuleTable.mem_scanned.mpr ⟨?_, rule, hrule, rfl⟩, hdefault⟩
  have hzero : (0 : UInt32).toNat < maxContextRuleScan.toNat := by decide
  exact Nat.lt_min.mpr ⟨length_pos_of_mem hrule, hzero⟩

theorem signerRule_of_no_default (h : ¬ FindsDefault t) (verifier keyHex : String) :
    signerRule t verifier keyHex "" = none := by
  cases hfound : signerRule t verifier keyHex "" with
  | none => rfl
  | some found =>
    obtain ⟨r, hr, -, -, hkind⟩ := RuleTable.scanned_iff.mp (exists_of_signerRule hfound)
    rcases hkind with hcalls | hdefault
    · exact absurd rfl hcalls.1
    · exact absurd ⟨r, hr, hdefault⟩ h

end Rules

variable {input : SetupSwapRulesInput} {id : UInt32} {catalog : List CatalogAsset}

section Plans

variable {cfg : BuildConfig}

theorem encodable_iff : Encodable cfg input ↔
    ∃ fn, addSwapSignerCall cfg input (swapSignerType input) id = .ok fn := by
  constructor
  · rintro ⟨⟨signer, hsigner⟩, account, haccount⟩
    exact ⟨_, addSwapSignerCall_eq_ok.mpr ⟨signer, account, hsigner, haccount, rfl⟩⟩
  rintro ⟨fn, hfn⟩
  obtain ⟨signer, account, hsigner, haccount, -⟩ := addSwapSignerCall_eq_ok.mp hfn
  exact ⟨⟨signer, hsigner⟩, account, haccount⟩

inductive Plan (cfg : BuildConfig) (t : RuleTable) :
    SetupRequest → HostFunction → AuthTransactionCoreInput → Prop where
  | send {input catalog asset n fn auth}
      (h : decides t (planSendRules cfg input catalog) = .ok (.add asset n fn auth)) :
      Plan cfg t (.send input catalog) fn auth
  | swap {input id fn auth} (h : decides t (planSwapRules cfg input) = .ok (.add id fn auth)) :
      Plan cfg t (.swap input) fn auth

variable {req : SetupRequest} {fn : HostFunction} {auth : AuthTransactionCoreInput}
  {script : Script BuildRes} {tx : BuildAuthTransactionResult}

theorem plan_of_builds (hscript : AnsweredFrom t req.account script) (h : req.Builds cfg script tx) :
    ∃ fn auth h', Plan cfg t req fn auth ∧
      ((buildSetupAuthTransaction cfg fn auth).runWith script h').1 = .ok tx := by
  cases req with
  | send input catalog =>
    obtain ⟨asset, remaining, hrun⟩ := h
    obtain ⟨plan, hplan, hrun⟩ := exists_of_runWith_bind hrun
    rw [runWith_decides (always_planSendRules cfg input catalog) hscript] at hplan
    cases plan with
    | configured => cases hrun
    | add a n fn auth =>
      obtain ⟨tx', htx, hrun⟩ := exists_of_runWith_bind hrun
      cases hrun
      exact ⟨fn, auth, _, .send hplan, htx⟩
  | swap input =>
    obtain ⟨router, id, hrun⟩ := h
    obtain ⟨plan, hplan, hrun⟩ := exists_of_runWith_bind hrun
    rw [runWith_decides (always_planSwapRules cfg input) hscript] at hplan
    cases plan with
    | configured id => cases hrun
    | add id fn auth =>
      obtain ⟨tx', htx, hrun⟩ := exists_of_runWith_bind hrun
      cases hrun
      exact ⟨fn, auth, _, .swap hplan, htx⟩

theorem builds_of_plan (hscript : AnsweredFrom t req.account script) (hplan : Plan cfg t req fn auth)
    (hbuild : ∀ h, ∃ tx, ((buildSetupAuthTransaction cfg fn auth).runWith script h).1 = .ok tx) :
    ∃ tx, req.Builds cfg script tx := by
  cases hplan with
  | @send input catalog asset n _ _ hdecides =>
    have hout := (runWith_decides (always_planSendRules cfg input catalog) hscript []).trans hdecides
    obtain ⟨tx, htx⟩ := hbuild ((planSendRules cfg input catalog).runWith script []).2
    refine ⟨tx, asset, n, ?_⟩
    rw [setupSendRules, runWith_bind_ok hout, finishSend, runWith_bind_ok htx]
    rfl
  | @swap input id _ _ hdecides =>
    have hout := (runWith_decides (always_planSwapRules cfg input) hscript []).trans hdecides
    obtain ⟨tx, htx⟩ := hbuild ((planSwapRules cfg input).runWith script []).2
    refine ⟨tx, resolveRouterContractID input.routerContractID, id, ?_⟩
    rw [setupSwapRules, runWith_bind_ok hout, finishSwap, runWith_bind_ok htx]
    rfl

theorem planned_of_plan {input : SetupSendRulesInput} {asset : CatalogAsset} {n : Nat}
    (h : decides t (planSendRules cfg input catalog) = .ok (.add asset n fn auth)) :
    ¬ input.NamesKey ∧ input.HasVerifier cfg ∧ ∃ assets,
      resolveAssetsToConfigure catalog input.assetID input.assetIDs = .ok assets ∧
      planned cfg input t (unauthorized cfg input t assets) = .ok (.add asset n fn auth) := by
  obtain ⟨hverifier, assets, missing, hassets, hmissing, hconfigured⟩ := of_decides_planSendRules h
  have hkey : ¬ input.NamesKey := by
    intro hkey
    cases hconfigured.mpr (listed_of_missingAssets hkey hmissing).1
  refine ⟨hkey, hverifier, assets, hassets, ?_⟩
  rw [← decides_planSendRules hkey hverifier hassets]
  exact h

theorem rests_iff (hplan : Plan cfg t req fn auth) {h : Log BuildRes}
    (htx : ((buildSetupAuthTransaction cfg fn auth).runWith script h).1 = .ok tx) :
    req.RestsOnDefault t tx ↔ LiveDefault t (defaultRuleID t) := by
  have hlegal : ∀ h op, anyRun.legal op (script h op) := fun _ _ => trivial
  have hshape := (obeys_buildSetupAuthTransaction cfg fn auth (h := h)).runWith hlegal
  rw [htx] at hshape
  obtain ⟨⟨entries, hxdr⟩, hid⟩ := hshape
  cases hplan with
  | @send input catalog asset n _ _ hdecides =>
    obtain ⟨-, -, assets, -, hplanned⟩ := planned_of_plan hdecides
    obtain ⟨-, -, rfl⟩ := planned_eq_add hplanned
    have hid : tx.contextRuleID = defaultRuleID t := hid
    rw [RestsOnDefault, hid]
  | @swap input id _ _ hdecides =>
    obtain ⟨hadded, -⟩ := added_of_plan hdecides
    obtain ⟨fn', hcall, hplan⟩ := added_eq_add hadded
    obtain ⟨rfl, rfl, rfl⟩ := SwapPlan.add.inj hplan
    obtain ⟨signer, account, -, -, rfl⟩ := addSwapSignerCall_eq_ok.mp hcall
    rw [RestsOnDefault, hid]
    exact ⟨And.left, fun hlive => ⟨hlive, defaultRuleID t, ⟨_, _, entries, hxdr⟩, hlive⟩⟩

theorem addsAnyway_of_plan (hplan : Plan cfg t req fn auth) : req.AddsAnyway cfg t := by
  cases hplan with
  | @send input catalog asset n _ _ hdecides =>
    obtain ⟨hkey, hverifier, assets, hassets, hplanned⟩ := planned_of_plan hdecides
    obtain ⟨hhead, hcall, -⟩ := planned_eq_add hplanned
    exact ⟨hkey, assets, asset, hassets, hhead, buildable_iff.mpr ⟨hverifier, fn, hcall⟩⟩
  | @swap input id _ _ hdecides =>
    obtain ⟨hadded, hauth, hnone⟩ := added_of_plan hdecides
    obtain ⟨fn', hcall, -⟩ := added_eq_add hadded
    exact ⟨accepted_of_decides hdecides, hauth, hnone, encodable_iff.mpr ⟨fn', hcall⟩⟩

end Plans

section Built

variable {cfg : BuildConfig} {req : SetupRequest}

theorem readable_of_admin (h : (adminBundlerDelegatedAuth (ruleWithID t id)).1 = true) :
    (adminBundlerDelegatedAuth (ruleWithID t id)).2 ≠ "" ∧
      Readable (adminBundlerDelegatedAuth (ruleWithID t id)).2 := by
  cases hrule : ruleWithID t id with
  | none =>
    rw [hrule] at h
    cases h
  | some r =>
    obtain ⟨rule, -, rfl⟩ := map_eq_some_iff.mp hrule
    rw [hrule] at h
    simp only [adminBundlerDelegatedAuth] at h ⊢
    split_ifs at h ⊢ with hg
    refine ⟨hg.1, ?_⟩
    obtain ⟨signers, -, signer, -, hparse⟩ := mem_signers_iff.mp (mem_of_delegatedG rfl hg.1)
    unfold parseContextRuleSigner at hparse
    split at hparse
    · cases hparse
    · obtain ⟨address, -, haddress⟩ := addressText_eq hg.1 (ContextRuleSigner.delegated.inj hparse)
      exact ⟨address, scAddressFromString_of_addressString haddress⟩
    · cases hparse

theorem readable_of_delegatedSigner {g : String} {signer : ScVal}
    (h : delegatedSigner g = .ok signer) : Readable g := by
  obtain ⟨value, hvalue, -⟩ := map_eq_some_iff.mp (orError_eq_ok.mp h)
  obtain ⟨address, haddress, -⟩ := map_eq_some_iff.mp hvalue
  exact ⟨address, haddress⟩

theorem readable_setupAuth {smart g : String} {account : Hash} {signerType : SignerType}
    (haccount : contractText account = smart) (hg : signerType = .delegated → Readable g) :
    (setupAuth cfg smart id signerType g (adminBundlerDelegatedAuth (ruleWithID t id))).Readable where
  smart := ⟨.contract account, haccount ▸ scAddressFromString_contractText account⟩
  signer hne := by
    change delegatedSignerG signerType g ≠ "" at hne
    change Readable (delegatedSignerG signerType g)
    unfold delegatedSignerG at hne ⊢
    split_ifs at hne ⊢ with htype
    · exact hg htype
    · exact absurd rfl hne
  feePayer := ⟨.account cfg.bundler, scAddressFromString_accountText cfg.bundler⟩
  auth hmode := by
    obtain ⟨hset, hreadable⟩ := readable_of_admin hmode
    have hauth : (setupAuth cfg smart id signerType g
        (adminBundlerDelegatedAuth (ruleWithID t id))).authG =
          (adminBundlerDelegatedAuth (ruleWithID t id)).2 := if_neg hset
    rw [hauth]
    exact ⟨hset, hreadable⟩

structure Ready (cfg : BuildConfig) (t : RuleTable) (req : SetupRequest) (fn : HostFunction)
    (auth : AuthTransactionCoreInput) (account : Hash) : Prop where
  plan : Plan cfg t req fn auth
  readable : auth.Readable
  account_eq : auth.smartAccountAddress = contractText account
  kept : auth.dropAuthAddress = ""

theorem ready_send {input : SetupSendRulesInput} (h : AddsAnyway cfg t (.send input catalog)) :
    ∃ fn auth account, Ready cfg t (.send input catalog) fn auth account := by
  obtain ⟨hkey, assets, asset, hassets, hhead, hbuildable⟩ := h
  obtain ⟨hverifier, fn, hfn⟩ := buildable_iff.mp hbuildable
  obtain ⟨account, haccount⟩ := hbuildable.account
  obtain ⟨n, hplan⟩ := exists_planned hhead hfn
  rw [← decides_planSendRules hkey hverifier hassets] at hplan
  refine ⟨fn, _, account, .send hplan, readable_setupAuth (text_of_strkey haccount) ?_,
    (text_of_strkey haccount).symm, rfl⟩
  intro htype
  obtain ⟨signers, hsigners⟩ := hbuildable.signers
  rw [htype] at hsigners
  unfold buildSignersVecForSetup at hsigners
  dsimp only at hsigners
  split_ifs at hsigners
  obtain ⟨signer, hsigner, -⟩ := bind_eq_ok.mp hsigners
  exact readable_of_delegatedSigner hsigner

theorem decides_of_addsAnyway (hnone : ¬ FindsDefault t) (h : AddsAnyway cfg t (.swap input)) :
    decides t (planSwapRules cfg input) = input.added cfg t := by
  obtain ⟨haccepted, hauth, hexternal, -⟩ := h
  by_cases hkey : input.NamesKey
  · have hnamed : swapSignerType input = .passkey ∧ input.keyDataHex ≠ "" := hkey
    rw [decides_accepted haccepted, passkeyRule, if_pos hnamed,
      decides_readRules (result_signerRule t _ _ _), signerRule_of_no_default hnone]
    simp only [hexternal hkey]
    change (if input.Authorized cfg t then _ else _) = _
    rw [if_neg hauth]
  · rw [decides_unnamed haccepted hkey, if_neg hauth]

theorem ready_swap (hnone : ¬ FindsDefault t) (h : AddsAnyway cfg t (.swap input)) :
    ∃ fn auth account, Ready cfg t (.swap input) fn auth account := by
  have hdecides := decides_of_addsAnyway hnone h
  obtain ⟨-, -, -, hencodable⟩ := h
  obtain ⟨account, haccount⟩ := hencodable.account
  obtain ⟨fn, hfn⟩ := encodable_iff.mp hencodable
  rw [added, hfn] at hdecides
  refine ⟨fn, _, account, .swap hdecides, readable_setupAuth (text_of_strkey haccount) ?_,
    (text_of_strkey haccount).symm, rfl⟩
  intro htype
  obtain ⟨signer, hsigner⟩ := hencodable.signer
  rw [htype] at hsigner
  exact readable_of_delegatedSigner hsigner

theorem exists_built (hnone : ¬ FindsDefault t) (h : req.AddsAnyway cfg t) : ∃ script tx,
    AnsweredFrom t req.account script ∧ req.Builds cfg script tx := by
  obtain ⟨fn, auth, account, hready⟩ : ∃ fn auth account, Ready cfg t req fn auth account := by
    cases req with
    | send input catalog => exact ready_send h
    | swap input => exact ready_swap hnone h
  have hyields : Yields (willing t account) (buildSetupAuthTransaction cfg fn auth) fun _ => True :=
    yields_buildAuthTransactionCore hready.readable hready.account_eq hready.kept _
  have hscript : AnsweredFrom t req.account (fun _ => willing t account) := fun _ _ => rfl
  obtain ⟨tx, htx⟩ := builds_of_plan hscript hready.plan fun h => by
    obtain ⟨tx, htx, -⟩ := hyields.runWith h
    exact ⟨tx, htx⟩
  exact ⟨_, tx, hscript, htx⟩

theorem not_usesDefault_of_adds (hnone : ¬ FindsDefault t) (hadds : req.AddsAnyway cfg t) :
    ¬ req.UsesDefault cfg t := by
  intro huses
  obtain ⟨script, tx, hscript, htx⟩ := exists_built hnone hadds
  obtain ⟨fn, auth, h, hplan, hrun⟩ := plan_of_builds hscript htx
  exact not_liveDefault_of_finds hnone ((rests_iff hplan hrun).mp (huses script hscript tx htx))

end Built

namespace Sample

open Build.Sample (key)

def contractRuleOnly : RuleTable := RuleTable.after [.add (scMap
  [(scSymbol "context_type", scVec [scSymbol "CallContract", .address (.contract (key 3))]),
    (scSymbol "signers", scVec [scVec [scSymbol "Delegated", .address (.account (key 7))]])])]

theorem contractRuleOnly_adds : AddsAnyway twoVerifiers contractRuleOnly (.swap ed25519Request) := by
  have hkey : hexDecode ed25519Request.publicKeyHex = some [10, 11] := by decide
  have hverifier : verifierFor twoVerifiers .ed25519 = contractText (key 5) := by
    rw [verifierFor, if_neg (by decide)]
    rfl
  obtain ⟨signer, hsigner⟩ := exists_externalSigner (scAddressFromString_contractText (key 5)) [10, 11]
  refine ⟨(accepted_ed25519 rfl).mpr ⟨by decide, by decide +kernel⟩, by decide +kernel, ?_, ?_⟩
  · rintro ⟨hpasskey, -⟩
    exact absurd hpasskey (by decide)
  refine ⟨⟨signer, ?_⟩, isSome_iff_exists.mp (by decide +kernel)⟩
  change swapSigner twoVerifiers ed25519Request .ed25519 = .ok signer
  refine bind_eq_ok.mpr ⟨[10, 11], orError_eq_ok.mpr hkey, ?_⟩
  rw [hverifier]
  exact hsigner

end Sample

end LatchApi.Setup
