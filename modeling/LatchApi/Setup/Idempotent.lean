import LatchApi.Setup.Send

namespace LatchApi.Setup

open Lib Program Soroban Bundler Rules Build
open Multisig (CatalogAsset)

section Requests

variable (cfg : BuildConfig) (input : SetupSendRulesInput) (t : RuleTable)

def OwnRule (contractID : String) (signer : ContextRuleSigner) : Prop :=
  contractID ≠ "" ∧
    ∃ id, t.Live (fun r => r.callContractAddress = contractID ∧ r.signers = [signer]) id

structure Buildable (asset : CatalogAsset) : Prop where
  verifier : input.HasVerifier cfg
  signers : ∃ signers, buildSignersVecForSetup input.signerType (verifierFor cfg input.signerType)
    input.publicKeyHex input.keyDataHex input.gAddress = .ok signers
  name : ("send" ++ "-" ++ asset.assetID).utf8ByteSize ≤ contextRuleNameMaxLen
  contract : ∃ address, scAddress asset.contractID = some address
  account : ∃ id, contractIDFromAddress input.smartAccountAddress = some id

def AddsRule (asset : CatalogAsset) (tx : Transaction) : Prop :=
  ∃ account contextType name signers, Invokes (.invokeContract ⟨account, "add_context_rule",
      [contextType, name, scVoid, signers, scMap []]⟩) tx ∧
    buildCallContractContextType asset.contractID = some contextType ∧
    buildSignersVecForSetup input.signerType (verifierFor cfg input.signerType) input.publicKeyHex
      input.keyDataHex input.gAddress = .ok signers

def AddsNone (catalog : List CatalogAsset) (asset : CatalogAsset) : Prop :=
  ∀ script, AnsweredFrom t input.smartAccountAddress script →
    ∀ e ∈ ((setupSendRules cfg input catalog).runWith script []).2,
      BuildsOnly (fun tx => ¬ AddsRule cfg input asset tx) e.1

structure Repeats (catalog assets : List CatalogAsset) (asset : CatalogAsset) : Prop where
  resolved : resolveAssetsToConfigure catalog input.assetID input.assetIDs = .ok assets
  requested : asset ∈ assets
  signerType : input.signerType = .ed25519 ∨ input.signerType = .delegated
  own : ∃ signer, input.signer cfg = some signer ∧ OwnRule t asset.contractID signer

def Idempotent (catalog assets : List CatalogAsset) (asset : CatalogAsset) : Prop :=
  Repeats cfg input t catalog assets asset → AddsNone cfg input t catalog asset

/-- The first of the requested assets whose own first rule does not pass for the signer's is of
another contract, or no call can be built for it. -/
def PassedOver (assets : List CatalogAsset) (asset : CatalogAsset) : Prop :=
  ∀ a, (unauthorized cfg input t assets).head? = some a →
    buildCallContractContextType a.contractID = buildCallContractContextType asset.contractID →
    ¬ Buildable cfg input a

end Requests

section Added

variable {cfg : BuildConfig} {input : SetupSendRulesInput} {t : RuleTable}
variable {catalog assets : List CatalogAsset} {a asset : CatalogAsset} {fn : HostFunction}

theorem buildable_iff : Buildable cfg input asset ↔ input.HasVerifier cfg ∧
    ∃ fn, addSendRuleCall input (verifierFor cfg input.signerType) asset = .ok fn := by
  constructor
  · rintro ⟨hverifier, ⟨signers, hsigners⟩, hname, ⟨address, haddress⟩, account, haccount⟩
    have htype : buildCallContractContextType asset.contractID =
        some (scVec [scSymbol "CallContract", address]) := by
      rw [buildCallContractContextType, haddress]
      rfl
    exact ⟨hverifier, _, addSendRuleCall_eq_ok.mpr
      ⟨signers, _, account, hsigners, hname, htype, haccount, rfl⟩⟩
  · rintro ⟨hverifier, fn, hfn⟩
    obtain ⟨signers, contextType, account, hsigners, hname, htype, haccount, -⟩ :=
      addSendRuleCall_eq_ok.mp hfn
    obtain ⟨address, haddress, -⟩ := Option.map_eq_some_iff.mp htype
    exact ⟨hverifier, ⟨signers, hsigners⟩, hname, ⟨address, haddress⟩, account, haccount⟩

theorem addsRule_iff {tx : Transaction}
    (hfn : addSendRuleCall input (verifierFor cfg input.signerType) a = .ok fn) (htx : Invokes fn tx) :
    AddsRule cfg input asset tx ↔
      buildCallContractContextType a.contractID = buildCallContractContextType asset.contractID := by
  obtain ⟨signers, contextType, account, hsigners, -, htype, -, rfl⟩ := addSendRuleCall_eq_ok.mp hfn
  constructor
  · rintro ⟨_, contextType', _, _, htx', htype', -⟩
    have hcall := List.cons.inj (htx.symm.trans htx')
    simp only [HostFunction.invokeContract.injEq, InvokeContractArgs.mk.injEq, List.cons.injEq] at hcall
    rw [htype, htype', hcall.1.2.2.1]
  · intro hsame
    exact ⟨_, contextType, _, signers, htx, hsame ▸ htype, hsigners⟩

theorem addsNone_of_plan (hplan : ∀ a n fn auth,
      decides t (planSendRules cfg input catalog) = .ok (.add a n fn auth) →
      addSendRuleCall input (verifierFor cfg input.signerType) a = .ok fn ∧
        buildCallContractContextType a.contractID ≠ buildCallContractContextType asset.contractID) :
    AddsNone cfg input t catalog asset := by
  intro script hscript
  refine buildsOnly_of_decides (always_planSendRules cfg input catalog) (fun plan hdecides => ?_) hscript
  cases plan with
  | configured => trivial
  | add a n fn auth =>
    obtain ⟨hfn, hother⟩ := hplan a n fn auth hdecides
    refine ((always_buildSetupAuth cfg fn auth).mono fun op hop => ?_).bind fun _ => trivial
    cases op with
    | buildTransaction tx => exact fun hadds => hother ((addsRule_iff hfn hop).mp hadds)
    | _ => trivial

theorem not_addsNone_of_plan {n : Nat} {auth : AuthTransactionCoreInput}
    (hplan : decides t (planSendRules cfg input catalog) = .ok (.add a n fn auth))
    (hfn : addSendRuleCall input (verifierFor cfg input.signerType) a = .ok fn)
    (hsame : buildCallContractContextType a.contractID =
      buildCallContractContextType asset.contractID) :
    ¬ AddsNone cfg input t catalog asset := by
  intro hnone
  obtain ⟨e, he, hop⟩ := built_of_decides (f := finishSend cfg)
    (always_planSendRules cfg input catalog) hplan rfl
  have hbuilds := hnone (fun _ => tableAnswers t) (fun _ _ => rfl) e he
  rw [hop] at hbuilds
  have htx : Invokes fn (bundlerTransaction cfg 0 fn [] none) := rfl
  exact hbuilds ((addsRule_iff hfn htx).mpr hsame)

theorem addsNone_iff (hkey : ¬ input.NamesKey)
    (hassets : resolveAssetsToConfigure catalog input.assetID input.assetIDs = .ok assets) :
    AddsNone cfg input t catalog asset ↔ PassedOver cfg input t assets asset := by
  constructor
  · intro hnone a ha hsame hbuildable
    obtain ⟨hverifier, fn, hfn⟩ := buildable_iff.mp hbuildable
    obtain ⟨n, hplan⟩ := exists_planned (t := t) ha hfn
    rw [← decides_planSendRules hkey hverifier hassets] at hplan
    exact not_addsNone_of_plan hplan hfn hsame hnone
  · intro hpassed
    refine addsNone_of_plan fun a n fn auth hplan => ?_
    have hverifier := (of_decides_planSendRules hplan).1
    rw [decides_planSendRules hkey hverifier hassets] at hplan
    obtain ⟨ha, hfn, -⟩ := planned_eq_add hplan
    exact ⟨hfn, fun hsame => hpassed a ha hsame (buildable_iff.mpr ⟨hverifier, fn, hfn⟩)⟩

end Added

theorem signersVec_delegated {verifier publicKeyHex keyDataHex g : String} {address : ScVal}
    (hg : g ≠ "") (haddress : scAddress g = some address) :
    buildSignersVecForSetup .delegated verifier publicKeyHex keyDataHex g =
      .ok (scVec [scVec [scSymbol "Delegated", address]]) := by
  simp [buildSignersVecForSetup, hg, delegatedSigner, buildDelegatedSignerScVal, haddress, orInvalid,
    orError]

namespace Sample

open Build.Sample (config key)

def token : CatalogAsset := ⟨"token", "TOK", contractText (key 3), 7⟩

def tokenRule (g : UInt8) : ScVal :=
  scMap [(scSymbol "context_type", scVec [scSymbol "CallContract", .address (.contract (key 3))]),
    (scSymbol "signers", scVec [scVec [scSymbol "Delegated", .address (.account (key g))]])]

def twoSigners : RuleTable := RuleTable.after [.add (tokenRule 6), .add (tokenRule 7)]

def repeated : SetupSendRulesInput where
  smartAccountAddress := contractText (key 2)
  signerType := .delegated
  assetID := "token"
  assetIDs := []
  publicKeyHex := ""
  keyDataHex := ""
  gAddress := accountText (key 7)

theorem scAddress_token : scAddress token.contractID = some (.address (.contract (key 3))) := by
  have h : scAddressFromString token.contractID = some (.contract (key 3)) := by decide +kernel
  rw [scAddress, h]
  rfl

theorem scAddress_signer : scAddress repeated.gAddress = some (.address (.account (key 7))) := by
  have h : scAddressFromString repeated.gAddress = some (.account (key 7)) := by decide +kernel
  rw [scAddress, h]
  rfl

theorem repeats_twoSigners : Repeats config repeated twoSigners [token] [token] token where
  resolved := by simp [resolveAssetsToConfigure, Multisig.resolveAsset, token, repeated, Except.map]
  requested := List.mem_singleton_self _
  signerType := .inr rfl
  own := by
    refine ⟨.delegated (accountText (key 7)), by decide +kernel, by decide +kernel, 1, tokenRule 7, ?_, ?_⟩
    · simp [twoSigners, RuleTable.after, RuleTable.step, RuleTable.add, RuleTable.empty]
    · decide +kernel

theorem buildable_token : Buildable config repeated token where
  verifier := fun _ => rfl
  signers := ⟨_, signersVec_delegated (by decide +kernel) scAddress_signer⟩
  name := by decide +kernel
  contract := ⟨_, scAddress_token⟩
  account := ⟨key 2, by decide +kernel⟩

end Sample

end LatchApi.Setup
