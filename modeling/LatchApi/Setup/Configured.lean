import LatchApi.Setup.Swap

namespace LatchApi.Setup

open Lib Program Soroban Bundler Rules Build
open Multisig (CatalogAsset)

section Rules

variable (t : RuleTable)

def Applies (contract : String) (r : ContextRuleSummary) : Prop :=
  r.isDefault = true ∨ contract ≠ "" ∧ r.callContractAddress = contract

/-- A live rule that applies to the contract lists the very signer. -/
def ListedFor (contract : String) (signer : Option ContextRuleSigner) : Prop :=
  ∃ s, signer = some s ∧ ∃ id, t.Live (fun r => Applies contract r ∧ s ∈ r.signers) id

variable {t}

theorem keyData_of_parsed {id : UInt32} {rule : ScVal} {verifier keyData : String}
    (h : .external verifier keyData ∈ (parseContextRuleSummary id rule).signers) :
    keyData = "" ∨ ∃ key, keyData = hexEncode key := by
  obtain ⟨signers, -, signer, -, hparse⟩ := mem_signers_iff.mp h
  unfold parseContextRuleSigner at hparse
  split at hparse
  · rename_i _ value _
    cases hparse
    cases value with
    | bytes key => exact .inr ⟨key, rfl⟩
    | _ => exact .inl rfl
  · cases hparse
  · cases hparse

theorem keySigner_of_equalFold {verifier keyHex keyData : String} (hgiven : keyHex ≠ "")
    (hkey : keyData = "" ∨ ∃ key, keyData = hexEncode key) (hfold : equalFold keyData keyHex = true) :
    keySigner verifier keyHex = some (.external verifier keyData) := by
  have hlower : toLower keyData = toLower keyHex := by simpa [equalFold] using hfold
  rcases hkey with rfl | ⟨key, rfl⟩
  · exfalso
    apply hgiven
    have hlist := congrArg String.toList hlower
    simpa [toLower] using hlist
  · rw [keySigner, if_neg hgiven, toLower_hexEncode_iff.mp hlower]
    rfl

theorem listedFor_of_exact {verifier keyHex contract : String} {r : ContextRuleSummary}
    (hr : r ∈ t.scanned) (hexact : ruleHasExactExternalSigner r verifier keyHex = true)
    (happlies : Applies contract r) (hgiven : keyHex ≠ "") :
    ListedFor t contract (keySigner verifier keyHex) := by
  obtain ⟨-, rule, hrule, hparse⟩ := RuleTable.mem_scanned.mp hr
  obtain ⟨s, hs, hmatch⟩ := List.any_eq_true.mp hexact
  cases s with
  | external verifier' keyData =>
    rw [Bool.and_eq_true, beq_iff_eq] at hmatch
    obtain ⟨rfl, hfold⟩ := hmatch
    have hkey := keyData_of_parsed (hparse ▸ hs)
    exact ⟨_, keySigner_of_equalFold hgiven hkey hfold, r.id, rule, hrule, hparse.symm ▸ ⟨happlies, hs⟩⟩
  | _ => cases hmatch

end Rules

inductive SetupRequest where
  | send (input : SetupSendRulesInput) (catalog : List CatalogAsset)
  | swap (input : SetupSwapRulesInput)

namespace SetupRequest

variable (cfg : BuildConfig) (t : RuleTable)

def account : SetupRequest → String
  | .send input _ => input.smartAccountAddress
  | .swap input => input.smartAccountAddress

def signer : SetupRequest → Option ContextRuleSigner
  | .send input _ => input.signer cfg
  | .swap input => input.signer cfg

def Targets (contract : String) : SetupRequest → Prop
  | .send input catalog => ∃ assets asset,
      resolveAssetsToConfigure catalog input.assetID input.assetIDs = .ok assets ∧
      asset ∈ assets ∧ asset.contractID = contract
  | .swap input => resolveRouterContractID input.routerContractID = contract

def Reports (script : Script BuildRes) : SetupRequest → Prop
  | .send input catalog => ∃ message,
      ((setupSendRules cfg input catalog).runWith script []).1 = .ok (.alreadyConfigured message)
  | .swap input => ∃ message router id,
      ((setupSwapRules cfg input).runWith script []).1 = .ok (.alreadyConfigured message router id)

/-- "Already configured" is true of every contract of the request. -/
def ReportsTruly (req : SetupRequest) : Prop :=
  ∀ script, AnsweredFrom t req.account script → req.Reports cfg script →
    ∀ contract, req.Targets contract → ListedFor t contract (req.signer cfg)

def NamesKey : SetupRequest → Prop
  | .send input _ => input.NamesKey
  | .swap input => input.NamesKey

/-- The rules that the request looks at pass for the signer's, by verifier or account alone: the first
rule of each asset, or the default rule for a swap. -/
def Matched : SetupRequest → Prop
  | .send input catalog => input.HasVerifier cfg ∧ ∃ assets,
      resolveAssetsToConfigure catalog input.assetID input.assetIDs = .ok assets ∧
      ∀ asset ∈ assets, FirstRuleAuthorizes cfg input t asset
  | .swap input => input.Accepted cfg ∧ input.Authorized cfg t

end SetupRequest

open SetupRequest

section Reports

variable {cfg : BuildConfig} {t : RuleTable}
  {script : Script BuildRes} {req : SetupRequest}
  {input : SetupSendRulesInput}

theorem reports_send {catalog : List CatalogAsset}
    (hscript : AnsweredFrom t input.smartAccountAddress script) :
    Reports cfg script (.send input catalog) ↔
      decides t (planSendRules cfg input catalog) = .ok .configured := by
  have hout := runWith_decides (always_planSendRules cfg input catalog) hscript []
  simp only [SetupRequest.Reports, setupSendRules]
  constructor
  · rintro ⟨message, hrun⟩
    cases hdecides : decides t (planSendRules cfg input catalog) with
    | error e =>
      rw [runWith_bind_error (hout.trans hdecides)] at hrun
      cases hrun
    | ok plan =>
      rw [runWith_bind_ok (hout.trans hdecides)] at hrun
      cases plan with
      | configured => rfl
      | add asset n fn auth =>
        rw [finishSend, runWith_bind] at hrun
        split at hrun <;> cases hrun
  · intro hdecides
    rw [runWith_bind_ok (hout.trans hdecides)]
    exact ⟨_, rfl⟩

theorem reports_swap {input : SetupSwapRulesInput}
    (hscript : AnsweredFrom t input.smartAccountAddress script) :
    Reports cfg script (.swap input) ↔ ∃ id, decides t (planSwapRules cfg input) = .ok (.configured id) := by
  have hout := runWith_decides (always_planSwapRules cfg input) hscript []
  simp only [SetupRequest.Reports, setupSwapRules]
  constructor
  · rintro ⟨message, router, id, hrun⟩
    cases hdecides : decides t (planSwapRules cfg input) with
    | error e =>
      rw [runWith_bind_error (hout.trans hdecides)] at hrun
      cases hrun
    | ok plan =>
      rw [runWith_bind_ok (hout.trans hdecides)] at hrun
      cases plan with
      | configured id => exact ⟨id, rfl⟩
      | add id fn auth =>
        rw [finishSwap, runWith_bind] at hrun
        split at hrun <;> cases hrun
  · rintro ⟨id, hdecides⟩
    rw [runWith_bind_ok (hout.trans hdecides)]
    exact ⟨_, _, _, rfl⟩

theorem unauthorized_eq_nil {assets : List CatalogAsset} :
    unauthorized cfg input t assets = [] ↔ ∀ asset ∈ assets, FirstRuleAuthorizes cfg input t asset := by
  simp [unauthorized, List.filter_eq_nil_iff]

theorem reports_iff_matched (hkey : ¬ req.NamesKey)
    (hscript : AnsweredFrom t req.account script) : req.Reports cfg script ↔ req.Matched cfg t := by
  cases req with
  | send input catalog =>
    rw [reports_send hscript]
    constructor
    · intro hdecides
      obtain ⟨hverifier, assets, missing, hassets, -⟩ := of_decides_planSendRules hdecides
      refine ⟨hverifier, assets, hassets, ?_⟩
      rw [decides_planSendRules hkey hverifier hassets] at hdecides
      exact unauthorized_eq_nil.mp (planned_eq_configured hdecides)
    · rintro ⟨hverifier, assets, hassets, hfirst⟩
      rw [decides_planSendRules hkey hverifier hassets, unauthorized_eq_nil.mpr hfirst]
      rfl
  | swap input =>
    rw [reports_swap hscript]
    constructor
    · rintro ⟨id, hdecides⟩
      have haccepted := accepted_of_decides hdecides
      refine ⟨haccepted, ?_⟩
      rw [decides_unnamed haccepted hkey] at hdecides
      by_contra hnot
      rw [if_neg hnot] at hdecides
      obtain ⟨fn, -, hplan⟩ := added_eq_add hdecides
      cases hplan
    · rintro ⟨haccepted, hauth⟩
      rw [decides_unnamed haccepted hkey, if_pos hauth]
      exact ⟨_, rfl⟩

theorem reportsTruly_of_namesKey (hkey : req.NamesKey) : req.ReportsTruly cfg t := by
  intro script hscript hreports contract htarget
  cases req with
  | send input catalog =>
    have hdecides := (reports_send hscript).mp hreports
    obtain ⟨-, assets, missing, hassets, hmissing, -⟩ := of_decides_planSendRules hdecides
    obtain ⟨assets', asset, hassets', hasset, rfl⟩ := htarget
    cases hassets.symm.trans hassets'
    obtain ⟨r, hr, hexact, happlies⟩ := (listed_of_missingAssets hkey hmissing).2 asset hasset
    have hsigner : signer cfg (.send input catalog) =
        keySigner (verifierFor cfg input.signerType) input.keyDataHex := by
      simp only [signer, SetupSendRulesInput.signer, suppliedSigner, hkey.1]
    rw [hsigner]
    exact listedFor_of_exact hr hexact happlies hkey.2
  | swap input =>
    obtain ⟨id, hdecides⟩ := (reports_swap hscript).mp hreports
    have hsigner : signer cfg (.swap input) =
        keySigner (verifierFor cfg (swapSignerType input)) input.keyDataHex := by
      simp only [signer, SetupSwapRulesInput.signer, suppliedSigner, hkey.1]
    rw [hsigner]
    rcases decides_named hkey hdecides with ⟨r, hr, -, hdefault, hexact⟩ | ⟨-, hadded⟩
    · exact listedFor_of_exact hr hexact (.inl hdefault) hkey.2
    · obtain ⟨fn, -, hplan⟩ := added_eq_add hadded
      cases hplan

theorem listed_of_reportsTruly (hkey : ¬ req.NamesKey) (htruly : req.ReportsTruly cfg t)
    (hmatched : req.Matched cfg t) {contract : String}
    (htarget : req.Targets contract) : ListedFor t contract (req.signer cfg) :=
  htruly (fun _ => tableAnswers t) (fun _ _ => rfl)
    ((reports_iff_matched hkey fun _ _ => rfl).mpr hmatched) contract htarget

end Reports

/-- "Already configured" is true exactly if the request names a passkey's key, or if the rules that
pass for the signer's are right about it. -/
theorem reportsTruly_iff (cfg : BuildConfig) (t : RuleTable) (req : SetupRequest) :
    req.ReportsTruly cfg t ↔ req.NamesKey ∨ (req.Matched cfg t →
      ∀ contract, req.Targets contract → ListedFor t contract (req.signer cfg)) := by
  constructor
  · intro htruly
    by_cases hkey : req.NamesKey
    · exact .inl hkey
    · exact .inr fun hmatched contract htarget => listed_of_reportsTruly hkey htruly hmatched htarget
  · rintro (hkey | hlisted)
    · exact reportsTruly_of_namesKey hkey
    by_cases hkey : req.NamesKey
    · exact reportsTruly_of_namesKey hkey
    · intro script hscript hreports
      exact hlisted ((reports_iff_matched hkey hscript).mp hreports)

namespace Sample

open Build.Sample (key)

def otherKeyAccount : RuleTable := RuleTable.after [.add (externalRule 5)]

theorem other_key_reported : ¬ ReportsTruly twoVerifiers otherKeyAccount (.swap ed25519Request) := by
  intro htruly
  have hkey : ¬ NamesKey (.swap ed25519Request) := by
    rintro ⟨hpasskey, -⟩
    exact absurd hpasskey (by decide)
  have hmatched : Matched twoVerifiers otherKeyAccount (.swap ed25519Request) :=
    ⟨(accepted_ed25519 rfl).mpr ⟨by decide, by decide +kernel⟩, by decide +kernel⟩
  obtain ⟨s, hs, id, rule, hrule, -, hmem⟩ := listed_of_reportsTruly hkey htruly hmatched rfl
  have hsigner : signer twoVerifiers (.swap ed25519Request) =
      some (.external (contractText (key 5)) "0a0b") := by decide +kernel
  obtain rfl := Option.some.inj (hs.symm.trans hsigner)
  obtain ⟨-, rfl⟩ := Prod.mk.inj (List.mem_singleton.mp hrule)
  have hlisted : (parseContextRuleSummary 0 (externalRule 5)).signers =
      [.external (contractText (key 5)) "010203"] := by decide +kernel
  change _ ∈ (parseContextRuleSummary 0 (externalRule 5)).signers at hmem
  rw [hlisted] at hmem
  obtain ⟨-, hkey⟩ := ContextRuleSigner.external.inj (List.mem_singleton.mp hmem)
  exact absurd hkey (by decide)

end Sample

end LatchApi.Setup
