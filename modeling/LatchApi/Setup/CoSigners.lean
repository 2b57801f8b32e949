import LatchApi.Setup.Swap

namespace LatchApi.Setup

open Lib Program Soroban Bundler Rules Build List Option
open Multisig (invokeContractHostFunction)
open SetupSwapRulesInput

section Requests

variable (cfg : BuildConfig) (input : SetupSwapRulesInput) (t : RuleTable)

def AddsBesideExternal (tx : Transaction) : Prop :=
  ∃ account id signer verifier keyData r verifier' keyData',
    Invokes (.invokeContract ⟨account, "add_signer", [scU32 id, signer]⟩) tx ∧
    parseContextRuleSigner signer = .external verifier keyData ∧ ruleWithID t id = some r ∧
    .external verifier' keyData' ∈ r.signers ∧ (verifier', keyData') ≠ (verifier, keyData)

/-- Whatever else is answered, no external signer is added next to another. -/
def KeepsApart : Prop :=
  ∀ script, AnsweredFrom t input.smartAccountAddress script →
    ∀ e ∈ ((setupSwapRules cfg input).runWith script []).2,
      BuildsOnly (fun tx => ¬ AddsBesideExternal t tx) e.1

/-- An ed25519 key for a rule that has external signers, but none of the ed25519 verifier. -/
structure Mixes : Prop where
  signerType : input.signerType = .ed25519
  given : input.publicKeyHex ≠ ""
  key : ∃ keyData, hexDecode input.publicKeyHex = some keyData
  verifier : ∃ address, scAddressFromString cfg.ed25519VerifierAddress = some address
  account : ∃ id, contractIDFromAddress input.smartAccountAddress = some id
  rule : ∃ r, consulted t = some r ∧ (∃ verifier keyData, .external verifier keyData ∈ r.signers) ∧
    ∀ verifier keyData, .external verifier keyData ∈ r.signers → verifier ≠ cfg.ed25519VerifierAddress

end Requests

variable {input : SetupSwapRulesInput} {fn : HostFunction} {id : UInt32} {verifier : String}
  {signer : ScVal}

section Calls

variable {cfg : BuildConfig} {t : RuleTable} {tx : Transaction} {signerType : SignerType}

theorem addSwapSignerCall_eq_ok : addSwapSignerCall cfg input signerType id = .ok fn ↔
    ∃ signer account, swapSigner cfg input signerType = .ok signer ∧
      contractIDFromAddress input.smartAccountAddress = some account ∧
      fn = .invokeContract ⟨.contract account, "add_signer", [scU32 id, signer]⟩ := by
  unfold addSwapSignerCall
  simp only [bind_eq_ok, orInvalid, orError_eq_ok]
  constructor
  · rintro ⟨signer, hsigner, account, haccount, hfn⟩
    exact ⟨signer, account, hsigner, haccount, (Except.ok.inj hfn).symm⟩
  · rintro ⟨signer, account, hsigner, haccount, rfl⟩
    exact ⟨signer, hsigner, account, haccount, rfl⟩

theorem externalSigner_eq_ok {keyData : Bytes} (h : externalSigner verifier keyData = .ok signer) :
    (∃ address, scAddressFromString verifier = some address) ∧
      parseContextRuleSigner signer = .external verifier (hexEncode keyData) := by
  obtain ⟨value, hvalue, rfl⟩ := map_eq_some_iff.mp (orError_eq_ok.mp h)
  obtain ⟨address, haddress, rfl⟩ := map_eq_some_iff.mp hvalue
  refine ⟨⟨address, haddress⟩, ?_⟩
  change ContextRuleSigner.external ((addressString address).getD "") (hexEncode keyData) = _
  rw [addressString_of_text haddress]
  rfl

theorem exists_externalSigner {address : ScAddress}
    (haddress : scAddressFromString verifier = some address) (keyData : Bytes) :
    ∃ signer, externalSigner verifier keyData = .ok signer := by
  refine ⟨scVec [scSymbol "External", .address address, scBytes keyData], orError_eq_ok.mpr ?_⟩
  rw [buildExternalSignerScVal, scAddress, haddress]
  rfl

theorem swapSigner_ed25519 (h : swapSigner cfg input .ed25519 = .ok signer) :
    ∃ keyData, hexDecode input.publicKeyHex = some keyData ∧
      externalSigner cfg.ed25519VerifierAddress keyData = .ok signer := by
  obtain ⟨keyData, hkey, hsigner⟩ := bind_eq_ok.mp h
  exact ⟨keyData, orError_eq_ok.mp hkey, hsigner⟩

theorem parse_delegated (h : swapSigner cfg input .delegated = .ok signer) :
    ∃ g, parseContextRuleSigner signer = .delegated g := by
  obtain ⟨value, -, rfl⟩ := map_eq_some_iff.mp (orError_eq_ok.mp h)
  exact ⟨_, rfl⟩

end Calls

section Plans

variable {cfg : BuildConfig} {t : RuleTable} {auth : AuthTransactionCoreInput}

theorem namesKey_of_accepted (haccepted : input.Accepted cfg) (htype : swapSignerType input = .passkey) :
    input.NamesKey := by
  refine ⟨htype, fun hempty => ?_⟩
  simp [Accepted, checkSwapInput, htype, hempty] at haccepted

theorem swapSignerType_ed25519 : swapSignerType input = .ed25519 ↔ input.signerType = .ed25519 := by
  unfold swapSignerType
  split
  · rename_i h
    simp [h]
  · rfl

theorem authorized_ed25519 (htype : swapSignerType input = .ed25519)
    (hverifier : cfg.ed25519VerifierAddress ≠ "") : input.Authorized cfg t ↔
    ∃ r, consulted t = some r ∧ ∃ keyData, .external cfg.ed25519VerifierAddress keyData ∈ r.signers := by
  have hrule : ∀ r : ContextRuleSummary, ruleAuthorizesSigner r .ed25519 cfg.ed25519VerifierAddress
      input.gAddress = true ↔ ∃ keyData, .external cfg.ed25519VerifierAddress keyData ∈ r.signers := by
    intro r
    simp only [ruleAuthorizesSigner, reduceCtorEq, if_false, List.any_eq_true]
    constructor
    · rintro ⟨s, hs, hmatch⟩
      cases s with
      | external verifier keyData =>
        obtain rfl : verifier = cfg.ed25519VerifierAddress := by simpa [hverifier] using hmatch
        exact ⟨keyData, hs⟩
      | _ => cases hmatch
    · rintro ⟨keyData, hs⟩
      exact ⟨_, hs, by simp⟩
  unfold Authorized
  rw [htype]
  simp only [verifierFor, reduceCtorEq, if_false, hrule]

theorem added_of_plan (h : decides t (planSwapRules cfg input) = .ok (.add id fn auth)) :
    input.added cfg t = .ok (.add id fn auth) ∧ ¬ input.Authorized cfg t ∧
      (input.NamesKey → (consulted t).any ruleHasExternalSigner ≠ true) := by
  by_cases hkey : input.NamesKey
  · rcases decides_named hkey h with ⟨r, -, hplan, -⟩ | ⟨hnone, hadded⟩
    · cases hplan
    · exact ⟨hadded, not_authorized_of_no_external hkey hnone, fun _ => hnone⟩
  · rw [decides_unnamed (accepted_of_decides h) hkey] at h
    by_cases hauth : input.Authorized cfg t
    · rw [if_pos hauth] at h
      cases h
    · rw [if_neg hauth] at h
      exact ⟨h, hauth, fun hnamed => absurd hnamed hkey⟩

theorem any_external {r : ContextRuleSummary} {keyData : String} (hr : consulted t = some r)
    (hmem : .external verifier keyData ∈ r.signers) :
    (consulted t).any ruleHasExternalSigner = true :=
  (any_eq_true _ _).mpr ⟨r, hr, any_eq_true.mpr ⟨_, hmem, rfl⟩⟩

theorem mixes_of_plan (h : decides t (planSwapRules cfg input) = .ok (.add id fn auth))
    {tx : Transaction} (htx : Invokes fn tx) (hbeside : AddsBesideExternal t tx) :
    Mixes cfg input t := by
  obtain ⟨account, id', signer, verifier, keyData, r, verifier', keyData', htx', hparse, hr, hmem, -⟩ :=
    hbeside
  have haccepted := accepted_of_decides h
  obtain ⟨hadded, hauth, hnone⟩ := added_of_plan h
  obtain ⟨fn', hcall, hplan⟩ := added_eq_add hadded
  cases hplan
  obtain ⟨signer', account', hsigner, haccount, rfl⟩ := addSwapSignerCall_eq_ok.mp hcall
  have hsame := cons.inj (htx.symm.trans htx')
  simp only [HostFunction.invokeContract.injEq, InvokeContractArgs.mk.injEq, cons.injEq, scU32,
    ScVal.u32.injEq] at hsame
  obtain ⟨⟨-, -, rfl, rfl, -⟩, -⟩ := hsame
  cases htype : swapSignerType input with
  | passkey => exact absurd (any_external hr hmem) (hnone (namesKey_of_accepted haccepted htype))
  | delegated =>
    rw [htype] at hsigner
    obtain ⟨g, hg⟩ := parse_delegated hsigner
    cases hparse.symm.trans hg
  | other text =>
    rw [htype] at hsigner
    cases hsigner
  | ed25519 =>
    rw [htype] at hsigner
    obtain ⟨key, hkey, hexternal⟩ := swapSigner_ed25519 hsigner
    obtain ⟨hgiven, hverifier⟩ := (accepted_ed25519 htype).mp haccepted
    refine ⟨swapSignerType_ed25519.mp htype, hgiven, ⟨key, hkey⟩, (externalSigner_eq_ok hexternal).1,
      ⟨account', haccount⟩, r, hr, ⟨verifier', keyData', hmem⟩, ?_⟩
    rintro _ keyData hlisted rfl
    exact hauth ((authorized_ed25519 htype hverifier).mpr ⟨r, hr, keyData, hlisted⟩)

theorem beside_of_mixes (hmixes : Mixes cfg input t) : ∃ fn auth,
    decides t (planSwapRules cfg input) = .ok (.add (defaultRuleID t) fn auth) ∧
      ∀ tx, Invokes fn tx → AddsBesideExternal t tx := by
  obtain ⟨htype, hgiven, ⟨key, hkey⟩, ⟨address, haddress⟩, ⟨account, haccount⟩, r, hr,
    ⟨verifier, keyData, hmem⟩, hother⟩ := hmixes
  have htype := swapSignerType_ed25519.mpr htype
  have hverifier : cfg.ed25519VerifierAddress ≠ "" := by
    intro hempty
    rw [hempty] at haddress
    cases haddress
  have hauth : ¬ input.Authorized cfg t := by
    intro hauth
    obtain ⟨r', hr', keyData', hlisted⟩ := (authorized_ed25519 htype hverifier).mp hauth
    cases hr.symm.trans hr'
    exact hother _ _ hlisted rfl
  have hunnamed : ¬ input.NamesKey := fun hnamed => by cases htype.symm.trans hnamed.1
  obtain ⟨signer, hsigner⟩ := exists_externalSigner haddress key
  have hswap : swapSigner cfg input (swapSignerType input) = .ok signer := by
    rw [htype]
    exact bind_eq_ok.mpr ⟨key, orError_eq_ok.mpr hkey, hsigner⟩
  have hcall : addSwapSignerCall cfg input (swapSignerType input) (defaultRuleID t) =
      .ok (invokeContractHostFunction account "add_signer" [scU32 (defaultRuleID t), signer]) :=
    addSwapSignerCall_eq_ok.mpr ⟨signer, account, hswap, haccount, rfl⟩
  refine ⟨invokeContractHostFunction account "add_signer" [scU32 (defaultRuleID t), signer], setupAuth cfg input.smartAccountAddress (defaultRuleID t) (swapSignerType input)
    input.gAddress (adminBundlerDelegatedAuth (consulted t)), ?_, fun tx htx => ?_⟩
  · rw [decides_unnamed ((accepted_ed25519 htype).mpr ⟨hgiven, hverifier⟩) hunnamed, if_neg hauth, added,
      hcall]
    rfl
  · refine ⟨_, defaultRuleID t, signer, _, _, r, verifier, keyData, htx,
      (externalSigner_eq_ok hsigner).2, hr, hmem, fun hsame => ?_⟩
    exact hother _ _ hmem (Prod.mk.inj hsame).1

theorem not_keepsApart_of_mixes (hmixes : Mixes cfg input t) : ¬ KeepsApart cfg input t := by
  intro hapart
  obtain ⟨fn, auth, hplan, hbeside⟩ := beside_of_mixes hmixes
  obtain ⟨e, he, hop⟩ := built_of_decides (f := finishSwap cfg input)
    (always_planSwapRules cfg input) hplan rfl
  have hbuilds := hapart (fun _ => tableAnswers t) (fun _ _ => rfl) e he
  rw [hop] at hbuilds
  exact hbuilds (hbeside _ rfl)

end Plans

namespace Sample

open Build.Sample (key)

def passkeyAccount : RuleTable := RuleTable.after [.add (externalRule 4)]

end Sample

end LatchApi.Setup
