import LatchApi.Rules.Complete

namespace LatchApi.Rules

open Lib Program Soroban Bundler List Option
open Multisig (ContextRuleDiscovery)

variable {r : ContextRuleSummary} {id : UInt32}

section Signers

def Lists (verifier keyHex : String) (r : ContextRuleSummary) : Prop :=
  ∃ keyData, .external verifier keyData ∈ r.signers ∧ toLower keyData = toLower keyHex

def ListedOnChain (rule : ScVal) (verifier : String) (key : Bytes) : Prop :=
  ∃ signers, scMapGet rule "signers" = some (.vec (some signers)) ∧ ∃ address rest,
    addressString address = some verifier ∧
    .vec (some (.symbol "External" :: .address address :: .bytes key :: rest)) ∈ signers

variable {verifier keyHex : String}

theorem exact_iff_lists :
    ruleHasExactExternalSigner r verifier keyHex = true ↔ Lists verifier keyHex r := by
  unfold ruleHasExactExternalSigner Lists
  rw [List.any_eq_true]
  constructor
  · rintro ⟨s, hs, hmatch⟩
    cases s with
    | external verifier' keyData =>
      simp only [equalFold, Bool.and_eq_true, beq_iff_eq] at hmatch
      obtain ⟨rfl, hfold⟩ := hmatch
      exact ⟨keyData, hs, hfold⟩
    | _ => cases hmatch
  · rintro ⟨keyData, hs, hfold⟩
    exact ⟨_, hs, by simp [equalFold, hfold]⟩

theorem addressText_eq {value : ScVal} (hverifier : verifier ≠ "")
    (h : (scValToAddressString value).getD "" = verifier) :
    ∃ address, value = .address address ∧ addressString address = some verifier := by
  cases value with
  | address address =>
    refine ⟨address, rfl, ?_⟩
    cases htext : addressString address with
    | none =>
      rw [scValToAddressString, htext] at h
      exact absurd h.symm hverifier
    | some text =>
      rw [scValToAddressString, htext] at h
      exact congrArg some h
  | _ => exact absurd h.symm hverifier

theorem keyDataHexOf_eq {value : ScVal} (hkey : keyHex ≠ "")
    (h : toLower (keyDataHexOf value) = toLower keyHex) :
    ∃ key, value = .bytes key ∧ hexDecode keyHex = some key := by
  cases value with
  | bytes key => exact ⟨key, rfl, toLower_hexEncode_iff.mp h⟩
  | _ =>
    exfalso
    apply hkey
    have hlist := congrArg String.toList h
    simpa [toLower, keyDataHexOf] using hlist

theorem mem_signers_iff {rule : ScVal} {s : ContextRuleSigner} :
    s ∈ (parseContextRuleSummary id rule).signers ↔ ∃ signers,
      scMapGet rule "signers" = some (.vec (some signers)) ∧
      ∃ signer ∈ signers, parseContextRuleSigner signer = s := by
  have hsigners : (parseContextRuleSummary id rule).signers =
    ((scMapGet rule "signers").map ruleSigners).getD [] := rfl
  constructor
  · intro h
    cases hget : scMapGet rule "signers" with
    | none => simp [hsigners, hget] at h
    | some value =>
      rw [hsigners, hget, map_some, getD_some] at h
      unfold ruleSigners at h
      split at h
      · rename_i signers
        exact ⟨signers, rfl, mem_map.mp h⟩
      · cases h
  · rintro ⟨signers, hget, h⟩
    rw [hsigners, hget]
    exact mem_map.mpr h

theorem lists_iff_onChain (hverifier : verifier ≠ "") (hkey : keyHex ≠ "") {rule : ScVal} :
    Lists verifier keyHex (parseContextRuleSummary id rule) ↔
      ∃ key, hexDecode keyHex = some key ∧ ListedOnChain rule verifier key := by
  constructor
  · rintro ⟨keyData, hmem, hfold⟩
    obtain ⟨signers, hget, signer, hsigner, hparse⟩ := mem_signers_iff.mp hmem
    unfold parseContextRuleSigner at hparse
    split at hparse
    · rename_i verifierVal keyVal rest
      obtain ⟨hv, rfl⟩ := ContextRuleSigner.external.inj hparse
      obtain ⟨address, rfl, haddress⟩ := addressText_eq hverifier hv
      obtain ⟨key, rfl, hdecode⟩ := keyDataHexOf_eq hkey hfold
      exact ⟨key, hdecode, signers, hget, address, rest, haddress, hsigner⟩
    · cases hparse
    · cases hparse
  · rintro ⟨key, hdecode, signers, hget, address, rest, haddress, hsigner⟩
    refine ⟨hexEncode key, ?_, toLower_hexEncode_iff.mpr hdecode⟩
    refine mem_signers_iff.mpr ⟨signers, hget, _, hsigner, ?_⟩
    simp only [parseContextRuleSigner, scValToAddressString, haddress, getD_some, keyDataHexOf]

end Signers

namespace RuleTable

variable (t : RuleTable)

def Scanned (P : ContextRuleSummary → Prop) (id : UInt32) : Prop := id.toNat < t.limit ∧ t.Live P id

def Lowest (P : ContextRuleSummary → Prop) (id : UInt32) : Prop :=
  t.Scanned P id ∧ ∀ id', t.Scanned P id' → id ≤ id'

section Order

variable {t} {P : ContextRuleSummary → Prop} {p : ContextRuleSummary → Bool}

theorem scanned_iff : t.Scanned P id ↔ ∃ r ∈ t.scanned, r.id = id ∧ P r := by
  constructor
  · rintro ⟨hlt, rule, hrule, hP⟩
    exact ⟨_, mem_scanned.mpr ⟨hlt, rule, hrule, rfl⟩, rfl, hP⟩
  · rintro ⟨r, hr, rfl, hP⟩
    exact ⟨(mem_scanned.mp hr).1, (live_of_scanned hr hP).2⟩

theorem window_ordered {n : Nat} (hn : id.toNat + n ≤ maxContextRuleScan.toNat) :
    (t.window n id).Pairwise fun r r' => r.id ≤ r'.id := by
  induction n generalizing id with
  | zero => exact Pairwise.nil
  | succ n ih =>
    have hnext := toNat_succ_of_window hn
    have hrest : (id + 1).toNat + n ≤ maxContextRuleScan.toNat := by omega
    rw [window, pairwise_append]
    refine ⟨?_, ih hrest, fun r hr r' hr' => ?_⟩
    · cases t.rule id.toNat <;> simp
    obtain ⟨rule, -, rfl⟩ := map_eq_some_iff.mp (mem_toList.mp hr)
    have hid := ((mem_window hrest).mp hr').1.1
    rw [UInt32.le_iff_toNat_le]
    change id.toNat ≤ r'.id.toNat
    omega

theorem lowest_of_find (hp : ∀ r, p r = true ↔ P r) (hfind : t.scanned.find? p = some r) :
    t.Lowest P r.id := by
  have hordered := window_ordered (t := t) t.limit_le
  obtain ⟨hpr, before, others, hsplit, hbefore⟩ := find?_eq_some_iff_append.mp hfind
  have hr : r ∈ t.scanned := mem_of_find?_eq_some hfind
  refine ⟨scanned_iff.mpr ⟨r, hr, rfl, (hp r).mp hpr⟩, fun id' hid' => ?_⟩
  obtain ⟨r', hr', rfl, hP⟩ := scanned_iff.mp hid'
  change t.scanned.Pairwise _ at hordered
  rw [hsplit, pairwise_append, pairwise_cons] at hordered
  rw [hsplit, mem_append, mem_cons] at hr'
  rcases hr' with hmem | rfl | hmem
  · have hnot := hbefore r' hmem
    rw [(hp r').mpr hP] at hnot
    cases hnot
  · exact UInt32.le_refl _
  · exact hordered.2.1.1 r' hmem

theorem not_scanned_of_find (hp : ∀ r, p r = true ↔ P r) (hfind : t.scanned.find? p = none)
    (id : UInt32) : ¬ t.Scanned P id := by
  intro hid
  obtain ⟨r, hr, -, hP⟩ := scanned_iff.mp hid
  exact find?_eq_none.mp hfind r hr ((hp r).mpr hP)

end Order

end RuleTable

variable {how : ContextRuleDiscovery}

section Search

def CallsOf (target : String) (r : ContextRuleSummary) : Prop :=
  target ≠ "" ∧ r.callContractAddress = target

variable (t : RuleTable) (verifier keyHex target : String) (r : ContextRuleSummary)

def signerRule : Option (UInt32 × ContextRuleDiscovery) :=
  match t.scanned.find? fun r => ruleHasExactExternalSigner r verifier keyHex &&
      decide (target ≠ "" ∧ r.callContractAddress = target) with
  | some r => some (r.id, .matched)
  | none => (t.scanned.find? fun r => ruleHasExactExternalSigner r verifier keyHex &&
      r.isDefault).map fun r => (r.id, .default)

theorem result_signerRule : t.result (findRuleForSigner verifier keyHex target) =
    .ok (signerRule t verifier keyHex target) := by
  refine t.result_scanRules_bind ?_
  rw [RuleTable.visitAll_signer, signerRule]
  cases t.scanned.find? fun r => ruleHasExactExternalSigner r verifier keyHex &&
      decide (target ≠ "" ∧ r.callContractAddress = target) with
  | some r => rfl
  | none =>
    cases t.scanned.find? fun r => ruleHasExactExternalSigner r verifier keyHex && r.isDefault <;> rfl

theorem calls_iff : (ruleHasExactExternalSigner r verifier keyHex &&
    decide (target ≠ "" ∧ r.callContractAddress = target)) = true ↔
      Lists verifier keyHex r ∧ CallsOf target r := by
  rw [Bool.and_eq_true, decide_eq_true_eq, exact_iff_lists]
  rfl

theorem default_iff : (ruleHasExactExternalSigner r verifier keyHex && r.isDefault) = true ↔
      Lists verifier keyHex r ∧ r.isDefault = true := by
  rw [Bool.and_eq_true, exact_iff_lists]

variable {t verifier keyHex target}

theorem signerRule_eq_some (h : signerRule t verifier keyHex target = some (id, how)) :
    how = .matched ∧ t.Lowest (fun r => Lists verifier keyHex r ∧ CallsOf target r) id ∨
    how = .default ∧ (∀ id', ¬ t.Scanned (fun r => Lists verifier keyHex r ∧ CallsOf target r) id') ∧
      t.Lowest (fun r => Lists verifier keyHex r ∧ r.isDefault = true) id := by
  unfold signerRule at h
  split at h
  · rename_i r hfind
    cases h
    exact .inl ⟨rfl, RuleTable.lowest_of_find (calls_iff verifier keyHex target) hfind⟩
  · rename_i hnone
    obtain ⟨r, hfind, hr⟩ := map_eq_some_iff.mp h
    cases hr
    exact .inr ⟨rfl, RuleTable.not_scanned_of_find (calls_iff verifier keyHex target) hnone,
      RuleTable.lowest_of_find (default_iff verifier keyHex) hfind⟩

theorem signerRule_eq_none (h : signerRule t verifier keyHex target = none) (id : UInt32) :
    ¬ t.Scanned (fun r => Lists verifier keyHex r ∧ (CallsOf target r ∨ r.isDefault = true)) id := by
  intro hid
  obtain ⟨r, hr, -, hlists, hkind⟩ := RuleTable.scanned_iff.mp hid
  unfold signerRule at h
  split at h
  · cases h
  rename_i hnone
  have hdefault := map_eq_none_iff.mp h
  rcases hkind with hcalls | hkind
  · exact find?_eq_none.mp hnone r hr ((calls_iff verifier keyHex target r).mpr ⟨hlists, hcalls⟩)
  · exact find?_eq_none.mp hdefault r hr ((default_iff verifier keyHex r).mpr ⟨hlists, hkind⟩)

theorem exists_of_signerRule (h : signerRule t verifier keyHex target = some (id, how)) :
    t.Scanned (fun r => Lists verifier keyHex r ∧ (CallsOf target r ∨ r.isDefault = true)) id := by
  rcases signerRule_eq_some h with ⟨-, ⟨hlt, hlive⟩, -⟩ | ⟨-, -, ⟨hlt, hlive⟩, -⟩
  · obtain ⟨rule, hrule, hlists, hcalls⟩ := hlive
    exact ⟨hlt, rule, hrule, hlists, .inl hcalls⟩
  · obtain ⟨rule, hrule, hlists, hdefault⟩ := hlive
    exact ⟨hlt, rule, hrule, hlists, .inr hdefault⟩

end Search

/-- The search succeeds exactly if a scanned rule of the contract or a scanned default rule lists the
key, and returns the lowest of the first kind, else of the second, and which it is. -/
theorem findRuleForSigner_exact (t : RuleTable) (verifier keyHex target : String) :
    (∃ found, t.result (findRuleForSigner verifier keyHex target) = .ok found ∧
      (found.isSome ↔ ∃ id, t.Scanned (fun r => Lists verifier keyHex r ∧
        (CallsOf target r ∨ r.isDefault = true)) id) ∧
      ∀ id how, found = some (id, how) →
        how = .matched ∧ t.Lowest (fun r => Lists verifier keyHex r ∧ CallsOf target r) id ∨
        how = .default ∧
          (∀ id', ¬ t.Scanned (fun r => Lists verifier keyHex r ∧ CallsOf target r) id') ∧
          t.Lowest (fun r => Lists verifier keyHex r ∧ r.isDefault = true) id) ∧
    (verifier ≠ "" → keyHex ≠ "" → ∀ id rule,
      Lists verifier keyHex (parseContextRuleSummary id rule) ↔
        ∃ key, hexDecode keyHex = some key ∧ ListedOnChain rule verifier key) := by
  refine ⟨⟨signerRule t verifier keyHex target, result_signerRule t verifier keyHex target, ?_, ?_⟩,
    fun hverifier hkey _ _ => lists_iff_onChain hverifier hkey⟩
  · rw [isSome_iff_exists]
    constructor
    · rintro ⟨⟨id, how⟩, hfound⟩
      exact ⟨id, exists_of_signerRule hfound⟩
    rintro ⟨id, hid⟩
    refine ne_none_iff_exists'.mp fun hnone => ?_
    exact signerRule_eq_none hnone id hid
  · exact fun id how hfound => signerRule_eq_some hfound

end LatchApi.Rules
