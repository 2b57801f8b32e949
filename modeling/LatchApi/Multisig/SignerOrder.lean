import LatchApi.Bundler.CheckAuthOnly
import LatchApi.Multisig.PayloadSigners
import LatchApi.Soroban.HostOrder

namespace LatchApi.Multisig

open Lib Soroban Bundler List Option

def InHostOrder (signers : List (ScVal × ScVal)) : Prop :=
  signers.Pairwise fun s t => HostLt s.1 t.1

/-- Of two passkeys of one verifier, the one with the shorter key data has the smaller one. -/
def ShorterIsSmaller (webauthn : List WebauthnApprovalInput) : Prop :=
  ∀ w ∈ webauthn, ∀ w' ∈ webauthn, w.verifierAddress = w'.verifierAddress →
    ∀ keyData keyData', hexDecode (normalizeHex w.keyDataHex) = some keyData →
      hexDecode (normalizeHex w'.keyDataHex) = some keyData' →
      keyData.length < keyData'.length → keyData < keyData'

section Keys

variable {a b : ScAddress} {keyData keyData' : Bytes}

theorem isPlain_of_address {address : String} (h : scAddressFromString address = some a) :
    a.IsPlain := by
  unfold scAddressFromString at h
  split at h
  · obtain ⟨key, -, rfl⟩ := map_eq_some_iff.mp h
    exact .account key
  · obtain ⟨id, -, rfl⟩ := map_eq_some_iff.mp h
    exact .contract id
  · cases h

theorem hostLt_delegatedKey_iff : HostLt (delegatedKey (.address a)) (delegatedKey (.address b)) ↔
      hostCompareAddress a b = .lt := by
  have hname : compareOfLessAndEq (textBytes "Delegated") (textBytes "Delegated") = .eq :=
    compareOfLessAndEq_eq_iff.mpr rfl
  simp only [HostLt, delegatedKey, scVec, scSymbol, hostCompare, hostCompareVec, hname,
    Ordering.then_eq_lt]
  simp

theorem hostLt_externalKey_iff (ha : a.IsPlain) (hb : b.IsPlain) :
    HostLt (externalKey (.address a) keyData) (externalKey (.address b) keyData') ↔
      hostCompareAddress a b = .lt ∨ a = b ∧ keyData < keyData' := by
  have hname : compareOfLessAndEq (textBytes "External") (textBytes "External") = .eq :=
    compareOfLessAndEq_eq_iff.mpr rfl
  simp only [HostLt, externalKey, scVec, scSymbol, scBytes, hostCompare, hostCompareVec, hname,
    Ordering.then_eq_lt, hostCompareAddress_eq_iff ha hb, compareOfLessAndEq_eq_lt]
  simp

theorem hostLt_delegated_external :
    HostLt (delegatedKey (.address a)) (externalKey (.address b) keyData) := by
  have hname : compareOfLessAndEq (textBytes "Delegated") (textBytes "External") = .lt := by
    decide +kernel
  simp only [HostLt, delegatedKey, externalKey, scVec, scSymbol, hostCompare, hostCompareVec, hname]
  rfl

theorem marshal_delegatedKey (a : ScAddress) : marshalScVal (delegatedKey (.address a)) =
    xdrUInt32 16 ++ (xdrUInt32 1 ++ (xdrUInt32 2 ++
      (marshalScVal (.symbol "Delegated") ++ xdrUInt32 18 ++ (marshalAddress a ++ [])))) := by
  simp [delegatedKey, scVec, scSymbol, marshalScVal, marshalScVals, xdrLength]

theorem marshal_externalKey (a : ScAddress) (keyData : Bytes) :
    marshalScVal (externalKey (.address a) keyData) =
      xdrUInt32 16 ++ (xdrUInt32 1 ++ (xdrUInt32 3 ++
        (marshalScVal (.symbol "External") ++ xdrUInt32 18 ++
          (marshalAddress a ++ (xdrUInt32 13 ++ xdrOpaque keyData))))) := by
  simp [externalKey, scVec, scSymbol, scBytes, marshalScVal, marshalScVals, xdrLength]

theorem marshal_delegatedKey_lt_iff (ha : a.IsPlain) (hb : b.IsPlain) :
    marshalScVal (delegatedKey (.address a)) < marshalScVal (delegatedKey (.address b)) ↔
      hostCompareAddress a b = .lt := by
  rw [marshal_delegatedKey, marshal_delegatedKey]
  simp only [append_lt_append_left_iff, marshalAddress_append_lt_iff ha hb, List.lt_irrefl,
    and_false, or_false]

theorem marshal_externalKey_lt_iff (ha : a.IsPlain) (hb : b.IsPlain)
    (hlen : keyData.length ≤ maxOpaqueLength) (hlen' : keyData'.length ≤ maxOpaqueLength) :
    marshalScVal (externalKey (.address a) keyData) <
        marshalScVal (externalKey (.address b) keyData') ↔
      hostCompareAddress a b = .lt ∨ a = b ∧ (keyData.length < keyData'.length ∨
        keyData.length = keyData'.length ∧ keyData < keyData') := by
  have hbound : maxOpaqueLength < 2 ^ 32 := by decide
  rw [marshal_externalKey, marshal_externalKey]
  simp only [append_lt_append_left_iff, marshalAddress_append_lt_iff ha hb]
  rw [xdrOpaque_lt_iff (Nat.lt_of_le_of_lt hlen hbound) (Nat.lt_of_le_of_lt hlen' hbound)]

theorem marshal_delegated_lt_external :
    marshalScVal (delegatedKey (.address a)) < marshalScVal (externalKey (.address b) keyData) := by
  rw [marshal_delegatedKey, marshal_externalKey]
  simp only [append_lt_append_left_iff, xdrUInt32_append_lt_iff]
  exact .inl (by decide)

end Keys

section Sorted

variable {webauthn : List WebauthnApprovalInput} {delegated : List String}
  {signers : List (ScVal × ScVal)}

instance : Std.Total keyOrder where
  total s t := by
    simp only [keyOrder, List.not_lt]
    exact List.le_total _ _

instance : IsTrans (ScVal × ScVal) keyOrder where
  trans s t u hst htu := by
    simp only [keyOrder, List.not_lt] at hst htu ⊢
    exact List.le_trans hst htu

theorem pairwise_keyOrder (h : multisigSigners webauthn delegated = .ok signers) :
    signers.Pairwise keyOrder := by
  obtain ⟨_, _, external, accounts, -, -, -, -, -, -, -, -, rfl⟩ := multisigSigners_eq_ok h
  exact pairwise_insertionSort keyOrder _

theorem hostLt_external_of_keyOrder (hcond : ShorterIsSmaller webauthn)
    {w w' : WebauthnApprovalInput} (hw : w ∈ webauthn) (hw' : w' ∈ webauthn)
    {s t : ScVal × ScVal} (hs : w.signerKey = some s.1) (ht : w'.signerKey = some t.1)
    (hne : s.1 ≠ t.1) (hle : keyOrder s t) : HostLt s.1 t.1 := by
  obtain ⟨a, keyData, ha, hkeyData, hlen, hs⟩ := signerKey_eq_some hs
  obtain ⟨b, keyData', hb, hkeyData', hlen', ht⟩ := signerKey_eq_some ht
  have hplain := isPlain_of_address ha
  have hplain' := isPlain_of_address hb
  rw [keyOrder, hs, ht, marshal_externalKey_lt_iff hplain' hplain hlen' hlen, not_or] at hle
  rw [hs, ht] at hne
  rw [hs, ht, hostLt_externalKey_iff hplain hplain']
  rcases hostCompareAddress_total hplain hplain' with hlt | rfl | hgt
  · exact .inl hlt
  · refine .inr ⟨rfl, ?_⟩
    have hverifier := scAddressFromString_injective ha hb
    rcases Nat.lt_trichotomy keyData.length keyData'.length with hlt | heq | hgt
    · exact hcond w hw w' hw' hverifier keyData keyData' hkeyData hkeyData' hlt
    · by_contra hnlt
      refine hne (congrArg _ (Std.Trichotomous.trichotomous keyData keyData' hnlt ?_))
      intro hgt
      exact hle.2 ⟨rfl, .inr ⟨heq.symm, hgt⟩⟩
    · exact absurd ⟨rfl, .inl hgt⟩ hle.2
  · exact absurd hgt hle.1

section

variable (h : multisigSigners webauthn delegated = .ok signers)

include h

theorem hostLt_of_keyOrder (hcond : ShorterIsSmaller webauthn) {s t : ScVal × ScVal}
    (hs : s ∈ signers) (ht : t ∈ signers) (hne : s.1 ≠ t.1) (hle : keyOrder s t) :
    HostLt s.1 t.1 := by
  rcases origin_of_mem_signers h hs with ⟨w, hw, hs⟩ | ⟨g, -, hs⟩
  · rcases origin_of_mem_signers h ht with ⟨w', hw', ht⟩ | ⟨g', -, ht⟩
    · exact hostLt_external_of_keyOrder hcond hw hw' hs ht hne hle
    obtain ⟨a, keyData, -, -, -, hs⟩ := signerKey_eq_some hs
    obtain ⟨b, -, ht⟩ := delegatedSignerKey_eq_some ht
    rw [keyOrder, hs, ht] at hle
    exact absurd marshal_delegated_lt_external hle
  · obtain ⟨a, ha, hs⟩ := delegatedSignerKey_eq_some hs
    rcases origin_of_mem_signers h ht with ⟨w', -, ht⟩ | ⟨g', -, ht⟩
    · obtain ⟨b, keyData, -, -, -, ht⟩ := signerKey_eq_some ht
      rw [hs, ht]
      exact hostLt_delegated_external
    · obtain ⟨b, hb, ht⟩ := delegatedSignerKey_eq_some ht
      have hplain := isPlain_of_address ha
      have hplain' := isPlain_of_address hb
      rw [keyOrder, hs, ht, marshal_delegatedKey_lt_iff hplain' hplain] at hle
      rw [hs, ht] at hne ⊢
      rw [hostLt_delegatedKey_iff]
      rcases hostCompareAddress_total hplain hplain' with hlt | rfl | hgt
      · exact hlt
      · exact absurd rfl hne
      · exact absurd hgt hle

theorem inHostOrder_of_shorterIsSmaller (hcond : ShorterIsSmaller webauthn) :
    InHostOrder signers := by
  have hnodup : signers.Pairwise fun s t => s.1 ≠ t.1 := pairwise_map.mp (signers_nodup h)
  refine Pairwise.imp_of_mem ?_ ((pairwise_keyOrder h).and hnodup)
  rintro s t hs ht ⟨hle, hne⟩
  exact hostLt_of_keyOrder h hcond hs ht hne hle

theorem shorterIsSmaller_of_inHostOrder (horder : InHostOrder signers) :
    ShorterIsSmaller webauthn := by
  intro w hw w' hw' hverifier keyData keyData' hkeyData hkeyData' hlt
  obtain ⟨s, hs, hsigner⟩ := exists_signer_of_mem h hw
  obtain ⟨t, ht, hsigner'⟩ := exists_signer_of_mem h hw'
  obtain ⟨a, bytes, ha, hbytes, hlen, hskey⟩ := signerKey_eq_some hsigner
  obtain ⟨b, bytes', hb, hbytes', hlen', htkey⟩ := signerKey_eq_some hsigner'
  obtain rfl := some.inj (hkeyData.symm.trans hbytes)
  obtain rfl := some.inj (hkeyData'.symm.trans hbytes')
  obtain rfl : a = b := some.inj ((hverifier ▸ ha).symm.trans hb)
  have hplain := isPlain_of_address ha
  have hmarshal : marshalScVal s.1 < marshalScVal t.1 := by
    rw [hskey, htkey, marshal_externalKey_lt_iff hplain hplain hlen hlen']
    exact .inr ⟨rfl, .inl hlt⟩
  have hne : s ≠ t := by
    rintro rfl
    exact List.lt_irrefl _ hmarshal
  -- the shorter key is encoded before the longer one, so it also comes first in the list
  rcases rel_or_rel_of_pairwise ((pairwise_keyOrder h).and horder) hs ht hne with
    ⟨-, hhost⟩ | ⟨hle, -⟩
  · rw [hskey, htkey, hostLt_externalKey_iff hplain hplain] at hhost
    rcases hhost with hhost | ⟨-, hhost⟩
    · rw [(hostCompareAddress_eq_iff hplain hplain).mpr rfl] at hhost
      cases hhost
    · exact hhost
  · exact absurd hmarshal hle

end

end Sorted

namespace Sample

open Bundler.Sample

def passkeyInput (keyData : Bytes) : WebauthnApprovalInput :=
  ⟨contractText (key 5), hexEncode keyData, ""⟩

theorem keyData_passkeyInput {keyData b : Bytes}
    (h : hexDecode (normalizeHex (passkeyInput keyData).keyDataHex) = some b) : b = keyData := by
  rw [passkeyInput, normalizeHex_hexEncode, hexDecode_hexEncode] at h
  exact (some.inj h).symm

theorem signers_of_passkeys {keyData keyData' : Bytes} (hne : keyData ≠ keyData')
    (hlen : keyData.length ≤ maxOpaqueLength) (hlen' : keyData'.length ≤ maxOpaqueLength) :
    ∃ signers, multisigSigners [passkeyInput keyData, passkeyInput keyData'] [] = .ok signers := by
  have hverifier : scAddress (contractText (key 5)) = some (.address (.contract (key 5))) := by
    have h : scAddressFromString (contractText (key 5)) = some (.contract (key 5)) := by
      decide +kernel
    rw [scAddress, h]
    rfl
  have hempty : hexDecode (normalizeHex "") = some [] := by decide +kernel
  have hentry : ∀ i bytes, bytes.length ≤ maxOpaqueLength → (passkeyInput bytes).signerEntry i =
      .ok (externalKey (.address (.contract (key 5))) bytes, scBytes []) := by
    intro i bytes hbytes
    simp only [WebauthnApprovalInput.signerEntry, passkeyInput, hverifier, normalizeHex_hexEncode,
      hexDecode_hexEncode, hempty, if_neg (Nat.not_lt_of_le hbytes)]
  have hkey : (passkeyInput keyData').dedupKey ∉ [(passkeyInput keyData).dedupKey] := by
    simp only [mem_singleton, WebauthnApprovalInput.dedupKey, passkeyInput,
      normalizeHex_hexEncode]
    intro heq
    have hlist := congrArg String.toList heq
    simp only [String.toList_append, append_cancel_left_eq] at hlist
    exact hne (hexEncode_injective (String.toList_inj.mp hlist)).symm
  rw [multisigSigners, collectSigners, if_neg not_mem_nil, hentry _ _ hlen]
  rw [collectSigners, if_neg hkey, hentry _ _ hlen']
  exact ⟨_, rfl⟩

end Sample

end LatchApi.Multisig
