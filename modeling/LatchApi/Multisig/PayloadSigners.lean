import LatchApi.Lib.Lexicographic
import LatchApi.Multisig.ExecuteAuth

namespace LatchApi.Multisig

open Lib Soroban Bundler List Option

def payloadSigners : ScVal → List (ScVal × ScVal)
  | .map (some entries) =>
    match entries.find? fun e => isSymbol "signers" e.1 with
    | some (_, .map (some signers)) => signers
    | _ => []
  | _ => []

theorem payloadSigners_authPayload (ids : List UInt32) (signers : List (ScVal × ScVal)) :
    payloadSigners (authPayload ids signers) = signers := rfl

variable {out : List (ScVal × ScVal)}

section Collect

variable {ι : Type} {key : ι → String} {entry : Nat → ι → Except PayloadError (ScVal × ScVal)}

/-- The elements whose key is neither `seen` nor the key of one before. -/
def firsts (key : ι → String) (seen : List String) : List ι → List ι
  | [] => []
  | x :: xs => if key x ∈ seen then firsts key seen xs else x :: firsts key (key x :: seen) xs

variable {seen seen' : List String} {xs : List ι} {x : ι}

theorem mem_firsts : x ∈ firsts key seen xs ↔
    ∃ before after, xs = before ++ x :: after ∧ key x ∉ seen ∧ ∀ y ∈ before, key y ≠ key x := by
  induction xs generalizing seen with
  | nil => simp [firsts]
  | cons a xs ih =>
    have hsplit : ∀ P : List ι → Prop, (∃ before after, a :: xs = before ++ x :: after ∧ P before) ↔
        a = x ∧ P [] ∨ ∃ before after, xs = before ++ x :: after ∧ P (a :: before) := by
      intro P
      constructor
      · rintro ⟨_ | ⟨b, before⟩, after, heq, hP⟩ <;> cases heq
        · exact .inl ⟨rfl, hP⟩
        · exact .inr ⟨before, after, rfl, hP⟩
      · rintro (⟨rfl, hP⟩ | ⟨before, after, rfl, hP⟩)
        · exact ⟨[], xs, rfl, hP⟩
        · exact ⟨a :: before, after, rfl, hP⟩
    rw [hsplit, firsts]
    simp only [forall_mem_cons]
    split
    · rw [ih]
      grind
    · rw [mem_cons, ih]
      grind

theorem firsts_sublist : (firsts key seen xs).Sublist xs := by
  induction xs generalizing seen with
  | nil => exact .refl _
  | cons x xs ih =>
    unfold firsts
    split
    · exact ih.cons x
    · exact ih.cons_cons x

theorem nodup_firsts : ((firsts key seen xs).map key).Nodup := by
  induction xs generalizing seen with
  | nil => exact .nil
  | cons x xs ih =>
    unfold firsts
    split
    · exact ih
    · refine nodup_cons.mpr ⟨fun hmem => ?_, ih⟩
      obtain ⟨y, hy, hkey⟩ := mem_map.mp hmem
      obtain ⟨-, -, -, hfresh, -⟩ := mem_firsts.mp hy
      exact hfresh (hkey ▸ mem_cons_self)

theorem exists_first (hx : x ∈ xs) : key x ∈ seen ∨ ∃ y ∈ firsts key seen xs, key y = key x := by
  induction xs generalizing seen with
  | nil => cases hx
  | cons a xs ih =>
    unfold firsts
    rcases mem_cons.mp hx with rfl | hx
    · split
      · exact .inl ‹_›
      · exact .inr ⟨x, mem_cons_self, rfl⟩
    · split
      · exact ih hx
      · rcases @ih (key a :: seen) hx with hmem | ⟨y, hy, hkey⟩
        · rcases mem_cons.mp hmem with hkey | hmem
          · exact .inr ⟨a, mem_cons_self, hkey.symm⟩
          · exact .inl hmem
        · exact .inr ⟨y, mem_cons_of_mem _ hy, hkey⟩

theorem collectSigners_eq_ok {i : Nat} (h : collectSigners key entry i seen xs = .ok (seen', out)) :
    List.Forall₂ (fun x s => ∃ j, entry j x = .ok s) (firsts key seen xs) out ∧
      ∀ k ∈ seen', k ∈ seen ∨ ∃ x ∈ xs, key x = k := by
  induction xs generalizing i seen out with
  | nil =>
    cases h
    exact ⟨.nil, fun k hk => .inl hk⟩
  | cons x xs ih =>
    unfold collectSigners at h
    unfold firsts
    split at h
    · rename_i hseen
      rw [if_pos hseen]
      obtain ⟨hout, hkeys⟩ := ih h
      exact ⟨hout, by grind⟩
    · rename_i hseen
      rw [if_neg hseen]
      split at h
      · cases h
      rename_i signer hsigner
      split at h
      · cases h
      rename_i hrest
      cases h
      obtain ⟨hout, hkeys⟩ := ih hrest
      exact ⟨.cons ⟨i, hsigner⟩ hout, by grind⟩

end Collect

theorem normalizeHex_of_not_prefixed {h : String} (hx : ¬ ['0', 'x'] <+: h.toList) :
    normalizeHex h = toLower h := by
  have htrim : trimHexPrefix h.toList = h.toList := by
    unfold trimHexPrefix
    split
    · rename_i digits hdigits
      exact absurd ⟨digits, hdigits.symm⟩ hx
    · rfl
  rw [normalizeHex, htrim, String.ofList_toList]

theorem not_prefixed_of_not_mem {cs : List Char} (hx : 'x' ∉ cs) : ¬ ['0', 'x'] <+: cs :=
  fun h => hx (h.subset (by simp))

theorem normalizeHex_hexEncode (bs : Bytes) : normalizeHex (hexEncode bs) = hexEncode bs := by
  obtain ⟨hlower, hx⟩ := hexChars_lower bs
  rw [normalizeHex_of_not_prefixed, toLower, hexEncode, String.toList_ofList, hlower]
  rw [hexEncode, String.toList_ofList]
  exact not_prefixed_of_not_mem hx

variable {k : ScVal} {s : ScVal × ScVal}

variable {w w' : WebauthnApprovalInput}

section Keys

def WebauthnApprovalInput.signerKey (w : WebauthnApprovalInput) : Option ScVal :=
  match scAddress w.verifierAddress, hexDecode (normalizeHex w.keyDataHex) with
  | some verifier, some keyData =>
    if maxOpaqueLength < keyData.length then none else some (externalKey verifier keyData)
  | _, _ => none

def delegatedSignerKey (gAddress : String) : Option ScVal := (scAddress gAddress).map delegatedKey

variable {g : String}

theorem signerKey_of_signerEntry {i : Nat}
    (h : w.signerEntry i = .ok s) : w.signerKey = some s.1 := by
  unfold WebauthnApprovalInput.signerEntry at h
  unfold WebauthnApprovalInput.signerKey
  split at h
  · cases h
  rename_i verifier hverifier
  split at h
  · cases h
  rename_i keyData hkeyData
  split at h
  · cases h
  split at h
  · cases h
  rename_i hlength
  cases h
  simp only [hverifier, hkeyData, if_neg hlength]

theorem delegatedSignerKey_of_signerEntry {i : Nat}
    (h : delegatedSignerEntry i g = .ok s) : delegatedSignerKey g = some s.1 := by
  unfold delegatedSignerEntry at h
  split at h
  · cases h
  rename_i address haddress
  cases h
  simp [delegatedSignerKey, haddress]

theorem signerKey_eq_some (h : w.signerKey = some k) :
    ∃ verifier keyData, scAddressFromString w.verifierAddress = some verifier ∧
      hexDecode (normalizeHex w.keyDataHex) = some keyData ∧ keyData.length ≤ maxOpaqueLength ∧
      k = externalKey (.address verifier) keyData := by
  unfold WebauthnApprovalInput.signerKey at h
  split at h
  · rename_i verifier keyData hverifier hkeyData
    split at h
    · cases h
    rename_i hlength
    obtain ⟨address, haddress, rfl⟩ := map_eq_some_iff.mp hverifier
    exact ⟨address, keyData, haddress, hkeyData, Nat.le_of_not_lt hlength,
      (some.inj h).symm⟩
  · cases h

theorem delegatedSignerKey_eq_some (h : delegatedSignerKey g = some k) :
    ∃ signer, scAddressFromString g = some signer ∧ k = delegatedKey (.address signer) := by
  obtain ⟨address, haddress, rfl⟩ := map_eq_some_iff.mp h
  obtain ⟨signer, hsigner, rfl⟩ := map_eq_some_iff.mp haddress
  exact ⟨signer, hsigner, rfl⟩

theorem scAddressFromString_injective {s t : String} {a : ScAddress}
    (hs : scAddressFromString s = some a) (ht : scAddressFromString t = some a) : s = t :=
  some.inj ((addressString_of_text hs).symm.trans (addressString_of_text ht))

theorem dedupKey_of_signerKey (h : w.signerKey = some k) (h' : w'.signerKey = some k) :
    w.dedupKey = w'.dedupKey := by
  obtain ⟨verifier, keyData, hverifier, hkeyData, -, rfl⟩ := signerKey_eq_some h
  obtain ⟨verifier', keyData', hverifier', hkeyData', -, hk⟩ := signerKey_eq_some h'
  simp only [externalKey, scVec, scBytes, ScVal.vec.injEq, some.injEq, cons.injEq,
    ScVal.address.injEq, ScVal.bytes.injEq] at hk
  obtain ⟨-, rfl, rfl, -⟩ := hk
  have hhex : normalizeHex w.keyDataHex = normalizeHex w'.keyDataHex :=
    hexDecode_toLower_injective hkeyData hkeyData'
  rw [WebauthnApprovalInput.dedupKey, WebauthnApprovalInput.dedupKey, hhex,
    scAddressFromString_injective hverifier hverifier']

theorem eq_of_delegatedSignerKey {g' : String} (h : delegatedSignerKey g = some k)
    (h' : delegatedSignerKey g' = some k) : g = g' := by
  obtain ⟨signer, hsigner, rfl⟩ := delegatedSignerKey_eq_some h
  obtain ⟨signer', hsigner', hk⟩ := delegatedSignerKey_eq_some h'
  simp only [delegatedKey, scVec, ScVal.vec.injEq, some.injEq, cons.injEq,
    ScVal.address.injEq] at hk
  obtain ⟨-, rfl, -⟩ := hk
  exact scAddressFromString_injective hsigner hsigner'

theorem signerKey_ne_delegated (h : w.signerKey = some k) : delegatedSignerKey g ≠ some k := by
  obtain ⟨verifier, keyData, -, -, -, rfl⟩ := signerKey_eq_some h
  intro h'
  obtain ⟨signer, -, hk⟩ := delegatedSignerKey_eq_some h'
  simp [externalKey, delegatedKey, scVec] at hk

theorem delegatedDedupKey_injective {g' : String} (h : delegatedDedupKey g = delegatedDedupKey g') :
    g = g' := by
  have hlist := congrArg String.toList h
  simp only [delegatedDedupKey, String.toList_append, append_cancel_left_eq] at hlist
  exact String.toList_inj.mp hlist

theorem dedupKey_ne_delegated (w : WebauthnApprovalInput) (g : String) :
    w.dedupKey ≠ delegatedDedupKey g := by
  intro h
  have hhead := congrArg (fun s => s.toList.head?) h
  simp [WebauthnApprovalInput.dedupKey, delegatedDedupKey] at hhead

end Keys

section Signers

variable {webauthn : List WebauthnApprovalInput} {delegated : List String}
  {signers : List (ScVal × ScVal)}

theorem multisigSigners_eq_ok (h : multisigSigners webauthn delegated = .ok signers) :
    ∃ ws ds external accounts, ws.Sublist webauthn ∧ ds.Sublist delegated ∧
      List.Forall₂ (fun w s => w.signerKey = some s.1) ws external ∧
      List.Forall₂ (fun g s => delegatedSignerKey g = some s.1) ds accounts ∧
      (ws.map WebauthnApprovalInput.dedupKey).Nodup ∧ ds.Nodup ∧
      (∀ w ∈ webauthn, ∃ w' ∈ ws, w'.dedupKey = w.dedupKey) ∧ (∀ g ∈ delegated, g ∈ ds) ∧
      signers = (external ++ accounts).insertionSort keyOrder := by
  obtain ⟨⟨seen, external⟩, hexternal, h⟩ := bind_eq_ok.mp h
  obtain ⟨⟨seen', accounts⟩, haccounts, h⟩ := bind_eq_ok.mp h
  obtain ⟨hws, hseen⟩ := collectSigners_eq_ok hexternal
  obtain ⟨hds, -⟩ := collectSigners_eq_ok haccounts
  refine ⟨_, _, external, accounts, firsts_sublist, firsts_sublist, hws.imp ?_, hds.imp ?_,
    nodup_firsts, nodup_firsts.of_map, ?_, ?_, (Except.ok.inj h).symm⟩
  · rintro w s ⟨j, hj⟩
    exact signerKey_of_signerEntry hj
  · rintro g s ⟨j, hj⟩
    exact delegatedSignerKey_of_signerEntry hj
  · intro w hw
    exact (exists_first hw).resolve_left not_mem_nil
  · intro g hg
    rcases exists_first hg with hmem | ⟨g', hg', hkey⟩
    · rcases hseen _ hmem with hmem | ⟨w, -, hkey⟩
      · cases hmem
      · exact absurd hkey (dedupKey_ne_delegated w g)
    · rw [← delegatedDedupKey_injective hkey]
      exact hg'

theorem nodup_of_forall₂ {ι κ : Type} {f : ι → κ} {key : ι → Option ScVal} {xs : List ι}
    (h : List.Forall₂ (fun x s => key x = some s.1) xs out)
    (hkey : ∀ x y k, key x = some k → key y = some k → f x = f y) (hnodup : (xs.map f).Nodup) :
    (out.map Prod.fst).Nodup := by
  induction h with
  | nil => exact nodup_nil
  | @cons x s xs out hx hxs ih =>
    rw [map_cons, nodup_cons] at hnodup ⊢
    refine ⟨fun hmem => hnodup.1 ?_, ih hnodup.2⟩
    obtain ⟨s', hs', hfst⟩ := mem_map.mp hmem
    obtain ⟨y, hy, hkey'⟩ := exists_of_forall₂ hxs.flip hs'
    rw [hkey x y s.1 hx (hfst ▸ hkey')]
    exact mem_map_of_mem hy

theorem signers_nodup (h : multisigSigners webauthn delegated = .ok signers) :
    (signers.map Prod.fst).Nodup := by
  obtain ⟨ws, ds, external, accounts, -, -, hws, hds, hws_nodup, hds_nodup, -, -, rfl⟩ :=
    multisigSigners_eq_ok h
  have hperm := (perm_insertionSort keyOrder (external ++ accounts)).map Prod.fst
  rw [hperm.nodup_iff, map_append, nodup_append]
  refine ⟨nodup_of_forall₂ hws (fun _ _ _ => dedupKey_of_signerKey) hws_nodup, ?_, ?_⟩
  · refine nodup_of_forall₂ (f := id) hds (fun _ _ _ => eq_of_delegatedSignerKey) ?_
    rw [List.map_id]
    exact hds_nodup
  · rintro k hk _ hk' rfl
    obtain ⟨s, hs, rfl⟩ := mem_map.mp hk
    obtain ⟨s', hs', hfst⟩ := mem_map.mp hk'
    obtain ⟨w, -, hw⟩ := exists_of_forall₂ hws.flip hs
    obtain ⟨g, -, hg⟩ := exists_of_forall₂ hds.flip hs'
    rw [hfst] at hg
    exact signerKey_ne_delegated hw hg

theorem origin_of_mem_signers (h : multisigSigners webauthn delegated = .ok signers)
    (hs : s ∈ signers) :
    (∃ w ∈ webauthn, w.signerKey = some s.1) ∨ ∃ g ∈ delegated, delegatedSignerKey g = some s.1 := by
  obtain ⟨ws, ds, external, accounts, hws_sub, hds_sub, hws, hds, -, -, -, -, rfl⟩ :=
    multisigSigners_eq_ok h
  rw [mem_insertionSort] at hs
  rcases mem_append.mp hs with hs | hs
  · obtain ⟨w, hw, hkey⟩ := exists_of_forall₂ hws.flip hs
    exact .inl ⟨w, hws_sub.subset hw, hkey⟩
  · obtain ⟨g, hg, hkey⟩ := exists_of_forall₂ hds.flip hs
    exact .inr ⟨g, hds_sub.subset hg, hkey⟩

theorem verifier_keyData_of_dedupKey (h : w'.signerKey = some k) (hkey : w'.dedupKey = w.dedupKey) :
    w.verifierAddress = w'.verifierAddress ∧
      normalizeHex w.keyDataHex = normalizeHex w'.keyDataHex := by
  obtain ⟨verifier, keyData, hverifier, hkeyData, -, -⟩ := signerKey_eq_some h
  have hlist := congrArg String.toList hkey.symm
  simp only [WebauthnApprovalInput.dedupKey, String.toList_append, append_assoc,
    append_cancel_left_eq] at hlist
  have hcolon : ':' ∉ (normalizeHex w'.keyDataHex).toList :=
    not_mem_of_hexDecode hkeyData mem_cons_self (by decide)
  obtain ⟨hv, -, hd⟩ := (append_cons_inj_of_notMem (colon_not_mem_of_address hverifier)
    hcolon).mp hlist.symm
  exact ⟨String.toList_inj.mp hv.symm, String.toList_inj.mp hd.symm⟩

theorem signerKey_of_dedupKey (h : w'.signerKey = some k) (hkey : w'.dedupKey = w.dedupKey) :
    w.signerKey = some k := by
  obtain ⟨hverifier, hkeyData⟩ := verifier_keyData_of_dedupKey h hkey
  rw [← h, WebauthnApprovalInput.signerKey, WebauthnApprovalInput.signerKey, hverifier, hkeyData]

theorem exists_signer_of_mem (h : multisigSigners webauthn delegated = .ok signers)
    (hw : w ∈ webauthn) : ∃ s ∈ signers, w.signerKey = some s.1 := by
  obtain ⟨ws, ds, external, accounts, -, -, hws, -, -, -, hcover, -, rfl⟩ := multisigSigners_eq_ok h
  obtain ⟨w', hw', hkey⟩ := hcover w hw
  obtain ⟨s, hs, hsigner⟩ := exists_of_forall₂ hws hw'
  refine ⟨s, ?_, signerKey_of_dedupKey hsigner hkey⟩
  rw [mem_insertionSort]
  exact mem_append_left _ hs

theorem signers_length_iff (h : multisigSigners webauthn delegated = .ok signers) :
    signers.length = webauthn.length + delegated.length ↔
      (webauthn.map WebauthnApprovalInput.dedupKey).Nodup ∧ delegated.Nodup := by
  obtain ⟨ws, ds, external, accounts, hws_sub, hds_sub, hws, hds, hws_nodup, hds_nodup, hws_cover,
    hds_cover, rfl⟩ := multisigSigners_eq_ok h
  have hlength : ((external ++ accounts).insertionSort keyOrder).length = ws.length + ds.length := by
    rw [length_insertionSort, length_append, hws.length_eq, hds.length_eq]
  have hws_le := hws_sub.length_le
  have hds_le := hds_sub.length_le
  rw [hlength]
  constructor
  · intro hsum
    rw [← hws_sub.eq_of_length (by omega), ← hds_sub.eq_of_length (by omega)]
    exact ⟨hws_nodup, hds_nodup⟩
  · rintro ⟨hw, hd⟩
    have hw_le : webauthn.length ≤ ws.length := by
      have hsubset : webauthn.map WebauthnApprovalInput.dedupKey ⊆
          ws.map WebauthnApprovalInput.dedupKey := by
        intro k hk
        obtain ⟨w, hw, rfl⟩ := mem_map.mp hk
        obtain ⟨w', hw', hkey⟩ := hws_cover w hw
        exact mem_map.mpr ⟨w', hw', hkey⟩
      simpa using (subperm_of_subset hw hsubset).length_le
    have hd_le : delegated.length ≤ ds.length := (subperm_of_subset hd hds_cover).length_le
    omega

end Signers

end LatchApi.Multisig
