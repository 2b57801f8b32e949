import LatchApi.Draft.Members

namespace LatchApi.Factory

open Lib Soroban Multisig Draft List Option

section Identities

abbrev SignerIdentity := MultisigSignerKind × String

def identityVal (identity : SignerIdentity) (i : Nat) : Except ParamsError ScVal :=
  MultisigSignerInit.signerVal ⟨identity.1, identity.2, identity.2, ""⟩ i

theorem decodeKeyData_lower (i : Nat) (keyDataHex : String) :
    decodeKeyData i (toLower keyDataHex) = decodeKeyData i keyDataHex := by
  rw [decodeKeyData, hexDecode_lower]
  rfl

theorem signerVal_eq_identityVal (s : MultisigSignerInit) (i : Nat) :
    s.signerVal i = identityVal s.identity i := by
  obtain ⟨type, keyDataHex, gAddress, label⟩ := s
  cases type with
  | delegated => rfl
  | unsupported name => rfl
  | _ => exact congrArg (· >>= _) (decodeKeyData_lower i keyDataHex).symm

theorem build_of_identities {signers signers' : List MultisigSignerInit}
    (h : signers.map MultisigSignerInit.identity = signers'.map MultisigSignerInit.identity)
    (threshold : UInt32) (salt : Bytes) : buildMultisigAccountInitParams threshold salt signers =
      buildMultisigAccountInitParams threshold salt signers' := by
  have hvals : ∀ signers : List MultisigSignerInit,
      (signers.zipIdx.mapM fun p => p.1.signerVal p.2) =
        (signers.map MultisigSignerInit.identity).zipIdx.mapM fun p => identityVal p.1 p.2 := by
    intro signers
    simp only [zipIdx_map, mapM_map, signerVal_eq_identityVal]
    rfl
  simp only [buildMultisigAccountInitParams, hvals, h]

def identityKey (i : SignerIdentity) : String :=
  if i.1 = .delegated then "0:delegated:" ++ i.2 else "1:webauthn:" ++ i.2

def Sortable (i : SignerIdentity) : Prop := i.1 = .delegated ∨ i.1 = .webauthn

theorem identityKey_injective {i i' : SignerIdentity} (hi : Sortable i) (hi' : Sortable i')
    (h : identityKey i = identityKey i') : i = i' := by
  obtain ⟨kind, text⟩ := i
  obtain ⟨kind', text'⟩ := i'
  have hne : ∀ t t' : String, "0:delegated:" ++ t ≠ "1:webauthn:" ++ t' := by
    intro t t' heq
    have hchars := congrArg String.toList heq
    simp at hchars
  rcases hi with rfl | rfl <;> rcases hi' with rfl | rfl
  · exact congrArg _ ((String.append_right_inj _).mp h)
  · exact absurd h (hne _ _)
  · exact absurd h.symm (hne _ _)
  · exact congrArg _ ((String.append_right_inj _).mp h)

def Sorted (identities : List SignerIdentity) : Prop :=
  identities.Pairwise fun i i' => identityKey i ≤ identityKey i'

theorem Sorted.eq {xs ys : List SignerIdentity} (hxs : Sorted xs) (hys : Sorted ys)
    (hperm : xs.Perm ys) (hkind : ∀ i ∈ xs, Sortable i) : xs = ys := by
  refine hperm.eq_of_pairwise (fun i i' hi hi' h h' => ?_) hxs hys
  exact identityKey_injective (hkind i hi) (hkind i' (hperm.mem_iff.mpr hi')) (String.le_antisymm h h')

end Identities

variable {m : DraftMultisigMember}

section Sorting

instance : Std.Total keyLE where
  total a b := String.le_total (signerInitSortKey a) (signerInitSortKey b)

instance : IsTrans MultisigSignerInit keyLE where
  trans _ _ _ hab hbc := String.le_trans hab hbc

variable {signers : List MultisigSignerInit}

theorem perm_canonicalize (signers : List MultisigSignerInit) :
    (canonicalizeSignerInits signers).Perm signers := perm_insertionSort _ _

theorem sorted_canonicalize
    (hkey : ∀ s ∈ signers, signerInitSortKey s = identityKey s.identity) :
    Sorted ((canonicalizeSignerInits signers).map MultisigSignerInit.identity) := by
  refine pairwise_map.mpr ((pairwise_insertionSort keyLE signers).imp_of_mem ?_)
  intro s s' hs hs' hle
  rw [← hkey s ((perm_canonicalize signers).mem_iff.mp hs),
    ← hkey s' ((perm_canonicalize signers).mem_iff.mp hs')]
  exact hle

def memberIdentity (m : DraftMultisigMember) : Option SignerIdentity :=
  match m.kind with
  | .delegated => some (.delegated, m.gAddress)
  | .webauthn => some (.webauthn, normalizeHex m.keyDataHex)
  | _ => none

theorem identity_factoryEntry (m : DraftMultisigMember) :
    (factoryEntry m).map (fun e => e.2.identity) = memberIdentity m := by
  unfold factoryEntry memberIdentity
  cases m.kind with
  | webauthn => exact congrArg (fun t => some (Deploy.KeyType.webauthn, t)) (toLower_toLower _)
  | _ => rfl

theorem key_factoryEntry {e : String × MultisigSignerInit} (h : factoryEntry m = some e) :
    e.1 = identityKey e.2.identity := by
  unfold factoryEntry at h
  cases hkind : m.kind <;> simp only [hkind] at h <;> cases h
  case webauthn => exact congrArg ("1:webauthn:" ++ ·) (toLower_toLower _).symm
  case delegated => rfl

theorem perm_draftMembers (members : List DraftMultisigMember) :
    ((draftMembersToFactorySigners members).map MultisigSignerInit.identity).Perm
      (members.filterMap memberIdentity) := by
  have hperm := (perm_insertionSort entryLE (members.filterMap factoryEntry)).map
    fun e => e.2.identity
  rw [map_filterMap, funext identity_factoryEntry] at hperm
  rw [draftMembersToFactorySigners, List.map_map]
  exact hperm

theorem sortable_memberIdentity {i : SignerIdentity} (h : memberIdentity m = some i) :
    Sortable i := by
  unfold memberIdentity at h
  split at h
  · exact .inl (some.inj h ▸ rfl)
  · exact .inr (some.inj h ▸ rfl)
  · cases h

theorem sorted_draftMembers (members : List DraftMultisigMember) :
    Sorted ((draftMembersToFactorySigners members).map MultisigSignerInit.identity) := by
  rw [draftMembersToFactorySigners, List.map_map]
  refine pairwise_map.mpr ((pairwise_insertionSort entryLE _).imp_of_mem ?_)
  intro e e' he he' hle
  obtain ⟨m, -, hm⟩ := mem_filterMap.mp ((mem_insertionSort _).mp he)
  obtain ⟨m', -, hm'⟩ := mem_filterMap.mp ((mem_insertionSort _).mp he')
  change identityKey e.2.identity ≤ identityKey e'.2.identity
  rw [← key_factoryEntry hm, ← key_factoryEntry hm']
  exact hle

theorem draftMembers_of_perm {members members' : List DraftMultisigMember}
    (h : members.Perm members') :
    (draftMembersToFactorySigners members).map MultisigSignerInit.identity =
      (draftMembersToFactorySigners members').map MultisigSignerInit.identity := by
  have hperm := perm_draftMembers members
  have hperm' := (h.filterMap memberIdentity).trans (perm_draftMembers members').symm
  refine (sorted_draftMembers members).eq (sorted_draftMembers members') (hperm.trans hperm') ?_
  intro i hi
  obtain ⟨m, -, hm⟩ := mem_filterMap.mp (hperm.mem_iff.mp hi)
  exact sortable_memberIdentity hm

end Sorting

variable {s : MultisigSignerInit}

section Accepted

def MultisigSignerInit.Prefixed (s : MultisigSignerInit) : Prop :=
  s.type = .webauthn ∧ ['0', 'x'] <+: s.keyDataHex.toList

def MultisigSignerInit.HasAccount (s : MultisigSignerInit) : Prop :=
  s.type = .delegated → ∃ key, strkeyDecode versionAccount s.gAddress = some key ∧ key.length = 32

theorem sortable_of_valid (h : validateSignerInit s = "") : Sortable s.identity := by
  obtain ⟨type, keyDataHex, gAddress, label⟩ := s
  cases type with
  | delegated => exact .inl rfl
  | webauthn => exact .inr rfl
  | _ =>
    have hchars := congrArg String.toList h
    simp [validateSignerInit] at hchars

theorem sortKey_of_decoded (h : s.type = .delegated ∨ ∃ keyData, hexDecode s.keyDataHex = some keyData) :
    signerInitSortKey s = identityKey s.identity := by
  unfold signerInitSortKey identityKey MultisigSignerInit.identity
  by_cases hdelegated : s.type = .delegated
  · simp only [hdelegated, if_true]
  · obtain ⟨keyData, hdecode⟩ := h.resolve_left hdelegated
    simp only [hdelegated, if_false, normalizeHex_of_hexDecode hdecode]

theorem decoded_of_valid (h : validateSignerInit s = "") (hplain : ¬ s.Prefixed) :
    s.type = .delegated ∨ ∃ keyData, hexDecode s.keyDataHex = some keyData := by
  refine (sortable_of_valid h).imp id fun htype => ?_
  have hne := keyDataHex_ne_of_valid htype h
  have hlower := normalizeHex_of_not_prefixed fun hx => hplain ⟨htype, hx⟩
  simp only [validateSignerInit, show s.type = .webauthn from htype, if_neg hne] at h
  split at h
  · rename_i hkey
    simp only [isValidWebauthnKeyDataHex, Bool.and_eq_true, hlower, hexDecode_lower] at hkey
    exact isSome_iff_exists.mp hkey.2
  · exact absurd h (by decide)

theorem value_of_valid (h : validateSignerInit s = "") (hplain : ¬ s.Prefixed)
    (haccount : s.HasAccount) : ∃ v, s.value = some v := by
  rcases sortable_of_valid h with htype | htype
  · obtain ⟨key, hkey, hlength⟩ := haccount htype
    have haddress : accountIDFromAddress s.gAddress = some ⟨key, hlength⟩ := by
      rw [accountIDFromAddress, hkey, bind_some, hashOf, dif_pos hlength]
    refine ⟨delegatedInit (.address (.account ⟨key, hlength⟩)), ?_⟩
    simp only [MultisigSignerInit.value, show s.type = .delegated from htype, scAddress,
      scAddressFromString_of_account haddress]
    rfl
  · have hother : s.type ≠ .delegated := by simp [show s.type = .webauthn from htype]
    obtain ⟨keyData, hdecode⟩ := (decoded_of_valid h hplain).resolve_left hother
    refine ⟨externalInit "WebAuthn" keyData, ?_⟩
    simp only [MultisigSignerInit.value, show s.type = .webauthn from htype, hdecode]
    rfl

theorem not_prefixed_of_value {v : ScVal} (h : s.value = some v) : ¬ s.Prefixed := by
  rintro ⟨htype, digits, hdigits⟩
  obtain ⟨-, keyData, hdecode, -⟩ := value_eq_external (by simp [htype]) h
  refine not_mem_of_hexDecode hdecode (c := 'x') (b := 120) (by decide) (by decide) ?_
  rw [← hdigits]
  simp

theorem gAddress_of_valid (htype : s.type = .delegated) (h : validateSignerInit s = "") :
    ∃ key, strkeyDecode versionAccount s.gAddress = some key := by
  simp only [validateSignerInit, htype, if_neg (gAddress_ne_of_valid htype h)] at h
  split at h
  · rename_i hkey
    exact isSome_iff_exists.mp hkey
  · exact absurd h (by decide)

theorem hasAccount_of_value {v : ScVal} (hvalid : validateSignerInit s = "")
    (h : s.value = some v) : s.HasAccount := by
  intro htype
  obtain ⟨address, haddress, -⟩ := value_eq_delegated htype h
  obtain ⟨key, hkey⟩ := gAddress_of_valid htype hvalid
  rw [scAddressFromString, head_of_strkeyDecode hkey] at haddress
  obtain ⟨hash, hhash, -⟩ := map_eq_some_iff.mp haddress
  rw [accountIDFromAddress, hkey] at hhash
  exact ⟨key, hkey, val_of_hashOf hhash ▸ hash.property⟩

end Accepted

variable {s' : MultisigSignerInit}

section Canonical

theorem exists_build {signers : List MultisigSignerInit}
    (h : ∀ s ∈ signers, ∃ v, s.value = some v) (threshold : UInt32) (salt : Bytes) :
    ∃ params, buildMultisigAccountInitParams threshold salt signers = .ok params := by
  have hvals : ∀ p ∈ signers.zipIdx, ∃ v, p.1.signerVal p.2 = .ok v := by
    intro p hp
    obtain ⟨v, hv⟩ := h p.1 (fst_mem_of_mem_zipIdx hp)
    exact ⟨v, value_of_signerVal.mpr hv⟩
  obtain ⟨vals, hvals⟩ := exists_mapM_eq_ok hvals
  exact ⟨_, bind_eq_ok.mpr ⟨vals, hvals, rfl⟩⟩

theorem decoded_of_identity (hsame : s'.identity = s.identity)
    (h : s.type = .delegated ∨ ∃ keyData, hexDecode s.keyDataHex = some keyData) :
    s'.type = .delegated ∨ ∃ keyData, hexDecode s'.keyDataHex = some keyData := by
  obtain ⟨htype, htext⟩ := Prod.mk.inj hsame
  by_cases hdelegated : s.type = .delegated
  · exact .inl (htype.trans hdelegated)
  obtain ⟨keyData, hdecode⟩ := h.resolve_left hdelegated
  simp only [htype, hdelegated, if_false] at htext
  refine .inr ⟨keyData, ?_⟩
  rw [← hexDecode_lower, htext, hexDecode_lower, hdecode]

/-- One set of signers has one set of parameters: however its signers are ordered, spelled and
labelled, and whether they come from a request or from the members of a draft. -/
theorem canonical_params_unique (threshold : UInt32) (salt : Bytes)
    (signers signers' : List MultisigSignerInit) (members : List DraftMultisigMember)
    (hvalid : ∀ s ∈ signers, validateSignerInit s = "") (hplain : ∀ s ∈ signers, ¬ s.Prefixed)
    (hsigners : (signers'.map MultisigSignerInit.identity).Perm
      (signers.map MultisigSignerInit.identity))
    (hmembers : (members.filterMap memberIdentity).Perm
      (signers.map MultisigSignerInit.identity)) :
    buildMultisigAccountInitParams threshold salt (canonicalizeSignerInits signers') =
        buildMultisigAccountInitParams threshold salt (canonicalizeSignerInits signers) ∧
      buildMultisigAccountInitParams threshold salt (draftMembersToFactorySigners members) =
        buildMultisigAccountInitParams threshold salt (canonicalizeSignerInits signers) ∧
      ((∀ s ∈ signers, s.HasAccount) → ∃ params,
        buildMultisigAccountInitParams threshold salt (canonicalizeSignerInits signers) =
          .ok params) := by
  have hdecoded : ∀ s ∈ signers, s.type = .delegated ∨
      ∃ keyData, hexDecode s.keyDataHex = some keyData :=
    fun s hs => decoded_of_valid (hvalid s hs) (hplain s hs)
  have hdecoded' : ∀ s' ∈ signers', s'.type = .delegated ∨
      ∃ keyData, hexDecode s'.keyDataHex = some keyData := by
    intro s' hs'
    obtain ⟨s, hs, hsame⟩ := mem_map.mp (hsigners.mem_iff.mp (mem_map_of_mem hs'))
    exact decoded_of_identity hsame.symm (hdecoded s hs)
  have hsorted := sorted_canonicalize fun s hs => sortKey_of_decoded (hdecoded s hs)
  have hsorted' := sorted_canonicalize fun s hs => sortKey_of_decoded (hdecoded' s hs)
  have hperm := (perm_canonicalize signers).map MultisigSignerInit.identity
  have hperm' := (perm_canonicalize signers').map MultisigSignerInit.identity
  have hkind : ∀ identities : List SignerIdentity,
      identities.Perm (signers.map MultisigSignerInit.identity) →
        ∀ i ∈ identities, Sortable i := by
    intro identities h i hi
    obtain ⟨s, hs, rfl⟩ := mem_map.mp (h.mem_iff.mp hi)
    exact sortable_of_valid (hvalid s hs)
  refine ⟨build_of_identities ?_ threshold salt, build_of_identities ?_ threshold salt, ?_⟩
  · exact hsorted'.eq hsorted ((hperm'.trans hsigners).trans hperm.symm)
      (hkind _ (hperm'.trans hsigners))
  · have hdraft := (perm_draftMembers members).trans hmembers
    exact (sorted_draftMembers members).eq hsorted (hdraft.trans hperm.symm) (hkind _ hdraft)
  intro haccount
  refine exists_build (fun s hs => ?_) threshold salt
  have hs := (perm_canonicalize signers).mem_iff.mp hs
  exact value_of_valid (hvalid s hs) (hplain s hs) (haccount s hs)

theorem isValidWebauthnKeyDataHex_of_normalize {keyDataHex : String} {bs : Bytes}
    (h : normalizeHex keyDataHex = hexEncode (4 :: bs)) (hlength : 65 ≤ bs.length) :
    isValidWebauthnKeyDataHex keyDataHex = true := by
  have hsize := utf8ByteSize_hexEncode (4 :: bs)
  have hhead : (hexEncode (4 :: bs)).toList.take 2 = ['0', '4'] := by
    rw [hexEncode, String.toList_ofList]
    rfl
  simp only [isValidWebauthnKeyDataHex, h, hexDecode_hexEncode, hhead, Bool.and_eq_true,
    decide_eq_true_eq, isSome_some, beq_self_eq_true, and_true]
  rw [hsize, length_cons, Multisig.minWebauthnKeyDataHexLen]
  omega

namespace Sample

def zeros : Bytes := List.replicate 64 0

def keyData : String := hexEncode (4 :: 0xab :: zeros)

def keyDataUpper : String := String.ofList ('0' :: '4' :: 'A' :: 'B' :: hexChars zeros)

def account : String := strkeyEncode versionAccount (List.replicate 32 1)

def signers : List MultisigSignerInit :=
  [⟨.webauthn, keyData, "", "phone"⟩, ⟨.delegated, "", account, ""⟩]

def respelled : List MultisigSignerInit :=
  [⟨.delegated, "", account, "wallet"⟩, ⟨.webauthn, keyDataUpper, "", ""⟩]

def members : List DraftMultisigMember :=
  [⟨"wallet", .delegated, account, "", "", ""⟩, ⟨"seed", .ed25519, "", "", "", "00"⟩,
    ⟨"phone", .webauthn, "", keyData, "", ""⟩]

theorem account_eq : strkeyDecode versionAccount account = some (List.replicate 32 1) := by
  decide +kernel

theorem toLower_keyData : toLower keyDataUpper = toLower keyData := by
  have hlower := (hexChars_lower zeros).1
  have hlower' := (hexChars_lower (4 :: 0xab :: zeros)).1
  rw [keyData, hexEncode, toLower, toLower, keyDataUpper, String.toList_ofList, String.toList_ofList,
    hlower']
  simp only [map_cons, hlower]
  rfl

theorem valid_webauthn {keyDataHex label : String} (hkey : normalizeHex keyDataHex = keyData) :
    validateSignerInit ⟨.webauthn, keyDataHex, "", label⟩ = "" := by
  have hvalid := isValidWebauthnKeyDataHex_of_normalize hkey (by decide)
  have hne : keyDataHex ≠ "" := by
    rintro rfl
    exact absurd hvalid (by decide)
  simp only [validateSignerInit, if_neg hne, hvalid, if_true]

theorem valid_delegated (label : String) :
    validateSignerInit ⟨.delegated, "", account, label⟩ = "" := by
  have hvalid : isValidGAddress account = true := by rw [isValidGAddress, account_eq, isSome_some]
  have hne : account ≠ "" := by decide +kernel
  simp only [validateSignerInit, if_neg hne, hvalid, if_true]

theorem validated (hs : validateSignerInit s = "") (hs' : validateSignerInit s' = "")
    (hne : s.type ≠ s'.type) :
    validateSignerInits 2 [s, s'] = .ok () := by
  have hdup : duplicatesSigner s' s = none := by rw [duplicatesSigner, if_pos hne]
  simp [validateSignerInits, minAccountSigners, checkSigner, hs, hs', duplicateSignerInitError, hdup]
  rfl

theorem valid_signers : ∀ s ∈ signers, validateSignerInit s = "" := by
  simp only [signers, forall_mem_cons]
  refine ⟨valid_webauthn (normalizeHex_hexEncode _), valid_delegated _, ?_⟩
  simp

theorem plain_signers : ∀ s ∈ signers, ¬ s.Prefixed := by
  have hx := not_prefixed_of_not_mem (hexChars_lower (4 :: 0xab :: zeros)).2
  simp only [signers, forall_mem_cons]
  refine ⟨fun hprefixed => hx ?_, fun hprefixed => ?_, ?_⟩
  · have hkey := hprefixed.2
    rwa [keyData, hexEncode, String.toList_ofList] at hkey
  · cases hprefixed.1
  · simp

theorem hasAccount_signers : ∀ s ∈ signers, s.HasAccount := by
  simp only [signers, forall_mem_cons]
  refine ⟨fun htype => ?_, fun _ => ⟨_, account_eq, length_replicate⟩, ?_⟩
  · cases htype
  · simp

end Sample

theorem Sample.respelled_params : ∃ params,
    buildMultisigAccountInitParams 2 [] (canonicalizeSignerInits Sample.respelled) = .ok params ∧
      buildMultisigAccountInitParams 2 [] (draftMembersToFactorySigners Sample.members) =
        .ok params := by
  have hrespelled : Sample.respelled.map MultisigSignerInit.identity =
      (Sample.signers.map MultisigSignerInit.identity).reverse :=
    congrArg (fun t => [(Deploy.KeyType.delegated, Sample.account), (Deploy.KeyType.webauthn, t)])
      Sample.toLower_keyData
  have hmembers : Sample.members.filterMap memberIdentity =
      (Sample.signers.map MultisigSignerInit.identity).reverse := by
    have hkey : normalizeHex Sample.keyData = toLower Sample.keyData :=
      normalizeHex_of_hexDecode (hexDecode_hexEncode _)
    exact congrArg (fun t =>
      [(Deploy.KeyType.delegated, Sample.account), (Deploy.KeyType.webauthn, t)]) hkey
  have hreverse := (Sample.signers.map MultisigSignerInit.identity).reverse_perm
  obtain ⟨hsame, hdraft, hbuilt⟩ := canonical_params_unique 2 [] Sample.signers Sample.respelled
    Sample.members Sample.valid_signers Sample.plain_signers (hrespelled ▸ hreverse)
    (hmembers ▸ hreverse)
  obtain ⟨params, hparams⟩ := hbuilt Sample.hasAccount_signers
  exact ⟨params, hsame.trans hparams, hdraft.trans hparams⟩

/-- An accepted list of signers is encoded with every signer once, exactly if no key data is
prefixed and every address is that of a key. -/
theorem accepted_signers_encoded_iff (threshold : Int) (signers : List MultisigSignerInit)
    (salt : Bytes) (hvalid : validateSignerInits threshold signers = .ok ()) :
    (∃ params, buildMultisigAccountInitParams (UInt32.ofInt threshold) salt
        (canonicalizeSignerInits signers) = .ok params ∧
      distinctSigners params = signers.length) ↔
    ∀ s ∈ signers, ¬ s.Prefixed ∧ s.HasAccount := by
  obtain ⟨-, -, hcheck⟩ := validateSignerInits_eq_ok hvalid
  have hsigner : ∀ s ∈ signers, validateSignerInit s = "" := by
    intro s hs
    obtain ⟨i, hi⟩ := mem_iff_getElem?.mp hs
    exact (hcheck i s hi).1
  have hperm := perm_canonicalize signers
  constructor
  · rintro ⟨params, hbuilt, -⟩ s hs
    obtain ⟨signerVals, hvals, -⟩ := buildMultisigAccountInitParams_eq_ok.mp hbuilt
    obtain ⟨v, -, hv⟩ := exists_of_forall₂ hvals (hperm.mem_iff.mpr hs)
    exact ⟨not_prefixed_of_value hv, hasAccount_of_value (hsigner s hs) hv⟩
  · intro hplain
    have hvalue : ∀ s ∈ signers, ∃ v, s.value = some v := fun s hs =>
      value_of_valid (hsigner s hs) (hplain s hs).1 (hplain s hs).2
    obtain ⟨params, hbuilt⟩ := exists_build (fun s hs => hvalue s (hperm.mem_iff.mp hs))
      (UInt32.ofInt threshold) salt
    have hnodup := ((hperm.map MultisigSignerInit.identity).nodup_iff).mpr
      (identity_nodup hvalid hvalue)
    refine ⟨params, hbuilt, ?_⟩
    rw [distinctSigners_of_build hbuilt, toFinset_card_of_nodup hnodup, length_map,
      hperm.length_eq]

namespace Sample

def prefixed : List MultisigSignerInit :=
  [⟨.delegated, "", account, ""⟩, ⟨.webauthn, "0x" ++ keyData, "", ""⟩]

theorem normalizeHex_prefixed : normalizeHex ("0x" ++ keyData) = keyData := by
  have hlist : ("0x" ++ keyData).toList = '0' :: 'x' :: keyData.toList := by simp
  have hlower := (hexChars_lower (4 :: 0xab :: zeros)).1
  rw [normalizeHex, hlist, trimHexPrefix, String.ofList_toList, toLower, keyData, hexEncode,
    String.toList_ofList, hlower]

theorem prefixed_key_not_encoded : validateSignerInits 2 prefixed = .ok () ∧
    ¬ ∃ params, buildMultisigAccountInitParams 2 [] (canonicalizeSignerInits prefixed) =
      .ok params := by
  constructor
  · exact validated (valid_delegated "") (valid_webauthn normalizeHex_prefixed) (by simp)
  rintro ⟨params, hbuilt⟩
  obtain ⟨signerVals, hvals, -⟩ := buildMultisigAccountInitParams_eq_ok.mp hbuilt
  have hmem : ⟨.webauthn, "0x" ++ keyData, "", ""⟩ ∈ canonicalizeSignerInits prefixed :=
    (perm_canonicalize prefixed).mem_iff.mpr (by simp [prefixed])
  obtain ⟨v, -, hv⟩ := exists_of_forall₂ hvals hmem
  refine not_prefixed_of_value hv ⟨rfl, keyData.toList, ?_⟩
  simp

end Sample

theorem Sample.plain_key_encoded : ∃ params,
    buildMultisigAccountInitParams (UInt32.ofInt 2) [] (canonicalizeSignerInits Sample.signers) =
      .ok params ∧ distinctSigners params = Sample.signers.length := by
  have hvalid : validateSignerInits 2 Sample.signers = .ok () :=
    Sample.validated (Sample.valid_webauthn (normalizeHex_hexEncode _)) (Sample.valid_delegated "")
      (by simp)
  exact (accepted_signers_encoded_iff 2 Sample.signers [] hvalid).mpr fun s hs =>
    ⟨Sample.plain_signers s hs, Sample.hasAccount_signers s hs⟩

end Canonical

end LatchApi.Factory
