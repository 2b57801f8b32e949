import LatchApi.Build.Built

/-!
Delegated builds and their submission: the entry that a signed template is to replace is looked
for by the template's address and nonce, and the template has a nonce of its own.
-/

namespace LatchApi.Build

open Lib Program Soroban Bundler Deploy List Option

variable {entries : AuthEntries} {e : SorobanAuthorizationEntry} {idx : Nat}

section Matching

variable {t : SorobanAuthorizationEntry} {g : String} {nonce : Int64}

theorem addressString_of_signerNonce (h : signerNonce e = some (g, nonce)) :
    addressStringFromCredentials e = some g := by
  unfold addressStringFromCredentials
  obtain ⟨creds, hcreds, h⟩ := bind_eq_some_iff.mp h
  obtain ⟨a, ha, h⟩ := map_eq_some_iff.mp h
  rw [hcreds, bind_some, ha, (Prod.mk.inj h).1]

theorem hasSourceAccount_of_signerNonce (h : signerNonce e = some (g, nonce)) :
    e.hasSourceAccount = false :=
  hasSourceAccount_of_address (beq_iff_eq.mpr (addressString_of_signerNonce h))

theorem sameCredentials_iff (ht : signerNonce t = some (g, nonce)) :
    sameCredentials e t = true ↔ signerNonce e = some (g, nonce) := by
  obtain ⟨b, hb, ht⟩ := bind_eq_some_iff.mp ht
  obtain ⟨g', hg', ht⟩ := map_eq_some_iff.mp ht
  cases ht
  unfold sameCredentials signerNonce
  rw [hb]
  cases e.addressCredentials with
  | none => simp
  | some a => simp [hg']

theorem exists_matching_iff (ht : signerNonce t = some (g, nonce)) :
    (∃ i, findMatchingAuthEntryIndex entries t idx = some i) ↔
      ∃ i e, i ≠ idx ∧ entries[i]? = some e ∧ signerNonce e = some (g, nonce) := by
  rw [← isSome_iff_exists, findMatchingAuthEntryIndex, find?_isSome]
  constructor
  · rintro ⟨i, -, hi⟩
    obtain ⟨hne, he⟩ := (Bool.and_eq_true _ _).mp hi
    obtain ⟨e, he, hsame⟩ := (any_eq_true _ _).mp he
    exact ⟨i, e, bne_iff_ne.mp hne, he, (sameCredentials_iff ht).mp hsame⟩
  · rintro ⟨i, e, hne, he, hsame⟩
    refine ⟨i, List.mem_range.mpr (List.getElem?_eq_some_iff.mp he).1, ?_⟩
    rw [he, any_some, (sameCredentials_iff ht).mpr hsame, bne_iff_ne.mpr hne, Bool.and_true]

theorem matching_spec (ht : signerNonce t = some (g, nonce)) {i : Nat}
    (h : findMatchingAuthEntryIndex entries t idx = some i) :
    ∃ e, i ≠ idx ∧ entries[i]? = some e ∧ signerNonce e = some (g, nonce) := by
  have hfound := find?_some h
  obtain ⟨hne, he⟩ := (Bool.and_eq_true _ _).mp hfound
  obtain ⟨e, he, hsame⟩ := (any_eq_true _ _).mp he
  exact ⟨e, bne_iff_ne.mp hne, he, (sameCredentials_iff ht).mp hsame⟩

end Matching

variable {request : SubmitDelegatedInput} {entry : SorobanAuthorizationEntry}

section Submission

/-- The request sends a build's entries back with a raw signature of the template's account. -/
structure Follows (r : BuildAuthTransactionResult) (request : SubmitDelegatedInput) : Prop where
  entries : request.authEntriesXdr = r.authEntriesXdr
  template : request.gAddressEntryTemplateXdr = r.gAddressEntryTemplateXdr
  index : request.smartAccountAuthEntryIndex = r.smartAccountAuthEntryIndex
  signature : ∃ blob, request.signedAuthEntryBase64.decode = some blob ∧
    blob.length = delegatedRawSignatureLen
  signer : ∃ t, request.gAddressEntryTemplateXdr.decode = some t ∧
    addressStringFromCredentials t = some request.signerAddress

def Replaces (X : Codec) (request : SubmitDelegatedInput) : Prop :=
  ∃ p entries i old signed, prepareDelegated X request = .ok p ∧
    normalizeAuthEntries request.authEntriesXdr = some entries ∧ i ≠ p.smartAccountIndex ∧
    entries[i]? = some old ∧ addressStringFromCredentials old = some request.signerAddress ∧
    applyDelegatedSignature X request.gAddressEntryTemplateXdr request.signedAuthEntryBase64
      request.signerAddress = .ok signed ∧
    p.entries[i]? = some signed ∧ addressStringFromCredentials signed = some request.signerAddress

def IsAccount (address : String) : Prop := ∃ key, strkeyDecode versionAccount address = some key

variable {X : Codec} {t : SorobanAuthorizationEntry} {template : Encoded SorobanAuthorizationEntry}

theorem prepareDelegated_of {i : Nat} {signed : SorobanAuthorizationEntry} {ids : List UInt32}
    {payload : ScVal} (hentries : normalizeAuthEntries request.authEntriesXdr = some entries)
    (hne : request.authEntriesXdr ≠ []) (hindex : request.smartAccountAuthEntryIndex = idx)
    (hentry : entries[idx]? = some entry) (ht : request.gAddressEntryTemplateXdr.decode = some t)
    (hmatch : findMatchingAuthEntryIndex entries t idx = some i)
    (hsigned : applyDelegatedSignature X request.gAddressEntryTemplateXdr
      request.signedAuthEntryBase64 request.signerAddress = .ok signed)
    (hids : resolveContextRuleIDs entry request.contextRuleID = some ids)
    (hpayload : buildDelegatedAuthPayload request.signerAddress ids = .ok payload)
    (hsource : entry.hasSourceAccount = false) :
    prepareDelegated X request = .ok ⟨(entries.set i signed).set idx (entry.withSignature payload),
      idx, entry, ids, [idx, i]⟩ := by
  have hdefault : withDefault request.authEntriesXdr [request.smartAccountAuthEntryXdr,
      request.gAddressEntryTemplateXdr] = request.authEntriesXdr := by
    simp [withDefault, hne]
  have hat : entryAt entries request.smartAccountAuthEntryIndex = .ok (idx, entry) := by
    simp [entryAt, hindex, hentry]
  have hfound : matchTemplate entries request.gAddressEntryTemplateXdr idx = .ok i := by
    simp [matchTemplate, ht, hmatch]
  unfold prepareDelegated
  rw [hdefault]
  refine bind_eq_ok.mpr ⟨entries, orError_eq_ok.mpr hentries, ?_⟩
  refine bind_eq_ok.mpr ⟨(idx, entry), hat, ?_⟩
  refine bind_eq_ok.mpr ⟨i, hfound, ?_⟩
  refine bind_eq_ok.mpr ⟨signed, mapError_eq_ok.mpr hsigned, ?_⟩
  refine bind_eq_ok.mpr ⟨ids, orError_eq_ok.mpr hids, ?_⟩
  refine bind_eq_ok.mpr ⟨payload, hpayload, ?_⟩
  simp [attachPayload, hsource]

theorem matching_of_prepared {p : Prepared} (h : prepareDelegated X request = .ok p)
    (hentries : normalizeAuthEntries request.authEntriesXdr = some entries)
    (hne : request.authEntriesXdr ≠ []) (hindex : request.smartAccountAuthEntryIndex = idx)
    (ht : request.gAddressEntryTemplateXdr.decode = some t) :
    ∃ i, findMatchingAuthEntryIndex entries t idx = some i := by
  have hdefault : withDefault request.authEntriesXdr [request.smartAccountAuthEntryXdr,
      request.gAddressEntryTemplateXdr] = request.authEntriesXdr := by
    simp [withDefault, hne]
  unfold prepareDelegated at h
  rw [hdefault, hentries] at h
  obtain ⟨entries', hentries', h⟩ := bind_eq_ok.mp h
  cases hentries'
  obtain ⟨⟨idx', entry⟩, hat, h⟩ := bind_eq_ok.mp h
  obtain ⟨i, hmatch, h⟩ := bind_eq_ok.mp h
  have hidx := (entryAt_eq_ok hat).2
  rw [hindex, Int.ofNat_inj] at hidx
  subst hidx
  rw [matchTemplate, ht] at hmatch
  split at hmatch
  · cases hmatch
  rename_i target htarget
  cases htarget
  split at hmatch
  · exact ⟨_, by assumption⟩
  · cases hmatch

theorem exists_applied_iff {signed : Encoded Bytes} {signer : String} {blob : Bytes}
    (ht : template.decode = some t) (hsource : t.hasSourceAccount = false)
    (hblob : signed.decode = some blob) (hlen : blob.length = delegatedRawSignatureLen) :
    (∃ e, applyDelegatedSignature X template signed signer = .ok e) ↔ IsAccount signer := by
  have hshort : ¬ delegatedFullEntryMinLen < blob.length := by
    rw [hlen]
    decide
  simp only [applyDelegatedSignature, hblob, hlen, ht, hsource, IsAccount]
  rw [if_neg (hlen ▸ hshort), if_neg (not_not.mpr rfl), if_neg Bool.false_ne_true]
  cases strkeyDecode versionAccount signer with
  | _ => simp

theorem applied_eq {signed : Encoded Bytes} {signer : String} {blob : Bytes}
    (ht : template.decode = some t) (hblob : signed.decode = some blob)
    (hlen : blob.length = delegatedRawSignatureLen)
    (h : applyDelegatedSignature X template signed signer = .ok e) :
    ∃ signature, e = t.withSignature signature := by
  obtain ⟨blob', hblob', hlong | ⟨-, t', key, ht', -, -, rfl⟩⟩ := applyDelegatedSignature_eq_ok h
  · rw [hblob] at hblob'
    cases hblob'
    rw [hlen] at hlong
    exact absurd hlong.1 (by decide)
  · rw [ht] at ht'
    cases ht'
    exact ⟨_, rfl⟩

end Submission

variable {input : AuthTransactionCoreInput} {simulated added : AuthEntries}
  {final : SorobanAuthorizationEntry}

section Repeats

/-- The nonce drawn for the template was drawn before for an entry of the same account, or the
simulation gave it to one, apart from the smart account's own entry. -/
def NonceRepeats (input : AuthTransactionCoreInput) (h : Log BuildRes) : Prop :=
  ∃ nonce earlier, drawn h = (input.templateG, nonce) :: earlier ∧
    ((input.templateG, nonce) ∈ earlier ∨
      ∃ sim ∈ simulations h, ∃ simulated, sim.entries = some simulated ∧
        ∃ e ∈ (input.kept simulated).eraseP (ofAddress input.smartAccountAddress),
          signerNonce e = some (input.templateG, nonce))

variable {sim : Simulation} {key : String × Int64}

theorem exists_base_iff
    (hfound : (input.base sim simulated).findIdx? (ofAddress input.smartAccountAddress) = some idx) :
    (∃ e ∈ (input.base sim simulated).eraseIdx idx, signerNonce e = some key) ↔
      ∃ e ∈ (input.kept simulated).eraseP (ofAddress input.smartAccountAddress),
        signerNonce e = some key := by
  have hmap : (input.base sim simulated).eraseIdx idx =
      ((input.kept simulated).eraseP (ofAddress input.smartAccountAddress)).map
        (expiring sim.validUntilLedger) := by
    have herase := @eraseP_eq_eraseIdx _ (input.base sim simulated)
      (ofAddress input.smartAccountAddress)
    rw [hfound] at herase
    refine herase.symm.trans ?_
    change eraseP _ ((input.kept simulated).map (expiring sim.validUntilLedger)) = _
    rw [eraseP_map, ofAddress_expiring]
  rw [hmap]
  simp only [List.mem_map, exists_exists_and_eq_and, signerNonce_expiring]

theorem exists_sent_iff {base : AuthEntries} (hidx : idx < base.length) :
    (∃ i e, i ≠ idx ∧ (base.set idx final ++ added)[i]? = some e ∧ signerNonce e = some key) ↔
      (∃ e ∈ base.eraseIdx idx, signerNonce e = some key) ∨
        some key ∈ added.map signerNonce := by
  have herase : (base.set idx final ++ added).eraseIdx idx = base.eraseIdx idx ++ added := by
    rw [eraseIdx_append_of_lt_length (by simpa using hidx), eraseIdx_set_eq]
  have hmem : ∀ e, e ∈ base.eraseIdx idx ++ added ↔
      ∃ i, i ≠ idx ∧ (base.set idx final ++ added)[i]? = some e := fun e => by
    rw [← herase, mem_eraseIdx_iff_getElem?]
  rw [List.mem_map]
  constructor
  · rintro ⟨i, e, hne, he, hkey⟩
    rcases mem_append.mp ((hmem e).mpr ⟨i, hne, he⟩) with he | he
    · exact .inl ⟨e, he, hkey⟩
    · exact .inr ⟨e, he, hkey⟩
  · rintro (⟨e, he, hkey⟩ | ⟨e, he, hkey⟩)
    · obtain ⟨i, hne, he⟩ := (hmem e).mp (mem_append_left _ he)
      exact ⟨i, e, hne, he, hkey⟩
    · obtain ⟨i, hne, he⟩ := (hmem e).mp (mem_append_right _ he)
      exact ⟨i, e, hne, he, hkey⟩

end Repeats

section Delegated

variable {cfg : BuildConfig} {X : Codec} {sim : Simulation} {h : Log BuildRes}
  {r : BuildAuthTransactionResult}

theorem CoreBuilt.exists_sent_iff_repeats (hb : CoreBuilt cfg input sim simulated idx entry h r)
    {nonce : Int64} {earlier : List (String × Int64)}
    (hdrawn : drawn h = (input.templateG, nonce) :: earlier)
    (hadded : added.map signerNonce = earlier.reverse.map some) :
    (∃ i e, i ≠ idx ∧ ((input.base sim simulated).set idx final ++ added)[i]? = some e ∧
      signerNonce e = some (input.templateG, nonce)) ↔ NonceRepeats input h := by
  rw [exists_sent_iff hb.idx_lt, exists_base_iff hb.found, hadded]
  have hearlier : some (input.templateG, nonce) ∈ earlier.reverse.map some ↔
      (input.templateG, nonce) ∈ earlier := by simp
  rw [hearlier]
  constructor
  · rintro (hsim | hmem)
    · exact ⟨nonce, earlier, hdrawn, .inr ⟨sim, hb.ends.heard ▸ mem_singleton_self sim,
        simulated, hb.simulated_eq, hsim⟩⟩
    · exact ⟨nonce, earlier, hdrawn, .inl hmem⟩
  · rintro ⟨nonce', earlier', hdrawn', hrepeats⟩
    rw [hdrawn] at hdrawn'
    cases hdrawn'
    rcases hrepeats with hmem | ⟨sim', hsim', simulated', hsimulated', hsim⟩
    · exact .inr hmem
    rw [hb.ends.heard, mem_singleton] at hsim'
    subst hsim'
    rw [hb.simulated_eq] at hsimulated'
    cases hsimulated'
    exact .inl hsim

theorem replaces_iff_of_built (hb : CoreBuilt cfg input sim simulated idx entry h r)
    (hmethod : r.submitMethod = .delegated) (hf : Follows r request) :
    Replaces X request ↔ IsAccount input.templateG ∧ NonceRepeats input h := by
  obtain ⟨final, added, hsends⟩ := hb.ends.sends
  obtain ⟨⟨t, nonce, earlier, htemplate, hkey, hdrawn, hadded⟩, payload, hpayload, rfl⟩ :=
    hsends.templated hmethod
  have ht : request.gAddressEntryTemplateXdr.decode = some t := by
    rw [hf.template, htemplate]
    rfl
  have hsigner : request.signerAddress = input.templateG := by
    obtain ⟨t', ht', haddress⟩ := hf.signer
    rw [ht] at ht'
    cases ht'
    rw [addressString_of_signerNonce hkey] at haddress
    exact (some.inj haddress).symm
  obtain ⟨blob, hblob, hlen⟩ := hf.signature
  have hentries : normalizeAuthEntries request.authEntriesXdr =
      some ((input.base sim simulated).set idx (entry.withSignature payload) ++ added) := by
    rw [hf.entries, hsends.entries_eq]
    exact Multisig.normalizeAuthEntries_map_of _
  have hlength := hb.idx_lt
  have hne : request.authEntriesXdr ≠ [] := by
    intro hnil
    rw [hf.entries, hsends.entries_eq] at hnil
    have hzero := congrArg length hnil
    rw [encodeEntries, length_map, length_append, length_set, length_nil] at hzero
    omega
  have hindex : request.smartAccountAuthEntryIndex = idx := by
    rw [hf.index, hb.ends.carries.index_eq]
  have hentry : ((input.base sim simulated).set idx (entry.withSignature payload) ++ added)[idx]? =
      some (entry.withSignature payload) := by
    rw [getElem?_append_left (by simpa using hlength), getElem?_set_self hlength]
  have happlied := @exists_applied_iff X t _ _ request.signerAddress blob ht
    (hasSourceAccount_of_signerNonce hkey) hblob hlen
  rw [← hb.exists_sent_iff_repeats hdrawn hadded, ← exists_matching_iff hkey, ← hsigner, ← happlied]
  constructor
  · rintro ⟨p, entries, i, old, signed, hp, -, -, -, -, hsigned, -⟩
    exact ⟨⟨signed, hsigned⟩, matching_of_prepared hp hentries hne hindex ht⟩
  rintro ⟨⟨signed, hsigned⟩, i, hmatch⟩
  obtain ⟨old, hi, hold, holdkey⟩ := matching_spec hkey hmatch
  obtain ⟨signerVal, -, rfl⟩ := buildDelegatedAuthPayload_eq_ok hpayload
  have hprepared := prepareDelegated_of hentries hne hindex hentry ht hmatch hsigned
    (resolve_authPayload hb.hasSourceAccount (contextRuleIDsForEntry_ne_nil _ _) _ _)
    (hsigner ▸ hpayload) (by simp [hb.hasSourceAccount])
  obtain ⟨signature, rfl⟩ := applied_eq ht hblob hlen hsigned
  refine ⟨_, _, i, old, _, hprepared, hentries, hi, hold, ?_, hsigned, ?_, ?_⟩
  · rw [hsigner]
    exact addressString_of_signerNonce holdkey
  · have hlt := (List.getElem?_eq_some_iff.mp hold).1
    rw [getElem?_set_ne (Ne.symm hi), getElem?_set_self hlt]
  · rw [hsigner]
    exact addressString_of_signerNonce ((signerNonce_withSignature t signature).trans hkey)

/-- A delegated build can be submitted with a signature of its template exactly if the template
is for an account and drew the nonce of an entry that the build sends for that account. -/
theorem delegated_submission_replaces_iff (cfg : BuildConfig) (X : Codec)
    (input : AuthTransactionCoreInput) (buildTx : AuthEntries → Option Bytes → Transaction)
    (script : Script BuildRes) (r : BuildAuthTransactionResult) (h : Log BuildRes)
    (request : SubmitDelegatedInput)
    (hrun : (buildAuthTransactionCore cfg input buildTx).runWith script [] = (.ok r, h))
    (hmethod : r.submitMethod = .delegated) (hf : Follows r request) :
    Replaces X request ↔ IsAccount input.templateG ∧ NonceRepeats input h := by
  have hlegal : ∀ h op, anyRun.legal op (script h op) := fun _ _ => trivial
  have hends := (obeys_buildAuthTransactionCore cfg input buildTx).runWith hlegal
  rw [hrun] at hends
  obtain ⟨sim, simulated, idx, entry, hb⟩ := hends
  exact replaces_iff_of_built hb hmethod hf

namespace Sample

def signer : String := accountText (key 5)

def delegatedInput : AuthTransactionCoreInput where
  smartAccountAddress := contractText (key 2)
  contextRuleID := 0
  signerType := .delegated
  signerG := signer
  feePayerG := ""
  bundlerDelegatedAuthMode := false
  delegatedAuthG := ""
  dropAuthAddress := ""

def run (nonces : List Int64) :
    Except BuildError BuildAuthTransactionResult × Log BuildRes :=
  (buildAuthTransactionCore config delegatedInput buildTx).runWith (answers nonces) []

def submission (r : BuildAuthTransactionResult) : SubmitDelegatedInput where
  txXdr := r.txXdr
  smartAccountAuthEntryXdr := r.smartAccountAuthEntryXdr
  gAddressEntryTemplateXdr := r.gAddressEntryTemplateXdr
  signedAuthEntryBase64 := .of (List.replicate 64 0)
  signerAddress := signer
  contextRuleID := some r.contextRuleID
  authEntriesXdr := r.authEntriesXdr
  smartAccountAuthEntryIndex := r.smartAccountAuthEntryIndex
  delegatedGAuthEntrySynthesized := r.delegatedGAuthEntrySynthesized

def asks (r : BuildAuthTransactionResult) : Bool :=
  decide (r.submitMethod = .delegated) &&
    r.gAddressEntryTemplateXdr.decode.bind addressStringFromCredentials == some signer

theorem follows_submission (h : asks r = true) :
    r.submitMethod = .delegated ∧ Follows r (submission r) := by
  obtain ⟨hmethod, htemplate⟩ := (Bool.and_eq_true _ _).mp h
  refine ⟨of_decide_eq_true hmethod, rfl, rfl, rfl, ⟨_, rfl, rfl⟩, ?_⟩
  obtain ⟨t, ht, haddress⟩ := bind_eq_some_iff.mp (beq_iff_eq.mp htemplate)
  exact ⟨t, ht, haddress⟩

def templateNotFound : String :=
  "delegated auth entry template not found among the given auth entries"

def reports (message : String) : Except SubmitError Prepared → Bool
  | .error (.invalid m) => m == message
  | _ => false

theorem eq_of_reports {message : String} {out : Except SubmitError Prepared}
    (h : reports message out = true) : out = .error (.invalid message) := by
  unfold reports at h
  split at h
  · rw [beq_iff_eq.mp h]
  · cases h

theorem fresh_template_not_found : ∃ r h,
    (buildAuthTransactionCore config delegatedInput buildTx).runWith (answers [5, 7]) [] = (.ok r, h) ∧
      r.submitMethod = .delegated ∧ Follows r (submission r) ∧
      prepareDelegated noCodec (submission r) = .error (.invalid templateNotFound) ∧
      ¬ Replaces noCodec (submission r) := by
  have hcheck : ((run [5, 7]).1.toOption.any fun r =>
      asks r && reports templateNotFound (prepareDelegated noCodec (submission r))) = true := by
    decide +kernel
  obtain ⟨r, h, hrun, hr⟩ := exists_ok_of_any hcheck
  obtain ⟨hasks, herror⟩ := (Bool.and_eq_true _ _).mp hr
  obtain ⟨hmethod, hfollows⟩ := follows_submission hasks
  have hprepared := eq_of_reports herror
  refine ⟨r, h, hrun, hmethod, hfollows, hprepared, ?_⟩
  rintro ⟨p, -, -, -, -, hp, -⟩
  rw [hprepared] at hp
  cases hp

end Sample

theorem Sample.repeated_nonce_replaced : ∃ r h,
    (buildAuthTransactionCore Sample.config Sample.delegatedInput Sample.buildTx).runWith
        (Sample.answers [5, 5]) [] = (.ok r, h) ∧
      Replaces noCodec (Sample.submission r) := by
  have hcheck : ((Sample.run [5, 5]).1.toOption.any Sample.asks) = true := by decide +kernel
  obtain ⟨r, h, hrun, hasks⟩ := exists_ok_of_any hcheck
  obtain ⟨hmethod, hfollows⟩ := Sample.follows_submission hasks
  have hdrawn : drawn (Sample.run [5, 5]).2 = [(Sample.signer, 5), (Sample.signer, 5)] := by
    decide +kernel
  rw [hrun] at hdrawn
  have haccount : (strkeyDecode versionAccount Sample.signer).isSome = true := by decide +kernel
  refine ⟨r, h, hrun, (delegated_submission_replaces_iff _ _ _ _ _ r h _ hrun hmethod hfollows).mpr
    ⟨isSome_iff_exists.mp haccount, 5, [(Sample.signer, 5)], hdrawn, .inl ?_⟩⟩
  exact mem_singleton_self _

end Delegated

end LatchApi.Build
