import LatchApi.Build.RuleIDs

namespace LatchApi.Build

open Lib Program Soroban Bundler List
open Multisig (CatalogAsset expiration_of_mem)

def HasPayload (passphrase : String) (entries : AuthEntries) (i : Nat) (payload : Bytes) : Prop :=
  ∃ e, entries[i]? = some e ∧ hashSorobanAuthPayload e passphrase = some payload

structure BuildAuthTransactionResult.AgreesWith (r : BuildAuthTransactionResult)
    (passphrase : String) (entries : AuthEntries) : Prop where
  entries_eq : r.authEntriesXdr = encodeEntries entries
  smartAccount : ∃ e, entries[r.smartAccountAuthEntryIndex]? = some e ∧
    computeAuthDigestHex e passphrase r.contextRuleIDs = some r.authDigestHex ∧
    (hashSorobanAuthPayload e passphrase).map hexEncode = some r.signaturePayloadHex
  delegatedNative : List.Forall₂
    (fun i signBlob => ∃ payload, signBlob = .of payload ∧ HasPayload passphrase entries i payload)
    r.delegatedNativeAuthEntryIndices r.delegatedNativeSignBlobPayloadsBase64
  expires : ∀ e ∈ entries, ExpiresAt r.validUntilLedger e

def BuildAuthTransactionResult.SelfConsistent (r : BuildAuthTransactionResult)
    (passphrase : String) : Prop := ∃ entries, r.AgreesWith passphrase entries

variable {passphrase : String} {entries entries' : AuthEntries}
  {e : SorobanAuthorizationEntry} {validUntil : UInt32} {g : String}

section Entries

variable {i : Nat} {payload : Bytes}

theorem hashSorobanAuthPayload_withSignature (e : SorobanAuthorizationEntry) (signature : ScVal)
    (passphrase : String) : hashSorobanAuthPayload (e.withSignature signature) passphrase =
      hashSorobanAuthPayload e passphrase := by
  rw [hashSorobanAuthPayload, preimage_withSignature]
  rfl

theorem ofAddress_withSignature (g : String) (e : SorobanAuthorizationEntry) (signature : ScVal) :
    ofAddress g (e.withSignature signature) = ofAddress g e := by
  obtain ⟨credentials, invocation⟩ := e
  cases credentials <;> rfl

theorem ofAddress_checkAuthEntry {smartAccount signer : ScAddress}
    (hg : scAddressFromString g = some signer) (g' : String) (digest : Bytes) (nonce : Int64)
    (validUntil : UInt32) :
    ofAddress g' (checkAuthEntry smartAccount signer digest nonce validUntil) = true ↔ g = g' := by
  have haddress : addressStringFromCredentials
      (checkAuthEntry smartAccount signer digest nonce validUntil) = some g := addressString_of_text hg
  rw [ofAddress, haddress, beq_iff_eq, Option.some.injEq]

theorem ExpiresAt.withSignature (h : ExpiresAt validUntil e) (signature : ScVal) :
    ExpiresAt validUntil (e.withSignature signature) := by
  obtain ⟨credentials, invocation⟩ := e
  cases credentials with
  | sourceAccount => exact h
  | address creds =>
    rintro _ ⟨⟩
    exact h creds rfl

theorem any_ofAddress_expiration (g : String) (entries : AuthEntries) (validUntil : UInt32) :
    (setAddressCredentialExpiration entries validUntil).any (ofAddress g) =
      entries.any (ofAddress g) := by
  change (entries.map (expiring validUntil)).any (ofAddress g) = _
  rw [any_map, ofAddress_expiring]

theorem HasPayload.append (h : HasPayload passphrase entries i payload) (added : AuthEntries) :
    HasPayload passphrase (entries ++ added) i payload := by
  obtain ⟨e, he, hpayload⟩ := h
  refine ⟨e, ?_, hpayload⟩
  rw [List.getElem?_append_left (List.getElem?_eq_some_iff.mp he).1, he]

inductive Resigns (entries : AuthEntries) :
    AuthEntries → Prop
  | set {idx : Nat} {e : SorobanAuthorizationEntry} (he : entries[idx]? = some e)
    (signature : ScVal) : Resigns entries (entries.set idx (e.withSignature signature))

theorem resigns_of_rewrite {idx : Nat} {ids : List UInt32}
    (h : rewriteSmartAccountEntrySignature entries idx g ids = .ok entries') :
    Resigns entries entries' := by
  obtain ⟨payload, e, -, he, rfl⟩ := rewrite_eq_ok h
  exact .set he payload

namespace Resigns

section

variable (h : Resigns entries entries')

include h

theorem getElem?_eq (he : entries[i]? = some e) :
    entries'[i]? = some e ∨ ∃ signature, entries'[i]? = some (e.withSignature signature) := by
  obtain @⟨idx, old, hold, signature⟩ := h
  by_cases hi : idx = i
  · subst hi
    obtain rfl := Option.some.inj (hold.symm.trans he)
    exact .inr ⟨signature, List.getElem?_set_self (List.getElem?_eq_some_iff.mp he).1⟩
  · exact .inl (by rw [getElem?_set_ne hi, he])

theorem hasPayload (hp : HasPayload passphrase entries i payload) :
    HasPayload passphrase entries' i payload := by
  obtain ⟨e, he, hpayload⟩ := hp
  rcases h.getElem?_eq he with he' | ⟨signature, he'⟩
  · exact ⟨e, he', hpayload⟩
  · exact ⟨_, he', (hashSorobanAuthPayload_withSignature e signature _).trans hpayload⟩

theorem expires (hexp : ∀ e ∈ entries, ExpiresAt validUntil e) :
    ∀ e ∈ entries', ExpiresAt validUntil e := by
  obtain ⟨hold, signature⟩ := h
  intro e he
  rcases mem_or_eq_of_mem_set he with he | rfl
  · exact hexp e he
  · exact (hexp _ (mem_of_getElem? hold)).withSignature signature

theorem any_ofAddress (g : String) : entries'.any (ofAddress g) = entries.any (ofAddress g) := by
  obtain @⟨idx, old, hold, signature⟩ := h
  have hmap : (entries.set idx (old.withSignature signature)).map (ofAddress g) =
      entries.map (ofAddress g) := by
    obtain ⟨hidx, rfl⟩ := List.getElem?_eq_some_iff.mp hold
    rw [map_set, ofAddress_withSignature, ← getElem_map (ofAddress g) (h := by simpa),
      set_getElem_self]
  have hany : ∀ es : AuthEntries,
      es.any (ofAddress g) = (es.map (ofAddress g)).any id := fun es =>
    (any_map (l := es) (f := ofAddress g) (p := id)).symm
  rw [hany, hmap, ← hany]

end

end Resigns

end Entries

variable {cfg : BuildConfig} {ready : Signable} {st : Synthesis} {r : BuildAuthTransactionResult}

section Results

structure Sound (passphrase : String) (validUntil : UInt32) (ready : Signable)
    (entries : AuthEntries) : Prop where
  signs : HasPayload passphrase entries ready.idx ready.signaturePayload
  digest : ready.authDigest =
    sha256 (ready.signaturePayload ++ marshalScVal (ruleIDVals ready.contextRuleIDs))
  expires : ∀ e ∈ entries, ExpiresAt validUntil e

structure Reports (ready : Signable) (st : Synthesis) (payloads : List Bytes) (validUntil : UInt32)
    (r : BuildAuthTransactionResult) : Prop where
  index : r.smartAccountAuthEntryIndex = ready.idx
  ids : r.contextRuleIDs = ready.contextRuleIDs
  digest : r.authDigestHex = hexEncode ready.authDigest
  payload : r.signaturePayloadHex = hexEncode ready.signaturePayload
  entries : r.authEntriesXdr = encodeEntries st.entries
  indices : r.delegatedNativeAuthEntryIndices = st.delegatedNativeIndices
  signBlobs : r.delegatedNativeSignBlobPayloadsBase64 = payloads.map .of
  expiry : r.validUntilLedger = validUntil

def Covered (passphrase : String) (st : Synthesis) (payloads : List Bytes) : Prop :=
  List.Forall₂ (HasPayload passphrase st.entries) st.delegatedNativeIndices payloads

variable {payloads : List Bytes}

theorem sound_of_signable {idx : Nat} {ids : List UInt32} (hof : ready.Of cfg idx e ids)
    (he : entries[idx]? = some e) (hexp : ∀ e ∈ entries, ExpiresAt validUntil e) :
    Sound cfg.networkPassphrase validUntil ready entries := by
  refine ⟨⟨e, hof.idx_eq ▸ he, hof.payload⟩, ?_, hexp⟩
  have hdigest := hof.digest
  rw [computeAuthDigest, hof.payload, ← hof.ids_eq] at hdigest
  exact (Option.some.inj hdigest).symm

theorem Sound.append {added : AuthEntries} (hs : Sound passphrase validUntil ready entries)
    (hadded : ∀ e ∈ added, ExpiresAt validUntil e) :
    Sound passphrase validUntil ready (entries ++ added) :=
  ⟨hs.signs.append _, hs.digest, forall_mem_append.mpr ⟨hs.expires, hadded⟩⟩

theorem Sound.resigned (hs : Sound passphrase validUntil ready entries)
    (h : Resigns entries entries') : Sound passphrase validUntil ready entries' :=
  ⟨h.hasPayload hs.signs, hs.digest, h.expires hs.expires⟩

theorem Covered.resigned (hc : Covered passphrase st payloads) (h : Resigns st.entries entries') :
    Covered passphrase { st with entries := entries' } payloads :=
  hc.imp fun _ _ hp => h.hasPayload hp

theorem Covered.not_append (hc : Covered passphrase st payloads) :
    ¬ Covered passphrase (st.append e) payloads := by
  intro happended
  have hlength := happended.length_eq
  rw [← hc.length_eq, Synthesis.append, length_append, length_singleton] at hlength
  omega

theorem covered_of_signBlobPayloads (h : signBlobPayloads cfg st = .ok payloads) :
    Covered cfg.networkPassphrase st payloads := by
  refine (mapM_eq_ok.mp h).imp fun i payload hpayload => ?_
  exact Option.bind_eq_some_iff.mp (orError_eq_ok.mp hpayload)

theorem reports_buildResult (sim : Simulation) (tx : TransactionEnvelope) (ready : Signable)
    (st : Synthesis) (payloads : List Bytes) (contextRuleID : UInt32)
    (discovery : Option Multisig.ContextRuleDiscovery) (submitMethod : SubmitMethod) :
    Reports ready st payloads sim.validUntilLedger
      (buildResult sim tx ready st payloads contextRuleID discovery submitMethod) :=
  ⟨rfl, rfl, rfl, rfl, rfl, rfl, rfl, rfl⟩

theorem forall₂_signBlobs {indices : List Nat} : List.Forall₂ (fun i (signBlob : Encoded Bytes) =>
      ∃ payload, signBlob = .of payload ∧ HasPayload passphrase entries i payload)
      indices (payloads.map .of) ↔
    List.Forall₂ (HasPayload passphrase entries) indices payloads := by
  rw [forall₂_map_right_iff]
  constructor
  · refine Forall₂.imp ?_
    rintro i p ⟨payload, hp, hpayload⟩
    obtain rfl := Encoded.of.inj hp
    exact hpayload
  · exact Forall₂.imp fun i p hpayload => ⟨p, rfl, hpayload⟩

theorem Reports.selfConsistent_iff (hr : Reports ready st payloads validUntil r)
    (hs : Sound passphrase validUntil ready st.entries) :
    r.SelfConsistent passphrase ↔ Covered passphrase st payloads := by
  constructor
  · rintro ⟨entries, hc⟩
    have hencoded : encodeEntries entries = encodeEntries st.entries :=
      hc.entries_eq.symm.trans hr.entries
    have hentries : entries = st.entries :=
      map_injective_iff.mpr (fun _ _ heq => Encoded.of.inj heq) hencoded
    have hnative := hc.delegatedNative
    rw [hr.indices, hr.signBlobs, hentries] at hnative
    exact forall₂_signBlobs.mp hnative
  · intro hcovered
    obtain ⟨e, he, hpayload⟩ := hs.signs
    refine ⟨st.entries, hr.entries, ⟨e, ?_, ?_, ?_⟩, ?_, ?_⟩
    · rw [hr.index, he]
    · rw [computeAuthDigestHex, computeAuthDigest, hpayload, hr.ids, hr.digest, hs.digest]
      rfl
    · rw [hpayload, hr.payload]
      rfl
    · rw [hr.indices, hr.signBlobs]
      exact forall₂_signBlobs.mpr hcovered
    · rw [hr.expiry]
      exact hs.expires

end Results

variable {base : AuthEntries}

variable {h : Log BuildRes}

section Synthesis

variable {st' : Synthesis} {input : AuthTransactionCoreInput}

inductive Adds (validUntil : UInt32) (g : String) (st : Synthesis) : Synthesis → Prop
  | kept (hany : st.entries.any (ofAddress g) = true) : Adds validUntil g st st
  | appended {e : SorobanAuthorizationEntry} (hnone : st.entries.any (ofAddress g) = false)
    (hexpires : ExpiresAt validUntil e) (hof : ∀ g', ofAddress g' e = true ↔ g = g') :
    Adds validUntil g st (st.append e)

theorem obeys_adds (smart g : String) (digest : Bytes) (validUntil : UInt32) (st : Synthesis) :
    Obeys anyRun h (synthesizeDelegatedGEntry smart g digest validUntil st)
      (onOk fun _ st' => Adds validUntil g st st') := by
  unfold synthesizeDelegatedGEntry
  split
  · rename_i hany
    exact .ok (.kept hany)
  rename_i hnone
  refine (obeys_buildUnsigned smart g digest validUntil).bind_onOk fun h' e hd => .ok ?_
  obtain ⟨nonce, ⟨a, b, -, hb, rfl⟩, -⟩ := hd
  exact .appended (Bool.eq_false_iff.mpr hnone) (expiresAt_checkAuthEntry _ _ _ _ _)
    fun g' => ofAddress_checkAuthEntry hb g' _ _ _

theorem any_append {g' : String} (hof : ∀ g', ofAddress g' e = true ↔ g = g') :
    (st.append e).entries.any (ofAddress g') = true ↔
      st.entries.any (ofAddress g') = true ∨ g = g' := by
  rw [Synthesis.append, List.any_append, Bool.or_eq_true, List.any_cons, List.any_nil, Bool.or_false,
    hof]

theorem Adds.sound (ha : Adds validUntil g st st')
    (hs : Sound passphrase validUntil ready st.entries) :
    Sound passphrase validUntil ready st'.entries := by
  cases ha with
  | kept _ => exact hs
  | appended _ hexpires _ => exact hs.append (forall_mem_singleton.mpr hexpires)

theorem Adds.any_iff (ha : Adds validUntil g st st') (g' : String) :
    st'.entries.any (ofAddress g') = true ↔ st.entries.any (ofAddress g') = true ∨ g = g' := by
  cases ha with
  | kept hany =>
    refine ⟨.inl, fun h => ?_⟩
    rcases h with h | rfl
    · exact h
    · exact hany
  | appended _ _ hof => exact any_append hof

structure Extends (passphrase : String) (validUntil : UInt32) (ready : Signable)
    (accounts : String → Prop) (st st' : Synthesis) : Prop where
  sound : Sound passphrase validUntil ready st.entries →
    Sound passphrase validUntil ready st'.entries
  any_iff : ∀ g, st'.entries.any (ofAddress g) = true ↔
    st.entries.any (ofAddress g) = true ∨ accounts g

theorem obeys_synthesizeIf_extends (passphrase : String) (input : AuthTransactionCoreInput)
    (validUntil : UInt32) (ready : Signable) (needed : Prop) [Decidable needed] (g : String)
    (st : Synthesis) :
    Obeys anyRun h (synthesizeEntries.synthesizeIf input validUntil ready needed g st)
      (onOk fun _ st' => Extends passphrase validUntil ready (fun g' => needed ∧ g = g') st st') := by
  unfold synthesizeEntries.synthesizeIf
  split
  · rename_i hneeded
    refine (obeys_adds _ _ _ _ _).mono_onOk fun h' st' ha => ⟨ha.sound, fun g' => ?_⟩
    rw [ha.any_iff, and_iff_right hneeded]
  · rename_i hneeded
    refine .ok ⟨id, fun g' => ?_⟩
    rw [or_iff_left fun hg => hneeded hg.1]

theorem any_of_delegatedNativeIndices {smart signerG : String}
    (h : delegatedNativeIndices smart signerG base ≠ []) : base.any (ofAddress signerG) = true := by
  obtain ⟨i, hi⟩ := exists_mem_of_ne_nil _ h
  obtain ⟨-, hrole⟩ := mem_filter.mp hi
  obtain ⟨e, he, hrole⟩ := (Option.any_eq_true _ _).mp hrole
  refine any_eq_true.mpr ⟨e, mem_of_getElem? he, ?_⟩
  unfold classifyAuthEntryRole at hrole
  unfold ofAddress
  split at hrole
  · cases hrole
  rename_i addr haddr
  split at hrole
  · cases hrole
  split at hrole
  · rename_i hsigner
    rw [haddr, hsigner.2, beq_self_eq_true]
  · cases hrole

def AuthTransactionCoreInput.asks (input : AuthTransactionCoreInput) (g : String) : Prop :=
  input.signerType = .delegated ∧ (input.signerG = g ∨ input.feePayerG = g)

theorem asks_iff (hg : g ≠ "") : (base.any (ofAddress g) = true ∨
      ((input.signerGStr ≠ "" ∧
        delegatedNativeIndices input.smartAccountAddress input.signerGStr base = []) ∧
          input.signerGStr = g) ∨
      (input.signerType = .delegated ∧ input.feePayerG ≠ "" ∧ input.feePayerG ≠ input.signerGStr) ∧
        input.feePayerG = g) ↔ base.any (ofAddress g) = true ∨ input.asks g := by
  have hsigner : input.signerType = .delegated → input.signerGStr = input.signerG := fun h => if_pos h
  have hempty : input.signerType ≠ .delegated → input.signerGStr = "" := fun h => if_neg h
  constructor
  · rintro (hbase | ⟨⟨hne, -⟩, rfl⟩ | ⟨⟨hdelegated, -⟩, hpayer⟩)
    · exact .inl hbase
    · have hdelegated : input.signerType = .delegated := by
        by_contra hother
        exact hne (hempty hother)
      exact .inr ⟨hdelegated, .inl (hsigner hdelegated).symm⟩
    · exact .inr ⟨hdelegated, .inr hpayer⟩
  · rintro (hbase | ⟨hdelegated, haccount⟩)
    · exact .inl hbase
    rw [← hsigner hdelegated] at haccount
    by_cases hg' : input.signerGStr = g
    · subst hg'
      by_cases hindices :
          delegatedNativeIndices input.smartAccountAddress input.signerGStr base = []
      · exact .inr (.inl ⟨⟨hg, hindices⟩, rfl⟩)
      · exact .inl (any_of_delegatedNativeIndices hindices)
    · have hpayer := haccount.resolve_left hg'
      subst hpayer
      exact .inr (.inr ⟨⟨hdelegated, hg, Ne.symm hg'⟩, rfl⟩)

theorem obeys_synthesizeEntries_extends (passphrase : String) (input : AuthTransactionCoreInput)
    (validUntil : UInt32) (ready : Signable) (base : AuthEntries) :
    Obeys anyRun h (synthesizeEntries input validUntil ready base) (onOk fun _ st =>
      (Sound passphrase validUntil ready base → Sound passphrase validUntil ready st.entries) ∧
        ∀ g, g ≠ "" → (st.entries.any (ofAddress g) = true ↔
          base.any (ofAddress g) = true ∨ input.asks g)) := by
  refine (obeys_synthesizeIf_extends passphrase input validUntil ready _ _ _).bind_onOk
    fun _ st₁ h₁ => ?_
  refine (obeys_synthesizeIf_extends passphrase input validUntil ready _ _ _).mono_onOk
    fun _ st₂ h₂ => ⟨fun hs => h₂.sound (h₁.sound hs), fun g hg => ?_⟩
  rw [h₂.any_iff, h₁.any_iff, ← asks_iff hg, or_assoc]

end Synthesis

section Builds

variable {payloads : List Bytes}

variable (input : AuthTransactionCoreInput)

def AuthTransactionCoreInput.authorizes (entries : AuthEntries) : Prop :=
  input.bundlerDelegatedAuthMode = true → entries.any (ofAddress input.authG) = true

theorem obeys_chooseSigning_consistent
    (hs : Sound cfg.networkPassphrase validUntil ready st.entries)
    (hc : Covered cfg.networkPassphrase st payloads) (hr : Reports ready st payloads validUntil r) :
    Obeys anyRun h (chooseSigning cfg input validUntil ready st r) (onOk fun _ r' =>
      (input.bundlerDelegatedAuthMode = true → input.authG ≠ "") ∧
        (r'.SelfConsistent cfg.networkPassphrase ↔ input.authorizes st.entries)) := by
  unfold chooseSigning
  by_cases hmode : input.bundlerDelegatedAuthMode = true
  · rw [if_pos hmode]
    by_cases hempty : input.authG = ""
    · rw [if_pos hempty]
      exact .fail trivial
    rw [if_neg hempty]
    refine obeys_ofExcept_bind fun entries hrewrite => ?_
    have hresigned := resigns_of_rewrite hrewrite
    refine (obeys_adds _ _ _ _ _).bind_onOk fun h' st' ha => ?_
    have hiff : ∀ r', Reports ready st' payloads validUntil r' →
        (r'.SelfConsistent cfg.networkPassphrase ↔ input.authorizes st.entries) := by
      intro r' hr'
      rw [hr'.selfConsistent_iff (ha.sound (hs.resigned hresigned)),
        AuthTransactionCoreInput.authorizes, forall_prop_of_true hmode,
        ← hresigned.any_ofAddress]
      cases ha with
      | kept hany => exact iff_of_true (hc.resigned hresigned) hany
      | appended hnone _ _ =>
        exact iff_of_false (hc.resigned hresigned).not_append (Bool.eq_false_iff.mp hnone)
    split
    · exact .ok ⟨fun _ => hempty, hiff _ ⟨hr.1, hr.2, hr.3, hr.4, rfl, rfl, hr.7, hr.8⟩⟩
    · refine (obeys_any _).bind_onOk fun h'' template _ => .ok ⟨fun _ => hempty, ?_⟩
      exact hiff _ ⟨hr.1, hr.2, hr.3, hr.4, rfl, rfl, hr.7, hr.8⟩
  · rw [if_neg hmode]
    have hmode' : ∀ {P : Prop}, input.bundlerDelegatedAuthMode = true → P := fun h => absurd h hmode
    split
    · refine obeys_ofExcept_bind fun entries hrewrite => ?_
      have hresigned := resigns_of_rewrite hrewrite
      refine (obeys_any _).bind_onOk fun h' template _ => .ok ⟨hmode', iff_of_true ?_ hmode'⟩
      refine (Reports.selfConsistent_iff ?_ (hs.resigned hresigned)).mpr (hc.resigned hresigned)
      exact ⟨hr.1, hr.2, hr.3, hr.4, rfl, hr.6, hr.7, hr.8⟩
    · have hconsistent : ∀ method, BuildAuthTransactionResult.SelfConsistent
          { r with submitMethod := method } cfg.networkPassphrase := by
        intro method
        refine (Reports.selfConsistent_iff ?_ hs).mpr hc
        exact ⟨hr.1, hr.2, hr.3, hr.4, hr.5, hr.6, hr.7, hr.8⟩
      split
      · exact .ok ⟨hmode', iff_of_true (hconsistent _) hmode'⟩
      · exact .ok ⟨hmode', iff_of_true (hconsistent _) hmode'⟩

/-- In the bundler mode the account that signs has an entry already: the simulation asks for it, or
it is the delegated signer or the payer of the fee of one. -/
def AuthTransactionCoreInput.Covers (simulated : AuthEntries) : Prop :=
  input.bundlerDelegatedAuthMode = true →
    (input.kept simulated).any (ofAddress input.authG) = true ∨ input.asks input.authG

theorem obeys_core_consistent (cfg : BuildConfig) (input : AuthTransactionCoreInput)
    (buildTx : AuthEntries → Option Bytes → Transaction) :
    Obeys anyRun [] (buildAuthTransactionCore cfg input buildTx) (onOk fun h r =>
      ∃ sim ∈ simulations h, ∃ simulated, sim.entries = some simulated ∧
        (r.SelfConsistent cfg.networkPassphrase ↔ input.Covers simulated)) := by
  refine obeys_call_then fun built => obeys_orFail_bind fun _ _ => ?_
  refine obeys_call_then fun answer => obeys_orFail_bind fun sim hsim => ?_
  subst hsim
  refine obeys_ofExcept_bind fun simulated hsimulated => ?_
  by_cases hempty : (input.kept simulated).isEmpty = true
  · simp only [hempty, if_true]
    exact .fail trivial
  simp only [hempty]
  refine obeys_ofExcept_bind fun ⟨idx, entry⟩ hfound => ?_
  obtain ⟨-, hentry⟩ := smartAccountEntry_eq_ok hfound
  refine obeys_ofExcept_bind fun ready hready => ?_
  have hsound := sound_of_signable (signable_eq_ok hready) hentry
    fun e he creds => expiration_of_mem he
  refine (obeys_synthesizeEntries_extends cfg.networkPassphrase input _ ready _).subset_onOk.bind_onOk
    fun h₁ st ⟨hsub, hst, hany⟩ => ?_
  refine obeys_ofExcept_bind fun payloads hpayloads => obeys_ofExcept_bind fun data _ => ?_
  refine obeys_call_then fun final => obeys_orFail_bind fun _ _ => ?_
  refine (obeys_chooseSigning_consistent input (hst hsound) (covered_of_signBlobPayloads hpayloads)
    (reports_buildResult _ _ _ _ _ _ _ _)).subset_onOk.mono_onOk fun h₂ r ⟨hsub', hg, hr⟩ => ?_
  refine ⟨sim, ?_, simulated, simulatedEntries_eq_ok hsimulated, hr.trans ?_⟩
  · have hevent := hsub' (mem_cons_of_mem _ (hsub mem_cons_self))
    exact mem_filterMap.mpr ⟨_, hevent, rfl⟩
  · refine forall_congr' fun hmode => ?_
    rw [hany _ (hg hmode), any_ofAddress_expiration]

theorem Assembled.selfConsistent {sim : Simulation} {ruleID : UInt32} {ids : List UInt32}
    (ha : Assembled cfg sim base e ruleID ids r)
    (hexp : ∀ e ∈ base, ExpiresAt sim.validUntilLedger e) :
    r.SelfConsistent cfg.networkPassphrase := by
  obtain ⟨idx, ready, st, added, payloads, tx, _, _, he, hof, hst, hadded, hpayloads, rfl⟩ := ha.result
  have hsound := (sound_of_signable hof he hexp).append hadded
  rw [← hst] at hsound
  exact ((reports_buildResult _ _ _ _ _ _ _ _).selfConsistent_iff hsound).mpr
    (covered_of_signBlobPayloads hpayloads)

end Builds

section Requests

def BuildRequest.Covers : BuildRequest → AuthEntries → Prop
  | .core input _, simulated => input.Covers simulated
  | .send _ _, _ => True
  | .prepareSign _, _ => True

end Requests

namespace Sample

def bundlerModeInput : AuthTransactionCoreInput :=
  { passkeyInput with bundlerDelegatedAuthMode := true, delegatedAuthG := config.bundlerG }

def asksUnhashed (r : BuildAuthTransactionResult) : Bool :=
  r.delegatedNativeAuthEntryIndices == [1] && r.delegatedNativeSignBlobPayloadsBase64.isEmpty

theorem not_selfConsistent_of_asksUnhashed (h : asksUnhashed r = true) :
    ¬ r.SelfConsistent passphrase := by
  rintro ⟨entries, hr⟩
  obtain ⟨hindices, hpayloads⟩ := (Bool.and_eq_true _ _).mp h
  have hlength := hr.delegatedNative.length_eq
  rw [beq_iff_eq.mp hindices, isEmpty_iff.mp hpayloads] at hlength
  cases hlength

end Sample

end LatchApi.Build
