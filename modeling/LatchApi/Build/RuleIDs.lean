import LatchApi.Build.Built
import LatchApi.Build.Send
import LatchApi.Multisig.SingleSettlement

namespace LatchApi.Build

open Lib Program Soroban Bundler List
open Multisig (handedOn authEntriesOf always_handsOn CatalogAsset resolveAsset parseAmountToI128)

structure Agrees (cfg : BuildConfig) (r : BuildAuthTransactionResult) (entries : AuthEntries)
    (entry : SorobanAuthorizationEntry) : Prop where
  entries_eq : r.authEntriesXdr = encodeEntries entries
  entry_at : entries[r.smartAccountAuthEntryIndex]? = some entry
  rules : resolveContextRuleIDs entry (some r.contextRuleID) = some r.contextRuleIDs
  digest : computeAuthDigestHex entry cfg.networkPassphrase r.contextRuleIDs = some r.authDigestHex

variable {entries : AuthEntries} {e : SorobanAuthorizationEntry}

section Void

def Void (e : SorobanAuthorizationEntry) : Prop :=
  ∀ creds, e.addressCredentials = some creds → creds.signature = .void

def Simulation.Unsigned (sim : Simulation) : Prop :=
  ∀ entries, sim.entries = some entries → ∀ e ∈ entries, Void e

def UnsignedAnswer (op : BuildOp) (answer : BuildRes op) : Prop :=
  ∀ sim, simulationOf ⟨op, answer⟩ = some sim → sim.Unsigned

theorem void_of_mem_expiration {validUntil : UInt32} (hvoid : ∀ e ∈ entries, Void e)
    (he : e ∈ setAddressCredentialExpiration entries validUntil) : Void e := by
  obtain ⟨e₀, he₀, rfl⟩ := mem_map.mp he
  have hv := hvoid e₀ he₀
  obtain ⟨credentials, invocation⟩ := e₀
  cases credentials with
  | sourceAccount => exact hv
  | address creds =>
    rintro _ ⟨⟩
    exact hv creds rfl

theorem resolve_of_void (hvoid : Void e) (ruleID : UInt32) :
    resolveContextRuleIDs e (some ruleID) = some (contextRuleIDsForEntry e ruleID) := by
  have hnone : contextRuleIDsFromSmartAccountAuthEntry e = [] := by
    unfold contextRuleIDsFromSmartAccountAuthEntry
    cases hcreds : e.addressCredentials with
    | none => rfl
    | some creds => simp [hvoid creds hcreds]
  rw [resolveContextRuleIDs, hnone]
  rfl

end Void

variable {idx : Nat} {α : Type}

variable {r : BuildAuthTransactionResult} {entry : SorobanAuthorizationEntry} {ids : List UInt32}

def ExpiresAt (validUntil : UInt32) (e : SorobanAuthorizationEntry) : Prop :=
  ∀ creds, e.addressCredentials = some creds → creds.signatureExpirationLedger = validUntil

section Builds

variable {cfg : BuildConfig} {h : Log BuildRes} {base : AuthEntries}

theorem computeAuthDigestHex_of_withSignature (e : SorobanAuthorizationEntry) (signature : ScVal)
    (passphrase : String) (ids : List UInt32) :
    computeAuthDigestHex (e.withSignature signature) passphrase ids =
      computeAuthDigestHex e passphrase ids := by
  rw [computeAuthDigestHex, computeAuthDigest_withSignature]
  rfl

theorem Carries.agrees {final : SorobanAuthorizationEntry} {ruleID : UInt32}
    (hc : Carries cfg idx entry ruleID ids r) (hidx : idx < base.length)
    (added : AuthEntries)
    (hentries : r.authEntriesXdr = encodeEntries (base.set idx final ++ added))
    (hrules : resolveContextRuleIDs final (some ruleID) = some ids)
    (hdigest : computeAuthDigestHex final cfg.networkPassphrase ids =
      computeAuthDigestHex entry cfg.networkPassphrase ids) :
    Agrees cfg r (base.set idx final ++ added) final where
  entries_eq := hentries
  entry_at := by
    rw [hc.index_eq, getElem?_append_left (by simpa using hidx), getElem?_set_self hidx]
  rules := by rw [hc.ruleID_eq, hc.ids_eq, hrules]
  digest := by rw [hc.ids_eq, hdigest, hc.digest_eq]

theorem CoreBuilt.agrees {input : AuthTransactionCoreInput} {sim : Simulation}
    {simulated : AuthEntries} (hb : CoreBuilt cfg input sim simulated idx entry h r)
    (hvoid : sim.Unsigned) :
    ∃ entries final, Agrees cfg r entries final := by
  obtain ⟨final, added, hsends⟩ := hb.ends.sends
  have hkept : ∀ e ∈ input.kept simulated, Void e := by
    intro e he
    unfold AuthTransactionCoreInput.kept dropAuthFor at he
    split at he
    · exact hvoid _ hb.simulated_eq e he
    · exact hvoid _ hb.simulated_eq e (mem_of_mem_filter he)
  refine ⟨_, final, hb.ends.carries.agrees hb.idx_lt added hsends.entries_eq ?_ ?_⟩
  · cases hsends.resigned with
    | kept =>
      exact resolve_of_void (void_of_mem_expiration hkept (mem_of_getElem? hb.entry_at)) _
    | delegated hpayload =>
      obtain ⟨signer, -, rfl⟩ := buildDelegatedAuthPayload_eq_ok hpayload
      exact resolve_authPayload hb.hasSourceAccount (contextRuleIDsForEntry_ne_nil _ _) _ _
  · cases hsends.resigned with
    | kept => rfl
    | delegated _ => exact computeAuthDigestHex_of_withSignature _ _ _ _

theorem expiresAt_checkAuthEntry (smartAccount signer : ScAddress) (digest : Bytes) (nonce : Int64)
    (validUntil : UInt32) :
    ExpiresAt validUntil (checkAuthEntry smartAccount signer digest nonce validUntil) := by
  rintro _ ⟨⟩
  rfl

theorem obeys_synthesizeSignerEntry {smart signerG : String} {exp : UInt32} {ready : Signable} :
    Obeys anyRun h (synthesizeSignerEntry smart signerG exp ready base)
      (onOk fun h' st => simulations h' = simulations h ∧
        ∃ added, st.entries = base ++ added ∧ ∀ e ∈ added, ExpiresAt exp e) := by
  unfold synthesizeSignerEntry
  by_cases hneeded : signerG ≠ "" ∧ delegatedNativeIndices smart signerG base = []
  · simp only [hneeded, if_true, ne_eq, not_false_eq_true, and_self]
    refine (obeys_buildUnsigned _ _ _ _).bind_onOk fun h' e hd => .ok ?_
    obtain ⟨nonce, hd⟩ := hd
    obtain ⟨a, b, -, -, rfl⟩ := hd.smartAccount
    exact ⟨hd.simulations_eq, _, rfl, forall_mem_singleton.mpr (expiresAt_checkAuthEntry _ _ _ _ _)⟩
  · simp only [hneeded, if_false]
    exact .ok ⟨rfl, [], (append_nil _).symm, nofun⟩

theorem obeys_contextRuleIDsPerContext {σ : Type} (ruleFor : σ → String → Builder (UInt32 × σ))
    (entry : SorobanAuthorizationEntry) (s : σ) :
    Obeys anyRun h (contextRuleIDsPerContext ruleFor entry s) (onOk fun _ ids => ids ≠ []) := by
  obtain ⟨credentials, function, subInvocations⟩ := entry
  unfold contextRuleIDsPerContext
  rw [walkContexts, bind_assoc]
  refine (obeys_any _).bind_onOk fun h' found _ => ?_
  rw [bind_assoc]
  refine (obeys_any _).bind_onOk fun h'' rest _ => .ok ?_
  exact cons_ne_nil _ _

theorem set_append_self {l added : List α} {i : Nat} {a : α} (h : l[i]? = some a) :
    l.set i a ++ added = l ++ added := by
  obtain ⟨hi, rfl⟩ := List.getElem?_eq_some_iff.mp h
  rw [set_getElem_self]

/-- The result of a build that signs `entry` under `ids`: the entries of `base` and those that were
added, which expire as the simulation allows. -/
structure Assembled (cfg : BuildConfig) (sim : Simulation) (base : AuthEntries)
    (entry : SorobanAuthorizationEntry) (ruleID : UInt32) (ids : List UInt32)
    (r : BuildAuthTransactionResult) : Prop where
  result : ∃ idx ready st added payloads tx discovery method, base[idx]? = some entry ∧
    ready.Of cfg idx entry ids ∧ st.entries = base ++ added ∧
    (∀ e ∈ added, ExpiresAt sim.validUntilLedger e) ∧ signBlobPayloads cfg st = .ok payloads ∧
    r = buildResult sim tx ready st payloads ruleID discovery method

section

variable {sim : Simulation} {ruleID : UInt32} (ha : Assembled cfg sim base entry ruleID ids r)
  (hrules : resolveContextRuleIDs entry (some ruleID) = some ids)

include ha hrules

theorem Assembled.agrees_entry : ∃ entries, Agrees cfg r entries entry := by
  obtain ⟨idx, ready, st, added, payloads, tx, _, _, hentry, hof, hst, -, -, rfl⟩ := ha.result
  refine ⟨_, (carries_buildResult hof _ _ _ _ _ _ _).agrees
    (List.getElem?_eq_some_iff.mp hentry).1 added ?_ hrules rfl⟩
  rw [set_append_self hentry, ← hst]
  rfl

theorem Assembled.agrees : ∃ entries entry, Agrees cfg r entries entry :=
  let ⟨entries, h⟩ := ha.agrees_entry hrules
  ⟨entries, entry, h⟩

end

theorem obeys_prepareSign (cfg : BuildConfig) (input : PrepareSignInput) :
    Obeys anyRun [] (prepareSign cfg input) (onOk fun h r =>
      ∃ sim ∈ simulations h, ∃ simulated entry ruleID, sim.entries = some simulated ∧
        entry ∈ setAddressCredentialExpiration simulated sim.validUntilLedger ∧
        Assembled cfg sim (setAddressCredentialExpiration simulated sim.validUntilLedger) entry
          ruleID (contextRuleIDsForEntry entry ruleID) r) := by
  refine obeys_ofExcept_bind fun op _ => ?_
  refine (obeys_any _).bind_onOk fun h₁ rule _ => ?_
  refine obeys_ofExcept_bind fun _ _ => ?_
  refine obeys_call_then fun answer => obeys_orFail_bind fun sim hsim => ?_
  subst hsim
  refine obeys_ofExcept_bind fun simulated hsimulated => ?_
  refine obeys_ofExcept_bind fun ⟨idx, entry⟩ hfound => ?_
  obtain ⟨-, hentry⟩ := smartAccountEntry_eq_ok hfound
  refine obeys_ofExcept_bind fun ready hready => ?_
  refine obeys_synthesizeSignerEntry.bind_onOk fun h₂ st ⟨hsims, added, hst, hadded⟩ => ?_
  refine obeys_ofExcept_bind fun payloads hpayloads => obeys_ofExcept_bind fun data _ => ?_
  refine obeys_ofExcept_bind fun envelope _ => .ok ⟨sim, hsims ▸ mem_cons_self, simulated, entry,
    rule.1, simulatedEntries_eq_ok hsimulated, mem_of_getElem? hentry, ?_⟩
  exact ⟨idx, ready, st, added, payloads, _, _, _, hentry, signable_eq_ok hready, hst, hadded,
    hpayloads, rfl⟩

/-- What a finished transfer went through; `Plan` is what is known of the plan for its fee. -/
structure SendBuilt (cfg : BuildConfig) (input : BuildSendInput) (catalog : List CatalogAsset)
    (Plan : InvokeContractArgs → String → Int → Log BuildRes → ForwardWrap → Prop)
    (h : Log BuildRes) (r : BuildAuthTransactionResult) : Prop where
  planned : ∃ asset hi lo target h₁ wrap auth,
    resolveAsset catalog input.assetID input.contractID = .ok asset ∧
    parseAmountToI128 input.amount asset.decimals = some (hi, lo) ∧
    transferCall input asset hi lo = .ok target ∧ h₁ ⊆ h ∧
    Plan target asset.contractID (i128ToInt hi lo) h₁ wrap ∧
    r.txXdr = .of (.v1 [.invokeHostFunction wrap.hostFunction auth])
  assembled : ∃ sim listed idx unsigned ruleID ids, unsigned.hasSourceAccount = false ∧
    (setAddressCredentialExpiration listed sim.validUntilLedger)[idx]? = some unsigned ∧ ids ≠ [] ∧
    Assembled cfg sim ((setAddressCredentialExpiration listed sim.validUntilLedger).set idx
      (embedContextRuleIDs unsigned ids)) (embedContextRuleIDs unsigned ids) ruleID ids r

theorem obeys_buildSend {input : BuildSendInput}
    {Plan : InvokeContractArgs → String → Int → Log BuildRes → ForwardWrap → Prop}
    (hplan : ∀ h target token amount, Obeys anyRun h
      (planForward cfg input.smartAccountAddress target token (some amount))
      (onOk (Plan target token amount))) (catalog : List CatalogAsset) :
    Obeys anyRun [] (buildSend cfg input catalog)
      (onOk fun h r => SendBuilt cfg input catalog Plan h r.toBuildAuthTransactionResult) := by
  refine obeys_ofExcept_bind fun asset hasset => obeys_ofExcept_bind fun ⟨hi, lo⟩ hamount => ?_
  refine (obeys_any _).bind_onOk fun h₁ rule _ => ?_
  refine obeys_ofExcept_bind fun target htarget => ?_
  refine (hplan _ _ _ _).bind_onOk fun h₂ wrap hwrap => ?_
  refine obeys_call_then fun answer => obeys_orFail_bind fun seq _ => ?_
  refine obeys_call_then fun answer => obeys_orFail_bind fun _ _ => ?_
  refine obeys_call_then fun answer => obeys_orFail_bind fun sim _ => ?_
  refine obeys_ofExcept_bind fun simulated _ => ?_
  refine obeys_ofExcept_bind fun ⟨idx, unsigned⟩ hfound => ?_
  obtain ⟨hidx, hentry⟩ := smartAccountEntry_eq_ok hfound
  refine (obeys_contextRuleIDsPerContext _ _ _).subset_onOk.bind_onOk fun h₃ ids ⟨hsub, hids⟩ => ?_
  refine obeys_ofExcept_bind fun ready hready => ?_
  refine obeys_synthesizeSignerEntry.subset_onOk.bind_onOk
    fun h₄ st ⟨hsub', _, added, hst, hadded⟩ => ?_
  refine obeys_ofExcept_bind fun payloads hpayloads => obeys_ofExcept_bind fun data _ => ?_
  refine obeys_call_then fun answer => obeys_orFail_bind fun _ _ => .ok ⟨?_, ?_⟩
  · refine ⟨asset, hi, lo, target, h₂, wrap, st.entries, mapError_eq_ok.mp hasset,
      orError_eq_ok.mp hamount, htarget, fun e he => ?_, hwrap, rfl⟩
    exact mem_cons_of_mem _ (hsub' (hsub (mem_cons_of_mem _ (mem_cons_of_mem _ (mem_cons_of_mem _ he)))))
  · exact ⟨sim, _, idx, unsigned, _, ids, hasSourceAccount_of_found hidx hentry, hentry, hids, idx,
      ready, st, added, payloads, _, _, _, getElem?_set_self (List.getElem?_eq_some_iff.mp hentry).1,
      signable_eq_ok hready, hst, hadded, hpayloads, rfl⟩

/-- A submission of a built transfer resolves to the rules that were signed, whichever rule it asks
for. -/
theorem buildSend_fixes_rules (cfg : BuildConfig) (input : BuildSendInput)
    (catalog : List CatalogAsset) : Obeys anyRun [] (buildSend cfg input catalog) (onOk fun _ r =>
      ∃ entries entry, Agrees cfg r.toBuildAuthTransactionResult entries entry ∧
        ∀ requested, resolveContextRuleIDs entry requested = some r.contextRuleIDs) := by
  refine (obeys_buildSend (fun _ _ _ _ => obeys_any _) catalog).mono_onOk fun _ r hr => ?_
  obtain ⟨_, _, _, _, _, _, hsource, -, hids, ha⟩ := hr.assembled
  have hrules := resolve_authPayload hsource hids []
  obtain ⟨entries, hagrees⟩ := ha.agrees_entry (hrules _)
  refine ⟨entries, _, hagrees, fun requested => ?_⟩
  exact (hrules requested).trans ((hrules _).symm.trans hagrees.rules)

end Builds

section Submissions

inductive Resubmits (r : BuildAuthTransactionResult) : SignerRequest → Prop
  | webauthn {input : SubmitWebAuthnInput} (hentries : input.authEntriesXdr = r.authEntriesXdr)
      (hindex : input.smartAccountAuthEntryIndex = r.smartAccountAuthEntryIndex)
      (hrule : input.contextRuleID = some r.contextRuleID) : Resubmits r (.webauthn input)
  | delegated {input : SubmitDelegatedInput} (hentries : input.authEntriesXdr = r.authEntriesXdr)
      (hindex : input.smartAccountAuthEntryIndex = r.smartAccountAuthEntryIndex)
      (hrule : input.contextRuleID = some r.contextRuleID) : Resubmits r (.delegated input)

def NamesSigned (cfg : BuildConfig) (r : BuildAuthTransactionResult)
    (e : SorobanAuthorizationEntry) : Prop :=
  contextRuleIDsFromSmartAccountAuthEntry e = r.contextRuleIDs ∧
    computeAuthDigestHex e cfg.networkPassphrase r.contextRuleIDs = some r.authDigestHex

def SubmitsSigned (cfg : BuildConfig) (r : BuildAuthTransactionResult) (op : TxOp) : Prop :=
  ∀ tx, handedOn op = some tx →
    ∃ e, (authEntriesOf tx)[r.smartAccountAuthEntryIndex]? = some e ∧ NamesSigned cfg r e

variable {cfg : BuildConfig} {X : Codec} {p : Prepared}

theorem buildWebAuthnAuthPayload_eq_ok {verifier : String} {keyData sigData : Bytes}
    {payload : ScVal} (h : buildWebAuthnAuthPayload verifier keyData sigData ids = .ok payload) :
    ∃ signers, payload = authPayload ids signers := by
  unfold buildWebAuthnAuthPayload at h
  split at h
  · cases h
  · exact ⟨_, (Except.ok.inj h).symm⟩

structure Attached (p : Prepared) (idx : Nat) (entry : SorobanAuthorizationEntry)
    (ids : List UInt32) : Prop where
  source : entry.hasSourceAccount = false
  attached : ∃ signers, p.entries[idx]? = some (entry.withSignature (authPayload ids signers))
  left : idx ∈ p.signedByClient

theorem attached_of_attachPayload {signers : List (ScVal × ScVal)} {others : List Nat}
    (hidx : idx < entries.length)
    (h : attachPayload entries idx entry ids (authPayload ids signers) (idx :: others) = .ok p) :
    Attached p idx entry ids := by
  obtain ⟨hsource, rfl⟩ := attachPayload_eq_ok h
  exact ⟨hsource, ⟨signers, getElem?_set_self hidx⟩, mem_cons_self⟩

section

variable {es : AuthEntries}

section

variable (ha : Agrees cfg r entries entry)

include ha

theorem Agrees.normalize_eq {given fallback : List (Encoded SorobanAuthorizationEntry)}
    (hgiven : given = r.authEntriesXdr) :
    normalizeAuthEntries (withDefault given fallback) = some entries := by
  have hlt := (List.getElem?_eq_some_iff.mp ha.entry_at).1
  have hdefault : withDefault given fallback = encodeEntries entries := by
    cases entries with
    | nil => cases hlt
    | cons e es =>
      rw [hgiven, ha.entries_eq]
      rfl
  rw [hdefault]
  exact Multisig.normalizeAuthEntries_map_of entries

theorem Agrees.entryAt_eq {index : Int} (hindex : index = r.smartAccountAuthEntryIndex)
    (h : entryAt entries index = .ok (idx, e)) :
    idx = r.smartAccountAuthEntryIndex ∧ e = entry := by
  obtain ⟨he, hidx⟩ := entryAt_eq_ok h
  rw [hindex, Int.ofNat_inj] at hidx
  subst hidx
  rw [ha.entry_at] at he
  exact ⟨rfl, (Option.some.inj he).symm⟩

theorem Agrees.rules_eq {requested : Option UInt32} (hrequested : requested = some r.contextRuleID)
    (h : orRuleRequired (resolveContextRuleIDs entry requested) = .ok ids) :
    ids = r.contextRuleIDs := by
  rw [hrequested, ha.rules] at h
  exact (Option.some.inj (orError_eq_ok.mp h)).symm

theorem Agrees.attached {req : SignerRequest} (hreq : Resubmits r req)
    (hp : req.prepare cfg.toTxConfig X = .ok p) :
    Attached p r.smartAccountAuthEntryIndex entry r.contextRuleIDs := by
  have hlt := (List.getElem?_eq_some_iff.mp ha.entry_at).1
  cases hreq with
  | @webauthn input hentries hindex hrule =>
    change prepareWebAuthn _ input = _ at hp
    unfold prepareWebAuthn at hp
    rw [ha.normalize_eq hentries] at hp
    obtain ⟨entries', hentries', hp⟩ := bind_eq_ok.mp hp
    cases hentries'
    obtain ⟨⟨idx, e⟩, hat, hp⟩ := bind_eq_ok.mp hp
    obtain ⟨rfl, rfl⟩ := ha.entryAt_eq hindex hat
    obtain ⟨sigData, -, hp⟩ := bind_eq_ok.mp hp
    obtain ⟨keyData, -, hp⟩ := bind_eq_ok.mp hp
    obtain ⟨ids, hids, hp⟩ := bind_eq_ok.mp hp
    obtain rfl := ha.rules_eq hrule hids
    obtain ⟨payload, hpayload, hp⟩ := bind_eq_ok.mp hp
    obtain ⟨signers, rfl⟩ := buildWebAuthnAuthPayload_eq_ok hpayload
    exact attached_of_attachPayload hlt hp
  | @delegated input hentries hindex hrule =>
    change prepareDelegated _ input = _ at hp
    unfold prepareDelegated at hp
    rw [ha.normalize_eq hentries] at hp
    obtain ⟨entries', hentries', hp⟩ := bind_eq_ok.mp hp
    cases hentries'
    obtain ⟨⟨idx, e⟩, hat, hp⟩ := bind_eq_ok.mp hp
    obtain ⟨rfl, rfl⟩ := ha.entryAt_eq hindex hat
    obtain ⟨i, -, hp⟩ := bind_eq_ok.mp hp
    obtain ⟨signed, -, hp⟩ := bind_eq_ok.mp hp
    obtain ⟨ids, hids, hp⟩ := bind_eq_ok.mp hp
    obtain rfl := ha.rules_eq hrule hids
    obtain ⟨payload, hpayload, hp⟩ := bind_eq_ok.mp hp
    obtain ⟨signer, -, rfl⟩ := buildDelegatedAuthPayload_eq_ok hpayload
    exact attached_of_attachPayload (by simpa using hlt) hp

end

theorem getElem?_of_signedByBundler {tx : TxConfig} {sc : List Nat} {i j : Nat} {es' : AuthEntries}
    (h : SignedByBundler tx sc i es es') (hj : i + j ∈ sc) : es'[j]? = es[j]? := by
  induction h generalizing j with
  | nil i => rfl
  | @keep i e es es' _ _ ih =>
    cases j with
    | zero => rfl
    | succ j => exact ih (by rwa [Nat.add_right_comm, Nat.add_assoc])
  | @sign i e es es' _ hleft _ _ ih =>
    cases j with
    | zero => simp [leftToBundler, show i ∈ sc from hj] at hleft
    | succ j => exact ih (by rwa [Nat.add_right_comm, Nat.add_assoc])

theorem always_submit_of (he : es[r.smartAccountAuthEntryIndex]? = some e)
    (hsigned : NamesSigned cfg r e) (tx : Encoded TransactionEnvelope) :
    Always (SubmitsSigned cfg r) (submitWithBundler cfg.toTxConfig tx es) := by
  refine (always_handsOn cfg.toTxConfig tx es).mono fun op hop sent hsent => ?_
  rw [hop sent hsent]
  exact ⟨e, he, hsigned⟩

theorem Agrees.submits (ha : Agrees cfg r entries entry) {req : SignerRequest}
    (hreq : Resubmits r req) : Always (SubmitsSigned cfg r) (req.body cfg.toTxConfig X) := by
  refine (always_body_iff cfg.toTxConfig X req _).mpr fun p hp => ?_
  obtain ⟨hsource, ⟨signers, hentry⟩, hleft⟩ := ha.attached hreq hp
  have hsigned : NamesSigned cfg r (entry.withSignature (authPayload r.contextRuleIDs signers)) := by
    refine ⟨ruleIDs_authPayload hsource _ _, ?_⟩
    rw [computeAuthDigestHex_of_withSignature]
    exact ha.digest
  unfold signAndSubmit
  cases req.synthesized with
  | false => exact always_submit_of hentry hsigned _
  | true =>
    simp only [if_true, always_signBundlerEntries]
    refine ⟨fun e _ payload _ tx htx => (nomatch htx), fun es' hes => ?_⟩
    refine always_submit_of ?_ hsigned _
    rw [getElem?_of_signedByBundler hes (by simpa using hleft), hentry]

end

end Submissions

section Requests

inductive BuildRequest where
  | send (input : BuildSendInput) (catalog : List CatalogAsset)
  | prepareSign (input : PrepareSignInput)
  | core (input : AuthTransactionCoreInput)
      (buildTx : AuthEntries → Option Bytes → Transaction)

def BuildRequest.body (cfg : BuildConfig) : BuildRequest → Builder BuildAuthTransactionResult
  | send input catalog => do
    let r ← buildSend cfg input catalog
    return r.toBuildAuthTransactionResult
  | .prepareSign input => Build.prepareSign cfg input
  | core input buildTx => buildAuthTransactionCore cfg input buildTx

theorem BuildRequest.obeys_body (cfg : BuildConfig) (b : BuildRequest) :
    Obeys anyRun [] (b.body cfg) (onOk fun h r =>
      (∀ sim ∈ simulations h, sim.Unsigned) → ∃ entries entry, Agrees cfg r entries entry) := by
  cases b with
  | send input catalog =>
    refine (obeys_buildSend (fun _ _ _ _ => obeys_any _) catalog).bind_onOk fun h r hr => .ok fun _ => ?_
    obtain ⟨sim, listed, idx, unsigned, ruleID, ids, hsource, -, hids, ha⟩ := hr.assembled
    exact ha.agrees (resolve_authPayload hsource hids _ _)
  | prepareSign input =>
    refine (obeys_prepareSign cfg input).mono_onOk fun h r hr hunsigned => ?_
    obtain ⟨sim, hsim, simulated, entry, ruleID, hsimulated, hentry, ha⟩ := hr
    exact ha.agrees (resolve_of_void (void_of_mem_expiration (hunsigned sim hsim _ hsimulated) hentry) _)
  | core input buildTx =>
    refine (obeys_buildAuthTransactionCore cfg input buildTx).mono_onOk fun h r hr hunsigned => ?_
    obtain ⟨sim, simulated, idx, entry, hb⟩ := hr
    exact hb.agrees (hunsigned sim (hb.ends.heard ▸ mem_singleton_self sim))

theorem unsigned_of_script {p : Builder α} {script : Script BuildRes}
    (hscript : ∀ h op, UnsignedAnswer op (script h op)) :
    ∀ sim ∈ simulations (p.runWith script []).2, sim.Unsigned := by
  intro sim hsim
  obtain ⟨⟨op, answer⟩, he, hsim⟩ := mem_filterMap.mp hsim
  rcases mem_runWith he with he | ⟨h', hanswer⟩
  · cases he
  · exact hscript h' op sim (hanswer ▸ hsim)

/-- Whatever is submitted of a build names the rules that the build returned, and its digest under
them is the one that the build returned for signing. -/
theorem submitted_rules_are_signed (cfg : BuildConfig) (X : Codec) (b : BuildRequest)
    (script : Script BuildRes) (hscript : ∀ h op, UnsignedAnswer op (script h op))
    (r : BuildAuthTransactionResult) (h : Log BuildRes)
    (hbuilt : (b.body cfg).runWith script [] = (.ok r, h)) (req : SignerRequest)
    (hreq : Resubmits r req) :
    Always (SubmitsSigned cfg r) (req.body cfg.toTxConfig X) := by
  have hlegal : ∀ h op, anyRun.legal op (script h op) := fun _ _ => trivial
  have hends := (b.obeys_body cfg).runWith hlegal
  have hunsigned := unsigned_of_script (p := b.body cfg) hscript
  rw [hbuilt] at hends hunsigned
  obtain ⟨entries, entry, ha⟩ := hends hunsigned
  exact ha.submits hreq

namespace Sample

def passkeyInput : AuthTransactionCoreInput where
  smartAccountAddress := contractText (key 2)
  contextRuleID := 3
  signerType := .passkey
  signerG := ""
  feePayerG := ""
  bundlerDelegatedAuthMode := false
  delegatedAuthG := ""
  dropAuthAddress := ""

def passkeySubmission (r : BuildAuthTransactionResult) : SubmitWebAuthnInput where
  txXdr := r.txXdr
  authEntryXdr := r.authEntryXdr
  sigDataXdr := "00"
  keyDataHex := "04"
  contextRuleID := some r.contextRuleID
  authEntriesXdr := r.authEntriesXdr
  smartAccountAuthEntryIndex := r.smartAccountAuthEntryIndex
  delegatedGAuthEntrySynthesized := r.delegatedGAuthEntrySynthesized

def accepting (_ : Log TxRes) : (op : TxOp) → TxRes op
  | .feeTokens => .error .other
  | .ledgerSequence _ => .ok 1
  | .buildTransaction _ => .ok ()
  | .simulate _ => .ok ⟨"", .of []⟩
  | .signPayload _ _ => .ok []
  | .send _ => .ok ⟨"hash", false, ""⟩
  | .getTransaction _ => .ok (.success "")
  | .gaslessSubmit _ _ _ _ => .error (.other, "")
  | .tokenBalance _ _ => .error .failed

theorem unsigned_answers (nonces : List Int64) (h : Log BuildRes) (op : BuildOp) :
    UnsignedAnswer op (answers nonces h op) := by
  intro sim hsim
  cases op with
  | simulate tx =>
    cases hsim
    rintro entries hentries e he creds hcreds
    cases hentries
    obtain rfl := mem_singleton.mp he
    cases hcreds
    rfl
  | _ => cases hsim

def passkeyRun : Except BuildError BuildAuthTransactionResult × Log BuildRes :=
  ((BuildRequest.core passkeyInput buildTx).body config).runWith (answers []) []

def reaches (r : BuildAuthTransactionResult) : Bool :=
  ((submitWebAuthn config.toTxConfig (passkeySubmission r)).runWith accepting []).2.any fun e =>
    (handedOn e.1).isSome

end Sample

theorem Sample.passkey_submission_signed : ∃ r h,
    ((BuildRequest.core Sample.passkeyInput Sample.buildTx).body Sample.config).runWith
        (Sample.answers []) [] = (.ok r, h) ∧
      Sample.reaches r = true ∧ Always (SubmitsSigned Sample.config r)
        ((SignerRequest.webauthn (Sample.passkeySubmission r)).body Sample.config.toTxConfig
          noCodec) := by
  have hcheck : (Sample.passkeyRun.1.toOption.any Sample.reaches) = true := by decide +kernel
  obtain ⟨r, h, hrun, hreaches⟩ := exists_ok_of_any hcheck
  exact ⟨r, h, hrun, hreaches, submitted_rules_are_signed _ _ _ _ (Sample.unsigned_answers []) r h hrun
    _ (.webauthn rfl rfl rfl)⟩

end Requests

end LatchApi.Build
