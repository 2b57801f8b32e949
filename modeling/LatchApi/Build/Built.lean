import LatchApi.Build.Core

namespace LatchApi.Build

open Lib Program Soroban Bundler List

variable {h : Log BuildRes} {context : String}

section History

def simulationOf : Event BuildRes → Option Simulation
  | ⟨.simulate _, .ok sim⟩ => some sim
  | ⟨.simulateEnvelope _, .ok sim⟩ => some sim
  | _ => none

def drawOf : Event BuildRes → Option (String × Int64)
  | ⟨.randomNonce48 signerG, .ok nonce⟩ => some (signerG, nonce)
  | _ => none

def simulations (h : Log BuildRes) : List Simulation := h.filterMap simulationOf

def drawn (h : Log BuildRes) : List (String × Int64) := h.filterMap drawOf

def anyRun : Discipline BuildOp BuildRes := ⟨fun _ _ => True, fun _ _ => True⟩

variable {α β : Type} {R : Log BuildRes → β → Prop}

theorem obeys_call_then {op : BuildOp} {f : BuildRes op → Builder β}
    (hf : ∀ r, Obeys anyRun (⟨op, r⟩ :: h) (f r) (onOk R)) :
    Obeys anyRun h (perform op >>= f) (onOk R) :=
  (obeys_perform_then op f _).mpr ⟨trivial, fun r _ => hf r⟩

theorem obeys_any (p : Builder α) : Obeys anyRun h p (onOk fun _ _ => True) :=
  (always_of_forall (fun _ => trivial) p).obeys fun _ _ _ => trivial

end History

variable {g : String} {e : SorobanAuthorizationEntry} {smart : String} {idx : Nat}
  {entry : SorobanAuthorizationEntry} {ids : List UInt32} {cfg : BuildConfig} {ready : Signable}

section Entries

def signerNonce (e : SorobanAuthorizationEntry) : Option (String × Int64) :=
  e.addressCredentials.bind fun creds => (addressString creds.address).map fun g => (g, creds.nonce)

def ofAddress (address : String) (e : SorobanAuthorizationEntry) : Bool :=
  addressStringFromCredentials e == some address

def expiring (validUntil : UInt32) (e : SorobanAuthorizationEntry) : SorobanAuthorizationEntry :=
  match e.credentials with
  | .address creds =>
    { e with credentials := .address { creds with signatureExpirationLedger := validUntil } }
  | .sourceAccount => e

theorem signerNonce_expiring (validUntil : UInt32) (e : SorobanAuthorizationEntry) :
    signerNonce (expiring validUntil e) = signerNonce e := by
  obtain ⟨credentials, invocation⟩ := e
  cases credentials <;> rfl

theorem ofAddress_expiring (address : String) (validUntil : UInt32) :
    ofAddress address ∘ expiring validUntil = ofAddress address := by
  funext e
  obtain ⟨credentials, invocation⟩ := e
  cases credentials <;> rfl

theorem signerNonce_checkAuthEntry {smartAccount signer : ScAddress}
    (hg : scAddressFromString g = some signer) (digest : Bytes) (nonce : Int64) (exp : UInt32) :
    signerNonce (checkAuthEntry smartAccount signer digest nonce exp) = some (g, nonce) := by
  simp [signerNonce, checkAuthEntry, SorobanAuthorizationEntry.addressCredentials,
    addressString_of_text hg]

@[simp] theorem signerNonce_withSignature (e : SorobanAuthorizationEntry) (signature : ScVal) :
    signerNonce (e.withSignature signature) = signerNonce e := by
  obtain ⟨credentials, invocation⟩ := e
  cases credentials <;> rfl

theorem classify_eq_smartAccountCustom {signerG : String} :
    classifyAuthEntryRole e smart signerG = .smartAccountCustom ↔ ofAddress smart e = true := by
  unfold classifyAuthEntryRole ofAddress
  cases addressStringFromCredentials e with
  | none => simp
  | some addr =>
    by_cases haddr : addr = smart
    · simp [haddr]
    · by_cases hsigner : signerG ≠ "" ∧ addr = signerG <;> simp [haddr, hsigner]

theorem smartAccountEntry_eq_ok {missing signerG : String} {entries : AuthEntries}
    (h : smartAccountEntry missing smart signerG entries = .ok (idx, entry)) :
    entries.findIdx? (ofAddress smart) = some idx ∧ entries[idx]? = some entry := by
  obtain ⟨i, hi, h⟩ := bind_eq_ok.mp h
  obtain ⟨e, he, h⟩ := bind_eq_ok.mp h
  cases h
  refine ⟨?_, orError_eq_ok.mp he⟩
  rw [← orError_eq_ok.mp hi]
  congr 1
  funext e
  rw [Bool.eq_iff_iff, decide_eq_true_iff, classify_eq_smartAccountCustom]

theorem hasSourceAccount_of_address {address : String}
    (h : ofAddress address e = true) : e.hasSourceAccount = false := by
  unfold ofAddress addressStringFromCredentials at h
  unfold SorobanAuthorizationEntry.hasSourceAccount
  cases hcreds : e.addressCredentials with
  | none => simp [hcreds] at h
  | some creds => rfl

theorem hasSourceAccount_of_found {address : String} {entries : AuthEntries}
    (hfound : entries.findIdx? (ofAddress address) = some idx) (hentry : entries[idx]? = some entry) :
    entry.hasSourceAccount = false := by
  obtain ⟨_, haddress, -⟩ := findIdx?_eq_some_iff_getElem.mp hfound
  obtain ⟨_, hentry⟩ := List.getElem?_eq_some_iff.mp hentry
  exact hasSourceAccount_of_address (hentry ▸ haddress)

theorem contextRuleIDsForEntry_ne_nil (e : SorobanAuthorizationEntry) (ruleID : UInt32) :
    contextRuleIDsForEntry e ruleID ≠ [] := by
  obtain ⟨credentials, function, subInvocations⟩ := e
  simp [contextRuleIDsForEntry, countAuthContexts]

theorem mapM_u32Of (ids : List UInt32) : ids.mapM (u32Of ∘ scU32) = some ids := by
  induction ids with
  | nil => rfl
  | cons id ids ih => simp [ih, scU32, u32Of]

theorem buildDelegatedAuthPayload_eq_ok {payload : ScVal}
    (h : buildDelegatedAuthPayload g ids = .ok payload) :
    ∃ signer, scAddress g = some signer ∧
      payload = authPayload ids [(delegatedKey signer, scBytes [])] := by
  unfold buildDelegatedAuthPayload at h
  split at h
  · cases h
  · rename_i signer hsigner
    exact ⟨signer, hsigner, (Except.ok.inj h).symm⟩

theorem ruleIDs_authPayload (hsource : e.hasSourceAccount = false) (ids : List UInt32)
    (signers : List (ScVal × ScVal)) :
    contextRuleIDsFromSmartAccountAuthEntry (e.withSignature (authPayload ids signers)) = ids := by
  obtain ⟨credentials, invocation⟩ := e
  cases credentials with
  | sourceAccount => cases hsource
  | address creds =>
    simp [contextRuleIDsFromSmartAccountAuthEntry, SorobanAuthorizationEntry.withSignature,
      SorobanAuthorizationEntry.addressCredentials, authPayload, scMap, embeddedRuleIDs, scMapEntry,
      scSymbol, isSymbol, ruleIDVals, scVec, mapM_u32Of]

theorem resolve_authPayload (hsource : e.hasSourceAccount = false) (hids : ids ≠ [])
    (signers : List (ScVal × ScVal)) (requested : Option UInt32) :
    resolveContextRuleIDs (e.withSignature (authPayload ids signers)) requested = some ids := by
  unfold resolveContextRuleIDs
  rw [ruleIDs_authPayload hsource]
  cases ids with
  | nil => exact absurd rfl hids
  | cons id ids => rfl

def Simulation.entries (sim : Simulation) : Option AuthEntries :=
  sim.auth.bind normalizeAuthEntries

theorem simulatedEntries_eq_ok {sim : Simulation} {entries : AuthEntries}
    (h : simulatedEntries context sim = .ok entries) :
    sim.entries = some entries := by
  unfold simulatedEntries at h
  by_cases herror : sim.error ≠ ""
  · rw [if_pos herror] at h
    cases h
  rw [if_neg herror] at h
  obtain ⟨raw, hraw, h⟩ := bind_eq_ok.mp h
  rw [Simulation.entries, orError_eq_ok.mp hraw]
  exact orError_eq_ok.mp h

structure Signable.Of (cfg : BuildConfig) (ready : Signable) (idx : Nat)
    (entry : SorobanAuthorizationEntry) (ids : List UInt32) : Prop where
  idx_eq : ready.idx = idx
  entry_eq : ready.entry = entry
  ids_eq : ready.contextRuleIDs = ids
  payload : hashSorobanAuthPayload entry cfg.networkPassphrase = some ready.signaturePayload
  digest : computeAuthDigest entry cfg.networkPassphrase ids = some ready.authDigest

theorem signable_eq_ok (h : signable cfg idx entry ids = .ok ready) :
    ready.Of cfg idx entry ids := by
  obtain ⟨payload, hpayload, h⟩ := bind_eq_ok.mp h
  obtain ⟨digest, hdigest, h⟩ := bind_eq_ok.mp h
  cases h
  exact ⟨rfl, rfl, rfl, orError_eq_ok.mp hpayload, orError_eq_ok.mp hdigest⟩

end Entries

variable {sims : List Simulation} {exp : UInt32} {nonce : Int64}

section Synthesis

structure Synthesis.Tracks (sims : List Simulation) (base : AuthEntries) (h : Log BuildRes)
    (st : Synthesis) : Prop where
  heard : simulations h = sims
  added : ∃ added, st.entries = base ++ added ∧ added.map signerNonce = (drawn h).reverse.map some

variable {base : AuthEntries} {h' : Log BuildRes} {st : Synthesis}
  {digest : Bytes}

theorem Synthesis.Tracks.set (ht : st.Tracks sims base h) (hidx : idx < base.length)
    (e : SorobanAuthorizationEntry) :
    Synthesis.Tracks sims (base.set idx e) h { st with entries := st.entries.set idx e } := by
  obtain ⟨added, hentries, hdrawn⟩ := ht.added
  refine ⟨ht.heard, added, ?_, hdrawn⟩
  simp [hentries, hidx]

structure Drew (h : Log BuildRes) (smartAccountAddress signerG : String) (digest : Bytes)
    (exp : UInt32) (h' : Log BuildRes) (e : SorobanAuthorizationEntry) (nonce : Int64) :
    Prop where
  smartAccount : ∃ a b, scAddressFromString smartAccountAddress = some a ∧
    scAddressFromString signerG = some b ∧ e = checkAuthEntry a b digest nonce exp
  history : h' = ⟨.randomNonce48 signerG, .ok nonce⟩ :: h

section

variable (hd : Drew h smart g digest exp h' e nonce)

include hd

theorem Drew.signerNonce_eq : signerNonce e = some (g, nonce) := by
  obtain ⟨a, b, -, hb, rfl⟩ := hd.smartAccount
  exact signerNonce_checkAuthEntry hb _ _ _

theorem Drew.drawn_eq : drawn h' = (g, nonce) :: drawn h := by
  rw [hd.history]
  rfl

theorem Drew.simulations_eq : simulations h' = simulations h := by
  rw [hd.history]
  rfl

end

theorem obeys_buildUnsigned (smart g : String) (digest : Bytes) (exp : UInt32) :
    Obeys anyRun h (buildUnsignedDelegatedGCheckAuthEntry smart g digest exp)
      (onOk fun h' e => ∃ nonce, Drew h smart g digest exp h' e nonce) := by
  refine obeys_ofExcept_bind fun a ha => obeys_ofExcept_bind fun b hb => ?_
  refine obeys_call_then fun r => obeys_orFail_bind fun nonce hnonce => .ok ?_
  subst hnonce
  exact ⟨nonce, ⟨a, b, orError_eq_ok.mp ha, orError_eq_ok.mp hb, rfl⟩, rfl⟩

theorem Synthesis.Tracks.append (ht : st.Tracks sims base h)
    (hd : Drew h smart g digest exp h' e nonce) : (st.append e).Tracks sims base h' := by
  obtain ⟨added, hentries, hdrawn⟩ := ht.added
  refine ⟨hd.simulations_eq.trans ht.heard, added ++ [e], ?_, ?_⟩
  · simp [Synthesis.append, hentries]
  · simp [hdrawn, hd.drawn_eq, hd.signerNonce_eq]

theorem obeys_synthesizeDelegatedGEntry (ht : st.Tracks sims base h) (smart g : String)
    (digest : Bytes) (exp : UInt32) :
    Obeys anyRun h (synthesizeDelegatedGEntry smart g digest exp st)
      (onOk fun h' st' => st'.Tracks sims base h') := by
  unfold synthesizeDelegatedGEntry
  split
  · exact .ok ht
  refine (obeys_buildUnsigned smart g digest exp).bind_onOk fun h' e hd => .ok ?_
  obtain ⟨nonce, hd⟩ := hd
  exact ht.append hd

theorem obeys_synthesizeIf (ht : st.Tracks sims base h) (input : AuthTransactionCoreInput)
    (exp : UInt32) (ready : Signable) (needed : Prop) [Decidable needed] (g : String) :
    Obeys anyRun h (synthesizeEntries.synthesizeIf input exp ready needed g st)
      (onOk fun h' st' => st'.Tracks sims base h') := by
  unfold synthesizeEntries.synthesizeIf
  split
  · exact obeys_synthesizeDelegatedGEntry ht _ _ _ _
  · exact .ok ht

theorem obeys_synthesizeEntries (input : AuthTransactionCoreInput) (exp : UInt32)
    (ready : Signable) (hsims : simulations h = sims) (hdrawn : drawn h = []) :
    Obeys anyRun h (synthesizeEntries input exp ready base)
      (onOk fun h' st' => st'.Tracks sims base h') := by
  have hstart : Synthesis.Tracks sims base h ⟨base, delegatedNativeIndices
      input.smartAccountAddress input.signerGStr base, false⟩ :=
    ⟨hsims, [], by simp, by simp [hdrawn]⟩
  refine (obeys_synthesizeIf hstart input exp ready _ _).bind_onOk fun h' st ht => ?_
  exact obeys_synthesizeIf ht input exp ready _ _

end Synthesis

variable {input : AuthTransactionCoreInput} {r : BuildAuthTransactionResult}
  {entries' : AuthEntries} {ruleID : UInt32}

section Core

structure Carries (cfg : BuildConfig) (idx : Nat) (entry : SorobanAuthorizationEntry)
    (contextRuleID : UInt32) (ids : List UInt32) (r : BuildAuthTransactionResult) : Prop where
  index_eq : r.smartAccountAuthEntryIndex = idx
  ruleID_eq : r.contextRuleID = contextRuleID
  ids_eq : r.contextRuleIDs = ids
  digest_eq : computeAuthDigestHex entry cfg.networkPassphrase ids = some r.authDigestHex

theorem carries_buildResult (hready : ready.Of cfg idx entry ids) (sim : Simulation)
    (tx : TransactionEnvelope) (st : Synthesis) (payloads : List Bytes) (contextRuleID : UInt32)
    (discovery : Option Multisig.ContextRuleDiscovery) (submitMethod : SubmitMethod) :
    Carries cfg idx entry contextRuleID ids
      (buildResult sim tx ready st payloads contextRuleID discovery submitMethod) where
  index_eq := hready.idx_eq
  ruleID_eq := rfl
  ids_eq := hready.ids_eq
  digest_eq := by simp [computeAuthDigestHex, hready.digest, buildResult]

inductive Resigned (ids : List UInt32) (entry : SorobanAuthorizationEntry) :
    SorobanAuthorizationEntry → Prop
  | kept : Resigned ids entry entry
  | delegated {g : String} {payload : ScVal} (hpayload : buildDelegatedAuthPayload g ids = .ok payload) :
    Resigned ids entry (entry.withSignature payload)

def AuthTransactionCoreInput.templateG (input : AuthTransactionCoreInput) : String :=
  if input.bundlerDelegatedAuthMode then input.authG else input.signerGStr

structure Templated (g : String) (ids : List UInt32) (entry final : SorobanAuthorizationEntry)
    (added : AuthEntries) (h : Log BuildRes) (r : BuildAuthTransactionResult) : Prop where
  drew : ∃ t nonce earlier, r.gAddressEntryTemplateXdr = .of t ∧ signerNonce t = some (g, nonce) ∧
    drawn h = (g, nonce) :: earlier ∧ added.map signerNonce = earlier.reverse.map some
  final_eq : ∃ payload, buildDelegatedAuthPayload g ids = .ok payload ∧
    final = entry.withSignature payload

structure Sends (g : String) (base : AuthEntries) (idx : Nat) (entry : SorobanAuthorizationEntry)
    (ids : List UInt32) (h : Log BuildRes) (r : BuildAuthTransactionResult)
    (final : SorobanAuthorizationEntry) (added : AuthEntries) : Prop where
  entries_eq : r.authEntriesXdr = encodeEntries (base.set idx final ++ added)
  resigned : Resigned ids entry final
  templated : r.submitMethod = .delegated → Templated g ids entry final added h r

structure Ends (cfg : BuildConfig) (sims : List Simulation) (g : String) (base : AuthEntries)
    (idx : Nat) (entry : SorobanAuthorizationEntry) (contextRuleID : UInt32) (ids : List UInt32)
    (h : Log BuildRes) (r : BuildAuthTransactionResult) : Prop where
  heard : simulations h = sims
  carries : Carries cfg idx entry contextRuleID ids r
  sends : ∃ final added, Sends g base idx entry ids h r final added

def AuthTransactionCoreInput.base (input : AuthTransactionCoreInput) (sim : Simulation)
    (simulated : AuthEntries) : AuthEntries :=
  setAddressCredentialExpiration (input.kept simulated) sim.validUntilLedger

structure CoreBuilt (cfg : BuildConfig) (input : AuthTransactionCoreInput) (sim : Simulation)
    (simulated : AuthEntries) (idx : Nat) (entry : SorobanAuthorizationEntry) (h : Log BuildRes)
    (r : BuildAuthTransactionResult) : Prop where
  simulated_eq : sim.entries = some simulated
  found : (input.base sim simulated).findIdx? (ofAddress input.smartAccountAddress) = some idx
  entry_at : (input.base sim simulated)[idx]? = some entry
  ends : Ends cfg [sim] input.templateG (input.base sim simulated) idx entry input.contextRuleID
    (contextRuleIDsForEntry entry input.contextRuleID) h r

section

variable {sim : Simulation} {simulated : AuthEntries}

theorem CoreBuilt.idx_lt (hb : CoreBuilt cfg input sim simulated idx entry h r) :
    idx < (input.base sim simulated).length := (List.getElem?_eq_some_iff.mp hb.entry_at).1

theorem CoreBuilt.hasSourceAccount (hb : CoreBuilt cfg input sim simulated idx entry h r) :
    entry.hasSourceAccount = false := hasSourceAccount_of_found hb.found hb.entry_at

end

theorem rewrite_eq_ok {entries : AuthEntries}
    (h : rewriteSmartAccountEntrySignature entries idx g ids = .ok entries') :
    ∃ payload entry, buildDelegatedAuthPayload g ids = .ok payload ∧ entries[idx]? = some entry ∧
      entries' = entries.set idx (entry.withSignature payload) := by
  unfold rewriteSmartAccountEntrySignature at h
  split at h
  · rename_i payload entry hpayload hentry
    by_cases hsource : entry.hasSourceAccount = true
    · rw [if_pos hsource] at h
      cases h
    · rw [if_neg hsource] at h
      exact ⟨payload, entry, hpayload, hentry, (Except.ok.inj h).symm⟩
  · cases h

variable {base : AuthEntries} {st : Synthesis}

theorem Synthesis.Tracks.entry_at (ht : st.Tracks sims base h) (hentry : base[idx]? = some entry) :
    st.entries[idx]? = some entry := by
  obtain ⟨added, hentries, -⟩ := ht.added
  have hidx := (List.getElem?_eq_some_iff.mp hentry).1
  rw [hentries, getElem?_append_left hidx, hentry]

theorem Synthesis.Tracks.rewritten (ht : st.Tracks sims base h) (hentry : base[idx]? = some entry)
    (hrewrite : rewriteSmartAccountEntrySignature st.entries idx g ids = .ok entries') :
    ∃ payload, buildDelegatedAuthPayload g ids = .ok payload ∧
      Synthesis.Tracks sims (base.set idx (entry.withSignature payload)) h
        { st with entries := entries' } := by
  obtain ⟨payload, e, hpayload, he, rfl⟩ := rewrite_eq_ok hrewrite
  rw [ht.entry_at hentry] at he
  cases he
  exact ⟨payload, hpayload, ht.set (List.getElem?_eq_some_iff.mp hentry).1 _⟩

theorem obeys_buildTemplates (smart g : String) (digest : Bytes) (exp : UInt32) :
    Obeys anyRun h (buildDelegatedSigningTemplates cfg smart g digest exp)
      (onOk fun h' t => ∃ nonce, Drew h smart g digest exp h' t.2 nonce) := by
  refine (obeys_buildUnsigned smart g digest exp).bind_onOk fun h' e hd => ?_
  exact obeys_ofExcept_bind fun preimage _ => .ok hd

theorem obeys_withTemplate {payload : ScVal} {digest : Bytes}
    (ht : st.Tracks sims (base.set idx (entry.withSignature payload)) h)
    (hpayload : buildDelegatedAuthPayload g ids = .ok payload)
    (hentries : r.authEntriesXdr = encodeEntries st.entries)
    (hcarries : Carries cfg idx entry ruleID ids r) :
    Obeys anyRun h (do
        let template ← buildDelegatedSigningTemplates cfg smart g digest exp
        return r.withTemplate template)
      (onOk (Ends cfg sims g base idx entry ruleID ids)) := by
  obtain ⟨added, hst, hadded⟩ := ht.added
  refine (obeys_buildTemplates smart g digest exp).bind_onOk fun h' t hd => .ok ?_
  obtain ⟨nonce, hd⟩ := hd
  refine ⟨hd.simulations_eq.trans ht.heard, ⟨hcarries.1, hcarries.2, hcarries.3, hcarries.4⟩,
    entry.withSignature payload, added, ?_, .delegated hpayload, fun _ => ⟨?_, payload, hpayload, rfl⟩⟩
  · rw [← hst]
    exact hentries
  · exact ⟨t.2, nonce, drawn h, rfl, hd.signerNonce_eq, hd.drawn_eq, hadded⟩

theorem ends_of_tracks {final : SorobanAuthorizationEntry}
    (ht : st.Tracks sims (base.set idx final) h) (hfinal : Resigned ids entry final)
    (hentries : r.authEntriesXdr = encodeEntries st.entries)
    (hcarries : Carries cfg idx entry ruleID ids r) (hmethod : r.submitMethod ≠ .delegated) :
    Ends cfg sims g base idx entry ruleID ids h r := by
  obtain ⟨added, hst, -⟩ := ht.added
  refine ⟨ht.heard, hcarries, final, added, ?_, hfinal, fun h => absurd h hmethod⟩
  rw [hentries, hst]

theorem obeys_chooseSigning (hready : ready.Of cfg idx entry ids) (hentry : base[idx]? = some entry)
    (ht : st.Tracks sims base h) (hentries : r.authEntriesXdr = encodeEntries st.entries)
    (hcarries : Carries cfg idx entry ruleID ids r) :
    Obeys anyRun h (chooseSigning cfg input exp ready st r)
      (onOk (Ends cfg sims input.templateG base idx entry ruleID ids)) := by
  have hkept : base.set idx entry = base := by
    obtain ⟨hidx, rfl⟩ := List.getElem?_eq_some_iff.mp hentry
    exact set_getElem_self hidx
  unfold chooseSigning
  rw [hready.idx_eq, hready.ids_eq]
  by_cases hmode : input.bundlerDelegatedAuthMode = true
  · rw [if_pos hmode]
    have hg : input.templateG = input.authG := by simp [AuthTransactionCoreInput.templateG, hmode]
    rw [hg]
    by_cases hempty : input.authG = ""
    · rw [if_pos hempty]
      exact .fail trivial
    rw [if_neg hempty]
    refine obeys_ofExcept_bind fun entries hrewrite => ?_
    obtain ⟨payload, hpayload, ht⟩ := ht.rewritten hentry hrewrite
    refine (obeys_synthesizeDelegatedGEntry ht _ _ _ _).bind_onOk fun h' st' ht' => ?_
    split
    · exact .ok (ends_of_tracks ht' (.delegated hpayload) rfl
        ⟨hcarries.1, hcarries.2, hcarries.3, hcarries.4⟩ (by simp))
    · exact obeys_withTemplate ht' hpayload rfl ⟨hcarries.1, hcarries.2, hcarries.3, hcarries.4⟩
  · rw [if_neg hmode]
    have hg : input.templateG = input.signerGStr := by
      simp [AuthTransactionCoreInput.templateG, hmode]
    rw [hg]
    split
    · refine obeys_ofExcept_bind fun entries hrewrite => ?_
      obtain ⟨payload, hpayload, ht⟩ := ht.rewritten hentry hrewrite
      exact obeys_withTemplate ht hpayload rfl ⟨hcarries.1, hcarries.2, hcarries.3, hcarries.4⟩
    · split
      · exact .ok (ends_of_tracks (hkept.symm ▸ ht) .kept hentries
          ⟨hcarries.1, hcarries.2, hcarries.3, hcarries.4⟩ (by simp))
      · exact .ok (ends_of_tracks (hkept.symm ▸ ht) .kept hentries
          ⟨hcarries.1, hcarries.2, hcarries.3, hcarries.4⟩ (by simp))

theorem obeys_buildAuthTransactionCore (cfg : BuildConfig) (input : AuthTransactionCoreInput)
    (buildTx : AuthEntries → Option Bytes → Transaction) :
    Obeys anyRun [] (buildAuthTransactionCore cfg input buildTx)
      (onOk fun h r => ∃ sim simulated idx entry,
        CoreBuilt cfg input sim simulated idx entry h r) := by
  refine obeys_call_then fun built => obeys_orFail_bind fun _ _ => ?_
  refine obeys_call_then fun answer => obeys_orFail_bind fun sim hsim => ?_
  subst hsim
  refine obeys_ofExcept_bind fun simulated hsimulated => ?_
  by_cases hempty : (input.kept simulated).isEmpty = true
  · simp only [hempty, if_true]
    exact .fail trivial
  simp only [hempty]
  refine obeys_ofExcept_bind fun ⟨idx, entry⟩ hfound => ?_
  obtain ⟨hidx, hentry⟩ := smartAccountEntry_eq_ok hfound
  refine obeys_ofExcept_bind fun ready hready => ?_
  have hof := signable_eq_ok hready
  refine (obeys_synthesizeEntries input _ ready rfl rfl).bind_onOk fun h' st ht => ?_
  refine obeys_ofExcept_bind fun payloads _ => obeys_ofExcept_bind fun data _ => ?_
  refine obeys_call_then fun final => obeys_orFail_bind fun _ _ => ?_
  have ht' : st.Tracks [sim] (input.base sim simulated)
      (⟨.buildTransaction (buildTx st.entries (some data)), final⟩ :: h') := ⟨ht.1, ht.2⟩
  refine (obeys_chooseSigning hof hentry ht' rfl
    (carries_buildResult hof _ _ _ _ _ _ _)).mono_onOk fun h'' r hends => ?_
  exact ⟨sim, simulated, idx, entry, simulatedEntries_eq_ok hsimulated, hidx, hentry, hends⟩

end Core

namespace Sample

theorem length_key (b : UInt8) : (List.replicate 32 b).length = 32 := length_replicate

def key (b : UInt8) : Hash := ⟨List.replicate 32 b, length_key b⟩

def config : BuildConfig :=
  { networkPassphrase := "network", bundler := key 1,
    webauthnVerifierAddress := contractText (key 4), gaslessConfigured := false,
    ed25519VerifierAddress := "", legacyDelegatedSigner := none }

def increment : InvokeContractArgs := ⟨.contract (key 3), "increment", []⟩

def walletEntry : SorobanAuthorizationEntry :=
  ⟨.address ⟨.contract (key 2), 6, 0, .void⟩, ⟨.contractFn increment, []⟩⟩

def answers (nonces : List Int64) (h : Log BuildRes) : (op : BuildOp) → BuildRes op
  | .randomNonce48 _ => .ok (nonces.getD (drawn h).length 0)
  | .buildTransaction _ => .ok ()
  | .simulate _ => .ok ⟨⟨"", some [.of walletEntry], 100, .of []⟩, "100"⟩
  | .simulateEnvelope _ => .error .failed
  | .readRules _ _ => .error .failed
  | .feeTokens => .error .other
  | .quote _ _ => .error .other
  | .balanceOf _ _ => .error .failed
  | .ledgerSequence _ => .error .failed

def buildTx : AuthEntries → Option Bytes → Transaction :=
  bundlerTransaction config 1 (.invokeContract increment)

end Sample

end LatchApi.Build
