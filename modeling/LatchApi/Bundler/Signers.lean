import LatchApi.Bundler.Submit

namespace LatchApi.Bundler

open Lib Program Soroban

def authPayload (contextRuleIDs : List UInt32) (signers : List (ScVal × ScVal)) : ScVal :=
  scMap [scMapEntry "context_rule_ids" (ruleIDVals contextRuleIDs),
    scMapEntry "signers" (scMap signers)]

def externalKey (verifier : ScVal) (keyData : Bytes) : ScVal :=
  scVec [scSymbol "External", verifier, scBytes keyData]

def delegatedKey (address : ScVal) : ScVal := scVec [scSymbol "Delegated", address]

def buildWebAuthnAuthPayload (verifierAddress : String) (keyData sigDataXdr : Bytes)
    (contextRuleIDs : List UInt32) : Except SubmitError ScVal :=
  match scAddress verifierAddress with
  | none => .error (.decode "verifier address")
  | some verifier => .ok (authPayload contextRuleIDs [(externalKey verifier keyData, scBytes sigDataXdr)])

def buildDelegatedAuthPayload (gAddress : String) (contextRuleIDs : List UInt32) :
    Except SubmitError ScVal :=
  match scAddress gAddress with
  | none => .error (.decode "delegated signer address")
  | some signer => .ok (authPayload contextRuleIDs [(delegatedKey signer, scBytes [])])

def orDecode {α : Type} (what : String) : Option α → Except SubmitError α := orError (.decode what)

structure SubmitWebAuthnInput where
  txXdr : Encoded TransactionEnvelope
  authEntryXdr : Encoded SorobanAuthorizationEntry
  sigDataXdr : String
  keyDataHex : String
  contextRuleID : Option UInt32
  authEntriesXdr : List (Encoded SorobanAuthorizationEntry)
  smartAccountAuthEntryIndex : Int
  delegatedGAuthEntrySynthesized : Bool

structure SubmitDelegatedInput where
  txXdr : Encoded TransactionEnvelope
  smartAccountAuthEntryXdr : Encoded SorobanAuthorizationEntry
  gAddressEntryTemplateXdr : Encoded SorobanAuthorizationEntry
  signedAuthEntryBase64 : Encoded Bytes
  signerAddress : String
  contextRuleID : Option UInt32
  authEntriesXdr : List (Encoded SorobanAuthorizationEntry)
  smartAccountAuthEntryIndex : Int
  delegatedGAuthEntrySynthesized : Bool

structure Prepared where
  entries : AuthEntries
  smartAccountIndex : Nat
  smartAccountEntry : SorobanAuthorizationEntry
  contextRuleIDs : List UInt32
  signedByClient : List Nat

def indexOutOfRange (index : Int) : SubmitError :=
  .invalid ("smart account auth entry index " ++ toString index ++ " out of range")

def entryAt (entries : AuthEntries) (index : Int) :
    Except SubmitError (Nat × SorobanAuthorizationEntry) :=
  if 0 ≤ index then
    match entries[index.toNat]? with
    | some e => .ok (index.toNat, e)
    | none => .error (indexOutOfRange index)
  else .error (indexOutOfRange index)

def withDefault {α : Type} (given fallback : List α) : List α :=
  if given.isEmpty then fallback else given

def orRuleRequired : Option (List UInt32) → Except SubmitError (List UInt32) :=
  orError .contextRuleIDRequired

def attachPayload (entries : AuthEntries) (idx : Nat) (entry : SorobanAuthorizationEntry)
    (ids : List UInt32) (payload : ScVal)
    (signedByClient : List Nat) : Except SubmitError Prepared :=
  if entry.hasSourceAccount then .error .notAddressCredentials
  else .ok ⟨entries.set idx (entry.withSignature payload), idx, entry, ids, signedByClient⟩

variable (cfg : TxConfig)

def prepareWebAuthn (input : SubmitWebAuthnInput) : Except SubmitError Prepared := do
  let entries ← orDecode "auth entries"
    (normalizeAuthEntries (withDefault input.authEntriesXdr [input.authEntryXdr]))
  let (idx, entry) ← entryAt entries input.smartAccountAuthEntryIndex
  let sigData ← orDecode "sigDataXdr" (hexDecode input.sigDataXdr)
  let keyData ← orDecode "keyDataHex" (hexDecode input.keyDataHex)
  let ids ← orRuleRequired (resolveContextRuleIDs entry input.contextRuleID)
  let payload ← buildWebAuthnAuthPayload cfg.webauthnVerifierAddress keyData sigData ids
  attachPayload entries idx entry ids payload [idx]

def matchTemplate (entries : AuthEntries) (template : Encoded SorobanAuthorizationEntry)
    (idx : Nat) : Except SubmitError Nat :=
  match template.decode with
  | none => .error (.decode "delegated entry template")
  | some target =>
    match findMatchingAuthEntryIndex entries target idx with
    | some i => .ok i
    | none =>
      .error (.invalid "delegated auth entry template not found among the given auth entries")

def prepareDelegated (X : Codec) (input : SubmitDelegatedInput) : Except SubmitError Prepared := do
  let entries ← orDecode "auth entries" (normalizeAuthEntries (withDefault input.authEntriesXdr
    [input.smartAccountAuthEntryXdr, input.gAddressEntryTemplateXdr]))
  let (idx, entry) ← entryAt entries input.smartAccountAuthEntryIndex
  let delegatedIdx ← matchTemplate entries input.gAddressEntryTemplateXdr idx
  let signed ← (applyDelegatedSignature X input.gAddressEntryTemplateXdr input.signedAuthEntryBase64
    input.signerAddress).mapError .delegated
  let ids ← orRuleRequired (resolveContextRuleIDs entry input.contextRuleID)
  let payload ← buildDelegatedAuthPayload input.signerAddress ids
  attachPayload (entries.set delegatedIdx signed) idx entry ids payload [idx, delegatedIdx]

variable {e entry : SorobanAuthorizationEntry}

section Prepared

variable {cfg : TxConfig} {X : Codec} {p : Prepared} {entries : AuthEntries}

theorem entryAt_eq_ok {index : Int} {idx : Nat} (h : entryAt entries index = .ok (idx, e)) :
    entries[idx]? = some e ∧ (idx : Int) = index := by
  unfold entryAt at h
  by_cases hindex : 0 ≤ index
  · rw [if_pos hindex] at h
    split at h
    · cases h
      exact ⟨by assumption, Int.toNat_of_nonneg hindex⟩
    · cases h
  · rw [if_neg hindex] at h
    cases h

theorem attachPayload_eq_ok {idx : Nat} {ids : List UInt32} {payload : ScVal} {sc : List Nat}
    (h : attachPayload entries idx entry ids payload sc = .ok p) :
    entry.hasSourceAccount = false ∧
      p = ⟨entries.set idx (entry.withSignature payload), idx, entry, ids, sc⟩ := by
  unfold attachPayload at h
  by_cases hsource : entry.hasSourceAccount = true
  · rw [if_pos hsource] at h
    cases h
  · rw [if_neg hsource] at h
    exact ⟨by simpa using hsource, (Except.ok.inj h).symm⟩

theorem prepareWebAuthn_eq_ok {input : SubmitWebAuthnInput}
    (h : prepareWebAuthn cfg input = .ok p) : ∃ entries payload,
      normalizeAuthEntries (withDefault input.authEntriesXdr [input.authEntryXdr]) = some entries ∧
      entries[p.smartAccountIndex]? = some p.smartAccountEntry ∧
      (p.smartAccountIndex : Int) = input.smartAccountAuthEntryIndex ∧
      p.smartAccountEntry.hasSourceAccount = false ∧
      p.entries = entries.set p.smartAccountIndex (p.smartAccountEntry.withSignature payload) ∧
      p.signedByClient = [p.smartAccountIndex] := by
  obtain ⟨entries, hentries, h⟩ := bind_eq_ok.mp h
  obtain ⟨⟨idx, entry⟩, hentry, h⟩ := bind_eq_ok.mp h
  obtain ⟨sigData, _, h⟩ := bind_eq_ok.mp h
  obtain ⟨keyData, _, h⟩ := bind_eq_ok.mp h
  obtain ⟨ids, _, h⟩ := bind_eq_ok.mp h
  obtain ⟨payload, _, h⟩ := bind_eq_ok.mp h
  obtain ⟨hsource, rfl⟩ := attachPayload_eq_ok h
  obtain ⟨hentry, hindex⟩ := entryAt_eq_ok hentry
  exact ⟨entries, payload, orError_eq_ok.mp hentries, hentry, hindex, hsource, rfl, rfl⟩

theorem hasSourceAccount_of_same {target : SorobanAuthorizationEntry}
    (h : sameCredentials e target = true) : e.hasSourceAccount = false := by
  unfold sameCredentials at h
  split at h
  · rename_i a b ha hb
    simp [SorobanAuthorizationEntry.hasSourceAccount, ha]
  · cases h

theorem matchTemplate_eq_ok {template : Encoded SorobanAuthorizationEntry} {idx i : Nat}
    (h : matchTemplate entries template idx = .ok i) :
    ∃ e, entries[i]? = some e ∧ e.hasSourceAccount = false ∧ i ≠ idx := by
  unfold matchTemplate at h
  split at h
  · cases h
  split at h
  · rename_i j hfind
    obtain rfl := Except.ok.inj h
    have hmatch := List.find?_some hfind
    simp only [Bool.and_eq_true, bne_iff_ne] at hmatch
    cases he : entries[j]? with
    | none => simp [he] at hmatch
    | some e =>
      rw [he] at hmatch
      exact ⟨e, rfl, hasSourceAccount_of_same hmatch.2, hmatch.1⟩
  · cases h

theorem prepareDelegated_eq_ok {input : SubmitDelegatedInput}
    (h : prepareDelegated X input = .ok p) : ∃ entries replaced delegatedIdx signed payload,
      normalizeAuthEntries (withDefault input.authEntriesXdr
        [input.smartAccountAuthEntryXdr, input.gAddressEntryTemplateXdr]) = some entries ∧
      entries[p.smartAccountIndex]? = some p.smartAccountEntry ∧
      (p.smartAccountIndex : Int) = input.smartAccountAuthEntryIndex ∧
      p.smartAccountEntry.hasSourceAccount = false ∧
      entries[delegatedIdx]? = some replaced ∧ replaced.hasSourceAccount = false ∧
      delegatedIdx ≠ p.smartAccountIndex ∧
      applyDelegatedSignature X input.gAddressEntryTemplateXdr input.signedAuthEntryBase64
        input.signerAddress = .ok signed ∧
      p.entries = (entries.set delegatedIdx signed).set p.smartAccountIndex
        (p.smartAccountEntry.withSignature payload) ∧
      p.signedByClient = [p.smartAccountIndex, delegatedIdx] := by
  obtain ⟨entries, hentries, h⟩ := bind_eq_ok.mp h
  obtain ⟨⟨idx, entry⟩, hentry, h⟩ := bind_eq_ok.mp h
  obtain ⟨delegatedIdx, hmatch, h⟩ := bind_eq_ok.mp h
  obtain ⟨signed, hsigned, h⟩ := bind_eq_ok.mp h
  obtain ⟨ids, _, h⟩ := bind_eq_ok.mp h
  obtain ⟨payload, _, h⟩ := bind_eq_ok.mp h
  obtain ⟨hsource, rfl⟩ := attachPayload_eq_ok h
  obtain ⟨hentry, hindex⟩ := entryAt_eq_ok hentry
  obtain ⟨replaced, hreplaced, hreplacedSource, hne⟩ := matchTemplate_eq_ok hmatch
  exact ⟨entries, replaced, delegatedIdx, signed, payload, orError_eq_ok.mp hentries, hentry,
    hindex, hsource, hreplaced, hreplacedSource, hne, mapError_eq_ok.mp hsigned, rfl, rfl⟩

end Prepared

def requireBundlers (entry : SorobanAuthorizationEntry) : Except SubmitError Unit :=
  match entry.addressCredentials with
  | none => .error .notAddressCredentials
  | some creds =>
    match addressString creds.address with
    | none => .error (.decode "signer address")
    | some signer =>
      if signer = cfg.bundlerG then .ok ()
      else .error (.invalid ("delegated auth entry signer " ++ signer ++
        " does not match bundler " ++ cfg.bundlerG))

theorem requireBundlers_eq_ok {cfg : TxConfig} {u : Unit} : requireBundlers cfg entry = .ok u ↔
      addressStringFromCredentials entry = some cfg.bundlerG := by
  unfold requireBundlers addressStringFromCredentials
  cases entry.addressCredentials with
  | none => simp
  | some creds =>
    cases haddress : addressString creds.address with
    | none => simp [haddress]
    | some signer => by_cases h : signer = cfg.bundlerG <;> simp [haddress, h]

/-- The bundler signs an entry of its own account, whatever the entry authorizes. -/
def signBundlerDelegatedAuthEntry (entry : SorobanAuthorizationEntry) :
    Submitter SorobanAuthorizationEntry := do
  ofExcept (requireBundlers cfg entry)
  match hashSorobanAuthPayload entry cfg.networkPassphrase with
  | none => .fail .notAddressCredentials
  | some payload =>
    let signature ← orRpc "sign auth payload" (← signPayload entry payload)
    return entry.withSignature (accountSignature cfg.bundler.val signature)

def leftToBundler (signedByClient : List Nat) (i : Nat) (e : SorobanAuthorizationEntry) : Bool :=
  decide (i ∉ signedByClient) && isUnsignedAddressAuthEntry e

def signBundlerEntries (cfg : TxConfig) (signedByClient : List Nat) (i : Nat) :
    AuthEntries → Submitter AuthEntries
  | [] => .ok []
  | e :: es => do
    let e ← if leftToBundler signedByClient i e then signBundlerDelegatedAuthEntry cfg e else .ok e
    let es ← signBundlerEntries cfg signedByClient (i + 1) es
    return e :: es

def signAndSubmit (tx : Encoded TransactionEnvelope) (synthesized : Bool) (p : Prepared) :
    Submitter SubmitResult := do
  let entries ← if synthesized then signBundlerEntries cfg p.signedByClient 0 p.entries
    else .ok p.entries
  submitWithBundler cfg tx entries

def submitWebAuthn (input : SubmitWebAuthnInput) : Submitter SubmitResult := do
  let p ← ofExcept (prepareWebAuthn cfg input)
  signAndSubmit cfg input.txXdr input.delegatedGAuthEntrySynthesized p

def submitDelegated (X : Codec) (input : SubmitDelegatedInput) : Submitter SubmitResult := do
  let p ← ofExcept (prepareDelegated X input)
  signAndSubmit cfg input.txXdr input.delegatedGAuthEntrySynthesized p

end LatchApi.Bundler
