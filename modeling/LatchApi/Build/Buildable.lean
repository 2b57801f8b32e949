import LatchApi.Build.Built
import LatchApi.Lib.Eval
import LatchApi.Rules.Complete

namespace LatchApi.Build

open Lib Program Soroban Bundler Rules List

def requestedEntry (account : Hash) : SorobanAuthorizationEntry :=
  ⟨.address ⟨.contract account, 0, 0, .void⟩, ⟨.contractFn ⟨.contract account, "", []⟩, []⟩⟩

def willing (t : RuleTable) (account : Hash) : (op : BuildOp) → BuildRes op
  | .readRules _ read => t.answers [] read
  | .feeTokens => .error .unavailable
  | .quote _ _ => .error .unavailable
  | .balanceOf _ _ => .error .failed
  | .ledgerSequence _ => .ok 0
  | .buildTransaction _ => .ok ()
  | .simulate _ => .ok ⟨⟨"", some [.of (requestedEntry account)], 0, .of []⟩, ""⟩
  | .simulateEnvelope _ => .error .failed
  | .randomNonce48 _ => .ok 0

def Readable (address : String) : Prop := ∃ a, scAddressFromString address = some a

section Entries

variable {e : SorobanAuthorizationEntry}

theorem exists_preimage (h : e.hasSourceAccount = false) (passphrase : String) :
    ∃ preimage, sorobanAuthPreimageBytes e passphrase = some preimage := by
  obtain ⟨credentials, invocation⟩ := e
  cases credentials with
  | address creds => exact ⟨_, rfl⟩
  | sourceAccount => cases h

theorem exists_payload (h : e.hasSourceAccount = false) (passphrase : String) :
    ∃ payload, hashSorobanAuthPayload e passphrase = some payload := by
  obtain ⟨preimage, hpreimage⟩ := exists_preimage h passphrase
  exact ⟨_, congrArg (Option.map _) hpreimage⟩

structure Synthesis.Addressed (st : Synthesis) : Prop where
  entries : ∀ e ∈ st.entries, e.hasSourceAccount = false
  indices : ∀ i ∈ st.delegatedNativeIndices, i < st.entries.length

variable {st : Synthesis}

theorem Synthesis.Addressed.append (hst : st.Addressed) (h : e.hasSourceAccount = false) :
    (st.append e).Addressed where
  entries e' he' := by
    rcases mem_append.mp he' with he' | he'
    · exact hst.entries e' he'
    · exact mem_singleton.mp he' ▸ h
  indices i hi := by
    rw [Synthesis.append, length_append, length_singleton]
    rcases mem_append.mp hi with hi | hi
    · exact Nat.lt_succ_of_lt (hst.indices i hi)
    · exact mem_singleton.mp hi ▸ Nat.lt_succ_self _

theorem Synthesis.Addressed.set (hst : st.Addressed) (idx : Nat) (h : e.hasSourceAccount = false) :
    Synthesis.Addressed { st with entries := st.entries.set idx e } where
  entries e' he' := by
    rcases mem_or_eq_of_mem_set he' with he' | rfl
    · exact hst.entries e' he'
    · exact h
  indices i hi := by
    rw [length_set]
    exact hst.indices i hi

theorem exists_signBlobPayloads (cfg : BuildConfig) (hst : st.Addressed) :
    ∃ payloads, signBlobPayloads cfg st = .ok payloads := by
  refine exists_mapM_eq_ok fun i hi => ?_
  have hlt := hst.indices i hi
  obtain ⟨payload, hpayload⟩ := exists_payload (hst.entries _ (getElem_mem hlt))
    cfg.networkPassphrase
  refine ⟨payload, orError_eq_ok.mpr ?_⟩
  rw [getElem?_eq_getElem hlt]
  exact hpayload

theorem exists_rewrite (hst : st.Addressed) {idx : Nat} (hidx : idx < st.entries.length) {g : String}
    (hg : Readable g) (ids : List UInt32) :
    ∃ entries, rewriteSmartAccountEntrySignature st.entries idx g ids = .ok entries ∧
      Synthesis.Addressed { st with entries := entries } := by
  obtain ⟨a, ha⟩ := hg
  have haddress : (st.entries[idx]).hasSourceAccount = false := hst.entries _ (getElem_mem hidx)
  have hpayload : buildDelegatedAuthPayload g ids =
      .ok (authPayload ids [(delegatedKey (.address a), scBytes [])]) := by
    simp only [buildDelegatedAuthPayload, scAddress, ha, Option.map_some]
  refine ⟨st.entries.set idx (st.entries[idx].withSignature
    (authPayload ids [(delegatedKey (.address a), scBytes [])])), ?_,
    hst.set idx ((withSignature_hasSourceAccount _ _).trans haddress)⟩
  rw [rewriteSmartAccountEntrySignature, hpayload, getElem?_eq_getElem hidx]
  simp only [haddress, Bool.false_eq_true, if_false]

end Entries

section Build

variable {cfg : BuildConfig} {input : AuthTransactionCoreInput} {t : RuleTable} {account : Hash}
variable {st : Synthesis} {ready : Signable} {smart g : String} {exp : UInt32} {digest : Bytes}

theorem yields_buildUnsigned (hsmart : Readable smart) (hg : Readable g) :
    Yields (willing t account) (buildUnsignedDelegatedGCheckAuthEntry smart g digest exp)
      fun e => e.hasSourceAccount = false := by
  obtain ⟨a, ha⟩ := hsmart
  obtain ⟨b, hb⟩ := hg
  refine yields_ofExcept_bind (orError_eq_ok.mpr ha) ?_
  exact yields_ofExcept_bind (orError_eq_ok.mpr hb) ⟨_, rfl, rfl⟩

theorem yields_synthesize (hst : st.Addressed) (hsmart : Readable smart) (hg : Readable g) :
    Yields (willing t account) (synthesizeDelegatedGEntry smart g digest exp st)
      fun st' => st'.Addressed ∧ st.entries.length ≤ st'.entries.length := by
  unfold synthesizeDelegatedGEntry
  split
  · exact yields_ok ⟨hst, Nat.le_refl _⟩
  refine (yields_buildUnsigned hsmart hg).bind fun e he => yields_ok ⟨hst.append he, ?_⟩
  rw [Synthesis.append, length_append]
  exact Nat.le_add_right _ _

theorem yields_synthesizeIf {needed : Prop} [Decidable needed] (hst : st.Addressed)
    (hsmart : Readable input.smartAccountAddress) (hg : needed → Readable g) :
    Yields (willing t account) (synthesizeEntries.synthesizeIf input exp ready needed g st)
      fun st' => st'.Addressed ∧ st.entries.length ≤ st'.entries.length := by
  unfold synthesizeEntries.synthesizeIf
  split_ifs with hneeded
  · exact yields_synthesize hst hsmart (hg hneeded)
  · exact yields_ok ⟨hst, Nat.le_refl _⟩

structure AuthTransactionCoreInput.Readable (input : AuthTransactionCoreInput) : Prop where
  smart : Build.Readable input.smartAccountAddress
  signer : input.signerGStr ≠ "" → Build.Readable input.signerGStr
  feePayer : Build.Readable input.feePayerG
  auth : input.bundlerDelegatedAuthMode = true → input.authG ≠ "" ∧ Build.Readable input.authG

theorem yields_synthesizeEntries (hinput : input.Readable) {entries : AuthEntries}
    (hentries : ∀ e ∈ entries, e.hasSourceAccount = false) :
    Yields (willing t account) (synthesizeEntries input exp ready entries)
      fun st => st.Addressed ∧ entries.length ≤ st.entries.length := by
  have hst : Synthesis.Addressed ⟨entries,
      delegatedNativeIndices input.smartAccountAddress input.signerGStr entries, false⟩ := by
    refine ⟨hentries, fun i hi => ?_⟩
    exact mem_range.mp (mem_filter.mp hi).1
  refine (yields_synthesizeIf hst hinput.smart fun hneeded => hinput.signer hneeded.1).bind
    fun st hst' => ?_
  exact (yields_synthesizeIf hst'.1 hinput.smart fun _ => hinput.feePayer).mono
    fun st' hst'' => ⟨hst''.1, hst'.2.trans hst''.2⟩

theorem yields_templates (hsmart : Readable smart) (hg : Readable g) :
    Yields (willing t account) (buildDelegatedSigningTemplates cfg smart g digest exp)
      fun _ => True := by
  refine (yields_buildUnsigned hsmart hg).bind fun e he => ?_
  obtain ⟨preimage, hpreimage⟩ := exists_preimage he cfg.networkPassphrase
  exact yields_ofExcept_bind (orError_eq_ok.mpr hpreimage) (yields_ok trivial)

theorem yields_chooseSigning (hinput : input.Readable) (hst : st.Addressed)
    (hidx : ready.idx < st.entries.length) (r : BuildAuthTransactionResult) :
    Yields (willing t account) (chooseSigning cfg input exp ready st r) fun _ => True := by
  unfold chooseSigning
  split
  · rename_i hmode
    obtain ⟨hset, hauth⟩ := hinput.auth hmode
    rw [if_neg hset]
    obtain ⟨entries, hentries, hst'⟩ := exists_rewrite hst hidx hauth ready.contextRuleIDs
    refine yields_ofExcept_bind hentries ?_
    refine (yields_synthesize hst' hinput.smart hauth).bind fun st' _ => ?_
    split
    · exact yields_ok trivial
    · exact (yields_templates hinput.smart hauth).bind fun _ _ => yields_ok trivial
  · split
    · rename_i hsigner
      have hg := hinput.signer hsigner.2
      obtain ⟨entries, hentries, -⟩ := exists_rewrite hst hidx hg ready.contextRuleIDs
      refine yields_ofExcept_bind hentries ?_
      exact (yields_templates hinput.smart hg).bind fun _ _ => yields_ok trivial
    · split <;> exact yields_ok trivial

theorem yields_buildAuthTransactionCore (hinput : input.Readable)
    (haccount : input.smartAccountAddress = contractText account) (hdrop : input.dropAuthAddress = "")
    (buildTx : AuthEntries → Option Bytes → Transaction) :
    Yields (willing t account) (buildAuthTransactionCore cfg input buildTx) fun _ => True := by
  let e := expiring authLedgerDelta (requestedEntry account)
  have he : e.hasSourceAccount = false := rfl
  have hof : ofAddress input.smartAccountAddress e = true := by
    rw [haccount]
    exact beq_self_eq_true _
  have hentry : smartAccountEntry ("transaction does not require authorization from " ++
      input.smartAccountAddress) input.smartAccountAddress input.signerGStr [e] = .ok (0, e) := by
    have hfound : [e].findIdx? (fun e => classifyAuthEntryRole e input.smartAccountAddress
        input.signerGStr = .smartAccountCustom) = some 0 := by
      simp [findIdx?_cons, classify_eq_smartAccountCustom.mpr hof]
    rw [smartAccountEntry, hfound]
    rfl
  obtain ⟨payload, hpayload⟩ := exists_payload he cfg.networkPassphrase
  let ids := contextRuleIDsForEntry e input.contextRuleID
  obtain ⟨digest, hdigest⟩ : ∃ digest, computeAuthDigest e cfg.networkPassphrase ids = some digest :=
    ⟨_, congrArg (Option.map _) hpayload⟩
  have hready : signable cfg 0 e ids = .ok ⟨0, e, ids, payload, digest⟩ := by
    rw [signable, hpayload, hdigest]
    rfl
  have hkept : input.kept [requestedEntry account] = [requestedEntry account] := if_pos hdrop
  refine yields_ofExcept_bind (a := [requestedEntry account]) rfl ?_
  rw [hkept]
  refine yields_ofExcept_bind hentry ?_
  refine yields_ofExcept_bind hready ?_
  refine (yields_synthesizeEntries hinput ?_).bind fun st hst => ?_
  · exact forall_mem_singleton.mpr he
  obtain ⟨payloads, hpayloads⟩ := exists_signBlobPayloads cfg hst.1
  refine yields_ofExcept_bind hpayloads ?_
  exact yields_chooseSigning hinput hst.1 (Nat.lt_of_lt_of_le Nat.zero_lt_one hst.2) _

end Build

end LatchApi.Build
