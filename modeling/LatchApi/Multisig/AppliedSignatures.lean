import LatchApi.Bundler.CheckAuthOnly
import LatchApi.Multisig.Specs

namespace LatchApi.Multisig

open Lib Program Soroban Bundler Deploy

def FitsTemplate (X : Codec) (template : SorobanAuthorizationEntry) (signed : Encoded Bytes) : Prop :=
  ∀ blob, signed.decode = some blob → delegatedFullEntryMinLen < blob.length →
    ∃ signature, X.unmarshalEntry blob = some (template.withSignature signature)

section Applied

variable {X : Codec} {template : SorobanAuthorizationEntry} {signed : Encoded Bytes}
variable {signerAddress passphrase : String} {blob : Bytes}

theorem strkeyDecode_of_verifyEd25519 {E : Ed25519Verify} {message signature : Bytes}
    (h : verifyEd25519 E signerAddress message signature = .ok ()) :
    ∃ key, strkeyDecode versionAccount signerAddress = some key := by
  unfold verifyEd25519 at h
  split at h
  · cases h
  · rename_i key hkey
    exact ⟨key, hkey⟩

theorem verifyDelegatedSignature_long (hblob : signed.decode = some blob)
    (hlong : delegatedFullEntryMinLen < blob.length) :
    verifyDelegatedSignature X (.of template) signed signerAddress passphrase = .ok () := by
  simp only [verifyDelegatedSignature, hblob, if_pos hlong]

theorem applyDelegatedSignature_long (hblob : signed.decode = some blob)
    (hlong : delegatedFullEntryMinLen < blob.length) {e : SorobanAuthorizationEntry} :
    applyDelegatedSignature X (.of template) signed signerAddress = .ok e ↔
      X.unmarshalEntry blob = some e := by
  simp only [applyDelegatedSignature, hblob, if_pos hlong]
  cases X.unmarshalEntry blob <;> simp

theorem applyDelegatedSignature_raw {key : Bytes} (hblob : signed.decode = some blob)
    (hraw : blob.length = delegatedRawSignatureLen) (hsource : template.hasSourceAccount = false)
    (hkey : strkeyDecode versionAccount signerAddress = some key) :
    applyDelegatedSignature X (.of template) signed signerAddress =
      .ok (template.withSignature (accountSignature key blob)) := by
  have hshort : ¬ delegatedFullEntryMinLen < blob.length := by
    rw [hraw]
    decide
  rw [hraw] at hshort
  have hdecode : (Encoded.of template).decode = some template := rfl
  simp only [applyDelegatedSignature, hblob, hraw, if_neg hshort, ne_eq, not_true_eq_false,
    if_false, hdecode, hsource, hkey]
  rfl

theorem applies_iff_fits (hsource : template.hasSourceAccount = false)
    (hverify : verifyDelegatedSignature X (.of template) signed signerAddress passphrase = .ok ()) :
    (∃ signature, applyDelegatedSignature X (.of template) signed signerAddress =
      .ok (template.withSignature signature)) ↔ FitsTemplate X template signed := by
  obtain ⟨blob, hblob, hchecked⟩ := verifyDelegatedSignature_eq_ok hverify
  rcases hchecked with hlong | ⟨hraw, t, payload, -, -, hsignature⟩
  · simp only [applyDelegatedSignature_long hblob hlong]
    constructor
    · intro happlies blob' hblob' _
      obtain rfl := Option.some.inj (hblob.symm.trans hblob')
      exact happlies
    · intro hfits
      exact hfits blob hblob hlong
  · obtain ⟨key, hkey⟩ := strkeyDecode_of_verifyEd25519 hsignature
    refine ⟨fun _ blob' hblob' hlong => ?_, fun _ => ?_⟩
    · obtain rfl := Option.some.inj (hblob.symm.trans hblob')
      rw [hraw] at hlong
      exact absurd hlong (by decide)
    · exact ⟨_, applyDelegatedSignature_raw hblob hraw hsource hkey⟩

end Applied

section Templates

theorem obeys_template (cfg : TxConfig) (smartAccountAddress signerG : String)
    (entry : SorobanAuthorizationEntry) (contextRuleIDs : List UInt32) (validUntil : UInt32)
    (h : History) :
    Obeys ⟨fun _ _ => True, fun _ _ => True⟩ h (buildDelegatedCheckAuthTemplate cfg
        smartAccountAddress signerG entry contextRuleIDs validUntil)
      (onOk fun _ out => out.2.hasSourceAccount = false) := by
  unfold buildDelegatedCheckAuthTemplate
  split
  · refine obeys_ofExcept_bind fun smartAccount _ => obeys_ofExcept_bind fun signer _ => ?_
    exact .call trivial fun _ _ => obeys_orFail_bind fun nonce _ => .ok rfl
  · exact .fail trivial

/-- Of the signatures that are accepted for a template, those that fit it are the ones that give
the template with a signature. -/
theorem accepted_signature_applies_iff (X : Codec) (cfg : TxConfig)
    (answers : History → (op : MsOp) → MsRes op) (h : History)
    (smartAccountAddress signerG : String) (entry : SorobanAuthorizationEntry)
    (contextRuleIDs : List UInt32) (validUntil : UInt32) {digest : Bytes}
    {template : SorobanAuthorizationEntry}
    (hbuilt : ((buildDelegatedCheckAuthTemplate cfg smartAccountAddress signerG entry contextRuleIDs
      validUntil).runWith answers h).1 = .ok (digest, template))
    (signed : Encoded Bytes) (signerAddress : String)
    (hverify : verifyDelegatedSignature X (.of template) signed signerAddress
      cfg.networkPassphrase = .ok ()) :
    (∃ signature, applyDelegatedSignature X (.of template) signed signerAddress =
      .ok (template.withSignature signature)) ↔ FitsTemplate X template signed := by
  have hsource : onOk (fun _ (out : Bytes × SorobanAuthorizationEntry) =>
      out.2.hasSourceAccount = false) ((buildDelegatedCheckAuthTemplate cfg smartAccountAddress signerG entry contextRuleIDs
        validUntil).runWith answers h).2 _ :=
    (obeys_template cfg smartAccountAddress signerG entry contextRuleIDs validUntil h).runWith
      fun _ _ => trivial
  rw [hbuilt] at hsource
  exact applies_iff_fits hsource hverify

end Templates

namespace Sample

open Bundler.Sample

def keyedCodec : Codec := ⟨fun _ => none, Deploy.Sample.keyed⟩

def nonceAnswers (_ : History) : (op : MsOp) → MsRes op
  | .randomNonce48 => .ok 9
  | op => offline op

def memberAddress : String := accountText (key 5)

def templateRun : Except MultisigError (Bytes × SorobanAuthorizationEntry) :=
  ((buildDelegatedCheckAuthTemplate config (contractText (key 2)) memberAddress walletEntry [0]
    1000).runWith nonceAnswers []).1

def signatureOf (template : SorobanAuthorizationEntry) : Bytes :=
  (key 5).val ++ (hashSorobanAuthPayload template config.networkPassphrase).getD []

def blobSignature (template : SorobanAuthorizationEntry) : Encoded Bytes := .of (signatureOf template)

def noEntry : Encoded Bytes := .of (List.replicate (delegatedFullEntryMinLen + 1) 255)

theorem templateRun_ok : ∃ digest template, templateRun = .ok (digest, template) ∧
    (signatureOf template).length = delegatedRawSignatureLen ∧
    verifyDelegatedSignature keyedCodec (.of template) (blobSignature template) memberAddress
      config.networkPassphrase = .ok () := by
  have hrun : templateRun.toOption.any (fun out =>
      (signatureOf out.2).length == delegatedRawSignatureLen && (verifyDelegatedSignature keyedCodec
      (.of out.2) (blobSignature out.2) memberAddress config.networkPassphrase).toOption.isSome) = true := by
    decide +kernel
  obtain ⟨⟨digest, template⟩, hout, hsigned⟩ := (Option.any_eq_true _ _).mp hrun
  obtain ⟨hlength, hverify⟩ := Bool.and_eq_true _ _ ▸ hsigned
  refine ⟨digest, template, ?_, beq_iff_eq.mp hlength, ?_⟩
  · cases h : templateRun with
    | error e => simp [h, Except.toOption] at hout
    | ok out => simpa [h, Except.toOption] using hout
  · cases h : verifyDelegatedSignature keyedCodec (.of template) (blobSignature template) memberAddress
        config.networkPassphrase with
    | error e => simp [h, Except.toOption] at hverify
    | ok u => rfl

theorem raw_signature_applied : ∃ digest template signature,
    templateRun = .ok (digest, template) ∧
    verifyDelegatedSignature keyedCodec (.of template) (blobSignature template) memberAddress
      config.networkPassphrase = .ok () ∧
    applyDelegatedSignature keyedCodec (.of template) (blobSignature template) memberAddress =
      .ok (template.withSignature signature) := by
  obtain ⟨digest, template, hrun, hlength, hverify⟩ := templateRun_ok
  have hfits : FitsTemplate keyedCodec template (blobSignature template) := by
    intro blob hblob hlong
    cases hblob
    rw [hlength] at hlong
    exact absurd hlong (by decide)
  obtain ⟨signature, happly⟩ := (accepted_signature_applies_iff keyedCodec config nonceAnswers []
    _ _ _ _ _ hrun (blobSignature template) memberAddress hverify).mpr hfits
  exact ⟨digest, template, signature, hrun, hverify, happly⟩

theorem accepted_blob_not_applied : ∃ digest template, templateRun = .ok (digest, template) ∧
    verifyDelegatedSignature keyedCodec (.of template) noEntry memberAddress
      config.networkPassphrase = .ok () ∧
    ∀ e, applyDelegatedSignature keyedCodec (.of template) noEntry memberAddress ≠ .ok e := by
  obtain ⟨digest, template, hrun, -⟩ := templateRun_ok
  have hlong : delegatedFullEntryMinLen <
      (List.replicate (delegatedFullEntryMinLen + 1) (255 : UInt8)).length := by
    rw [List.length_replicate]
    exact Nat.lt_succ_self _
  refine ⟨digest, template, hrun, verifyDelegatedSignature_long rfl hlong, fun e happly => ?_⟩
  have hentry : keyedCodec.unmarshalEntry _ = some e :=
    (applyDelegatedSignature_long rfl hlong).mp happly
  simp [keyedCodec] at hentry

end Sample

end LatchApi.Multisig
