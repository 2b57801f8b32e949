import LatchApi.Bundler.CheckAuthOnly
import LatchApi.Multisig.ExecuteAuth

namespace LatchApi.Multisig

open Lib Program Soroban Bundler List

def SourceFree (entries : AuthEntries) : Prop :=
  ∀ e ∈ entries, e.hasSourceAccount = false

def SendsSourceFree (op : TxOp) : Prop :=
  ∀ tx, op = .send tx → ∀ operation ∈ tx.transaction.operations, SourceFree operation.auth

inductive Submission where
  | batch (tx : Encoded TransactionEnvelope) (entries : AuthEntries)
  | signed (req : SignerRequest)
  | execution (built : BuiltProposalArtifacts) (threshold : Nat) (rows : List ApprovalWithMember)

def submitExecution (cfg : TxConfig) (X : Codec) (built : BuiltProposalArtifacts)
    (threshold : Nat) (rows : List ApprovalWithMember) : Submitter SubmitResult := do
  let execution ← ofExcept ((assembleExecution cfg X built threshold rows).mapError
    fun _ => .invalid "execution refused")
  submitWithBundler cfg built.txXdr execution.entries

namespace Submission

variable (cfg : TxConfig) (X : Codec)

def body : Submission → Submitter SubmitResult
  | batch tx entries => submitBatchAuthEntries cfg tx entries
  | signed req => req.body cfg X
  | execution built threshold rows => submitExecution cfg X built threshold rows

end Submission

section SourceFree

variable {entries : AuthEntries} {e : SorobanAuthorizationEntry}

theorem sourceFree_set_iff {i : Nat} {old : SorobanAuthorizationEntry}
    (hold : entries[i]? = some old) (hsource : old.hasSourceAccount = false) :
    SourceFree (entries.set i e) ↔ SourceFree entries ∧ e.hasSourceAccount = false := by
  obtain ⟨hi, rfl⟩ := List.getElem?_eq_some_iff.mp hold
  constructor
  · intro h
    refine ⟨fun e' he' => ?_, h e (mem_set hi e)⟩
    obtain ⟨j, hj, rfl⟩ := getElem_of_mem he'
    by_cases hij : i = j
    · subst hij
      exact hsource
    have hmem : entries[j] ∈ entries.set i e :=
      mem_iff_getElem.mpr ⟨j, by simpa using hj, getElem_set_ne hij _⟩
    exact h _ hmem
  · rintro ⟨h, he⟩ e' he'
    rcases mem_or_eq_of_mem_set he' with he' | rfl
    · exact h e' he'
    · exact he

theorem sourceFree_append {xs ys : AuthEntries} :
    SourceFree (xs ++ ys) ↔ SourceFree xs ∧ SourceFree ys :=
  forall_mem_append

theorem sourceFree_signed {cfg : TxConfig} {sc : List Nat} {i : Nat} {es es' : AuthEntries}
    (h : SignedByBundler cfg sc i es es') :
    SourceFree es' ↔ SourceFree es := by
  induction h with
  | nil i => exact Iff.rfl
  | keep _ _ ih => simpa [SourceFree] using fun _ => ih
  | sign _ _ _ _ ih => simpa [SourceFree] using fun _ => ih

theorem not_unsigned_of_hasSourceAccount (h : e.hasSourceAccount = true) :
    isUnsignedAddressAuthEntry e = false := by
  simp [isUnsignedAddressAuthEntry, Option.isNone_iff_eq_none.mp h]

theorem sourceFree_keptEntries {idx : Nat} (he : entries[idx]? = some e)
    (hsource : e.hasSourceAccount = false) :
    SourceFree (keptEntries entries idx) ↔ SourceFree entries := by
  constructor
  · intro h e' he'
    by_contra hcontra
    have hsource' : e'.hasSourceAccount = true := by simpa using hcontra
    obtain ⟨j, hj⟩ := getElem?_of_mem he'
    have hne : j ≠ idx := by
      rintro rfl
      rw [he] at hj
      rw [Option.some.inj hj, hsource'] at hsource
      cases hsource
    refine hcontra (h e' (mem_filter.mpr ⟨mem_eraseIdx_iff_getElem?.mpr ⟨j, hne, hj⟩, ?_⟩))
    rw [not_unsigned_of_hasSourceAccount hsource']
    rfl
  · intro h e' he'
    exact h e' (mem_of_mem_eraseIdx (mem_of_mem_filter he'))

end SourceFree

def wholeEntry (X : Codec) (signed : Encoded Bytes) : Option SorobanAuthorizationEntry :=
  signed.decode.bind fun blob =>
    if delegatedFullEntryMinLen < blob.length then X.unmarshalEntry blob else none

theorem sourceFree_applyDelegatedSignature {X : Codec}
    {template : Encoded SorobanAuthorizationEntry} {signed : Encoded Bytes}
    {signerAddress : String} {entry : SorobanAuthorizationEntry}
    (h : applyDelegatedSignature X template signed signerAddress = .ok entry) :
    entry.hasSourceAccount = false ↔ SourceFree (wholeEntry X signed).toList := by
  obtain ⟨blob, hblob, ⟨hlong, hwhole⟩ | ⟨hraw, t, key, -, hsource, -, rfl⟩⟩ :=
    applyDelegatedSignature_eq_ok h
  · simp [wholeEntry, hblob, hlong, hwhole, SourceFree]
  · simp [wholeEntry, hblob, hraw, hsource, SourceFree, delegatedFullEntryMinLen,
      delegatedRawSignatureLen]

namespace Submission

variable (cfg : TxConfig) (X : Codec)

def carried : Submission → AuthEntries
  | batch _ entries => entries
  | signed (.webauthn input) =>
    (normalizeAuthEntries (withDefault input.authEntriesXdr [input.authEntryXdr])).getD []
  | signed (.delegated input) =>
    (normalizeAuthEntries (withDefault input.authEntriesXdr
      [input.smartAccountAuthEntryXdr, input.gAddressEntryTemplateXdr])).getD [] ++
      (wholeEntry X input.signedAuthEntryBase64).toList
  | execution built threshold rows =>
    (storedEntries built).toOption.getD [] ++
      (pickApprovalsForThreshold threshold (usableWebauthn rows) (usableDelegated rows)).delegated.filterMap
        fun a => wholeEntry X a.delegatedSignedAuthEntryBase64

/-- The submission is refused before anything is sent, or is not the bundler's to send. -/
def Withheld : Submission → Prop
  | batch tx _ => ∀ fns, batchHostFunctions tx = .ok fns → keptFromBundler cfg fns = true
  | signed req => ∀ p, req.prepare cfg X = .ok p → ∀ fn, singleHostFunction req.txXdr = .ok fn →
      keptFromBundler cfg [fn] = true ∨
        (req.synthesized = true ∧ leavesForeign cfg p.signedByClient 0 p.entries = true)
  | execution built threshold rows => ∀ ex, assembleExecution cfg X built threshold rows = .ok ex →
      ∀ fn, singleHostFunction built.txXdr = .ok fn → keptFromBundler cfg [fn] = true

end Submission

section Sends

variable {cfg : TxConfig} {X : Codec} {fns : List HostFunction} (tx : Encoded TransactionEnvelope)
  (entries : AuthEntries)

theorem onlySends_sourceFree : OnlySends SendsSourceFree entries where
  quiet op hop tx h := by
    subst h
    cases hop
  relayed mode wallet fn tx h := nomatch h

theorem sendsSourceFree_sent (hfns : fns ≠ []) (entries : AuthEntries) :
    (∀ seq data, SendsSourceFree (.send (sentTransaction cfg fns entries seq data))) ↔
      SourceFree entries := by
  obtain ⟨fn, hfn⟩ := exists_mem_of_ne_nil fns hfns
  constructor
  · intro h
    exact h 0 [] _ rfl ⟨fn, cfg.bundlerG, entries⟩ (mem_map.mpr ⟨fn, hfn, rfl⟩)
  rintro h seq data tx ⟨⟩ operation hoperation
  obtain ⟨fn, -, rfl⟩ := mem_map.mp hoperation
  exact h

theorem sameContract_length {target : Option String} {i : Nat} {ops : List OperationBody}
    (h : sameContract target i ops = .ok fns) : fns.length = ops.length := by
  induction ops generalizing target i fns with
  | nil =>
    cases h
    rfl
  | cons op ops ih =>
    unfold sameContract at h
    split at h
    · obtain ⟨contract, -, h⟩ := bind_eq_ok.mp h
      by_cases hmixed : target.any (· ≠ contract) = true
      · rw [if_pos hmixed] at h
        cases h
      rw [if_neg hmixed] at h
      obtain ⟨rest, hrest, h⟩ := bind_eq_ok.mp h
      cases h
      rw [length_cons, length_cons, ih hrest]
    · cases h

theorem batchHostFunctions_ne_nil {tx : Encoded TransactionEnvelope}
    (h : batchHostFunctions tx = .ok fns) : fns ≠ [] := by
  unfold batchHostFunctions at h
  split at h
  · cases h
  · cases h
  rename_i ops _
  by_cases hsize : ops.length = 0 ∨ maxBatchOperations < ops.length
  · rw [if_pos hsize] at h
    cases h
  rw [if_neg hsize] at h
  rw [← length_pos_iff, sameContract_length h]
  omega

theorem sends_submitWithBundler : Always SendsSourceFree (submitWithBundler cfg tx entries) ↔
      ∀ fn, singleHostFunction tx = .ok fn →
        keptFromBundler cfg [fn] = true ∨ SourceFree entries := by
  simp only [always_submitWithBundler (onlySends_sourceFree _),
    sendsSourceFree_sent (cons_ne_nil _ _)]

theorem sends_signAndSubmit (synthesized : Bool)
    (p : Prepared) : Always SendsSourceFree (signAndSubmit cfg tx synthesized p) ↔
      ∀ fn, singleHostFunction tx = .ok fn → (keptFromBundler cfg [fn] = true ∨
        (synthesized = true ∧ leavesForeign cfg p.signedByClient 0 p.entries = true)) ∨
          SourceFree p.entries := by
  unfold signAndSubmit
  cases synthesized with
  | false => simp [sends_submitWithBundler]
  | true =>
    have hsign : ∀ e payload, SendsSourceFree (.signPayload e payload) := fun _ _ _ h => nomatch h
    simp only [if_true, always_signBundlerEntries, hsign, implies_true, true_and,
      sends_submitWithBundler]
    constructor
    · intro h fn hfn
      cases hforeign : leavesForeign cfg p.signedByClient 0 p.entries with
      | true => exact .inl (.inr rfl)
      | false =>
        obtain ⟨es, hes⟩ := exists_signedByBundler hforeign
        rcases h es hes fn hfn with h | h
        · exact .inl (.inl h)
        · exact .inr ((sourceFree_signed hes).mp h)
    · intro h es hes fn hfn
      rcases h fn hfn with (h | h) | h
      · exact .inl h
      · rw [hes.leavesForeign_eq_false] at h
        cases h
      · exact .inr ((sourceFree_signed hes).mpr h)

theorem sourceFree_prepared {req : SignerRequest} {p : Prepared}
    (h : req.prepare cfg X = .ok p) :
    SourceFree p.entries ↔ SourceFree ((Submission.signed req).carried X) := by
  cases req with
  | webauthn input =>
    obtain ⟨entries, payload, hentries, hat, -, hsource, hp, -⟩ := prepareWebAuthn_eq_ok h
    rw [hp, sourceFree_set_iff hat hsource]
    simp [Submission.carried, hentries, hsource]
  | delegated input =>
    obtain ⟨entries, replaced, delegatedIdx, signed, payload, hentries, hat, -, hsource, hreplaced,
      hreplacedSource, hne, hsigned, hp, -⟩ := prepareDelegated_eq_ok h
    have hat' : (entries.set delegatedIdx signed)[p.smartAccountIndex]? = some p.smartAccountEntry := by
      rw [getElem?_set_ne hne, hat]
    rw [hp, sourceFree_set_iff hat' hsource, sourceFree_set_iff hreplaced hreplacedSource,
      sourceFree_applyDelegatedSignature hsigned]
    simp [Submission.carried, hentries, hsource, sourceFree_append]

theorem sourceFree_signedDelegated {approvals : List MultisigApproval} {signed : AuthEntries}
    (h : List.Forall₂ (fun a e => signedDelegatedEntryFromApproval X a = .ok e) approvals signed) :
    SourceFree signed ↔ SourceFree (approvals.filterMap fun a =>
      wholeEntry X a.delegatedSignedAuthEntryBase64) := by
  induction h with
  | nil => exact Iff.rfl
  | @cons a e approvals signed hx _ ih =>
    unfold signedDelegatedEntryFromApproval at hx
    split at hx
    · have ha := sourceFree_applyDelegatedSignature (mapError_eq_ok.mp hx)
      have hcons : SourceFree (e :: signed) ↔ e.hasSourceAccount = false ∧ SourceFree signed :=
        forall_mem_cons
      rw [hcons, ha, ih, filterMap_cons]
      cases wholeEntry X a.delegatedSignedAuthEntryBase64 <;> simp [SourceFree]
    · cases hx

theorem sourceFree_execution {built : BuiltProposalArtifacts} {threshold : Nat}
    {rows : List ApprovalWithMember} {ex : Execution}
    (h : assembleExecution cfg X built threshold rows = .ok ex) :
    SourceFree ex.entries ↔ SourceFree ((Submission.execution built threshold rows).carried X) := by
  obtain ⟨-, hpicked, entries, hentries, ⟨a⟩⟩ := assembleExecution_eq_ok h
  have hfinal : SourceFree ex.entries ↔
      SourceFree (keptEntries entries a.idx) ∧ SourceFree a.signed := by
    refine (iff_of_eq (congrArg SourceFree a.final_eq)).trans (sourceFree_append.trans ?_)
    simp [SourceFree, a.hasSourceAccount_eq]
  rw [hfinal, sourceFree_keptEntries a.entry_at a.hasSourceAccount_eq,
    sourceFree_signedDelegated a.signed_by, hpicked]
  simp [Submission.carried, hentries, sourceFree_append, Except.toOption]

theorem forall_or_of_iff {α : Type} {P : α → Prop} {W B : α → Prop} {b : Prop}
    (hB : ∀ a, P a → (B a ↔ b)) : (∀ a, P a → W a ∨ B a) ↔ (∀ a, P a → W a) ∨ b := by
  by_cases hb : b
  · exact ⟨fun _ => .inr hb, fun _ a ha => .inr ((hB a ha).mpr hb)⟩
  refine ⟨fun h => .inl fun a ha => (h a ha).resolve_right (mt (hB a ha).mp hb), ?_⟩
  rintro (h | h) a ha
  · exact .inl (h a ha)
  · exact absurd h hb

end Sends

namespace Sample

open Bundler.Sample

def sourceEntry : SorobanAuthorizationEntry := ⟨.sourceAccount, ⟨.contractFn payout, []⟩⟩

theorem batchHostFunctions_payoutTx :
    batchHostFunctions payoutTx = .ok [.invokeContract payout] := by
  rfl

end Sample

end LatchApi.Multisig
