import LatchApi.Multisig.UnderWay

namespace LatchApi.Multisig

open Lib Program Soroban Store Bundler Option Lib.System
open Deploy

/-- The account `g` asks the contract at `contractAddress` to check the digest, and has signed that. -/
structure Authentic (cfg : TxConfig) (X : Codec) (contractAddress g : String) (digest : Bytes)
    (e : SorobanAuthorizationEntry) : Prop where
  signer : addressStringFromCredentials e = some g
  invocation : ∃ contract, scAddressFromString contractAddress = some contract ∧
    e.rootInvocation = checkAuthInvocation contract digest
  signed : ∃ creds key signature payload, e.addressCredentials = some creds ∧
    creds.signature = accountSignature key signature ∧ strkeyDecode versionAccount g = some key ∧
    hashSorobanAuthPayload e cfg.networkPassphrase = some payload ∧
    verifyEd25519 X.verifyEd25519 g payload signature = .ok ()

/-- Every delegated approval that a job uses adds an authentic entry of its member. -/
def Job.Authentic (cfg : TxConfig) (X : Codec) (db : Db) (job : Job) : Prop :=
  ∀ a ∈ job.execution.picked.delegated, ∃ e ∈ job.entries, ∃ m ∈ db.members.rows, ∃ g digest,
    signedDelegatedEntryFromApproval X a = .ok e ∧ m.id = a.memberID ∧ m.gAddress = some g ∧
    job.digest cfg = some digest ∧
    Multisig.Authentic cfg X job.account.smartAccountAddress g digest e

/-- A signature is stored only if it is no whole entry and is given in the name of the member,
and an approval is begun only while no other unfinished request has read it. -/
def signsForMember : MsSchedule := fun s others _ op =>
  match op with
  | .write (.updateMultisigApprovalDelegatedFinish _ m signed signer _) =>
    (∀ blob ∈ signed.decode, blob.length ≤ delegatedFullEntryMinLen) ∧
      ∀ member ∈ s.db.members.rows, member.id = m → member.gAddress = signer
  | .write (.upsertMultisigApprovalDelegatedBegin row) =>
    ∀ u ∈ others, u.active = true → ∀ read ∈ approvalsRead u.history, (read.1, read.2.1) ≠ row.key
  | _ => True

instance (s : State) (others : List MsThread) (t : MsThread) (op : MsOp) :
    Decidable (signsForMember s others t op) := by
  unfold signsForMember
  split <;> infer_instance

variable {cfg : TxConfig} {db : Db} {template : Encoded SorobanAuthorizationEntry}
  {signed : Encoded Bytes}

section Approval

variable {X : Codec} {db' : Db} {a : ApprovalRow}

def TemplateStored (db : Db) (a : ApprovalRow) (template : Encoded SorobanAuthorizationEntry) : Prop :=
  ∃ row ∈ db.proposals.rows, ∃ account ∈ db.accounts.rows, ∃ member ∈ db.members.rows,
    ∃ g contract signer digest nonce expiration,
      row.id = a.proposalID ∧ account.id = row.multisigAccountID ∧ member.id = a.memberID ∧
      member.gAddress = some g ∧ scAddressFromString account.smartAccountAddress = some contract ∧
      scAddressFromString g = some signer ∧
      template = .of (checkAuthEntry contract signer digest nonce expiration)

def SignatureStored (cfg : TxConfig) (X : Codec) (db : Db) (a : ApprovalRow)
    (template : Encoded SorobanAuthorizationEntry) (signed : Encoded Bytes) : Prop :=
  ∃ member ∈ db.members.rows, ∃ g, member.id = a.memberID ∧ member.gAddress = some g ∧
    a.delegatedSignerAddress = some g ∧
    (∀ blob ∈ signed.decode, blob.length ≤ delegatedFullEntryMinLen) ∧
    verifyDelegatedSignature X template signed g cfg.networkPassphrase = .ok ()

structure ApprovalSound (cfg : TxConfig) (X : Codec) (db : Db) (a : ApprovalRow) : Prop where
  template : ∀ template, a.delegatedEntryTemplateXdr = some template → TemplateStored db a template
  signed : ∀ template signed, a.delegatedEntryTemplateXdr = some template →
    a.delegatedSignedAuthEntryBase64 = some signed → SignatureStored cfg X db a template signed

theorem TemplateStored.mono (hk : db.Keeps db') (h : TemplateStored db a template) :
    TemplateStored db' a template := by
  obtain ⟨row, hrow, account, haccount, member, hmember, g, contract, signer, digest, nonce,
    expiration, hid, haccount_id, hmember_id, hg, hcontract, hsigner, rfl⟩ := h
  obtain ⟨row', hrow', hid', hrow_account⟩ := hk.proposals row hrow
  obtain ⟨account', haccount', haccount_id', haddress⟩ := hk.accounts account haccount
  obtain ⟨member', hmember', hmember_id', hg', -⟩ := hk.members member hmember
  refine ⟨row', hrow', account', haccount', member', hmember', g, contract, signer, digest, nonce,
    expiration, hid'.trans hid, ?_, hmember_id'.trans hmember_id, hg'.trans hg, ?_, hsigner, rfl⟩
  · rw [haccount_id', haccount_id, hrow_account]
  · rw [haddress]
    exact hcontract

theorem SignatureStored.mono (hk : db.Keeps db') (h : SignatureStored cfg X db a template signed) :
    SignatureStored cfg X db' a template signed := by
  obtain ⟨member, hmember, g, hid, hg, hrest⟩ := h
  obtain ⟨member', hmember', hid', hg', -⟩ := hk.members member hmember
  exact ⟨member', hmember', g, hid'.trans hid, hg'.trans hg, hrest⟩

theorem ApprovalSound.mono (hk : db.Keeps db') (h : ApprovalSound cfg X db a) :
    ApprovalSound cfg X db' a where
  template t ht := (h.template t ht).mono hk
  signed t signed ht hsigned := (h.signed t signed ht hsigned).mono hk

end Approval

structure ReadsStored (cfg : TxConfig) (X : Codec) (db : Db) (h : History) : Prop where
  rows : ∀ r ∈ rowsRead h, ∃ row ∈ db.proposals.rows, row.id = r.id ∧
    row.multisigAccountID = r.multisigAccountID
  accounts : ∀ x ∈ accountsRead h, ∃ account ∈ db.accounts.rows, account.id = x.1 ∧
    account.smartAccountAddress = x.2.smartAccountAddress
  members : ∀ m ∈ membersRead h, ∃ m' ∈ db.members.rows, m'.id = m.id ∧ m'.gAddress = m.gAddress
  listed : ∀ l ∈ listings h, ∀ x ∈ l.2, x.approval.proposalID = l.1 ∧
    ApprovalSound cfg X db x.approval

structure Sound (cfg : TxConfig) (X : Codec) (c : MsRun) : Prop where
  approvals : ∀ a ∈ c.state.db.approvals.rows, ApprovalSound cfg X c.state.db a
  reads : ∀ t ∈ c.threads, ReadsStored cfg X c.state.db t.history
  held : ∀ t ∈ c.threads, UnderWay t → ∀ x ∈ approvalsRead t.history,
    ∀ a ∈ c.state.db.approvals.rows, a.key = (x.1, x.2.1) →
      a.delegatedEntryTemplateXdr = none ∨
        a.delegatedEntryTemplateXdr = x.2.2.delegatedEntryTemplateXdr

section Step

variable {X : Codec} {s : State} {before after : List MsThread} {t : MsThread} {op : MsOp}
  {next : MsRes op → Service Reply} (c : Choice)

theorem ReadsStored.mono {db' : Db} {h : History} (hk : db.Keeps db') (hr : ReadsStored cfg X db h) :
    ReadsStored cfg X db' h where
  rows r hmem := by
    obtain ⟨row, hrow, hid, haccount⟩ := hr.rows r hmem
    obtain ⟨row', hrow', hid', haccount'⟩ := hk.proposals row hrow
    exact ⟨row', hrow', hid'.trans hid, haccount'.trans haccount⟩
  accounts x hmem := by
    obtain ⟨account, haccount, hid, haddress⟩ := hr.accounts x hmem
    obtain ⟨account', haccount', hid', haddress'⟩ := hk.accounts account haccount
    exact ⟨account', haccount', hid'.trans hid, haddress'.trans haddress⟩
  members m hmem := by
    obtain ⟨member, hmember, hid, hg⟩ := hr.members m hmem
    obtain ⟨member', hmember', hid', hg', -⟩ := hk.members member hmember
    exact ⟨member', hmember', hid'.trans hid, hg'.trans hg⟩
  listed l hl x hx := (hr.listed l hl x hx).imp_right (ApprovalSound.mono hk)

theorem ReadsStored.advance (hs : ∀ a ∈ s.db.approvals.rows, ApprovalSound cfg X s.db a)
    (hr : ReadsStored cfg X s.db t.history) :
    ReadsStored cfg X s.db (t.advance op (exec cfg op s c).1 next).history where
  rows r hmem := by
    rcases Thread.mem_view_advance hmem with hmem | hmem
    · exact hr.rows r hmem
    · exact ⟨r, (mem_of_rowRead hmem).2.1, rfl, rfl⟩
  accounts x hmem := by
    rcases Thread.mem_view_advance hmem with hmem | hmem
    · exact hr.accounts x hmem
    · obtain ⟨haccount, hid⟩ := mem_of_accountRead hmem
      exact ⟨x.2, haccount, hid, rfl⟩
  members m hmem := by
    rcases Thread.mem_view_advance hmem with hmem | hmem
    · exact hr.members m hmem
    · exact ⟨m, mem_of_memberRead hmem, rfl, rfl⟩
  listed l hmem x hx := by
    rcases Thread.mem_view_advance hmem with hmem | hmem
    · exact hr.listed l hmem x hx
    · obtain ⟨happroval, hproposal, -⟩ := mem_of_listed hmem hx
      exact ⟨hproposal, hs _ happroval⟩

theorem template_origin {db' : Db} (hstep : DbStep op db db')
    (hg : guard cfg X t.request t.history op) {a : ApprovalRow} (ha : a ∈ db'.approvals.rows) :
    a.delegatedEntryTemplateXdr = none ∨
      (∃ old ∈ db.approvals.rows, old.key = a.key ∧
        old.delegatedEntryTemplateXdr = a.delegatedEntryTemplateXdr) ∨
      ∃ row, op = .write (.upsertMultisigApprovalDelegatedBegin row) ∧ row.key = a.key := by
  cases hstep with
  | same => exact .inr (.inl ⟨a, ha, rfl, rfl⟩)
  | register hop hreg =>
    rw [(register_eq_some hreg).1.2] at ha
    exact .inr (.inl ⟨a, ha, rfl, rfl⟩)
  | write hop hw =>
    subst hop
    cases (write_eq_some hw).2.2 a ha with
    | kept ha => exact .inr (.inl ⟨a, ha, rfl, rfl⟩)
    | webauthn =>
      obtain ⟨r, -, -, id, memberID, sigData, createdAt, rfl⟩ := hg
      exact .inl rfl
    | webauthnAgain hold hkey => exact .inr (.inl ⟨_, hold, rfl, rfl⟩)
    | begun => exact .inr (.inr ⟨_, rfl, rfl⟩)
    | begunAgain hold hkey => exact .inr (.inr ⟨_, rfl, hkey.symm⟩)
    | finished hold => exact .inr (.inl ⟨_, hold, rfl, rfl⟩)

theorem held_templates_act (hrest : t.rest = .call op next)
    (hallow : signsForMember s (before ++ after) t op) (hg : guard cfg X t.request t.history op)
    (hinv : Sound cfg X ⟨s, before ++ t :: after⟩) :
    ∀ u ∈ before ++ t.advance op (exec cfg op s c).1 next :: after, UnderWay u →
      ∀ x ∈ approvalsRead u.history, ∀ a ∈ (exec cfg op s c).2.db.approvals.rows,
        a.key = (x.1, x.2.1) → a.delegatedEntryTemplateXdr = none ∨
          a.delegatedEntryTemplateXdr = x.2.2.delegatedEntryTemplateXdr := by
  have hkeep : ∀ x : Uuid × Uuid × ApprovalRow,
      (∀ row, op = .write (.upsertMultisigApprovalDelegatedBegin row) → row.key ≠ (x.1, x.2.1)) →
      (∀ a ∈ s.db.approvals.rows, a.key = (x.1, x.2.1) → a.delegatedEntryTemplateXdr = none ∨
        a.delegatedEntryTemplateXdr = x.2.2.delegatedEntryTemplateXdr) →
      ∀ a ∈ (exec cfg op s c).2.db.approvals.rows, a.key = (x.1, x.2.1) →
        a.delegatedEntryTemplateXdr = none ∨
          a.delegatedEntryTemplateXdr = x.2.2.delegatedEntryTemplateXdr := by
    intro x hop hheld a ha hkey
    rcases template_origin (exec_dbStep cfg op s c) hg ha with
      hnone | ⟨old, hold, hold_key, htemplate⟩ | ⟨row, hbegin, hrow_key⟩
    · exact .inl hnone
    · exact htemplate ▸ hheld old hold (hold_key.trans hkey)
    · exact absurd (hrow_key.trans hkey) (hop row hbegin)
  refine forall_view_advanced hinv.held (fun _ => underWay_of_guard hrest hg)
    (fun u hu hunder x hx => hkeep x ?_) (fun hunder x _ => hkeep x fun row hop => ?_)
    fun x hx a ha hkey => ?_
  · rintro row rfl
    exact Ne.symm (hallow u hu hunder.active x hx)
  · exact absurd (isDelete_of_underWay hunder hop) (by simp [Write.isDelete])
  obtain ⟨hmem, hmem_key, hsame⟩ := mem_of_approvalRead hx
  rw [hsame] at ha
  right
  rw [Table.eq_of_uk_eq ha hmem (hkey.trans hmem_key.symm)]

theorem templateStored_of_guard {r : ProposalRow} {row : ApprovalRow}
    (hreads : ReadsStored cfg X db t.history) (hr : PendingRead t.history r row.proposalID)
    (htemplate : TemplateFor t.history r row) :
    ∀ template, row.delegatedEntryTemplateXdr = some template → TemplateStored db row template := by
  obtain ⟨account, member, g, contract, signer, digest, nonce, id, createdAt, haccount, hmember, -,
    hg, -, hcontract, hsigner, rfl⟩ := htemplate
  intro template ht
  cases ht
  obtain ⟨stored, hstored, hid, hrow_account⟩ := hreads.rows r hr.mem
  obtain ⟨account', haccount', haccount_id, haddress⟩ := hreads.accounts _ haccount
  obtain ⟨member', hmember', hmember_id, hg'⟩ := hreads.members member hmember
  refine ⟨stored, hstored, account', haccount', member', hmember', g, contract, signer, digest, nonce,
    _, hid, haccount_id.trans hrow_account.symm, hmember_id, hg'.trans hg, ?_, hsigner, rfl⟩
  rw [haddress]
  exact hcontract

theorem nullStr_eq_some {text g : String} (h : nullStr text = some g) : text = g := by
  unfold nullStr at h
  split at h
  · cases h
  · exact some.inj h

theorem sound_finished {p m : Uuid} {signer : Option String} {tag : String} {old : ApprovalRow}
    (hold : old ∈ s.db.approvals.rows) (hkey : old.key = (p, m))
    (hallow : signsForMember s (before ++ after) t
      (.write (.updateMultisigApprovalDelegatedFinish p m signed signer tag)))
    (hchecked : CheckedSignature cfg X t.history p m signed signer) (hunder : UnderWay t)
    (hinv : Sound cfg X ⟨s, before ++ t :: after⟩) :
    ApprovalSound cfg X s.db (setDelegatedFinish signed signer tag old) where
  template := (hinv.approvals old hold).template
  signed template' signed' ht hs := by
    cases hs
    obtain ⟨existing, template, signerText, hread, htemplate, rfl, hverify⟩ := hchecked
    obtain ⟨-, -, -, -, member, hmember, g, -, -, -, -, -, -, -, hid, hg, -, -, -⟩ :=
      (hinv.approvals old hold).template template' ht
    have hm : old.memberID = m := congrArg Prod.snd hkey
    have hsigner := hallow.2 member hmember (hid.trans hm)
    have hname : signerText = g := nullStr_eq_some (hsigner.symm.trans hg)
    have hsame : template' = template := by
      have hread := hinv.held t (by simp) hunder _ hread old hold hkey
      have ht : old.delegatedEntryTemplateXdr = some template' := ht
      rw [ht, htemplate] at hread
      rcases hread with hread | hread
      · cases hread
      · exact some.inj hread
    subst hsame hname
    exact ⟨member, hmember, signerText, hid, hg, hsigner.symm.trans hg, hallow.1, hverify⟩

theorem approvals_act (hrest : t.rest = .call op next)
    (hallow : signsForMember s (before ++ after) t op) (hg : guard cfg X t.request t.history op)
    (hinv : Sound cfg X ⟨s, before ++ t :: after⟩) :
    ∀ a ∈ (exec cfg op s c).2.db.approvals.rows,
      ApprovalSound cfg X (exec cfg op s c).2.db a := by
  have hstep := exec_dbStep cfg op s c
  have hreads := hinv.reads t (by simp)
  have hunder := underWay_of_guard hrest hg
  intro a ha
  apply ApprovalSound.mono hstep.keeps
  generalize (exec cfg op s c).2.db = db' at hstep ha
  cases hstep with
  | same => exact hinv.approvals a ha
  | register hop hreg =>
    rw [(register_eq_some hreg).1.2] at ha
    exact hinv.approvals a ha
  | write hop hw =>
    subst hop
    cases (write_eq_some hw).2.2 a ha with
    | kept hold => exact hinv.approvals a hold
    | webauthn =>
      obtain ⟨r, -, -, id, memberID, sigData, createdAt, rfl⟩ := hg
      exact ⟨by simp [webauthnApproval], by simp [webauthnApproval]⟩
    | webauthnAgain hold hkey =>
      exact ⟨(hinv.approvals _ hold).template, (hinv.approvals _ hold).signed⟩
    | begun =>
      obtain ⟨r, hr, -, htemplate⟩ := hg
      refine ⟨templateStored_of_guard hreads hr htemplate, ?_⟩
      obtain ⟨-, -, -, -, -, -, -, -, -, -, -, -, -, -, -, -, rfl⟩ := htemplate
      simp [delegatedApproval]
    | @begunAgain row old hold hkey =>
      obtain ⟨r, hr, -, htemplate⟩ := hg
      obtain ⟨hproposal, hmember⟩ := Prod.mk.inj hkey
      have hstored := templateStored_of_guard hreads hr htemplate
      refine ⟨fun template ht => ?_, by simp [setDelegatedBegin]⟩
      have hrow := hstored template ht
      unfold TemplateStored at hrow ⊢
      rw [← hproposal, ← hmember] at hrow
      exact hrow
    | finished hold =>
      obtain ⟨r, -, -, hchecked, -⟩ := hg
      exact sound_finished hold rfl hallow hchecked hunder hinv

theorem sound_act (hrest : t.rest = .call op next)
    (hallow : signsForMember s (before ++ after) t op) (hg : guard cfg X t.request t.history op)
    (hinv : Sound cfg X ⟨s, before ++ t :: after⟩) :
    Sound cfg X ⟨(exec cfg op s c).2,
      before ++ t.advance op (exec cfg op s c).1 next :: after⟩ where
  approvals := approvals_act c hrest hallow hg hinv
  reads := by
    have hkeeps := (exec_dbStep cfg op s c).keeps
    exact forall_advanced hinv.reads (fun u hu => hu.mono hkeeps)
      (((hinv.reads t (by simp)).advance c hinv.approvals).mono hkeeps)
  held := held_templates_act c hrest hallow hg hinv

theorem Reachable.sound {c : MsRun} (hs : ∀ a ∈ s.db.approvals.rows, ApprovalSound cfg X s.db a)
    (h : (multisigSystem cfg X).Reachable signsForMember s c) : Sound cfg X c := by
  refine Reachable.invariant (discipline cfg X) (Sound cfg X) (obeys_requestBody cfg X)
    (fun _ _ _ _ => trivial) ?_ ?_ ?_ ?_ h
  · exact ⟨hs, by simp, by simp⟩
  · intro s ts req hinv
    have hempty : ReadsStored cfg X s.db [] := by
      constructor <;> simp [rowsRead, accountsRead, membersRead, listings]
    exact ⟨hinv.approvals, forall_arrived hinv.reads hempty,
      forall_arrived hinv.held fun _ _ hx => nomatch hx⟩
  · intro s s' ts e hworld hinv
    obtain ⟨chain, -, rfl⟩ := map_eq_some_iff.mp hworld
    exact ⟨hinv.approvals, hinv.reads, hinv.held⟩
  · intro s before after t op next c hrest hallow hg hinv
    exact sound_act c hrest hallow hg hinv

end Step

variable {a : MultisigApproval}

section Entry

variable {X : Codec} {e : SorobanAuthorizationEntry}

theorem delegatedCheckAuthArgHex_checkAuthEntry (contract signer : ScAddress) (digest : Bytes)
    (nonce : Int64) (expiration : UInt32) :
    delegatedCheckAuthArgHex (checkAuthEntry contract signer digest nonce expiration) =
      some (hexEncode digest) := rfl

theorem digest_of_checkTemplate {liveDigest : String} {t : SorobanAuthorizationEntry}
    (ht : a.delegatedEntryTemplateXdr = .of t)
    (h : checkTemplate liveDigest a = .ok ()) : delegatedCheckAuthArgHex t = some liveDigest := by
  rw [checkTemplate, ht, Encoded.decode_of] at h
  dsimp only at h
  by_contra hne
  rw [if_neg hne] at h
  cases h

theorem authentic_of_applied {contractAddress g : String} {contract signer : ScAddress}
    {digest : Bytes} {nonce : Int64} {expiration : UInt32}
    (hcontract : scAddressFromString contractAddress = some contract)
    (hsigner : scAddressFromString g = some signer)
    (hshort : ∀ blob ∈ signed.decode, blob.length ≤ delegatedFullEntryMinLen)
    (hverify : verifyDelegatedSignature X
      (.of (checkAuthEntry contract signer digest nonce expiration)) signed g
      cfg.networkPassphrase = .ok ())
    (happly : applyDelegatedSignature X
      (.of (checkAuthEntry contract signer digest nonce expiration)) signed g = .ok e) :
    Authentic cfg X contractAddress g digest e := by
  obtain ⟨blob, hblob, hlong | ⟨-, t, key, ht, -, hkey, rfl⟩⟩ := applyDelegatedSignature_eq_ok happly
  · have := hshort blob hblob
    omega
  cases ht
  obtain ⟨blob', hblob', hchecked⟩ := verifyDelegatedSignature_eq_ok hverify
  obtain rfl : blob = blob' := some.inj (hblob.symm.trans hblob')
  rcases hchecked with hlong | ⟨-, t, payload, ht, hpayload, hsignature⟩
  · have := hshort blob hblob
    omega
  cases ht
  constructor
  · exact addressString_of_text hsigner
  · exact ⟨contract, hcontract, rfl⟩
  refine ⟨_, key, blob, payload, rfl, rfl, hkey, ?_, hsignature⟩
  rw [hashSorobanAuthPayload, preimage_withSignature]
  exact hpayload

theorem hasDelegatedMaterial_iff {x : ApprovalWithMember}
    (h : x.toApproval.hasDelegatedMaterial = true) : ∃ template signed,
      x.approval.delegatedEntryTemplateXdr = some template ∧
      x.approval.delegatedSignedAuthEntryBase64 = some signed := by
  simp only [MultisigApproval.hasDelegatedMaterial, ApprovalWithMember.toApproval,
    Bool.and_eq_true, Bool.not_eq_true'] at h
  obtain ⟨⟨htemplate, hsigned⟩, -⟩ := h
  cases ht : x.approval.delegatedEntryTemplateXdr with
  | none =>
    rw [ht] at htemplate
    cases htemplate
  | some template =>
    cases hs : x.approval.delegatedSignedAuthEntryBase64 with
    | none =>
      rw [hs] at hsigned
      cases hsigned
    | some signed => exact ⟨template, signed, rfl, rfl⟩

theorem applied_of_signedDelegated (h : signedDelegatedEntryFromApproval X a = .ok e) :
    applyDelegatedSignature X a.delegatedEntryTemplateXdr a.delegatedSignedAuthEntryBase64
      a.delegatedSignerAddress = .ok e := by
  unfold signedDelegatedEntryFromApproval at h
  split at h
  · exact mapError_eq_ok.mp h
  · cases h

theorem digest_of_templates {job : Job} {threshold : Nat} {rows : List ApprovalWithMember}
    (h : assembleExecution cfg X job.proposal.built threshold rows = .ok job.execution)
    (ha : a ∈ job.execution.picked.delegated) {contract signer : ScAddress} {digest : Bytes}
    {nonce : Int64} {expiration : UInt32}
    (ht : a.delegatedEntryTemplateXdr = .of (checkAuthEntry contract signer digest nonce expiration))
    : job.digest cfg = some digest := by
  obtain ⟨-, -, entries, hentries, ⟨asm⟩⟩ := assembleExecution_eq_ok h
  have harg := digest_of_checkTemplate ht (asm.templates a ha)
  rw [delegatedCheckAuthArgHex_checkAuthEntry] at harg
  have hjob := Job.digest_eq h
  rw [BuiltProposalArtifacts.liveDigest, liveEntry_of_assembled hentries asm, bind_some,
    asm.digest_eq, ← harg] at hjob
  obtain ⟨live, hlive, hhex⟩ := map_eq_some_iff.mp hjob
  rw [hlive, hexEncode_injective hhex]

/-- In every run in which signatures are stored raw and for the member they are checked for, a
job that is about to be submitted uses authentic delegated approvals only. -/
theorem submits_authentic_of_signsForMember (cfg : TxConfig) (X : Codec) (s : State) (c : MsRun)
    (hs : ∀ a ∈ s.db.approvals.rows, ApprovalSound cfg X s.db a)
    (h : (multisigSystem cfg X).Reachable signsForMember s c) (t : MsThread) (ht : t ∈ c.threads)
    (job : Job) (hjob : submitting t = some job) : job.Authentic cfg X c.state.db := by
  have hreads := (Reachable.sound hs h).reads t ht
  obtain ⟨-, hmade⟩ := jobGuard_of_submitting h ht hjob
  obtain ⟨rows, hlisted, hassembled⟩ := hmade.assembled
  obtain ⟨-, hpicked, entries, -, ⟨asm⟩⟩ := assembleExecution_eq_ok hassembled
  intro a ha
  obtain ⟨e, he, hsigned⟩ := exists_of_forall₂ asm.signed_by ha
  have husable := ha
  rw [hpicked] at husable
  obtain ⟨x, hx, -, hmaterial, -, rfl⟩ := mem_usableDelegated.mp (List.mem_of_mem_take husable)
  obtain ⟨template, signed, htemplate_eq, hsigned_eq⟩ := hasDelegatedMaterial_iff hmaterial
  obtain ⟨hproposal, hsound⟩ := hreads.listed _ hlisted x hx
  obtain ⟨row, hrow, account, haccount, member, hmember, g, contract, signer, digest, nonce,
    expiration, hid, haccount_id, hmember_id, hg, hcontract, hsigner, rfl⟩ :=
    hsound.template template htemplate_eq
  obtain ⟨member', hmember', g', hmember_id', hg', hname, hshort, hverify⟩ :=
    hsound.signed _ signed htemplate_eq hsigned_eq
  obtain rfl := Table.eq_of_pk_eq hmember hmember' (hmember_id.trans hmember_id'.symm)
  obtain rfl : g = g' := some.inj (hg.symm.trans hg')
  -- the account that the request has read is the one that the template is for
  obtain ⟨row', hrow', hid', hrow_account⟩ := hreads.rows _ hmade.read.mem
  obtain rfl := Table.eq_of_pk_eq hrow hrow' (hid.trans (hproposal.trans hid'.symm))
  obtain ⟨account', haccount', haccount_id', haddress⟩ := hreads.accounts _ hmade.account
  obtain rfl := Table.eq_of_pk_eq haccount haccount'
    (haccount_id.trans (hrow_account.trans haccount_id'.symm))
  have htemplate : x.toApproval.delegatedEntryTemplateXdr =
      .of (checkAuthEntry contract signer digest nonce expiration) := by
    simp [ApprovalWithMember.toApproval, htemplate_eq]
  have happly := applied_of_signedDelegated hsigned
  rw [htemplate] at happly
  simp only [ApprovalWithMember.toApproval, hsigned_eq, hname, getD_some, strOrEmpty]
    at happly
  refine ⟨e, asm.mem_of_signed he, member, hmember, g, digest, hsigned, hmember_id, hg,
    digest_of_templates hassembled ha htemplate, authentic_of_applied ?_ hsigner hshort hverify happly⟩
  rw [← haddress]
  exact hcontract

end Entry

namespace Sample

open Bundler.Sample

def delegatedMember : MemberRow :=
  ⟨2, 1, .delegated, none, none, none, some (accountText (key 6)), 0, none⟩

def delegatedStart : State where
  db := { startDb with
    members := ⟨[delegatedMember], by simp, by simp⟩
    approvals := .empty }
  chain := .empty

def wholeEntryBlob : Bytes := marshalAuthEntry payoutEntry

def keyed : Codec :=
  ⟨fun blob => if blob = wholeEntryBlob then some payoutEntry else none, Deploy.Sample.keyed⟩

def rawSignature : Bytes :=
  (key 6).val ++ (hashSorobanAuthPayload (checkAuthEntry (.contract (key 2)) (.account (key 6))
    ((hexDecode (artifacts 1).authDigestHex).getD []) 5 20000) config.networkPassphrase).getD []

def delegatedMoves (signed : Bytes) : Moves :=
  .arrive (.approveDelegatedBegin 1 (some 1) (some 2)) :: acts 0 8 (answers 2) ++
    .arrive (.approveDelegatedFinish 1 (some 1) (some 2) (.of signed) (accountText (key 6))) ::
    acts 1 5 (answers 2) ++ .arrive (.execute 1 (some 1)) :: acts 2 4 (answers 2)

theorem submits_authentic_when_signed : ∃ c : MsRun, ∃ t ∈ c.threads, ∃ job,
    submitting t = some job ∧ job.execution.picked.delegated.length = 1 ∧
      job.Authentic config keyed c.state.db := by
  have h : ∃ c ∈ (multisigSystem config keyed).schedule signsForMember ⟨delegatedStart, []⟩
        (delegatedMoves rawSignature),
      ∃ t ∈ c.threads, ∃ job ∈ submitting t, job.execution.picked.delegated.length = 1 := by
    decide +kernel
  obtain ⟨c, hc, t, ht, job, hjob, hpicked⟩ := h
  refine ⟨c, t, ht, job, hjob, hpicked, ?_⟩
  exact submits_authentic_of_signsForMember config keyed delegatedStart c
    (fun a ha => nomatch ha) (schedule_sound _ _ _ hc) t ht job hjob

theorem payoutEntry_of_wholeEntry (hmaterial : a.hasDelegatedMaterial = true)
    (hsigned : a.delegatedSignedAuthEntryBase64 = .of wholeEntryBlob) :
    signedDelegatedEntryFromApproval keyed a = .ok payoutEntry := by
  have hlong : delegatedFullEntryMinLen < wholeEntryBlob.length := by
    decide +kernel
  rw [signedDelegatedEntryFromApproval, if_pos hmaterial, hsigned]
  simp only [applyDelegatedSignature, Encoded.decode_of, if_pos hlong, keyed, if_true]
  rfl

theorem whole_entry_is_trusted : ∃ c,
    (multisigSystem config keyed).Reachable System.anySchedule delegatedStart c ∧
      ∃ t ∈ c.threads, ∃ job, submitting t = some job ∧
        ¬ job.Authentic config keyed c.state.db := by
  have h : ∃ c ∈ (multisigSystem config keyed).schedule anySchedule ⟨delegatedStart, []⟩
        (delegatedMoves wholeEntryBlob),
      ∃ t ∈ c.threads, ∃ job ∈ submitting t, ∃ a ∈ job.execution.picked.delegated,
        a.hasDelegatedMaterial = true ∧ a.delegatedSignedAuthEntryBase64 = .of wholeEntryBlob := by
    decide +kernel
  obtain ⟨c, hc, t, ht, job, hjob, a, ha, hmaterial, hsigned⟩ := h
  refine ⟨c, schedule_sound _ _ _ hc, t, ht, job, hjob, fun hauthentic => ?_⟩
  obtain ⟨e, -, m, -, g, digest, he, -, -, -, hentry⟩ := hauthentic a ha
  rw [payoutEntry_of_wholeEntry hmaterial hsigned] at he
  cases he
  obtain ⟨contract, -, hinvocation⟩ := hentry.invocation
  have hfunction := congrArg SorobanAuthorizedInvocation.function hinvocation
  simp [payoutEntry, payout, checkAuthInvocation] at hfunction

end Sample

end LatchApi.Multisig
