import LatchApi.Multisig.Quorum

/-!
Which approvals stand in the way of an execution. The approvals are picked before any of them is
decoded, so those that are first in line decide.
-/

namespace LatchApi.Multisig

open Lib Program Soroban Store Bundler List Option

def MultisigApproval.Decodes (a : MultisigApproval) : Prop :=
  (hexDecode (normalizeHex a.memberKeyDataHex)).isSome = true ∧
    (hexDecode (normalizeHex a.webauthnSigDataXdrHex)).isSome = true

def MultisigApproval.SignsDigest (X : Codec) (digest : Option String) (a : MultisigApproval) : Prop :=
  (∃ template d, a.delegatedEntryTemplateXdr.decode = some template ∧ digest = some d ∧
      delegatedCheckAuthArgHex template = some d) ∧
    ∃ e, applyDelegatedSignature X a.delegatedEntryTemplateXdr a.delegatedSignedAuthEntryBase64
      a.delegatedSignerAddress = .ok e

namespace ApprovalWithMember

/-- The approval is complete and, taken by itself, can be used. -/
def WellFormed (X : Codec) (digest : Option String) (row : ApprovalWithMember) : Prop :=
  (row.approval.approvalType = .webauthn ∧ row.toApproval.hasWebauthnMaterial = true ∧
      row.toApproval.Decodes) ∨
    (row.approval.approvalType = .delegated ∧ row.toApproval.hasDelegatedMaterial = true ∧
      row.toApproval.memberGAddress ≠ "" ∧ row.toApproval.SignsDigest X digest)

def signer (row : ApprovalWithMember) : ApprovalType × String :=
  (row.approval.approvalType, match row.approval.approvalType with
    | .webauthn => normalizeHex row.toApproval.memberKeyDataHex
    | .delegated => row.toApproval.memberGAddress)

end ApprovalWithMember

/-- Among the approvals are `threshold` well-formed ones of members with different keys. -/
def HasQuorum (X : Codec) (digest : Option String) (threshold : Nat)
    (rows : List ApprovalWithMember) : Prop :=
  ∃ good : List ApprovalWithMember, (∀ row ∈ good, row ∈ rows) ∧ threshold ≤ good.length ∧
    (good.map ApprovalWithMember.signer).Nodup ∧ ∀ row ∈ good, row.WellFormed X digest

/-- The first `threshold` complete approvals, webauthn ones before delegated ones, are well formed
and name signers. Of two with one key only the first counts. -/
structure Unblocked (cfg : TxConfig) (X : Codec) (built : BuiltProposalArtifacts) (threshold : Nat)
    (rows : List ApprovalWithMember) : Prop where
  live : (built.liveDigest cfg).isSome = true
  webauthn : ∀ before a after, (usableWebauthn rows).take threshold = before ++ a :: after →
    (∀ b ∈ before, normalizeHex b.memberKeyDataHex ≠ normalizeHex a.memberKeyDataHex) →
      a.Decodes ∧ (webauthnInput cfg a).signerKey.isSome = true
  delegated : ∀ a ∈ (usableDelegated rows).take (threshold - (usableWebauthn rows).length),
    a.SignsDigest X (built.liveDigest cfg) ∧ (delegatedSignerKey a.memberGAddress).isSome = true

section Collect

variable {ι : Type} {entry : Nat → ι → Except PayloadError (ScVal × ScVal)}
  {Good : ι → Prop}

theorem collectSigners_ok_iff (key : ι → String)
    (hentry : ∀ i x, (∃ s, entry i x = .ok s) ↔ Good x) (i : Nat) (seen : List String)
    (xs : List ι) : (∃ out, collectSigners key entry i seen xs = .ok out) ↔
      ∀ x ∈ firsts key seen xs, Good x := by
  induction xs generalizing i seen with
  | nil => simp [collectSigners, firsts]
  | cons x xs ih =>
    unfold collectSigners firsts
    split
    · exact ih ..
    · rw [forall_mem_cons, ← hentry i, ← ih (i + 1)]
      cases entry i x with
      | error e => simp
      | ok signer => cases collectSigners key entry (i + 1) (key x :: seen) xs <;> simp

theorem signerEntry_ok_iff (i : Nat) (w : WebauthnApprovalInput) : (∃ s, w.signerEntry i = .ok s) ↔
      (hexDecode (normalizeHex w.sigDataXdrHex)).isSome = true ∧ w.signerKey.isSome = true := by
  unfold WebauthnApprovalInput.signerEntry WebauthnApprovalInput.signerKey
  cases scAddress w.verifierAddress with
  | none => simp
  | some verifier =>
    cases hexDecode (normalizeHex w.keyDataHex) with
    | none => simp
    | some keyData =>
      cases hexDecode (normalizeHex w.sigDataXdrHex) with
      | none => simp
      | some sigData => by_cases hlength : maxOpaqueLength < keyData.length <;> simp [hlength]

theorem delegatedSignerEntry_ok_iff (i : Nat) (g : String) :
    (∃ s, delegatedSignerEntry i g = .ok s) ↔ (delegatedSignerKey g).isSome = true := by
  unfold delegatedSignerEntry delegatedSignerKey
  cases scAddress g <;> simp

end Collect

variable {cfg : TxConfig}

section Payload

theorem dedupKey_eq_iff {a b : MultisigApproval} :
    (webauthnInput cfg b).dedupKey = (webauthnInput cfg a).dedupKey ↔
      normalizeHex b.memberKeyDataHex = normalizeHex a.memberKeyDataHex := by
  constructor
  · intro h
    have hlist := congrArg String.toList h
    simp only [WebauthnApprovalInput.dedupKey, webauthnInput, String.toList_append,
      append_cancel_left_eq] at hlist
    exact String.toList_inj.mp hlist
  · intro h
    simp only [WebauthnApprovalInput.dedupKey, webauthnInput, h]

theorem multisigSigners_ok_iff (webauthn : List WebauthnApprovalInput) (delegated : List String) :
    (∃ signers, multisigSigners webauthn delegated = .ok signers) ↔
      (∀ w ∈ firsts WebauthnApprovalInput.dedupKey [] webauthn,
        (hexDecode (normalizeHex w.sigDataXdrHex)).isSome = true ∧ w.signerKey.isSome = true) ∧
      ∀ g ∈ delegated, (delegatedSignerKey g).isSome = true := by
  have hexternal := collectSigners_ok_iff WebauthnApprovalInput.dedupKey signerEntry_ok_iff 0 []
    webauthn
  -- the keys of the webauthn signers are no keys of delegated ones
  have haccounts : ∀ seen external, collectSigners WebauthnApprovalInput.dedupKey
      WebauthnApprovalInput.signerEntry 0 [] webauthn = .ok (seen, external) →
      ((∃ out, collectSigners delegatedDedupKey delegatedSignerEntry 0 seen delegated = .ok out) ↔
        ∀ g ∈ delegated, (delegatedSignerKey g).isSome = true) := by
    intro seen external hcollect
    rw [collectSigners_ok_iff delegatedDedupKey delegatedSignerEntry_ok_iff 0 seen delegated]
    refine ⟨fun h g hg => ?_, fun h g hg => h g (firsts_sublist.subset hg)⟩
    rcases exists_first hg with hmem | ⟨g', hg', hkey⟩
    · rcases (collectSigners_eq_ok hcollect).2 _ hmem with hnil | ⟨w, -, hkey⟩
      · cases hnil
      · exact absurd hkey (dedupKey_ne_delegated w g)
    · exact delegatedDedupKey_injective hkey ▸ h g' hg'
  constructor
  · rintro ⟨signers, h⟩
    obtain ⟨⟨seen, external⟩, hcollect, h⟩ := bind_eq_ok.mp h
    obtain ⟨⟨_, accounts⟩, hrest, -⟩ := bind_eq_ok.mp h
    exact ⟨hexternal.mp ⟨_, hcollect⟩, (haccounts seen external hcollect).mp ⟨_, hrest⟩⟩
  · rintro ⟨hwebauthn, hdelegated⟩
    obtain ⟨⟨seen, external⟩, hcollect⟩ := hexternal.mpr hwebauthn
    obtain ⟨⟨seen', accounts⟩, hrest⟩ := (haccounts seen external hcollect).mpr hdelegated
    exact ⟨_, bind_eq_ok.mpr ⟨_, hcollect, bind_eq_ok.mpr ⟨_, hrest, rfl⟩⟩⟩

end Payload

section Assemble

variable {X : Codec} {built : BuiltProposalArtifacts} {threshold : Nat}
  {rows : List ApprovalWithMember} {a : MultisigApproval}

theorem checkTemplate_eq_ok_iff {digest : String} :
    checkTemplate digest a = .ok () ↔ ∃ template, a.delegatedEntryTemplateXdr.decode = some template ∧
      delegatedCheckAuthArgHex template = some digest := by
  unfold checkTemplate
  cases a.delegatedEntryTemplateXdr.decode with
  | none => simp
  | some template => by_cases harg : delegatedCheckAuthArgHex template = some digest <;> simp [harg]

theorem signsDigest_iff {digest : String} :
    a.SignsDigest X (some digest) ↔ checkTemplate digest a = .ok () ∧
      ∃ e, applyDelegatedSignature X a.delegatedEntryTemplateXdr a.delegatedSignedAuthEntryBase64
        a.delegatedSignerAddress = .ok e := by
  rw [checkTemplate_eq_ok_iff, MultisigApproval.SignsDigest]
  simp

theorem hasDelegatedMaterial_of_picked {n : Nat}
    (ha : a ∈ (usableDelegated rows).take n) : a.hasDelegatedMaterial = true := by
  obtain ⟨row, -, -, hmaterial, -, rfl⟩ := mem_usableDelegated.mp (mem_of_mem_take ha)
  exact hmaterial

theorem signedDelegatedEntry_eq_ok_iff {e : SorobanAuthorizationEntry}
    (ha : a.hasDelegatedMaterial = true) : signedDelegatedEntryFromApproval X a = .ok e ↔
      applyDelegatedSignature X a.delegatedEntryTemplateXdr a.delegatedSignedAuthEntryBase64
        a.delegatedSignerAddress = .ok e := by
  rw [signedDelegatedEntryFromApproval, if_pos ha, mapError_eq_ok]

theorem picked_delegated (threshold : Nat) (webauthn delegated : List MultisigApproval) :
    (pickApprovalsForThreshold threshold webauthn delegated).delegated =
      delegated.take (threshold - webauthn.length) := by
  have hcount : threshold - (webauthn.take threshold).length = threshold - webauthn.length := by
    rw [length_take]
    omega
  rw [pickApprovalsForThreshold, hcount]

theorem pickedSigners_ok_iff (as : List MultisigApproval) (gs : List String) :
    (∃ signers, multisigSigners (as.map (webauthnInput cfg)) gs = .ok signers) ↔
      (∀ before a after, as = before ++ a :: after →
        (∀ b ∈ before, normalizeHex b.memberKeyDataHex ≠ normalizeHex a.memberKeyDataHex) →
          a.Decodes ∧ (webauthnInput cfg a).signerKey.isSome = true) ∧
      ∀ g ∈ gs, (delegatedSignerKey g).isSome = true := by
  rw [multisigSigners_ok_iff]
  refine and_congr ⟨fun h before a after has hbefore => ?_, fun h w hw => ?_⟩ Iff.rfl
  · obtain ⟨hsig, hkey⟩ := h (webauthnInput cfg a) (mem_firsts.mpr ⟨before.map (webauthnInput cfg),
      after.map (webauthnInput cfg), by simp [has], not_mem_nil, fun v hv => by
        obtain ⟨b, hb, rfl⟩ := mem_map.mp hv
        exact fun heq => hbefore b hb (dedupKey_eq_iff.mp heq)⟩)
    obtain ⟨k, hk⟩ := isSome_iff_exists.mp hkey
    obtain ⟨-, keyData, -, hdata, -⟩ := signerKey_eq_some hk
    exact ⟨⟨isSome_iff_exists.mpr ⟨keyData, hdata⟩, hsig⟩, hkey⟩
  · obtain ⟨before, after, has, -, hbefore⟩ := mem_firsts.mp hw
    obtain ⟨before', rest, rfl, rfl, hrest⟩ := map_eq_append_iff.mp has
    obtain ⟨a, after', rfl, rfl, -⟩ := map_eq_cons_iff.mp hrest
    have hgood := h before' a after' rfl fun b hb heq =>
      hbefore _ (mem_map_of_mem hb) (dedupKey_eq_iff.mpr heq)
    exact ⟨hgood.1.2, hgood.2⟩

theorem hasSourceAccount_of_digest {entry : SorobanAuthorizationEntry} {passphrase d : String}
    {ids : List UInt32} (h : computeAuthDigestHex entry passphrase ids = some d) :
    entry.hasSourceAccount = false := by
  obtain ⟨credentials, invocation⟩ := entry
  cases credentials with
  | sourceAccount => cases h
  | address creds => rfl

theorem liveDigest_eq_some {d : String} (h : built.liveDigest cfg = some d) :
    ∃ entries idx entry, storedEntries built = .ok entries ∧
      smartAccountEntryAt entries built.smartAccountAuthEntryIndex = some (idx, entry) ∧
      computeAuthDigestHex entry cfg.networkPassphrase
        (contextRuleIDsForEntry entry built.contextRuleID) = some d := by
  obtain ⟨entry, hentry, hdigest⟩ := bind_eq_some_iff.mp h
  unfold BuiltProposalArtifacts.liveEntry at hentry
  split at hentry
  · rename_i entries hentries
    obtain ⟨⟨idx, entry'⟩, hat, rfl⟩ := map_eq_some_iff.mp hentry
    exact ⟨entries, idx, entry', hentries, hat, hdigest⟩
  · cases hentry

theorem unblocked_of_assembled {ex : Execution}
    (h : assembleExecution cfg X built threshold rows = .ok ex) :
    Unblocked cfg X built threshold rows := by
  obtain ⟨-, hpicked, entries, hentries, ⟨a⟩⟩ := assembleExecution_eq_ok h
  have hlive : built.liveDigest cfg = some a.liveDigest := by
    rw [BuiltProposalArtifacts.liveDigest, liveEntry_of_assembled hentries a]
    exact a.digest_eq
  obtain ⟨hwebauthn, haddresses⟩ := (pickedSigners_ok_iff _ _).mp ⟨a.signers, a.signers_eq⟩
  have hdelegated := congrArg PickedApprovals.delegated hpicked
  rw [picked_delegated] at hdelegated
  have hsigned := a.signed_by
  have htemplates := a.templates
  rw [hdelegated] at haddresses hsigned htemplates
  rw [congrArg PickedApprovals.webauthn hpicked] at hwebauthn
  refine ⟨by rw [hlive]; rfl, hwebauthn, fun b hb => ⟨?_, haddresses _ (mem_map_of_mem hb)⟩⟩
  obtain ⟨e, -, he⟩ := exists_of_forall₂ hsigned hb
  rw [hlive, signsDigest_iff]
  exact ⟨htemplates b hb,
    e, (signedDelegatedEntry_eq_ok_iff (hasDelegatedMaterial_of_picked hb)).mp he⟩

theorem assembled_of_unblocked
    (hcount : threshold ≤ (usableWebauthn rows).length + (usableDelegated rows).length)
    (h : Unblocked cfg X built threshold rows) :
    ∃ ex, assembleExecution cfg X built threshold rows = .ok ex := by
  obtain ⟨d, hlive⟩ := isSome_iff_exists.mp h.live
  have hdelegated := h.delegated
  rw [hlive] at hdelegated
  obtain ⟨entries, idx, entry, hentries, hat, hdigest⟩ := liveDigest_eq_some hlive
  have haddresses : ∀ g ∈ ((usableDelegated rows).take
      (threshold - (usableWebauthn rows).length)).map MultisigApproval.memberGAddress,
      (delegatedSignerKey g).isSome = true := by
    intro g hg
    obtain ⟨a, ha, rfl⟩ := mem_map.mp hg
    exact (hdelegated a ha).2
  obtain ⟨signers, hsigners⟩ := (pickedSigners_ok_iff _ _).mpr ⟨h.webauthn, haddresses⟩
  have htemplates : ((usableDelegated rows).take (threshold - (usableWebauthn rows).length)).forM
      (checkTemplate d) = .ok () :=
    forM_eq_ok.mpr fun a ha => (signsDigest_iff.mp (hdelegated a ha).1).1
  have hsigned : ∃ signed, ((usableDelegated rows).take
      (threshold - (usableWebauthn rows).length)).mapM (signedDelegatedEntryFromApproval X) =
        .ok signed := by
    refine exists_mapM_eq_ok fun a ha => ?_
    obtain ⟨-, e, he⟩ := signsDigest_iff.mp (hdelegated a ha).1
    exact ⟨e, (signedDelegatedEntry_eq_ok_iff (hasDelegatedMaterial_of_picked ha)).mpr he⟩
  obtain ⟨signed, hsigned⟩ := hsigned
  refine ⟨⟨pickApprovalsForThreshold threshold (usableWebauthn rows) (usableDelegated rows),
    entry.withSignature (authPayload (contextRuleIDsForEntry entry built.contextRuleID) signers) ::
      keptEntries entries idx ++ signed⟩, ?_⟩
  unfold assembleExecution
  simp only [if_neg (Nat.not_lt.mpr hcount)]
  refine bind_eq_ok.mpr ⟨entries, hentries, bind_eq_ok.mpr ⟨_, mapError_eq_ok.mpr ?_, rfl⟩⟩
  unfold buildMultisigExecuteAuthEntries
  simp only [hat, picked_delegated]
  refine bind_eq_ok.mpr ⟨d, by rw [hdigest]; rfl, bind_eq_ok.mpr ⟨(), htemplates, ?_⟩⟩
  refine bind_eq_ok.mpr ⟨_, mapError_eq_ok.mpr (map_eq_ok.mpr ⟨signers, hsigners, rfl⟩), ?_⟩
  rw [hasSourceAccount_of_digest hdigest, if_neg Bool.false_ne_true]
  exact bind_eq_ok.mpr ⟨signed, hsigned, rfl⟩

theorem count_of_hasQuorum {digest : Option String} (h : HasQuorum X digest threshold rows) :
    threshold ≤ (usableWebauthn rows).length + (usableDelegated rows).length := by
  obtain ⟨good, hrows, hcount, hdistinct, hgood⟩ := h
  let webauthn (row : ApprovalWithMember) : Bool :=
    decide (row.approval.approvalType = .webauthn) && row.toApproval.hasWebauthnMaterial
  let delegated (row : ApprovalWithMember) : Bool :=
    decide (row.approval.approvalType = .delegated) &&
      (row.toApproval.hasDelegatedMaterial && row.toApproval.memberGAddress != "")
  have hcomplete : ∀ row ∈ good, row ∈ rows.filter fun row => webauthn row || delegated row := by
    intro row hrow
    refine mem_filter.mpr ⟨hrows row hrow, ?_⟩
    rcases hgood row hrow with ⟨htype, hmaterial, -⟩ | ⟨htype, hmaterial, haddress, -⟩
    · simp [webauthn, htype, hmaterial]
    · simp [delegated, htype, hmaterial, haddress]
  have hle : good.length ≤ (rows.filter fun row => webauthn row || delegated row).length :=
    (hdistinct.of_map.subperm hcomplete).length_le
  have hsum : ∀ rows : List ApprovalWithMember,
      (rows.filter fun row => webauthn row || delegated row).length ≤
        (rows.filter webauthn).length + (rows.filter delegated).length := by
    intro rows
    induction rows with
    | nil => exact Nat.le_refl _
    | cons row rows ih =>
      simp only [filter_cons]
      cases webauthn row <;> cases delegated row <;> simp <;> omega
  rw [usableWebauthn, usableDelegated, length_map, length_map]
  exact Nat.le_trans hcount (Nat.le_trans hle (hsum rows))

end Assemble

section Run

def answersIn (cfg : TxConfig) (s : State) (c : Choice) (_ : History) (op : MsOp) : MsRes op :=
  (exec cfg op s c).1

def submissionIn : Event MsRes → Option Job
  | ⟨.submitAuthEntries job, _⟩ => some job
  | _ => none

def submissionsOf (cfg : TxConfig) (X : Codec) (s : State) (c : Choice) (userID proposalID : Uuid) :
    List Job :=
  ((executeProposal cfg X userID (some proposalID)).runWith (answersIn cfg s c) []).2.filterMap
    submissionIn

def Unexpired (validUntilLedger : UInt32) (ledger : Int64) : Prop :=
  multisigExpirySafetyLedgers ≤ validUntilLedger ∧
    ledger.toUInt64.toUInt32 < validUntilLedger - multisigExpirySafetyLedgers

/-- A pending proposal whose entries are valid, in a state in which every statement succeeds. -/
structure Executable (s : State) (c : Choice) (userID : Uuid) (proposal : ProposalRow)
    (account : AccountRow) : Prop where
  stored : s.db.proposal proposal.id = some proposal
  pending : proposal.status = .pending
  owner : s.db.accounts.find (fun r => decide (r.id = proposal.multisigAccountID)) = some account
  access : s.db.Participates account userID
  works : c.fault = .none
  fresh : ∃ ledger, c.ledger = .ok ledger ∧ Unexpired proposal.built.validUntilLedger ledger

def listedApprovals (s : State) (c : Choice) (proposalID : Uuid) : List ApprovalWithMember :=
  ((s.db.approvalsOf proposalID).insertionSort
    (rowOrder ApprovalRow.createdAt ApprovalRow.id c.order)).filterMap s.db.withMember

variable {X : Codec} {s : State} {c : Choice} {userID : Uuid} {proposal : ProposalRow}
  {account : AccountRow} {α β : Type}

def Quietly (cfg : TxConfig) (s : State) (c : Choice) (p : Service α) (a : α) : Prop :=
  ∀ h, ∃ h', p.runWith (answersIn cfg s c) h = (.ok a, h') ∧
    h'.filterMap submissionIn = h.filterMap submissionIn

theorem Quietly.bind {p : Service α} {f : α → Service β} {a : α} {b : β}
    (hp : Quietly cfg s c p a) (hf : Quietly cfg s c (f a) b) : Quietly cfg s c (p >>= f) b := by
  intro h
  obtain ⟨h₁, hrun₁, hsame₁⟩ := hp h
  obtain ⟨h₂, hrun₂, hsame₂⟩ := hf h₁
  refine ⟨h₂, ?_, hsame₂.trans hsame₁⟩
  rw [runWith_bind, hrun₁]
  exact hrun₂

theorem Quietly.attempt {p : Service α} {a : α} (hp : Quietly cfg s c p a) :
    Quietly cfg s c (p.attempt) (.ok a) := by
  intro h
  obtain ⟨h₁, hrun₁, hsame₁⟩ := hp h
  refine ⟨h₁, ?_, hsame₁⟩
  rw [runWith_attempt, hrun₁]

theorem quietly_ok (a : α) : Quietly cfg s c (.ok a) a := fun h => ⟨h, rfl, rfl⟩

theorem quietly_perform (cfg : TxConfig) (s : State) (c : Choice) (op : MsOp)
    (hq : submissionIn ⟨op, (exec cfg op s c).1⟩ = none) :
    Quietly cfg s c (perform op) (exec cfg op s c).1 := by
  intro h
  refine ⟨⟨op, (exec cfg op s c).1⟩ :: h, rfl, ?_⟩
  rw [filterMap_cons, hq]

theorem quietly_read {q : Query} {a : q.Answer} (hfault : c.fault = .none)
    (ha : q.answer s.db c.order = .ok a) : Quietly cfg s c (runQuery q) (.ok a) := by
  have hread := quietly_perform cfg s c (.read q) rfl
  rw [exec, if_pos hfault, ha] at hread
  exact hread

theorem quietly_getPendingProposal (cfg : TxConfig) (h : Executable s c userID proposal account) :
    Quietly cfg s c (getPendingProposal (some proposal.id) userID) (proposal, account) := by
  have haccess : Quietly cfg s c (requireAccess account userID) account := by
    unfold requireAccess accountAccessGranted
    refine Quietly.bind (a := true) ?_ (quietly_ok account)
    split_ifs with hown
    · exact quietly_ok true
    refine (quietly_read h.works rfl).bind ?_
    rcases h.access with hcreator | ⟨m, hm, haccount, huser⟩
    · exact absurd hcreator hown
    have hany : ((s.db.members.rows.filter fun r => decide (r.multisigAccountID = account.id)).insertionSort
        (rowOrder MemberRow.createdAt MemberRow.id c.order)).any
          (fun m => decide (m.userID = some userID)) = true := by
      refine any_eq_true.mpr ⟨m, ?_, decide_eq_true huser⟩
      rw [mem_insertionSort, mem_filter]
      exact ⟨hm, decide_eq_true haccount⟩
    simp only [orDbError, orFail, ok_bind, pure_eq, hany]
    exact quietly_ok true
  refine Quietly.bind (a := (proposal, account)) ?_ ?_
  · have hread : (Query.getMultisigProposalByID proposal.id).answer s.db c.order = .ok proposal :=
      congrArg orNoRows h.stored
    have howner : (Query.getMultisigAccountByID proposal.multisigAccountID).answer s.db c.order =
        .ok account := congrArg orNoRows h.owner
    refine (quietly_read h.works hread).bind ?_
    simp only [orMissing, orFail, ok_bind]
    refine Quietly.bind (a := .ok account) (Quietly.attempt ?_) (quietly_ok _)
    exact (quietly_read h.works howner).bind haccess
  · have hpending : requirePending proposal = .ok () := if_pos h.pending
    simp only [hpending, Program.ofExcept, ok_bind, pure_eq]
    exact quietly_ok _

theorem quietly_ensureFresh (cfg : TxConfig) (h : Executable s c userID proposal account) :
    Quietly cfg s c (ensureFresh cfg proposal account) () := by
  obtain ⟨ledger, hledger, hsafe, hlater⟩ := h.fresh
  refine Quietly.bind (a := false) ?_ (quietly_ok ())
  refine (quietly_perform cfg s c .latestLedger rfl).bind ?_
  rw [exec, hledger]
  simp only [orRpcError, orFail, ok_bind, pure_eq, if_neg (UInt32.not_lt.mpr hsafe),
    decide_eq_false (UInt32.not_le.mpr hlater)]
  exact quietly_ok false

theorem submits_iff_assembles (h : Executable s c userID proposal account) :
    submissionsOf cfg X s c userID proposal.id ≠ [] ↔
      ∃ ex, assembleExecution cfg X proposal.built account.threshold
        (listedApprovals s c proposal.id) = .ok ex := by
  obtain ⟨h₁, hrun₁, hnone₁⟩ := quietly_getPendingProposal cfg h []
  obtain ⟨h₂, hrun₂, hnone₂⟩ := quietly_ensureFresh cfg h h₁
  have hlist : Quietly cfg s c (runQuery (.listMultisigApprovalsWithMemberForProposal proposal.id))
      (.ok (listedApprovals s c proposal.id)) := quietly_read h.works rfl
  obtain ⟨h₃, hrun₃, hnone₃⟩ := hlist h₂
  have hnone : h₃.filterMap submissionIn = [] := hnone₃.trans (hnone₂.trans hnone₁)
  unfold submissionsOf executeProposal
  rw [runWith_bind, hrun₁]
  simp only
  rw [runWith_bind, hrun₂]
  simp only
  rw [runWith_bind, hrun₃]
  simp only [orDbError, orFail, ok_bind]
  cases hassemble : assembleExecution cfg X proposal.built account.threshold
      (listedApprovals s c proposal.id) with
  | error e =>
    simp only [orAssembleError, Except.mapError, Program.ofExcept, fail_bind, Program.runWith, hnone]
    simp
  | ok ex =>
    refine ⟨fun _ => ⟨ex, rfl⟩, fun _ => ?_⟩
    simp only [orAssembleError, Except.mapError, Program.ofExcept, ok_bind]
    refine ne_nil_of_mem (a := ⟨proposal, account, ex⟩) ?_
    refine mem_filterMap.mpr ⟨⟨.submitAuthEntries ⟨proposal, account, ex⟩,
      answersIn cfg s c h₃ (.submitAuthEntries ⟨proposal, account, ex⟩)⟩, ?_, rfl⟩
    rw [runWith_bind]
    exact runWith_of_mem mem_cons_self

end Run

namespace Sample

open Bundler.Sample

def otherMember : MemberRow := ⟨2, 1, .webauthn, none, some "04bb", none, none, 0, some 1⟩

def twoApprovals (first second : String) : List ApprovalWithMember :=
  [⟨webauthnApproval 1 1 1 (some first) 0 (artifacts 1).authDigestHex, passkeyMember 1⟩,
    ⟨webauthnApproval 2 1 2 (some second) 1 (artifacts 1).authDigestHex, otherMember⟩]

def approvedBy (first second : String) : State where
  db := { startDb with
    members := ⟨[passkeyMember 1, otherMember], by decide, by decide⟩
    approvals := ⟨(twoApprovals first second).map ApprovalWithMember.approval, by
      simp [twoApprovals, webauthnApproval], by simp [twoApprovals, webauthnApproval, ApprovalRow.key]⟩ }
  chain := .empty

theorem executable_approvedBy (first second : String) :
    Executable (approvedBy first second) (answers 2) 1 proposalRow (account 1) where
  stored := rfl
  pending := rfl
  owner := rfl
  access := .inl rfl
  works := rfl
  fresh := ⟨500, rfl, by decide, by decide⟩

theorem hasQuorum_approvedBy (first : String) :
    HasQuorum noCodec (proposalRow.built.liveDigest config) (account 1).threshold
      (listedApprovals (approvedBy first "00") (answers 2) proposalRow.id) := by
  have hlisted : listedApprovals (approvedBy first "00") (answers 2) proposalRow.id =
      twoApprovals first "00" := rfl
  rw [hlisted]
  refine ⟨[⟨webauthnApproval 2 1 2 (some "00") 1 (artifacts 1).authDigestHex, otherMember⟩], ?_, ?_,
    ?_, ?_⟩
  · simp [twoApprovals]
  · exact Nat.le_refl 1
  · simp
  intro row hrow
  obtain rfl := mem_singleton.mp hrow
  refine .inl ⟨rfl, ?_, ?_, ?_⟩ <;> decide +kernel

end Sample

end LatchApi.Multisig
