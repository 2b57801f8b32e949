import LatchApi.Bundler.CheckAuthOnly
import LatchApi.Multisig.Effects
import LatchApi.Multisig.Specs

namespace LatchApi.Multisig

open Lib Program Soroban Store Bundler List Option

def Write.isDelete : Write → Bool
  | .deleteMultisigApprovalsForProposal _ => true
  | _ => false

structure UnderWay (t : MsThread) : Prop where
  active : t.active = true
  writes : ∀ w ∈ Multisig.writes t.history, w.isDelete = true

variable {cfg : TxConfig} {s : State} {X : Codec} {req : Request} {h : History}
  {l : Uuid × List ApprovalWithMember}

variable {op : MsOp}

theorem writes_of_guard (hg : guard cfg X req h op) : writes h = [] ∨
      ∃ p built, op = .write (.updateMultisigProposalRebuild p built) ∧
        writes h = [.deleteMultisigApprovalsForProposal p] ∧ p ∈ cleared h := by
  cases op with
  | write w =>
    cases w with
    | insertMultisigProposal row => exact .inl hg.1
    | updateMultisigProposalRebuild p built =>
      obtain ⟨r, -, -, hw⟩ := hg
      exact .inr ⟨p, built, rfl, hw⟩
    | updateMultisigProposalExecuted | deleteMultisigApprovalsForProposal =>
      obtain ⟨r, -, hw⟩ := hg
      exact .inl hw
    | upsertMultisigApprovalWebauthn | upsertMultisigApprovalDelegatedBegin
    | updateMultisigApprovalDelegatedFinish =>
      obtain ⟨r, -, hw, -⟩ := hg
      exact .inl hw
  | read q =>
    cases q with
    | getMultisigProposalByID id => exact .inl (congrArg writes (show h = [] from hg))
    | _ => exact .inl hg
  | submitAuthEntries job => exact .inl hg.1
  | _ => exact .inl hg

theorem isDelete_of_guard (hg : guard cfg X req h op) : ∀ w ∈ writes h, w.isDelete = true := by
  rcases writes_of_guard hg with hw | ⟨p, built, -, hw, -⟩ <;> simp [hw, Write.isDelete]

variable {t : MsThread} {next : MsRes op → Service Reply}

theorem underWay_of_guard (hrest : t.rest = .call op next) (hg : guard cfg X t.request t.history op) :
    UnderWay t :=
  ⟨Thread.active_of_rest hrest, isDelete_of_guard hg⟩

def submitting (t : MsThread) : Option Job :=
  match t.rest with
  | .call (.submitAuthEntries job) _ => some job
  | _ => none

theorem jobGuard_of_submitting {allow : MsSchedule} {c : MsRun}
    (h : (multisigSystem cfg X).Reachable allow s c) (ht : t ∈ c.threads) {job : Job}
    (hjob : submitting t = some job) : UnderWay t ∧ JobGuard cfg X t.request t.history job := by
  have hobeys := System.Reachable.obeys (discipline cfg X) (obeys_requestBody cfg X)
    (fun _ _ _ _ => trivial) h t ht
  unfold submitting at hjob
  split at hjob
  · rename_i job' next hrest
    cases hjob
    rw [hrest, obeys_call] at hobeys
    exact ⟨underWay_of_guard hrest hobeys.1, hobeys.1.2⟩
  · cases hjob

theorem isDelete_of_underWay {r : MsRes op} (h : UnderWay (t.advance op r next)) {w : Write}
    (hop : op = .write w) : w.isDelete = true := by
  subst hop
  exact h.writes w mem_cons_self

theorem mem_of_orNoRows {ρ : Type} {p : ρ → Bool} {rows : List ρ} {r : ρ} {ok : Prop} [Decidable ok]
    (h : (if ok then orNoRows (rows.find? p) else .error .failed : Except DbError ρ).toOption = some r) :
    r ∈ rows ∧ p r = true := by
  split at h
  · cases hfind : rows.find? p with
    | none => simp [hfind, orNoRows, orError, Except.toOption] at h
    | some r' =>
      obtain rfl : r' = r := by simpa [hfind, orNoRows, orError, Except.toOption] using h
      exact ⟨mem_of_find?_eq_some hfind, find?_some hfind⟩
  · cases h

variable {c : Choice}

theorem mem_of_rowRead {row : ProposalRow} (h : rowRead ⟨op, (exec cfg op s c).1⟩ = some row) :
    op = .read (.getMultisigProposalByID row.id) ∧ row ∈ s.db.proposals.rows ∧
      (exec cfg op s c).2 = s := by
  cases op with
  | read q =>
    cases q with
    | getMultisigProposalByID id =>
      obtain ⟨hmem, hid⟩ := mem_of_orNoRows h
      obtain rfl : row.id = id := of_decide_eq_true hid
      exact ⟨rfl, hmem, rfl⟩
    | _ => cases h
  | _ => cases h

theorem mem_of_accountRead {x : Uuid × AccountRow}
    (h : accountRead ⟨op, (exec cfg op s c).1⟩ = some x) :
    x.2 ∈ s.db.accounts.rows ∧ x.2.id = x.1 := by
  cases op with
  | read q =>
    cases q with
    | getMultisigAccountByID id =>
      obtain ⟨row, hrow, rfl⟩ := map_eq_some_iff.mp h
      obtain ⟨hmem, hid⟩ := mem_of_orNoRows hrow
      exact ⟨hmem, of_decide_eq_true hid⟩
    | _ => cases h
  | _ => cases h

theorem mem_of_memberRead {m : MemberRow} (h : memberRead ⟨op, (exec cfg op s c).1⟩ = some m) :
    m ∈ s.db.members.rows := by
  cases op with
  | read q =>
    cases q with
    | getMultisigMemberByID id => exact (mem_of_orNoRows h).1
    | _ => cases h
  | _ => cases h

theorem mem_of_approvalRead {x : Uuid × Uuid × ApprovalRow}
    (h : approvalRead ⟨op, (exec cfg op s c).1⟩ = some x) :
    x.2.2 ∈ s.db.approvals.rows ∧ x.2.2.key = (x.1, x.2.1) ∧ (exec cfg op s c).2 = s := by
  cases op with
  | read q =>
    cases q with
    | getMultisigApprovalByProposalAndMember p m =>
      obtain ⟨row, hrow, rfl⟩ := map_eq_some_iff.mp h
      obtain ⟨hmem, hkey⟩ := mem_of_orNoRows hrow
      exact ⟨hmem, of_decide_eq_true hkey, rfl⟩
    | _ => cases h
  | _ => cases h

variable {x : ApprovalWithMember}

theorem mem_withMember {db : Db} {as : List ApprovalRow} (h : x ∈ as.filterMap db.withMember) :
    x.approval ∈ as ∧ x.member ∈ db.members.rows ∧
      x.member.id = x.approval.memberID := by
  obtain ⟨a, ha, hx⟩ := mem_filterMap.mp h
  obtain ⟨m, hm, rfl⟩ := map_eq_some_iff.mp hx
  obtain ⟨hmem, hid⟩ := Table.mem_of_find hm
  exact ⟨ha, hmem, of_decide_eq_true hid⟩

theorem listed_of_exec (h : listed ⟨op, (exec cfg op s c).1⟩ = some l) :
    (exec cfg op s c).2 = s ∧ l.2 = ((s.db.approvalsOf l.1).insertionSort
      (rowOrder ApprovalRow.createdAt ApprovalRow.id c.order)).filterMap s.db.withMember := by
  cases op with
  | read q =>
    cases q with
    | listMultisigApprovalsWithMemberForProposal p =>
      simp only [exec, listed] at h
      split at h
      · obtain ⟨rows, hrows, rfl⟩ := map_eq_some_iff.mp h
        exact ⟨rfl, (some.inj hrows).symm⟩
      · cases h
    | _ => cases h
  | _ => cases h

theorem mem_of_listed (h : listed ⟨op, (exec cfg op s c).1⟩ = some l) (hx : x ∈ l.2) :
    x.approval ∈ s.db.approvals.rows ∧ x.approval.proposalID = l.1 ∧
      x.member ∈ s.db.members.rows ∧ x.member.id = x.approval.memberID := by
  rw [(listed_of_exec h).2] at hx
  obtain ⟨happroval, hmember, hid⟩ := mem_withMember hx
  rw [mem_insertionSort, Db.approvalsOf, mem_filter, decide_eq_true_eq] at happroval
  exact ⟨happroval.1, happroval.2, hmember, hid⟩

def readsRow (t : MsThread) (p : Uuid) : Bool :=
  (rowsRead t.history).any fun r => decide (r.id = p)

theorem readsRow_of_mem {r : ProposalRow} (h : r ∈ rowsRead t.history) : readsRow t r.id = true :=
  any_eq_true.mpr ⟨r, h, decide_eq_true rfl⟩

theorem PendingRead.mem {r : ProposalRow} {p : Uuid} (hr : PendingRead h r p) : r ∈ rowsRead h := by
  rw [hr.rows]
  exact mem_cons_self

def Held (kind : MsThread → Prop) (c : MsRun) : Prop :=
  ∀ t ∈ c.threads, kind t → UnderWay t → ∀ r ∈ rowsRead t.history,
    ∃ row ∈ c.state.db.proposals.rows, row.id = r.id ∧ row.built = r.built

variable {kind : MsThread → Prop}

theorem held_act {before after : List MsThread} (c : Choice) (hrest : t.rest = .call op next)
    (hg : guard cfg X t.request t.history op)
    (hkind : kind (t.advance op (exec cfg op s c).1 next) → kind t)
    (halone : ∀ p built, op = .write (.updateMultisigProposalRebuild p built) →
      ∀ u ∈ before ++ after, kind u → u.active = true → readsRow u p = false)
    (hinv : Held kind ⟨s, before ++ t :: after⟩) :
    Held kind ⟨(exec cfg op s c).2, before ++ t.advance op (exec cfg op s c).1 next :: after⟩ := by
  have hkeep : ∀ r : ProposalRow, (∀ built, op ≠ .write (.updateMultisigProposalRebuild r.id built)) →
      (∃ row ∈ s.db.proposals.rows, row.id = r.id ∧ row.built = r.built) →
      ∃ row ∈ (exec cfg op s c).2.db.proposals.rows, row.id = r.id ∧ row.built = r.built := by
    rintro r hop ⟨row, hrow, hid, hbuilt⟩
    obtain ⟨row', hrow', hid', -, hbuilt' | hrebuild⟩ := (exec_dbStep cfg op s c).row_after hrow
    · exact ⟨row', hrow', hid'.trans hid, hbuilt'.trans hbuilt⟩
    · rw [hid] at hrebuild
      exact absurd hrebuild (hop _)
  intro u hu hku hunder
  refine System.forall_view_advanced (Q := fun u => kind u ∧ UnderWay u)
    (fun u hu hQ => hinv u hu hQ.1 hQ.2) (fun hQ => ⟨hkind hQ.1, underWay_of_guard hrest hg⟩)
    (fun u hu hQ r hr => hkeep r fun built hop => ?_) (fun hQ r _ => hkeep r fun built hop => ?_)
    (fun r hr => ?_) u hu ⟨hku, hunder⟩
  · have hnot := halone _ _ hop u hu hQ.1 hQ.2.active
    rw [readsRow_of_mem hr] at hnot
    cases hnot
  · exact absurd (isDelete_of_underWay hQ.2 hop) (by simp [Write.isDelete])
  · obtain ⟨-, hmem, hsame⟩ := mem_of_rowRead hr
    rw [← hsame] at hmem
    exact ⟨r, hmem, rfl, rfl⟩

theorem held_arrive {ts : List MsThread} {body : Service Reply} (hinv : Held kind ⟨s, ts⟩) :
    Held kind ⟨s, ts ++ [⟨req, [], body⟩]⟩ :=
  System.forall_arrived hinv fun _ _ _ hr => nomatch hr

namespace Sample

open Bundler.Sample

def walletAddress : String := contractText (key 2)

def increment : InvokeContractArgs := ⟨.contract (key 3), "increment", [.address (.contract (key 2))]⟩

def simulatedEntry (nonce : Int64) (validUntil : UInt32) : SorobanAuthorizationEntry :=
  ⟨.address ⟨.contract (key 2), nonce, validUntil, .void⟩, ⟨.contractFn increment, []⟩⟩

def artifacts (nonce : Int64) : BuiltProposalArtifacts where
  txXdr := .of (.v1 [.invokeHostFunction (.invokeContract increment) [simulatedEntry nonce 20000]])
  authEntries := .of [.of (simulatedEntry nonce 20000)]
  smartAccountAuthEntryIndex := 0
  contextRuleID := 0
  authDigestHex := (computeAuthDigestHex (simulatedEntry nonce 20000) config.networkPassphrase [0]).getD ""
  signaturePayloadHex := ""
  validUntilLedger := 20000

def account (threshold : Nat) : AccountRow := ⟨1, 1, walletAddress, threshold, "00", 0⟩

def passkeyMember (id : Uuid) : MemberRow :=
  ⟨id, 1, .webauthn, none, some "04aa", none, none, 0, some 1⟩

def proposalRow : ProposalRow :=
  ⟨1, 1, 1, contractText (key 3), .counterIncrement, .of noParams, artifacts 1, .pending, none, 0⟩

def approvalRow (memberID : Uuid) : ApprovalRow :=
  webauthnApproval memberID 1 memberID (some "00") 0 (artifacts 1).authDigestHex

def startDb : Db where
  accounts := ⟨[account 1], by simp, by simp⟩
  members := ⟨[passkeyMember 1], by simp, by simp⟩
  proposals := ⟨[proposalRow], by simp, by simp⟩
  approvals := ⟨[approvalRow 1], by simp, by simp⟩

def start : State := ⟨startDb, .empty⟩

def rpcAnswers (poll : Except PollError TransactionStatus) :
    Script TxRes
  | _, .feeTokens => .error .notConfigured
  | _, .ledgerSequence _ => .ok 1
  | _, .buildTransaction _ => .ok ()
  | _, .simulate _ => .ok ⟨"", .of []⟩
  | _, .signPayload _ _ => .error .failed
  | _, .send _ => .ok ⟨"hash", false, ""⟩
  | _, .getTransaction _ => poll
  | _, .gaslessSubmit _ _ _ _ => .error (.other, "")
  | _, .tokenBalance _ _ => .error .failed

def answers (nonce : Int64) : Choice where
  uuid := 7
  nonce := .ok 5
  rule := .ok (0, .matched)
  sequence := .ok 1
  simulation := .ok ⟨"", some [.of (simulatedEntry nonce 0)], 500, .of []⟩
  ledger := .ok 500
  rpc := rpcAnswers (.ok (.success ""))
  accepted := true

def withUuid (id : Uuid) : Choice := { answers 1 with uuid := id }

theorem artifacts_coherent (nonce : Int64) : (artifacts nonce).Coherent config := by
  have hlive : (artifacts nonce).liveDigest config = computeAuthDigestHex (simulatedEntry nonce 20000)
      config.networkPassphrase [0] := rfl
  obtain ⟨digest, hdigest⟩ : ∃ digest, computeAuthDigestHex (simulatedEntry nonce 20000)
      config.networkPassphrase [0] = some digest := ⟨_, rfl⟩
  rw [BuiltProposalArtifacts.Coherent, hlive, artifacts, hdigest, getD_some]

abbrev Moves := List (System.Move Request Choice ChainEvent)

def acts (i n : Nat) (c : Choice) : Moves := List.replicate n (.act i c)

def statusOf (c : MsRun) : Option ProposalStatus := (c.state.db.proposal 1).map ProposalRow.status

def digestOf (c : MsRun) : Option String :=
  (c.state.db.proposal 1).map fun r => r.built.authDigestHex

end Sample

end LatchApi.Multisig
