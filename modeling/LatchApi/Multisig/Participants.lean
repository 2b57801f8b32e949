import LatchApi.Multisig.Registration

namespace LatchApi.Multisig

open Lib Program Soroban Store Bundler List Option

inductive OutsideEvent where
  | chain (e : ChainEvent)
  | membership (members : Table MemberRow Uuid Uuid MemberRow.id MemberRow.id)

def membershipSystem (cfg : TxConfig) (X : Codec) :
    System Request MsOp MsRes MultisigError Reply State Choice OutsideEvent where
  body req := req.body cfg X
  exec _ op s c := exec cfg op s c
  world
    | .chain e, s => (s.chain.step e).map fun chain => { s with chain := chain }
    | .membership members, s => some { s with db := { s.db with members := members } }

def Db.Creator (db : Db) (accountID userID : Uuid) : Prop :=
  ∃ a ∈ db.accounts.rows, a.id = accountID ∧ a.userID = userID

def Db.ApprovalOf (db : Db) (accountID : Uuid) (a : ApprovalRow) : Prop :=
  ∃ row ∈ db.proposals.rows, row.id = a.proposalID ∧ row.multisigAccountID = accountID

/-- A proposal or an approval of the account is inserted, changed or deleted. -/
def Db.Touches (db db' : Db) (accountID : Uuid) : Prop :=
  (∃ row : ProposalRow, row.multisigAccountID = accountID ∧
      (row ∈ db.proposals.rows ↔ row ∉ db'.proposals.rows)) ∨
    ∃ a : ApprovalRow, db.ApprovalOf accountID a ∧ (a ∈ db.approvals.rows ↔ a ∉ db'.approvals.rows)

section Effects

variable {db db' : Db} {op : MsOp} {accountID userID : Uuid}

theorem DbStep.creator (h : DbStep op db db') (hc : db.Creator accountID userID) :
    db'.Creator accountID userID := by
  obtain ⟨a, ha, hid, huser⟩ := hc
  cases h with
  | same => exact ⟨a, ha, hid, huser⟩
  | write hop hw =>
    rw [Db.Creator, (write_eq_some hw).1.1]
    exact ⟨a, ha, hid, huser⟩
  | @register account members _ out hop hreg =>
    obtain ⟨accounts, haccounts, h⟩ := bind_eq_some_iff.mp hreg
    obtain ⟨row, -, h⟩ := bind_eq_some_iff.mp h
    obtain ⟨⟨db₁, ids⟩, hmembers, h⟩ := bind_eq_some_iff.mp h
    obtain ⟨rfl, -⟩ := Prod.mk.inj (some.inj h)
    rw [Db.Creator, (upsertMembers_eq_some hmembers).1.2.2]
    by_cases hkey : a.smartAccountAddress = account.smartAccountAddress
    · exact ⟨setAccount account a,
        (Table.mem_upsert haccounts).mpr (.inr (.inl ⟨a, ha, hkey, rfl⟩)), hid, huser⟩
    · exact ⟨a, (Table.mem_upsert haccounts).mpr (.inl ⟨ha, hkey⟩), hid, huser⟩

theorem approvals_of_insert {row : ProposalRow} (h : db.write (.insertMultisigProposal row) = some db') :
    db'.approvals = db.approvals ∧ ∀ r, r ∈ db'.proposals.rows ↔ r ∈ db.proposals.rows ∨ r = row := by
  obtain ⟨t, ht, rfl⟩ := map_eq_some_iff.mp h
  exact ⟨rfl, fun r => Table.mem_insert ht⟩

theorem mem_approvals_of_write {w : Write} (h : db.write w = some db') {a : ApprovalRow}
    (hne : a.proposalID ≠ w.proposalID) : a ∈ db'.approvals.rows ↔ a ∈ db.approvals.rows := by
  have happrovals := congrArg (a ∈ ·) (write_keeps_approvals h hne)
  simpa [Db.approvalsOf] using happrovals

theorem write_of_touches (hstep : DbStep op db db') (h : db.Touches db' accountID) :
    ∃ w, op = .write w ∧ db.write w = some db' ∧
      ((∃ row, w = .insertMultisigProposal row ∧ row.multisigAccountID = accountID) ∨
        (∀ row, w ≠ .insertMultisigProposal row) ∧
          ∃ row ∈ db.proposals.rows, row.id = w.proposalID ∧ row.multisigAccountID = accountID) := by
  cases hstep with
  | same =>
    rcases h with ⟨row, -, h⟩ | ⟨a, -, h⟩
    · tauto
    · tauto
  | register hop hreg =>
    obtain ⟨hp, ha⟩ := (register_eq_some hreg).1
    rw [Db.Touches, hp, ha] at h
    rcases h with ⟨row, -, h⟩ | ⟨a, -, h⟩
    · tauto
    · tauto
  | @write w _ hop hw =>
    refine ⟨w, hop, hw, ?_⟩
    by_cases hinsert : ∃ row, w = .insertMultisigProposal row
    · obtain ⟨new, rfl⟩ := hinsert
      obtain ⟨happrovals, hproposals⟩ := approvals_of_insert hw
      rcases h with ⟨row, haccount, h⟩ | ⟨a, -, h⟩
      · rw [hproposals] at h
        by_cases hnew : row = new
        · exact .inl ⟨new, rfl, hnew ▸ haccount⟩
        · tauto
      · rw [happrovals] at h
        tauto
    · refine .inr ⟨fun row hrow => hinsert ⟨row, hrow⟩, ?_⟩
      rcases h with ⟨row, haccount, h⟩ | ⟨a, ⟨row, hrow, hid, haccount⟩, h⟩
      · by_cases hmem : row ∈ db.proposals.rows
        · refine ⟨row, hmem, ?_, haccount⟩
          by_contra hne
          exact h.mp hmem (write_keeps_row hw hmem hne)
        · have hmem' : row ∈ db'.proposals.rows := by tauto
          cases (write_eq_some hw).2.1 row hmem' with
          | kept hrow => exact absurd hrow hmem
          | inserted => exact absurd ⟨row, rfl⟩ hinsert
          | @rebuilt old built hold => exact ⟨old, hold, rfl, haccount⟩
          | @executed old txHash hold => exact ⟨old, hold, rfl, haccount⟩
      · refine ⟨row, hrow, ?_, haccount⟩
        by_contra hne
        have hsame := mem_approvals_of_write hw (hid ▸ hne)
        tauto

end Effects

variable {op : MsOp}

section Runs

variable {cfg : TxConfig} {X : Codec} {allow : MsSchedule} {c c' : MsRun} {ch : Choice} {s : State}

theorem keeps_of_run (h : Relation.ReflTransGen ((membershipSystem cfg X).Step allow) c c') :
    (∀ row ∈ c.state.db.proposals.rows, ∃ row' ∈ c'.state.db.proposals.rows, row'.id = row.id ∧
        row'.multisigAccountID = row.multisigAccountID) ∧
      ∀ accountID userID, c.state.db.Creator accountID userID →
        c'.state.db.Creator accountID userID := by
  induction h with
  | refl => exact ⟨fun row hrow => ⟨row, hrow, rfl, rfl⟩, fun _ _ h => h⟩
  | tail _ step ih =>
    obtain ⟨hrows, hcreator⟩ := ih
    cases step with
    | arrive s ts req => exact ⟨hrows, hcreator⟩
    | world s s' ts e h =>
      cases e with
      | chain e =>
        obtain ⟨chain, -, rfl⟩ := map_eq_some_iff.mp h
        exact ⟨hrows, hcreator⟩
      | membership members =>
        cases h
        exact ⟨hrows, hcreator⟩
    | act s before after t op next ch hrest hallow =>
      have hstep := exec_dbStep cfg op s ch
      refine ⟨fun row hrow => ?_, fun a u h => hstep.creator (hcreator a u h)⟩
      obtain ⟨row₁, hrow₁, hid₁, haccount₁⟩ := hrows row hrow
      obtain ⟨row₂, hrow₂, hid₂, haccount₂, -⟩ := hstep.row_after hrow₁
      exact ⟨row₂, hrow₂, hid₂.trans hid₁, haccount₂.trans haccount₁⟩

theorem mem_of_accountFound {a : AccountRow}
    (h : accountFound ⟨op, (exec cfg op s ch).1⟩ = some a) : a ∈ s.db.accounts.rows := by
  cases op with
  | read q =>
    cases q with
    | getMultisigAccountByAddress address => exact (mem_of_orNoRows h).1
    | _ => cases h
  | _ => cases h

theorem linked_of_membersListed {x : Uuid × List MemberRow}
    (h : membersListed ⟨op, (exec cfg op s ch).1⟩ = some x) {m : MemberRow} (hm : m ∈ x.2)
    {userID : Uuid} (huser : m.userID = some userID) : s.db.Linked x.1 userID := by
  cases op with
  | read q =>
    cases q with
    | listMultisigMembersForAccount accountID =>
      simp only [exec, membersListed] at h
      split at h
      · obtain ⟨rows, hrows, rfl⟩ := map_eq_some_iff.mp h
        cases hrows
        rw [mem_insertionSort, mem_filter, decide_eq_true_eq] at hm
        exact ⟨m, hm.1, hm.2, huser⟩
      · cases h
    | _ => cases h
  | _ => cases h

theorem id_of_memberRead {m : MemberRow} (h : memberRead ⟨op, (exec cfg op s ch).1⟩ = some m) :
    op = .read (.getMultisigMemberByID m.id) := by
  cases op with
  | read q =>
    cases q with
    | getMultisigMemberByID id =>
      obtain rfl : m.id = id := of_decide_eq_true (mem_of_orNoRows h).2
      rfl
    | _ => cases h
  | _ => cases h

end Runs

section Requests

variable {cfg : TxConfig} {X : Codec} {allow : MsSchedule} {s : State} {c : MsRun} {i : Nat}
  {t : MsThread}

theorem answered_view (hc : (membershipSystem cfg X).Reachable allow s c)
    (ht : c.threads[i]? = some t) {β : Type} {view : Event MsRes → Option β} {b : β}
    (hb : b ∈ t.history.filterMap view) : ∃ c₀ op ch,
      System.Performed (membershipSystem cfg X) allow c₀ c i t.request t.history.length op ∧
        view ⟨op, (exec cfg op c₀.state ch).1⟩ = some b := by
  obtain ⟨⟨op, r⟩, he, hview⟩ := mem_filterMap.mp hb
  obtain ⟨c₀, u, ch, hperformed, rfl⟩ := hc.answered ht he
  exact ⟨c₀, op, ch, hperformed, hview⟩

/-- At an earlier step of the request its user was the account's creator or linked to one
of its members. -/
def TookPart (cfg : TxConfig) (X : Codec) (allow : MsSchedule) (c : MsRun) (i : Nat) (t : MsThread)
    (accountID : Uuid) : Prop :=
  ∃ c₀ op, System.Performed (membershipSystem cfg X) allow c₀ c i t.request t.history.length op ∧
    (c₀.state.db.Creator accountID t.request.userID ∨
      c₀.state.db.Linked accountID t.request.userID)

/-- At an earlier step the request read the member, of the account and linked to its user. -/
def ReadOwnMember (cfg : TxConfig) (X : Codec) (allow : MsSchedule) (c : MsRun) (i : Nat)
    (t : MsThread) (accountID memberID : Uuid) : Prop :=
  ∃ c₀, System.Performed (membershipSystem cfg X) allow c₀ c i t.request t.history.length
      (.read (.getMultisigMemberByID memberID)) ∧
    ∃ m ∈ c₀.state.db.members.rows, m.id = memberID ∧ m.multisigAccountID = accountID ∧
      m.userID = some t.request.userID

section

variable (hc : (membershipSystem cfg X).Reachable allow s c) (ht : c.threads[i]? = some t)

include hc ht

theorem tookPart_of_granted {account : AccountRow}
    (haccount : ∃ c₀ op, System.Performed (membershipSystem cfg X) allow c₀ c i t.request
      t.history.length op ∧ account ∈ c₀.state.db.accounts.rows)
    (hgranted : Granted t.request.userID t.history account) :
    TookPart cfg X allow c i t account.id := by
  rcases hgranted with hcreator | ⟨rows, hrows, m, hm, huser⟩
  · obtain ⟨c₀, op, hperformed, hmem⟩ := haccount
    exact ⟨c₀, op, hperformed, .inl ⟨account, hmem, rfl, hcreator⟩⟩
  · obtain ⟨c₀, op, ch, hperformed, hview⟩ := answered_view hc ht hrows
    exact ⟨c₀, op, hperformed, .inr (linked_of_membersListed hview hm huser)⟩

theorem access_of_rest {next : MsRes op → Service Reply} (hrest : t.rest = .call op next) :
    Access t.request.userID t.history op := by
  have hobeys := System.Reachable.obeys (fullDiscipline cfg X) (full_requestBody cfg X)
    (fun _ _ _ _ => trivial) hc t (mem_of_getElem? ht)
  rw [hrest, obeys_call] at hobeys
  exact hobeys.1.2.1

theorem account_of_write {w : Write} {next : MsRes (.write w) → Service Reply}
    (hrest : t.rest = .call (.write w) next) (hinsert : ∀ row, w ≠ .insertMultisigProposal row)
    {row : ProposalRow} (hrow : row ∈ c.state.db.proposals.rows) (hid : row.id = w.proposalID) :
    ∃ account, account.id = row.multisigAccountID ∧
      (∃ c₀ op, System.Performed (membershipSystem cfg X) allow c₀ c i t.request t.history.length op ∧
        account ∈ c₀.state.db.accounts.rows) ∧
      Granted t.request.userID t.history account ∧
      ∀ m ∈ w.memberID, ActsAs t.request.userID t.history account m := by
  have haccess := access_of_rest hc ht hrest
  obtain ⟨r, account, hr, hr_id, haccount, hgranted, hacts⟩ : ∃ r account,
      rowsRead t.history = [r] ∧ r.id = w.proposalID ∧
      (r.multisigAccountID, account) ∈ accountsRead t.history ∧
      Granted t.request.userID t.history account ∧
      ∀ m ∈ w.memberID, ActsAs t.request.userID t.history account m := by
    cases w with
    | insertMultisigProposal row => exact absurd rfl (hinsert row)
    | _ => exact haccess
  have hmem : r ∈ t.history.filterMap rowRead := by
    rw [show t.history.filterMap rowRead = [r] from hr]
    exact mem_cons_self
  obtain ⟨c₁, op₁, ch₁, hperformed₁, hview₁⟩ := answered_view hc ht hmem
  obtain ⟨-, hr_mem, -⟩ := mem_of_rowRead hview₁
  obtain ⟨row', hrow', hid', haccount'⟩ := (keeps_of_run hperformed₁.run).1 r hr_mem
  obtain rfl := Table.eq_of_pk_eq hrow hrow' (hid.trans (hr_id.symm.trans hid'.symm))
  obtain ⟨c₂, op₂, ch₂, hperformed₂, hview₂⟩ := answered_view hc ht haccount
  obtain ⟨haccount_mem, haccount_id⟩ := mem_of_accountRead hview₂
  exact ⟨account, haccount_id.trans haccount'.symm, ⟨c₂, op₂, hperformed₂, haccount_mem⟩, hgranted,
    hacts⟩

end

end Requests

theorem member_of_written {db db' : Db} {w : Write} (h : db.write w = some db') {a : ApprovalRow}
    (ha : a ∈ db'.approvals.rows) (hnew : a ∉ db.approvals.rows) :
    w.memberID = some a.memberID ∧ w.proposalID = a.proposalID := by
  cases (write_eq_some h).2.2 a ha with
  | kept hold => exact absurd hold hnew
  | webauthn | begun | finished => exact ⟨rfl, rfl⟩
  | webauthnAgain hold hkey | begunAgain hold hkey =>
    exact ⟨congrArg (some ∘ Prod.snd) hkey.symm, congrArg Prod.fst hkey.symm⟩

/-- Whatever a request does to an account's proposals and approvals, it has seen its user
take part in the account; approvals that it writes are for members it has seen to be
linked to the user, unless they created the account. -/
theorem only_participants_act (cfg : TxConfig) (X : Codec) (s : State) (c : MsRun)
    (hc : (membershipSystem cfg X).Reachable System.anySchedule s c) (i : Nat) (t : MsThread)
    (ht : c.threads[i]? = some t) (op : MsOp) (next : MsRes op → Service Reply)
    (hrest : t.rest = .call op next) (ch : Choice) (accountID : Uuid) :
    (c.state.db.Touches (exec cfg op c.state ch).2.db accountID →
        TookPart cfg X System.anySchedule c i t accountID) ∧
      (¬ c.state.db.Creator accountID t.request.userID →
        ∀ a ∈ (exec cfg op c.state ch).2.db.approvals.rows, a ∉ c.state.db.approvals.rows →
          c.state.db.ApprovalOf accountID a →
          ReadOwnMember cfg X System.anySchedule c i t accountID a.memberID) := by
  have hstep := exec_dbStep cfg op c.state ch
  constructor
  · intro htouches
    obtain ⟨w, rfl, hw, ⟨row, rfl, rfl⟩ | ⟨hinsert, row, hrow, hid, rfl⟩⟩ :=
      write_of_touches hstep htouches
    · obtain ⟨account, haccount, hid, hgranted⟩ := access_of_rest hc ht hrest
      obtain ⟨c₀, op₀, ch₀, hperformed, hview⟩ := answered_view hc ht haccount
      rw [hid]
      exact tookPart_of_granted hc ht ⟨c₀, op₀, hperformed, mem_of_accountFound hview⟩ hgranted
    · obtain ⟨account, hid, haccount, hgranted, -⟩ := account_of_write hc ht hrest hinsert hrow hid
      rw [← hid]
      exact tookPart_of_granted hc ht haccount hgranted
  · intro hcreator a ha hnew happroval
    have htouches : c.state.db.Touches (exec cfg op c.state ch).2.db accountID :=
      .inr ⟨a, happroval, by tauto⟩
    obtain ⟨w, rfl, hw, ⟨row, rfl, -⟩ | ⟨hinsert, -⟩⟩ := write_of_touches hstep htouches
    · rw [(approvals_of_insert hw).1] at ha
      exact absurd ha hnew
    obtain ⟨hmember, hproposal⟩ := member_of_written hw ha hnew
    obtain ⟨row, hrow, hid, rfl⟩ := happroval
    obtain ⟨account, haccount, ⟨c₁, op₁, hperformed₁, haccount_mem⟩, -, hacts⟩ :=
      account_of_write hc ht hrest hinsert hrow (hid.trans hproposal.symm)
    obtain ⟨m, hm, hm_id, hm_account, hcaller⟩ := hacts a.memberID hmember
    obtain ⟨c₂, op₂, ch₂, hperformed₂, hview₂⟩ := answered_view hc ht hm
    rcases hcaller with hcaller | hlinked
    · exact absurd ((keeps_of_run hperformed₁.run).2 _ _ ⟨account, haccount_mem, haccount, hcaller⟩)
        hcreator
    obtain rfl := id_of_memberRead hview₂
    rw [← hm_id]
    exact ⟨c₂, hperformed₂, m, mem_of_memberRead hview₂, rfl, hm_account.trans haccount, hlinked⟩

namespace Sample

open Bundler.Sample

def linkedMember : MemberRow := ⟨1, 1, .webauthn, none, some "04aa", none, none, 0, some 2⟩

def linkedState : State :=
  ⟨{ startDb with members := ⟨[linkedMember], by simp, by simp⟩, approvals := .empty }, .empty⟩

def approvalsAfter (t : MsThread) (s : State) : List (Uuid × Uuid) :=
  match t.rest with
  | .call op _ => (exec config op s (answers 1)).2.db.approvals.rows.map ApprovalRow.key
  | _ => []

theorem member_approves : ∃ c t, c.threads[0]? = some t ∧ t.request.userID = 2 ∧
    TookPart config noCodec System.anySchedule c 0 t 1 ∧
    ReadOwnMember config noCodec System.anySchedule c 0 t 1 1 := by
  have h : ∃ c ∈ (membershipSystem config noCodec).schedule System.anySchedule ⟨linkedState, []⟩
        (.arrive (.approveWebauthn 2 (some 1) (some 1) "00") ::
          replicate 6 (.act 0 (answers 1)) ++ [.world (.membership .empty)]),
      ∃ t ∈ c.threads[0]?, t.request.userID = 2 ∧ c.state.db.approvals.rows.length = 0 ∧
        (∃ row ∈ c.state.db.proposals.rows, row.id = 1 ∧ row.multisigAccountID = 1) ∧
        (∀ a ∈ c.state.db.accounts.rows, a.userID ≠ 2) ∧ approvalsAfter t c.state = [(1, 1)] := by
    decide +kernel
  obtain ⟨c, hc, t, ht, huser, hempty, hproposal, hcreator, hafter⟩ := h
  have hempty : c.state.db.approvals.rows = [] := length_eq_zero_iff.mp hempty
  unfold approvalsAfter at hafter
  split at hafter
  · rename_i op next hrest
    obtain ⟨a, ha, hkey⟩ := mem_map.mp (hafter ▸ mem_cons_self :
      (1, 1) ∈ (exec config op c.state (answers 1)).2.db.approvals.rows.map ApprovalRow.key)
    have hnew : a ∉ c.state.db.approvals.rows := by simp [hempty]
    obtain ⟨hproposalID, hmemberID⟩ := Prod.mk.inj hkey
    have happroval : c.state.db.ApprovalOf 1 a := by
      obtain ⟨row, hrow, hid, haccount⟩ := hproposal
      exact ⟨row, hrow, hid.trans hproposalID.symm, haccount⟩
    obtain ⟨htook, hread⟩ := only_participants_act config noCodec linkedState c
      (System.schedule_sound _ _ _ hc) 0 t ht op next hrest (answers 1) 1
    refine ⟨c, t, ht, huser, htook (.inr ⟨a, happroval, by simp [hempty, ha]⟩), ?_⟩
    have hnot : ¬ c.state.db.Creator 1 t.request.userID := by
      rintro ⟨b, hb, -, hb_user⟩
      exact hcreator b hb (hb_user.trans huser)
    exact hmemberID ▸ hread hnot a ha hnew happroval
  · cases hafter

end Sample

end LatchApi.Multisig
