import LatchApi.Multisig.Requests

namespace LatchApi.Multisig

open Lib Program Soroban Store Bundler Option Lib.Table

inductive RowAfter (db : Db) : Write → ProposalRow → Prop
  | kept {w : Write} {row : ProposalRow} (hrow : row ∈ db.proposals.rows) : RowAfter db w row
  | inserted {row : ProposalRow} : RowAfter db (.insertMultisigProposal row) row
  | rebuilt {old : ProposalRow} {built : BuiltProposalArtifacts} (hold : old ∈ db.proposals.rows) :
      RowAfter db (.updateMultisigProposalRebuild old.id built) { old with built := built }
  | executed {old : ProposalRow} {txHash : Option String} (hold : old ∈ db.proposals.rows) :
      RowAfter db (.updateMultisigProposalExecuted old.id txHash)
        { old with status := .executed, executedTxHash := txHash }

inductive ApprovalAfter (db : Db) : Write → ApprovalRow → Prop
  | kept {w : Write} {a : ApprovalRow} (ha : a ∈ db.approvals.rows)
      (hw : ∀ p, w = .deleteMultisigApprovalsForProposal p → a.proposalID ≠ p) : ApprovalAfter db w a
  | webauthn {row : ApprovalRow} : ApprovalAfter db (.upsertMultisigApprovalWebauthn row) row
  | webauthnAgain {row old : ApprovalRow} (hold : old ∈ db.approvals.rows)
      (hkey : old.key = row.key) :
      ApprovalAfter db (.upsertMultisigApprovalWebauthn row) (setWebauthn row old)
  | begun {row : ApprovalRow} : ApprovalAfter db (.upsertMultisigApprovalDelegatedBegin row) row
  | begunAgain {row old : ApprovalRow} (hold : old ∈ db.approvals.rows) (hkey : old.key = row.key) :
      ApprovalAfter db (.upsertMultisigApprovalDelegatedBegin row) (setDelegatedBegin row old)
  | finished {old : ApprovalRow} {signed : Encoded Bytes} {signer : Option String} {tag : String}
      (hold : old ∈ db.approvals.rows) :
      ApprovalAfter db (.updateMultisigApprovalDelegatedFinish old.proposalID old.memberID signed
        signer tag) (setDelegatedFinish signed signer tag old)

variable {db db' : Db} {row : ProposalRow}

section Write

variable {w : Write}

theorem write_eq_some (h : db.write w = some db') :
    (db'.accounts = db.accounts ∧ db'.members = db.members) ∧
      (∀ row ∈ db'.proposals.rows, RowAfter db w row) ∧
      ∀ a ∈ db'.approvals.rows, ApprovalAfter db w a := by
  have hupdated : ∀ id (set : ProposalRow → ProposalRow),
      (∀ old ∈ db.proposals.rows, old.id = id → RowAfter db w (set old)) →
        ∀ r ∈ db.proposals.rows.map (fun r => if isRow id r then set r else r), RowAfter db w r := by
    intro id set hset r hr
    rcases mem_updated.mp hr with ⟨hr, -⟩ | ⟨old, hold, hid, rfl⟩
    · exact .kept hr
    · exact hset old hold (of_decide_eq_true hid)
  cases w with
  | insertMultisigProposal row =>
    obtain ⟨t, ht, rfl⟩ := map_eq_some_iff.mp h
    refine ⟨⟨rfl, rfl⟩, fun r hr => ?_, fun a ha => .kept ha (by simp)⟩
    rcases (mem_insert ht).mp hr with hr | rfl
    · exact .kept hr
    · exact .inserted
  | updateMultisigProposalRebuild id built =>
    cases h
    refine ⟨⟨rfl, rfl⟩, hupdated id _ ?_, fun a ha => .kept ha (by simp)⟩
    rintro old hold rfl
    exact .rebuilt hold
  | updateMultisigProposalExecuted id txHash =>
    cases h
    refine ⟨⟨rfl, rfl⟩, hupdated id _ ?_, fun a ha => .kept ha (by simp)⟩
    rintro old hold rfl
    exact .executed hold
  | deleteMultisigApprovalsForProposal id =>
    cases h
    refine ⟨⟨rfl, rfl⟩, fun r hr => .kept hr, fun a ha => ?_⟩
    obtain ⟨ha, hne⟩ := mem_delete.mp ha
    refine .kept ha ?_
    rintro p ⟨⟩
    exact of_decide_eq_false hne
  | upsertMultisigApprovalWebauthn row =>
    obtain ⟨t, ht, rfl⟩ := map_eq_some_iff.mp h
    refine ⟨⟨rfl, rfl⟩, fun r hr => .kept hr, fun a ha => ?_⟩
    rcases (mem_upsert ht).mp ha with ⟨ha, -⟩ | ⟨old, hold, hkey, rfl⟩ | ⟨rfl, -⟩
    · exact .kept ha (by simp)
    · exact .webauthnAgain hold hkey
    · exact .webauthn
  | upsertMultisigApprovalDelegatedBegin row =>
    obtain ⟨t, ht, rfl⟩ := map_eq_some_iff.mp h
    refine ⟨⟨rfl, rfl⟩, fun r hr => .kept hr, fun a ha => ?_⟩
    rcases (mem_upsert ht).mp ha with ⟨ha, -⟩ | ⟨old, hold, hkey, rfl⟩ | ⟨rfl, -⟩
    · exact .kept ha (by simp)
    · exact .begunAgain hold hkey
    · exact .begun
  | updateMultisigApprovalDelegatedFinish p m signed signer tag =>
    cases h
    refine ⟨⟨rfl, rfl⟩, fun r hr => .kept hr, fun a ha => ?_⟩
    rcases mem_updated.mp ha with ⟨ha, -⟩ | ⟨old, hold, hkey, rfl⟩
    · exact .kept ha (by simp)
    · obtain ⟨rfl, rfl⟩ := Prod.mk.inj (of_decide_eq_true hkey)
      exact .finished hold

theorem write_keeps_row (h : db.write w = some db') (hrow : row ∈ db.proposals.rows)
    (hne : row.id ≠ w.proposalID) : row ∈ db'.proposals.rows := by
  have hupdate : ∀ (set : ProposalRow → ProposalRow),
      row ∈ db.proposals.rows.map fun r => if isRow w.proposalID r then set r else r := fun set =>
    mem_updated.mpr (.inl ⟨hrow, decide_eq_false hne⟩)
  cases w with
  | insertMultisigProposal new =>
    obtain ⟨t, ht, rfl⟩ := map_eq_some_iff.mp h
    exact (mem_insert ht).mpr (.inl hrow)
  | updateMultisigProposalRebuild | updateMultisigProposalExecuted =>
    cases h
    exact hupdate _
  | deleteMultisigApprovalsForProposal | updateMultisigApprovalDelegatedFinish =>
    cases h
    exact hrow
  | upsertMultisigApprovalWebauthn | upsertMultisigApprovalDelegatedBegin =>
    obtain ⟨t, -, rfl⟩ := map_eq_some_iff.mp h
    exact hrow

theorem filter_updated {ρ : Type} {keep p : ρ → Bool} {set : ρ → ρ} (rows : List ρ)
    (hset : ∀ r, p r = true → keep (set r) = false ∧ keep r = false) :
    (rows.map fun r => if p r then set r else r).filter keep = rows.filter keep := by
  induction rows with
  | nil => rfl
  | cons r rows ih =>
    by_cases hp : p r = true
    · simp [hp, hset r hp, ih]
    · by_cases hk : keep r = true <;> simp [hp, hk, ih]

theorem filter_upserted {row : ApprovalRow} {set : ApprovalRow → ApprovalRow} {q : Uuid}
    {t t' : Table ApprovalRow Uuid (Uuid × Uuid) ApprovalRow.id ApprovalRow.key}
    {hset : ∀ r, (set r).id = r.id ∧ (set r).key = r.key} (h : t.upsert row set hset = some t')
    (hq : q ≠ row.proposalID) :
    (t'.rows.filter fun r => decide (r.proposalID = q)) =
      t.rows.filter fun r => decide (r.proposalID = q) := by
  unfold upsert at h
  split at h
  · cases h
    refine filter_updated _ fun r hr => ?_
    have hkey : r.key = row.key := of_decide_eq_true hr
    have hp : r.proposalID = row.proposalID := congrArg Prod.fst hkey
    have hp' : (set r).proposalID = r.proposalID := congrArg Prod.fst (hset r).2
    simp [hp, hp', Ne.symm hq]
  · rw [rows_insert h]
    simp [Ne.symm hq]

theorem write_keeps_approvals (h : db.write w = some db') {q : Uuid} (hq : q ≠ w.proposalID) :
    db'.approvalsOf q = db.approvalsOf q := by
  cases w with
  | insertMultisigProposal new =>
    obtain ⟨t, -, rfl⟩ := map_eq_some_iff.mp h
    rfl
  | updateMultisigProposalRebuild | updateMultisigProposalExecuted =>
    cases h
    rfl
  | deleteMultisigApprovalsForProposal p =>
    cases h
    simp only [Db.approvalsOf, delete, List.filter_filter]
    refine List.filter_congr fun r _ => ?_
    by_cases hr : r.proposalID = q
    · subst hr
      simpa [Write.proposalID] using hq
    · simp [hr]
  | upsertMultisigApprovalWebauthn | upsertMultisigApprovalDelegatedBegin =>
    obtain ⟨t, ht, rfl⟩ := map_eq_some_iff.mp h
    exact filter_upserted ht hq
  | updateMultisigApprovalDelegatedFinish p m signed signer tag =>
    cases h
    refine filter_updated _ fun r hr => ?_
    have hp : r.proposalID = p := congrArg Prod.fst (of_decide_eq_true hr)
    have hne : p ≠ q := Ne.symm hq
    simp [setDelegatedFinish, hp, hne]

theorem row_after_write (h : db.write w = some db') (hrow : row ∈ db.proposals.rows) :
    ∃ row' ∈ db'.proposals.rows, row'.id = row.id ∧
      row'.multisigAccountID = row.multisigAccountID ∧
      (row'.built = row.built ∨ w = .updateMultisigProposalRebuild row.id row'.built) := by
  by_cases hid : row.id = w.proposalID
  · cases w with
    | updateMultisigProposalRebuild id built =>
      cases h
      obtain rfl : row.id = id := hid
      exact ⟨_, mem_updated.mpr (.inr ⟨row, hrow, decide_eq_true rfl, rfl⟩), rfl, rfl, .inr rfl⟩
    | updateMultisigProposalExecuted id txHash =>
      cases h
      exact ⟨_, mem_updated.mpr (.inr ⟨row, hrow, decide_eq_true hid, rfl⟩), rfl, rfl, .inl rfl⟩
    | insertMultisigProposal new =>
      obtain ⟨t, ht, rfl⟩ := map_eq_some_iff.mp h
      exact ⟨row, (mem_insert ht).mpr (.inl hrow), rfl, rfl, .inl rfl⟩
    | deleteMultisigApprovalsForProposal | updateMultisigApprovalDelegatedFinish =>
      cases h
      exact ⟨row, hrow, rfl, rfl, .inl rfl⟩
    | upsertMultisigApprovalWebauthn | upsertMultisigApprovalDelegatedBegin =>
      obtain ⟨t, -, rfl⟩ := map_eq_some_iff.mp h
      exact ⟨row, hrow, rfl, rfl, .inl rfl⟩
  · exact ⟨row, write_keeps_row h hrow hid, rfl, rfl, .inl rfl⟩

end Write

variable {members : List MemberRow} {out : Uuid × List Uuid}

section Register

variable {row : MemberRow} {ids : List Uuid}

def Db.KeepsMembers (db db' : Db) : Prop :=
  ∀ m ∈ db.members.rows, ∃ m' ∈ db'.members.rows, m'.id = m.id ∧ m'.gAddress = m.gAddress ∧
    m'.multisigAccountID = m.multisigAccountID

def Db.KeepsAccounts (db db' : Db) : Prop :=
  ∀ a ∈ db.accounts.rows, ∃ a' ∈ db'.accounts.rows, a'.id = a.id ∧
    a'.smartAccountAddress = a.smartAccountAddress

theorem upsertMember_cases {id : Uuid} (h : db.upsertMember row = some (db', id)) :
    (∃ r, db.members.find row.conflicts = some r ∧ db' = { db with
      members := db.members.update (fun r' => decide (r'.id = r.id)) (setMember row)
        fun _ => ⟨rfl, rfl⟩ }) ∨
    db.members.find row.conflicts = none ∧
      ∃ t, db.members.insert row = some t ∧ db' = { db with members := t } := by
  unfold Db.upsertMember at h
  split at h
  · rename_i r hfind
    exact .inl ⟨r, hfind, (Prod.mk.inj (some.inj h)).1.symm⟩
  rename_i hfind
  split at h
  · cases h
  · obtain ⟨t, ht, hpair⟩ := map_eq_some_iff.mp h
    exact .inr ⟨hfind, t, ht, (Prod.mk.inj hpair).1.symm⟩

theorem upsertMembers_cons {rows : List MemberRow}
    (h : db.upsertMembers (row :: rows) = some (db', ids)) :
    ∃ db₁ id ids', db.upsertMember row = some (db₁, id) ∧
      db₁.upsertMembers rows = some (db', ids') := by
  obtain ⟨⟨db₁, id⟩, hrow, h⟩ := bind_eq_some_iff.mp h
  obtain ⟨⟨db₂, ids'⟩, hrows, h⟩ := bind_eq_some_iff.mp h
  obtain ⟨rfl, -⟩ := Prod.mk.inj (some.inj h)
  exact ⟨db₁, id, ids', hrow, hrows⟩

theorem upsertMembers_nil (h : db.upsertMembers [] = some (db', ids)) :
    db' = db := (Prod.mk.inj (some.inj h)).1.symm

theorem register_cases {account : AccountRow} (h : db.register account members = some (db', out)) :
    ∃ accounts row ids,
      db.accounts.upsert account (setAccount account) (fun _ => ⟨rfl, rfl⟩) = some accounts ∧
      accounts.find (fun r => decide (r.smartAccountAddress = account.smartAccountAddress)) =
        some row ∧
      Db.upsertMembers { db with accounts := accounts }
        (members.map fun m => { m with multisigAccountID := row.id }) = some (db', ids) ∧
      out = (row.id, ids) := by
  obtain ⟨accounts, haccounts, h⟩ := bind_eq_some_iff.mp h
  obtain ⟨row, hrow, h⟩ := bind_eq_some_iff.mp h
  obtain ⟨⟨db₁, ids⟩, hmembers, h⟩ := bind_eq_some_iff.mp h
  cases h
  exact ⟨accounts, row, ids, haccounts, hrow, hmembers, rfl⟩

theorem upsertMember_eq_some {id : Uuid} (h : db.upsertMember row = some (db', id)) :
    (db'.proposals = db.proposals ∧ db'.approvals = db.approvals ∧ db'.accounts = db.accounts) ∧
      db.KeepsMembers db' := by
  rcases upsertMember_cases h with ⟨r, -, rfl⟩ | ⟨-, t, ht, rfl⟩
  · refine ⟨⟨rfl, rfl, rfl⟩, fun m hm => ?_⟩
    by_cases hid : m.id = r.id
    · exact ⟨setMember row m, mem_updated.mpr (.inr ⟨m, hm, decide_eq_true hid, rfl⟩), rfl,
        rfl, rfl⟩
    · exact ⟨m, mem_updated.mpr (.inl ⟨hm, decide_eq_false hid⟩), rfl, rfl, rfl⟩
  · exact ⟨⟨rfl, rfl, rfl⟩, fun m hm => ⟨m, (mem_insert ht).mpr (.inl hm), rfl, rfl, rfl⟩⟩

theorem Db.KeepsMembers.trans {db₁ : Db} (h₁ : db.KeepsMembers db₁) (h₂ : db₁.KeepsMembers db') :
    db.KeepsMembers db' := by
  intro m hm
  obtain ⟨m₁, hm₁, hid₁, hg₁, ha₁⟩ := h₁ m hm
  obtain ⟨m₂, hm₂, hid₂, hg₂, ha₂⟩ := h₂ m₁ hm₁
  exact ⟨m₂, hm₂, hid₂.trans hid₁, hg₂.trans hg₁, ha₂.trans ha₁⟩

theorem upsertMembers_eq_some {rows : List MemberRow}
    (h : db.upsertMembers rows = some (db', ids)) :
    (db'.proposals = db.proposals ∧ db'.approvals = db.approvals ∧ db'.accounts = db.accounts) ∧
      db.KeepsMembers db' := by
  induction rows generalizing db ids with
  | nil =>
    obtain rfl := upsertMembers_nil h
    exact ⟨⟨rfl, rfl, rfl⟩, fun m hm => ⟨m, hm, rfl, rfl, rfl⟩⟩
  | cons row rows ih =>
    obtain ⟨db₁, id, ids', hrow, hrows⟩ := upsertMembers_cons h
    obtain ⟨⟨hp₁, ha₁, hc₁⟩, hm₁⟩ := upsertMember_eq_some hrow
    obtain ⟨⟨hp₂, ha₂, hc₂⟩, hm₂⟩ := ih hrows
    exact ⟨⟨hp₂.trans hp₁, ha₂.trans ha₁, hc₂.trans hc₁⟩, hm₁.trans hm₂⟩

theorem register_eq_some {account : AccountRow} (h : db.register account members = some (db', out)) :
    (db'.proposals = db.proposals ∧ db'.approvals = db.approvals) ∧ db.KeepsAccounts db' ∧
      db.KeepsMembers db' := by
  obtain ⟨accounts, row, ids, haccounts, -, hmembers, -⟩ := register_cases h
  obtain ⟨⟨hp, ha, hc⟩, hm⟩ := upsertMembers_eq_some hmembers
  refine ⟨⟨hp, ha⟩, fun a ha => ?_, hm⟩
  rw [hc]
  by_cases hkey : a.smartAccountAddress = account.smartAccountAddress
  · exact ⟨setAccount account a, (mem_upsert haccounts).mpr (.inr (.inl ⟨a, ha, hkey, rfl⟩)),
      rfl, rfl⟩
  · exact ⟨a, (mem_upsert haccounts).mpr (.inl ⟨ha, hkey⟩), rfl, rfl⟩

end Register

section Exec

variable (cfg : TxConfig) (op : MsOp) (s : State) (c : Choice)

theorem settle_db {α : Type} (s : State) (fault : Fault) (change : Option (Db × α)) :
    (settle s fault change).2.db = s.db ∨
      ∃ a, change = some ((settle s fault change).2.db, a) := by
  unfold settle
  split <;> simp

theorem settle_chain {α : Type} (s : State) (fault : Fault) (change : Option (Db × α)) :
    (settle s fault change).2.chain = s.chain := by
  unfold settle
  split <;> rfl

theorem simulated_db (s : State) (answer : Except RpcError OperationSimulation) :
    (simulated s answer).db = s.db := by
  cases answer <;> rfl

inductive DbStep (op : MsOp) (db : Db) : Db → Prop
  | same : DbStep op db db
  | write {w : Write} {db' : Db} (hop : op = .write w) (h : db.write w = some db') :
      DbStep op db db'
  | register {account : AccountRow} {members : List MemberRow} {db' : Db}
      {out : Uuid × List Uuid} (hop : op = .registerTx account members)
      (h : db.register account members = some (db', out)) : DbStep op db db'

theorem DbStep.row_after {op : MsOp} (h : DbStep op db db') (hrow : row ∈ db.proposals.rows) :
    ∃ row' ∈ db'.proposals.rows, row'.id = row.id ∧
      row'.multisigAccountID = row.multisigAccountID ∧ (row'.built = row.built ∨
        op = .write (.updateMultisigProposalRebuild row.id row'.built)) := by
  cases h with
  | same => exact ⟨row, hrow, rfl, rfl, .inl rfl⟩
  | write hop hw =>
    subst hop
    obtain ⟨row', hrow', hid, haccount, hbuilt⟩ := row_after_write hw hrow
    exact ⟨row', hrow', hid, haccount, hbuilt.imp_right (congrArg MsOp.write)⟩
  | register hop hreg =>
    rw [(register_eq_some hreg).1.1]
    exact ⟨row, hrow, rfl, rfl, .inl rfl⟩

structure Db.Keeps (db db' : Db) : Prop where
  proposals : ∀ row ∈ db.proposals.rows, ∃ row' ∈ db'.proposals.rows, row'.id = row.id ∧
    row'.multisigAccountID = row.multisigAccountID
  accounts : db.KeepsAccounts db'
  members : db.KeepsMembers db'

theorem DbStep.keeps {op : MsOp} (h : DbStep op db db') : db.Keeps db' where
  proposals row hrow := by
    obtain ⟨row', hrow', hid, haccount, -⟩ := h.row_after hrow
    exact ⟨row', hrow', hid, haccount⟩
  accounts := by
    cases h with
    | same => exact fun a ha => ⟨a, ha, rfl, rfl⟩
    | write hop hw =>
      intro a ha
      rw [(write_eq_some hw).1.1]
      exact ⟨a, ha, rfl, rfl⟩
    | register hop hreg => exact (register_eq_some hreg).2.1
  members := by
    cases h with
    | same => exact fun m hm => ⟨m, hm, rfl, rfl, rfl⟩
    | write hop hw =>
      intro m hm
      rw [(write_eq_some hw).1.2]
      exact ⟨m, hm, rfl, rfl, rfl⟩
    | register hop hreg => exact (register_eq_some hreg).2.2

theorem exec_dbStep : DbStep op s.db (exec cfg op s c).2.db := by
  cases op with
  | write w =>
    rcases settle_db s c.fault ((s.db.write w).map fun db => (db, db.idOf w)) with h | ⟨id, h⟩
    · exact h ▸ .same
    obtain ⟨db, hdb, hpair⟩ := map_eq_some_iff.mp h
    obtain ⟨rfl, -⟩ := Prod.mk.inj hpair
    exact .write rfl hdb
  | registerTx account members =>
    rcases settle_db s c.fault (s.db.register account members) with h | ⟨out, h⟩
    · exact h ▸ .same
    · exact .register rfl h
  | simulate tx => exact (simulated_db s c.simulation) ▸ .same
  | _ => exact .same

theorem exec_write_ok {w : Write} {id : Uuid} (h : (exec cfg (.write w) s c).1 = .ok id) :
    s.db.write w = some (exec cfg (.write w) s c).2.db := by
  simp only [exec] at h ⊢
  unfold settle at h ⊢
  split at h
  · cases h
  · cases h
  · rename_i db a hchange
    obtain ⟨db', hdb, hpair⟩ := map_eq_some_iff.mp hchange
    obtain ⟨rfl, -⟩ := Prod.mk.inj hpair
    exact hdb
  · cases h

end Exec

end LatchApi.Multisig
