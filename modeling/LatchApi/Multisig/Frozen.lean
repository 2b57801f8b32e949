import LatchApi.Multisig.UnderWay

namespace LatchApi.Multisig

open Lib Program Soroban Store Bundler Lib.System

def readsPending (t : MsThread) (p : Uuid) : Bool :=
  (rowsRead t.history).any fun r => decide (r.id = p) && decide (r.status = .pending)

/-- A proposal is marked executed only while no other unfinished request has read it as
pending. -/
def executesAlone : MsSchedule := fun _ others _ op =>
  match op with
  | .write (.updateMultisigProposalExecuted p _) =>
    ∀ u ∈ others, u.active = true → readsPending u p = false
  | _ => True

instance (s : State) (others : List MsThread) (t : MsThread) (op : MsOp) :
    Decidable (executesAlone s others t op) := by
  unfold executesAlone
  split <;> infer_instance

def PendingHeld (c : MsRun) : Prop :=
  ∀ t ∈ c.threads, UnderWay t → ∀ r ∈ rowsRead t.history, r.status = .pending →
    ∀ row ∈ c.state.db.proposals.rows, row.id = r.id → row.status = .pending

theorem status_origin {cfg : TxConfig} {X : Codec} {req : Request} {h : History} {op : MsOp}
    {db db' : Db} (hstep : DbStep op db db') (hg : guard cfg X req h op) {row : ProposalRow}
    (hrow : row ∈ db'.proposals.rows) : row.status = .pending ∨
      (∃ old ∈ db.proposals.rows, old.id = row.id ∧ old.status = row.status) ∨
      ∃ txHash, op = .write (.updateMultisigProposalExecuted row.id txHash) := by
  cases hstep with
  | same => exact .inr (.inl ⟨row, hrow, rfl, rfl⟩)
  | register hop hreg =>
    rw [(register_eq_some hreg).1.1] at hrow
    exact .inr (.inl ⟨row, hrow, rfl, rfl⟩)
  | write hop hw =>
    subst hop
    cases (write_eq_some hw).2.1 row hrow with
    | kept hold => exact .inr (.inl ⟨row, hold, rfl, rfl⟩)
    | inserted => exact .inl hg.2.2.1
    | rebuilt hold => exact .inr (.inl ⟨_, hold, rfl, rfl⟩)
    | executed hold => exact .inr (.inr ⟨_, rfl⟩)

variable {threads : List MsThread}

section Runs

variable {cfg : TxConfig} {X : Codec} {s : State} {t : MsThread}

theorem pendingHeld_act {before after : List MsThread} {op : MsOp} {next : MsRes op → Service Reply}
    (c : Choice) (hrest : t.rest = .call op next) (hallow : executesAlone s (before ++ after) t op)
    (hg : guard cfg X t.request t.history op) (hinv : PendingHeld ⟨s, before ++ t :: after⟩) :
    PendingHeld ⟨(exec cfg op s c).2,
      before ++ t.advance op (exec cfg op s c).1 next :: after⟩ := by
  -- the rows a thread has read so far stay pending unless this step marks one executed
  have hkeep : ∀ r : ProposalRow,
      (∀ txHash, op ≠ .write (.updateMultisigProposalExecuted r.id txHash)) →
      (r.status = .pending → ∀ row ∈ s.db.proposals.rows, row.id = r.id → row.status = .pending) →
      r.status = .pending → ∀ row ∈ (exec cfg op s c).2.db.proposals.rows, row.id = r.id →
        row.status = .pending := by
    intro r hop hheld hpending row hrow hid
    rcases status_origin (exec_dbStep cfg op s c) hg hrow with h | ⟨old, hold, hold_id, h⟩ | ⟨txHash, h⟩
    · exact h
    · exact h ▸ hheld hpending old hold (hold_id.trans hid)
    · exact absurd (hid ▸ h) (hop txHash)
  refine forall_view_advanced hinv (fun _ => underWay_of_guard hrest hg)
    (fun u hu hunder r hr hheld hpending => hkeep r ?_ hheld hpending)
    (fun hunder r _ => hkeep r fun txHash hop => ?_) fun r hr hpending row hrow hid => ?_
  · rintro txHash rfl
    have hnot := hallow u hu hunder.active
    have hyes : readsPending u r.id = true := List.any_eq_true.mpr ⟨r, hr, by simp [hpending]⟩
    rw [hyes] at hnot
    cases hnot
  · exact absurd (isDelete_of_underWay hunder hop) (by simp [Write.isDelete])
  · obtain ⟨-, hmem, hsame⟩ := mem_of_rowRead hr
    rw [hsame] at hrow
    obtain rfl := Table.eq_of_pk_eq hrow hmem hid
    exact hpending

theorem Reachable.pendingHeld {c : MsRun}
    (h : (multisigSystem cfg X).Reachable executesAlone s c) : PendingHeld c := by
  refine Reachable.invariant (discipline cfg X) PendingHeld (obeys_requestBody cfg X)
    (fun _ _ _ _ => trivial) (fun t ht => nomatch ht) ?_ ?_ ?_ h
  · intro s ts req hinv
    exact forall_arrived hinv fun _ _ hr => nomatch hr
  · intro s s' ts e hworld hinv
    obtain ⟨chain, -, rfl⟩ := Option.map_eq_some_iff.mp hworld
    exact hinv
  · intro s before after t op next c hrest hallow hg hinv
    exact pendingHeld_act c hrest hallow hg hinv

def Db.KeepsExecuted (db db' : Db) : Prop :=
  ∀ row ∈ db.proposals.rows, row.status = .executed →
    row ∈ db'.proposals.rows ∧ db'.approvalsOf row.id = db.approvalsOf row.id

theorem Db.KeepsExecuted.trans {db₁ db₂ db₃ : Db} (h₁ : db₁.KeepsExecuted db₂)
    (h₂ : db₂.KeepsExecuted db₃) : db₁.KeepsExecuted db₃ := by
  intro row hrow hexecuted
  obtain ⟨hrow₂, happrovals₂⟩ := h₁ row hrow hexecuted
  obtain ⟨hrow₃, happrovals₃⟩ := h₂ row hrow₂ hexecuted
  exact ⟨hrow₃, happrovals₃.trans happrovals₂⟩

theorem proposalID_ne_of_guard {w : Write} {next : MsRes (.write w) → Service Reply} {db' : Db}
    (ht : t ∈ threads) (hrest : t.rest = .call (.write w) next)
    (hg : guard cfg X t.request t.history (.write w)) (hinv : PendingHeld ⟨s, threads⟩)
    (hw : s.db.write w = some db') {row : ProposalRow} (hrow : row ∈ s.db.proposals.rows)
    (hexecuted : row.status = .executed) :
    row.id ≠ w.proposalID := by
  have hread : ∀ r, PendingRead t.history r w.proposalID → row.id ≠ w.proposalID := by
    rintro r hr hid
    have hpending := hinv t ht (underWay_of_guard hrest hg) r hr.mem hr.pending row hrow
      (hid.trans hr.id.symm)
    rw [hexecuted] at hpending
    cases hpending
  cases w with
  | insertMultisigProposal new =>
    obtain ⟨t', ht', -⟩ := Option.map_eq_some_iff.mp hw
    exact Table.pk_ne_of_insert ht' hrow
  | _ =>
    obtain ⟨r, hr, -⟩ := hg
    exact hread r hr

theorem keepsExecuted_of_dbStep {op : MsOp} {next : MsRes op → Service Reply} {db' : Db}
    (ht : t ∈ threads) (hrest : t.rest = .call op next) (hg : guard cfg X t.request t.history op)
    (hinv : PendingHeld ⟨s, threads⟩) (hdb : DbStep op s.db db') : s.db.KeepsExecuted db' := by
  intro row hrow hexecuted
  cases hdb with
  | same => exact ⟨hrow, rfl⟩
  | register hop hreg =>
    obtain ⟨⟨hproposals, happrovals⟩, -⟩ := register_eq_some hreg
    rw [Db.approvalsOf, Db.approvalsOf, hproposals, happrovals]
    exact ⟨hrow, rfl⟩
  | write hop hw =>
    subst hop
    have hne := proposalID_ne_of_guard ht hrest hg hinv hw hrow hexecuted
    exact ⟨write_keeps_row hw hrow hne, write_keeps_approvals hw hne⟩

theorem keepsExecuted_step {c c' : MsRun} (h : (multisigSystem cfg X).Reachable executesAlone s c)
    (hstep : (multisigSystem cfg X).Step executesAlone c c') :
    c.state.db.KeepsExecuted c'.state.db := by
  have hinv := Reachable.pendingHeld h
  cases hstep with
  | arrive s ts req => exact fun row hrow _ => ⟨hrow, rfl⟩
  | world s s' ts e hworld =>
    obtain ⟨chain, -, rfl⟩ := Option.map_eq_some_iff.mp hworld
    exact fun row hrow _ => ⟨hrow, rfl⟩
  | act s before after t op next ch hrest hallow =>
    have hg := h.guard (discipline cfg X) (obeys_requestBody cfg X) (fun _ _ _ _ => trivial)
      (by simp) hrest
    exact keepsExecuted_of_dbStep (by simp) hrest hg hinv (exec_dbStep cfg op s ch)

/-- In every run in which a proposal is marked executed only while no other unfinished
request has read it as pending, an executed proposal and its approvals never change. -/
theorem executed_frozen_of_executesAlone (cfg : TxConfig) (X : Codec) (s : State) (c c' : MsRun)
    (h : (multisigSystem cfg X).Reachable executesAlone s c)
    (h' : Relation.ReflTransGen ((multisigSystem cfg X).Step executesAlone) c c') :
    c.state.db.KeepsExecuted c'.state.db := by
  induction h' with
  | refl => exact fun row hrow _ => ⟨hrow, rfl⟩
  | tail hrun hstep ih => exact ih.trans (keepsExecuted_step (h.trans hrun) hstep)

end Runs

namespace Sample

open Bundler.Sample

theorem executed_frozen_when_refreshed : ∃ c c' : MsRun, statusOf c = some .executed ∧
    c'.threads.length = 2 ∧ c.state.db.KeepsExecuted c'.state.db := by
  have h : ∃ c ∈ (multisigSystem config noCodec).schedule executesAlone ⟨start, []⟩
        (.arrive (.execute 1 (some 1)) :: acts 0 6 (answers 2)),
      ∃ c' ∈ (multisigSystem config noCodec).schedule executesAlone c
          (.arrive (.refresh 1 (some 1)) :: acts 1 2 (answers 2)),
        statusOf c = some .executed ∧ c'.threads.length = 2 := by
    decide +kernel
  obtain ⟨c, hc, c', hc', hstatus, hthreads⟩ := h
  exact ⟨c, c', hstatus, hthreads, executed_frozen_of_executesAlone config noCodec start c c'
    (schedule_sound _ _ _ hc) (schedule_sound _ _ _ hc')⟩

theorem refresh_overwrites_executed : ∃ c c',
    (multisigSystem config noCodec).Reachable System.anySchedule start c ∧
      Relation.ReflTransGen ((multisigSystem config noCodec).Step System.anySchedule) c c' ∧
      statusOf c = some .executed ∧ digestOf c' ≠ digestOf c ∧
      (c.state.db.approvalsOf 1).length = 1 ∧ c'.state.db.approvalsOf 1 = [] := by
  have h : ∃ c ∈ (multisigSystem config noCodec).schedule anySchedule ⟨start, []⟩
        (.arrive (.refresh 1 (some 1)) :: acts 0 1 (answers 2) ++
          .arrive (.execute 1 (some 1)) :: acts 1 6 (answers 2)),
      ∃ c' ∈ (multisigSystem config noCodec).schedule anySchedule c (acts 0 8 (answers 2)),
        statusOf c = some .executed ∧ digestOf c' ≠ digestOf c ∧
          (c.state.db.approvalsOf 1).length = 1 ∧ (c'.state.db.approvalsOf 1).length = 0 := by
    decide +kernel
  obtain ⟨c, hc, c', hc', hstatus, hdigest, hbefore, hafter⟩ := h
  exact ⟨c, c', schedule_sound _ _ _ hc, schedule_sound _ _ _ hc', hstatus, hdigest,
    hbefore, List.length_eq_zero_iff.mp hafter⟩

end Sample

end LatchApi.Multisig
