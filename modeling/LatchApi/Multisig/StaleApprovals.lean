import LatchApi.Multisig.UnderWay

namespace LatchApi.Multisig

open Lib Program Soroban Store Bundler List Option Lib.System Lib.Thread

def Job.Fresh (cfg : TxConfig) (job : Job) : Prop :=
  ∀ a ∈ job.execution.picked.all, (job.digest cfg).map hexEncode = some a.tag

/-- Approvals are deleted for a rebuild only while no other unfinished request has read the
proposal, and nobody reads it before the rebuild is done. -/
def rebuildsAlone : MsSchedule := fun _ others _ op =>
  match op with
  | .write (.deleteMultisigApprovalsForProposal p) =>
    ∀ u ∈ others, u.active = true → readsRow u p = false
  | .read (.getMultisigProposalByID p) => ∀ u ∈ others, u.active = true → p ∉ cleared u.history
  | _ => True

instance (s : State) (others : List MsThread) (t : MsThread) (op : MsOp) :
    Decidable (rebuildsAlone s others t op) := by
  unfold rebuildsAlone
  split <;> infer_instance

def Spares (t u : MsThread) : Prop :=
  t.active = true → u.active = true → ∀ p ∈ cleared t.history, readsRow u p = false

def Apart (t u : MsThread) : Prop := Spares t u ∧ Spares u t

variable (c : Choice)

section Step

variable {cfg : TxConfig} {X : Codec} {op : MsOp}

theorem cleared_of_exec {s : State} {c : Choice} {p : Uuid}
    (h : clearedIn ⟨op, (exec cfg op s c).1⟩ = some p) :
    op = .write (.deleteMultisigApprovalsForProposal p) ∧
      ∀ a ∈ (exec cfg op s c).2.db.approvals.rows, a.proposalID ≠ p := by
  unfold clearedIn at h
  split at h
  · rename_i q id heq
    obtain ⟨rfl, hid⟩ := Sigma.mk.inj heq
    cases h
    refine ⟨rfl, fun a ha => ?_⟩
    cases (write_eq_some (exec_write_ok cfg s c (eq_of_heq hid))).2.2 a ha with
    | kept _ hne => exact hne _ rfl
  · cases h

theorem delete_mem_writes {h : History} {p : Uuid} (hp : p ∈ cleared h) :
    Write.deleteMultisigApprovalsForProposal p ∈ writes h := by
  obtain ⟨e, he, hcleared⟩ := mem_filterMap.mp hp
  refine mem_filterMap.mpr ⟨e, he, ?_⟩
  unfold clearedIn at hcleared
  split at hcleared
  · cases hcleared
    rfl
  · cases hcleared

theorem apart_act {s : State} {others : List MsThread} {t u : MsThread}
    {next : MsRes op → Service Reply} (hrest : t.rest = .call op next)
    (hallow : rebuildsAlone s others t op) (hu : u ∈ others) (h : Apart t u) :
    Apart (t.advance op (exec cfg op s c).1 next) u := by
  have hactive := active_of_rest hrest
  constructor
  · intro _ hua p hp
    rcases mem_view_advance hp with hp | hp
    · exact h.1 hactive hua p hp
    · obtain ⟨rfl, -⟩ := cleared_of_exec hp
      exact hallow u hu hua
  · intro hua _ p hp
    by_contra hreads
    obtain ⟨r, hr, hid⟩ := any_eq_true.mp (eq_true_of_ne_false hreads)
    obtain rfl : r.id = p := of_decide_eq_true hid
    rcases mem_view_advance hr with hr | hr
    · have hspares := h.2 hua hactive _ hp
      rw [readsRow_of_mem hr] at hspares
      cases hspares
    · obtain ⟨rfl, -, -⟩ := mem_of_rowRead hr
      exact hallow u hu hua hp

theorem approval_origin {req : Request} {h : History} {db db' : Db} (hstep : DbStep op db db')
    (hg : guard cfg X req h op) {a : ApprovalRow}
    (ha : a ∈ db'.approvals.rows) : a ∈ db.approvals.rows ∨
      (∃ r, PendingRead h r a.proposalID ∧ a.tag = r.built.authDigestHex) ∧
        db'.proposals = db.proposals := by
  cases hstep with
  | same => exact .inl ha
  | register hop hreg =>
    rw [(register_eq_some hreg).1.2] at ha
    exact .inl ha
  | write hop hw =>
    subst hop
    cases (write_eq_some hw).2.2 a ha with
    | kept ha => exact .inl ha
    | webauthn =>
      obtain ⟨r, hr, -, id, memberID, sigData, createdAt, rfl⟩ := hg
      obtain ⟨t, -, rfl⟩ := map_eq_some_iff.mp hw
      exact .inr ⟨⟨r, hr, rfl⟩, rfl⟩
    | webauthnAgain hold hkey =>
      obtain ⟨r, hr, -, id, memberID, sigData, createdAt, rfl⟩ := hg
      obtain ⟨t, -, rfl⟩ := map_eq_some_iff.mp hw
      exact .inr ⟨⟨r, ⟨hr.rows, hr.pending, (congrArg Prod.fst hkey).symm⟩, rfl⟩, rfl⟩
    | begun =>
      obtain ⟨r, hr, -, account, member, g, smartAccount, signer, digest, nonce, id, createdAt,
        -, -, -, -, -, -, -, rfl⟩ := hg
      obtain ⟨t, -, rfl⟩ := map_eq_some_iff.mp hw
      exact .inr ⟨⟨r, hr, rfl⟩, rfl⟩
    | begunAgain hold hkey =>
      obtain ⟨r, hr, -, account, member, g, smartAccount, signer, digest, nonce, id, createdAt,
        -, -, -, -, -, -, -, rfl⟩ := hg
      obtain ⟨t, -, rfl⟩ := map_eq_some_iff.mp hw
      exact .inr ⟨⟨r, ⟨hr.rows, hr.pending, (congrArg Prod.fst hkey).symm⟩, rfl⟩, rfl⟩
    | finished hold =>
      obtain ⟨r, hr, -, -, rfl⟩ := hg
      cases hw
      exact .inr ⟨⟨r, hr, rfl⟩, rfl⟩

end Step

structure UpToDate (cfg : TxConfig) (db : Db) : Prop where
  coherent : ∀ row ∈ db.proposals.rows, row.built.Coherent cfg
  tags : ∀ a ∈ db.approvals.rows, ∃ row ∈ db.proposals.rows, row.id = a.proposalID ∧
    a.tag = row.built.authDigestHex

def ListedFresh (t : MsThread) : Prop :=
  ∀ l ∈ listings t.history, ∀ r ∈ rowsRead t.history, r.id = l.1 →
    ∀ x ∈ l.2, x.approval.tag = r.built.authDigestHex

structure Current (cfg : TxConfig) (c : MsRun) : Prop where
  upToDate : UpToDate cfg c.state.db
  apart : c.threads.Pairwise Apart
  held : Held (fun _ => True) c
  cleared : ∀ t ∈ c.threads, UnderWay t → ∀ p ∈ Multisig.cleared t.history,
    ∀ a ∈ c.state.db.approvals.rows, a.proposalID ≠ p
  listed : ∀ t ∈ c.threads, UnderWay t → ListedFresh t

section Run

variable {cfg : TxConfig} {X : Codec} {s : State} {before after : List MsThread} {t : MsThread}
  {op : MsOp} {next : MsRes op → Service Reply}

theorem coherent_act {db db' : Db} (hstep : DbStep op db db')
    (hg : guard cfg X t.request t.history op)
    (h : ∀ row ∈ db.proposals.rows, row.built.Coherent cfg) :
    ∀ row ∈ db'.proposals.rows, row.built.Coherent cfg := by
  intro row hrow
  cases hstep with
  | same => exact h row hrow
  | register hop hreg =>
    rw [(register_eq_some hreg).1.1] at hrow
    exact h row hrow
  | write hop hw =>
    subst hop
    cases (write_eq_some hw).2.1 row hrow with
    | kept hold => exact h row hold
    | inserted => exact hg.2.2.2
    | rebuilt hold =>
      obtain ⟨r, -, hcoherent, -⟩ := hg
      exact hcoherent
    | @executed old _ hold => exact h old hold

theorem cleared_of_rebuild {p : Uuid} {built : BuiltProposalArtifacts}
    (hg : guard cfg X t.request t.history op)
    (hop : op = .write (.updateMultisigProposalRebuild p built)) : p ∈ cleared t.history := by
  subst hop
  obtain ⟨r, -, -, -, hp⟩ := hg
  exact hp

section

variable (hrest : t.rest = .call op next) (hg : guard cfg X t.request t.history op)
  (hinv : Current cfg ⟨s, before ++ t :: after⟩)

include hrest hg hinv

theorem tags_act :
    ∀ a ∈ (exec cfg op s c).2.db.approvals.rows, ∃ row ∈ (exec cfg op s c).2.db.proposals.rows,
      row.id = a.proposalID ∧ a.tag = row.built.authDigestHex := by
  have ht : t ∈ before ++ t :: after := by simp
  have hunder := underWay_of_guard hrest hg
  intro a ha
  rcases approval_origin (exec_dbStep cfg op s c) hg ha with hold | ⟨⟨r, hr, htag⟩, hsame⟩
  · obtain ⟨row, hrow, hid, htag⟩ := hinv.upToDate.tags a hold
    obtain ⟨row', hrow', hid', -, hbuilt | hrebuild⟩ := (exec_dbStep cfg op s c).row_after hrow
    · exact ⟨row', hrow', hid'.trans hid, by rw [htag, hbuilt]⟩
    · -- the approvals of a proposal are gone when it is rebuilt
      exact absurd hid.symm (hinv.cleared t ht hunder _ (cleared_of_rebuild hg hrebuild) a hold)
  · obtain ⟨row, hrow, hid, hbuilt⟩ := hinv.held t ht trivial hunder r hr.mem
    exact ⟨row, hsame ▸ hrow, hid.trans hr.id, by rw [htag, hbuilt]⟩

theorem cleared_act : ∀ u ∈ before ++ t.advance op (exec cfg op s c).1 next :: after, UnderWay u →
      ∀ p ∈ cleared u.history, ∀ a ∈ (exec cfg op s c).2.db.approvals.rows, a.proposalID ≠ p := by
  refine forall_view_advanced hinv.cleared (fun _ => underWay_of_guard hrest hg)
    (fun u hu hunder p hp hold a ha => ?_) (fun hunder p hp _ => ?_) fun p hp => (cleared_of_exec hp).2
  · rcases approval_origin (exec_dbStep cfg op s c) hg ha with ha | ⟨⟨r, hr, -⟩, -⟩
    · exact hold a ha
    rintro rfl
    have hapart := of_pairwise (fun h => ⟨h.2, h.1⟩) hinv.apart hu
    have hnot := hapart.2 hunder.active (active_of_rest hrest) _ hp
    rw [← hr.id, readsRow_of_mem hr.mem] at hnot
    cases hnot
  · rcases writes_of_guard hg with hw | ⟨q, built, hop, -⟩
    · have hmem := delete_mem_writes hp
      rw [hw] at hmem
      cases hmem
    · exact absurd (isDelete_of_underWay hunder hop) (by simp [Write.isDelete])

theorem listed_act : ListedFresh (t.advance op (exec cfg op s c).1 next) := by
  have ht : t ∈ before ++ t :: after := by simp
  have hunder := underWay_of_guard hrest hg
  intro l hl r hr hid x hx
  rcases mem_view_advance hr with hr | hr
  · rcases mem_view_advance hl with hl | hl
    · exact hinv.listed t ht hunder l hl r hr hid x hx
    obtain ⟨happroval, hproposal, -⟩ := mem_of_listed hl hx
    obtain ⟨row, hrow, hrow_id, htag⟩ := hinv.upToDate.tags _ happroval
    obtain ⟨row', hrow', hrow_id', hbuilt⟩ := hinv.held t ht trivial hunder r hr
    obtain rfl := Table.eq_of_pk_eq hrow hrow'
      (hrow_id.trans (hproposal.trans (hid.symm.trans hrow_id'.symm)))
    rw [htag, hbuilt]
  · -- the proposal is the first thing that a request reads
    obtain ⟨rfl, -, -⟩ := mem_of_rowRead hr
    have hstart : t.history = [] := hg
    rcases mem_view_advance hl with hl | hl
    · rw [hstart] at hl
      cases hl
    · cases hl

end

theorem current_act (hrest : t.rest = .call op next)
    (hallow : rebuildsAlone s (before ++ after) t op) (hg : guard cfg X t.request t.history op)
    (hinv : Current cfg ⟨s, before ++ t :: after⟩) :
    Current cfg ⟨(exec cfg op s c).2,
      before ++ t.advance op (exec cfg op s c).1 next :: after⟩ where
  upToDate := ⟨coherent_act (exec_dbStep cfg op s c) hg hinv.upToDate.coherent, tags_act c hrest hg hinv⟩
  apart := pairwise_advanced (fun h => ⟨h.2, h.1⟩) hinv.apart fun _ hu =>
    apart_act c hrest hallow hu
  held := held_act c hrest hg id (fun _ _ hop _ hu _ hactive =>
    (of_pairwise (fun h => ⟨h.2, h.1⟩) hinv.apart hu).1 (active_of_rest hrest) hactive
      _ (cleared_of_rebuild hg hop)) hinv.held
  cleared := cleared_act c hrest hg hinv
  listed := forall_advanced hinv.listed (fun _ hu => hu) fun _ => listed_act c hrest hg hinv

theorem Reachable.current {c : MsRun} (hs : UpToDate cfg s.db)
    (h : (multisigSystem cfg X).Reachable rebuildsAlone s c) : Current cfg c := by
  refine Reachable.invariant (discipline cfg X) (Current cfg) (obeys_requestBody cfg X)
    (fun _ _ _ _ => trivial) ?_ ?_ ?_ ?_ h
  · exact ⟨hs, .nil, by simp [Held], by simp, by simp⟩
  · intro s ts req hinv
    refine ⟨hinv.upToDate, pairwise_arrived hinv.apart fun t _ => ?_, held_arrive hinv.held,
      forall_arrived hinv.cleared (fun _ _ hp => nomatch hp),
      forall_arrived hinv.listed fun _ _ hl => nomatch hl⟩
    exact ⟨fun _ _ _ _ => rfl, fun _ _ _ hp => nomatch hp⟩
  · intro s s' ts e hworld hinv
    obtain ⟨chain, -, rfl⟩ := map_eq_some_iff.mp hworld
    exact ⟨hinv.upToDate, hinv.apart, hinv.held, hinv.cleared, hinv.listed⟩
  · intro s before after t op next c hrest hallow hg hinv
    exact current_act c hrest hallow hg hinv

/-- In every run in which a rebuild has its proposal to itself, a job that is about to be
submitted rests on approvals of just that. -/
theorem submits_fresh_of_rebuildsAlone (cfg : TxConfig) (X : Codec) (s : State) (c : MsRun)
    (hs : UpToDate cfg s.db) (h : (multisigSystem cfg X).Reachable rebuildsAlone s c) (t : MsThread)
    (ht : t ∈ c.threads) (job : Job) (hjob : submitting t = some job) : job.Fresh cfg := by
  have hinv := Reachable.current hs h
  obtain ⟨hunder, hmade⟩ := jobGuard_of_submitting h ht hjob
  obtain ⟨rows, hlisted, hassembled⟩ := hmade.assembled
  obtain ⟨row, hrow, -, hbuilt⟩ := hinv.held t ht trivial hunder job.proposal hmade.read.mem
  have hdigest : (job.digest cfg).map hexEncode = some job.proposal.built.authDigestHex := by
    rw [Job.digest_eq hassembled, ← hbuilt]
    exact hinv.upToDate.coherent row hrow
  intro a ha
  rw [(assembleExecution_eq_ok hassembled).2.1] at ha
  obtain ⟨x, hx, rfl⟩ := mem_rows_of_picked ha
  rw [hdigest]
  exact congrArg some (hinv.listed t ht hunder _ hlisted _ hmade.read.mem rfl x hx).symm

end Run

namespace Sample

open Bundler.Sample

theorem start_upToDate : UpToDate config start.db where
  coherent row hrow := by
    obtain rfl := mem_singleton.mp hrow
    exact artifacts_coherent 1
  tags a ha := by
    obtain rfl := mem_singleton.mp ha
    exact ⟨proposalRow, mem_singleton_self _, rfl, rfl⟩

theorem submits_fresh_when_alone : ∃ c : MsRun, ∃ t ∈ c.threads, ∃ job, submitting t = some job ∧
    job.execution.picked.all.length = 1 ∧ job.Fresh config := by
  have h : ∃ c ∈ (multisigSystem config noCodec).schedule rebuildsAlone ⟨start, []⟩
        (.arrive (.execute 1 (some 1)) :: acts 0 4 (answers 2)),
      ∃ t ∈ c.threads, ∃ job ∈ submitting t, job.execution.picked.all.length = 1 := by
    decide +kernel
  obtain ⟨c, hc, t, ht, job, hjob, hpicked⟩ := h
  exact ⟨c, t, ht, job, hjob, hpicked, submits_fresh_of_rebuildsAlone config noCodec start c
    start_upToDate (schedule_sound _ _ _ hc) t ht job hjob⟩

theorem stale_approval_is_submitted : ∃ c,
    (multisigSystem config noCodec).Reachable System.anySchedule start c ∧
      ∃ t ∈ c.threads, ∃ job, submitting t = some job ∧ ¬ job.Fresh config := by
  have h : ∃ c ∈ (multisigSystem config noCodec).schedule anySchedule ⟨start, []⟩
        (.arrive (.approveWebauthn 1 (some 1) (some 1) "00") :: acts 0 1 (answers 2) ++
          .arrive (.refresh 1 (some 1)) :: acts 1 9 (answers 2) ++ acts 0 5 (answers 2) ++
          .arrive (.execute 1 (some 1)) :: acts 2 4 (answers 2)),
      ∃ t ∈ c.threads, ∃ job ∈ submitting t,
        ∃ a ∈ job.execution.picked.all, (job.digest config).map hexEncode ≠ some a.tag := by
    decide +kernel
  obtain ⟨c, hc, t, ht, job, hjob, a, ha, hstale⟩ := h
  exact ⟨c, schedule_sound _ _ _ hc, t, ht, job, hjob, fun hfresh => hstale (hfresh a ha)⟩

end Sample

end LatchApi.Multisig
