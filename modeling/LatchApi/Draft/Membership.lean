import LatchApi.Draft.Guards
import LatchApi.Draft.Thresholds

/-!
The members of a draft under concurrent requests. Whether a member is new and whether the draft
still collects is checked by statements of their own, so the checks hold only as long as nobody
else works on the draft.
-/

namespace LatchApi.Draft

open Lib Program Store Multisig Factory List Option Lib.System Lib.Thread Lib.Table

section Statements

variable {F : FactoryContract} {cfg : FactoryConfig} {s : State} {c : Choice} {op : DraftOp}
  {req : Request} {h : Log DraftRes}

theorem exec_tables (F : FactoryContract) (cfg : FactoryConfig) (op : DraftOp) (s : State)
    (c : Choice) :
    ((exec F cfg op s c).2.drafts = s.drafts ∧ (exec F cfg op s c).2.members = s.members) ∨
      ∃ w, op = .write w ∧ s.write w = some (exec F cfg op s c).2 := by
  cases op with
  | factory op => cases op <;> exact .inl ⟨rfl, rfl⟩
  | persistTx account members =>
    left
    simp only [exec]
    cases persist s.accounts account members with
    | none => exact ⟨rfl, rfl⟩
    | some db => cases c.reply <;> exact ⟨rfl, rfl⟩
  | write w =>
    simp only [exec]
    cases hw : s.write w with
    | none => exact .inl ⟨rfl, rfl⟩
    | some s' =>
      cases c.reply with
      | failed => exact .inl ⟨rfl, rfl⟩
      | _ => exact .inr ⟨w, rfl, hw⟩
  | _ => exact .inl ⟨rfl, rfl⟩

theorem status_exec (hmay : mayFollow req h op) {row : DraftRow}
    (hrow : row ∈ (exec F cfg op s c).2.drafts.rows) :
    row.status = .collecting ∨ (∃ old ∈ s.drafts.rows, old.id = row.id ∧ old.status = row.status) ∨
      ∃ address predicted, op = .write (.updateMultisigDraftDeployed row.id address predicted) := by
  rcases exec_tables F cfg op s c with ⟨hdrafts, -⟩ | ⟨w, rfl, hw⟩
  · rw [hdrafts] at hrow
    exact .inr (.inl ⟨row, hrow, rfl, rfl⟩)
  generalize (exec F cfg (.write w) s c).2 = s' at hrow hw
  cases w with
  | insertMultisigDraft new =>
    obtain ⟨t, ht, rfl⟩ := map_eq_some_iff.mp hw
    rcases (mem_insert ht).mp hrow with hold | rfl
    · exact .inr (.inl ⟨row, hold, rfl, rfl⟩)
    · exact .inl hmay
  | insertMultisigDraftMember new =>
    obtain ⟨t, -, rfl⟩ := map_eq_some_iff.mp hw
    exact .inr (.inl ⟨row, hrow, rfl, rfl⟩)
  | deleteMultisigDraftMember id draftID =>
    cases hw
    exact .inr (.inl ⟨row, hrow, rfl, rfl⟩)
  | updateMultisigDraftDeployed id address predicted =>
    cases hw
    rcases mem_updated.mp hrow with ⟨hold, -⟩ | ⟨old, -, hid, rfl⟩
    · exact .inr (.inl ⟨row, hold, rfl, rfl⟩)
    refine .inr (.inr ⟨address, predicted, ?_⟩)
    rw [← of_decide_eq_true hid]
    rfl
  | _ =>
    cases hw
    rcases mem_updated.mp hrow with ⟨hold, -⟩ | ⟨old, hold, -, rfl⟩
    · exact .inr (.inl ⟨row, hold, rfl, rfl⟩)
    · exact .inr (.inl ⟨old, hold, rfl, rfl⟩)

theorem members_exec (F : FactoryContract) (cfg : FactoryConfig) (op : DraftOp) (s : State)
    (c : Choice) :
    (exec F cfg op s c).2.members = s.members ∨
      (∃ row, op = .write (.insertMultisigDraftMember row) ∧
        (exec F cfg op s c).2.members.rows = s.members.rows ++ [row]) ∨
      ∃ id draftID, op = .write (.deleteMultisigDraftMember id draftID) ∧
        (exec F cfg op s c).2.members =
          s.members.delete fun r => decide (r.id = id ∧ r.draftID = draftID) := by
  rcases exec_tables F cfg op s c with ⟨-, hmembers⟩ | ⟨w, rfl, hw⟩
  · exact .inl hmembers
  generalize (exec F cfg (.write w) s c).2 = s' at hw ⊢
  cases w with
  | insertMultisigDraftMember row =>
    obtain ⟨t, ht, rfl⟩ := map_eq_some_iff.mp hw
    exact .inr (.inl ⟨row, rfl, rows_insert ht⟩)
  | deleteMultisigDraftMember id draftID =>
    cases hw
    exact .inr (.inr ⟨id, draftID, rfl, rfl⟩)
  | insertMultisigDraft row =>
    obtain ⟨t, -, rfl⟩ := map_eq_some_iff.mp hw
    exact .inl rfl
  | _ => exact .inl (some.inj hw ▸ rfl)

theorem membersOf_exec (F : FactoryContract) (cfg : FactoryConfig) (s : State) (c : Choice)
    (hmay : mayFollow req h op) (id : Uuid) :
    (exec F cfg op s c).2.membersOf id = s.membersOf id ∨
      req.edits = true ∧ wrote Write.changesMembers ⟨op, (exec F cfg op s c).1⟩ = true ∧
        ∃ draft ∈ draftsRead h, draft.id = id ∧ draft.status = .collecting := by
  rcases members_exec F cfg op s c with
    hsame | ⟨row, rfl, hrows⟩ | ⟨mid, draftID, rfl, hdeleted⟩
  · left
    rw [State.membersOf, hsame, State.membersOf]
  · obtain ⟨hedits, -, draft, hread, hid, hstatus, -⟩ := hmay
    by_cases hrow : row.draftID = id
    · exact .inr ⟨hedits, rfl, draft, hread, hid.trans hrow, hstatus⟩
    left
    rw [State.membersOf, hrows, filter_append, filter_singleton, decide_eq_false hrow]
    exact append_nil _
  · obtain ⟨hedits, draft, hread, hid, hstatus⟩ := hmay
    by_cases hdraft : draftID = id
    · exact .inr ⟨hedits, rfl, draft, hread, hid.trans hdraft, hstatus⟩
    left
    rw [State.membersOf, hdeleted, Table.delete, State.membersOf, List.filter_filter]
    refine filter_congr fun r _ => ?_
    by_cases hr : r.draftID = id
    · simp [hr, Ne.symm hdraft]
    · simp [hr]

theorem answer_of_toOption {q : Query} {a : q.Answer}
    (ha : ((exec F cfg (.read q) s c).1).toOption = some a) : q.answer s c.order = .ok a := by
  simp only [exec] at ha
  split_ifs at ha
  · cases hanswer : q.answer s c.order with
    | error e => rw [hanswer] at ha; cases ha
    | ok a' => rw [hanswer] at ha; exact congrArg _ (some.inj ha)
  · cases ha

theorem draftRead_exec {draft : DraftRow}
    (hread : draftRead ⟨op, (exec F cfg op s c).1⟩ = some draft) :
    draft ∈ s.drafts.rows ∧ op.opens s = some draft.id := by
  rcases op with q | w | ⟨account, members⟩ | _ | _ | n | op
  · cases q with
    | getMultisigDraftByIDForCreator id creatorUserID =>
      rw [draftRead_byID] at hread
      have hfound := orError_eq_ok.mp (answer_of_toOption hread)
      exact ⟨(Table.mem_of_find hfound).1, congrArg (Option.map _) hfound⟩
    | getMultisigDraftByInviteToken token =>
      rw [draftRead_byToken] at hread
      have hfound := orError_eq_ok.mp (answer_of_toOption hread)
      exact ⟨(Table.mem_of_find hfound).1, congrArg (Option.map _) hfound⟩
    | _ => cases hread
  all_goals cases hread

theorem listsRead_of_draftRead (hmay : mayFollow req h op) {r : DraftRes op} {draft : DraftRow}
    (hread : draftRead ⟨op, r⟩ = some draft) : listsRead h = [] := by
  rcases op with q | w | ⟨account, members⟩ | _ | _ | n | op
  · cases q with
    | getActiveMultisigDraftForUser userID => cases hread
    | listMultisigDraftMembersForDraft draftID => cases hread
    | _ => exact hmay
  all_goals cases hread

theorem membersRead_exec {id : Uuid} {rows : List DraftMemberRow}
    (hread : membersRead ⟨op, (exec F cfg op s c).1⟩ = some (id, rows)) :
    rows.Perm (s.membersOf id) ∧ (exec F cfg op s c).2 = s := by
  rcases op with q | w | ⟨account, members⟩ | _ | _ | n | op
  · cases q with
    | listMultisigDraftMembersForDraft draftID =>
      rw [membersRead_list] at hread
      obtain ⟨rows', hrows, heq⟩ := map_eq_some_iff.mp hread
      cases heq
      obtain rfl := Except.ok.inj (answer_of_toOption hrows)
      exact ⟨perm_insertionSort _ _, rfl⟩
    | _ => cases hread
  all_goals cases hread

end Statements

section Runs

variable {F : FactoryContract} {cfg : FactoryConfig}

abbrev Serving := Config Request DraftOp DraftRes DraftError Answer State

def Apart (t u : DraftThread) : Prop := busy t = true → busy u = true →
  ∀ draft ∈ draftsRead t.history, ∀ draft' ∈ draftsRead u.history, draft.id ≠ draft'.id

theorem Apart.symm {t u : DraftThread} (h : Apart t u) : Apart u t :=
  fun hu ht draft hdraft draft' hdraft' heq => h ht hu draft' hdraft' draft hdraft heq.symm

def Collects (s : State) (t : DraftThread) : Prop := busy t = true →
  (∀ e ∈ t.history, wrote Write.marksDeployed e = false) →
  ∀ draft ∈ draftsRead t.history, draft.status = .collecting →
    ∀ row ∈ s.drafts.rows, row.id = draft.id → row.status = .collecting

def Current (s : State) (t : DraftThread) : Prop := busy t = true →
  (∀ e ∈ t.history, wrote Write.changesMembers e = false) →
  ∀ draft ∈ draftsRead t.history, ∀ rows, (draft.id, rows) ∈ listsRead t.history →
    rows.Perm (s.membersOf draft.id)

structure Kept (c : Serving) : Prop where
  distinct : c.state.members.rows.Pairwise Differ
  apart : c.threads.Pairwise Apart
  collects : ∀ t ∈ c.threads, Collects c.state t
  current : ∀ t ∈ c.threads, Current c.state t

variable {s : State} {c : Choice} {t u : DraftThread} {op : DraftOp}
  {next : DraftRes op → Service Answer}

theorem busy_of_rest (hedits : t.request.edits = true) (hrest : t.rest = .call op next) :
    busy t = true := by
  rw [busy, hedits, active_of_rest hrest]
  rfl

theorem busy_of_advance {r : DraftRes op} (hrest : t.rest = .call op next)
    (hbusy : busy (t.advance op r next) = true) : busy t = true :=
  busy_of_rest (Bool.and_eq_true _ _ ▸ hbusy).1 hrest

theorem Collects.other (hu : Collects s u) (hapart : Apart t u) (hrest : t.rest = .call op next)
    (hmay : mayFollow t.request t.history op) : Collects (exec F cfg op s c).2 u := by
  intro hbusy hunmarked draft hdraft hstatus row hrow hid
  rcases status_exec hmay hrow with hcollecting | ⟨old, hold, holdID, hsame⟩ | ⟨address, predicted, rfl⟩
  · exact hcollecting
  · rw [← hsame]
    exact hu hbusy hunmarked draft hdraft hstatus old hold (holdID.trans hid)
  · obtain ⟨hedits, own, hown, hownID⟩ := hmay
    exact absurd (hownID.trans hid) (hapart (busy_of_rest hedits hrest) hbusy own hown draft hdraft)

theorem Collects.own (ht : Collects s t) (hrest : t.rest = .call op next)
    (hmay : mayFollow t.request t.history op) :
    Collects (exec F cfg op s c).2 (t.advance op (exec F cfg op s c).1 next) := by
  intro hbusy hunmarked draft hdraft hstatus row hrow hid
  obtain ⟨hop, hunmarked⟩ := forall_mem_cons.mp hunmarked
  rcases status_exec hmay hrow with hcollecting | ⟨old, hold, holdID, hsame⟩ | ⟨address, predicted, rfl⟩
  · exact hcollecting
  · rw [← hsame]
    rcases mem_view_advance hdraft with hdraft | hread
    · exact ht (busy_of_advance hrest hbusy) hunmarked draft hdraft hstatus old hold
        (holdID.trans hid)
    · rw [eq_of_pk_eq hold (draftRead_exec hread).1 (holdID.trans hid)]
      exact hstatus
  · cases hop

theorem Current.other (hu : Current s u) (hapart : Apart t u) (hrest : t.rest = .call op next)
    (hmay : mayFollow t.request t.history op) : Current (exec F cfg op s c).2 u := by
  intro hbusy hunchanged draft hdraft rows hrows
  rcases membersOf_exec F cfg s c hmay draft.id with
    hsame | ⟨hedits, -, own, hown, hownID, -⟩
  · rw [hsame]
    exact hu hbusy hunchanged draft hdraft rows hrows
  · exact absurd hownID (hapart (busy_of_rest hedits hrest) hbusy own hown draft hdraft)

theorem Current.own (ht : Current s t) (hrest : t.rest = .call op next)
    (hmay : mayFollow t.request t.history op) :
    Current (exec F cfg op s c).2 (t.advance op (exec F cfg op s c).1 next) := by
  intro hbusy hunchanged draft hdraft rows hrows
  obtain ⟨hop, hunchanged⟩ := forall_mem_cons.mp hunchanged
  have hsame : (exec F cfg op s c).2.membersOf draft.id = s.membersOf draft.id := by
    rcases membersOf_exec F cfg s c hmay draft.id with
      hsame | ⟨-, hchanges, -⟩
    · exact hsame
    · rw [hop] at hchanges
      cases hchanges
  rw [hsame]
  rcases mem_view_advance hrows with hrows | hlisted
  · rcases mem_view_advance hdraft with hdraft | hread
    · exact ht (busy_of_advance hrest hbusy) hunchanged draft hdraft rows hrows
    · rw [show t.history.filterMap membersRead = [] from listsRead_of_draftRead hmay hread] at hrows
      cases hrows
  · exact (membersRead_exec hlisted).1

theorem Apart.own {others : List DraftThread} (hapart : Apart t u) (hu : u ∈ others)
    (hrest : t.rest = .call op next) (hallow : OneAtATime s others t op) :
    Apart (t.advance op (exec F cfg op s c).1 next) u := by
  intro hbusy hbusy' draft hdraft draft' hdraft'
  rcases mem_view_advance hdraft with hdraft | hread
  · exact hapart (busy_of_advance hrest hbusy) hbusy' draft hdraft draft' hdraft'
  have hopens := (draftRead_exec hread).2
  have hedits := (Bool.and_eq_true _ _ ▸ busy_of_advance hrest hbusy).1
  exact (hallow hedits draft.id (by rw [hopens]; exact mem_cons_self) u hu hbusy' draft'
    hdraft').symm

theorem distinct_exec (hdistinct : s.members.rows.Pairwise Differ) (ht : Current s t)
    (hrest : t.rest = .call op next) (hmay : mayFollow t.request t.history op) :
    (exec F cfg op s c).2.members.rows.Pairwise Differ := by
  rcases members_exec F cfg op s c with
    hsame | ⟨row, rfl, hrows⟩ | ⟨mid, draftID, rfl, hdeleted⟩
  · rw [hsame]
    exact hdistinct
  · obtain ⟨hedits, hunchanged, draft, hdraft, hid, -, rows, hlisted, hnew⟩ := hmay
    have hperm := ht (busy_of_rest hedits hrest) hunchanged draft hdraft rows hlisted
    rw [hrows]
    refine pairwise_append.mpr ⟨hdistinct, pairwise_singleton _ _, fun r hr row' hrow' => ?_⟩
    obtain rfl := mem_singleton.mp hrow'
    intro hsameDraft hsame
    have hmember : r ∈ s.membersOf draft.id :=
      mem_filter.mpr ⟨hr, decide_eq_true (hsameDraft.trans hid.symm)⟩
    exact hnew r (hperm.mem_iff.mpr hmember) hsame.symm
  · rw [hdeleted]
    exact hdistinct.sublist filter_sublist

theorem kept_of_reachable {c : Serving}
    (h : (machine F cfg).Reachable OneAtATime State.empty c) : Kept c := by
  refine System.Reachable.invariant rule Kept keeps_body (fun _ _ _ _ => trivial) ?_ ?_ ?_ ?_ h
  · exact ⟨.nil, .nil, by simp, by simp⟩
  · intro s ts req hkept
    exact ⟨hkept.distinct,
      System.pairwise_arrived hkept.apart (fun _ _ _ _ _ _ _ hdraft => nomatch hdraft),
      System.forall_arrived hkept.collects (fun _ _ _ hdraft => nomatch hdraft),
      System.forall_arrived hkept.current fun _ _ _ hdraft => nomatch hdraft⟩
  · intro s s' ts e he hkept
    cases he
    exact ⟨hkept.distinct, hkept.apart, hkept.collects, hkept.current⟩
  · intro s before after t op next c hrest hallow hguard hkept
    obtain ⟨hdistinct, hapart, hcollects, hcurrent⟩ := hkept
    have hmay := hguard.2
    have ht : t ∈ before ++ t :: after := mem_append_cons_self
    have hother : ∀ u ∈ before ++ after, Apart t u :=
      fun u hu => System.of_pairwise Apart.symm hapart hu
    refine ⟨distinct_exec hdistinct (hcurrent t ht) hrest hmay, ?_, fun u hu => ?_, fun u hu => ?_⟩
    · exact System.pairwise_advanced Apart.symm hapart fun u hu h => h.own hu hrest hallow
    · rcases System.mem_advanced hu with rfl | hu
      · exact (hcollects t ht).own hrest hmay
      · exact (hcollects u (System.mem_of_others hu)).other (hother u hu) hrest hmay
    · rcases System.mem_advanced hu with rfl | hu
      · exact (hcurrent t ht).own hrest hmay
      · exact (hcurrent u (System.mem_of_others hu)).other (hother u hu) hrest hmay

theorem deployed_exec {row : DraftRow} (hrow : row ∈ s.drafts.rows) (hstatus : row.status = .deployed) :
    ∃ row' ∈ (exec F cfg op s c).2.drafts.rows, row'.id = row.id ∧ row'.status = .deployed := by
  rcases exec_tables F cfg op s c with ⟨hdrafts, -⟩ | ⟨w, rfl, hw⟩
  · exact ⟨row, hdrafts ▸ hrow, rfl, hstatus⟩
  generalize (exec F cfg (.write w) s c).2 = s' at hw ⊢
  have hupdated : ∀ {id : Uuid} {set : DraftRow → DraftRow}, (∀ r, (set r).id = r.id) →
      (∀ r, r.status = .deployed → (set r).status = .deployed) →
      ∃ row' ∈ s.drafts.rows.map fun r => if decide (r.id = id) then set r else r,
        row'.id = row.id ∧ row'.status = .deployed := by
    intro id set hid hset
    refine ⟨_, mem_map_of_mem hrow, ?_⟩
    by_cases hrowID : row.id = id
    · rw [if_pos (decide_eq_true hrowID)]
      exact ⟨hid row, hset row hstatus⟩
    · rw [if_neg (by simpa using hrowID)]
      exact ⟨rfl, hstatus⟩
  cases w with
  | insertMultisigDraft new =>
    obtain ⟨t, ht, rfl⟩ := map_eq_some_iff.mp hw
    exact ⟨row, (mem_insert ht).mpr (.inl hrow), rfl, hstatus⟩
  | insertMultisigDraftMember new =>
    obtain ⟨t, -, rfl⟩ := map_eq_some_iff.mp hw
    exact ⟨row, hrow, rfl, hstatus⟩
  | deleteMultisigDraftMember id draftID =>
    cases hw
    exact ⟨row, hrow, rfl, hstatus⟩
  | updateMultisigDraftDeployed id address predicted =>
    cases hw
    exact hupdated (fun _ => rfl) fun _ _ => rfl
  | _ =>
    cases hw
    exact hupdated (fun _ => rfl) fun _ h => h

theorem membersOf_step {c c' : Serving} (h : (machine F cfg).Reachable OneAtATime State.empty c)
    (hstep : (machine F cfg).Step OneAtATime c c') {id : Uuid}
    (hdeployed : ∃ row ∈ c.state.drafts.rows, row.id = id ∧ row.status = .deployed) :
    (∃ row ∈ c'.state.drafts.rows, row.id = id ∧ row.status = .deployed) ∧
      c'.state.membersOf id = c.state.membersOf id := by
  cases hstep with
  | arrive s ts req => exact ⟨hdeployed, rfl⟩
  | world s s' ts e he =>
    cases he
    exact ⟨hdeployed, rfl⟩
  | act s before after t op next ch hrest hallow =>
    obtain ⟨row, hrow, rfl, hstatus⟩ := hdeployed
    refine ⟨deployed_exec hrow hstatus, ?_⟩
    have ht : t ∈ before ++ t :: after := mem_append_cons_self
    obtain ⟨hunmarked, hmay⟩ := h.guard rule keeps_body (fun _ _ _ _ => trivial) ht hrest
    rcases membersOf_exec F cfg s ch hmay row.id with hsame | ⟨hedits, -, draft, hdraft, hid, hread⟩
    · exact hsame
    have hcollecting := (kept_of_reachable h).collects t ht (busy_of_rest hedits hrest) hunmarked
      draft hdraft hread row hrow hid.symm
    rw [hstatus] at hcollecting
    cases hcollecting

theorem membersOf_run {c c' : Serving} (h : (machine F cfg).Reachable OneAtATime State.empty c)
    (hrun : Relation.ReflTransGen ((machine F cfg).Step OneAtATime) c c') {id : Uuid}
    (hdeployed : ∃ row ∈ c.state.drafts.rows, row.id = id ∧ row.status = .deployed) :
    (∃ row ∈ c'.state.drafts.rows, row.id = id ∧ row.status = .deployed) ∧
      c'.state.membersOf id = c.state.membersOf id := by
  induction hrun with
  | refl => exact ⟨hdeployed, rfl⟩
  | tail run step ih =>
    obtain ⟨hstill, hsame⟩ := ih
    obtain ⟨hnext, hkept⟩ := membersOf_step (Relation.ReflTransGen.trans h run) step hstill
    exact ⟨hnext, hkept.trans hsame⟩

/-- If requests that edit one draft do not overlap, no draft has a key twice, and the members of a
deployed draft stay as they are. -/
theorem members_distinct_and_frozen {c : Serving}
    (h : (machine F cfg).Reachable OneAtATime State.empty c) :
    c.state.members.rows.Pairwise Differ ∧
      ∀ c', Relation.ReflTransGen ((machine F cfg).Step OneAtATime) c c' →
        ∀ draft ∈ c.state.drafts.rows, draft.status = .deployed →
          c'.state.membersOf draft.id = c.state.membersOf draft.id :=
  ⟨(kept_of_reachable h).distinct, fun _ hrun draft hdraft hstatus =>
    (membersOf_run h hrun ⟨draft, hdraft, rfl, hstatus⟩).2⟩

end Runs

namespace Sample

abbrev Moves := List (System.Move Request Choice Factory.ChainEvent)

def acts (i n first : Nat) : Moves := (List.range n).map fun k => .act i (choices first k)

def created : Moves := .arrive (.createDraft creator) :: acts 0 7 10

def withMembers : Moves := created ++
  .arrive (.addMember draftID creator (delegated 2)) :: acts 1 6 20 ++
  .arrive (.addMember draftID creator (delegated 3)) :: acts 2 6 30

theorem one_at_a_time_deployed : ∃ c, (machine factory config).Reachable OneAtATime State.empty c ∧
    (∃ draft ∈ c.state.drafts.rows, draft.status = .deployed ∧
      (c.state.membersOf draft.id).length = 2) ∧ c.state.members.rows.Pairwise Differ := by
  refine exists_reachable_and (withMembers ++ .arrive (.deploy draftID creator) :: acts 3 11 40) ?_
    fun c hc _ => (members_distinct_and_frozen hc).1
  decide +kernel

def sameKeyTwice : Moves := created ++
  [.arrive (.addMember draftID creator (delegated 2)),
    .arrive (.addMember draftID creator (delegated 2))] ++
  acts 1 2 20 ++ acts 2 2 30 ++ acts 1 4 20 ++ acts 2 4 30

def deployedMeanwhile : Moves := withMembers ++
  .arrive (.addMember draftID creator (delegated 4)) :: acts 3 4 50 ++
  .arrive (.deploy draftID creator) :: acts 4 11 60

theorem overlapping_edits_change_members :
    (∃ c, (machine factory config).Reachable System.anySchedule State.empty c ∧
      ¬ c.state.members.rows.Pairwise Differ) ∧
    ∃ c c', (machine factory config).Reachable System.anySchedule State.empty c ∧
      Relation.ReflTransGen ((machine factory config).Step System.anySchedule) c c' ∧
      ∃ draft ∈ c.state.drafts.rows, draft.status = .deployed ∧
        c'.state.membersOf draft.id ≠ c.state.membersOf draft.id := by
  constructor
  · refine exists_reachable sameKeyTwice ?_
    decide +kernel
  · refine exists_continued deployedMeanwhile (acts 3 1 54) ?_
    decide +kernel

end Sample

end LatchApi.Draft
