import LatchApi.Draft.Thresholds
import LatchApi.Factory.Canonical
import LatchApi.Soroban.Equality

namespace LatchApi.Draft

open Lib Program Store Soroban Multisig
  Factory
open List Option Lib.Table

variable {draft : DraftRow} {rows : List DraftMemberRow} {params : ScVal}

section Order

variable {rows' : List DraftMemberRow} {params' : ScVal}

def factoryEntries (rows : List DraftMemberRow) : List (String × MultisigSignerInit) :=
  ((rows.map domainMemberFromRow).filter DraftMultisigMember.valid).filterMap factoryEntry

theorem draftParams_of_perm (h : rows.Perm rows') (hparams : draftParams draft rows = .ok params)
    (hparams' : draftParams draft rows' = .ok params') : params = params' := by
  obtain ⟨-, salt, hsalt, hbuild⟩ := draftParams_eq_ok hparams
  obtain ⟨-, salt', hsalt', hbuild'⟩ := draftParams_eq_ok hparams'
  obtain rfl := Except.ok.inj (hsalt.symm.trans hsalt')
  have hsigners := draftMembers_of_perm ((h.map domainMemberFromRow).filter DraftMultisigMember.valid)
  have hsame := build_of_identities hsigners (UInt32.ofInt draft.threshold) salt
  exact Except.ok.inj (hbuild.symm.trans (hsame.trans hbuild'))

end Order

section Persist

def memberValue (m : MemberRow) : Option ScVal :=
  match m.memberType with
  | .webauthn => (hexDecode (normalizeHex (strOrEmpty m.keyDataHex))).map (externalInit "WebAuthn")
  | .delegated => (scAddress (strOrEmpty m.gAddress)).map delegatedInit
  | .other _ => none

/-- The record of an account has the threshold and the signers that the account was created
with. -/
structure Matches (db : Multisig.Db) (account : AccountRow) (params : ScVal) : Prop where
  threshold : account.threshold = initThreshold params
  signers : ((db.members.rows.filter fun m => decide (m.multisigAccountID = account.id)).map
    memberValue).Perm ((initSigners params).map some)

theorem rows_insertMembers {t t' : Table MemberRow Uuid Uuid MemberRow.id MemberRow.id}
    {rows : List MemberRow} (h : insertMembers t rows = some t') : t'.rows = t.rows ++ rows := by
  induction rows generalizing t with
  | nil =>
    cases h
    exact (append_nil _).symm
  | cons row rows ih =>
    simp only [insertMembers] at h
    split_ifs at h
    obtain ⟨t₁, hinsert, hrest⟩ := bind_eq_some_iff.mp h
    rw [ih hrest, rows_insert hinsert, append_assoc, singleton_append]

theorem persist_eq_some {db db' : Multisig.Db} {account : AccountRow} {members : List MemberRow}
    (h : persist db account members = some db') :
    ∃ row ∈ db'.accounts.rows, row.smartAccountAddress = account.smartAccountAddress ∧
      row.threshold = account.threshold ∧
      db'.members.rows.filter (fun m => decide (m.multisigAccountID = row.id)) =
        members.map fun m => { m with multisigAccountID := row.id } := by
  obtain ⟨accounts, haccounts, h⟩ := bind_eq_some_iff.mp h
  obtain ⟨row, hrow, h⟩ := bind_eq_some_iff.mp h
  obtain ⟨stored, hstored, h⟩ := bind_eq_some_iff.mp h
  cases h
  obtain ⟨hmem, haddress⟩ := mem_of_find hrow
  refine ⟨row, hmem, of_decide_eq_true haddress, ?_, ?_⟩
  · rcases (mem_upsert haccounts).mp hmem with ⟨-, hne⟩ | ⟨r₀, -, -, rfl⟩ | ⟨rfl, -⟩
    · exact absurd (of_decide_eq_true haddress) hne
    · rfl
    · rfl
  · have hrest : ∀ m ∈ (db.members.delete fun r => decide (r.multisigAccountID = row.id)).rows,
        decide (m.multisigAccountID = row.id) = false := fun m hm => (mem_delete.mp hm).2
    rw [rows_insertMembers hstored, filter_append,
      filter_eq_nil_iff.mpr fun m hm => by rw [hrest m hm]; decide, nil_append]
    refine filter_eq_self.mpr fun m hm => ?_
    obtain ⟨m₀, -, rfl⟩ := mem_map.mp hm
    exact decide_eq_true rfl

theorem memberValue_accountMember (createdAt : Int) (id accountID : Uuid) (row : DraftMemberRow) :
    memberValue { accountMember createdAt id row with multisigAccountID := accountID } =
      (factoryEntry (domainMemberFromRow row)).bind fun e => e.2.value := by
  simp only [memberValue, accountMember, factoryEntry, strOrEmpty_nullStr]
  cases (domainMemberFromRow row).kind <;>
    simp only [accountMemberType, bind_some, bind_none, MultisigSignerInit.value]

theorem map_zipWith_of_forall {α β γ δ : Type} {f : α → β → γ} {g : γ → δ} {k : β → δ} {xs : List α}
    {ys : List β} (hlength : xs.length = ys.length) (hg : ∀ x y, g (f x y) = k y) :
    (List.zipWith f xs ys).map g = ys.map k := by
  induction ys generalizing xs with
  | nil => simp
  | cons y ys ih =>
    cases xs with
    | nil => cases hlength
    | cons x xs =>
      rw [zipWith_cons_cons, map_cons, map_cons, hg, ih (Nat.succ.inj hlength)]

theorem value_factoryEntries (rows : List DraftMemberRow) :
    (factoryEntries rows).map (fun e => e.2.value) =
      (rows.filter fun row => isDeployable (domainMemberFromRow row)).map fun row =>
        (factoryEntry (domainMemberFromRow row)).bind fun e => e.2.value := by
  induction rows with
  | nil => rfl
  | cons row rows ih =>
    have hsome := isSome_factoryEntry (domainMemberFromRow row)
    simp only [factoryEntries, map_cons, filter_cons, isDeployable] at ih ⊢
    rw [← hsome]
    cases (domainMemberFromRow row).valid with
    | false => simpa using ih
    | true =>
      cases hentry : factoryEntry (domainMemberFromRow row) with
      | _ => simpa [hentry] using ih

theorem Persists.matches {s s' : State} {address : String} (h : Persists s s' draft rows address)
    (hthreshold : 0 ≤ draft.threshold ∧ draft.threshold < 2 ^ 31)
    (hparams : draftParams draft rows = .ok params) :
    ∃ account ∈ s'.accounts.accounts.rows, account.smartAccountAddress = address ∧
      Matches s'.accounts account params := by
  obtain ⟨account, ids, createdAt, haccount, rfl, hlength, hpersist⟩ := h.persisted
  obtain ⟨row, hrow, haddress, hrowThreshold, hmembers⟩ := persist_eq_some hpersist
  obtain ⟨-, salt, -, hbuild⟩ := draftParams_eq_ok hparams
  refine ⟨row, hrow, haddress, ?_, ?_⟩
  · rw [hrowThreshold, haccount, initThreshold_of_build hbuild]
    have hnat := toNat_ofInt draft.threshold
    omega
  · have hvalues : (zipWith (accountMember createdAt) ids _).map
        (memberValue ∘ fun m => { m with multisigAccountID := row.id }) = _ :=
      map_zipWith_of_forall hlength fun id row' => memberValue_accountMember createdAt id row.id row'
    rw [hmembers, List.map_map, hvalues, ← value_factoryEntries, initSigners_map_some hbuild,
      validDeployableFactorySigners, draftMembersToFactorySigners, List.map_map]
    exact ((perm_insertionSort entryLE _).map _).symm

end Persist

section History

variable {F : FactoryContract} {cfg : FactoryConfig} {s s' : State} {req : Request} {id : Uuid}

def Fits (_ : State) : Request → Prop
  | .updateThreshold _ _ threshold => threshold < 2 ^ 31
  | _ => True

instance (s : State) : (req : Request) → Decidable (Fits s req)
  | .updateThreshold _ _ threshold => inferInstanceAs (Decidable (threshold < 2 ^ 31))
  | .createDraft _ | .getActiveDraft _ | .getDraft _ _ | .addMember _ _ _
  | .addMemberViaInvite _ _ _ | .deleteMember _ _ _ | .predictAddress _ _ | .deploy _ _
  | .getPublicDraft _ => .isTrue trivial

structure Predicted (F : FactoryContract) (s : State) : Prop where
  threshold : ∀ draft ∈ s.drafts.rows, 0 ≤ draft.threshold ∧ draft.threshold < 2 ^ 31
  current : ∀ draft ∈ s.drafts.rows, draft.status = .collecting → draft.id ∉ s.edited →
    strOrEmpty draft.predictedAddress ≠ "" → ∃ rows params, rows.Perm (s.membersOf draft.id) ∧
      draftParams draft rows = .ok params ∧ strOrEmpty draft.predictedAddress = F.address params

theorem Predicted.of_forall (h : Predicted F s)
    (hdrafts : ∀ draft ∈ s'.drafts.rows, (0 ≤ draft.threshold ∧ draft.threshold < 2 ^ 31) ∧
      (draft ∈ s.drafts.rows ∧ (draft.id ∉ s'.edited → draft.id ∉ s.edited ∧
          s'.membersOf draft.id = s.membersOf draft.id) ∨
        draft.status ≠ .collecting ∨ draft.id ∈ s'.edited ∨ draft.predictedAddress = none)) :
    Predicted F s' := by
  refine ⟨fun draft hdraft => (hdrafts draft hdraft).1, fun draft hdraft hstatus hfresh hsome => ?_⟩
  rcases (hdrafts draft hdraft).2 with ⟨hold, hsame⟩ | hdeployed | hedited | hnone
  · obtain ⟨hunedited, hmembers⟩ := hsame hfresh
    rw [hmembers]
    exact h.current draft hold hstatus hunedited hsome
  · exact absurd hstatus hdeployed
  · exact absurd hedited hfresh
  · rw [hnone] at hsome
    exact absurd rfl hsome

theorem Predicted.update (h : Predicted F s) (set : DraftRow → DraftRow)
    (hset : ∀ r, (set r).id = r.id ∧ (set r).inviteToken = r.inviteToken)
    (hmembers : s'.members = s.members) (hedited : s.edited ⊆ s'.edited)
    (hdrafts : s'.drafts = (s.updateDraft id set hset).drafts)
    (hthreshold : ∀ r ∈ s.drafts.rows, 0 ≤ (set r).threshold ∧ (set r).threshold < 2 ^ 31)
    (hvoid : ∀ r ∈ s.drafts.rows, r.id = id →
      (set r).status ≠ .collecting ∨ id ∈ s'.edited) : Predicted F s' := by
  refine h.of_forall fun draft hdraft => ?_
  rw [hdrafts, mem_updateDraft_rows] at hdraft
  rcases hdraft with ⟨hold, -⟩ | ⟨old, hold, hid, rfl⟩
  · refine ⟨h.threshold draft hold, .inl ⟨hold, fun hfresh => ⟨fun hmem => hfresh (hedited hmem), ?_⟩⟩⟩
    rw [State.membersOf, hmembers, State.membersOf]
  refine ⟨hthreshold old hold, .inr ?_⟩
  rcases hvoid old hold hid with hdeployed | hmark
  · exact .inl hdeployed
  · rw [(hset old).1, hid]
    exact .inr (.inl hmark)

theorem membersOf_insert {row : DraftMemberRow}
    {t : Table DraftMemberRow Uuid Uuid DraftMemberRow.id DraftMemberRow.id}
    (h : s.members.insert row = some t) (hid : row.draftID ≠ id) :
    t.rows.filter (fun r => decide (r.draftID = id)) = s.membersOf id := by
  rw [rows_insert h, filter_append, filter_singleton, decide_eq_false hid]
  exact append_nil _

theorem membersOf_delete {p : DraftMemberRow → Bool} (hp : ∀ r, r.draftID = id → p r = false) :
    (s.members.delete p).rows.filter (fun r => decide (r.draftID = id)) = s.membersOf id := by
  rw [Table.delete, State.membersOf, List.filter_filter]
  refine filter_congr fun row _ => ?_
  by_cases hrow : row.draftID = id
  · simp [hrow, hp row hrow]
  · simp [hrow]

theorem Predicted.wrote (h : Predicted F s) (hfits : Fits s req) {chain : Factory.Chain} {w : Write}
    (hw : (s.withChain chain).write w = some s') (hallowed : Allowed F s req w) :
    Predicted F s' := by
  cases w with
  | insertMultisigDraft row =>
    obtain ⟨t, ht, rfl⟩ := map_eq_some_iff.mp hw
    refine h.of_forall fun draft hdraft => ?_
    rcases (mem_insert ht).mp hdraft with hold | rfl
    · exact ⟨h.threshold draft hold, .inl ⟨hold, fun hfresh => ⟨hfresh, rfl⟩⟩⟩
    · have hthreshold : draft.threshold = 2 := hallowed.1
      exact ⟨by omega, .inr (.inr (.inr hallowed.2))⟩
  | updateMultisigDraftThreshold id threshold =>
    obtain ⟨draftID, userID, t, rfl, -, rfl, hpos, -⟩ := hallowed
    have hlt : t < 2 ^ 31 := hfits
    have hint : int32 t = t := by
      rw [int32, Int.bmod_def]
      omega
    cases hw
    refine h.update (setThreshold (int32 t)) (fun _ => ⟨rfl, rfl⟩) rfl (subset_cons_self _ _) rfl
      (fun r _ => ?_) fun r _ _ => .inr mem_cons_self
    simp only [setThreshold, hint]
    omega
  | updateMultisigDraftPredictedAddress id predicted =>
    obtain ⟨draft, rows, params, hholds, rfl, hparams, rfl⟩ := hallowed
    cases hw
    have hmem : ∀ r, r ∈ (s.updateDraft draft.id (setPredicted (nullStr (F.address params)))
        fun _ => ⟨rfl, rfl⟩).drafts.rows ↔ _ := fun r => mem_updateDraft_rows _ _
    refine ⟨fun r hr => ?_, fun r hr hstatus hfresh hsome => ?_⟩
    · rcases (hmem r).mp hr with ⟨hold, -⟩ | ⟨old, hold, -, rfl⟩
      · exact h.threshold r hold
      · exact h.threshold old hold
    · rcases (hmem r).mp hr with ⟨hold, hne⟩ | ⟨old, hold, hid, rfl⟩
      · refine h.current r hold hstatus (fun hedited => hfresh ?_) hsome
        exact mem_filter.mpr ⟨hedited, decide_eq_true hne⟩
      · obtain rfl := eq_of_pk_eq hold hholds.mem hid
        exact ⟨rows, params, hholds.perm, hparams, strOrEmpty_nullStr _⟩
  | updateMultisigDraftDeployed id address predicted => exact hallowed.elim
  | insertMultisigDraftMember row =>
    obtain ⟨t, ht, rfl⟩ := map_eq_some_iff.mp hw
    refine h.of_forall fun draft hdraft => ⟨h.threshold draft hdraft, .inl ⟨hdraft, fun hfresh => ?_⟩⟩
    obtain ⟨hne, hfresh⟩ := not_or.mp fun hor => hfresh (mem_cons.mpr hor)
    exact ⟨hfresh, membersOf_insert (s := s) ht (Ne.symm hne)⟩
  | deleteMultisigDraftMember id draftID =>
    cases hw
    refine h.of_forall fun draft hdraft => ⟨h.threshold draft hdraft, .inl ⟨hdraft, fun hfresh => ?_⟩⟩
    obtain ⟨hne, hfresh⟩ := not_or.mp fun hor => hfresh (mem_cons.mpr hor)
    refine ⟨hfresh, membersOf_delete (s := s) fun r hr => decide_eq_false fun hboth => hne ?_⟩
    rw [← hr, hboth.2]

theorem Predicted.effect (h : Predicted F s) (hfits : Fits s req) (heffect : Effect F s req s') :
    Predicted F s' := by
  cases heffect with
  | quiet hchain => exact ⟨h.threshold, h.current⟩
  | wrote hchain hw hallowed => exact h.wrote hfits hw hallowed
  | asks hasks =>
    rcases hasks.drafts with hsame | ⟨id, address, predicted, hdeployed⟩
    · refine h.of_forall fun draft hdraft => ?_
      rw [hsame] at hdraft
      refine ⟨h.threshold draft hdraft, .inl ⟨hdraft, fun hfresh => ⟨hasks.edited ▸ hfresh, ?_⟩⟩⟩
      rw [State.membersOf, hasks.members, State.membersOf]
    · exact h.update (setDeployed address predicted) (fun _ => ⟨rfl, rfl⟩) hasks.members
        (hasks.edited ▸ Subset.refl _) hdeployed (fun r hr => h.threshold r hr)
        fun r _ _ => .inl (by simp [setDeployed])

theorem predicted_of_reachable (h : Reachable F cfg Fits s) : s.chain.Sound F ∧ Predicted F s :=
  h.invariant ⟨by simp [State.empty, empty], by simp [State.empty, empty]⟩
    (fun _ _ h => ⟨h.threshold, h.current⟩) fun _ _ _ h hfits heffect => h.effect hfits heffect

theorem Predicted.promised_eq (h : Predicted F s) (hholds : s.Holds draft rows)
    (hstatus : draft.status = .collecting)
    (hfresh : strOrEmpty draft.predictedAddress = "" ∨ draft.id ∉ s.edited)
    (hparams : draftParams draft rows = .ok params) :
    promised F draft params = F.address params := by
  unfold promised
  split_ifs with hnone
  · rfl
  obtain ⟨rows', params', hperm, hparams', haddress⟩ :=
    h.current draft hholds.mem hstatus (hfresh.resolve_left hnone) hnone
  rw [haddress, draftParams_of_perm (hholds.perm.trans hperm.symm) hparams hparams']

theorem deploys_of_runs (h : s.chain.Sound F) {draftID userID : Encoded Uuid} {a : DeployedDraft}
    (hrun : Runs (exec F cfg) (deploy draftID userID) s (.ok a) s') :
    ∃ draft ∈ s.drafts.rows, draftID.decode = some draft.id ∧
      (draft.status = .collecting → Deploys F s s' draft a.address) := by
  obtain ⟨draft, s₁, hread, hrun⟩ := (runs_bind_ok _ _ _ _ _).mp hrun
  obtain ⟨rfl, hmem, hid⟩ := ensures_iff.mp (ensures_getDraftForCreator draftID userID) _ _ hread
  refine ⟨draft, hmem, hid, fun hstatus => ?_⟩
  rw [if_neg (by rw [hstatus]; decide)] at hrun
  have hends : Ensures (exec F cfg) (outcome (Effect F s (.deploy draftID userID)) _)
      (deployCollecting draft) s := ends_deployCollecting h hmem hstatus
  exact (ensures_iff.mp hends _ _ hrun).2.2

/-- If a draft has no predicted address, or none of its edits came after the prediction, then what
its deployment records is what stands on chain. -/
theorem deploy_records_account (h : Reachable F cfg Fits s) {draftID userID : Encoded Uuid}
    {draft : DraftRow} (hdraft : draft ∈ s.drafts.rows) (hid : draftID.decode = some draft.id)
    (hstatus : draft.status = .collecting)
    (hfresh : strOrEmpty draft.predictedAddress = "" ∨ draft.id ∉ s.edited) {a : DeployedDraft}
    (hrun : Runs (exec F cfg) (deploy draftID userID) s (.ok a) s')
    (hinj : Set.InjOn F.address {params | params ∈ s'.chain.created ∨ params ∈ s'.asked}) :
    ∃ account ∈ s'.accounts.accounts.rows, account.smartAccountAddress = a.address ∧
      (∃ params ∈ s'.chain.created, F.address params = a.address) ∧
      ∀ params ∈ s'.chain.created, F.address params = a.address →
        Matches s'.accounts account params := by
  obtain ⟨hsound, hpredicted⟩ := predicted_of_reachable h
  obtain ⟨draft', hdraft', hid', hdeploys⟩ := deploys_of_runs hsound hrun
  obtain rfl := eq_of_pk_eq hdraft hdraft' (some.inj (hid.symm.trans hid'))
  obtain ⟨rows, params, hholds, hparams, hasked, haddress, hcreated, hpersists⟩ :=
    (hdeploys hstatus).deploys
  rw [hpredicted.promised_eq hholds hstatus hfresh hparams] at haddress
  obtain ⟨account, hmem, hrecorded, hmatches⟩ :=
    hpersists.matches (hpredicted.threshold draft hdraft) hparams
  refine ⟨account, hmem, hrecorded, ?_, fun params' hparams' heq => ?_⟩
  · obtain ⟨params', hparams', heq⟩ := hcreated
    exact ⟨params', hparams', heq.elim id fun heq => heq.trans haddress.symm⟩
  · rw [hinj (.inl hparams') (.inr hasked) (heq.trans haddress)]
    exact hmatches

end History

namespace Sample

def Injects (F : FactoryContract) (known : List ScVal) : Bool :=
  known.all fun p => known.all fun q => decide (F.address p ≠ F.address q) || p.same q

theorem injOn_of_injects {F : FactoryContract} {created asked : List ScVal}
    (h : Injects F (created ++ asked) = true) :
    Set.InjOn F.address {params | params ∈ created ∨ params ∈ asked} := by
  intro p hp q hq heq
  have hpair := all_eq_true.mp (all_eq_true.mp h p (mem_append.mpr hp)) q
    (mem_append.mpr hq)
  rw [Bool.or_eq_true] at hpair
  exact hpair.elim (fun hne => absurd heq (of_decide_eq_true hne)) (ScVal.eq_of_same p q)

def counting : FactoryContract :=
  ⟨fun params => if (initSigners params).length = 2 then hash 0 else hash 9⟩

def lastDeployment (s : State) : Except DraftError DeployedDraft × State :=
  drive (exec counting config) (choices 60) 0 (deploy draftID creator) s

def freshDraft (s : State) : Bool := s.drafts.rows.any fun draft =>
  decide (draftID.decode = some draft.id ∧ draft.status = .collecting ∧
    (strOrEmpty draft.predictedAddress = "" ∨ draft.id ∉ s.edited))

def Succeeds (s : State) : Bool := (lastDeployment s).1.toOption.isSome &&
  Injects counting ((lastDeployment s).2.chain.created ++ (lastDeployment s).2.asked)

theorem runs_lastDeployment (s : State) (h : Succeeds s = true) :
    ∃ a, (lastDeployment s).1.toOption = some a ∧
      Runs (exec counting config) (deploy draftID creator) s (.ok a) (lastDeployment s).2 ∧
      Set.InjOn counting.address {params |
        params ∈ (lastDeployment s).2.chain.created ∨ params ∈ (lastDeployment s).2.asked} := by
  obtain ⟨h, hinjects⟩ := (Bool.and_eq_true _ _).mp h
  have hrun : Runs (exec counting config) (deploy draftID creator) s (lastDeployment s).1
    (lastDeployment s).2 := runs_drive _ (choices 60) 0 s
  cases hout : (lastDeployment s).1 with
  | error e => rw [hout] at h; cases h
  | ok a => exact ⟨a, rfl, hout ▸ hrun, injOn_of_injects hinjects⟩

theorem two_signers_recorded : ∃ s s' a, Reachable counting config Fits s ∧
    Runs (exec counting config) (deploy draftID creator) s (.ok a) s' ∧
    ∃ account ∈ s'.accounts.accounts.rows, account.smartAccountAddress = a.address ∧
      (∃ params ∈ s'.chain.created, counting.address params = a.address) ∧
      ∀ params ∈ s'.chain.created, counting.address params = a.address →
        Matches s'.accounts account params := by
  have hfacts : Admits counting config Fits twoSigners .empty ∧
      freshDraft (replay counting config twoSigners .empty) = true ∧
      Succeeds (replay counting config twoSigners .empty) = true := by
    decide +kernel
  obtain ⟨hadmits, hfresh, hok⟩ := hfacts
  have hreachable := reachable_replay twoSigners .refl hadmits
  obtain ⟨a, -, hrun, hinjective⟩ := runs_lastDeployment _ hok
  obtain ⟨draft, hmem, hdraft⟩ := any_eq_true.mp hfresh
  obtain ⟨hid, hstatus, hunedited⟩ := of_decide_eq_true hdraft
  exact ⟨_, _, a, hreachable, hrun, deploy_records_account hreachable hmem hid hstatus hunedited
    hrun hinjective⟩

def thirdMember : List Call := twoSigners ++ [
  (.predictAddress draftID creator, choices 40),
  (.deploy draftID creator, fun n =>
    { choices 50 n with reply := if n = 8 then .failed else .done }),
  (.addMember draftID creator (delegated 4), choices 70)]

def forgetsMember (out : Except DraftError DeployedDraft × State) : Bool :=
  out.2.accounts.accounts.rows.any fun account => out.2.chain.created.any fun params => decide (
    out.1.toOption.map DeployedDraft.address = some account.smartAccountAddress ∧
    counting.address params = account.smartAccountAddress ∧
    (out.2.accounts.members.rows.filter fun m => decide (m.multisigAccountID = account.id)).length ≠
      (initSigners params).length)

theorem third_member_recorded : ∃ s s' a, Reachable counting config Fits s ∧
    (∃ draft ∈ s.drafts.rows, draftID.decode = some draft.id ∧ draft.status = .collecting) ∧
    Runs (exec counting config) (deploy draftID creator) s (.ok a) s' ∧
    Set.InjOn counting.address {params | params ∈ s'.chain.created ∨ params ∈ s'.asked} ∧
    ∃ account ∈ s'.accounts.accounts.rows, account.smartAccountAddress = a.address ∧
      ∃ params ∈ s'.chain.created, counting.address params = a.address ∧
        ¬ Matches s'.accounts account params := by
  have hfacts : Admits counting config Fits thirdMember .empty ∧
      ((replay counting config thirdMember .empty).drafts.rows.any fun draft =>
        decide (draftID.decode = some draft.id ∧ draft.status = .collecting)) = true ∧
      Succeeds (replay counting config thirdMember .empty) = true ∧
      forgetsMember (lastDeployment (replay counting config thirdMember .empty)) = true := by
    decide +kernel
  obtain ⟨hadmits, hcollecting, hok, hmismatch⟩ := hfacts
  obtain ⟨draft, hmem, hdraft⟩ := any_eq_true.mp hcollecting
  obtain ⟨a, ha, hrun, hinjective⟩ := runs_lastDeployment _ hok
  obtain ⟨account, haccount, hcreated⟩ := any_eq_true.mp hmismatch
  obtain ⟨params, hparams, hdecided⟩ := any_eq_true.mp hcreated
  obtain ⟨haddress, hsame, hlength⟩ := of_decide_eq_true hdecided
  rw [ha] at haddress
  obtain haddress := some.inj haddress
  refine ⟨_, _, a, reachable_replay thirdMember .refl hadmits,
    ⟨draft, hmem, of_decide_eq_true hdraft⟩, hrun, hinjective, account, haccount,
    haddress.symm, params, hparams, hsame.trans haddress.symm, fun hmatches => ?_⟩
  have hperm := hmatches.signers.length_eq
  rw [length_map, length_map] at hperm
  exact hlength hperm

end Sample

end LatchApi.Draft
