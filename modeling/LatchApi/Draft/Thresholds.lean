import LatchApi.Draft.Effects

namespace LatchApi.Draft

open Lib Program Store Soroban Factory List Option Lib.Table

def deployableCount (rows : List DraftMemberRow) : Nat :=
  rows.countP fun row => isDeployable (domainMemberFromRow row)

/-- A threshold above two counts signers only, also once a member has left. -/
def Careful (s : State) : Request → Prop
  | .updateThreshold draftID _ threshold => threshold < 2 ^ 31 ∧
    (threshold ≤ 2 ∨ ∀ draft ∈ s.drafts.rows, draftID.decode = some draft.id →
      threshold ≤ deployableCount (s.membersOf draft.id))
  | .deleteMember draftID memberID _ => ∀ draft ∈ s.drafts.rows, draftID.decode = some draft.id →
    draft.threshold ≤ 2 ∨ draft.threshold ≤ deployableCount
      ((s.membersOf draft.id).filter fun row => decide (memberID.decode ≠ some row.id))
  | _ => True

instance (s : State) (req : Request) : Decidable (Careful s req) := by
  cases req <;> unfold Careful <;> infer_instance

variable {draft : DraftRow} {rows : List DraftMemberRow}

section Parameters

variable {params : ScVal}

theorem isSome_factoryEntry (m : DraftMultisigMember) :
    (factoryEntry m).isSome = decide (m.kind = .webauthn ∨ m.kind = .delegated) := by
  unfold factoryEntry
  cases m.kind <;> simp

theorem length_validDeployableFactorySigners (rows : List DraftMemberRow) :
    (validDeployableFactorySigners rows).length = deployableCount rows := by
  rw [validDeployableFactorySigners, draftMembersToFactorySigners, length_map,
    length_insertionSort, length_filterMap_eq_countP, countP_filter, countP_map]
  refine countP_congr fun row _ => ?_
  simp only [Function.comp_apply, isSome_factoryEntry, isDeployable, Bool.and_eq_true]
  exact and_comm

theorem draftParams_eq_ok (h : draftParams draft rows = .ok params) :
    2 ≤ deployableCount rows ∧ ∃ salt, hexDecodeSalt draft.accountSaltHex = .ok salt ∧
      buildMultisigAccountInitParams (UInt32.ofInt draft.threshold) salt
        (validDeployableFactorySigners rows) = .ok params := by
  obtain ⟨u, hsigners, hparams⟩ := bind_eq_ok.mp h
  unfold requireSigners at hsigners
  rw [length_validDeployableFactorySigners] at hsigners
  split_ifs at hsigners with hfew
  refine ⟨not_lt.mp hfew, ?_⟩
  cases hbuild : buildParams draft (validDeployableFactorySigners rows) with
  | error e => rw [hbuild] at hparams; cases hparams
  | ok built =>
    rw [hbuild] at hparams
    cases hparams
    exact bind_eq_ok.mp hbuild

theorem usable_of_draftParams (h : draftParams draft rows = .ok params) (hpos : 1 ≤ draft.threshold)
    (hlt : draft.threshold < 2 ^ 31)
    (hbound : draft.threshold ≤ 2 ∨ draft.threshold ≤ deployableCount rows) : Usable params := by
  obtain ⟨htwo, salt, -, hbuild⟩ := draftParams_eq_ok h
  rw [usable_of_build hbuild, length_validDeployableFactorySigners]
  have hthreshold := toNat_ofInt draft.threshold
  omega

end Parameters

section History

variable {F : FactoryContract} {cfg : FactoryConfig} {s s' : State} {req : Request}

structure Steady (s : State) : Prop where
  drafts : ∀ draft ∈ s.drafts.rows, 1 ≤ draft.threshold ∧ draft.threshold < 2 ^ 31 ∧
    (draft.threshold ≤ 2 ∨ draft.threshold ≤ deployableCount (s.membersOf draft.id))
  asked : ∀ params ∈ s.asked, Usable params

theorem Steady.usable (h : Steady s) {params : ScVal} (hholds : s.Holds draft rows)
    (hparams : draftParams draft rows = .ok params) :
    Usable params := by
  obtain ⟨hpos, hlt, hbound⟩ := h.drafts draft hholds.mem
  refine usable_of_draftParams hparams hpos hlt ?_
  rwa [deployableCount, hholds.perm.countP_eq]

theorem Steady.drafts_changed (h : Steady s) (hasked : s'.asked = s.asked)
    (hmembers : s'.members = s.members)
    (hdrafts : ∀ draft ∈ s'.drafts.rows, (∃ old ∈ s.drafts.rows, draft.id = old.id ∧
      draft.threshold = old.threshold) ∨ 1 ≤ draft.threshold ∧ draft.threshold < 2 ^ 31 ∧
        (draft.threshold ≤ 2 ∨ draft.threshold ≤ deployableCount (s.membersOf draft.id))) :
    Steady s' := by
  refine ⟨fun draft hdraft => ?_, hasked ▸ h.asked⟩
  have hsame : s'.membersOf draft.id = s.membersOf draft.id := by
    rw [State.membersOf, hmembers, State.membersOf]
  rw [hsame]
  rcases hdrafts draft hdraft with ⟨old, hold, hid, hthreshold⟩ | hnew
  · rw [hid, hthreshold]
    exact h.drafts old hold
  · exact hnew

theorem Steady.members_changed (h : Steady s) (hasked : s'.asked = s.asked)
    (hdrafts : s'.drafts = s.drafts)
    (hmembers : ∀ draft ∈ s.drafts.rows,
      deployableCount (s.membersOf draft.id) ≤ deployableCount (s'.membersOf draft.id) ∨
        draft.threshold ≤ 2 ∨ draft.threshold ≤ deployableCount (s'.membersOf draft.id)) :
    Steady s' := by
  refine ⟨fun draft hdraft => ?_, hasked ▸ h.asked⟩
  rw [hdrafts] at hdraft
  obtain ⟨hpos, hlt, hbound⟩ := h.drafts draft hdraft
  refine ⟨hpos, hlt, ?_⟩
  rcases hmembers draft hdraft with hmore | henough
  · omega
  · exact henough

theorem mem_updateDraft_rows {id : Uuid} (set : DraftRow → DraftRow)
    (hset : ∀ r, (set r).id = r.id ∧ (set r).inviteToken = r.inviteToken) :
    draft ∈ (s.updateDraft id set hset).drafts.rows ↔
      (draft ∈ s.drafts.rows ∧ draft.id ≠ id) ∨
        ∃ old ∈ s.drafts.rows, old.id = id ∧ draft = set old := by
  rw [State.updateDraft, update, mem_updated]
  simp only [decide_eq_true_eq, decide_eq_false_iff_not, ne_eq]

theorem Steady.update (h : Steady s) {id : Uuid} (set : DraftRow → DraftRow)
    (hset : ∀ r, (set r).id = r.id ∧ (set r).inviteToken = r.inviteToken)
    (hasked : s'.asked = s.asked) (hmembers : s'.members = s.members)
    (hdrafts : s'.drafts = (s.updateDraft id set hset).drafts)
    (hthreshold : ∀ r, (set r).threshold = r.threshold) : Steady s' := by
  refine h.drafts_changed hasked hmembers fun draft hdraft => .inl ?_
  rw [hdrafts, mem_updateDraft_rows] at hdraft
  rcases hdraft with ⟨hdraft, -⟩ | ⟨old, hold, -, rfl⟩
  · exact ⟨draft, hdraft, rfl, rfl⟩
  · exact ⟨old, hold, (hset old).1, hthreshold old⟩

theorem Steady.wrote (h : Steady s) (hcareful : Careful s req) {chain : Factory.Chain} {w : Write}
    (hw : (s.withChain chain).write w = some s') (hallowed : Allowed F s req w) : Steady s' := by
  cases w with
  | insertMultisigDraft row =>
    obtain ⟨t, ht, rfl⟩ := map_eq_some_iff.mp hw
    refine h.drafts_changed rfl rfl fun draft hdraft => ?_
    rcases (Table.mem_insert ht).mp hdraft with hold | rfl
    · exact .inl ⟨draft, hold, rfl, rfl⟩
    · have hthreshold : draft.threshold = 2 := hallowed.1
      omega
  | updateMultisigDraftThreshold id threshold =>
    obtain ⟨draftID, userID, t, rfl, hid, rfl, hpos, -⟩ := hallowed
    obtain ⟨hlt, hbound⟩ := hcareful
    have hint : int32 t = t := by
      rw [int32, Int.bmod_def]
      omega
    cases hw
    refine h.drafts_changed rfl rfl fun draft hdraft => ?_
    rcases (mem_updateDraft_rows (setThreshold (int32 t)) fun _ => ⟨rfl, rfl⟩).mp hdraft with ⟨hold, -⟩ | ⟨old, hold, rfl, rfl⟩
    · exact .inl ⟨draft, hold, rfl, rfl⟩
    refine .inr ?_
    simp only [setThreshold, hint]
    exact ⟨hpos, hlt, hbound.imp_right fun hbound => hbound old hold hid⟩
  | updateMultisigDraftPredictedAddress id predicted =>
    cases hw
    exact h.update (setPredicted predicted) (fun _ => ⟨rfl, rfl⟩) rfl rfl rfl fun r => rfl
  | updateMultisigDraftDeployed id address predicted => exact hallowed.elim
  | insertMultisigDraftMember row =>
    obtain ⟨t, ht, rfl⟩ := map_eq_some_iff.mp hw
    refine h.members_changed rfl rfl fun draft hdraft => .inl ?_
    have hrows : t.rows = s.members.rows ++ [row] := Table.rows_insert ht
    simp only [State.membersOf, hrows, filter_append, deployableCount, countP_append]
    omega
  | deleteMultisigDraftMember id draftID =>
    obtain ⟨draftText, memberText, userID, rfl, hdraftID, hmemberID⟩ := hallowed
    cases hw
    refine h.members_changed rfl rfl fun draft hdraft => ?_
    by_cases hid : draft.id = draftID
    · have hrest : ((s.withChain chain).members.delete fun r =>
          decide (r.id = id ∧ r.draftID = draftID)).rows.filter (fun r => decide (r.draftID = draft.id)) =
          (s.membersOf draft.id).filter fun row => decide (memberText.decode ≠ some row.id) := by
        simp only [Table.delete, State.membersOf, List.filter_filter, State.withChain]
        refine List.filter_congr fun row _ => ?_
        rw [hmemberID, hid]
        by_cases hrow : row.draftID = draftID <;> simp [hrow, eq_comm]
      right
      simp only [State.membersOf, hrest]
      exact hcareful draft hdraft (hid ▸ hdraftID)
    · refine .inl (le_of_eq ?_)
      simp only [State.membersOf, Table.delete, List.filter_filter, State.withChain]
      congr 1
      refine List.filter_congr fun row _ => ?_
      by_cases hrow : row.draftID = draft.id
      · simp [hrow, hid]
      · simp [hrow]

theorem Steady.effect (h : Steady s) (hcareful : Careful s req) (heffect : Effect F s req s') :
    Steady s' := by
  cases heffect with
  | quiet hchain => exact ⟨h.drafts, h.asked⟩
  | wrote hchain hw hallowed => exact h.wrote hcareful hw hallowed
  | @asks params s' hasks =>
    obtain ⟨draft, rows, hholds, -, hparams⟩ := hasks.draft
    have husable := h.usable hholds hparams
    have hdrafts : Steady { s' with asked := s.asked } := by
      rcases hasks.drafts with hsame | ⟨id, address, predicted, hdeployed⟩
      · refine h.drafts_changed rfl hasks.members fun draft hdraft => .inl ?_
        exact ⟨draft, hsame ▸ hdraft, rfl, rfl⟩
      · exact h.update (setDeployed address predicted) (fun _ => ⟨rfl, rfl⟩) rfl hasks.members
          hdeployed fun r => rfl
    refine ⟨hdrafts.drafts, fun params' hparams' => ?_⟩
    rw [hasks.asked, mem_append, mem_singleton] at hparams'
    rcases hparams' with hold | rfl
    · exact h.asked params' hold
    · exact husable

theorem steady_of_reachable (h : Reachable F cfg Careful s) : s.chain.Sound F ∧ Steady s :=
  h.invariant ⟨by simp [State.empty, empty], by simp [State.empty]⟩
    (fun _ _ h => ⟨h.drafts, h.asked⟩) fun _ _ _ h hcareful heffect => h.effect hcareful heffect

/-- In a history of careful calls the factory gets only parameters that its account's signers can
meet, and a draft that can be deployed stands for such parameters. -/
theorem careful_drafts_usable (h : Reachable F cfg Careful s) :
    (∀ params ∈ s.asked, Usable params) ∧
      ∀ req a s', Careful s req → Runs (exec F cfg) (body req) s (.ok a) s' →
        ∀ d, a.shown = some d → d.canDeploy = true →
          ∃ draft rows, s'.Holds draft rows ∧ d = serialize draft rows ∧
            ∀ params, draftParams draft rows = .ok params → Usable params := by
  obtain ⟨hsound, hsteady⟩ := steady_of_reachable h
  refine ⟨hsteady.asked, fun req a s' hcareful hrun d hd _ => ?_⟩
  obtain ⟨heffect, hshown⟩ := ends_of_runs hsound hrun
  obtain ⟨draft, rows, hholds, rfl⟩ := hshown d hd
  exact ⟨draft, rows, hholds, rfl, fun params => (hsteady.effect hcareful heffect).usable hholds⟩

end History

namespace Sample

theorem length_hash (b : UInt8) : (List.replicate 32 b).length = 32 := length_replicate

def hash (b : UInt8) : Hash := ⟨List.replicate 32 b, length_hash b⟩

def factory : FactoryContract := ⟨fun _ => hash 0⟩

def config : FactoryConfig := ⟨contractText (hash 1), true⟩

def choices (first : Uuid) (n : Nat) : Choice where
  uuid := first + n
  bytes := List.replicate 32 0
  rpc _ := { events := [.land 0], submitted := .ok "deployment" }

def delegated (b : UInt8) : DraftMultisigMember :=
  ⟨"signer", .delegated, accountText (hash b), "", "", ""⟩

def seed (b : UInt8) : DraftMultisigMember :=
  ⟨"seed", .ed25519, "", "", "", hexEncode (List.replicate 32 b)⟩

def creator : Encoded Uuid := .of 1

def draftID : Encoded Uuid := .of 13

def twoSigners : List Call := [
  (.createDraft creator, choices 10),
  (.addMember draftID creator (delegated 2), choices 20),
  (.addMember draftID creator (delegated 3), choices 30)]

def threeOfTwo : List Call := twoSigners ++ [
  (.addMember draftID creator (seed 4), choices 40),
  (.updateThreshold draftID creator 3, choices 50)]

def deployment : Call := (.deploy draftID creator, choices 60)

theorem careful_two_signers :
    (replay factory config (twoSigners ++ [deployment]) .empty).asked.length = 1 ∧
      ∀ params ∈ (replay factory config (twoSigners ++ [deployment]) .empty).asked, Usable params := by
  have hrun : Admits factory config Careful (twoSigners ++ [deployment]) .empty ∧
      (replay factory config (twoSigners ++ [deployment]) .empty).asked.length = 1 := by
    decide +kernel
  exact ⟨hrun.2, (careful_drafts_usable (reachable_replay _ .refl hrun.1)).1⟩

theorem three_of_two_deployed :
    (∃ s draft rows params, Reachable factory config (fun _ _ => True) s ∧ s.Holds draft rows ∧
      (serialize draft rows).canDeploy = true ∧ draftParams draft rows = .ok params ∧
      ¬ Usable params) ∧
    ∃ s, Reachable factory config (fun _ _ => True) s ∧ ∃ params ∈ s.asked, ¬ Usable params := by
  constructor
  · have hdraft : ((replay factory config threeOfTwo .empty).drafts.rows.any fun draft =>
        canDeploy draft ((replay factory config threeOfTwo .empty).membersOf draft.id) &&
          (draftParams draft ((replay factory config threeOfTwo .empty).membersOf
            draft.id)).toOption.any fun params => decide (¬ Usable params)) = true := by
      decide +kernel
    obtain ⟨draft, hmem, hfacts⟩ := any_eq_true.mp hdraft
    rw [Bool.and_eq_true, Option.any_eq_true] at hfacts
    obtain ⟨hcan, params, hparams, hunusable⟩ := hfacts
    refine ⟨_, draft, _, params, reachable_replay threeOfTwo .refl (admits_any _ _),
      ⟨hmem, List.Perm.refl _⟩, hcan, ?_, of_decide_eq_true hunusable⟩
    cases hbuilt : draftParams draft ((replay factory config threeOfTwo .empty).membersOf draft.id) with
    | error e => rw [hbuilt] at hparams; cases hparams
    | ok built => rw [hbuilt] at hparams; exact congrArg _ (some.inj hparams)
  · have hasked : ((replay factory config (threeOfTwo ++ [deployment]) .empty).asked.any fun params =>
        decide (¬ Usable params)) = true := by decide +kernel
    obtain ⟨params, hmem, hunusable⟩ := any_eq_true.mp hasked
    exact ⟨_, reachable_replay _ .refl (admits_any _ _), params, hmem, of_decide_eq_true hunusable⟩

end Sample

end LatchApi.Draft
