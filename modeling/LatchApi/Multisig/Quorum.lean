import LatchApi.Multisig.PayloadSigners
import LatchApi.Multisig.UnderWay

namespace LatchApi.Multisig

open Lib Program Soroban Store Bundler List Option Lib.System

def Job.signers (job : Job) : List (ScVal × ScVal) :=
  ((job.entries.head?.bind SorobanAuthorizationEntry.addressCredentials).map fun creds =>
    payloadSigners creds.signature).getD []

def Job.SignsAs (cfg : TxConfig) (job : Job) (a : MultisigApproval) (k : ScVal) : Prop :=
  (a ∈ job.execution.picked.webauthn ∧ (webauthnInput cfg a).signerKey = some k) ∨
    (a ∈ job.execution.picked.delegated ∧ delegatedSignerKey a.memberGAddress = some k)

structure Job.FullQuorum (cfg : TxConfig) (job : Job) : Prop where
  size : job.signers.length = job.account.threshold
  distinct : (job.signers.map Prod.fst).Nodup
  owners : ∀ k ∈ job.signers.map Prod.fst, ∃ a, job.SignsAs cfg a k ∧
    ∀ a' k', job.SignsAs cfg a' k' → a'.memberID = a.memberID → k' = k

/-- Of the listed approvals no two that count for the threshold are of members with one key or one
account. -/
def DistinctMembers (threshold : Nat) (rows : List ApprovalWithMember) : Prop :=
  (((usableWebauthn rows).take threshold).map fun a => normalizeHex a.memberKeyDataHex).Nodup ∧
    (((usableDelegated rows).take (threshold - ((usableWebauthn rows).take threshold).length)).map
      MultisigApproval.memberGAddress).Nodup

variable {cfg : TxConfig}

section Picked

variable {X : Codec} {rows : List ApprovalWithMember}

theorem pick_length {threshold : Nat} {webauthn delegated : List MultisigApproval}
    (h : threshold ≤ webauthn.length + delegated.length) :
    (pickApprovalsForThreshold threshold webauthn delegated).webauthn.length +
      (pickApprovalsForThreshold threshold webauthn delegated).delegated.length = threshold := by
  simp only [pickApprovalsForThreshold, length_take]
  omega

theorem usable_nodup (h : (rows.map fun x => x.approval.memberID).Nodup) :
    ((usableWebauthn rows ++ usableDelegated rows).map MultisigApproval.memberID).Nodup := by
  have hmap : ∀ p : ApprovalWithMember → Bool,
      ((rows.filter p).map ApprovalWithMember.toApproval).map MultisigApproval.memberID =
        (rows.filter p).map fun x => x.approval.memberID := by
    intro p
    rw [List.map_map]
    rfl
  rw [map_append, nodup_append]
  refine ⟨?_, ?_, ?_⟩
  · rw [usableWebauthn, hmap]
    exact h.sublist (filter_sublist.map _)
  · rw [usableDelegated, hmap]
    exact h.sublist (filter_sublist.map _)
  intro m hm m' hm' heq
  obtain ⟨a, ha, rfl⟩ := mem_map.mp hm
  obtain ⟨a', ha', rfl⟩ := mem_map.mp hm'
  obtain ⟨x, hx, htype, -, rfl⟩ := mem_usableWebauthn.mp ha
  obtain ⟨x', hx', htype', -, -, rfl⟩ := mem_usableDelegated.mp ha'
  obtain rfl := inj_on_of_nodup_map h hx hx' heq
  rw [htype] at htype'
  cases htype'

theorem picked_nodup (threshold : Nat) (h : (rows.map fun x => x.approval.memberID).Nodup) :
    ((pickApprovalsForThreshold threshold (usableWebauthn rows)
      (usableDelegated rows)).all.map MultisigApproval.memberID).Nodup := by
  have hsub : (pickApprovalsForThreshold threshold (usableWebauthn rows)
      (usableDelegated rows)).all.Sublist (usableWebauthn rows ++ usableDelegated rows) :=
    (take_sublist _ _).append (take_sublist _ _)
  exact (usable_nodup h).sublist (hsub.map _)

theorem Job.signers_eq {job : Job} {entries : AuthEntries} {index : Int} {contextRuleID : UInt32}
    (a : Assembled cfg X entries index contextRuleID job.execution.picked job.execution.entries) :
    job.signers = a.signers := by
  have haddress := a.hasSourceAccount_eq
  rw [Job.signers, Job.entries, a.head_eq, bind_some]
  generalize a.entry = entry at haddress ⊢
  obtain ⟨credentials, invocation⟩ := entry
  cases credentials with
  | sourceAccount => cases haddress
  | address creds => rfl

theorem dedupKey_nodup_iff (as : List MultisigApproval) :
    ((as.map (webauthnInput cfg)).map WebauthnApprovalInput.dedupKey).Nodup ↔
      (as.map fun a => normalizeHex a.memberKeyDataHex).Nodup := by
  have hmap : (as.map (webauthnInput cfg)).map WebauthnApprovalInput.dedupKey =
      (as.map fun a => normalizeHex a.memberKeyDataHex).map fun text =>
        "External:" ++ cfg.webauthnVerifierAddress ++ ":" ++ text := by
    simp only [List.map_map]
    rfl
  rw [hmap, nodup_map_iff]
  intro text text' h
  have hlist := congrArg String.toList h
  simp only [String.toList_append, append_assoc, append_cancel_left_eq] at hlist
  exact String.toList_inj.mp hlist

end Picked

section Listing

theorem withMember_sublist (db : Db) (as : List ApprovalRow) :
    ((as.filterMap db.withMember).map ApprovalWithMember.approval).Sublist as := by
  induction as with
  | nil => exact .refl _
  | cons a as ih =>
    rw [filterMap_cons]
    cases h : db.withMember a with
    | none => exact ih.cons a
    | some x =>
      obtain ⟨m, -, rfl⟩ := map_eq_some_iff.mp h
      exact ih.cons_cons a

theorem approvalsOf_nodup (db : Db) (p : Uuid) :
    ((db.approvalsOf p).map ApprovalRow.memberID).Nodup := by
  have hkeys : ((db.approvalsOf p).map ApprovalRow.key).Nodup :=
    db.approvals.uk_nodup.sublist (filter_sublist.map _)
  have hmap : (db.approvalsOf p).map ApprovalRow.key =
      ((db.approvalsOf p).map ApprovalRow.memberID).map fun m => (p, m) := by
    rw [List.map_map]
    apply map_congr_left
    intro a ha
    have hp := of_decide_eq_true (mem_filter.mp ha).2
    exact Prod.ext hp rfl
  rw [hmap] at hkeys
  exact hkeys.of_map

theorem listed_nodup {op : MsOp} {s : State} {c : Choice} {l : Uuid × List ApprovalWithMember}
    (h : listed ⟨op, (exec cfg op s c).1⟩ = some l) :
    (l.2.map fun x => x.approval.memberID).Nodup := by
  rw [(listed_of_exec h).2]
  have hsorted := (perm_insertionSort (rowOrder ApprovalRow.createdAt ApprovalRow.id c.order)
    (s.db.approvalsOf l.1)).map ApprovalRow.memberID
  have hsub := (withMember_sublist s.db ((s.db.approvalsOf l.1).insertionSort
    (rowOrder ApprovalRow.createdAt ApprovalRow.id c.order))).map ApprovalRow.memberID
  rw [List.map_map] at hsub
  exact (hsorted.nodup_iff.mpr (approvalsOf_nodup s.db l.1)).sublist hsub

theorem Reachable.listings_nodup {X : Codec} {allow : MsSchedule} {s : State} {c : MsRun}
    (h : (multisigSystem cfg X).Reachable allow s c) : ∀ t ∈ c.threads,
      ∀ l ∈ listings t.history, (l.2.map fun x => x.approval.memberID).Nodup := by
  refine Reachable.invariant (discipline cfg X)
    (fun c => ∀ t ∈ c.threads, ∀ l ∈ listings t.history,
      (l.2.map fun x => x.approval.memberID).Nodup)
    (obeys_requestBody cfg X) (fun _ _ _ _ => trivial) (by simp) ?_ ?_ ?_ h
  · exact fun s ts req hinv => forall_arrived hinv (by simp [listings])
  · exact fun s s' ts e hworld hinv => hinv
  intro s before after t op next c hrest hallow hg hinv
  refine forall_advanced hinv (fun u hu => hu) ?_
  intro l hl
  rcases Thread.mem_view_advance hl with hl | hl
  · exact hinv t (by simp) l hl
  · exact listed_nodup hl

end Listing

section Quorum

theorem Job.SignsAs.mem {job : Job} {a : MultisigApproval} {k : ScVal} (h : job.SignsAs cfg a k) :
    a ∈ job.execution.picked.all := by
  rcases h with ⟨ha, -⟩ | ⟨ha, -⟩
  · exact mem_append_left _ ha
  · exact mem_append_right _ ha

theorem Job.SignsAs.unique {job : Job} {a a' : MultisigApproval} {k k' : ScVal}
    (hnodup : (job.execution.picked.all.map MultisigApproval.memberID).Nodup)
    (h : job.SignsAs cfg a k) (h' : job.SignsAs cfg a' k') (hid : a'.memberID = a.memberID) :
    k' = k := by
  obtain rfl := inj_on_of_nodup_map hnodup h'.mem h.mem hid
  rw [PickedApprovals.all, map_append, nodup_append] at hnodup
  have hdisjoint : ∀ {b : MultisigApproval}, b ∈ job.execution.picked.webauthn →
      b ∉ job.execution.picked.delegated := fun hw hd =>
    hnodup.2.2 _ (mem_map_of_mem hw) _ (mem_map_of_mem hd) rfl
  rcases h with ⟨ha, hk⟩ | ⟨ha, hk⟩
  · rcases h' with ⟨-, hk'⟩ | ⟨ha', -⟩
    · exact some.inj (hk'.symm.trans hk)
    · exact absurd ha' (hdisjoint ha)
  · rcases h' with ⟨ha', -⟩ | ⟨-, hk'⟩
    · exact absurd ha (hdisjoint ha')
    · exact some.inj (hk'.symm.trans hk)

end Quorum

namespace Sample

open Bundler.Sample

def memberInput (keyDataHex : String) : RegisterMemberInput := ⟨.webauthn, keyDataHex, "", "", ""⟩

def quorumMoves (keyDataHex keyDataHex' : String) : Moves :=
  .arrive (.register 1 ⟨walletAddress, 2, "00", [memberInput keyDataHex, memberInput keyDataHex']⟩) ::
    acts 0 5 (withUuid 1) ++ acts 0 2 (withUuid 2) ++
  .arrive (.create 1 ⟨walletAddress, .counterIncrement, contractText (key 3), "", "", "", "", false⟩ []) ::
    acts 1 9 (withUuid 3) ++
  .arrive (.approveWebauthn 1 (some 3) (some 1) "00") :: acts 2 6 (withUuid 4) ++
  .arrive (.approveWebauthn 1 (some 3) (some 2) "00") :: acts 3 6 (withUuid 5) ++
  .arrive (.execute 1 (some 3)) :: acts 4 4 (withUuid 6)

end Sample

end LatchApi.Multisig
