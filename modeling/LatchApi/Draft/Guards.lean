import LatchApi.Draft.Service

namespace LatchApi.Draft

open Lib Program Store Soroban Multisig
  Factory
open List

abbrev DraftThread := Thread Request DraftOp DraftRes DraftError Answer

def machine (F : FactoryContract) (cfg : FactoryConfig) :
    System Request DraftOp DraftRes DraftError Answer State Choice Factory.ChainEvent where
  body := body
  exec _ := exec F cfg
  world e s := some { s with chain := s.chain.step e }

def Request.edits : Request → Bool
  | .addMember _ _ _ => true
  | .addMemberViaInvite _ _ _ => true
  | .deleteMember _ _ _ => true
  | .deploy _ _ => true
  | _ => false

def draftRead : Event DraftRes → Option DraftRow
  | ⟨.read (.getMultisigDraftByIDForCreator _ _), .ok row⟩ => some row
  | ⟨.read (.getMultisigDraftByInviteToken _), .ok row⟩ => some row
  | _ => none

def membersRead : Event DraftRes → Option (Uuid × List DraftMemberRow)
  | ⟨.read (.listMultisigDraftMembersForDraft id), .ok rows⟩ => some (id, rows)
  | _ => none

theorem draftRead_byID {id creatorUserID : Uuid} (r : Except DbError DraftRow) :
    draftRead ⟨.read (.getMultisigDraftByIDForCreator id creatorUserID), r⟩ = r.toOption := by
  cases r <;> rfl

theorem draftRead_byToken {token : String} (r : Except DbError DraftRow) :
    draftRead ⟨.read (.getMultisigDraftByInviteToken token), r⟩ = r.toOption := by
  cases r <;> rfl

theorem membersRead_list {id : Uuid} (r : Except DbError (List DraftMemberRow)) :
    membersRead ⟨.read (.listMultisigDraftMembersForDraft id), r⟩ =
      r.toOption.map (Prod.mk id) := by
  cases r <;> rfl

def Write.changesMembers : Write → Bool
  | .insertMultisigDraftMember _ => true
  | .deleteMultisigDraftMember _ _ => true
  | _ => false

def Write.marksDeployed : Write → Bool
  | .updateMultisigDraftDeployed _ _ _ => true
  | _ => false

def wrote (p : Write → Bool) : Event DraftRes → Bool
  | ⟨.write w, _⟩ => p w
  | _ => false

def draftsRead (h : Log DraftRes) : List DraftRow := h.filterMap draftRead

def listsRead (h : Log DraftRes) : List (Uuid × List DraftMemberRow) :=
  h.filterMap membersRead

def busy (t : DraftThread) : Bool := t.request.edits && t.active

def DraftOp.opens (s : State) : DraftOp → Option Uuid
  | .read (.getMultisigDraftByIDForCreator id creatorUserID) =>
    (s.drafts.find fun r => decide (r.id = id ∧ r.creatorUserID = creatorUserID)).map DraftRow.id
  | .read (.getMultisigDraftByInviteToken token) =>
    (s.drafts.find fun r => decide (r.inviteToken = token)).map DraftRow.id
  | _ => none

/-- A request that edits a draft reads the draft only while no other such request on it is under
way. -/
def OneAtATime (s : State) (others : List DraftThread) (t : DraftThread) (op : DraftOp) : Prop :=
  t.request.edits = true → ∀ id ∈ (op.opens s).toList, ∀ u ∈ others, busy u = true →
    ∀ draft ∈ draftsRead u.history, draft.id ≠ id

instance (s : State) (others : List DraftThread) (t : DraftThread) (op : DraftOp) :
    Decidable (OneAtATime s others t op) := by
  unfold OneAtATime
  infer_instance

def keyMaterial (m : DraftMultisigMember) : String :=
  match m.kind with
  | .delegated => m.gAddress
  | .webauthn => normalizeHex m.keyDataHex
  | .ed25519 => normalizeHex m.publicKeyHex
  | .unsupported _ => ""

def SameKey (m m' : DraftMultisigMember) : Prop := m.kind = m'.kind ∧ keyMaterial m = keyMaterial m'

instance (m m' : DraftMultisigMember) : Decidable (SameKey m m') :=
  inferInstanceAs (Decidable (_ ∧ _))

theorem SameKey.symm {m m' : DraftMultisigMember} (h : SameKey m m') : SameKey m' m :=
  ⟨h.1.symm, h.2.symm⟩

def Differ (r r' : DraftMemberRow) : Prop :=
  r.draftID = r'.draftID → ¬ SameKey (domainMemberFromRow r) (domainMemberFromRow r')

instance (r r' : DraftMemberRow) : Decidable (Differ r r') :=
  inferInstanceAs (Decidable (_ → _))

section Duplicates

variable {m m' : DraftMultisigMember}

theorem isSome_duplicatesMember (hvalid : m.valid = true) (hsame : SameKey m m') :
    (duplicatesMember m m').isSome = true := by
  obtain ⟨hkind, hkey⟩ := hsame
  have hempty := beq_iff_eq.mp hvalid
  unfold validateDraftMember at hempty
  unfold keyMaterial at hkey
  unfold duplicatesMember
  rw [if_neg (not_not.mpr hkind.symm)]
  rw [← hkind] at hkey
  have hsome : ∀ {key text rest : String}, (if key = "" then text else rest) = "" → text ≠ "" →
      key ≠ "" :=
    fun h htext hkey => htext ((if_pos hkey).symm.trans h)
  rw [if_neg (hsome hempty (by decide))] at hempty
  cases hk : m.kind with
  | delegated =>
    simp only [hk] at hempty hkey ⊢
    rw [if_pos ⟨hsome hempty (by decide), hkey.symm⟩]
    rfl
  | webauthn =>
    simp only [hk] at hempty hkey ⊢
    rw [if_pos ⟨hsome hempty (by decide), hkey.symm⟩]
    rfl
  | ed25519 =>
    simp only [hk] at hempty hkey ⊢
    rw [if_pos ⟨hsome hempty (by decide), hkey.symm⟩]
    rfl
  | unsupported name =>
    simp only [hk] at hempty
    have hchars := congrArg String.toList hempty
    simp at hchars

theorem duplicatesMember_ne_empty : duplicatesMember m m' ≠ some "" := by
  unfold duplicatesMember
  by_cases hkind : m'.kind ≠ m.kind
  · rw [if_pos hkind]
    simp
  rw [if_neg hkind]
  cases m.kind with
  | unsupported name => simp
  | _ => dsimp only; split_ifs <;> simp

theorem not_sameKey_of_new {existing : List DraftMultisigMember} {u : Unit}
    (hvalid : m.valid = true) (hnew : requireNew m existing = .ok u) :
    ∀ m' ∈ existing, ¬ SameKey m m' := by
  unfold requireNew duplicateMemberError at hnew
  split_ifs at hnew with hempty
  intro m' hm' hsame
  have hdup := isSome_duplicatesMember hvalid hsame
  cases hfind : existing.findSome? (duplicatesMember m) with
  | none =>
    rw [findSome?_eq_none_iff.mp hfind m' hm'] at hdup
    cases hdup
  | some text =>
    rw [hfind] at hempty
    obtain ⟨m₁, -, hm₁⟩ := exists_of_findSome?_eq_some hfind
    rw [show text = "" from hempty] at hm₁
    exact duplicatesMember_ne_empty hm₁

end Duplicates

def mayFollow (req : Request) (h : Log DraftRes) : DraftOp → Prop
  | .read (.getMultisigDraftByIDForCreator _ _) => listsRead h = []
  | .read (.getMultisigDraftByInviteToken _) => listsRead h = []
  | .write (.insertMultisigDraft row) => row.status = .collecting
  | .write (.insertMultisigDraftMember row) => req.edits = true ∧
    (∀ e ∈ h, wrote Write.changesMembers e = false) ∧
    ∃ draft ∈ draftsRead h, draft.id = row.draftID ∧ draft.status = .collecting ∧
      ∃ rows, (draft.id, rows) ∈ listsRead h ∧
        ∀ r ∈ rows, ¬ SameKey (domainMemberFromRow row) (domainMemberFromRow r)
  | .write (.deleteMultisigDraftMember _ draftID) => req.edits = true ∧
    ∃ draft ∈ draftsRead h, draft.id = draftID ∧ draft.status = .collecting
  | .write (.updateMultisigDraftDeployed id _ _) => req.edits = true ∧
    ∃ draft ∈ draftsRead h, draft.id = id
  | _ => True

def rule (req : Request) : Discipline DraftOp DraftRes where
  legal _ _ := True
  guard h op := (∀ e ∈ h, wrote Write.marksDeployed e = false) ∧ mayFollow req h op

abbrev Keeps {α : Type} (req : Request) (h : Log DraftRes) (p : Service α) : Prop :=
  Obeys (rule req) h p fun _ _ => True

structure Working (draft : DraftRow) (h : Log DraftRes) : Prop where
  unmarked : ∀ e ∈ h, wrote Write.marksDeployed e = false
  read : draft ∈ draftsRead h

variable {h : Log DraftRes}

theorem Working.cons {draft : DraftRow} (hw : Working draft h) {e : Event DraftRes}
    (he : wrote Write.marksDeployed e = false) : Working draft (e :: h) := by
  refine ⟨forall_mem_cons.mpr ⟨he, hw.unmarked⟩, ?_⟩
  obtain ⟨e', he', hread⟩ := mem_filterMap.mp hw.read
  exact mem_filterMap.mpr ⟨e', mem_cons_of_mem _ he', hread⟩

section Programs

variable {α : Type} {req : Request} {draft : DraftRow} (userID : Encoded Uuid)
  {f : DraftRow → Service α}

theorem keeps_ofExcept_bind {β : Type} {x : Except DraftError β} {f : β → Service α}
    (hf : ∀ b, x = .ok b → Keeps req h (f b)) : Keeps req h (ofExcept x >>= f) := by
  cases x with
  | ok b => exact hf b rfl
  | error e => exact .fail trivial

section

variable (hunmarked : ∀ e ∈ h, wrote Write.marksDeployed e = false)

include hunmarked

theorem keeps_call {op : DraftOp} {f : DraftRes op → Service α} (hmay : mayFollow req h op)
    (hf : ∀ r, Keeps req (⟨op, r⟩ :: h) (f r)) : Keeps req h (perform op >>= f) :=
  .call ⟨hunmarked, hmay⟩ fun r _ => hf r

theorem keeps_listMembers_bind {id : Uuid} {f : List DraftMemberRow → Service α}
    (hf : ∀ rows, Keeps req
      (⟨.read (.listMultisigDraftMembersForDraft id), .ok rows⟩ :: h) (f rows)) :
    Keeps req h (listMembers id >>= f) := by
  refine keeps_call hunmarked trivial fun r => ?_
  cases r with
  | error e => exact .fail trivial
  | ok rows => exact hf rows

theorem keeps_loadAndSerialize : Keeps req h (loadAndSerialize draft) :=
  keeps_listMembers_bind hunmarked fun _ => .ok trivial

end

theorem keeps_getDraftForCreator_bind {draftID userID : Encoded Uuid}
    (hf : ∀ draft h, Working draft h → listsRead h = [] →
      (∀ e ∈ h, wrote Write.changesMembers e = false) → Keeps req h (f draft)) :
    Keeps req [] (getDraftForCreator draftID userID >>= f) := by
  unfold getDraftForCreator
  rw [bind_assoc]
  refine keeps_ofExcept_bind fun did _ => ?_
  rw [bind_assoc]
  refine keeps_ofExcept_bind fun uid _ => ?_
  refine keeps_call (by simp) rfl fun r => ?_
  cases r with
  | error e => cases e <;> exact .fail trivial
  | ok draft =>
    refine hf draft _ ⟨?_, mem_cons_self⟩ rfl ?_
    · simp [wrote]
    · simp [wrote]

theorem keeps_getDraftByInviteToken_bind {token : String}
    (hf : ∀ draft h, Working draft h → listsRead h = [] →
      (∀ e ∈ h, wrote Write.changesMembers e = false) → draft.status = .collecting →
        Keeps req h (f draft)) : Keeps req [] (getDraftByInviteToken token >>= f) := by
  refine keeps_call (by simp) rfl fun r => ?_
  cases r with
  | error e => cases e <;> exact .fail trivial
  | ok draft =>
    change Keeps req _ ((ofExcept (requireOpen draft) >>= _) >>= f)
    rw [bind_assoc]
    refine keeps_ofExcept_bind fun u hopen => ?_
    have hstatus : draft.status = .collecting := by
      unfold requireOpen at hopen
      split_ifs at hopen with hstatus
      exact hstatus
    have hread : Working draft [⟨.read (.getMultisigDraftByInviteToken token), .ok draft⟩] :=
      ⟨by simp [wrote], mem_cons_self⟩
    cases draft.expiresAt with
    | none => exact hf draft _ hread rfl (by simp [wrote]) hstatus
    | some expiresAt =>
      refine keeps_call hread.unmarked trivial fun time => ?_
      change Keeps req _ ((ofExcept (requireUnexpired expiresAt time) >>= _) >>= f)
      rw [bind_assoc]
      refine keeps_ofExcept_bind fun _ _ => ?_
      exact hf draft _ (hread.cons rfl) rfl (by simp [wrote]) hstatus

theorem keeps_addMemberToDraft_bind {member : DraftMultisigMember} {userID : Encoded Uuid}
    {source : MemberSource} {f : Unit → Service α} (hw : Working draft h)
    (hedits : req.edits = true) (hfirst : ∀ e ∈ h, wrote Write.changesMembers e = false)
    (hstatus : draft.status = .collecting)
    (hf : ∀ h, Working draft h → Keeps req h (f ())) :
    Keeps req h (addMemberToDraft draft member userID source >>= f) := by
  unfold addMemberToDraft
  rw [bind_assoc]
  apply keeps_ofExcept_bind
  intro u hvalid
  rw [bind_assoc]
  refine keeps_listMembers_bind hw.unmarked fun rows => ?_
  rw [bind_assoc]
  refine keeps_ofExcept_bind fun _ hnew => ?_
  have hlisted := hw.cons (e := ⟨.read (.listMultisigDraftMembersForDraft draft.id), .ok rows⟩) rfl
  refine keeps_call hlisted.unmarked trivial fun id => ?_
  refine keeps_call (hlisted.cons rfl).unmarked trivial fun createdAt => ?_
  have hready := (hlisted.cons (e := ⟨.newUUID, id⟩) rfl).cons (e := ⟨.now, createdAt⟩) rfl
  refine keeps_call hready.unmarked ⟨hedits, ?_, draft, hready.read, rfl, hstatus, rows, ?_, ?_⟩
    fun r => ?_
  · exact forall_mem_cons.mpr ⟨rfl, forall_mem_cons.mpr ⟨rfl,
      forall_mem_cons.mpr ⟨rfl, hfirst⟩⟩⟩
  · exact mem_filterMap.mpr ⟨_, mem_cons_of_mem _ (mem_cons_of_mem _
      mem_cons_self), rfl⟩
  · intro r hr
    rw [domainMemberFromRow_memberRow]
    exact not_sameKey_of_new (requireValid_eq_ok hvalid) hnew _ (mem_map_of_mem hr)
  · exact keeps_ofExcept_bind fun _ _ => hf _ (hready.cons rfl)

theorem requireCollecting_eq_ok {u : Unit} (h : requireCollecting draft = .ok u) :
    draft.status = .collecting := by
  unfold requireCollecting at h
  split_ifs at h with hstatus
  exact hstatus

theorem keeps_createDraft : Keeps req [] (createDraft userID) := by
  refine keeps_ofExcept_bind fun uid _ => ?_
  refine keeps_call (by simp) trivial fun salt => ?_
  refine keeps_call (by simp [wrote]) trivial fun token => ?_
  refine keeps_call (by simp [wrote]) trivial fun createdAt => ?_
  refine keeps_call (by simp [wrote]) trivial fun id => ?_
  refine keeps_call (by simp [wrote]) rfl fun r => keeps_ofExcept_bind fun _ _ => ?_
  refine keeps_call (by simp [wrote, Write.marksDeployed]) rfl fun r => ?_
  refine keeps_ofExcept_bind fun draft _ => ?_
  exact keeps_loadAndSerialize (by simp [wrote, Write.marksDeployed])

theorem keeps_getActiveDraft : Keeps req [] (getActiveDraft userID) := by
  refine keeps_ofExcept_bind fun uid _ => ?_
  refine keeps_call (by simp) trivial fun r => keeps_ofExcept_bind fun draft _ => ?_
  exact keeps_loadAndSerialize (by simp [wrote])

theorem keeps_getDraft (draftID userID : Encoded Uuid) : Keeps req [] (getDraft draftID userID) :=
  keeps_getDraftForCreator_bind fun _ _ hw _ _ => keeps_loadAndSerialize hw.unmarked

theorem keeps_updateThreshold (draftID userID : Encoded Uuid) (threshold : Int) :
    Keeps req [] (updateThreshold draftID userID threshold) := by
  refine keeps_getDraftForCreator_bind fun draft h hw _ _ => ?_
  refine keeps_ofExcept_bind fun _ _ => ?_
  refine keeps_listMembers_bind hw.unmarked fun rows => ?_
  refine keeps_ofExcept_bind fun _ _ => ?_
  exact keeps_call (hw.cons rfl).unmarked trivial fun r => keeps_ofExcept_bind fun _ _ => .ok trivial

theorem keeps_addMember (hedits : req.edits = true) (draftID userID : Encoded Uuid)
    (member : DraftMultisigMember) : Keeps req [] (addMember draftID userID member) := by
  refine keeps_getDraftForCreator_bind fun draft h hw _ hfirst => ?_
  apply keeps_ofExcept_bind
  intro u hcollecting
  exact keeps_addMemberToDraft_bind hw hedits hfirst (requireCollecting_eq_ok hcollecting)
    fun h hw => keeps_loadAndSerialize hw.unmarked

theorem keeps_addMemberViaInvite (hedits : req.edits = true) (token : String)
    (userID : Encoded Uuid) (member : DraftMultisigMember) :
    Keeps req [] (addMemberViaInvite token userID member) := by
  apply keeps_getDraftByInviteToken_bind
  intro draft h hw _ hfirst hstatus
  exact keeps_addMemberToDraft_bind hw hedits hfirst hstatus
    fun h hw => keeps_listMembers_bind hw.unmarked fun _ => .ok trivial

theorem keeps_deleteMember (hedits : req.edits = true) (draftID memberID userID : Encoded Uuid) :
    Keeps req [] (deleteMember draftID memberID userID) := by
  refine keeps_getDraftForCreator_bind fun draft h hw _ _ => ?_
  refine keeps_ofExcept_bind fun _ hcollecting => ?_
  refine keeps_ofExcept_bind fun mid _ => ?_
  refine keeps_call hw.unmarked
    ⟨hedits, draft, hw.read, rfl, requireCollecting_eq_ok hcollecting⟩ fun r => ?_
  exact keeps_ofExcept_bind fun _ _ => keeps_loadAndSerialize (hw.cons rfl).unmarked

theorem keeps_predictAddress (draftID userID : Encoded Uuid) :
    Keeps req [] (predictAddress draftID userID) := by
  refine keeps_getDraftForCreator_bind fun draft h hw _ _ => ?_
  refine keeps_listMembers_bind hw.unmarked fun rows => ?_
  refine keeps_ofExcept_bind fun params _ => ?_
  refine keeps_call (hw.cons rfl).unmarked trivial fun r => keeps_ofExcept_bind fun predicted _ => ?_
  exact keeps_call ((hw.cons rfl).cons rfl).unmarked trivial fun r =>
    keeps_ofExcept_bind fun _ _ => .ok trivial

theorem keeps_newUUIDs_bind (n : Nat) {f : List Uuid → Service α} (hw : Working draft h)
    (hf : ∀ ids h, Working draft h → Keeps req h (f ids)) : Keeps req h (newUUIDs n >>= f) := by
  induction n generalizing h f with
  | zero => exact hf [] h hw
  | succ n ih =>
    rw [newUUIDs, bind_assoc]
    refine keeps_call hw.unmarked trivial fun id => ?_
    rw [bind_assoc]
    exact ih (hw.cons rfl) fun ids h hw => hf (id :: ids) h hw

theorem keeps_persistDeployedAccount_bind {userID : Uuid} {address saltHex : String}
    {threshold : Int} {rows : List DraftMemberRow} {f : Unit → Service α} (hw : Working draft h)
    (hf : ∀ h, Working draft h → Keeps req h (f ())) :
    Keeps req h (persistDeployedAccount userID address threshold saltHex rows >>= f) := by
  unfold persistDeployedAccount
  rw [bind_assoc]
  refine keeps_call hw.unmarked trivial fun id => ?_
  refine keeps_call (hw.cons rfl).unmarked trivial fun createdAt => ?_
  refine keeps_call ((hw.cons rfl).cons rfl).unmarked trivial fun time => ?_
  have hstarted : Working draft (⟨.now, time⟩ :: ⟨.now, createdAt⟩ :: ⟨.newUUID, id⟩ :: h) :=
    ((hw.cons rfl).cons rfl).cons rfl
  change Keeps req _ ((newUUIDs _ >>= _) >>= f)
  rw [bind_assoc]
  refine keeps_newUUIDs_bind _ hstarted fun ids h hw => ?_
  refine keeps_call hw.unmarked trivial fun r => ?_
  exact keeps_ofExcept_bind fun _ _ => hf _ (hw.cons rfl)

theorem keeps_predictedOrAsk_bind {params : ScVal} {f : String → Service α} (hw : Working draft h)
    (hf : ∀ predicted h, Working draft h → Keeps req h (f predicted)) :
    Keeps req h (predictedOrAsk draft params >>= f) := by
  unfold predictedOrAsk
  split_ifs
  · exact keeps_call hw.unmarked trivial fun r => keeps_ofExcept_bind fun predicted _ =>
      hf predicted _ (hw.cons rfl)
  · exact hf _ h hw

theorem keeps_deploy (hedits : req.edits = true) (draftID userID : Encoded Uuid) :
    Keeps req [] (deploy draftID userID) := by
  refine keeps_getDraftForCreator_bind fun draft h hw _ _ => ?_
  split_ifs
  · exact keeps_listMembers_bind hw.unmarked fun _ => .ok trivial
  refine keeps_listMembers_bind hw.unmarked fun rows => ?_
  refine keeps_ofExcept_bind fun params _ => ?_
  refine keeps_predictedOrAsk_bind (hw.cons rfl) fun predicted h hw => ?_
  refine keeps_call hw.unmarked trivial fun r => keeps_ofExcept_bind fun (address, _) _ => ?_
  refine keeps_persistDeployedAccount_bind (hw.cons rfl) fun h hw => ?_
  refine keeps_call hw.unmarked ⟨hedits, draft, hw.read, rfl⟩ fun r => ?_
  exact keeps_ofExcept_bind fun _ _ => .ok trivial

theorem keeps_getPublicDraftByToken (token : String) :
    Keeps req [] (getPublicDraftByToken token) := by
  exact keeps_getDraftByInviteToken_bind fun _ _ hw _ _ _ =>
    keeps_listMembers_bind hw.unmarked fun _ => .ok trivial

theorem Keeps.answer {β : Type} {p : Service β} {answer : β → Answer} (hp : Keeps req h p) :
    Keeps req h (p >>= fun b => return answer b) := by
  refine (obeys_bind _ _ _).mpr (hp.mono fun h' out _ => ?_)
  cases out with
  | ok b => exact .ok trivial
  | error e => trivial

theorem keeps_body (req : Request) : Keeps req [] (body req) := by
  cases req with
  | createDraft userID => exact Keeps.answer (keeps_createDraft userID)
  | getActiveDraft userID => exact Keeps.answer (keeps_getActiveDraft userID)
  | getDraft draftID userID => exact Keeps.answer (keeps_getDraft draftID userID)
  | updateThreshold draftID userID threshold =>
    exact Keeps.answer (keeps_updateThreshold draftID userID threshold)
  | addMember draftID userID member => exact Keeps.answer (keeps_addMember rfl draftID userID member)
  | addMemberViaInvite token userID member =>
    exact Keeps.answer (keeps_addMemberViaInvite rfl token userID member)
  | deleteMember draftID memberID userID =>
    exact Keeps.answer (keeps_deleteMember rfl draftID memberID userID)
  | predictAddress draftID userID => exact Keeps.answer (keeps_predictAddress draftID userID)
  | deploy draftID userID => exact Keeps.answer (keeps_deploy rfl draftID userID)
  | getPublicDraft token => exact Keeps.answer (keeps_getPublicDraftByToken token)

end Programs

end LatchApi.Draft
