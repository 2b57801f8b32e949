import LatchApi.Draft.Service

namespace LatchApi.Draft

open Lib Program Store Soroban Multisig
  Factory
open List

structure State.Holds (s : State) (draft : DraftRow) (rows : List DraftMemberRow) : Prop where
  mem : draft ∈ s.drafts.rows
  perm : rows.Perm (s.membersOf draft.id)

def State.withChain (s : State) (chain : Factory.Chain) : State := { s with chain := chain }

def Allowed (F : FactoryContract) (s : State) (req : Request) : Write → Prop
  | .insertMultisigDraft row => row.threshold = defaultDraftThreshold ∧ row.predictedAddress = none
  | .updateMultisigDraftThreshold id threshold => ∃ draftID userID t,
      req = .updateThreshold draftID userID t ∧ draftID.decode = some id ∧ threshold = int32 t ∧
        1 ≤ t ∧ t ≤ (s.membersOf id).length
  | .updateMultisigDraftPredictedAddress id predicted => ∃ draft rows params, s.Holds draft rows ∧
      draft.id = id ∧ draftParams draft rows = .ok params ∧ predicted = nullStr (F.address params)
  | .updateMultisigDraftDeployed _ _ _ => False
  | .insertMultisigDraftMember row => (domainMemberFromRow row).valid = true
  | .deleteMultisigDraftMember id draftID => ∃ draftText memberText userID,
      req = .deleteMember draftText memberText userID ∧ draftText.decode = some draftID ∧
        memberText.decode = some id

structure Asks (F : FactoryContract) (s s' : State) (params : ScVal) : Prop where
  draft : ∃ draft rows, s.Holds draft rows ∧ draft.status = .collecting ∧
    draftParams draft rows = .ok params
  chain : s.chain.Extends F s'.chain
  members : s'.members = s.members
  asked : s'.asked = s.asked ++ [params]
  edited : s'.edited = s.edited
  drafts : s'.drafts = s.drafts ∨ ∃ id address predicted,
    s'.drafts = (s.updateDraft id (setDeployed address predicted) fun _ => ⟨rfl, rfl⟩).drafts

inductive Effect (F : FactoryContract) (s : State) (req : Request) : State → Prop
  | quiet {chain : Factory.Chain} (hchain : s.chain.Extends F chain) : Effect F s req (s.withChain chain)
  | wrote {chain : Factory.Chain} {w : Write} {s' : State} (hchain : s.chain.Extends F chain)
      (hw : (s.withChain chain).write w = some s') (hallowed : Allowed F s req w) : Effect F s req s'
  | asks {params : ScVal} {s' : State} (h : Asks F s s' params) : Effect F s req s'

def Shown (s : State) (d : SerializedDraft) : Prop :=
  ∃ draft rows, s.Holds draft rows ∧ d = serialize draft rows

def Ends {α : Type} (F : FactoryContract) (s : State) (req : Request)
    (shown : α → Option SerializedDraft) : Except DraftError α → State → Prop :=
  outcome (Effect F s req) fun a s' => ∀ d, shown a = some d → Shown s' d

variable {α : Type} {F : FactoryContract} {cfg : FactoryConfig} {s : State} {req : Request}
  {Q : Except DraftError α → State → Prop}

section Rules

variable {f : Except DbError Unit → Service α}

theorem Effect.refl (h : s.chain.Sound F) : Effect F s req s := Effect.quiet h.refl

theorem ensures_newUUID {f : Uuid → Service α} (h : ∀ id, Ensures (exec F cfg) Q (f id) s) :
    Ensures (exec F cfg) Q (newUUID >>= f) s := fun c => h c.uuid

theorem ensures_now {f : Int → Service α} (h : ∀ t, Ensures (exec F cfg) Q (f t) s) :
    Ensures (exec F cfg) Q (now >>= f) s := fun c => h c.time

theorem ensures_random {n : Nat} {f : Bytes → Service α}
    (h : ∀ b, Ensures (exec F cfg) Q (f b) s) : Ensures (exec F cfg) Q (random n >>= f) s :=
  fun _ => h _

theorem ensures_query {q : Query} {f : Except DbError q.Answer → Service α}
    (herror : ∀ e, Ensures (exec F cfg) Q (f (.error e)) s)
    (hok : ∀ a order, q.answer s order = .ok a → Ensures (exec F cfg) Q (f (.ok a)) s) :
    Ensures (exec F cfg) Q (runQuery q >>= f) s := by
  intro c
  simp only [exec]
  split_ifs
  · cases hanswer : q.answer s c.order with
    | error e => exact herror e
    | ok a => exact hok a c.order hanswer
  · exact herror .failed

theorem ensures_write {w : Write} (hfailed : ∀ e, Ensures (exec F cfg) Q (f (.error e)) s)
    (hdone : ∀ s', s.write w = some s' → Ensures (exec F cfg) Q (f (.ok ())) s' ∧
      ∀ e, Ensures (exec F cfg) Q (f (.error e)) s') :
    Ensures (exec F cfg) Q (runWrite w >>= f) s := by
  intro c
  simp only [exec, State.settle]
  cases hw : s.write w with
  | none => exact hfailed .failed
  | some s' =>
    cases c.reply with
    | done => exact (hdone s' hw).1
    | failed => exact hfailed .failed
    | lost => exact (hdone s' hw).2 .failed

theorem ensures_persistTx {account : AccountRow} {members : List MemberRow}
    (hfailed : ∀ e, Ensures (exec F cfg) Q (f (.error e)) s)
    (hdone : ∀ db, persist s.accounts account members = some db →
      Ensures (exec F cfg) Q (f (.ok ())) { s with accounts := db } ∧
      ∀ e, Ensures (exec F cfg) Q (f (.error e)) { s with accounts := db }) :
    Ensures (exec F cfg) Q (persistTx account members >>= f) s := by
  intro c
  simp only [exec, State.settle]
  cases hdb : persist s.accounts account members with
  | none => exact hfailed .failed
  | some db =>
    simp only [Option.map_some]
    cases c.reply with
    | done => exact (hdone db hdb).1
    | failed => exact hfailed .failed
    | lost => exact (hdone db hdb).2 .failed

theorem ensures_factoryPredictAddress {params : ScVal} {f : Except CallError String → Service α}
    (h : s.chain.Sound F)
    (herror : ∀ e chain, s.chain.Extends F chain →
      Ensures (exec F cfg) Q (f (.error e)) (s.withChain chain))
    (hok : ∀ chain, s.chain.Extends F chain →
      Ensures (exec F cfg) Q (f (.ok (F.address params))) (s.withChain chain)) :
    Ensures (exec F cfg) Q (factoryPredictAddress params >>= f) s := by
  intro c
  simp only [exec]
  have hspec := ensures_iff.mp (ensures_predictAddress cfg params h) _ _
    (runs_drive _ c.rpc 0 s.chain)
  generalize drive (rpcExec F) c.rpc 0 (Factory.predictAddress cfg params) s.chain = out at hspec
  obtain ⟨answer, chain⟩ := out
  cases answer with
  | error e => exact herror e chain hspec
  | ok address =>
    obtain ⟨hchain, rfl⟩ := hspec
    exact hok chain hchain

theorem ensures_factoryDeploy {params : ScVal} {predicted : String}
    {f : Except CallError (String × Bool) → Service α} (h : s.chain.Sound F)
    (herror : ∀ e chain, s.chain.Extends F chain →
      Ensures (exec F cfg) Q (f (.error e)) { s with chain := chain, asked := s.asked ++ [params] })
    (hok : ∀ already chain, s.chain.Extends F chain →
      (∃ params' ∈ chain.created,
        F.address params' = predicted ∨ F.address params' = F.address params) →
      Ensures (exec F cfg) Q (f (.ok (predicted, already)))
        { s with chain := chain, asked := s.asked ++ [params] }) :
    Ensures (exec F cfg) Q (factoryDeploy params predicted >>= f) s := by
  intro c
  simp only [exec]
  have hspec := ensures_iff.mp (ensures_deploy cfg params predicted h) _ _ (runs_drive _ c.rpc 0 s.chain)
  generalize drive (rpcExec F) c.rpc 0 (Factory.deploy cfg params predicted) s.chain = out at hspec
  obtain ⟨answer, chain⟩ := out
  cases answer with
  | error e => exact herror e chain hspec
  | ok r =>
    obtain ⟨address, already⟩ := r
    obtain ⟨hchain, rfl, hcreated⟩ := hspec
    exact hok already chain hchain hcreated

end Rules

section Reads

theorem ensures_listMembers (draftID : Uuid) :
    Ensures (exec F cfg) (outcome (s = ·) fun rows _ => rows.Perm (s.membersOf draftID))
      (listMembers draftID) s := by
  refine ensures_query (fun e => rfl) fun rows order hanswer => ?_
  cases hanswer
  exact ⟨rfl, perm_insertionSort _ _⟩

theorem ensures_getDraftForCreator (draftID userID : Encoded Uuid) :
    Ensures (exec F cfg) (outcome (s = ·) fun draft _ => draft ∈ s.drafts.rows ∧
      draftID.decode = some draft.id) (getDraftForCreator draftID userID) s := by
  refine ensures_ofExcept_bind (fun did hdid => ?_) fun e _ => rfl
  refine ensures_ofExcept_bind (fun uid _ => ?_) fun e _ => rfl
  refine ensures_query (fun e => ?_) fun draft order hanswer => ?_
  · cases e <;> rfl
  obtain ⟨hmem, hkey⟩ := Table.mem_of_find (orError_eq_ok.mp hanswer)
  refine ⟨rfl, hmem, ?_⟩
  rw [(of_decide_eq_true hkey).1]
  exact orError_eq_ok.mp hdid

end Reads

variable {draft : DraftRow}

section Calls

variable {s₀ : State}

theorem ends_loadAndSerialize (heffect : Effect F s₀ req s) (hdraft : draft ∈ s.drafts.rows) :
    Ensures (exec F cfg) (Ends F s₀ req some) (loadAndSerialize draft) s := by
  refine (ensures_listMembers draft.id).bind_read heffect fun rows hperm => ⟨heffect, ?_⟩
  rintro d ⟨⟩
  exact ⟨draft, rows, ⟨hdraft, hperm⟩, rfl⟩

theorem ends_createDraft (h : s.chain.Sound F) (userID : Encoded Uuid) :
    Ensures (exec F cfg) (Ends F s req some) (createDraft userID) s := by
  have hrefl : Effect F s req s := .refl h
  refine ensures_ofExcept_bind (fun uid _ => ?_) fun e _ => hrefl
  refine ensures_random fun salt => ensures_random fun token => ?_
  refine ensures_now fun createdAt => ensures_newUUID fun id => ?_
  refine ensures_write (fun e => hrefl) fun s' hw => ?_
  have heffect : Effect F s req s' := .wrote h.refl hw ⟨rfl, rfl⟩
  refine ⟨?_, fun e => heffect⟩
  refine ensures_query (fun e => heffect) fun draft order hanswer => ?_
  exact ends_loadAndSerialize heffect (Table.mem_of_find (orError_eq_ok.mp hanswer)).1

theorem ends_getActiveDraft (h : s.chain.Sound F) (userID : Encoded Uuid) :
    Ensures (exec F cfg) (Ends F s req some) (getActiveDraft userID) s := by
  have hrefl : Effect F s req s := .refl h
  refine ensures_ofExcept_bind (fun uid _ => ?_) fun e _ => hrefl
  refine ensures_query (fun e => ?_) fun draft order hanswer => ?_
  · cases e <;> exact hrefl
  have hmem := mem_of_head? (orError_eq_ok.mp hanswer)
  rw [mem_insertionSort] at hmem
  exact ends_loadAndSerialize hrefl (mem_filter.mp hmem).1

theorem ends_getDraft (h : s.chain.Sound F) (draftID userID : Encoded Uuid) :
    Ensures (exec F cfg) (Ends F s req some) (getDraft draftID userID) s := by
  refine (ensures_getDraftForCreator draftID userID).bind_read (.refl h) fun draft hread => ?_
  exact ends_loadAndSerialize (.refl h) hread.1

theorem mem_updateDraft {id : Uuid} (set : DraftRow → DraftRow)
    (hset : ∀ r, (set r).id = r.id ∧ (set r).inviteToken = r.inviteToken)
    (hdraft : draft ∈ s.drafts.rows) (hid : draft.id = id) :
    set draft ∈ (s.updateDraft id set hset).drafts.rows :=
  Table.mem_updated.mpr (.inr ⟨draft, hdraft, decide_eq_true hid, rfl⟩)

theorem ends_updateThreshold (h : s.chain.Sound F) (draftID userID : Encoded Uuid) (threshold : Int) :
    Ensures (exec F cfg) (Ends F s (.updateThreshold draftID userID threshold) some)
      (updateThreshold draftID userID threshold) s := by
  have hrefl : Effect F s (.updateThreshold draftID userID threshold) s := .refl h
  refine (ensures_getDraftForCreator draftID userID).bind_read hrefl fun draft ⟨hmem, hid⟩ => ?_
  refine ensures_ofExcept_bind (fun _ _ => ?_) fun e _ => hrefl
  refine (ensures_listMembers draft.id).bind_read hrefl fun rows hperm => ?_
  refine ensures_ofExcept_bind (fun _ hbounds => ?_) fun e _ => hrefl
  refine ensures_write (fun e => hrefl) fun s' hw => ?_
  unfold requireThreshold at hbounds
  split_ifs at hbounds with hout
  rw [hperm.length_eq, not_or, not_lt, not_lt] at hout
  have heffect := Effect.wrote h.refl hw ⟨draftID, userID, threshold, rfl, hid, rfl, hout⟩
  refine ⟨⟨heffect, ?_⟩, fun e => heffect⟩
  rintro d ⟨⟩
  cases hw
  have hstored := mem_updateDraft (setThreshold (int32 threshold)) (fun _ => ⟨rfl, rfl⟩) hmem rfl
  exact ⟨_, rows, ⟨hstored, hperm⟩, rfl⟩

theorem ensures_addMemberToDraft (h : s.chain.Sound F) (draft : DraftRow)
    (member : DraftMultisigMember) (userID : Encoded Uuid) (source : MemberSource) :
    Ensures (exec F cfg) (outcome (Effect F s req) fun _ s' => s'.drafts = s.drafts)
      (addMemberToDraft draft member userID source) s := by
  have hrefl : Effect F s req s := .refl h
  refine ensures_ofExcept_bind (fun u hvalid => ?_) fun e _ => hrefl
  refine (ensures_listMembers draft.id).bind_read hrefl fun rows _ => ?_
  refine ensures_ofExcept_bind (fun _ hnew => ?_) fun e _ => hrefl
  refine ensures_newUUID fun id => ensures_now fun createdAt => ?_
  refine ensures_write (fun e => hrefl) fun s' hw => ?_
  have hrow : Allowed F s req (.insertMultisigDraftMember
      (memberRow id draft.id member source createdAt userID.decode)) := by
    rw [Allowed, domainMemberFromRow_memberRow]
    exact requireValid_eq_ok hvalid
  have heffect := Effect.wrote h.refl hw hrow
  obtain ⟨t, -, rfl⟩ := Option.map_eq_some_iff.mp hw
  exact ⟨⟨heffect, rfl⟩, fun e => heffect⟩

theorem ends_addMember (h : s.chain.Sound F) (draftID userID : Encoded Uuid)
    (member : DraftMultisigMember) :
    Ensures (exec F cfg) (Ends F s req some) (addMember draftID userID member) s := by
  have hrefl : Effect F s req s := .refl h
  refine (ensures_getDraftForCreator draftID userID).bind_read hrefl fun draft ⟨hmem, _⟩ => ?_
  refine ensures_ofExcept_bind (fun u _ => ?_) fun e _ => hrefl
  apply Ensures.bind_outcome (ensures_addMemberToDraft h draft member userID .creator)
  intro u s' heffect hdrafts
  rw [← hdrafts] at hmem
  exact ends_loadAndSerialize heffect hmem

theorem ensures_getDraftByInviteToken (token : String) :
    Ensures (exec F cfg) (outcome (s = ·) fun draft _ => draft ∈ s.drafts.rows)
      (getDraftByInviteToken token) s := by
  refine ensures_query (fun e => ?_) fun draft order hanswer => ?_
  · cases e <;> rfl
  have hmem := (Table.mem_of_find (orError_eq_ok.mp hanswer)).1
  change Ensures (exec F cfg) _ (ofExcept (requireOpen draft) >>= _) s
  refine ensures_ofExcept_bind (fun _ _ => ?_) fun e _ => rfl
  cases draft.expiresAt with
  | none => exact ⟨rfl, hmem⟩
  | some expiresAt =>
    refine ensures_now fun time => ?_
    exact ensures_ofExcept_bind (fun _ _ => ⟨rfl, hmem⟩) fun e _ => rfl

theorem ends_addMemberViaInvite (h : s.chain.Sound F) (token : String) (userID : Encoded Uuid)
    (member : DraftMultisigMember) :
    Ensures (exec F cfg) (Ends F s req fun _ => none) (addMemberViaInvite token userID member) s := by
  refine (ensures_getDraftByInviteToken token).bind_read (.refl h) fun draft _ => ?_
  apply Ensures.bind_outcome (ensures_addMemberToDraft h draft member userID .invite)
  intro u s' heffect _
  refine (ensures_listMembers draft.id).bind_read heffect fun rows _ => ?_
  exact ⟨heffect, fun d hd => by cases hd⟩

theorem ends_getPublicDraftByToken (h : s.chain.Sound F) (token : String) :
    Ensures (exec F cfg) (Ends F s req fun _ => none) (getPublicDraftByToken token) s := by
  refine (ensures_getDraftByInviteToken token).bind_read (.refl h) fun draft _ => ?_
  refine (ensures_listMembers draft.id).bind_read (.refl h) fun rows _ => ?_
  exact ⟨.refl h, fun d hd => by cases hd⟩

theorem ends_deleteMember (h : s.chain.Sound F) (draftID memberID userID : Encoded Uuid) :
    Ensures (exec F cfg) (Ends F s (.deleteMember draftID memberID userID) some)
      (deleteMember draftID memberID userID) s := by
  have hrefl : Effect F s (.deleteMember draftID memberID userID) s := .refl h
  refine (ensures_getDraftForCreator draftID userID).bind_read hrefl fun draft ⟨hmem, hid⟩ => ?_
  refine ensures_ofExcept_bind (fun _ _ => ?_) fun e _ => hrefl
  refine ensures_ofExcept_bind (fun mid hmid => ?_) fun e _ => hrefl
  refine ensures_write (fun e => hrefl) fun s' hw => ?_
  have heffect := Effect.wrote h.refl hw
    ⟨draftID, memberID, userID, rfl, hid, orError_eq_ok.mp hmid⟩
  cases hw
  exact ⟨ends_loadAndSerialize heffect hmem, fun e => heffect⟩

theorem ends_predictAddress (h : s.chain.Sound F) (draftID userID : Encoded Uuid) :
    Ensures (exec F cfg) (Ends F s req fun p => some p.result) (predictAddress draftID userID) s := by
  have hrefl : Effect F s req s := .refl h
  refine (ensures_getDraftForCreator draftID userID).bind_read hrefl fun draft ⟨hmem, _⟩ => ?_
  refine (ensures_listMembers draft.id).bind_read hrefl fun rows hperm => ?_
  refine ensures_ofExcept_bind (fun params hparams => ?_) fun e _ => hrefl
  refine ensures_factoryPredictAddress h (fun e chain hchain => .quiet hchain)
    fun chain hchain => ?_
  refine ensures_write (fun e => .quiet hchain) fun s' hw => ?_
  have heffect : Effect F s req s' :=
    .wrote hchain hw ⟨draft, rows, params, ⟨hmem, hperm⟩, rfl, hparams, rfl⟩
  refine ⟨⟨heffect, ?_⟩, fun e => heffect⟩
  rintro d ⟨⟩
  cases hw
  have hstored := mem_updateDraft (setPredicted (nullStr (F.address params))) (fun _ => ⟨rfl, rfl⟩) hmem rfl
  exact ⟨_, rows, ⟨hstored, hperm⟩, rfl⟩

def promised (F : FactoryContract) (draft : DraftRow) (params : ScVal) : String :=
  if strOrEmpty draft.predictedAddress = "" then F.address params
  else strOrEmpty draft.predictedAddress

structure Persists (s s' : State) (draft : DraftRow) (rows : List DraftMemberRow)
    (address : String) : Prop where
  persisted : ∃ account ids createdAt, account.threshold = draft.threshold.toNat ∧
    account.smartAccountAddress = address ∧
    ids.length = (rows.filter fun row => isDeployable (domainMemberFromRow row)).length ∧
    persist s.accounts account (List.zipWith (accountMember createdAt) ids
      (rows.filter fun row => isDeployable (domainMemberFromRow row))) = some s'.accounts

structure Deploys (F : FactoryContract) (s s' : State) (draft : DraftRow) (address : String) : Prop where
  deploys : ∃ rows params, s.Holds draft rows ∧ draftParams draft rows = .ok params ∧
    params ∈ s'.asked ∧ address = promised F draft params ∧
    (∃ params' ∈ s'.chain.created, F.address params' = address ∨
      F.address params' = F.address params) ∧ Persists s s' draft rows address

theorem ensures_predictedOrAsk (h : s.chain.Sound F) (draft : DraftRow) (params : ScVal) :
    Ensures (exec F cfg) (outcome (fun s' => ∃ chain, s.chain.Extends F chain ∧ s' = s.withChain chain)
      fun predicted _ => predicted = promised F draft params) (predictedOrAsk draft params) s := by
  unfold predictedOrAsk promised
  split_ifs with hnone
  · exact ensures_factoryPredictAddress h (fun e chain hchain => ⟨chain, hchain, rfl⟩)
      fun chain hchain => ⟨⟨chain, hchain, rfl⟩, rfl⟩
  · exact ⟨⟨s.chain, h.refl, rfl⟩, rfl⟩

theorem ensures_newUUIDs (n : Nat) {f : List Uuid → Service α}
    (h : ∀ ids, ids.length = n → Ensures (exec F cfg) Q (f ids) s) :
    Ensures (exec F cfg) Q (newUUIDs n >>= f) s := by
  induction n generalizing f with
  | zero => exact h [] rfl
  | succ n ih =>
    rw [newUUIDs, bind_assoc]
    refine ensures_newUUID fun id => ?_
    rw [bind_assoc]
    exact ih fun ids hlength => h (id :: ids) (congrArg (· + 1) hlength)

theorem ensures_persistDeployedAccount (draft : DraftRow) (rows : List DraftMemberRow)
    (address : String) :
    Ensures (exec F cfg) (outcome (fun s' => ∃ db, s' = { s with accounts := db })
      fun _ s' => Persists s s' draft rows address)
      (persistDeployedAccount draft.creatorUserID address draft.threshold draft.accountSaltHex rows)
      s := by
  refine ensures_newUUID fun id => ensures_now fun createdAt => ensures_now fun time => ?_
  refine ensures_newUUIDs _ fun ids hlength => ?_
  refine ensures_persistTx (fun e => ⟨s.accounts, rfl⟩) fun db hdb => ?_
  exact ⟨⟨⟨db, rfl⟩, ⟨_, ids, time, rfl, rfl, hlength, hdb⟩⟩, fun e => ⟨db, rfl⟩⟩

theorem ends_deployCollecting (h : s.chain.Sound F) (hmem : draft ∈ s.drafts.rows)
    (hstatus : draft.status = .collecting) :
    Ensures (exec F cfg) (outcome (Effect F s req) fun a s' =>
      Shown s' a.result ∧ Deploys F s s' draft a.address) (deployCollecting draft) s := by
  have hrefl : Effect F s req s := .refl h
  refine (ensures_listMembers draft.id).bind_read hrefl fun rows hperm => ?_
  have hholds : s.Holds draft rows := ⟨hmem, hperm⟩
  refine ensures_ofExcept_bind (fun params hparams => ?_) fun e _ => hrefl
  refine (ensures_predictedOrAsk h draft params).bind ?_ ?_
  · rintro predicted _ ⟨⟨chain₁, hchain₁, rfl⟩, rfl⟩
    have hasks : ∀ {chain accounts}, s.chain.Extends F chain → Asks F s
        { s with chain := chain, asked := s.asked ++ [params], accounts := accounts } params :=
      fun hchain => ⟨⟨draft, rows, hholds, hstatus, hparams⟩, hchain, rfl, rfl, rfl, .inl rfl⟩
    refine ensures_factoryDeploy hchain₁.sound (fun e chain hchain => ?_)
      fun already chain hchain hcreated => ?_
    · exact Effect.asks (hasks (hchain₁.trans hchain))
    refine (ensures_persistDeployedAccount draft rows _).bind ?_ ?_
    · rintro _ _ ⟨⟨db, rfl⟩, hpersisted⟩
      refine ensures_write (fun e => Effect.asks (hasks (hchain₁.trans hchain))) fun s' hw => ?_
      have hdeployed : Asks F s s' params := by
        cases hw
        exact ⟨⟨draft, rows, hholds, hstatus, hparams⟩, hchain₁.trans hchain, rfl, rfl, rfl,
          .inr ⟨draft.id, _, _, rfl⟩⟩
      cases hw
      refine ⟨⟨.asks hdeployed, ?_, ?_⟩, fun e => .asks hdeployed⟩
      · have hstored := mem_updateDraft (setDeployed (nullStr (promised F draft params))
          (nullStr (promised F draft params))) (fun _ => ⟨rfl, rfl⟩) hmem rfl
        exact ⟨_, rows, ⟨hstored, hperm⟩, rfl⟩
      · exact ⟨rows, params, hholds, hparams, mem_append_right _ mem_cons_self, rfl,
          hcreated, ⟨hpersisted.1⟩⟩
    · rintro e _ ⟨db, rfl⟩
      exact Effect.asks (hasks (hchain₁.trans hchain))
  · rintro e _ ⟨chain, hchain, rfl⟩
    exact Effect.quiet hchain

theorem ends_deploy (h : s.chain.Sound F) (draftID userID : Encoded Uuid) :
    Ensures (exec F cfg) (Ends F s req fun a => some a.result) (deploy draftID userID) s := by
  refine (ensures_getDraftForCreator draftID userID).bind_read (.refl h) fun draft ⟨hmem, _⟩ => ?_
  split_ifs with hstatus
  · refine (ensures_listMembers draft.id).bind_read (.refl h) fun rows hperm => ⟨.refl h, ?_⟩
    rintro d ⟨⟩
    exact ⟨draft, rows, ⟨hmem, hperm⟩, rfl⟩
  · have hcollecting : draft.status = .collecting := by
      cases hdraft : draft.status with
      | collecting => rfl
      | deployed => exact absurd hdraft hstatus
    have hends : Ensures (exec F cfg) (outcome (Effect F s req) _) (deployCollecting draft) s :=
      ends_deployCollecting h hmem hcollecting
    refine hends.mono fun out s' hout => ?_
    cases out with
    | error e => exact hout
    | ok a =>
      refine ⟨hout.1, ?_⟩
      rintro d ⟨⟩
      exact hout.2.1

theorem Ensures.answer {p : Service α} {shown : α → Option SerializedDraft} {answer : α → Answer}
    (hp : Ensures (exec F cfg) (Ends F s₀ req shown) p s)
    (hanswer : ∀ a, (answer a).shown = shown a) :
    Ensures (exec F cfg) (Ends F s₀ req Answer.shown) (p >>= fun a => return answer a) s := by
  refine hp.bind_outcome fun a s' heffect hshown => ?_
  refine ⟨heffect, fun d hd => hshown d ?_⟩
  rw [← hanswer]
  exact hd

theorem ends_body (h : s.chain.Sound F) (req : Request) :
    Ensures (exec F cfg) (Ends F s req Answer.shown) (body req) s := by
  cases req with
  | createDraft userID => exact Ensures.answer (ends_createDraft h userID) fun _ => rfl
  | getActiveDraft userID => exact Ensures.answer (ends_getActiveDraft h userID) fun _ => rfl
  | getDraft draftID userID => exact Ensures.answer (ends_getDraft h draftID userID) fun _ => rfl
  | updateThreshold draftID userID threshold =>
    exact Ensures.answer (ends_updateThreshold h draftID userID threshold) fun _ => rfl
  | addMember draftID userID member =>
    exact Ensures.answer (ends_addMember h draftID userID member) fun _ => rfl
  | addMemberViaInvite token userID member =>
    exact Ensures.answer (ends_addMemberViaInvite h token userID member) fun _ => rfl
  | deleteMember draftID memberID userID =>
    exact Ensures.answer (ends_deleteMember h draftID memberID userID) fun _ => rfl
  | predictAddress draftID userID =>
    exact Ensures.answer (ends_predictAddress h draftID userID) fun _ => rfl
  | deploy draftID userID => exact Ensures.answer (ends_deploy h draftID userID) fun _ => rfl
  | getPublicDraft token => exact Ensures.answer (ends_getPublicDraftByToken h token) fun _ => rfl

end Calls

section Histories

variable {allowed : State → Request → Prop} {s' : State} (calls : List Call)
  {out : Except DraftError Answer}

inductive Step (F : FactoryContract) (cfg : FactoryConfig) (allowed : State → Request → Prop) :
    State → State → Prop
  | call {s s' : State} {req : Request} {out : Except DraftError Answer} (hallowed : allowed s req)
      (hrun : Runs (exec F cfg) (body req) s out s') : Step F cfg allowed s s'
  | chain (s : State) (e : Factory.ChainEvent) : Step F cfg allowed s (s.withChain (s.chain.step e))

def Reachable (F : FactoryContract) (cfg : FactoryConfig) (allowed : State → Request → Prop) :
    State → Prop := Relation.ReflTransGen (Step F cfg allowed) State.empty

theorem Effect.sound (heffect : Effect F s req s') : s'.chain.Sound F := by
  cases heffect with
  | quiet hchain => exact hchain.sound
  | asks h => exact h.chain.sound
  | @wrote chain w s' hchain hw hallowed =>
    have hkept : s'.chain = chain := by
      cases w with
      | insertMultisigDraft row =>
        obtain ⟨t, -, rfl⟩ := Option.map_eq_some_iff.mp hw
        rfl
      | insertMultisigDraftMember row =>
        obtain ⟨t, -, rfl⟩ := Option.map_eq_some_iff.mp hw
        rfl
      | _ => exact (Option.some.inj hw) ▸ rfl
    rw [hkept]
    exact hchain.sound

theorem ends_of_runs (h : s.chain.Sound F)
    (hrun : Runs (exec F cfg) (body req) s out s') : Ends F s req Answer.shown out s' :=
  ensures_iff.mp (ends_body h req) out s' hrun

theorem effect_of_runs (h : s.chain.Sound F)
    (hrun : Runs (exec F cfg) (body req) s out s') : Effect F s req s' := by
  have hends := ends_of_runs h hrun
  cases out with
  | ok a => exact hends.1
  | error e => exact hends

theorem Reachable.invariant {I : State → Prop} (h : Reachable F cfg allowed s) (hempty : I .empty)
    (hchain : ∀ s chain, I s → I (s.withChain chain))
    (heffect : ∀ s s' req, I s → allowed s req → Effect F s req s' → I s') :
    s.chain.Sound F ∧ I s := by
  induction h with
  | refl => exact ⟨Chain.Sound.empty, hempty⟩
  | tail _ hstep ih =>
    obtain ⟨hsound, hI⟩ := ih
    cases hstep with
    | chain e => exact ⟨(hsound.step e).sound, hchain _ _ hI⟩
    | call hallowed hrun =>
      have hone := effect_of_runs hsound hrun
      exact ⟨hone.sound, heffect _ _ _ hI hallowed hone⟩

abbrev Call := Request × (Nat → Choice)

def Call.outcome (F : FactoryContract) (cfg : FactoryConfig) (call : Call) (s : State) :
    Except DraftError Answer × State := drive (exec F cfg) call.2 0 (body call.1) s

def replay (F : FactoryContract) (cfg : FactoryConfig) (calls : List Call) (s : State) : State :=
  calls.foldl (fun s call => (call.outcome F cfg s).2) s

def Admits (F : FactoryContract) (cfg : FactoryConfig) (allowed : State → Request → Prop) :
    List Call → State → Prop
  | [], _ => True
  | first :: calls, s => allowed s first.1 ∧ Admits F cfg allowed calls (first.outcome F cfg s).2

instance Admits.decidable [∀ s req, Decidable (allowed s req)] :
    (calls : List Call) → (s : State) → Decidable (Admits F cfg allowed calls s)
  | [], _ => .isTrue trivial
  | first :: calls, s =>
    have : Decidable (Admits F cfg allowed calls (first.outcome F cfg s).2) :=
      Admits.decidable calls _
    inferInstanceAs (Decidable (_ ∧ _))

theorem admits_any (s : State) : Admits F cfg (fun _ _ => True) calls s := by
  induction calls generalizing s with
  | nil => trivial
  | cons first calls ih => exact ⟨trivial, ih _⟩

theorem reachable_replay (h : Reachable F cfg allowed s)
    (hadmits : Admits F cfg allowed calls s) : Reachable F cfg allowed (replay F cfg calls s) := by
  induction calls generalizing s with
  | nil => exact h
  | cons first calls ih =>
    exact ih (h.tail (.call hadmits.1 (runs_drive (body first.1) first.2 0 s))) hadmits.2

end Histories

end LatchApi.Draft
