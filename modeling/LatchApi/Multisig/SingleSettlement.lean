import LatchApi.Multisig.UnderWay

namespace LatchApi.Multisig

open Lib Program Soroban Store Bundler List

variable {cfg : TxConfig}

section Sent

def HandsOn (entries : AuthEntries) (op : TxOp) : Prop :=
  ∀ tx, handedOn op = some tx → authEntriesOf tx = entries

theorem onlySends_handsOn (entries : AuthEntries) :
    OnlySends (HandsOn entries) entries where
  quiet op hop tx h := by
    cases op with
    | send | gaslessSubmit => cases hop
    | _ => cases h
  relayed mode wallet fn tx h := by
    cases h
    simp [authEntriesOf, gaslessTransaction]

theorem always_handsOn (cfg : TxConfig) (tx : Encoded TransactionEnvelope) (entries : AuthEntries) :
    Always (HandsOn entries) (submitWithBundler cfg tx entries) := by
  refine (always_submitWithBundler (onlySends_handsOn entries) cfg tx).mpr ?_
  refine fun fn _ => .inr fun seq data sent h => ?_
  cases h
  simp [authEntriesOf, sentTransaction, rebuiltTransaction]

theorem eq_of_mem_sent {c : Choice} {job : Job} {tx : SentTx} (h : tx ∈ job.sent cfg c) :
    tx = ⟨job.proposal.id, job.entries⟩ := by
  unfold Job.sent at h
  split at h
  · obtain ⟨sent, hsent, rfl⟩ := mem_map.mp h
    obtain ⟨e, he, hhanded⟩ := mem_filterMap.mp hsent
    have hall := (always_handsOn cfg job.txXdr job.entries).runWith c.rpc (h := [])
      fun _ hnil => nomatch hnil
    rw [hall e he sent hhanded]
  · cases h

theorem exec_chain (cfg : TxConfig) (op : MsOp) (s : State) (c : Choice) :
    (exec cfg op s c).2.chain.settled = s.chain.settled ∧
      ∀ tx ∈ (exec cfg op s c).2.chain.live, tx ∈ s.chain.live ∨
        ∃ job, op = .submitAuthEntries job ∧ tx = ⟨job.proposal.id, job.entries⟩ := by
  cases op with
  | write | registerTx =>
    simp only [exec, settle_chain, true_and]
    exact fun tx => .inl
  | simulate tx =>
    simp only [exec]
    cases c.simulation <;> exact ⟨rfl, fun tx => .inl⟩
  | submitAuthEntries job =>
    refine ⟨rfl, fun tx htx => ?_⟩
    rcases mem_append.mp htx with htx | htx
    · exact .inl htx
    · exact .inr ⟨job, rfl, eq_of_mem_sent htx⟩
  | _ => exact ⟨rfl, fun tx => .inl⟩

end Sent

def BuiltProposalArtifacts.nonceKey (built : BuiltProposalArtifacts) : Option NonceKey :=
  built.liveEntry.bind Multisig.nonceKey

@[simp] theorem nonceKey_withSignature (e : SorobanAuthorizationEntry) (signature : ScVal) :
    nonceKey (e.withSignature signature) = nonceKey e := by
  obtain ⟨credentials, invocation⟩ := e
  cases credentials <;> rfl

theorem nonceKey_of_assembled {X : Codec} {job : Job} {threshold : Nat}
    {rows : List ApprovalWithMember}
    (h : assembleExecution cfg X job.proposal.built threshold rows = .ok job.execution) :
    ∃ k, job.proposal.built.nonceKey = some k ∧
      k ∈ (SentTx.mk job.proposal.id job.entries).keys := by
  obtain ⟨-, -, entries, hentries, ⟨a⟩⟩ := assembleExecution_eq_ok h
  obtain ⟨k, hk⟩ : ∃ k, nonceKey a.entry = some k := by
    have haddress := a.hasSourceAccount_eq
    unfold nonceKey
    cases hcreds : a.entry.addressCredentials with
    | none => simp [SorobanAuthorizationEntry.hasSourceAccount, hcreds] at haddress
    | some creds => exact ⟨_, rfl⟩
  refine ⟨k, ?_, mem_filterMap.mpr ⟨_, mem_of_mem_head? a.head_eq,
    (nonceKey_withSignature _ _).trans hk⟩⟩
  rw [BuiltProposalArtifacts.nonceKey, liveEntry_of_assembled hentries a, Option.bind_some, hk]

def Request.executes : Request → Bool
  | .execute _ _ => true
  | _ => false

/-- A proposal is rebuilt only while no other unfinished request that executes has read it
and no transaction sent for it has settled or may still do so. -/
def rebuildsUnsent : MsSchedule := fun s others _ op =>
  match op with
  | .write (.updateMultisigProposalRebuild p _) =>
    (∀ u ∈ others, u.request.executes = true → u.active = true → readsRow u p = false) ∧
      ∀ tx ∈ s.chain.live ++ s.chain.settled, tx.proposalID ≠ p
  | _ => True

instance (s : State) (others : List MsThread) (t : MsThread) (op : MsOp) :
    Decidable (rebuildsUnsent s others t op) := by
  unfold rebuildsUnsent
  split <;> infer_instance

def SentTx.Spends (db : Db) (tx : SentTx) : Prop :=
  ∃ row ∈ db.proposals.rows, row.id = tx.proposalID ∧
    ∃ k, row.built.nonceKey = some k ∧ k ∈ tx.keys

structure Spent (c : MsRun) : Prop where
  held : Held (fun u => u.request.executes = true) c
  spends : ∀ tx ∈ c.state.chain.live ++ c.state.chain.settled, tx.Spends c.state.db
  disjoint : c.state.chain.settled.Pairwise fun a b => ∀ k ∈ a.keys, k ∉ b.keys

/-- The nonces of the simulations differ from each other and from the ones that were stored. -/
abbrev FreshNonces (s : State) (c : MsRun) : Prop :=
  (c.state.chain.issued ++ s.db.proposals.rows.filterMap (·.built.nonceKey)).Nodup

def Chain.SettlesOnce (chain : Chain) : Prop :=
  chain.settled.Pairwise fun a b => a.proposalID ≠ b.proposalID

theorem Spent.settlesOnce {c : MsRun} (h : Spent c) : c.state.chain.SettlesOnce := by
  refine h.disjoint.imp_of_mem fun {a b} ha hb hdisjoint hid => ?_
  obtain ⟨row, hrow, hrow_id, k, hk, hka⟩ := h.spends a (mem_append_right _ ha)
  obtain ⟨row', hrow', hrow_id', k', hk', hkb⟩ := h.spends b (mem_append_right _ hb)
  obtain rfl := Table.eq_of_pk_eq hrow hrow' (hrow_id.trans (hid.trans hrow_id'.symm))
  rw [hk] at hk'
  cases hk'
  exact hdisjoint k hka hkb

section Run

variable {X : Codec} {s : State} {before after : List MsThread} {t : MsThread} {op : MsOp}
  {next : MsRes op → Service Reply}

theorem spends_act (c : Choice) (hrest : t.rest = .call op next)
    (hallow : rebuildsUnsent s (before ++ after) t op) (hg : guard cfg X t.request t.history op)
    (hinv : Spent ⟨s, before ++ t :: after⟩) :
    ∀ tx ∈ (exec cfg op s c).2.chain.live ++ (exec cfg op s c).2.chain.settled,
      tx.Spends (exec cfg op s c).2.db := by
  obtain ⟨hsettled, hlive⟩ := exec_chain cfg op s c
  have hkeep : ∀ tx ∈ s.chain.live ++ s.chain.settled, tx.Spends (exec cfg op s c).2.db := by
    intro tx htx
    obtain ⟨row, hrow, hid, hspends⟩ := hinv.spends tx htx
    obtain ⟨row', hrow', hid', -, hbuilt | rfl⟩ := (exec_dbStep cfg op s c).row_after hrow
    · exact ⟨row', hrow', hid'.trans hid, hbuilt ▸ hspends⟩
    · exact absurd hid.symm (hallow.2 tx htx)
  intro tx htx
  rcases mem_append.mp htx with htx | htx
  · rcases hlive tx htx with htx | ⟨job, rfl, rfl⟩
    · exact hkeep tx (mem_append_left _ htx)
    obtain ⟨hwrites, hjob⟩ := hg
    obtain ⟨rows, -, hassembled⟩ := hjob.assembled
    obtain ⟨userID, proposalID, hrequest⟩ := hjob.executes
    have hexecutes : t.request.executes = true := by
      rw [hrequest]
      rfl
    obtain ⟨row, hrow, hid, hbuilt⟩ := hinv.held t (by simp) hexecutes
      (underWay_of_guard hrest ⟨hwrites, hjob⟩) job.proposal hjob.read.mem
    exact ⟨row, hrow, hid, hbuilt ▸ nonceKey_of_assembled hassembled⟩
  · rw [hsettled] at htx
    exact hkeep tx (mem_append_right _ htx)

theorem spent_act (c : Choice) (hrest : t.rest = .call op next)
    (hallow : rebuildsUnsent s (before ++ after) t op) (hg : guard cfg X t.request t.history op)
    (hinv : Spent ⟨s, before ++ t :: after⟩) :
    Spent ⟨(exec cfg op s c).2, before ++ t.advance op (exec cfg op s c).1 next :: after⟩ where
  held := by
    refine held_act c hrest hg id (fun p built hop => ?_) hinv.held
    subst hop
    exact hallow.1
  spends := spends_act c hrest hallow hg hinv
  disjoint := by
    rw [(exec_chain cfg op s c).1]
    exact hinv.disjoint

theorem step_eq_some {chain chain' : Chain} {e : ChainEvent} (h : chain.step e = some chain') :
    (∀ tx ∈ chain'.live ++ chain'.settled, tx ∈ chain.live ++ chain.settled) ∧
      (chain.settled.Pairwise (fun a b => ∀ k ∈ a.keys, k ∉ b.keys) →
        chain'.settled.Pairwise fun a b => ∀ k ∈ a.keys, k ∉ b.keys) := by
  cases e with
  | drop i =>
    cases h
    refine ⟨fun tx htx => ?_, id⟩
    rcases mem_append.mp htx with htx | htx
    · exact mem_append_left _ (mem_of_mem_eraseIdx htx)
    · exact mem_append_right _ htx
  | settle i =>
    simp only [Chain.step] at h
    split at h
    · cases h
    rename_i tx htx
    split at h
    · cases h
    rename_i hunused
    cases h
    refine ⟨fun tx' htx' => ?_, fun hdisjoint => ?_⟩
    · simp only [mem_append, mem_singleton] at htx' ⊢
      rcases htx' with htx' | htx' | rfl
      · exact .inl (mem_of_mem_eraseIdx htx')
      · exact .inr htx'
      · exact .inl (mem_of_getElem? htx)
    · refine pairwise_append.mpr ⟨hdisjoint, pairwise_singleton _ _, ?_⟩
      intro a ha b hb k hka hkb
      obtain rfl := mem_singleton.mp hb
      exact hunused (any_eq_true.mpr ⟨k, hkb, any_eq_true.mpr
        ⟨a, ha, decide_eq_true hka⟩⟩)

theorem Reachable.spent {c : MsRun} (hs : s.chain.live = [] ∧ s.chain.settled = [])
    (h : (multisigSystem cfg X).Reachable rebuildsUnsent s c) : Spent c := by
  refine System.Reachable.invariant (discipline cfg X) Spent (obeys_requestBody cfg X)
    (fun _ _ _ _ => trivial) ?_ ?_ ?_ ?_ h
  · exact ⟨by simp [Held], by simp [hs], by simp [hs]⟩
  · intro s ts req hinv
    exact ⟨held_arrive hinv.held, hinv.spends, hinv.disjoint⟩
  · intro s s' ts e hworld hinv
    obtain ⟨chain, hchain, rfl⟩ := Option.map_eq_some_iff.mp hworld
    obtain ⟨hsubset, hdisjoint⟩ := step_eq_some hchain
    exact ⟨hinv.held, fun tx htx => hinv.spends tx (hsubset tx htx), hdisjoint hinv.disjoint⟩
  · intro s before after t op next c hrest hallow hg hinv
    exact spent_act c hrest hallow hg hinv

/-- In every run in which a proposal is rebuilt only while no transaction for it is under way
or has settled, at most one of them settles. -/
theorem settlesOnce_of_rebuildsUnsent (cfg : TxConfig) (X : Codec) (s : State) (c : MsRun)
    (hs : s.chain.live = [] ∧ s.chain.settled = [])
    (h : (multisigSystem cfg X).Reachable rebuildsUnsent s c) : c.state.chain.SettlesOnce :=
  (Reachable.spent hs h).settlesOnce

end Run

namespace Sample

open Bundler.Sample

theorem settlesOnce_when_executed_twice : ∃ c : MsRun, c.state.chain.live.length = 1 ∧
    c.state.chain.settled.length = 1 ∧ c.state.chain.SettlesOnce := by
  have h : ∃ c ∈ (multisigSystem config noCodec).schedule rebuildsUnsent ⟨start, []⟩
        (.arrive (.execute 1 (some 1)) :: .arrive (.execute 1 (some 1)) ::
          acts 0 5 (answers 2) ++ acts 1 5 (answers 2) ++ [.world (.settle 0)]),
      c.state.chain.live.length = 1 ∧ c.state.chain.settled.length = 1 := by
    decide +kernel
  obtain ⟨c, hc, hlive, hsettled⟩ := h
  exact ⟨c, hlive, hsettled, settlesOnce_of_rebuildsUnsent config noCodec start c ⟨rfl, rfl⟩
    (System.schedule_sound _ _ _ hc)⟩

def pollLost (nonce : Int64) : Choice :=
  { answers nonce with rpc := rpcAnswers (.error .failed) }

theorem proposal_settles_twice : ∃ c,
    (multisigSystem config noCodec).Reachable System.anySchedule start c ∧
      FreshNonces start c ∧ ¬ c.state.chain.SettlesOnce := by
  have h : ∃ c ∈ (multisigSystem config noCodec).schedule System.anySchedule ⟨start, []⟩
        (.arrive (.execute 1 (some 1)) :: acts 0 5 (pollLost 2) ++ .world (.settle 0) ::
          .arrive (.refresh 1 (some 1)) :: acts 1 9 (answers 2) ++
          .arrive (.approveWebauthn 1 (some 1) (some 1) "00") :: acts 2 6 (answers 2) ++
          .arrive (.execute 1 (some 1)) :: acts 3 6 (answers 2) ++ [.world (.settle 0)]),
      FreshNonces start c ∧ c.state.chain.settled.map SentTx.proposalID = [1, 1] := by
    decide +kernel
  obtain ⟨c, hc, hfresh, hsettled⟩ := h
  refine ⟨c, System.schedule_sound _ _ _ hc, hfresh, fun honce => ?_⟩
  have hpairwise : [1, 1].Pairwise (fun a b : Uuid => a ≠ b) := by
    rw [← hsettled]
    exact pairwise_map.mpr honce
  simp at hpairwise

end Sample

end LatchApi.Multisig
