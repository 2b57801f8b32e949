import LatchApi.Auth.RefreshSteps

/-!
How often one refresh token is rotated. The read of a rotation and its commit are separate
statements and the update does not ask whether the row is still unrevoked, so two rotations that
have both read the row both succeed.
-/

namespace LatchApi.Auth

open Lib Program List Lib.System

abbrev RefreshConfig := Config Request Op Res RefreshError Answer Db

def Settled (k : String) (h : History) : Prop :=
  Committed h ∨ ⟨Op.revokeRefreshToken none k, Except.ok ()⟩ ∈ h

structure Sound (k : String) (c : RefreshConfig) : Prop where
  revokesOnly : RevokesOnly k c.state.store
  present : ∀ t ∈ c.threads, ReadLive t.history → c.state.store.committed k ≠ none
  fresh : ∀ t ∈ c.threads, ∀ tx, Begun tx t.history ∨ RevokedIn tx k t.history →
    tx < c.state.store.next
  held : ∀ t ∈ c.threads, ∀ tx, RevokedIn tx k t.history → tx ∈ c.state.store.opened →
    ∃ w ∈ c.state.store.pending, w.tx = tx ∧ w.key = k
  settled : ∀ t ∈ c.threads, Settled k t.history → Dead (c.state.store.committed k)

variable {s : Db} {ts : List RefreshThread} {t : RefreshThread}

section Runs

variable {svc : AuthService} {rawToken : String}

theorem Sound.change {k : String} {s' : Db} (h : Sound k ⟨s, ts⟩)
    (hchange : Change k s.store s'.store) : Sound k ⟨s', ts⟩ where
  revokesOnly := hchange.revokesOnly h.revokesOnly
  present t ht hread := hchange.present h.revokesOnly (h.present t ht hread)
  fresh t ht tx hb := Nat.lt_of_lt_of_le (h.fresh t ht tx hb) hchange.next_le
  held t ht tx hr ho := hchange.keeps (h.fresh t ht tx (.inr hr)) ho (h.held t ht tx hr)
  settled t ht hs := hchange.dead h.revokesOnly (h.settled t ht hs)

theorem Sound.arrive {k : String} (h : Sound k ⟨s, ts⟩) (req : Request) :
    Sound k ⟨s, ts ++ [⟨req, [], (refreshSystem svc rawToken).body req⟩]⟩ := by
  refine ⟨h.revokesOnly, forall_arrived h.present ?_, forall_arrived h.fresh ?_,
    forall_arrived h.held ?_, forall_arrived h.settled ?_⟩
  · simp [ReadLive]
  · simp [Begun, RevokedIn]
  · simp [RevokedIn]
  · simp [Settled, Committed]

theorem Sound.act {before after : List RefreshThread} {op : Op}
    {next : Res op → Program Op Res RefreshError Answer} (ch : Choice)
    (hg : (discipline rawToken).guard t.history op)
    (h : Sound (hashToken rawToken) ⟨s, before ++ t :: after⟩) :
    Sound (hashToken rawToken)
      ⟨(exec op s ch).2, before ++ t.advance op (exec op s ch).1 next :: after⟩ := by
  have ht : t ∈ before ++ t :: after := by simp
  have hchange : Change (hashToken rawToken) s.store (exec op s ch).2.store :=
    exec_change hg h.revokesOnly (h.present t ht)
  have h' := h.change hchange
  refine ⟨h'.revokesOnly, forall_advanced h'.present (fun _ h => h) ?_,
    forall_advanced h'.fresh (fun _ h => h) ?_,
    forall_advanced h'.held (fun _ h => h) ?_,
    forall_advanced h'.settled (fun _ h => h) ?_⟩
  · -- a row just read is there
    rintro ⟨tx, k, row, hmem, hlive⟩
    rcases Thread.mem_advance hmem with ⟨rfl, heq⟩ | hmem
    · have hv := exec_get heq
      obtain rfl : k = hashToken rawToken := hg
      refine hchange.present h.revokesOnly fun hnone => ?_
      have hdead := view_dead h.revokesOnly (by simp [Dead, hnone]) tx row hv
      simp [hlive] at hdead
    · exact h'.present t ht ⟨tx, k, row, hmem, hlive⟩
  · rintro tx (hb | hr)
    · rcases Thread.mem_advance hb with ⟨rfl, heq⟩ | hb
      · exact exec_begin heq
      · exact h'.fresh t ht tx (.inl hb)
    · rcases Thread.mem_advance hr with ⟨rfl, -⟩ | hr
      · exact h'.fresh t ht tx (.inl hg.2.1)
      · exact h'.fresh t ht tx (.inr hr)
  · intro tx hr ho
    rcases Thread.mem_advance hr with ⟨rfl, heq⟩ | hr
    · obtain ⟨row, hv⟩ := view_present h.revokesOnly (h.present t ht hg.2.2) tx
      exact exec_revoke hv heq
    · exact h'.held t ht tx hr ho
  · -- the commit makes the transaction's own revocation the committed row
    rintro (⟨tx, hc⟩ | hr)
    · rcases Thread.mem_advance hc with ⟨rfl, heq⟩ | hc
      · obtain ⟨ho, hs'⟩ := exec_commit heq
        obtain ⟨w, hw, htx, hk⟩ := h.held t ht tx hg.2 ho
        obtain ⟨w', hw', hk', hv⟩ := TxStore.view_of_pending hw htx hk
        rw [hs']
        change Dead (s.store.view tx (hashToken rawToken))
        rw [hv]
        exact (h.revokesOnly w' hw' hk').dead
      · exact h'.settled t ht (.inl ⟨tx, hc⟩)
    · rcases Thread.mem_advance hr with ⟨rfl, heq⟩ | hr
      · exact exec_autocommit heq
      · exact h'.settled t ht (.inr hr)

def start (rows : String → Option RefreshTokenRow) (time : Int) : Db := ⟨⟨rows, [], [], 0⟩, time⟩

variable {rows : String → Option RefreshTokenRow} {time : Int} {c c' : RefreshConfig}
  {allow : System.Schedule Request Op Res RefreshError Answer Db}

section

variable (hc : (refreshSystem svc rawToken).Reachable allow (start rows time) c)

include hc

theorem sound_of_reachable : Sound (hashToken rawToken) c := by
  refine Reachable.invariant (fun _ => discipline rawToken) (Sound (hashToken rawToken))
    (fun req => (obeys_body req).mono fun _ _ _ => trivial) (fun _ _ _ _ => trivial) ?_ ?_ ?_ ?_ hc
  · constructor <;> simp [start, RevokesOnly]
  · exact fun s ts req h => h.arrive req
  · intro s s' ts e he h
    cases e with
    | tick d =>
      cases he
      exact h.change .same
    | abort tx =>
      cases he
      exact h.change (.close tx)
  · exact fun s before after t op next ch _ _ hg h => h.act ch hg

theorem ends_of_reachable (ht : t ∈ c.threads) (hs : t.succeeded = true) :
    ∃ a, Ends rawToken t.request t.history a := by
  obtain ⟨a, ha⟩ := Thread.exists_of_succeeded hs
  exact ⟨a, hc.ended (fun _ => discipline rawToken) obeys_body (fun _ _ _ _ => trivial) ht ha⟩

theorem settled_of_succeeded (ht : t ∈ c.threads) (hs : t.succeeded = true) :
    Settled (hashToken rawToken) t.history := by
  obtain ⟨a, hend⟩ := ends_of_reachable hc ht hs
  cases hreq : t.request with
  | rotate =>
    rw [hreq] at hend
    exact .inl hend.2
  | revoke =>
    rw [hreq] at hend
    exact .inr hend

def Rotated (t : RefreshThread) : Prop := t.request = .rotate ∧ t.succeeded = true

theorem readLive_of_rotated (ht : t ∈ c.threads) (hr : Rotated t) : ReadLive t.history := by
  obtain ⟨a, hend⟩ := ends_of_reachable hc ht hr.2
  rw [hr.1] at hend
  exact hend.1

omit hc in
theorem not_readLive_advance {op : Op} {next : Res op → Program Op Res RefreshError Answer}
    {ch : Choice} (hg : (discipline rawToken).guard t.history op)
    (hs : RevokesOnly (hashToken rawToken) s.store)
    (hdead : Dead (s.store.committed (hashToken rawToken)))
    (hr : ReadLive (t.advance op (exec op s ch).1 next).history) : ReadLive t.history := by
  obtain ⟨tx, k, row, hmem, hlive⟩ := hr
  rcases Thread.mem_advance hmem with ⟨rfl, heq⟩ | hmem
  · obtain rfl : k = hashToken rawToken := hg
    have hrev := view_dead hs hdead tx row (exec_get heq)
    simp [hlive] at hrev
  · exact ⟨tx, k, row, hmem, hlive⟩

theorem guard_of_reachable (ht : t ∈ c.threads) {op : Op}
    {next : Res op → Program Op Res RefreshError Answer} (hrest : t.rest = .call op next) :
    (discipline rawToken).guard t.history op :=
  hc.guard (fun _ => discipline rawToken) obeys_body (fun _ _ _ _ => trivial) ht hrest

theorem dead_of_run
    (hdead : Dead (c.state.store.committed (hashToken rawToken)))
    (hrun : Relation.ReflTransGen ((refreshSystem svc rawToken).Step allow) c c') :
    Dead (c'.state.store.committed (hashToken rawToken)) ∧
      ∀ i t, c.threads.length ≤ i → c'.threads[i]? = some t → ¬ ReadLive t.history := by
  refine Reachable.later
    (fun s => Dead (s.store.committed (hashToken rawToken))) (fun t => ¬ ReadLive t.history)
    ?_ ?_ ?_ hc hdead hrun
  · simp [ReadLive]
  · intro s s' e he h
    cases e with
    | _ =>
      cases he
      exact h
  · intro s before after t op next ch hreach hrest h
    have ht : t ∈ before ++ t :: after := by simp
    have hsound := sound_of_reachable hreach
    have hg := guard_of_reachable hreach ht hrest
    have hchange : Change (hashToken rawToken) s.store (exec op s ch).2.store :=
      exec_change hg hsound.revokesOnly (hsound.present t ht)
    exact ⟨hchange.dead hsound.revokesOnly h,
      fun hold hread => hold (not_readLive_advance hg hsound.revokesOnly h hread)⟩

end

def liveRead : Event Res → Bool
  | ⟨.getRefreshToken _ _, .ok row⟩ => !row.revoked
  | _ => false

def committing : Event Res → Bool
  | ⟨.commit _, .ok _⟩ => true
  | _ => false

theorem readLive_iff (h : History) : (∃ e ∈ h, liveRead e = true) ↔ ReadLive h := by
  constructor
  · rintro ⟨⟨op, r⟩, he, hlive⟩
    unfold liveRead at hlive
    split at hlive
    · rename_i tx k row heq
      obtain ⟨rfl, heq⟩ := Sigma.mk.inj heq
      obtain rfl := eq_of_heq heq
      exact ⟨tx, k, row, he, by simpa using hlive⟩
    · cases hlive
  · rintro ⟨tx, k, row, he, hlive⟩
    exact ⟨_, he, by simp [liveRead, hlive]⟩

theorem committed_iff (h : History) : (∃ e ∈ h, committing e = true) ↔ Committed h := by
  constructor
  · rintro ⟨⟨op, r⟩, he, hc⟩
    unfold committing at hc
    split at hc
    · rename_i tx u heq
      obtain ⟨rfl, heq⟩ := Sigma.mk.inj heq
      obtain rfl := eq_of_heq heq
      exact ⟨tx, he⟩
    · cases hc
  · rintro ⟨tx, he⟩
    exact ⟨_, he, rfl⟩

instance (h : History) : Decidable (ReadLive h) := decidable_of_iff _ (readLive_iff h)

instance (h : History) : Decidable (Committed h) := decidable_of_iff _ (committed_iff h)

def Rotating (t : RefreshThread) : Prop :=
  t.active = true ∧ ReadLive t.history ∧ ¬ Committed t.history

instance (t : RefreshThread) : Decidable (Rotating t) := by unfold Rotating; infer_instance

/-- No request reads the row while a rotation is under way. -/
def readsAlone : System.Schedule Request Op Res RefreshError Answer Db := fun s others t op =>
  rowLocks s others t op ∧
    match op with
    | .getRefreshToken _ _ => ∀ u ∈ others, ¬ Rotating u
    | _ => True

instance (op : Op) (s : Db) (others : List RefreshThread) (t : RefreshThread) :
    Decidable (readsAlone s others t op) :=
  match op with
  | .getRefreshToken _ _ => inferInstanceAs (Decidable (_ ∧ _))
  | .beginTx | .revokeRefreshToken _ _ | .insertRefreshToken _ _ _ | .commit _ | .rollback _ | .now
  | .randRead _ => inferInstanceAs (Decidable (_ ∧ True))

def Claims (t : RefreshThread) : Prop :=
  ReadLive t.history ∧ (t.active = true ∨ t.succeeded = true)

theorem claims_unique
    (hc : (refreshSystem svc rawToken).Reachable readsAlone (start rows time) c) :
    c.threads.Pairwise fun t u => ¬ (Claims t ∧ Claims u) := by
  have hsymm : ∀ {t u : RefreshThread}, ¬ (Claims t ∧ Claims u) → ¬ (Claims u ∧ Claims t) :=
    fun h hut => h hut.symm
  induction hc with
  | refl => exact .nil
  | tail run step ih =>
    have hsound := sound_of_reachable run
    cases step with
    | arrive s ts req =>
      refine pairwise_arrived ih fun t _ => ?_
      simp [Claims, ReadLive]
    | world s s' ts e he => exact ih
    | act s before after t op next ch hrest hallow =>
      have ht : t ∈ before ++ t :: after := by simp
      have hg := guard_of_reachable run ht hrest
      refine pairwise_advanced hsymm ih fun u hu htu hboth => ?_
      obtain ⟨⟨hread, -⟩, hu'⟩ := hboth
      have hmem : u ∈ before ++ t :: after := mem_of_others hu
      by_cases hold : ReadLive t.history
      · exact htu ⟨⟨hold, .inl (Thread.active_of_rest hrest)⟩, hu'⟩
      -- the read is new, so the row is live; but the other call has killed it or is under way
      have hlive : ¬ Dead (s.store.committed (hashToken rawToken)) := fun hdead =>
        hold (not_readLive_advance hg hsound.revokesOnly hdead hread)
      have hunsettled : ¬ Settled (hashToken rawToken) u.history := fun hs =>
        hlive (hsound.settled u hmem hs)
      rcases hu'.2 with hactive | hdone
      · obtain ⟨tx, k, row, hin, hrow⟩ := hread
        rcases Thread.mem_advance hin with ⟨rfl, -⟩ | hin
        · exact hallow.2 u hu ⟨hactive, hu'.1, fun h => hunsettled (.inl h)⟩
        · exact hold ⟨tx, k, row, hin, hrow⟩
      · exact hunsettled (settled_of_succeeded run hmem hdone)

def RevocationCommitted (rawToken : String) (c : RefreshConfig) : Prop :=
  (∃ t ∈ c.threads, t.request = .revoke ∧ t.succeeded = true) ∨
    Revoked (c.state.store.committed (hashToken rawToken))

theorem dead_of_revocation
    (hc : (refreshSystem svc rawToken).Reachable allow (start rows time) c)
    (h : RevocationCommitted rawToken c) :
    Dead (c.state.store.committed (hashToken rawToken)) := by
  rcases h with ⟨t, ht, -, hs⟩ | h
  · exact (sound_of_reachable hc).settled t ht (settled_of_succeeded hc ht hs)
  · exact h.dead

/-- In a run in which no request reads the row while a rotation is under way, one call at most
returns a pair; and in every run, none does that arrives after a revocation. -/
theorem rotates_once_of_readsAlone (svc : AuthService) (rawToken : String)
    (rows : String → Option RefreshTokenRow) (time : Int) (c : RefreshConfig)
    (hc : (refreshSystem svc rawToken).Reachable rowLocks (start rows time) c) :
    ((refreshSystem svc rawToken).Reachable readsAlone (start rows time) c →
      c.threads.Pairwise fun t u => ¬ (Rotated t ∧ Rotated u)) ∧
    ∀ c', Relation.ReflTransGen ((refreshSystem svc rawToken).Step rowLocks) c c' →
      RevocationCommitted rawToken c →
      ∀ i t, c.threads.length ≤ i → c'.threads[i]? = some t → ¬ Rotated t := by
  refine ⟨fun halone => ?_, fun c' hrun hrev i t hi ht hrot => ?_⟩
  · have hclaims : ∀ t ∈ c.threads, Rotated t → Claims t := fun t ht hr =>
      ⟨readLive_of_rotated halone ht hr, .inr hr.2⟩
    refine (claims_unique halone).imp_of_mem fun ht hu h hrot => ?_
    exact h ⟨hclaims _ ht hrot.1, hclaims _ hu hrot.2⟩
  · obtain ⟨-, hlater⟩ := dead_of_run hc (dead_of_revocation hc hrev) hrun
    have hreach := Relation.ReflTransGen.trans hc hrun
    exact hlater i t hi ht (readLive_of_rotated hreach (mem_of_getElem? ht) hrot)

end Runs

namespace Sample

def service : AuthService := ⟨fun _ _ _ => [], "secret", 60, 60⟩

def oneToken (k : String) : Option RefreshTokenRow :=
  if k = hashToken "raw" then some ⟨some "user-42", none, 1000, false⟩ else none

abbrev Moves := List (System.Move Request Choice Outside)

def acts (i n : Nat) (bytes : Bytes) : Moves := List.replicate n (.act i ⟨.done, bytes⟩)

def bothRead : Moves :=
  [.arrive .rotate, .arrive .rotate] ++ acts 0 2 [] ++ acts 1 2 [] ++ acts 0 9 [1] ++ acts 1 9 [2]

theorem both_rotate : ∃ c, (refreshSystem service "raw").Reachable rowLocks (start oneToken 0) c ∧
      c.threads.map Thread.succeeded = [true, true] ∧
      ∀ t ∈ c.threads, t.request = .rotate := by
  refine exists_reachable bothRead ?_
  decide +kernel

def oneAfterTheOther : Moves :=
  [.arrive .rotate, .arrive .rotate] ++ acts 0 11 [1] ++ acts 1 3 [2]

theorem second_rotation_fails :
    ∃ c, (refreshSystem service "raw").Reachable readsAlone (start oneToken 0) c ∧
      c.threads.map Thread.succeeded = [true, false] ∧
      c.threads.Pairwise fun t u => ¬ (Rotated t ∧ Rotated u) := by
  refine exists_reachable_and oneAfterTheOther ?_ fun c hrun _ =>
    (rotates_once_of_readsAlone service "raw" oneToken 0 c
      (Reachable.mono (fun _ _ _ _ h => h.1) hrun)).1 hrun
  decide +kernel

end Sample

end LatchApi.Auth
