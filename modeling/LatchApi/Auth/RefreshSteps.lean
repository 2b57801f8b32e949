import LatchApi.Auth.Refresh

namespace LatchApi.Auth

open Lib Program List

abbrev History := Log Res

def Begun (tx : Nat) (h : History) : Prop := ⟨Op.beginTx, Except.ok tx⟩ ∈ h

def ReadLive (h : History) : Prop :=
  ∃ tx k row, ⟨Op.getRefreshToken tx k, Except.ok row⟩ ∈ h ∧ row.revoked = false

def RevokedIn (tx : Nat) (k : String) (h : History) : Prop :=
  ⟨Op.revokeRefreshToken (some tx) k, Except.ok ()⟩ ∈ h

def Committed (h : History) : Prop := ∃ tx, ⟨Op.commit tx, Except.ok ()⟩ ∈ h

def discipline (rawToken : String) : Discipline Op Res where
  legal _ _ := True
  guard h
    | .getRefreshToken _ k => k = hashToken rawToken
    | .revokeRefreshToken (some tx) k => k = hashToken rawToken ∧ Begun tx h ∧ ReadLive h
    | .revokeRefreshToken none k => k = hashToken rawToken
    | .insertRefreshToken _ _ _ => ReadLive h
    | .commit tx => Begun tx h ∧ RevokedIn tx (hashToken rawToken) h
    | _ => True

def Ends (rawToken : String) : Request → History → Answer → Prop
  | .rotate, h, _ => ReadLive h ∧ Committed h
  | .revoke, h, _ => ⟨Op.revokeRefreshToken none (hashToken rawToken), Except.ok ()⟩ ∈ h

variable {row : RefreshTokenRow}

variable {owner : String ⊕ String}

section Obeys

variable {svc : AuthService} {rawToken : String} {h : History} {tx : Nat}

theorem ReadLive.mono {h' : History} (hr : ReadLive h) (hh : h ⊆ h') : ReadLive h' := by
  obtain ⟨tx, k, row, hmem, hrow⟩ := hr
  exact ⟨tx, k, row, hh hmem, hrow⟩

theorem obeys_revokeOld (hb : Begun tx h)
    (hr : ⟨Op.getRefreshToken tx (hashToken rawToken), Except.ok row⟩ ∈ h) :
    Obeys (discipline rawToken) h (revokeOld tx (hashToken rawToken) row)
      (onOk fun h' _ => h ⊆ h' ∧ ReadLive h' ∧ RevokedIn tx (hashToken rawToken) h') := by
  unfold revokeOld
  by_cases hrev : row.revoked = true
  · rw [if_pos hrev]
    exact .fail trivial
  rw [if_neg hrev, obeys_perform_then]
  have hlive : ReadLive h := ⟨tx, _, row, hr, by simpa using hrev⟩
  refine ⟨trivial, fun now _ => ?_⟩
  by_cases hexp : row.expiresAt < now
  · rw [if_pos hexp]
    exact .fail trivial
  rw [if_neg hexp, obeys_perform_then]
  refine ⟨⟨rfl, mem_cons_of_mem _ hb, hlive.mono (subset_cons_self _ _)⟩,
    fun r _ => obeys_orFail_bind fun _ hr => ?_⟩
  rw [obeys_perform_then]
  refine ⟨trivial, fun raw _ => obeys_orFail_bind fun _ _ => .ok ⟨?_, ?_, ?_⟩⟩
  · exact fun e he => by simp [he]
  · exact hlive.mono fun e he => by simp [he]
  · subst hr
    exact mem_cons_of_mem _ mem_cons_self

theorem obeys_insertRotated {newHash : String} (hlive : ReadLive h) :
    Obeys (discipline rawToken) h (insertRotated svc tx newHash owner)
      (onOk fun h' _ => h ⊆ h') := by
  unfold insertRotated
  rw [obeys_perform_then]
  refine ⟨trivial, fun now _ => ?_⟩
  have hlive' : ReadLive (⟨Op.now, now⟩ :: h) := hlive.mono (subset_cons_self _ _)
  cases owner with
  | _ =>
    rw [obeys_perform_then]
    exact ⟨hlive', fun r _ => obeys_orFail fun _ _ e he => by simp [he]⟩

theorem obeys_replaceToken {newRawToken : String} (hb : Begun tx h) (hlive : ReadLive h)
    (hrev : RevokedIn tx (hashToken rawToken) h) :
    Obeys (discipline rawToken) h (replaceToken svc tx newRawToken owner)
      (onOk fun h' _ => ReadLive h' ∧ Committed h') := by
  refine (obeys_insertRotated hlive).bind_onOk fun h₁ _ hsub => ?_
  rw [obeys_perform_then]
  refine ⟨⟨hsub hb, hsub hrev⟩, fun r _ => obeys_orFail_bind fun _ hr => ?_⟩
  rw [obeys_perform_then]
  refine ⟨trivial, fun t _ => ?_⟩
  rw [obeys_perform_then]
  refine ⟨trivial, fun u _ => .ok ⟨?_, tx, ?_⟩⟩
  · exact hlive.mono fun e he => by simp [hsub he]
  · subst hr
    simp

theorem obeys_rotateIn (hb : Begun tx h) : Obeys (discipline rawToken) h (rotateIn svc rawToken tx)
      (onOk fun h' _ => ReadLive h' ∧ Committed h') := by
  unfold rotateIn
  rw [obeys_perform_then]
  refine ⟨rfl, fun r _ => ?_⟩
  cases r with
  | error e => exact .fail trivial
  | ok row =>
    refine (obeys_revokeOld (mem_cons_of_mem _ hb) mem_cons_self).bind_onOk
      fun h₁ newRawToken ⟨hsub, hlive, hrev⟩ => ?_
    refine obeys_ofExcept_bind fun owner _ => ?_
    exact obeys_replaceToken (hsub (mem_cons_of_mem _ hb)) hlive hrev

theorem obeys_rotateRefreshToken : Obeys (discipline rawToken) [] (rotateRefreshToken svc rawToken)
      (onOk fun h' _ => ReadLive h' ∧ Committed h') := by
  unfold rotateRefreshToken
  rw [obeys_perform_then]
  refine ⟨trivial, fun r _ => obeys_orFail_bind fun tx hr => ?_⟩
  subst hr
  rw [obeys_bind, obeys_attempt]
  refine (obeys_rotateIn mem_cons_self).mono fun h' out hout => ?_
  refine (obeys_perform_then ..).mpr ⟨trivial, fun _ _ => ?_⟩
  rw [obeys_ofExcept]
  cases out with
  | error e => trivial
  | ok tokens =>
    obtain ⟨hlive, tx, hcommit⟩ := hout
    exact ⟨hlive.mono (subset_cons_self _ _), tx, mem_cons_of_mem _ hcommit⟩

theorem obeys_body (req : Request) :
    Obeys (discipline rawToken) [] ((refreshSystem svc rawToken).body req)
      (onOk (Ends rawToken req)) := by
  cases req with
  | rotate => exact obeys_rotateRefreshToken.bind_onOk fun h' _ hend => .ok hend
  | revoke =>
    change Obeys _ _ (revokeRefreshToken rawToken >>= _) _
    unfold revokeRefreshToken
    rw [bind_assoc, obeys_perform_then]
    refine ⟨rfl, fun r _ => obeys_orFail_bind fun _ hr => .ok ?_⟩
    subst hr
    exact mem_cons_self

end Obeys

def Revoked (v : Option RefreshTokenRow) : Prop := ∃ row, v = some row ∧ row.revoked = true

def Dead (v : Option RefreshTokenRow) : Prop := ∀ row, v = some row → row.revoked = true

theorem Revoked.dead {v : Option RefreshTokenRow} (h : Revoked v) : Dead v := by
  obtain ⟨row, rfl, hrev⟩ := h
  intro row' heq
  cases heq
  exact hrev

theorem revoked_revoke (row : RefreshTokenRow) : Revoked (some row.revoke) := ⟨row.revoke, rfl, rfl⟩

abbrev RowStore := TxStore String RefreshTokenRow

inductive Change (k : String) (s : RowStore) : RowStore → Prop
  | same : Change k s s
  | begin : Change k s s.begin
  | revoke (tx : Nat) (row : RefreshTokenRow) : Change k s (s.write tx k (some row.revoke))
  | insert (tx : Nat) (k' : String) (row : RefreshTokenRow) (h : k' ≠ k) :
      Change k s (s.write tx k' (some row))
  | autocommit (row : RefreshTokenRow) : Change k s (s.autocommit k (some row.revoke))
  | close (tx : Nat) : Change k s (s.close tx)
  | commit (tx : Nat) : Change k s (s.commit tx)

def RevokesOnly (k : String) (s : RowStore) : Prop := ∀ w ∈ s.pending, w.key = k → Revoked w.value

variable {tx : Nat}

section Change

variable {k : String} {s s' : RowStore}

section

variable (h : Change k s s') (hs : RevokesOnly k s)

include h hs

theorem Change.revokesOnly : RevokesOnly k s' := by
  intro w hw hk
  cases h with
  | revoke tx row =>
    rcases mem_cons.mp hw with rfl | hw
    · exact revoked_revoke row
    · exact hs w hw hk
  | insert tx k' row hne =>
    rcases mem_cons.mp hw with rfl | hw
    · exact absurd hk hne
    · exact hs w hw hk
  | close tx => exact hs w (TxStore.mem_pending_close.mp hw).1 hk
  | commit tx => exact hs w (TxStore.mem_pending_commit.mp hw).1 hk
  | _ => exact hs w hw hk

theorem Change.committed : s'.committed k = s.committed k ∨ Revoked (s'.committed k) := by
  cases h with
  | autocommit row =>
    right
    simp only [TxStore.autocommit, Function.update_self]
    exact revoked_revoke row
  | commit tx =>
    rcases TxStore.view_committed_or s tx k with hv | ⟨w, hw, -, hk, hv⟩
    · exact .inl hv
    right
    change Revoked (s.view tx k)
    rw [hv]
    exact hs w hw hk
  | _ => exact .inl rfl

theorem Change.dead (hdead : Dead (s.committed k)) : Dead (s'.committed k) := by
  rcases h.committed hs with heq | hrev
  · rw [heq]
    exact hdead
  · exact hrev.dead

theorem Change.present (hp : s.committed k ≠ none) : s'.committed k ≠ none := by
  rcases h.committed hs with heq | ⟨row, heq, -⟩
  · rw [heq]
    exact hp
  · simp [heq]

end

theorem Change.next_le (h : Change k s s') : s.next ≤ s'.next := by
  cases h with
  | begin => exact Nat.le_succ _
  | _ => exact Nat.le_refl _

theorem Change.keeps (h : Change k s s') (hlt : tx < s.next) (ho : tx ∈ s'.opened)
    (hs : tx ∈ s.opened → ∃ w ∈ s.pending, w.tx = tx ∧ w.key = k) :
    ∃ w ∈ s'.pending, w.tx = tx ∧ w.key = k := by
  cases h with
  | same => exact hs ho
  | begin =>
    rcases mem_cons.mp ho with rfl | ho
    · exact absurd hlt (Nat.lt_irrefl _)
    · exact hs ho
  | autocommit row => exact hs ho
  | close tx' =>
    obtain ⟨ho, hne⟩ := mem_filter.mp ho
    obtain ⟨w, hw, htx, hk⟩ := hs ho
    refine ⟨w, TxStore.mem_pending_close.mpr ⟨hw, ?_⟩, htx, hk⟩
    rw [htx]
    exact of_decide_eq_true hne
  | commit tx' =>
    obtain ⟨ho, hne⟩ := mem_filter.mp ho
    obtain ⟨w, hw, htx, hk⟩ := hs ho
    refine ⟨w, TxStore.mem_pending_commit.mpr ⟨hw, ?_⟩, htx, hk⟩
    rw [htx]
    exact of_decide_eq_true hne
  | _ =>
    obtain ⟨w, hw, h⟩ := hs ho
    exact ⟨w, mem_cons_of_mem _ hw, h⟩

theorem view_present (hs : RevokesOnly k s) (hp : s.committed k ≠ none) (tx : Nat) :
    ∃ row, s.view tx k = some row := by
  have h : s.view tx k ≠ none := by
    refine TxStore.view_induction (P := (· ≠ none)) (fun w hw hk => ?_) hp tx
    obtain ⟨row, hv, -⟩ := hs w hw hk
    simp [hv]
  exact Option.ne_none_iff_exists'.mp h

theorem view_dead (hs : RevokesOnly k s) (hdead : Dead (s.committed k)) (tx : Nat) :
    Dead (s.view tx k) :=
  TxStore.view_induction (P := Dead) (fun w hw hk => (hs w hw hk).dead) hdead tx

end Change

section Exec

variable {rawToken k : String} {h : History} {op : Op} {s : Db} {ch : Choice}

theorem replied_change {α : Type} {s₀ : RowStore} {s' : Db} (hs : Change k s₀ s.store)
    (hs' : Change k s₀ s'.store) (reply : Reply) (a : α) :
    Change k s₀ (replied QueryError.failed reply a s s').2.store :=
  replied_cases (P := fun s : Db => Change k s₀ s.store) hs hs' _ reply a

theorem revoke_change (tx : Option Nat) (k : String) : Change k s.store (s.revoke tx k).store := by
  cases tx with
  | some tx =>
    simp only [Db.revoke]
    split
    · exact .revoke tx _
    · exact .same
  | none =>
    simp only [Db.revoke]
    split
    · exact .autocommit _
    · exact .same

theorem exec_change (hg : (discipline rawToken).guard h op)
    (hs : RevokesOnly (hashToken rawToken) s.store)
    (hp : ReadLive h → s.store.committed (hashToken rawToken) ≠ none) :
    Change (hashToken rawToken) s.store (exec op s ch).2.store := by
  cases op with
  | beginTx => exact replied_change .same .begin ch.reply _
  | getRefreshToken tx k =>
    simp only [exec]
    split <;> exact .same
  | revokeRefreshToken tx k =>
    cases tx with
    | some tx =>
      obtain ⟨rfl, -, -⟩ := hg
      simp only [exec]
      split
      · exact replied_change .same (revoke_change (some tx) _) ch.reply _
      · exact .same
    | none =>
      obtain rfl : k = hashToken rawToken := hg
      exact replied_change .same (revoke_change none _) ch.reply _
  | insertRefreshToken tx k row =>
    simp only [exec]
    split
    · rename_i hfree
      refine replied_change .same (.insert tx k row ?_) ch.reply _
      rintro rfl
      obtain ⟨row', hv⟩ := view_present hs (hp hg) tx
      simp [hv] at hfree
    · exact .same
  | commit tx =>
    simp only [exec]
    split
    · exact replied_change (.close tx) (.commit tx) ch.reply _
    · exact .same
  | rollback tx => exact .close tx
  | _ => exact .same

theorem exec_get
    (h : (exec (.getRefreshToken tx k) s ch).1 = .ok row) : s.store.view tx k = some row := by
  simp only [exec] at h
  split at h
  · rename_i hv
    rw [hv, Except.ok.inj h]
  · cases h
  · cases h

theorem exec_begin (h : (exec .beginTx s ch).1 = .ok tx) :
    tx < (exec .beginTx s ch).2.store.next := by
  obtain ⟨rfl, hs'⟩ := replied_ok h
  exact lt_of_lt_of_eq (Nat.lt_succ_self _) (congrArg (fun s : Db => s.store.next) hs').symm

theorem exec_revoke (hv : s.store.view tx k = some row)
    (h : (exec (.revokeRefreshToken (some tx) k) s ch).1 = .ok ()) :
    ∃ w ∈ (exec (.revokeRefreshToken (some tx) k) s ch).2.store.pending, w.tx = tx ∧ w.key = k := by
  have hs' : (exec (.revokeRefreshToken (some tx) k) s ch).2 = s.revoke (some tx) k :=
    (replied_if_ok h).2
  rw [hs']
  simp only [Db.revoke, hv]
  exact ⟨⟨tx, k, some row.revoke⟩, mem_cons_self, rfl, rfl⟩

theorem exec_autocommit (h : (exec (.revokeRefreshToken none k) s ch).1 = .ok ()) :
    Dead ((exec (.revokeRefreshToken none k) s ch).2.store.committed k) := by
  obtain ⟨-, hs'⟩ := replied_ok h
  have hs'' : (exec (.revokeRefreshToken none k) s ch).2 = s.revoke none k := hs'
  rw [hs'']
  simp only [Db.revoke]
  split
  · rename_i row hv
    simp only [TxStore.autocommit, Function.update_self]
    exact (revoked_revoke row).dead
  · rename_i hv
    intro row hrow
    rw [hv] at hrow
    cases hrow

theorem exec_commit (h : (exec (.commit tx) s ch).1 = .ok ()) :
    tx ∈ s.store.opened ∧ (exec (.commit tx) s ch).2.store = s.store.commit tx := by
  obtain ⟨ho, hs'⟩ := replied_if_ok h
  exact ⟨ho, congrArg Db.store hs'⟩

end Exec

end LatchApi.Auth
