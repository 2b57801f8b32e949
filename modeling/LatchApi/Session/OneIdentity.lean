import LatchApi.Session.Replace

namespace LatchApi.Session

open Lib Program List Option Lib.System
open Store (Uuid DbError)

inductive Change (c : String) (h : History) (s : RowStore) : RowStore → Prop
  | same : Change c h s s
  | begin : Change c h s s.begin
  | remove (tx : Nat) (ks : List Key) (hb : Begun tx h) (hks : ∀ k ∈ ks, k.2 ≠ c) :
      Change c h s (s.remove tx ks)
  | write (tx : Nat) (k : Key) (row : ProvedRow) (hb : Begun tx h) (hk : k.2 = c) :
      Change c h s (s.write tx k (some row))
  | close (tx : Nat) : Change c h s (s.close tx)
  | commit (tx : Nat) (ho : tx ∈ s.opened) (hs : Scanned tx h) (hc : Cleared tx h)
      (hi : Stored tx h) : Change c h s (s.commit tx)

variable {h : History}

section Change

variable {c : String} {s s' : RowStore} {tx : Nat}

theorem Change.opened (hchange : Change c h s s') (hlt : tx < s.next) (ho : tx ∈ s'.opened) :
    tx ∈ s.opened := by
  cases hchange with
  | same => exact ho
  | begin =>
    rcases mem_cons.mp ho with rfl | ho
    · exact absurd hlt (Nat.lt_irrefl _)
    · exact ho
  | remove => exact ho
  | write => exact ho
  | _ => exact (mem_filter.mp ho).1

theorem Change.next_le (hchange : Change c h s s') : s.next ≤ s'.next := by
  cases hchange with
  | begin => exact Nat.le_succ _
  | _ => exact Nat.le_refl _

theorem Change.committed (hchange : Change c h s s') : s'.committed = s.committed ∨
    ∃ tx, s' = s.commit tx ∧ tx ∈ s.opened ∧ Cleared tx h ∧ Stored tx h := by
  cases hchange with
  | commit tx ho _ hc hi => exact .inr ⟨tx, rfl, ho, hc, hi⟩
  | _ => exact .inl rfl

theorem Change.view (hchange : Change c h s s') (ho : tx ∈ s'.opened) (k : Key) :
    s'.view tx k = s.view tx k ∨
      (Begun tx h ∧ (k.2 ≠ c ∧ s'.view tx k = none ∨ k.2 = c ∧ s'.view tx k ≠ none)) ∨
      ∃ tx', tx' ∈ s.opened ∧ Scanned tx' h ∧ Cleared tx' h ∧ Stored tx' h ∧
        s'.view tx k = s.view tx' k := by
  cases hchange with
  | remove tx' ks hb hks =>
    by_cases htx : tx' = tx
    · subst htx
      by_cases hk : k ∈ ks
      · exact .inr (.inl ⟨hb, .inl ⟨hks k hk, by rw [TxStore.view_remove, if_pos hk]⟩⟩)
      · exact .inl (by rw [TxStore.view_remove, if_neg hk])
    · exact .inl (TxStore.view_remove_of_ne htx)
  | write tx' k' row hb hk' =>
    by_cases hboth : tx' = tx ∧ k' = k
    · obtain ⟨rfl, rfl⟩ := hboth
      exact .inr (.inl ⟨hb, .inr ⟨hk', by simp [TxStore.view_write_self]⟩⟩)
    · exact .inl (TxStore.view_write_of_ne (not_and_or.mp hboth))
  | close tx' =>
    have hne : tx' ≠ tx := fun h => of_decide_eq_true (mem_filter.mp ho).2 h.symm
    exact .inl (TxStore.view_close_of_ne hne)
  | commit tx' ho' hs hc hi =>
    have hne : tx' ≠ tx := fun h => of_decide_eq_true (mem_filter.mp ho).2 h.symm
    have hview : (s.commit tx').view tx k = s.view tx k ∨ (s.commit tx').view tx k = s.view tx' k :=
      TxStore.view_commit_of_ne hne
    exact hview.imp_right fun heq => .inr ⟨tx', ho', hs, hc, hi, heq⟩
  | _ => exact .inl rfl

end Change

variable {sessionID : Encoded Uuid} {op : Op} {reply : Reply} {sid : Uuid}

section Exec

variable {c : String} {s : Db}

theorem replied_change {α : Type} {s₀ : RowStore} {s' : Db} (hs : Change c h s₀ s.store)
    (hs' : Change c h s₀ s'.store) (reply : Reply) (a : α) :
    Change c h s₀ (replied DbError.failed reply a s s').2.store :=
  replied_cases (P := fun s : Db => Change c h s₀ s.store) hs hs' _ reply a

theorem exec_change (hg : (discipline sessionID c).guard h op) :
    Change c h s.store (exec op s reply).2.store := by
  cases op with
  | beginTx => exact replied_change .same .begin reply _
  | deleteSessionProvedCredentials tx found =>
    obtain ⟨hb, -, hkeys⟩ := hg
    simp only [exec]
    split
    · refine replied_change .same (.remove tx _ hb fun k hk => ?_) reply _
      obtain ⟨r, hr, rfl⟩ := mem_map.mp hk
      exact hkeys r (mem_filter.mp hr).1
    · exact .same
  | insertSessionProvedCredential tx k provedAt =>
    obtain ⟨hb, -, -, -, hk⟩ := hg
    simp only [exec]
    split
    · exact replied_change .same (.write tx k _ hb hk) reply _
    · exact .same
  | commit tx =>
    obtain ⟨hs, hc, hi⟩ := hg
    simp only [exec]
    split
    · rename_i ho
      exact replied_change (.close tx) (.commit tx ho hs hc hi) reply _
    · exact .same
  | rollback tx => exact .close tx
  | _ => exact .same

variable {tx : Nat} {found : List Tuple} {k : Key} {provedAt : Int} {r : Tuple}

theorem exec_begin (h : (exec .beginTx s reply).1 = .ok tx) :
    tx = s.store.next ∧ tx < (exec .beginTx s reply).2.store.next := by
  obtain ⟨rfl, hs'⟩ := replied_ok h
  exact ⟨rfl, lt_of_lt_of_eq (Nat.lt_succ_self _)
    (congrArg (fun s : Db => s.store.next) hs').symm⟩

theorem exec_scan
    (h : (exec (.scanSessionProvedCredentialsExcept tx sid c) s reply).1 = .ok found) :
    found = s.scan tx sid c := by
  simp only [exec] at h
  split at h
  · exact (Except.ok.inj h).symm
  · cases h

theorem mem_scan {k : String} (hk : k ≠ c)
    (hindex : (sid, k) ∈ s.index) (hr : s.store.tuple tx (sid, k) = some r) :
    r ∈ s.scan tx sid c :=
  mem_filterMap.mpr ⟨(sid, k), mem_filter.mpr ⟨hindex, decide_eq_true ⟨rfl, hk⟩⟩, hr⟩

theorem scan_keys (hr : r ∈ s.scan tx sid c) : r.key.2 ≠ c := by
  obtain ⟨k, hk, hr⟩ := mem_filterMap.mp hr
  obtain ⟨row, -, rfl⟩ := map_eq_some_iff.mp hr
  exact (of_decide_eq_true (mem_filter.mp hk).2).2

theorem exec_delete
    (h : (exec (.deleteSessionProvedCredentials tx found) s reply).1 = .ok ()) :
    (exec (.deleteSessionProvedCredentials tx found) s reply).2 = s.delete tx found :=
  (replied_if_ok h).2

theorem view_delete (hfound : ∀ r, s.store.tuple tx k = some r → r ∈ found) :
    (s.delete tx found).store.view tx k = none := by
  change (s.store.remove tx (s.remaining tx found)).view tx k = none
  rw [TxStore.view_remove]
  split
  · rfl
  rename_i hnot
  cases hview : s.store.view tx k with
  | none => rfl
  | some row =>
    have hr : s.store.tuple tx k = some ⟨k, row.insertedBy⟩ := by simp [RowStore.tuple, hview]
    have hmem : (⟨k, row.insertedBy⟩ : Tuple) ∈ found := hfound _ hr
    exact absurd (List.mem_map.mpr ⟨_, List.mem_filter.mpr ⟨hmem, decide_eq_true hr⟩, rfl⟩) hnot

theorem exec_insert
    (h : (exec (.insertSessionProvedCredential tx k provedAt) s reply).1 = .ok ()) :
    (exec (.insertSessionProvedCredential tx k provedAt) s reply).2 = s.upsert tx k provedAt :=
  (replied_if_ok h).2

theorem view_upsert (tx : Nat) (k : Key) (provedAt : Int) :
    (s.upsert tx k provedAt).store.view tx k ≠ none := by
  simp [Db.upsert, TxStore.view_write_self]

theorem exec_commit (h : (exec (.commit tx) s reply).1 = .ok ()) :
    tx ∈ s.store.opened ∧ (exec (.commit tx) s reply).2.store = s.store.commit tx := by
  obtain ⟨ho, hs'⟩ := replied_if_ok h
  exact ⟨ho, congrArg Db.store hs'⟩

theorem exec_legal (op : Op) : (discipline sessionID c).legal op (exec op s reply).1 := by
  cases op with
  | scanSessionProvedCredentialsExcept tx sid c' =>
    simp only [exec]
    split
    · exact fun r hr => scan_keys hr
    · trivial
  | _ => trivial

end Exec

structure Indexed (s : Db) : Prop where
  committed : ∀ k, s.store.committed k ≠ none → k ∈ s.index
  pending : ∀ w ∈ s.store.pending, w.value ≠ none → w.key ∈ s.index

section Indexed

variable {s : Db}

theorem Indexed.view (h : Indexed s) (tx : Nat) (k : Key) :
    s.store.view tx k ≠ none → k ∈ s.index := by
  refine TxStore.view_induction (P := fun v => v ≠ none → k ∈ s.index) (fun w hw hk hv => ?_)
    (h.committed k) tx
  rw [← hk]
  exact h.pending w hw hv

theorem Indexed.begin (h : Indexed s) : Indexed { s with store := s.store.begin } :=
  ⟨h.committed, h.pending⟩

theorem Indexed.close (h : Indexed s) (tx : Nat) : Indexed { s with store := s.store.close tx } :=
  ⟨h.committed, fun w hw => h.pending w (TxStore.mem_pending_close.mp hw).1⟩

theorem Indexed.commit (h : Indexed s) (tx : Nat) : Indexed { s with store := s.store.commit tx } :=
  ⟨h.view tx, (h.close tx).pending⟩

theorem Indexed.delete (h : Indexed s) (tx : Nat) (found : List Tuple) :
    Indexed (s.delete tx found) := by
  refine ⟨h.committed, fun w hw hv => ?_⟩
  rcases mem_append.mp hw with hw | hw
  · obtain ⟨k, -, rfl⟩ := mem_map.mp hw
    exact absurd rfl hv
  · exact h.pending w hw hv

theorem Indexed.upsert (h : Indexed s) (tx : Nat) (k : Key) (provedAt : Int) :
    Indexed (s.upsert tx k provedAt) := by
  refine ⟨fun k' hk' => mem_cons_of_mem _ (h.committed k' hk'), fun w hw hv => ?_⟩
  rcases mem_cons.mp hw with rfl | hw
  · exact mem_cons_self
  · exact mem_cons_of_mem _ (h.pending w hw hv)

theorem Indexed.exec (h : Indexed s) (op : Op) (reply : Reply) : Indexed (exec op s reply).2 := by
  cases op with
  | beginTx => exact replied_cases h h.begin _ reply _
  | deleteSessionProvedCredentials tx found =>
    simp only [Session.exec]
    split
    · exact replied_cases h (h.delete tx found) _ reply _
    · exact h
  | insertSessionProvedCredential tx k provedAt =>
    simp only [Session.exec]
    split
    · exact replied_cases h (h.upsert tx k provedAt) _ reply _
    · exact h
  | commit tx =>
    simp only [Session.exec]
    split
    · exact replied_cases (h.close tx) (h.commit tx) _ reply _
    · exact h
  | rollback tx => exact h.close tx
  | _ => exact h

end Indexed

structure Progress (sid : Uuid) (s : RowStore) (t : ReplaceThread) : Prop where
  fresh : ∀ tx, Begun tx t.history → tx < s.next
  begun : ∀ tx, Scanned tx t.history → Begun tx t.history
  scanned : ∀ tx, Cleared tx t.history ∨ Stored tx t.history → Scanned tx t.history
  found : ∀ tx found, Found tx found t.history → tx ∈ s.opened →
    ∀ k ≠ t.request, ∀ r, s.tuple tx (sid, k) = some r → r ∈ found
  cleared : ∀ tx, Cleared tx t.history → tx ∈ s.opened → ∀ k ≠ t.request, s.view tx (sid, k) = none
  stored : ∀ tx, Stored tx t.history → tx ∈ s.opened → s.view tx (sid, t.request) ≠ none

variable {t : ReplaceThread}

theorem Progress.of_view {s s' : RowStore} (h : Progress sid s t) (hnext : s.next ≤ s'.next)
    (hopened : ∀ tx < s.next, tx ∈ s'.opened → tx ∈ s.opened)
    (hview : ∀ tx, Scanned tx t.history → tx ∈ s'.opened → ∀ k,
      s'.view tx (sid, k) = s.view tx (sid, k) ∨ k ≠ t.request ∧ s'.view tx (sid, k) = none ∨
        k = t.request ∧ s'.view tx (sid, k) ≠ none) :
    Progress sid s' t := by
  have hlt : ∀ tx, Scanned tx t.history → tx < s.next := fun tx hs => h.fresh tx (h.begun tx hs)
  refine ⟨fun tx hb => Nat.lt_of_lt_of_le (h.fresh tx hb) hnext, h.begun, h.scanned,
    fun tx found hf ho k hk r hr => ?_, fun tx hc ho k hk => ?_, fun tx hi ho hnone => ?_⟩
  · have hs : Scanned tx t.history := ⟨found, hf⟩
    rcases hview tx hs ho k with heq | ⟨-, heq⟩ | ⟨heq, -⟩
    · rw [RowStore.tuple, heq] at hr
      exact h.found tx found hf (hopened tx (hlt tx hs) ho) k hk r hr
    · simp [RowStore.tuple, heq] at hr
    · exact absurd heq hk
  · have hs := h.scanned tx (.inl hc)
    rcases hview tx hs ho k with heq | ⟨-, heq⟩ | ⟨heq, -⟩
    · rw [heq]
      exact h.cleared tx hc (hopened tx (hlt tx hs) ho) k hk
    · exact heq
    · exact absurd heq hk
  · have hs := h.scanned tx (.inr hi)
    rcases hview tx hs ho t.request with heq | ⟨hne, -⟩ | ⟨-, hsome⟩
    · exact h.stored tx hi (hopened tx (hlt tx hs) ho) (heq ▸ hnone)
    · exact hne rfl
    · exact hsome hnone

theorem Progress.step {s s' : RowStore} {u : ReplaceThread} (hu : Progress sid s u)
    (ht : Progress sid s t) (hchange : Change t.request t.history s s')
    (howner : ∀ tx, Begun tx t.history → Begun tx u.history → t.request = u.request)
    (halone : ∀ tx tx', Scanned tx t.history → Scanned tx' u.history → tx ∈ s.opened →
      tx' ∈ s.opened → t.request = u.request) :
    Progress sid s' u := by
  refine hu.of_view hchange.next_le (fun tx => hchange.opened) fun tx hs ho k => ?_
  have hold := hchange.opened (hu.fresh tx (hu.begun tx hs)) ho
  rcases hchange.view ho (sid, k) with heq | ⟨hb, hown⟩ | ⟨tx', ho', hs', hc', hi', heq⟩
  · exact .inl heq
  · rw [← howner tx hb (hu.begun tx hs)]
    exact .inr hown
  -- the other transaction has removed all rows but its own
  rw [← halone tx' tx hs' hs ho' hold, heq]
  by_cases hk : k = t.request
  · subst hk
    exact .inr (.inr ⟨rfl, ht.stored tx' hi' ho'⟩)
  · exact .inr (.inl ⟨hk, ht.cleared tx' hc' ho' k hk⟩)

variable {tx : Nat}

theorem Scanned.cons (hs : Scanned tx h) (e : Event Res) : Scanned tx (e :: h) := by
  obtain ⟨found, sid, c, hmem⟩ := hs
  exact ⟨found, sid, c, mem_cons_of_mem _ hmem⟩

section Advance

variable {s : Db} {next : Res op → SessionProgram Unit}

theorem Progress.advance (hsid : sessionID.decode = some sid)
    (hg : (discipline sessionID t.request).guard t.history op)
    (hindexed : Indexed s) (h : Progress sid s.store t)
    (h' : Progress sid (exec op s reply).2.store t) :
    Progress sid (exec op s reply).2.store (t.advance op (exec op s reply).1 next) := by
  refine ⟨fun tx hb => ?_, fun tx hs => ?_, fun tx hs => ?_, fun tx found hf ho k hk r hr => ?_,
    fun tx hc ho k hk => ?_, fun tx hi ho => ?_⟩
  · rcases Thread.mem_advance hb with ⟨rfl, heq⟩ | hb
    · exact (exec_begin heq).2
    · exact h'.fresh tx hb
  · obtain ⟨found, sid', c', hmem⟩ := hs
    rcases Thread.mem_advance hmem with ⟨rfl, -⟩ | hmem
    · exact mem_cons_of_mem _ hg.1
    · exact mem_cons_of_mem _ (h'.begun tx ⟨found, sid', c', hmem⟩)
  · rcases hs with ⟨found, hmem⟩ | ⟨k, provedAt, hmem⟩
    · rcases Thread.mem_advance hmem with ⟨rfl, -⟩ | hmem
      · exact Scanned.cons ⟨found, hg.2.1⟩ _
      · exact (h'.scanned tx (.inl ⟨found, hmem⟩)).cons _
    · rcases Thread.mem_advance hmem with ⟨rfl, -⟩ | hmem
      · exact hg.2.1.cons _
      · exact (h'.scanned tx (.inr ⟨k, provedAt, hmem⟩)).cons _
  · obtain ⟨sid', c', hmem⟩ := hf
    rcases Thread.mem_advance hmem with ⟨rfl, heq⟩ | hmem
    · obtain ⟨-, hsid', rfl⟩ := hg
      obtain rfl : sid' = sid := some.inj (hsid'.symm.trans hsid)
      rw [exec_scan heq]
      refine mem_scan hk (hindexed.view tx _ fun hnone => ?_) hr
      have hnone' : s.store.tuple tx (sid', k) = none := by simp [RowStore.tuple, hnone]
      cases hr.symm.trans hnone'
    · exact h'.found tx found ⟨sid', c', hmem⟩ ho k hk r hr
  · obtain ⟨found, hmem⟩ := hc
    rcases Thread.mem_advance hmem with ⟨rfl, heq⟩ | hmem
    · rw [exec_delete heq] at ho ⊢
      exact view_delete (h.found tx found hg.2.1 ho k hk)
    · exact h'.cleared tx ⟨found, hmem⟩ ho k hk
  · obtain ⟨k, provedAt, hmem⟩ := hi
    rcases Thread.mem_advance hmem with ⟨rfl, heq⟩ | hmem
    · obtain ⟨-, -, -, hsid', hk⟩ := hg
      have hkey : k = (sid, t.request) := Prod.ext (some.inj (hsid'.symm.trans hsid)) hk
      rw [exec_insert heq]
      exact hkey ▸ view_upsert tx k provedAt
    · exact h'.stored tx ⟨k, provedAt, hmem⟩ ho

end Advance

def OneProved (sid : Uuid) (c : ReplaceConfig) : Prop :=
  ∃ t ∈ c.threads, ∀ k, (c.state.store.committed (sid, k)).isSome = true ↔ k = t.request

structure Sound (sid : Uuid) (c : ReplaceConfig) : Prop where
  indexed : Indexed c.state
  owner : ∀ t ∈ c.threads, ∀ u ∈ c.threads, ∀ tx, Begun tx t.history → Begun tx u.history →
    t.request = u.request
  alone : ∀ t ∈ c.threads, ∀ u ∈ c.threads, ∀ tx tx', Scanned tx t.history →
    Scanned tx' u.history → tx ∈ c.state.store.opened → tx' ∈ c.state.store.opened →
    t.request = u.request
  progress : ∀ t ∈ c.threads, Progress sid c.state.store t
  settled : ∀ t ∈ c.threads, Committed t.history → OneProved sid c

def scanOf : Event Res → Option Nat
  | ⟨.scanSessionProvedCredentialsExcept tx _ _, .ok _⟩ => some tx
  | _ => none

theorem mem_scans : tx ∈ h.filterMap scanOf ↔ Scanned tx h := by
  rw [mem_filterMap]
  constructor
  · rintro ⟨⟨op, r⟩, he, hscan⟩
    unfold scanOf at hscan
    split at hscan
    · rename_i tx' sid c found heq
      obtain ⟨rfl, heq⟩ := Sigma.mk.inj heq
      obtain rfl := eq_of_heq heq
      cases hscan
      exact ⟨found, sid, c, he⟩
    · cases hscan
  · rintro ⟨found, sid, c, he⟩
    exact ⟨_, he, rfl⟩

/-- No delete starts while a transaction is open that has started its delete for another
credential. -/
def clearsAlone : System.Schedule String Op Res SessionError Unit Db := fun s others t op =>
  rowLocks s others t op ∧
    match op with
    | .scanSessionProvedCredentialsExcept _ _ _ =>
      ∀ u ∈ others, ∀ tx ∈ u.history.filterMap scanOf, tx ∈ s.store.opened →
        u.request = t.request
    | _ => True

instance (op : Op) (s : Db) (others : List ReplaceThread) (t : ReplaceThread) :
    Decidable (clearsAlone s others t op) :=
  match op with
  | .scanSessionProvedCredentialsExcept _ _ _ => inferInstanceAs (Decidable (_ ∧ _))
  | .beginTx | .deleteSessionProvedCredentials _ _ | .insertSessionProvedCredential _ _ _
  | .commit _ | .rollback _ | .now => inferInstanceAs (Decidable (_ ∧ True))

variable {ts : List ReplaceThread}

section Runs

variable {s : Db}

theorem Sound.arrive (h : Sound sid ⟨s, ts⟩) (c : String) :
    Sound sid ⟨s, ts ++ [⟨c, [], (replaceSystem sessionID).body c⟩]⟩ := by
  refine ⟨h.indexed, forall_arrived (fun t ht => ?_) ?_,
    forall_arrived (fun t ht => ?_) ?_, forall_arrived h.progress ?_,
    forall_arrived (fun t ht hc => ?_) ?_⟩
  · exact forall_arrived (h.owner t ht) (by simp [Begun])
  · simp [Begun]
  · exact forall_arrived (h.alone t ht) (by simp [Scanned, Found])
  · simp [Scanned, Found]
  · constructor <;> simp [Begun, Scanned, Found, Cleared, Stored]
  · obtain ⟨u, hu, hone⟩ := h.settled t ht hc
    exact ⟨u, mem_append_left _ hu, hone⟩
  · simp [Committed]

theorem Sound.close (h : Sound sid ⟨s, ts⟩) (tx : Nat) :
    Sound sid ⟨{ s with store := s.store.close tx }, ts⟩ := by
  have hopened : ∀ tx' ∈ (s.store.close tx).opened, tx' ∈ s.store.opened := fun tx' ho =>
    (mem_filter.mp ho).1
  refine ⟨h.indexed.close tx, h.owner, fun t ht u hu tx₁ tx₂ hs hs' ho ho' => ?_, fun t ht => ?_,
    h.settled⟩
  · exact h.alone t ht u hu tx₁ tx₂ hs hs' (hopened tx₁ ho) (hopened tx₂ ho')
  refine (h.progress t ht).of_view (Nat.le_refl _) (fun tx' _ => hopened tx')
    fun tx' _ ho k => .inl ?_
  have hne : tx ≠ tx' := fun heq => of_decide_eq_true (mem_filter.mp ho).2 heq.symm
  exact TxStore.view_close_of_ne hne

theorem committed_commit {s : RowStore} (h : Progress sid s t) (ho : tx ∈ s.opened)
    (hc : Cleared tx t.history) (hi : Stored tx t.history) (k : String) :
    ((s.commit tx).committed (sid, k)).isSome = true ↔ k = t.request := by
  change (s.view tx (sid, k)).isSome = true ↔ _
  by_cases hk : k = t.request
  · subst hk
    simpa [isSome_iff_ne_none] using h.stored tx hi ho
  · simp [h.cleared tx hc ho k hk, hk]

theorem begun_advance {next : Res op → SessionProgram Unit}
    (h : Begun tx (t.advance op (exec op s reply).1 next).history) :
    Begun tx t.history ∨ tx = s.store.next := by
  rcases Thread.mem_advance h with ⟨rfl, heq⟩ | h
  · exact .inr (exec_begin heq).1
  · exact .inl h

theorem Sound.act {before after : List ReplaceThread} {next : Res op → SessionProgram Unit}
    (reply : Reply) (hsid : sessionID.decode = some sid)
    (hallow : clearsAlone s (before ++ after) t op)
    (hg : (discipline sessionID t.request).guard t.history op)
    (h : Sound sid ⟨s, before ++ t :: after⟩) :
    Sound sid ⟨(exec op s reply).2, before ++ t.advance op (exec op s reply).1 next :: after⟩ := by
  have ht : t ∈ before ++ t :: after := by simp
  have hothers : ∀ u ∈ before ++ after, u ∈ before ++ t :: after := fun u => mem_of_others
  have htp := h.progress t ht
  have hchange : Change t.request t.history s.store (exec op s reply).2.store := exec_change hg
  have hstep : ∀ u ∈ before ++ t :: after, Progress sid (exec op s reply).2.store u :=
    fun u hu => (h.progress u hu).step htp hchange (h.owner t ht u hu) (h.alone t ht u hu)
  have hopened : ∀ u ∈ before ++ t :: after, ∀ tx, Scanned tx u.history →
      tx ∈ (exec op s reply).2.store.opened → tx ∈ s.store.opened := fun u hu tx hs =>
    hchange.opened ((h.progress u hu).fresh tx ((h.progress u hu).begun tx hs))
  refine ⟨h.indexed.exec op reply, ?_, ?_,
    forall_advanced hstep (fun _ h => h) (htp.advance hsid hg h.indexed (hstep t ht)), ?_⟩
  · refine forall₂_advanced (fun hR tx hb hb' => (hR tx hb' hb).symm) (fun _ _ _ => rfl)
      (fun u hu v hv => h.owner u (hothers u hu) v (hothers v hv)) fun u hu tx hb hb' => ?_
    rcases begun_advance hb with hb | rfl
    · exact h.owner t ht u (hothers u hu) tx hb hb'
    · exact absurd ((h.progress u (hothers u hu)).fresh _ hb') (Nat.lt_irrefl _)
  · refine forall₂_advanced (fun hR tx tx' hs hs' ho ho' => (hR tx' tx hs' hs ho' ho).symm)
      (fun _ _ _ _ _ _ => rfl) (fun u hu v hv tx tx' hs hs' ho ho' => ?_)
      fun u hu tx tx' hs hs' ho ho' => ?_
    · exact h.alone u (hothers u hu) v (hothers v hv) tx tx' hs hs'
        (hopened u (hothers u hu) tx hs ho) (hopened v (hothers v hv) tx' hs' ho')
    have hold := hopened u (hothers u hu) tx' hs' ho'
    obtain ⟨found, sid', c', hmem⟩ := hs
    rcases Thread.mem_advance hmem with ⟨rfl, -⟩ | hmem
    · exact (hallow.2 u hu tx' (mem_scans.mpr hs') hold).symm
    · have hs : Scanned tx t.history := ⟨found, sid', c', hmem⟩
      exact h.alone t ht u (hothers u hu) tx tx' hs hs' (hopened t ht tx hs ho) hold
  · intro u hu hc
    have hcommit : ∀ tx, (exec op s reply).2.store = s.store.commit tx → tx ∈ s.store.opened →
        Cleared tx t.history → Stored tx t.history → OneProved sid
          ⟨(exec op s reply).2, before ++ t.advance op (exec op s reply).1 next :: after⟩ := by
      intro tx hs' ho hclear hstored
      refine ⟨t.advance op (exec op s reply).1 next, by simp, fun k => ?_⟩
      rw [hs']
      exact committed_commit htp ho hclear hstored k
    rcases hchange.committed with hsame | ⟨tx, hs', ho, hclear, hstored⟩
    · have hold : ∀ u ∈ before ++ t :: after, Committed u.history → OneProved sid
          ⟨(exec op s reply).2, before ++ t.advance op (exec op s reply).1 next :: after⟩ := by
        intro u hu hc
        obtain ⟨v, hv, hone⟩ := h.settled u hu hc
        have hone' : ∀ k, ((exec op s reply).2.store.committed (sid, k)).isSome = true ↔
            k = v.request := fun k => by rw [hsame]; exact hone k
        exact exists_advanced ⟨v, hv, hone'⟩ (fun _ h => h) fun h => h
      rcases mem_advanced hu with rfl | hu
      · obtain ⟨tx, hmem⟩ := hc
        rcases Thread.mem_advance hmem with ⟨rfl, heq⟩ | hmem
        · obtain ⟨ho, hs'⟩ := exec_commit heq
          exact hcommit tx hs' ho hg.2.1 hg.2.2
        · exact hold t ht ⟨tx, hmem⟩
      · exact hold u (hothers u hu) hc
    · exact hcommit tx hs' ho hclear hstored

def start (rows : List (Key × Int)) (time : Int) : Db :=
  ⟨{ committed := fun k => (rows.lookup k).map (⟨·, none⟩) }, rows.map Prod.fst, time⟩

theorem indexed_start (rows : List (Key × Int)) (time : Int) : Indexed (start rows time) := by
  refine ⟨fun k hk => ?_, by simp [start]⟩
  obtain ⟨row, hrow⟩ := ne_none_iff_exists'.mp hk
  obtain ⟨provedAt, hlookup, -⟩ := map_eq_some_iff.mp hrow
  obtain ⟨l₁, l₂, hrows, -⟩ := lookup_eq_some_iff.mp hlookup
  exact mem_map.mpr ⟨(k, provedAt), by simp [hrows], rfl⟩

variable {rows : List (Key × Int)} {time : Int} {c : ReplaceConfig}

theorem sound_of_reachable (hsid : sessionID.decode = some sid)
    (hc : (replaceSystem sessionID).Reachable clearsAlone (start rows time) c) : Sound sid c := by
  refine Reachable.invariant (discipline sessionID) (Sound sid)
    (fun c => obeys_replaceProvedCredential.mono fun _ _ _ => trivial)
    (fun _ op _ _ => exec_legal op) ?_ ?_ ?_ ?_ hc
  · exact ⟨indexed_start rows time, by simp, by simp, by simp, by simp⟩
  · exact fun s ts c h => h.arrive c
  · intro s s' ts e he h
    cases e with
    | tick d =>
      cases he
      exact ⟨⟨h.indexed.committed, h.indexed.pending⟩, h.owner, h.alone, h.progress, h.settled⟩
    | abort tx =>
      cases he
      exact h.close tx
  · exact fun s before after t op next reply _ hallow hg h => h.act reply hsid hallow hg

/-- In a run in which no delete starts next to the open transaction of a call for another
credential, the session has one proved credential from the first call that returns on. -/
theorem one_proved_of_clearsAlone (sessionID : Encoded Uuid) (rows : List (Key × Int)) (time : Int)
    (c : ReplaceConfig)
    (hc : (replaceSystem sessionID).Reachable clearsAlone (start rows time) c)
    (hsucceeded : ∃ t ∈ c.threads, t.succeeded = true) :
    ∃ sid, sessionID.decode = some sid ∧ OneProved sid c := by
  obtain ⟨t, ht, hs⟩ := hsucceeded
  obtain ⟨a, ha⟩ := Thread.exists_of_succeeded hs
  obtain ⟨⟨sid, hsid⟩, hcommitted⟩ := hc.ended (discipline sessionID)
    (fun c => obeys_replaceProvedCredential) (fun _ op _ _ => exec_legal op) ht ha
  exact ⟨sid, hsid, (sound_of_reachable hsid hc).settled t ht hcommitted⟩

end Runs

namespace Sample

abbrev Moves := List (System.Move String Reply Outside)

def acts (i n : Nat) : Moves := List.replicate n (.act i .done)

def overlapping : Moves :=
  [.arrive "phone", .arrive "laptop"] ++ acts 0 3 ++ acts 1 3 ++ acts 0 4 ++ acts 1 4

theorem both_proved : ∃ c, (replaceSystem (.of 7)).Reachable rowLocks (start [] 0) c ∧
      c.threads.map Thread.succeeded = [true, true] ∧ ¬ OneProved 7 c := by
  obtain ⟨c, hrun, hsucceeded, hphone, hlaptop⟩ : ∃ c,
      (replaceSystem (.of 7)).Reachable rowLocks (start [] 0) c ∧
      c.threads.map Thread.succeeded = [true, true] ∧
        (c.state.store.committed (7, "phone")).isSome = true ∧
        (c.state.store.committed (7, "laptop")).isSome = true :=
    exists_reachable overlapping (by decide +kernel)
  refine ⟨c, hrun, hsucceeded, ?_⟩
  rintro ⟨t, -, hone⟩
  exact absurd (((hone _).mp hphone).trans ((hone _).mp hlaptop).symm) (by decide)

def inTurn : Moves := [.arrive "phone", .arrive "laptop"] ++ acts 0 7 ++ acts 1 7

theorem second_login_proved :
    ∃ c, (replaceSystem (.of 7)).Reachable clearsAlone (start [((7, "tablet"), 0)] 0) c ∧
      c.threads.map Thread.succeeded = [true, true] ∧
      ∃ sid, (Encoded.of 7).decode = some sid ∧ OneProved sid c := by
  obtain ⟨c, hrun, hsucceeded, hsome⟩ : ∃ c,
      (replaceSystem (.of 7)).Reachable clearsAlone (start [((7, "tablet"), 0)] 0) c ∧
      c.threads.map Thread.succeeded = [true, true] ∧ ∃ t ∈ c.threads, t.succeeded = true :=
    exists_reachable inTurn (by decide +kernel)
  exact ⟨c, hrun, hsucceeded, one_proved_of_clearsAlone (.of 7) _ 0 c hrun hsome⟩

end Sample

end LatchApi.Session
