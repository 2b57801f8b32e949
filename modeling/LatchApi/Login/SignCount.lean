import LatchApi.Login.Runs

/-!
The sign count of a stored credential. The check compares the count of an assertion with a row
that is read before, and the update does not ask what the row holds by then, so two logins that
have both read it may write their counts in either order.
-/

namespace LatchApi.Login

open Lib Program Store WebAuthn List Option Lib.System Lib.Thread

def signCount (db : Db) (c : String) : Option Int :=
  (db.storedCredential c).map CredentialRow.signCount

def Comparing (c : String) (t : LoginThread) : Prop :=
  assertedID t.request = c ∧ t.active = true ∧ found t.history ≠ [] ∧
    t.history.any isUpdate = false

instance (c : String) (t : LoginThread) : Decidable (Comparing c t) := by
  unfold Comparing
  infer_instance

/-- No call reads the row of a credential between another one's read and update of it. -/
def comparesAlone : LoginSchedule := fun _ others _ op =>
  match op with
  | .read (.getWebauthnCredentialByCredentialID c) => ∀ u ∈ others, ¬ Comparing c u
  | _ => True

instance (s : Shared) (others : List LoginThread) (t : LoginThread) (op : Op) :
    Decidable (comparesAlone s others t op) := by
  unfold comparesAlone
  split <;> infer_instance

variable {L : Libraries} {c : String} {s : Shared} {t : LoginThread}

section Step

variable {op : Op} {next : Res op → Service AuthenticatedCredential} {ch : Choice}
  {row : CredentialRow}

theorem exec_update_ok {n : Int}
    (h : (exec (.write (.updateWebauthnCredentialSignCount c n)) s ch).1 = .ok ()) :
    signCount (exec (.write (.updateWebauthnCredentialSignCount c n)) s ch).2.db c =
      (s.db.storedCredential c).map fun _ => n := by
  have happly := settle_ok h
  have hstored := storedCredential_of_apply happly c
  change signCount (settle _ _ _).2.db c = _
  rw [signCount, hstored]
  simp [Write.onCredential, Function.comp_def]

theorem comparing_of_found (hrest : t.rest = .call op next) (hasserted : assertedID t.request = c)
    (hrow : row ∈ found t.history) (hupdate : t.history.any isUpdate = false) : Comparing c t :=
  ⟨hasserted, active_of_rest hrest, ne_nil_of_mem hrow, hupdate⟩

theorem found_advance (hg : guard L t.request t.history op)
    (h : row ∈ found (t.advance op (exec op s ch).1 next).history) :
    row ∈ found t.history ∨ op = .read (.getWebauthnCredentialByCredentialID (assertedID t.request)) ∧
      s.db.storedCredential (assertedID t.request) = some row := by
  rcases mem_view_advance h with h | h
  · exact .inl h
  obtain ⟨c, rfl, hstored⟩ := exec_foundOf h
  obtain rfl : c = assertedID t.request := hg
  exact .inr ⟨rfl, hstored⟩

theorem Comparing.of_advance {r : Res op} (hrest : t.rest = .call op next)
    (h : Comparing c (t.advance op r next)) (hrow : row ∈ found t.history) : Comparing c t := by
  obtain ⟨hasserted, -, -, hupdate⟩ := h
  rw [advance_history, any_cons, Bool.or_eq_false_iff] at hupdate
  exact comparing_of_found hrest hasserted hrow hupdate.2

end Step

def Counts (L : Libraries) (c : String) (n : Nat) (t : LoginThread) : Prop :=
  assertedID t.request = c ∧ carriedCount L t.request = some n ∧
    (∃ row ∈ found t.history, row.signCount < n) ∧
    (Comparing c t ∨ written (.updateWebauthnCredentialSignCount c n) ∈ t.history)

structure Counted (L : Libraries) (c : String) (cfg : LoginConfig) : Prop where
  stored : ∃ n, signCount cfg.state.db c = some n
  present : ∀ t ∈ cfg.threads, assertedID t.request = c → t.history.any isAbsent = false
  current : ∀ t ∈ cfg.threads, Comparing c t → ∀ row ∈ found t.history,
    signCount cfg.state.db c = some row.signCount
  below : ∀ t ∈ cfg.threads, ∀ n : Int,
    written (.updateWebauthnCredentialSignCount c n) ∈ t.history →
    ∃ m, signCount cfg.state.db c = some m ∧ n ≤ m
  apart : cfg.threads.Pairwise fun t u => ¬ (Comparing c t ∧ Comparing c u)
  distinct : cfg.threads.Pairwise fun t u => ∀ n, ¬ (Counts L c n t ∧ Counts L c n u)

section Act

variable {before after : List LoginThread} {op : Op}
  {next : Res op → Service AuthenticatedCredential} {ch : Choice}

section

variable (h : Counted L c ⟨s, before ++ t :: after⟩) (hrest : t.rest = .call op next)

include h hrest

theorem Counted.count (hg : guard L t.request t.history op) (ch : Choice) :
    signCount (exec op s ch).2.db c = signCount s.db c ∨
      ∃ m n, Comparing c t ∧ op = .write (.updateWebauthnCredentialSignCount c n) ∧
        signCount s.db c = some m ∧ m ≤ n ∧ signCount (exec op s ch).2.db c = some n := by
  have ht : t ∈ before ++ t :: after := by simp
  rcases exec_stored hg s ch c with heq | ⟨hc, ⟨n, rfl, heq⟩ | ⟨ws, owner, row, rfl, -, -, -⟩⟩
  · exact .inl (by rw [signCount, heq, signCount])
  · obtain ⟨-, hupdate, row, hrow, m, rfl, -, haccepted⟩ := hg
    have hcomparing := comparing_of_found hrest hc hrow hupdate
    have hcurrent := h.current t ht hcomparing row hrow
    refine .inr ⟨row.signCount, m, hcomparing, rfl, hcurrent, haccepted.le, ?_⟩
    obtain ⟨r, hr, -⟩ := map_eq_some_iff.mp hcurrent
    have hr' : s.db.storedCredential c = some r := hr
    rw [signCount, heq, hr']
    rfl
  · -- the credential is stored, so no call has found it absent
    exact absurd hg.1 (by simp [h.present t ht hc])

theorem Counted.counts_advance (hg : guard L t.request t.history op) {n : Nat}
    (hn : Counts L c n (t.advance op (exec op s ch).1 next)) :
    Counts L c n t ∨ ∃ m, op = .read (.getWebauthnCredentialByCredentialID c) ∧
      signCount s.db c = some m ∧ m < n := by
  obtain ⟨hc, hcarried, ⟨row, hrow, hlt⟩, hgoing⟩ := hn
  obtain rfl : assertedID t.request = c := hc
  rcases found_advance hg hrow with hrow | ⟨rfl, hstored⟩
  · refine .inl ⟨rfl, hcarried, ⟨row, hrow, hlt⟩, ?_⟩
    rcases hgoing with hcomparing | hwritten
    · exact .inl (hcomparing.of_advance hrest hrow)
    rcases Thread.mem_advance hwritten with ⟨rfl, -⟩ | hwritten
    · exact .inl (comparing_of_found hrest rfl hrow hg.2.1)
    · exact .inr hwritten
  · exact .inr ⟨row.signCount, rfl, by simp [signCount, hstored], hlt⟩

theorem Counted.act (hallow : comparesAlone s (before ++ after) t op)
    (hg : guard L t.request t.history op) :
    Counted L c
      ⟨(exec op s ch).2, before ++ t.advance op (exec op s ch).1 next :: after⟩ := by
  have ht : t ∈ before ++ t :: after := by simp
  have hcount := h.count hrest hg ch
  obtain ⟨m, hm⟩ := h.stored
  obtain ⟨m', hm', hle⟩ : ∃ m', signCount (exec op s ch).2.db c = some m' ∧ m ≤ m' := by
    rcases hcount with heq | ⟨m₁, n, -, -, hm₁, hle, hn⟩
    · exact ⟨m, heq.trans hm, le_refl m⟩
    · obtain rfl := some.inj (hm.symm.trans hm₁)
      exact ⟨n, hn, hle⟩
  have hsame : ∀ u ∈ before ++ after, Comparing c u →
      signCount (exec op s ch).2.db c = signCount s.db c := by
    intro u hu hcomparing
    rcases hcount with heq | ⟨-, -, hcomparing', -⟩
    · exact heq
    · exact absurd ⟨hcomparing', hcomparing⟩ (System.of_pairwise (fun h => h ∘ And.symm) h.apart hu)
  refine ⟨⟨m', hm'⟩, ?_, ?_, ?_, ?_, ?_⟩
  · refine System.forall_advanced h.present (fun _ h => h) fun hc => ?_
    obtain rfl : assertedID t.request = c := hc
    rw [Thread.advance_history, any_cons, Bool.or_eq_false_iff]
    refine ⟨Bool.eq_false_iff.mpr fun habsent => ?_, h.present t ht rfl⟩
    obtain ⟨c, rfl, hnone⟩ := exec_isAbsent habsent
    obtain rfl : c = assertedID t.request := hg
    simp [signCount, hnone] at hm
  · intro u hu hcomparing row hrow
    rcases System.mem_advanced hu with rfl | hu
    · obtain rfl : assertedID t.request = c := hcomparing.1
      rcases found_advance hg hrow with hrow | ⟨rfl, hstored⟩
      · have hold := h.current t ht (hcomparing.of_advance hrest hrow) row hrow
        rcases hcount with heq | ⟨-, n, -, rfl, -⟩
        · rw [heq]
          exact hold
        · cases hcomparing.2.2.2
      · exact congrArg (Option.map CredentialRow.signCount) hstored
    · rw [hsame u hu hcomparing]
      exact h.current u (System.mem_of_others hu) hcomparing row hrow
  · have hbelow : ∀ u ∈ before ++ t :: after, ∀ n : Int,
        written (.updateWebauthnCredentialSignCount c n) ∈ u.history →
        ∃ k, signCount (exec op s ch).2.db c = some k ∧ n ≤ k := by
      intro u hu n hn
      obtain ⟨k, hk, hnk⟩ := h.below u hu n hn
      obtain rfl := some.inj (hm.symm.trans hk)
      exact ⟨m', hm', le_trans hnk hle⟩
    refine System.forall_advanced hbelow (fun _ h => h) fun n hn => ?_
    rcases Thread.mem_advance hn with ⟨rfl, heq⟩ | hn
    · have hwritten := exec_update_ok heq
      obtain ⟨r, hr, -⟩ := map_eq_some_iff.mp hm
      exact ⟨n, by rw [hwritten, hr]; rfl, le_refl n⟩
    · exact hbelow t ht n hn
  · refine System.pairwise_advanced (fun h => h ∘ And.symm) h.apart fun u hu htu hboth => ?_
    obtain ⟨hcomparing, hcomparing'⟩ := hboth
    obtain ⟨row, hrow⟩ := exists_mem_of_ne_nil _ hcomparing.2.2.1
    rcases found_advance hg hrow with hrow | ⟨rfl, -⟩
    · exact htu ⟨hcomparing.of_advance hrest hrow, hcomparing'⟩
    · obtain rfl : assertedID t.request = c := hcomparing.1
      exact hallow u hu hcomparing'
  · refine System.pairwise_advanced (fun h n => h n ∘ And.symm) h.distinct fun u hu htu n hboth => ?_
    rcases h.counts_advance hrest hg hboth.1 with hold | ⟨k, rfl, hk, hlt⟩
    · exact htu n ⟨hold, hboth.2⟩
    obtain ⟨hcu, -, -, hcomparing | hwritten⟩ := hboth.2
    · exact hallow u hu hcomparing
    obtain ⟨k', hk', hle'⟩ := h.below u (System.mem_of_others hu) n hwritten
    obtain rfl := some.inj (hk.symm.trans hk')
    exact absurd hlt (not_lt.mpr hle')

end

end Act

section Runs

variable {shared : Shared} {cfg cfg' : LoginConfig}

theorem Counted.arrive {ts : List LoginThread} (h : Counted L c ⟨s, ts⟩)
    (input : FinishAuthenticationInput) :
    Counted L c ⟨s, ts ++ [⟨input, [], (loginSystem L).body input⟩]⟩ := by
  refine ⟨h.stored, forall_arrived h.present ?_, forall_arrived h.current ?_,
    forall_arrived h.below ?_, pairwise_arrived h.apart fun t _ => ?_,
    pairwise_arrived h.distinct fun t _ n => ?_⟩
  · simp
  · simp [Comparing, found]
  · simp
  · simp [Comparing, found]
  · simp [Counts, found]

theorem signCount_elsewhere {e s' : Shared} (he : elsewhere e s = some s') :
    signCount s'.db c = signCount s.db c := by
  cases he
  rfl

theorem Counted.elsewhere {e s' : Shared} {ts : List LoginThread} (h : Counted L c ⟨s, ts⟩)
    (he : elsewhere e s = some s') : Counted L c ⟨s', ts⟩ := by
  have hsame : signCount s'.db c = signCount s.db c := signCount_elsewhere he
  exact ⟨hsame ▸ h.stored, h.present, hsame ▸ h.current, hsame ▸ h.below, h.apart, h.distinct⟩

section

variable (hstored : ∃ n, signCount shared.db c = some n)
  (hc : (loginSystem L).Reachable comparesAlone shared cfg)

include hstored hc

theorem counted_of_reachable : Counted L c cfg := by
  induction hc with
  | refl => exact ⟨hstored, by simp, by simp, by simp, .nil, .nil⟩
  | tail run step ih =>
    cases step with
    | arrive s ts input => exact ih.arrive input
    | world s s' ts e he => exact ih.elsewhere he
    | act s before after t op next ch hrest hallow =>
      exact ih.act hrest hallow (guard_of_reachable run (by simp) hrest)

theorem signCount_le_of_run
    (hrun : Relation.ReflTransGen ((loginSystem L).Step comparesAlone) cfg cfg') :
    ∃ m m', signCount cfg.state.db c = some m ∧ signCount cfg'.state.db c = some m' ∧ m ≤ m' := by
  induction hrun with
  | refl =>
    obtain ⟨m, hm⟩ := (counted_of_reachable hstored hc).stored
    exact ⟨m, m, hm, hm, le_refl m⟩
  | tail run step ih =>
    obtain ⟨m, m', hm, hm', hle⟩ := ih
    have hreach := Relation.ReflTransGen.trans hc run
    cases step with
    | arrive s ts input => exact ⟨m, m', hm, hm', hle⟩
    | world s s' ts e he => exact ⟨m, m', hm, (signCount_elsewhere he).trans hm', hle⟩
    | act s before after t op next ch hrest hallow =>
      have hg := guard_of_reachable hreach (mem_append_right _ mem_cons_self) hrest
      rcases (counted_of_reachable hstored hreach).count hrest hg ch with heq | ⟨k, n, -, -, hk, hkn, hn⟩
      · exact ⟨m, m', hm, heq.trans hm', hle⟩
      · obtain rfl := some.inj (hm'.symm.trans hk)
        exact ⟨m, n, hm, hn, le_trans hle hkn⟩

end

def SucceededWith (L : Libraries) (c : String) (n : Nat) (t : LoginThread) : Prop :=
  t.succeeded = true ∧ assertedID t.request = c ∧ carriedCount L t.request = some n

theorem counts_of_succeeded (hstored : ∃ n, signCount shared.db c = some n)
    (hc : (loginSystem L).Reachable comparesAlone shared cfg) (ht : t ∈ cfg.threads) {n : Nat}
    (hn : n ≠ 0) (h : SucceededWith L c n t) : Counts L c n t := by
  obtain ⟨hs, rfl, hcarried⟩ := h
  obtain ⟨out, hout⟩ := exists_of_succeeded hs
  rcases (ends_of_reachable hc ht hout).stored with
    ⟨row, hrow, -, m, hm, haccepted, hwritten⟩ | ⟨habsent, -⟩
  · obtain rfl := some.inj (hcarried.symm.trans hm)
    exact ⟨rfl, hcarried, ⟨row, hrow, haccepted.lt hn⟩, .inr hwritten⟩
  · rw [(counted_of_reachable hstored hc).present t ht rfl] at habsent
    cases habsent

/-- In a run in which no login reads the row of a credential between another one's read and
update of it, the count of a stored credential never gets smaller, and no two logins succeed with
the same count other than zero. -/
theorem sign_count_grows_of_comparesAlone (L : Libraries) (shared : Shared) (c : String)
    (hstored : (shared.db.storedCredential c).isSome = true) (cfg : LoginConfig)
    (hc : (loginSystem L).Reachable comparesAlone shared cfg) :
    (∀ cfg', Relation.ReflTransGen ((loginSystem L).Step comparesAlone) cfg cfg' →
      ∃ m m', signCount cfg.state.db c = some m ∧ signCount cfg'.state.db c = some m' ∧ m ≤ m') ∧
    cfg.threads.Pairwise fun t u =>
      ∀ n, n ≠ 0 → ¬ (SucceededWith L c n t ∧ SucceededWith L c n u) := by
  have hcount : ∃ n, signCount shared.db c = some n := by
    obtain ⟨row, hrow⟩ := isSome_iff_exists.mp hstored
    exact ⟨row.signCount, by simp [signCount, hrow]⟩
  refine ⟨fun cfg' hrun => signCount_le_of_run hcount hc hrun, ?_⟩
  refine (counted_of_reachable hcount hc).distinct.imp_of_mem fun ht hu h n hn hboth => ?_
  exact h n ⟨counts_of_succeeded hcount hc ht hn hboth.1, counts_of_succeeded hcount hc hu hn hboth.2⟩

end Runs

namespace Sample

open WebAuthn.Sample (credentialID coseKey)

def storedID : String := base64UrlEncode credentialID

def stored : Shared where
  db := { database with
    credentials := ⟨[registeredRow 10 1 ⟨credentialID, coseKey passkey, passkey, 4⟩ [] 0],
      List.nodup_singleton _, List.nodup_singleton _⟩ }
  nonces := []

def secondWrites : Moves :=
  [.arrive (login first), .arrive (login second)] ++ acts 0 3 0 ++ acts 1 3 0 ++ acts 1 3 0

theorem sign_count_falls :
    ∃ cfg cfg', (loginSystem libraries).Reachable System.anySchedule stored cfg ∧
      Relation.ReflTransGen ((loginSystem libraries).Step System.anySchedule) cfg cfg' ∧
      signCount cfg.state.db storedID = some 6 ∧ signCount cfg'.state.db storedID = some 5 ∧
      cfg'.threads.map Thread.succeeded = [true, true] := by
  refine exists_continued secondWrites (acts 0 3 0) ?_
  decide +kernel

def inTurn : Moves := [.arrive (login first), .arrive (login second)] ++ acts 0 5 0 ++ acts 1 6 0

theorem sign_count_grows_in_turn :
    ∃ cfg, (loginSystem libraries).Reachable comparesAlone stored cfg ∧
      signCount cfg.state.db storedID = some 6 ∧
      cfg.threads.Pairwise fun t u => ∀ n, n ≠ 0 →
        ¬ (SucceededWith libraries storedID n t ∧ SucceededWith libraries storedID n u) := by
  have hstored : (stored.db.storedCredential storedID).isSome = true := by decide +kernel
  refine exists_reachable_and inTurn ?_ fun cfg hrun _ =>
    (sign_count_grows_of_comparesAlone libraries stored storedID hstored cfg hrun).2
  decide +kernel

end Sample

end LatchApi.Login
