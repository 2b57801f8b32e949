import LatchApi.WebAuthn.Specs

namespace LatchApi.Ceremony

open Lib Program Store WebAuthn List Option Lib.System Lib.Thread

inductive Request where
  | beginRegistration (userID : Encoded Uuid) (rpID origin : String)
  | beginAuthentication (userID : Encoded Uuid) (rpID origin : String)
  | finishRegistration (input : FinishRegistrationInput)
  | finishAuthentication (input : FinishAuthenticationInput)

inductive Answer where
  | began (options : BeginOptions)
  | registered (cred : RegisteredCredential)
  | authenticated (cred : AuthenticatedCredential)

def body (L : Libraries) : Request → Service Answer
  | .beginRegistration userID rpID origin => do
    return .began (← beginRegistration userID rpID origin)
  | .beginAuthentication userID rpID origin => do
    return .began (← beginAuthentication userID rpID origin)
  | .finishRegistration input => do return .registered (← finishRegistration L input)
  | .finishAuthentication input => do return .authenticated (← finishAuthentication L input)

structure State where
  shared : Shared
  minted : Nat

def exec (mint : Nat → Uuid) (op : Op) (s : State) (ch : Choice) : Res op × State :=
  match op with
  | .newUUID => (mint s.minted, { s with minted := s.minted + 1 })
  | op =>
    let out := Store.exec op s.shared ch
    (out.1, { s with shared := out.2 })

def elsewhere (shared : Shared) (s : State) : Option State :=
  some { s with shared :=
    { shared with db := { shared.db with challenges := s.shared.db.challenges } } }

def ceremonySystem (L : Libraries) (mint : Nat → Uuid) :
    System Request Op Res CeremonyError Answer State Choice Shared where
  body := body L
  exec _ := exec mint
  world := elsewhere

abbrev CeremonyThread := Thread Request Op Res CeremonyError Answer

abbrev CeremonyConfig := Config Request Op Res CeremonyError Answer State

abbrev CeremonySchedule := System.Schedule Request Op Res CeremonyError Answer State

def start (shared : Shared) : State :=
  ⟨{ shared with db := { shared.db with challenges := .empty } }, 0⟩

abbrev History := Log Res

def mintOf : Event Res → Option Uuid
  | ⟨.newUUID, id⟩ => some id
  | _ => none

def readOf : Event Res → Option ChallengeRow
  | ⟨.read (.getLatestWebauthnChallenge _ _), .ok row⟩ => some row
  | _ => none

def deleteOf : Event Res → Option Uuid
  | ⟨.write (.deleteWebauthnChallenge id), .ok _⟩ => some id
  | _ => none

def isIssue (e : Event Res) : Bool :=
  e.1.effects.any fun
    | .insertWebauthnChallenge _ => true
    | _ => false

def minted (h : History) : List Uuid := h.filterMap mintOf

def reads (h : History) : List ChallengeRow := h.filterMap readOf

def deletes (h : History) : List Uuid := h.filterMap deleteOf

def Request.context : Request → Option (String × String)
  | .beginRegistration _ rpID origin => some (rpID, origin)
  | .beginAuthentication _ rpID origin => some (rpID, origin)
  | _ => none

def guard (req : Request) (h : History) : Op → Prop
  | .read (.getLatestWebauthnChallenge _ _) => req.context = none ∧ reads h = []
  | .write (.deleteWebauthnChallenge id) => ∃ row ∈ reads h, row.id = id
  | op => ∀ row, .insertWebauthnChallenge row ∈ op.effects →
    row.id ∈ minted h ∧ h.any isIssue = false ∧ req.context = some (row.rpID, row.origin)

def Request.verified (L : Libraries) (row : ChallengeRow) : Request → Prop
  | .finishRegistration input => ∃ a, verifyRegistration L input row = .ok a
  | .finishAuthentication input => ∃ authData, verifyAssertionData L input row = .ok authData
  | _ => False

def Consumed (row : ChallengeRow) (h : History) : Prop := row ∈ reads h ∧ row.id ∈ deletes h

def Ends (L : Libraries) (req : Request) (h : History) : Prop :=
  req.context = none → ∃ row, Consumed row h ∧ req.verified L row

variable {row : ChallengeRow}

section Obeys

variable {req : Request} {h : History} {L : Libraries}

theorem guard_of_quiet {op : Op} (hop : quiet op = true) : guard req h op := by
  unfold guard
  split
  · cases hop
  · cases hop
  · intro row hrow
    rw [effects_of_quiet hop] at hrow
    cases hrow

theorem free_guard {J : History → Prop} (hJ : ∀ h e, J h → J (e :: h)) : Free (guard req) J :=
  ⟨fun _ _ hop => guard_of_quiet hop, fun h e _ => hJ h e⟩

theorem mem_reads_cons (h : History) (e : Event Res) (hrow : row ∈ reads h) : row ∈ reads (e :: h) :=
  filterMap_subset _ (subset_cons_self _ _) hrow

theorem Consumed.cons (h : History) (e : Event Res) (hc : Consumed row h) : Consumed row (e :: h) :=
  ⟨mem_reads_cons h e hc.1, filterMap_subset _ (subset_cons_self _ _) hc.2⟩

theorem consumed_delete (h : History) (hrow : row ∈ reads h) :
    Consumed row (written (.deleteWebauthnChallenge row.id) :: h) :=
  ⟨mem_reads_cons h _ hrow, mem_cons_self⟩

theorem obeys_beginCeremony (purpose : Purpose) (userID : Encoded Uuid) {rpID origin : String}
    (hctx : req.context = some (rpID, origin)) :
    Obeys (guarded (guard req)) [] (beginCeremony purpose userID rpID origin)
      (onOk fun _ _ => True) := by
  refine Obeys.bind_onOk (P := fun _ _ => True) ?_ fun h₁ challengeB64 _ => ?_
  · refine obeys_perform_bind (guard_of_quiet rfl) fun raw _ => obeys_parseUserID_bind fun uid => ?_
    refine obeys_perform_bind (guard_of_quiet rfl) fun now _ => ?_
    refine obeys_perform_bind (guard_of_quiet rfl) fun id _ => ?_
    refine obeys_execute_bind (fun row hrow => ?_) (.ok trivial)
    obtain rfl := Write.insertWebauthnChallenge.inj (mem_singleton.mp hrow)
    exact ⟨mem_cons_self, rfl, hctx⟩
  · refine obeys_parseUserID_bind fun uid => ?_
    refine obeys_perform_bind (guard_of_quiet rfl) fun rows _ => ?_
    exact obeys_orFail_bind fun _ _ => .ok trivial

theorem obeys_finishRegistration (input : FinishRegistrationInput) :
    Obeys (guarded (guard (.finishRegistration input))) [] (finishRegistration L input) (onOk fun h' _ =>
      ∃ row, Consumed row h' ∧ (Request.finishRegistration input).verified L row) := by
  refine obeys_getActiveChallenge_bind (fun _ => ⟨rfl, rfl⟩) (fun _ => guard_of_quiet rfl)
    fun uid row now => obeys_ofExcept_bind fun a ha => ?_
  refine obeys_storeRegistration (J := Consumed row) (free_guard Consumed.cons)
    ⟨row, mem_cons_self, rfl⟩ (consumed_delete _ mem_cons_self)
    fun h' id uid now out hc _ => ⟨?_, row, hc.cons _ _, a, ha⟩
  simp [guard, Op.effects]

theorem obeys_finishAuthentication (input : FinishAuthenticationInput) :
    Obeys (guarded (guard (.finishAuthentication input))) [] (finishAuthentication L input) (onOk fun h' _ =>
      ∃ row, Consumed row h' ∧ (Request.finishAuthentication input).verified L row) := by
  refine obeys_getActiveChallenge_bind (fun _ => ⟨rfl, rfl⟩) (fun _ => guard_of_quiet rfl)
    fun uid row now => obeys_ofExcept_bind fun authData hdata => ?_
  refine obeys_perform_bind (by simp [guard, Op.effects]) fun r _ => ?_
  rcases r with (_ | _) | cred
  · refine obeys_adoptExternalPasskey (fun h' ws owner _ hc ha => ⟨?_, row, hc.cons _ _, authData, hdata⟩)
      (free_guard mem_reads_cons) (free_guard Consumed.cons) mem_cons_self
      fun h' hrow => ⟨⟨row, hrow, rfl⟩, consumed_delete h' hrow⟩
    obtain ⟨user, account, rfl⟩ := ha.writes
    simp [guard, Op.effects]
  · exact .fail trivial
  · refine obeys_ofExcept_bind fun _ _ => obeys_ofExcept_bind fun _ _ => ?_
    refine obeys_execute_bind ⟨row, mem_cons_self, rfl⟩ ?_
    refine obeys_execute_bind (by simp [guard, Op.effects]) ?_
    refine obeys_execute_bind (by simp [guard, Op.effects]) (.ok ⟨row, ⟨?_, ?_⟩, authData, hdata⟩)
    · exact mem_cons_self
    · exact mem_cons_self

theorem obeys_body (L : Libraries) (req : Request) :
    Obeys (guarded (guard req)) [] (body L req) (onOk fun h' _ => Ends L req h') := by
  cases req with
  | beginRegistration userID rpID origin =>
    refine Obeys.bind_onOk (P := fun _ _ => True) ?_ fun _ _ _ => .ok fun hctx => by cases hctx
    refine (obeys_beginCeremony .registration userID rfl).bind_onOk fun h₁ out _ => ?_
    exact obeys_perform_bind (guard_of_quiet rfl) fun _ _ => .ok trivial
  | beginAuthentication userID rpID origin =>
    refine Obeys.bind_onOk (P := fun _ _ => True) ?_ fun _ _ _ => .ok fun hctx => by cases hctx
    exact (obeys_beginCeremony .authentication userID rfl).bind_onOk fun _ _ _ => .ok trivial
  | finishRegistration input =>
    exact (obeys_finishRegistration input).bind_onOk fun _ _ hend => .ok fun _ => hend
  | finishAuthentication input =>
    exact (obeys_finishAuthentication input).bind_onOk fun _ _ hend => .ok fun _ => hend

end Obeys

section Exec

theorem mem_challenges_apply {w : Write} {db db' : Db} (h : w.apply db = some db')
    (hrow : row ∈ db'.challenges.rows) :
    row ∈ db.challenges.rows ∨ w = .insertWebauthnChallenge row := by
  cases w with
  | insertWebauthnChallenge new =>
    obtain ⟨t, ht, rfl⟩ := map_eq_some_iff.mp h
    rcases (Table.mem_insert ht).mp hrow with hrow | rfl
    · exact .inl hrow
    · exact .inr rfl
  | deleteWebauthnChallenge id =>
    cases h
    exact .inl (Table.mem_delete.mp hrow).1
  | insertWebappUser _ | insertWebappSession _ | upsertWebauthnCredential _
  | upsertSmartAccount _ | insertSessionProvedCredential _ | upsertPasskeyCredential _ =>
    obtain ⟨t, -, rfl⟩ := map_eq_some_iff.mp h
    exact .inl hrow
  | _ =>
    cases h
    exact .inl hrow

theorem mem_challenges_applyAll {ws : List Write} {db db' : Db} (h : applyAll db ws = some db')
    (hrow : row ∈ db'.challenges.rows) :
    row ∈ db.challenges.rows ∨ .insertWebauthnChallenge row ∈ ws := by
  induction ws generalizing db with
  | nil =>
    cases h
    exact .inl hrow
  | cons w ws ih =>
    obtain ⟨db₁, hw, h⟩ := bind_eq_some_iff.mp h
    rcases ih h with hrow | hmem
    · rcases mem_challenges_apply hw hrow with hrow | rfl
      · exact .inl hrow
      · exact .inr mem_cons_self
    · exact .inr (mem_cons_of_mem _ hmem)

variable {mint : Nat → Uuid} {op : Op} {s : State} {ch : Choice} {req : Request} {h : History}

theorem exec_shared : (exec mint op s ch).2.shared = (Store.exec op s.shared ch).2 := by
  cases op <;> rfl

theorem legal_exec : legal op (exec mint op s ch).1 := by
  cases op with
  | txWrite ws w => exact exec_legal (.txWrite ws w) s.shared ch
  | _ => trivial

theorem mem_challenges_exec (hrow : row ∈ (exec mint op s ch).2.shared.db.challenges.rows) :
    row ∈ s.shared.db.challenges.rows ∨ .insertWebauthnChallenge row ∈ op.effects := by
  rw [exec_shared] at hrow
  rcases exec_db op s.shared ch with hdb | hdb
  · rw [hdb] at hrow
    exact .inl hrow
  · exact mem_challenges_applyAll hdb hrow

theorem guard_issue (hg : guard req h op) (hrow : .insertWebauthnChallenge row ∈ op.effects) :
    row.id ∈ minted h ∧ h.any isIssue = false ∧ req.context = some (row.rpID, row.origin) := by
  unfold guard at hg
  split at hg
  · cases hrow
  · cases mem_singleton.mp hrow
  · exact hg row hrow

theorem isIssue_of_mem (r : Res op)
    (hrow : .insertWebauthnChallenge row ∈ op.effects) : isIssue ⟨op, r⟩ = true :=
  any_eq_true.mpr ⟨_, hrow, rfl⟩

theorem exec_read (h : readOf ⟨op, (exec mint op s ch).1⟩ = some row) :
    ∃ uid purpose, op = .read (.getLatestWebauthnChallenge uid purpose) ∧
      row ∈ s.shared.db.challenges.rows ∧ row.userID = some uid ∧ row.purpose = purpose := by
  cases op with
  | read q =>
    cases q with
    | getLatestWebauthnChallenge uid purpose =>
      refine ⟨uid, purpose, rfl, ?_⟩
      simp only [exec, Store.exec] at h
      split_ifs at h
      · cases hans : Query.answer s.shared.db ch.pick (.getLatestWebauthnChallenge uid purpose) with
        | error e =>
          rw [hans] at h
          cases h
        | ok found =>
          rw [hans] at h
          cases h
          exact challenge_of_answer hans
      · cases h
    | _ => cases h
  | _ => cases h

theorem exec_delete {id : Uuid} (h : deleteOf ⟨op, (exec mint op s ch).1⟩ = some id) :
    op = .write (.deleteWebauthnChallenge id) ∧
      ∀ row ∈ (exec mint op s ch).2.shared.db.challenges.rows, row.id ≠ id := by
  cases op with
  | write w =>
    cases w with
    | deleteWebauthnChallenge id' =>
      simp only [exec, Store.exec, Write.apply] at h ⊢
      cases hf : ch.fault with
      | none =>
        rw [hf] at h
        cases h
        refine ⟨rfl, fun row hrow => ?_⟩
        simpa using (Table.mem_delete.mp hrow).2
      | before | after =>
        rw [hf] at h
        cases h
    | _ => cases h
  | _ => cases h

theorem exec_mint {id : Uuid} (h : mintOf ⟨op, (exec mint op s ch).1⟩ = some id) :
    id = mint s.minted ∧ (exec mint op s ch).2.minted = s.minted + 1 := by
  cases op with
  | newUUID => exact ⟨(some.inj h).symm, rfl⟩
  | _ => cases h

theorem minted_le_exec : s.minted ≤ (exec mint op s ch).2.minted := by
  cases op with
  | newUUID => exact Nat.le_succ _
  | _ => exact Nat.le_refl _

end Exec

structure Issued (row : ChallengeRow) (t : CeremonyThread) : Prop where
  issue : t.history.any isIssue = true
  id : row.id ∈ minted t.history
  context : t.request.context = some (row.rpID, row.origin)

structure Traced (c : CeremonyConfig) : Prop where
  issued : ∀ row ∈ c.state.shared.db.challenges.rows, ∃ t ∈ c.threads, Issued row t
  read : ∀ u ∈ c.threads, ∀ row ∈ reads u.history, ∃ t ∈ c.threads, Issued row t
  single : ∀ u ∈ c.threads, ∀ row ∈ reads u.history,
    u.request.context = none ∧ reads u.history = [row]
  deleted : ∀ u ∈ c.threads, ∀ id ∈ deletes u.history, ∃ row ∈ reads u.history, row.id = id

section Runs

variable {L : Libraries} {mint : Nat → Uuid} {s : State} {before after ts : List CeremonyThread}
  {t : CeremonyThread} {op : Op} {next : Res op → Service Answer}

theorem Issued.advance {r : Res op} (h : Issued row t) : Issued row (t.advance op r next) := by
  refine ⟨?_, filterMap_subset _ (subset_cons_self _ _) h.id, h.context⟩
  rw [advance_history, any_cons, h.issue, Bool.or_true]

theorem exists_issued_advance {r : Res op} (h : ∃ u ∈ before ++ t :: after, Issued row u) :
    ∃ u ∈ before ++ t.advance op r next :: after, Issued row u :=
  exists_advanced h (fun _ h => h) Issued.advance

theorem Traced.act (ch : Choice) (hg : guard t.request t.history op)
    (h : Traced ⟨s, before ++ t :: after⟩) :
    Traced ⟨(exec mint op s ch).2, before ++ t.advance op (exec mint op s ch).1 next :: after⟩ := by
  have ht : t ∈ before ++ t :: after := by simp
  refine ⟨fun row hrow => ?_, ?_, ?_, ?_⟩
  · rcases mem_challenges_exec hrow with hrow | hnew
    · exact exists_issued_advance (h.issued row hrow)
    obtain ⟨hid, -, hctx⟩ := guard_issue hg hnew
    refine ⟨_, mem_append_right _ mem_cons_self, ?_, ?_, hctx⟩
    · rw [advance_history, any_cons, isIssue_of_mem _ hnew, Bool.true_or]
    · exact filterMap_subset _ (subset_cons_self _ _) hid
  · refine forall_advanced h.read
      (fun u hu row hrow => exists_issued_advance (hu row hrow)) fun row hrow => ?_
    rcases mem_view_advance hrow with hrow | hnew
    · exact exists_issued_advance (h.read t ht row hrow)
    · obtain ⟨-, -, -, hstored, -⟩ := exec_read hnew
      exact exists_issued_advance (h.issued row hstored)
  · refine forall_advanced h.single (fun _ h => h) fun row hrow => ?_
    rw [reads, advance_history, filterMap_cons] at hrow ⊢
    cases hnew : readOf ⟨op, (exec mint op s ch).1⟩ with
    | none =>
      rw [hnew] at hrow
      exact h.single t ht row hrow
    | some found =>
      obtain ⟨uid, purpose, rfl, -⟩ := exec_read hnew
      obtain ⟨hctx, hfirst⟩ : _ ∧ reads t.history = [] := hg
      rw [reads] at hfirst
      rw [hnew, hfirst] at hrow
      rw [mem_singleton.mp hrow, hfirst]
      exact ⟨hctx, rfl⟩
  · refine forall_advanced h.deleted (fun _ h => h) fun id hid => ?_
    have hmono : reads t.history ⊆ reads (t.advance op (exec mint op s ch).1 next).history :=
      filterMap_subset _ (subset_cons_self _ _)
    rcases mem_view_advance hid with hid | hnew
    · obtain ⟨row, hrow, heq⟩ := h.deleted t ht id hid
      exact ⟨row, hmono hrow, heq⟩
    obtain ⟨rfl, -⟩ := exec_delete hnew
    obtain ⟨row, hrow, heq⟩ := hg
    exact ⟨row, hmono hrow, heq⟩

theorem Traced.arrive (req : Request) (h : Traced ⟨s, ts⟩) :
    Traced ⟨s, ts ++ [⟨req, [], body L req⟩]⟩ := by
  have hkeep : ∀ {row}, (∃ t ∈ ts, Issued row t) →
      ∃ t ∈ ts ++ [⟨req, [], body L req⟩], Issued row t :=
    fun ⟨t, ht, h⟩ => ⟨t, mem_append_left _ ht, h⟩
  refine ⟨fun row hrow => hkeep (h.issued row hrow), ?_, ?_, ?_⟩
  · exact forall_arrived (fun u hu row hrow => hkeep (h.read u hu row hrow)) (by simp [reads])
  · exact forall_arrived h.single (by simp [reads])
  · exact forall_arrived h.deleted (by simp [deletes])

theorem Traced.elsewhere (other : Shared) (h : Traced ⟨s, ts⟩) : Traced ⟨{ s with shared :=
      { other with db := { other.db with challenges := s.shared.db.challenges } } }, ts⟩ :=
  ⟨h.issued, h.read, h.single, h.deleted⟩

variable {shared : Shared} {c : CeremonyConfig} {allow : CeremonySchedule}

theorem traced_of_reachable
    (hc : (ceremonySystem L mint).Reachable allow (start shared) c) : Traced c := by
  refine Reachable.invariant (fun req => guarded (guard req)) Traced
    (fun req => (obeys_body L req).mono fun _ _ _ => trivial) ?_ ?_ ?_ ?_ ?_ hc
  · exact fun t op s ch => legal_exec
  · constructor <;> simp [start, Table.empty]
  · exact fun s ts req h => h.arrive req
  · intro s s' ts e he h
    cases he
    exact h.elsewhere e
  · exact fun s before after t op next ch _ _ hg h => h.act ch hg

theorem ends_of_reachable (hc : (ceremonySystem L mint).Reachable allow (start shared) c)
    (ht : t ∈ c.threads) (hs : t.succeeded = true) : Ends L t.request t.history := by
  obtain ⟨a, ha⟩ := exists_of_succeeded hs
  exact hc.ended (fun req => guarded (guard req)) (obeys_body L) (fun _ _ _ _ => legal_exec) ht ha

end Runs

end LatchApi.Ceremony
