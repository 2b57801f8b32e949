import LatchApi.Bundler.Gasless
import LatchApi.Multisig.UnderWay

/-!
When a proposal counts as executed. The submissions of the service keep a log of what the node
and the relayer have said about a transaction, and the status of a proposal is compared with it.
-/

namespace LatchApi.Multisig

open Lib Program Soroban Store Bundler List Lib.System

inductive Heard where
  | transaction (hash : String) (status : TransactionStatus)
  | record (rec : GaslessRecord)
  | expired (last : GaslessRecord)
deriving DecidableEq

def Heard.unfinished (hash : String) : Heard → Bool
  | .transaction h status => h == hash && (status == .notFound || status == .pending)
  | _ => false

def Heard.confirms (hash : String) : Heard → Bool
  | .transaction h (.success _) => h == hash
  | .record rec => rec.status == .success && rec.txHash == hash
  | _ => false

def Confirms (log : List Heard) (hash : String) : Prop := ∃ x ∈ log, x.confirms hash = true

/-- The node has told the fate of the transaction before the last poll, and the relayer has told
that of a transaction it named before the budget was used up. -/
structure Decided (log : List Heard) : Prop where
  polls : ∀ hash, log.countP (Heard.unfinished hash) < submitPollAttempts
  relayed : ∀ last, .expired last ∈ log → last.txHash = ""

structure Watched where
  base : State
  heard : List (List Heard)

structure Hearing where
  base : Choice
  reads : Nat
  relayer : Script GaslessRes

namespace Hearing

variable (c : Hearing)

def relay (mode : GaslessMode) (wallet requestID : String) (tx : Transaction) :
    Except (GaslessError × String) String × RelayerLog :=
  (gaslessServiceSubmit c.reads mode wallet requestID tx).runWith c.relayer []

def rpc : Script TxRes
  | _, .gaslessSubmit mode wallet requestID tx => (c.relay mode wallet requestID tx).1
  | h, op => c.base.rpc h op

def choice : Choice := { c.base with rpc := c.rpc }

def heardFrom (e : Event GaslessRes) : List Heard :=
  ((recordIn e).map Heard.record).toList ++ ((expiredIn e).map Heard.expired).toList

def heardIn : Event TxRes → List Heard
  | ⟨.getTransaction hash, .ok status⟩ => [.transaction hash status]
  | ⟨.gaslessSubmit mode wallet requestID tx, _⟩ =>
    (c.relay mode wallet requestID tx).2.flatMap heardFrom
  | _ => []

def log (cfg : TxConfig) (job : Job) : List Heard := (job.submit cfg c.choice).2.flatMap c.heardIn

def logs (cfg : TxConfig) : MsOp → List (List Heard)
  | .submitAuthEntries job => [c.log cfg job]
  | _ => []

end Hearing

def watchedExec (cfg : TxConfig) (op : MsOp) (s : Watched) (c : Hearing) : MsRes op × Watched :=
  ((exec cfg op s.base c.choice).1, ⟨(exec cfg op s.base c.choice).2, c.logs cfg op ++ s.heard⟩)

def watchedSystem (cfg : TxConfig) (X : Codec) :
    System Request MsOp MsRes MultisigError Reply Watched Hearing ChainEvent where
  body req := req.body cfg X
  exec _ op s c := watchedExec cfg op s c
  world e s := (s.base.chain.step e).map fun chain => ⟨{ s.base with chain := chain }, s.heard⟩

abbrev WatchedRun := Config Request MsOp MsRes MultisigError Reply Watched

def ExecutedConfirmed (s : Watched) : Prop :=
  ∀ row ∈ s.base.db.proposals.rows, row.status = .executed →
    ∃ log ∈ s.heard, Confirms log (strOrEmpty row.executedTxHash)

variable {hash : String}

section Submission

variable {c : Hearing} {cfg : TxConfig}

variable {mode : GaslessMode} {wallet requestID : String} {tx : Transaction}

theorem relay_outcome :
    RelayerOutcome (c.relay mode wallet requestID tx).2 (c.relay mode wallet requestID tx).1 :=
  (obeys_gaslessServiceSubmit c.reads mode wallet requestID tx).runWith fun _ _ => trivial

theorem confirms_of_relayed (h : (c.relay mode wallet requestID tx).1 = .ok hash) :
    Confirms ((c.relay mode wallet requestID tx).2.flatMap Hearing.heardFrom) hash := by
  have hrests := h ▸ relay_outcome
  obtain ⟨e, he, hrec⟩ := mem_filterMap.mp hrests
  refine ⟨.record ⟨.success, hash⟩, mem_flatMap.mpr ⟨e, he, ?_⟩, ?_⟩
  · simp [Hearing.heardFrom, hrec]
  · simp [Heard.confirms]

theorem expired_of_relayed (h : (c.relay mode wallet requestID tx).1 = .error (.pending, hash)) :
    ∃ last, .expired last ∈ (c.relay mode wallet requestID tx).2.flatMap Hearing.heardFrom ∧
      last.txHash = hash := by
  have hrests := h ▸ relay_outcome
  obtain ⟨last, hlast, hhash⟩ := hrests rfl
  obtain ⟨e, he, hexpired⟩ := mem_filterMap.mp hlast
  refine ⟨last, mem_flatMap.mpr ⟨e, he, ?_⟩, hhash⟩
  simp [Hearing.heardFrom, hexpired]

theorem countP_unfinished_le (c : Hearing) (hash : String) (h : TxLog) :
    h.countP (unfinishedPoll hash) ≤ (h.flatMap c.heardIn).countP (Heard.unfinished hash) := by
  induction h with
  | nil => exact Nat.le_refl _
  | cons e h ih =>
    rw [flatMap_cons, countP_append, countP_cons]
    have hone : (if unfinishedPoll hash e = true then 1 else 0) ≤
        (c.heardIn e).countP (Heard.unfinished hash) := by
      split_ifs with he
      · obtain ⟨op, r⟩ := e
        cases op with
        | getTransaction h' =>
          rcases r with _ | status
          · simp [unfinishedPoll] at he
          have hu : Heard.unfinished hash (.transaction h' status) = true := by
            simpa [unfinishedPoll, Heard.unfinished] using he
          simp [Hearing.heardIn, hu]
        | _ => cases he
      · exact Nat.zero_le _
    omega

theorem confirms_of_submit {job : Job} {result : SubmitResult}
    (h : (job.submit cfg c.choice).1 = .ok result) (hdecided : Decided (c.log cfg job)) :
    Confirms (c.log cfg job) result.hash := by
  have hrests : onOk Rests (job.submit cfg c.choice).2 (job.submit cfg c.choice).1 :=
    (rests_submitWithBundler cfg job.txXdr job.entries).runWith fun _ _ => trivial
  rw [h] at hrests
  have hanswer : ∀ r, r ∈ (job.submit cfg c.choice).2.filterMap relayedIn →
      ∃ mode wallet requestID tx, (c.relay mode wallet requestID tx).1 = r ∧
        ∀ x ∈ (c.relay mode wallet requestID tx).2.flatMap Hearing.heardFrom, x ∈ c.log cfg job := by
    intro r hr
    obtain ⟨⟨op, answer⟩, he, hr⟩ := mem_filterMap.mp hr
    cases op with
    | gaslessSubmit mode wallet requestID tx =>
      obtain rfl := Option.some.inj hr
      refine ⟨mode, wallet, requestID, tx, ?_, fun x hx => mem_flatMap.mpr ⟨_, he, hx⟩⟩
      rcases mem_runWith he with hnil | ⟨h', hscript⟩
      · cases hnil
      · exact hscript.symm
    | _ => cases hr
  obtain ⟨hash, status, text⟩ := result
  cases status with
  | success =>
    rcases hrests with hsettled | hrelayed
    · obtain ⟨⟨op, answer⟩, he, hhash⟩ := mem_filterMap.mp hsettled
      cases op with
      | getTransaction h' =>
        rcases answer with _ | status
        · cases hhash
        cases status with
        | success resultMeta =>
          obtain rfl := Option.some.inj hhash
          refine ⟨.transaction h' (.success resultMeta), mem_flatMap.mpr ⟨_, he, ?_⟩, ?_⟩
          · simp [Hearing.heardIn]
          · simp [Heard.confirms]
        | _ => cases hhash
      | _ => cases hhash
    · obtain ⟨mode, wallet, requestID, tx, hanswer, hlog⟩ := hanswer _ hrelayed
      obtain ⟨x, hx, hconfirms⟩ := confirms_of_relayed hanswer
      exact ⟨x, hlog x hx, hconfirms⟩
  | pending =>
    rcases hrests with hpolls | ⟨hrelayed, hhash⟩
    · have hfew := hdecided.polls hash
      have hle := countP_unfinished_le c hash (job.submit cfg c.choice).2
      exact absurd (Nat.le_trans hpolls hle) (Nat.not_le.mpr hfew)
    · obtain ⟨mode, wallet, requestID, tx, hanswer, hlog⟩ := hanswer _ hrelayed
      obtain ⟨last, hlast, hname⟩ := expired_of_relayed hanswer
      exact absurd (hname.symm.trans (hdecided.relayed last (hlog _ hlast))) hhash

end Submission

section Writes

theorem executed_origin {op : MsOp} {h : History} {db db' : Db} (hstep : DbStep op db db')
    (hg : submittedFirst.guard h op) {row : ProposalRow} (hrow : row ∈ db'.proposals.rows)
    (hstatus : row.status = .executed) :
    (∃ old ∈ db.proposals.rows, old.status = .executed ∧ old.executedTxHash = row.executedTxHash) ∨
      ∃ hash ∈ h.filterMap submittedIn, row.executedTxHash = nullStr hash := by
  cases hstep with
  | same => exact .inl ⟨row, hrow, hstatus, rfl⟩
  | register hop hreg =>
    rw [(register_eq_some hreg).1.1] at hrow
    exact .inl ⟨row, hrow, hstatus, rfl⟩
  | write hop hw =>
    subst hop
    cases (write_eq_some hw).2.1 row hrow with
    | kept hrow => exact .inl ⟨row, hrow, hstatus, rfl⟩
    | inserted =>
      have hpending : row.status = .pending := hg
      rw [hpending] at hstatus
      cases hstatus
    | rebuilt hold => exact .inl ⟨_, hold, hstatus, rfl⟩
    | executed hold => exact .inr hg

end Writes

section Run

def Watched.Backs (s : Watched) (hash : String) : Prop :=
  ∃ log ∈ s.heard, Decided log → Confirms log hash

structure Accounted (c : WatchedRun) : Prop where
  rows : ∀ row ∈ c.state.base.db.proposals.rows, row.status = .executed →
    c.state.Backs (strOrEmpty row.executedTxHash)
  submitted : ∀ t ∈ c.threads, ∀ hash ∈ t.history.filterMap submittedIn, c.state.Backs hash

variable {cfg : TxConfig} {X : Codec} {s : Watched} {t : MsThread} {op : MsOp}
  {next : MsRes op → Service Reply} (c : Hearing)

theorem Backs.step (h : s.Backs hash) : (watchedExec cfg op s c).2.Backs hash := by
  obtain ⟨log, hlog, hconfirms⟩ := h
  exact ⟨log, mem_append_right _ hlog, hconfirms⟩

theorem backs_of_submittedIn (h : submittedIn ⟨op, (watchedExec cfg op s c).1⟩ = some hash) :
    (watchedExec cfg op s c).2.Backs hash := by
  cases op with
  | submitAuthEntries job =>
    cases hresult : (job.submit cfg c.choice).1 with
    | error e =>
      simp [watchedExec, exec, hresult, submittedIn] at h
    | ok result =>
      have hhash : result.hash = hash := by
        simpa [watchedExec, exec, hresult, submittedIn] using h
      subst hhash
      exact ⟨c.log cfg job, mem_cons_self, confirms_of_submit hresult⟩
  | _ => cases h

theorem accounted_act {before after : List MsThread} (hg : submittedFirst.guard t.history op)
    (hinv : Accounted ⟨s, before ++ t :: after⟩) :
    Accounted ⟨(watchedExec cfg op s c).2,
      before ++ t.advance op (watchedExec cfg op s c).1 next :: after⟩ where
  rows := by
    intro row hrow hstatus
    rcases executed_origin (exec_dbStep cfg op s.base c.choice) hg hrow hstatus with
      ⟨old, hold, hold_status, hhash⟩ | ⟨hash, hmem, hhash⟩
    · rw [← hhash]
      exact Backs.step c (hinv.rows old hold hold_status)
    · rw [hhash, strOrEmpty_nullStr]
      exact Backs.step c (hinv.submitted t (by simp) hash hmem)
  submitted := by
    refine forall_advanced hinv.submitted (fun u hu hash hhash => Backs.step c (hu hash hhash))
      fun hash hhash => ?_
    rcases Thread.mem_view_advance hhash with hold | hnew
    · exact Backs.step c (hinv.submitted t (by simp) hash hold)
    · exact backs_of_submittedIn c hnew

theorem Reachable.accounted {c : WatchedRun} (hs : ExecutedConfirmed s)
    (h : (watchedSystem cfg X).Reachable System.anySchedule s c) : Accounted c := by
  refine Reachable.invariant (fun _ => submittedFirst) Accounted (fun req =>
    (full_requestBody cfg X req).weaken (fun _ _ hg => hg.2.2.2) fun _ _ _ => trivial)
    (fun _ _ _ _ => trivial) ?_ ?_ ?_ ?_ h
  · refine ⟨fun row hrow hstatus => ?_, by simp⟩
    obtain ⟨log, hlog, hconfirms⟩ := hs row hrow hstatus
    exact ⟨log, hlog, fun _ => hconfirms⟩
  · intro s ts req hinv
    exact ⟨hinv.rows, forall_arrived hinv.submitted fun _ hhash => nomatch hhash⟩
  · intro s s' ts e hworld hinv
    obtain ⟨chain, -, rfl⟩ := Option.map_eq_some_iff.mp hworld
    exact ⟨hinv.rows, hinv.submitted⟩
  · intro s before after t op next c hrest _ hg hinv
    exact accounted_act c hg hinv

/-- In every run whose submissions have all heard how they ended, an executed proposal has a
transaction that was seen to succeed. -/
theorem executed_confirmed_when_decided (cfg : TxConfig) (X : Codec) (s : Watched) (c : WatchedRun)
    (hs : ExecutedConfirmed s) (h : (watchedSystem cfg X).Reachable System.anySchedule s c)
    (hdecided : ∀ log ∈ c.state.heard, Decided log) : ExecutedConfirmed c.state := by
  intro row hrow hstatus
  obtain ⟨log, hlog, hconfirms⟩ := (Reachable.accounted hs h).rows row hrow hstatus
  exact ⟨log, hlog, hconfirms (hdecided log hlog)⟩

end Run

namespace Sample

open Bundler.Sample

def watched : Watched := ⟨start, []⟩

theorem watched_confirmed : ExecutedConfirmed watched := by
  intro row hrow hstatus
  obtain rfl := mem_singleton.mp hrow
  cases hstatus

def relayerDown : Script GaslessRes
  | _, .post _ _ _ _ => none
  | _, .get _ => none
  | _, .pause => false
  | _, .contextDone => true
  | _, .expired _ => ()

def polled (status : TransactionStatus) : Hearing where
  base := { answers 2 with rpc := rpcAnswers (.ok status) }
  reads := 0
  relayer := relayerDown

def executeOnce (status : TransactionStatus) : List (System.Move Request Hearing ChainEvent) :=
  .arrive (.execute 1 (some 1)) :: List.replicate 6 (.act 0 (polled status))

def executedHash (c : WatchedRun) : Option (ProposalStatus × Option String) :=
  (c.state.base.db.proposal 1).map fun row => (row.status, row.executedTxHash)

theorem executed_after_success : ∃ c : WatchedRun,
    executedHash c = some (.executed, some "hash") ∧ ExecutedConfirmed c.state := by
  have h : ∃ c ∈ (watchedSystem config noCodec).schedule anySchedule ⟨watched, []⟩
      (executeOnce (.success "")), executedHash c = some (.executed, some "hash") ∧
        c.state.heard = [[.transaction "hash" (.success "")]] := by
    decide +kernel
  obtain ⟨c, hc, hexecuted, hheard⟩ := h
  refine ⟨c, hexecuted, executed_confirmed_when_decided config noCodec watched c watched_confirmed
    (schedule_sound _ _ _ hc) fun log hlog => ?_⟩
  rw [hheard, mem_singleton] at hlog
  subst hlog
  exact ⟨fun hash => by simp [Heard.unfinished, submitPollAttempts], by simp⟩

theorem executed_without_news : ∃ c : WatchedRun,
    (watchedSystem config noCodec).Reachable System.anySchedule watched c ∧
      ¬ ExecutedConfirmed c.state := by
  have h : ∃ c ∈ (watchedSystem config noCodec).schedule anySchedule ⟨watched, []⟩
      (executeOnce .notFound), (∃ row ∈ c.state.base.db.proposals.rows, row.status = .executed) ∧
        ∀ log ∈ c.state.heard, ∀ x ∈ log, x = .transaction "hash" .notFound := by
    decide +kernel
  obtain ⟨c, hc, ⟨row, hrow, hstatus⟩, hheard⟩ := h
  refine ⟨c, schedule_sound _ _ _ hc, fun hconfirmed => ?_⟩
  obtain ⟨log, hlog, x, hx, hconfirms⟩ := hconfirmed row hrow hstatus
  rw [hheard log hlog x hx] at hconfirms
  cases hconfirms

end Sample

end LatchApi.Multisig
