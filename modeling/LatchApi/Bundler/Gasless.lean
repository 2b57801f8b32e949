import LatchApi.Bundler.Batch
import LatchApi.Lib.Eval

namespace LatchApi.Bundler

open Lib Program Soroban

inductive GaslessStatus where
  | pending
  | unconfirmed
  | success
  | failed
  | rejected
  | other (text : String)
deriving DecidableEq

structure GaslessRecord where
  status : GaslessStatus
  txHash : String
deriving DecidableEq

def isGaslessFinal (status : GaslessStatus) : Bool :=
  status == .success || status == .failed || status == .rejected

structure GaslessResponse where
  httpStatus : Nat
  record : Option GaslessRecord
  errorCode : String

inductive GaslessOp where
  | post (mode : GaslessMode) (wallet requestID : String) (tx : Transaction)
  | get (requestID : String)
  | pause
  | contextDone
  | expired (last : GaslessRecord)

@[reducible] def GaslessRes : GaslessOp → Type
  | .post _ _ _ _ => Option GaslessResponse
  | .get _ => Option GaslessResponse
  | .pause => Bool
  | .contextDone => Bool
  | .expired _ => Unit

abbrev Relayer (α : Type) := Program GaslessOp GaslessRes (GaslessError × String) α

def refusalKind (httpStatus : Nat) (code : String) : GaslessError :=
  if code = "forward_failure_limit" then .tooManyFailures
  else if code = "forward_in_flight_limit" then .unavailable
  else if httpStatus = 429 then .limited
  else if httpStatus = 401 ∨ 500 ≤ httpStatus then .unavailable
  else .refused

def gaslessCall : Option GaslessResponse → Except GaslessError GaslessRecord
  | none => .error .unavailable
  | some r =>
    if r.httpStatus = 200 ∨ r.httpStatus = 202 then
      match r.record with
      | some rec => .ok rec
      | none => .error .other
    else .error (refusalKind r.httpStatus r.errorCode)

def giveUp (last : GaslessRecord) : Relayer GaslessRecord := do
  perform (GaslessOp.expired last)
  .fail (.pending, last.txHash)

def awaitFinal (requestID : String) : Nat → GaslessRecord → Relayer GaslessRecord
  | 0, last => if isGaslessFinal last.status then .ok last else giveUp last
  | reads + 1, last =>
    if isGaslessFinal last.status then .ok last
    else do
      if ← perform GaslessOp.pause then
        match gaslessCall (← perform (GaslessOp.get requestID)) with
        | .ok next => awaitFinal requestID reads next
        | .error e =>
          if ← perform GaslessOp.contextDone then giveUp last else .fail (e, last.txHash)
      else giveUp last

def gaslessOutcome (final : GaslessRecord) : Except (GaslessError × String) String :=
  match final.status with
  | .success => .ok final.txHash
  | .failed => .error (.other, final.txHash)
  | _ => .error (.unavailable, final.txHash)

def gaslessServiceSubmit (reads : Nat) (mode : GaslessMode) (wallet requestID : String)
    (tx : Transaction) : Relayer String := do
  match gaslessCall (← perform (GaslessOp.post mode wallet requestID tx)) with
  | .error e => .fail (e, "")
  | .ok first =>
    let final ← awaitFinal requestID reads first
    ofExcept (gaslessOutcome final)

section Records

abbrev RelayerLog := Log GaslessRes

def recordIn : Event GaslessRes → Option GaslessRecord
  | ⟨.post _ _ _ _, r⟩ => (gaslessCall r).toOption
  | ⟨.get _, r⟩ => (gaslessCall r).toOption
  | _ => none

def expiredIn : Event GaslessRes → Option GaslessRecord
  | ⟨.expired last, _⟩ => some last
  | _ => none

def RelayerOutcome (h : RelayerLog) : Except (GaslessError × String) String → Prop
  | .ok hash => ⟨.success, hash⟩ ∈ h.filterMap recordIn
  | .error (e, hash) => e = .pending → ∃ last ∈ h.filterMap expiredIn, last.txHash = hash

def anyAnswer : Discipline GaslessOp GaslessRes where
  legal _ _ := True
  guard _ _ := True

theorem gaslessCall_ne_pending (r : Option GaslessResponse) : gaslessCall r ≠ .error .pending := by
  unfold gaslessCall refusalKind
  split
  · simp
  split_ifs
  · split <;> simp
  all_goals simp

def lastRecord (h : RelayerLog) : Option GaslessRecord := (h.filterMap recordIn).head?

def AwaitOutcome (h : RelayerLog) : Except (GaslessError × String) GaslessRecord → Prop
  | .ok final => lastRecord h = some final ∧ isGaslessFinal final.status = true
  | .error (e, hash) => e = .pending → ∃ last ∈ h.filterMap expiredIn,
      last.txHash = hash ∧ lastRecord h = some last ∧ isGaslessFinal last.status = false

variable {h : RelayerLog}

theorem lastRecord_cons {e : Event GaslessRes} {rec : GaslessRecord}
    (he : recordIn e = some rec) : lastRecord (e :: h) = some rec := by
  simp [lastRecord, he]

theorem lastRecord_cons_of_none {e : Event GaslessRes} (he : recordIn e = none) :
    lastRecord (e :: h) = lastRecord h := by
  simp [lastRecord, he]

theorem obeys_giveUp {last : GaslessRecord} (hlast : lastRecord h = some last)
    (hfinal : isGaslessFinal last.status = false) :
    Obeys anyAnswer h (giveUp last) AwaitOutcome := by
  unfold giveUp
  rw [obeys_perform_then]
  refine ⟨trivial, fun _ _ => .fail fun _ => ⟨last, ?_, rfl, ?_, hfinal⟩⟩
  · simp [expiredIn]
  · rw [lastRecord_cons_of_none rfl, hlast]

theorem obeys_awaitFinal (requestID : String) (reads : Nat) (h : RelayerLog) (last : GaslessRecord)
    (hlast : lastRecord h = some last) :
    Obeys anyAnswer h (awaitFinal requestID reads last) AwaitOutcome := by
  induction reads generalizing h last with
  | zero =>
    unfold awaitFinal
    split_ifs with hfinal
    · exact .ok ⟨hlast, hfinal⟩
    · exact obeys_giveUp hlast (by simpa using hfinal)
  | succ reads ih =>
    unfold awaitFinal
    split_ifs with hfinal
    · exact .ok ⟨hlast, hfinal⟩
    rw [Bool.not_eq_true] at hfinal
    rw [obeys_perform_then]
    refine ⟨trivial, fun left _ => ?_⟩
    have hpaused : lastRecord (⟨.pause, left⟩ :: h) = some last :=
      (lastRecord_cons_of_none rfl).trans hlast
    cases left with
    | false => exact obeys_giveUp hpaused hfinal
    | true =>
      simp only [if_true]
      rw [obeys_perform_then]
      refine ⟨trivial, fun r _ => ?_⟩
      cases hr : gaslessCall r with
      | ok next =>
        exact ih _ next (lastRecord_cons (congrArg Except.toOption hr))
      | error e =>
        have hnone : recordIn ⟨.get requestID, r⟩ = none := congrArg Except.toOption hr
        simp only
        rw [obeys_perform_then]
        refine ⟨trivial, fun spent _ => ?_⟩
        cases spent with
        | true =>
          refine obeys_giveUp ?_ hfinal
          rw [lastRecord_cons_of_none rfl, lastRecord_cons_of_none hnone, hpaused]
        | false =>
          refine .fail fun he => ?_
          subst he
          exact absurd hr (gaslessCall_ne_pending r)

def Truthful (h : RelayerLog) : Except (GaslessError × String) String → Prop
  | .ok hash => lastRecord h = some ⟨.success, hash⟩
  | .error (e, hash) => e = .pending → ∃ last ∈ h.filterMap expiredIn,
      last.txHash = hash ∧ lastRecord h = some last ∧ isGaslessFinal last.status = false

theorem truthful_gaslessServiceSubmit (reads : Nat) (mode : GaslessMode) (wallet requestID : String)
    (tx : Transaction) :
    Obeys anyAnswer [] (gaslessServiceSubmit reads mode wallet requestID tx) Truthful := by
  unfold gaslessServiceSubmit
  rw [obeys_perform_then]
  refine ⟨trivial, fun r _ => ?_⟩
  cases hr : gaslessCall r with
  | error e =>
    refine .fail fun he => ?_
    subst he
    exact absurd hr (gaslessCall_ne_pending r)
  | ok first =>
    simp only
    rw [obeys_bind]
    have hfirst : lastRecord [⟨.post mode wallet requestID tx, r⟩] = some first :=
      lastRecord_cons (congrArg Except.toOption hr)
    refine (obeys_awaitFinal requestID reads _ first hfirst).mono fun h' out hout => ?_
    cases out with
    | error e => exact hout
    | ok final =>
      simp only [obeys_ofExcept]
      obtain ⟨status, txHash⟩ := final
      obtain ⟨hlast, hfinal⟩ := hout
      cases status with
      | success => exact hlast
      | failed => exact fun he => by cases he
      | rejected => exact fun he => by cases he
      | _ => cases hfinal

theorem obeys_gaslessServiceSubmit (reads : Nat) (mode : GaslessMode) (wallet requestID : String)
    (tx : Transaction) :
    Obeys anyAnswer [] (gaslessServiceSubmit reads mode wallet requestID tx) RelayerOutcome := by
  refine (truthful_gaslessServiceSubmit reads mode wallet requestID tx).mono fun h out hout => ?_
  cases out with
  | ok hash => exact List.mem_of_mem_head? hout
  | error e =>
    intro he
    obtain ⟨last, hlast, hhash, -⟩ := hout he
    exact ⟨last, hlast, hhash⟩

end Records

section Reports

abbrev TxLog := Log TxRes

def unfinishedPoll (hash : String) : Event TxRes → Bool
  | ⟨.getTransaction h, r⟩ => h == hash && (r == .ok .notFound || r == .ok .pending)
  | _ => false

def settledIn : Event TxRes → Option String
  | ⟨.getTransaction hash, .ok (.success _)⟩ => some hash
  | _ => none

def relayedIn : Event TxRes → Option (Except (GaslessError × String) String)
  | ⟨.gaslessSubmit _ _ _ _, r⟩ => some r
  | _ => none

def Rests (h : TxLog) (result : SubmitResult) : Prop :=
  match result.status with
  | .success => result.hash ∈ h.filterMap settledIn ∨ .ok result.hash ∈ h.filterMap relayedIn
  | .pending => submitPollAttempts ≤ h.countP (unfinishedPoll result.hash) ∨
      (.error (.pending, result.hash) ∈ h.filterMap relayedIn ∧ result.hash ≠ "")

def anyReply : Discipline TxOp TxRes where
  legal _ _ := True
  guard _ _ := True

variable {α β : Type} {h : TxLog} {R : TxLog → β → Prop} (cfg : TxConfig)
  (fns : List HostFunction) (entries : AuthEntries)

theorem obeys_anyReply_bind {op : TxOp} {f : TxRes op → Submitter β}
    (hf : ∀ r, Obeys anyReply (⟨op, r⟩ :: h) (f r) (onOk R)) :
    Obeys anyReply h (perform op >>= f) (onOk R) := by
  rw [obeys_perform_then]
  exact ⟨trivial, fun r _ => hf r⟩

theorem rests_poll (hash : String) (n : Nat) (h : TxLog)
    (hn : submitPollAttempts ≤ n + h.countP (unfinishedPoll hash)) :
    Obeys anyReply h (pollSubmitResultWithMeta hash n) (onOk fun h' out => ∀ text, Rests h' ⟨hash, out.1, text⟩) := by
  induction n generalizing h with
  | zero =>
    rw [Nat.zero_add] at hn
    exact .ok fun _ => .inl hn
  | succ n ih =>
    refine obeys_anyReply_bind fun r => ?_
    have hagain (hr : unfinishedPoll hash ⟨.getTransaction hash, r⟩ = true) :
        submitPollAttempts ≤ n + (⟨.getTransaction hash, r⟩ :: h : TxLog).countP (unfinishedPoll hash) := by
      rw [List.countP_cons_of_pos hr]
      omega
    rcases r with (_ | _) | (resultMeta | _ | _ | _)
    · exact .fail trivial
    · exact .fail trivial
    · refine .ok fun _ => .inl ?_
      simp [settledIn]
    · exact .fail trivial
    · exact ih _ (hagain (by simp [unfinishedPoll]))
    · exact ih _ (hagain (by simp [unfinishedPoll]))

theorem rests_sendAndPoll (tx : SignedTransaction) :
    Obeys anyReply h (sendAndPollWithMeta tx) (onOk Rests) := by
  refine obeys_anyReply_bind fun r => obeys_orFail_bind fun sent _ => ?_
  cases sent.isError with
  | true => exact .fail trivial
  | false =>
    refine (rests_poll sent.hash submitPollAttempts _ (Nat.le_add_right _ _)).bind_onOk
      fun h' out hout => ?_
    exact .ok (hout _)

theorem rests_submitGasless (mode : GaslessMode) (wallet : String) (fn : HostFunction)
    (entries : AuthEntries) :
    Obeys anyReply h (submitGasless cfg mode wallet fn entries) (onOk Rests) := by
  unfold submitGasless
  cases cfg.gaslessConfigured with
  | false => exact .fail trivial
  | true =>
    refine obeys_anyReply_bind fun _ => obeys_orFail_bind fun _ _ => obeys_anyReply_bind fun r => ?_
    rcases r with ⟨e, hash⟩ | hash
    · simp only
      split_ifs with hpending
      · obtain ⟨rfl, hhash⟩ := hpending
        refine .ok (.inr ⟨?_, hhash⟩)
        simp [relayedIn]
      · exact .fail trivial
    · refine .ok (.inr ?_)
      simp [relayedIn]

theorem obeys_anyReply (p : Submitter α) : Obeys anyReply h p (onOk fun _ _ => True) :=
  (always_of_forall (G := fun _ => True) (fun _ => trivial) p).obeys fun _ _ _ => trivial

theorem rests_submitForward (wallet : String) (fn : HostFunction) (entries : AuthEntries) :
    Obeys anyReply h (submitForward cfg wallet fn entries) (onOk Rests) := by
  unfold submitForward
  rw [obeys_bind, obeys_attempt]
  refine (rests_submitGasless cfg .forward wallet fn entries).mono fun h' out hout => ?_
  rcases out with e | result
  · cases e with
    | gasless e =>
      cases e with
      | refused =>
        refine (obeys_anyReply (forwardBalanceShort wallet _)).bind_onOk fun h₁ short _ => ?_
        cases short <;> exact .fail trivial
      | _ => exact .fail trivial
    | _ => exact .fail trivial
  · exact .ok hout

theorem rests_submitBatch (sponsored : Option (String × HostFunction)) :
    Obeys anyReply h (submitBatch cfg fns entries sponsored) (onOk Rests) := by
  cases sponsored with
  | some taken =>
    refine obeys_anyReply_bind fun _ => obeys_orFail_bind fun _ _ => obeys_anyReply_bind fun _ =>
      obeys_orFail_bind fun sim _ => obeys_ofExcept_bind fun _ _ => ?_
    exact rests_submitGasless cfg .sponsored taken.1 taken.2 entries
  | none =>
    refine obeys_anyReply_bind fun _ => obeys_orFail_bind fun seq _ => obeys_anyReply_bind fun _ =>
      obeys_orFail_bind fun _ _ => obeys_anyReply_bind fun _ => obeys_orFail_bind fun sim _ =>
      obeys_ofExcept_bind fun _ _ => obeys_ofExcept_bind fun data _ => obeys_anyReply_bind fun _ =>
      obeys_orFail_bind fun _ _ => ?_
    exact rests_sendAndPoll _

theorem rests_submitHostFunctions :
    Obeys anyReply h (submitHostFunctions cfg fns entries) (onOk Rests) := by
  unfold submitHostFunctions
  split
  · rename_i fn
    refine (obeys_anyReply (userPaidWallet cfg fn)).bind_onOk fun h₁ wallet _ => ?_
    cases wallet with
    | some wallet => exact rests_submitForward cfg wallet fn entries
    | none => exact rests_submitBatch cfg _ entries _
  · exact rests_submitBatch cfg fns entries none

theorem SameReport.rests {x y : Except SubmitError SubmitResult} (hxy : SameReport x y)
    (hx : onOk Rests h x) : onOk Rests h y := by
  cases y with
  | error e => trivial
  | ok result' =>
    cases x with
    | error e => cases hxy
    | ok result =>
      obtain ⟨hhash, hstatus⟩ := hxy
      simpa only [onOk_ok, Rests, hhash, hstatus] using hx

theorem rests_submitWithBundler (tx : Encoded TransactionEnvelope) (entries : AuthEntries) :
    Obeys anyReply h (submitWithBundler cfg tx entries) (onOk Rests) := by
  refine obeys_ofExcept_bind fun fn _ => ?_
  refine (inStep_submitHostFunction cfg fn entries).obeys
    (rests_submitHostFunctions cfg [fn] entries) fun h' x y hxy hx => ?_
  exact hxy.rests hx

end Reports

section Submissions

def gaslessClientSubmit (configured : Bool) (reads : Nat) (mode : GaslessMode)
    (wallet requestID : String) (tx : Transaction) : Relayer String :=
  if configured then gaslessServiceSubmit reads mode wallet requestID tx
  else .fail (.notConfigured, "")

structure Outside where
  configured : Bool
  reads : Nat
  relayer : Script GaslessRes
  others : Script TxRes

namespace Outside

variable (o : Outside)

def exchange (mode : GaslessMode) (wallet requestID : String) (tx : Transaction) :
    Except (GaslessError × String) String × RelayerLog :=
  (gaslessClientSubmit o.configured o.reads mode wallet requestID tx).runWith o.relayer []

def script : Script TxRes
  | _, .gaslessSubmit mode wallet requestID tx => (o.exchange mode wallet requestID tx).1
  | h, op => o.others h op

def lastHeard (mode : GaslessMode) (wallet : String) (fn : HostFunction)
    (entries : AuthEntries) : Option GaslessRecord :=
  lastRecord (o.exchange mode wallet (gaslessRequestID fn entries) (gaslessTransaction fn entries)).2

theorem truthful_exchange (mode : GaslessMode) (wallet requestID : String) (tx : Transaction) :
    Truthful (o.exchange mode wallet requestID tx).2 (o.exchange mode wallet requestID tx).1 := by
  unfold exchange gaslessClientSubmit
  split_ifs
  · exact (truthful_gaslessServiceSubmit o.reads mode wallet requestID tx).runWith fun _ _ => trivial
  · exact fun he => by cases he

end Outside

/-- A report on a submission, and the latest record that was received about it. -/
def ReportsLast (last : Option GaslessRecord) : Except SubmitError SubmitResult → Prop
  | .ok ⟨hash, .success, _⟩ => last = some ⟨.success, hash⟩
  | .ok ⟨hash, .pending, _⟩ => hash ≠ "" ∧
      ∃ status, last = some ⟨status, hash⟩ ∧ isGaslessFinal status = false
  | .error _ => True

theorem reportsLast_submitGasless (o : Outside) (cfg : TxConfig) (mode : GaslessMode)
    (wallet : String) (fn : HostFunction) (entries : AuthEntries) :
    ReportsLast (o.lastHeard mode wallet fn entries)
      ((submitGasless cfg mode wallet fn entries).runWith o.script []).1 := by
  unfold submitGasless
  split_ifs
  · rw [runWith_perform_bind]
    cases hbuild : o.script [] (.buildTransaction (gaslessTransaction fn entries)) with
    | error e => trivial
    | ok built =>
      have htruthful := o.truthful_exchange mode wallet (gaslessRequestID fn entries)
        (gaslessTransaction fn entries)
      change ReportsLast _ ((perform _ >>= _ : Submitter SubmitResult).runWith o.script _).1
      rw [runWith_perform_bind]
      simp only [Outside.script]
      cases hheard : (o.exchange mode wallet (gaslessRequestID fn entries)
          (gaslessTransaction fn entries)).1 with
      | ok hash =>
        rw [hheard] at htruthful
        exact htruthful
      | error out =>
        obtain ⟨e, hash⟩ := out
        rw [hheard] at htruthful
        dsimp only
        split_ifs with hpending
        · obtain ⟨last, -, hhash, hlast, hfinal⟩ := htruthful hpending.1
          refine ⟨hpending.2, last.status, ?_, hfinal⟩
          rw [Outside.lastHeard, hlast, ← hhash]
        · trivial
  · trivial

/-- Success and pending are reported from the latest record only; all else is an error, and so is a
record that says failed or rejected. -/
theorem submitGasless_truthful (o : Outside) (cfg : TxConfig) (mode : GaslessMode) (wallet : String)
    (fn : HostFunction) (entries : AuthEntries) :
    ReportsLast (o.lastHeard mode wallet fn entries)
        ((submitGasless cfg mode wallet fn entries).runWith o.script []).1 ∧
      ∀ rec, o.lastHeard mode wallet fn entries = some rec →
        rec.status = .failed ∨ rec.status = .rejected →
        ∃ e, ((submitGasless cfg mode wallet fn entries).runWith o.script []).1 = .error e := by
  have hreports := reportsLast_submitGasless o cfg mode wallet fn entries
  refine ⟨hreports, fun rec hrec hstatus => ?_⟩
  cases hout : ((submitGasless cfg mode wallet fn entries).runWith o.script []).1 with
  | error e => exact ⟨e, rfl⟩
  | ok result =>
    rw [hout, hrec] at hreports
    obtain ⟨hash, _ | _, resultMeta⟩ := result
    · cases hreports
      rcases hstatus with hstatus | hstatus <;> cases hstatus
    obtain ⟨-, status, hlast, hfinal⟩ := hreports
    cases hlast
    rcases hstatus with rfl | rfl <;> cases hfinal

end Submissions

end LatchApi.Bundler
