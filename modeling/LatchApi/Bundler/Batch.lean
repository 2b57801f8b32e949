import LatchApi.Bundler.Submit
import LatchApi.Lib.InStep

namespace LatchApi.Bundler

open Lib Program Soroban

def SameReport : Except SubmitError SubmitResult → Except SubmitError SubmitResult → Prop
  | .ok r, .ok r' => r.hash = r'.hash ∧ r.status = r'.status
  | .error _, .error _ => True
  | _, _ => False

theorem SameReport.refl (x : Except SubmitError SubmitResult) : SameReport x x := by
  cases x with
  | ok r => exact ⟨rfl, rfl⟩
  | error e => trivial

def SameStatus : Except SubmitError (SubmitStatus × String) → Except SubmitError SubmitStatus → Prop
  | .ok out, .ok status => out.1 = status
  | .error _, .error _ => True
  | _, _ => False

theorem inStep_after {β : Type} (p : Submitter β) {f g : β → Submitter SubmitResult}
    (h : ∀ b, InStep SameReport (f b) (g b)) : InStep SameReport (p >>= f) (p >>= g) :=
  .after (fun _ => trivial) p h

theorem inStep_poll (hash : String) (n : Nat) :
    InStep SameStatus (pollSubmitResultWithMeta hash n) (pollSubmitResult hash n) := by
  induction n with
  | zero => exact .ok rfl
  | succ n ih =>
    refine .call fun r => ?_
    rcases r with (_ | _) | (resultMeta | _ | _ | _)
    · exact .fail trivial
    · exact .fail trivial
    · exact .ok rfl
    · exact .fail trivial
    · exact ih
    · exact ih

theorem inStep_sendAndPoll (tx : SignedTransaction) :
    InStep SameReport (sendAndPollWithMeta tx) (sendAndPoll tx) := by
  refine inStep_after _ fun r => ?_
  cases r with
  | error e => exact .fail trivial
  | ok sent =>
    rw [orRpc, orRpc, orFail, orFail, ok_bind, ok_bind]
    cases sent.isError with
    | true => exact .fail trivial
    | false =>
      refine (inStep_poll sent.hash submitPollAttempts).bind (fun _ _ _ => trivial) ?_
      intro out status hstatus
      exact .ok ⟨rfl, hstatus⟩

section Rebuilt

variable (cfg : TxConfig) (fn : HostFunction) (entries : AuthEntries)

theorem rebuiltTransaction_single (seq : Int) (data : Option Bytes) :
    rebuiltTransaction cfg seq [fn] entries data = rebuiltCall cfg seq fn entries data := rfl

theorem inStep_submitRebuilt :
    InStep SameReport
      (submitBatch cfg [fn] entries ((sponsoredWallet fn).map fun wallet => (wallet, fn)))
      (submitRebuilt cfg fn entries) := by
  unfold submitBatch submitRebuilt
  simp only [rebuiltTransaction_single]
  cases sponsoredWallet fn with
  | some wallet => exact .refl SameReport.refl _
  | none =>
    refine inStep_after _ fun _ => inStep_after _ fun seq => inStep_after _ fun _ =>
      inStep_after _ fun _ => inStep_after _ fun _ => inStep_after _ fun sim => ?_
    refine inStep_after _ fun _ => inStep_after _ fun data => inStep_after _ fun _ =>
      inStep_after _ fun _ => ?_
    exact inStep_sendAndPoll _

theorem inStep_submitHostFunction :
    InStep SameReport (submitHostFunctions cfg [fn] entries) (submitHostFunction cfg fn entries) := by
  refine inStep_after _ fun wallet => ?_
  cases wallet with
  | some wallet => exact .refl SameReport.refl _
  | none => exact inStep_submitRebuilt cfg fn entries

end Rebuilt

def SingleCall : TransactionEnvelope → Prop
  | .v1 ops => ∃ id name args auth,
      ops = [.invokeHostFunction (.invokeContract ⟨.contract id, name, args⟩) auth]
  | .other => True

theorem inStep_single {tx : Encoded TransactionEnvelope} {envelope : TransactionEnvelope}
    (hdecode : tx.decode = some envelope) (hsingle : SingleCall envelope) (cfg : TxConfig)
    (entries : AuthEntries) :
    InStep SameReport (submitBatchAuthEntries cfg tx entries) (submitWithBundler cfg tx entries) := by
  unfold submitBatchAuthEntries submitWithBundler
  cases envelope with
  | other =>
    simp only [batchHostFunctions, singleHostFunction, hdecode]
    exact .fail trivial
  | v1 ops =>
    obtain ⟨id, name, args, auth, rfl⟩ := hsingle
    have hbatch : batchHostFunctions tx = .ok [.invokeContract ⟨.contract id, name, args⟩] := by
      rw [batchHostFunctions, hdecode]
      rfl
    have hone : singleHostFunction tx = .ok (.invokeContract ⟨.contract id, name, args⟩) := by
      rw [singleHostFunction, hdecode]
      rfl
    rw [hbatch, hone]
    simp only [Program.ofExcept, ok_bind]
    exact inStep_submitHostFunction cfg _ entries

/-- On a single call the batch submit makes the calls of the single submit, in their order and with
their arguments, and reports as it does. -/
theorem batch_eq_single (cfg : TxConfig) (tx : Encoded TransactionEnvelope)
    (envelope : TransactionEnvelope) (hdecode : tx.decode = some envelope)
    (hsingle : SingleCall envelope) (entries : AuthEntries) (script : Script TxRes) :
    ((submitBatchAuthEntries cfg tx entries).runWith script []).2 =
        ((submitWithBundler cfg tx entries).runWith script []).2 ∧
      SameReport ((submitBatchAuthEntries cfg tx entries).runWith script []).1
        ((submitWithBundler cfg tx entries).runWith script []).1 :=
  (inStep_single hdecode hsingle cfg entries).runWith script []

namespace Sample

def filled (b : UInt8) : Hash := ⟨List.replicate 32 b, List.length_replicate⟩

def ping : TransactionEnvelope :=
  .v1 [.invokeHostFunction (.invokeContract ⟨.contract (filled 3), "ping", []⟩) []]

def settling : (op : TxOp) → TxRes op
  | .feeTokens => .error .notConfigured
  | .ledgerSequence _ => .ok 7
  | .buildTransaction _ => .ok ()
  | .simulate _ => .ok ⟨"", .of []⟩
  | .signPayload _ _ => .error .failed
  | .send _ => .ok ⟨"hash", false, ""⟩
  | .getTransaction _ => .ok (.success "meta")
  | .gaslessSubmit _ _ _ _ => .error (.notConfigured, "")
  | .tokenBalance _ _ => .error .failed

def bundlerOnly : TxConfig := ⟨"network", filled 1, "", false⟩

theorem ping_settles_alike :
    ((submitBatchAuthEntries bundlerOnly (.of ping) []).runWith (fun _ => settling) []).2 =
        ((submitWithBundler bundlerOnly (.of ping) []).runWith (fun _ => settling) []).2 ∧
      ((submitBatchAuthEntries bundlerOnly (.of ping) []).runWith (fun _ => settling) []).1 =
        .ok ⟨"hash", .success, "meta"⟩ ∧
      ((submitWithBundler bundlerOnly (.of ping) []).runWith (fun _ => settling) []).1 =
        .ok ⟨"hash", .success, ""⟩ :=
  ⟨(batch_eq_single bundlerOnly (.of ping) ping rfl ⟨filled 3, "ping", [], [], rfl⟩ []
    fun _ => settling).1, rfl, rfl⟩

end Sample

end LatchApi.Bundler
