import LatchApi.Bundler.Batch
import LatchApi.Bundler.Signers

namespace LatchApi.Bundler

open Lib Program Soroban

def TxOp.quiet : TxOp → Bool
  | .signPayload _ _ => false
  | .send _ => false
  | .gaslessSubmit _ _ _ _ => false
  | _ => true

structure OnlySends (G : TxOp → Prop) (entries : AuthEntries) : Prop where
  quiet : ∀ op, op.quiet = true → G op
  relayed : ∀ mode wallet fn,
    G (.gaslessSubmit mode wallet (gaslessRequestID fn entries) (gaslessTransaction fn entries))

def sentTransaction (cfg : TxConfig) (fns : List HostFunction) (entries : AuthEntries) (seq : Int)
    (data : Bytes) : SignedTransaction :=
  ⟨rebuiltTransaction cfg seq fns entries (some data), cfg.networkPassphrase, cfg.bundler⟩

def keptFromBundler (cfg : TxConfig) : List HostFunction → Bool
  | [fn] => (isForwardShaped fn && !cfg.gaslessConfigured) || (sponsoredWallet fn).isSome
  | _ => false

section Calls

variable {G : TxOp → Prop} {α : Type} {entries : AuthEntries}

@[simp] theorem always_orRpc_bind (context : String) (x : Except RpcError α) {β : Type}
    (f : α → Submitter β) : Always G (orRpc context x >>= f) ↔ ∀ a, x = .ok a → Always G (f a) := by
  cases x <;> simp [orRpc, orFail]

theorem always_poll (hpoll : ∀ hash, G (.getTransaction hash)) (hash : String) (n : Nat) :
    Always G (pollSubmitResultWithMeta hash n) := by
  induction n with
  | zero => trivial
  | succ n ih =>
    unfold pollSubmitResultWithMeta
    rw [always_perform_bind]
    refine ⟨hpoll hash, fun r => ?_⟩
    rcases r with (_ | _) | (_ | _ | _ | _) <;> simp [ih]

theorem always_sendAndPollWithMeta (hpoll : ∀ hash, G (.getTransaction hash))
    (tx : SignedTransaction) : Always G (sendAndPollWithMeta tx) ↔ G (.send tx) := by
  unfold sendAndPollWithMeta
  rw [always_perform_bind]
  refine ⟨fun h => h.1, fun htx => ⟨htx, fun r => ?_⟩⟩
  rw [always_orRpc_bind]
  intro sent _
  cases sent.isError with
  | true => simp
  | false => exact (always_poll hpoll _ _).bind fun _ => trivial

theorem always_submitGasless {mode : GaslessMode} {wallet : String} {fn : HostFunction}
    (hbuild : ∀ tx, G (.buildTransaction tx))
    (hrelay : G (.gaslessSubmit mode wallet (gaslessRequestID fn entries)
      (gaslessTransaction fn entries))) (cfg : TxConfig) :
    Always G (submitGasless cfg mode wallet fn entries) := by
  unfold submitGasless
  cases cfg.gaslessConfigured with
  | false => simp
  | true =>
    simp only [if_true, always_perform_bind, always_orRpc_bind]
    refine ⟨hbuild _, fun _ _ _ => ⟨hrelay, fun r => ?_⟩⟩
    rcases r with ⟨e, hash⟩ | hash
    · by_cases h : e = .pending ∧ hash ≠ "" <;> simp [h]
    · trivial

theorem always_forwardBalanceShort (hbalance : ∀ token wallet, G (.tokenBalance token wallet))
    (wallet : String) (args : List ScVal) : Always G (forwardBalanceShort wallet args) := by
  unfold forwardBalanceShort
  split
  · trivial
  split
  · trivial
  rw [always_perform_bind]
  refine ⟨hbalance _ _, fun r => ?_⟩
  cases r <;> trivial

theorem always_submitForward {wallet : String} {fn : HostFunction}
    (hbuild : ∀ tx, G (.buildTransaction tx))
    (hbalance : ∀ token wallet, G (.tokenBalance token wallet))
    (hrelay : G (.gaslessSubmit .forward wallet (gaslessRequestID fn entries)
      (gaslessTransaction fn entries))) (cfg : TxConfig) :
    Always G (submitForward cfg wallet fn entries) := by
  refine (always_submitGasless hbuild hrelay cfg).attempt.bind fun r => ?_
  split
  · trivial
  · refine (always_forwardBalanceShort hbalance _ _).bind fun short => ?_
    cases short <;> trivial
  · trivial

theorem always_submitBatch_sponsored (hG : OnlySends G entries) (cfg : TxConfig)
    (fns : List HostFunction) (sponsored : String × HostFunction) :
    Always G (submitBatch cfg fns entries (some sponsored)) := by
  unfold submitBatch
  simp only [pure_eq, ok_bind, always_perform_bind, always_orRpc_bind, always_ofExcept_bind]
  exact ⟨hG.quiet _ rfl, fun _ _ _ => ⟨hG.quiet _ rfl, fun _ _ _ _ _ =>
    always_submitGasless (fun _ => hG.quiet _ rfl) (hG.relayed _ _ _) _⟩⟩

theorem always_submitBatch (hquiet : ∀ op, op.quiet = true → G op) (cfg : TxConfig)
    (fns : List HostFunction) (entries : AuthEntries) :
    Always G (submitBatch cfg fns entries none) ↔
      ∀ seq data, G (.send (sentTransaction cfg fns entries seq data)) := by
  unfold submitBatch
  simp only [always_perform_bind, always_orRpc_bind, always_ofExcept_bind,
    always_sendAndPollWithMeta fun _ => hquiet _ rfl]
  constructor
  · rintro ⟨-, h⟩ seq data
    obtain ⟨-, h⟩ := h (.ok seq) seq rfl
    obtain ⟨-, h⟩ := h (.ok ()) () rfl
    obtain ⟨-, h⟩ := h (.ok ⟨"", .of data⟩) _ rfl () rfl data rfl
    exact h (.ok ()) () rfl
  · intro h
    exact ⟨hquiet _ rfl, fun _ seq _ => ⟨hquiet _ rfl, fun _ _ _ => ⟨hquiet _ rfl,
      fun _ _ _ _ _ data _ => ⟨hquiet _ rfl, fun _ _ _ => h seq data⟩⟩⟩⟩

theorem forwardCallWallet_other (fn : HostFunction) :
    ∃ feeForwarder, forwardCallWallet fn feeForwarder = none := by
  unfold forwardCallWallet
  cases invokedContract fn with
  | none => exact ⟨"", rfl⟩
  | some inv =>
    refine ⟨inv.contractAddress.text ++ "0", if_neg fun h => ?_⟩
    have hlength := congrArg String.length h.2.2
    rw [String.length_append, show "0".length = 1 from rfl] at hlength
    omega

section

variable (hG : OnlySends G entries) (cfg : TxConfig)

include hG

theorem always_submitUnpaid (fn : HostFunction) :
    Always G (submitBatch cfg [fn] entries
        ((sponsoredWallet fn).map fun wallet => (wallet, fn))) ↔
      (sponsoredWallet fn).isSome = true ∨
        ∀ seq data, G (.send (sentTransaction cfg [fn] entries seq data)) := by
  cases sponsoredWallet fn with
  | none => simp [always_submitBatch hG.quiet]
  | some wallet => simp [always_submitBatch_sponsored hG]

theorem always_submitSingle (fn : HostFunction) :
    Always G (submitHostFunctions cfg [fn] entries) ↔ keptFromBundler cfg [fn] = true ∨
      ∀ seq data, G (.send (sentTransaction cfg [fn] entries seq data)) := by
  unfold submitHostFunctions userPaidWallet keptFromBundler
  by_cases hforward : isForwardShaped fn = true
  · cases hconfigured : cfg.gaslessConfigured with
    | false => simp [hforward]
    | true =>
      -- the fee forwarder is the relayer's to name, so the call need not be one of its
      obtain ⟨feeForwarder, hother⟩ := forwardCallWallet_other fn
      simp only [hforward, if_true, bind_assoc, always_perform_bind]
      constructor
      · rintro ⟨-, h⟩
        have h := h (.ok feeForwarder)
        simp only [pure_eq, ok_bind, hother] at h
        rw [always_submitUnpaid hG] at h
        simpa using h
      · intro h
        refine ⟨hG.quiet _ rfl, fun r => ?_⟩
        cases r with
        | error e => trivial
        | ok feeForwarder =>
          simp only [pure_eq, ok_bind]
          cases forwardCallWallet fn feeForwarder with
          | some wallet =>
            exact always_submitForward (fun _ => hG.quiet _ rfl) (fun _ _ => hG.quiet _ rfl)
              (hG.relayed _ _ _) cfg
          | none => exact (always_submitUnpaid hG _ _).mpr (by simpa using h)
  · simp only [hforward, Bool.false_eq_true, if_false, ok_bind, always_submitUnpaid hG]
    simp

theorem always_submitHostFunctions (fns : List HostFunction) :
    Always G (submitHostFunctions cfg fns entries) ↔ keptFromBundler cfg fns = true ∨
      ∀ seq data, G (.send (sentTransaction cfg fns entries seq data)) := by
  match fns with
  | [fn] => exact always_submitSingle hG cfg fn
  | [] =>
    simpa [keptFromBundler, submitHostFunctions] using
      always_submitBatch hG.quiet cfg [] entries
  | fn₁ :: fn₂ :: fns =>
    simpa [keptFromBundler, submitHostFunctions] using
      always_submitBatch hG.quiet cfg (fn₁ :: fn₂ :: fns) entries

theorem always_submitWithBundler (tx : Encoded TransactionEnvelope) :
    Always G (submitWithBundler cfg tx entries) ↔ ∀ fn, singleHostFunction tx = .ok fn →
      keptFromBundler cfg [fn] = true ∨
        ∀ seq data, G (.send (sentTransaction cfg [fn] entries seq data)) := by
  simp only [submitWithBundler, always_ofExcept_bind,
    ← (inStep_submitHostFunction cfg _ entries).always_iff, always_submitHostFunctions hG]

theorem always_submitBatchAuthEntries (tx : Encoded TransactionEnvelope) :
    Always G (submitBatchAuthEntries cfg tx entries) ↔ ∀ fns, batchHostFunctions tx = .ok fns →
      keptFromBundler cfg fns = true ∨
        ∀ seq data, G (.send (sentTransaction cfg fns entries seq data)) := by
  simp only [submitBatchAuthEntries, always_ofExcept_bind, always_submitHostFunctions hG]

end

end Calls

end LatchApi.Bundler
