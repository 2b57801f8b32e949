import LatchApi.Lib.Eval
import LatchApi.Bundler.Submit

namespace LatchApi.Bundler

open Lib Program Soroban

variable {inv : InvokeContractArgs}

namespace Unions

inductive Fault where
  | armNotSet
  | nilDereference
  | indexOutOfRange
deriving DecidableEq

def deref {α : Type} : Option α → Except Fault α
  | some a => .ok a
  | none => .error .nilDereference

def index {α : Type} (l : List α) (i : Nat) : Except Fault α :=
  match l[i]? with
  | some a => .ok a
  | none => .error .indexOutOfRange

inductive ScValType where
  | i128
  | u128
  | symbol
  | vec
  | address
  | other
deriving DecidableEq

structure Arms where
  type : ScValType
  i128 : Option (Int64 × UInt64) := none
  u128 : Option (UInt64 × UInt64) := none
  sym : Option String := none
  vec : Option (Option (List ScVal)) := none
  address : Option ScAddress := none

def arms : ScVal → Arms
  | .i128 hi lo => { type := .i128, i128 := some (hi, lo) }
  | .u128 hi lo => { type := .u128, u128 := some (hi, lo) }
  | .symbol s => { type := .symbol, sym := some s }
  | .vec items => { type := .vec, vec := some items }
  | .address a => { type := .address, address := some a }
  | _ => { type := .other }

def mustI128 (v : Arms) : Except Fault (Int64 × UInt64) :=
  if v.type = .i128 then deref v.i128 else .error .armNotSet

def mustInvokeContract (fn : HostFunction) : Except Fault InvokeContractArgs :=
  match fn with
  | .invokeContract inv => .ok inv
  | _ => .error .armNotSet

def scValToAddressString (v : Arms) : Except Fault (Option String) :=
  if v.type ≠ .address ∨ v.address.isNone then .ok none
  else do return addressString (← deref v.address)

def transferSpend (target : String) (args : List ScVal) : Except Fault (Option (String × Int)) :=
  if args.length ≠ 3 then .ok none
  else do
    let amount := (arms (← index args 2)).i128
    if amount.isNone then return none
    let (hi, lo) ← deref amount
    return some (target, i128ToInt hi lo)

def swapSpend (args : List ScVal) : Except Fault (Option (String × Int)) :=
  if args.length ≠ 5 then .ok none
  else do
    let amount := (arms (← index args 3)).u128
    if amount.isNone then return none
    match ← scValToAddressString (arms (← index args 2)) with
    | none => return none
    | some tokenIn =>
      let (hi, lo) ← deref amount
      return some (tokenIn, ((hi.toNat <<< 64 ||| lo.toNat : Nat) : Int))

def wrappedSpend (target : String) (fn args : Arms) : Except Fault (Option (String × Int)) :=
  if fn.type ≠ .symbol ∨ args.vec.isNone then .ok none
  else do
    let items ← deref args.vec
    if items.isNone then return none
    let targetArgs ← deref items
    match ← deref fn.sym with
    | "transfer" => transferSpend target targetArgs
    | "swap_chained" => swapSpend targetArgs
    | _ => return none

def forwardSpend (args : List ScVal) : Except Fault (Option (String × Int)) := do
  match ← scValToAddressString (arms (← index args 4)) with
  | none => return none
  | some target => wrappedSpend target (arms (← index args 5)) (arms (← index args 6))

def orPanic {α : Type} : Except Fault α → Submitter α := orFail fun _ => .panicked

def forwardBalanceShort (wallet : String) (fn : HostFunction) : Submitter Bool := do
  let inv ← orPanic (mustInvokeContract fn)
  let token ← orPanic (do scValToAddressString (arms (← index inv.args 0)))
  match token with
  | none => return false
  | some token =>
    let (hi, lo) ← orPanic (do mustI128 (arms (← index inv.args 2)))
    let spend ← orPanic (forwardSpend inv.args)
    let need := match spend with
      | some (spendToken, amount) =>
        if spendToken = token then i128ToInt hi lo + amount else i128ToInt hi lo
      | none => i128ToInt hi lo
    match ← tokenBalance token wallet with
    | .error _ => return false
    | .ok balance => return decide (balance < need)

def submitForward (cfg : TxConfig) (wallet : String) (fn : HostFunction)
    (entries : AuthEntries) : Submitter SubmitResult := do
  match ← (submitGasless cfg .forward wallet fn entries).attempt with
  | .ok result => return result
  | .error (.gasless .refused) =>
    if ← forwardBalanceShort wallet fn then .fail .insufficientFeeBalance
    else .fail .feeQuoteStale
  | .error e => .fail e

section Refines

theorem scValToAddressString_arms (v : ScVal) :
    scValToAddressString (arms v) = .ok (Soroban.scValToAddressString v) := by
  cases v <;> rfl

theorem shiftLeft_or_eq (hi lo : UInt64) :
    ((hi.toNat <<< 64 ||| lo.toNat : Nat) : Int) = (hi.toNat : Int) * 2 ^ 64 + lo.toNat := by
  rw [← Nat.shiftLeft_add_eq_or_of_lt lo.toNat_lt, Nat.shiftLeft_eq]
  push_cast
  rfl

theorem spendOf_eq_none_of_args {target : String} {fn args : ScVal}
    (h : ∀ items, args ≠ .vec (some items)) : spendOf target fn args = none := by
  unfold spendOf
  split
  · exact absurd rfl (h _)
  · exact absurd rfl (h _)
  · rfl

theorem spendOf_eq_none_of_fn {target : String} {fn args : ScVal}
    (htransfer : fn ≠ .symbol "transfer") (hswap : fn ≠ .symbol "swap_chained") : spendOf target fn args = none := by
  unfold spendOf
  split
  · exact absurd rfl htransfer
  · exact absurd rfl hswap
  · rfl

variable (target : String) (args : List ScVal)

theorem transferSpend_eq :
    transferSpend target args = .ok (spendOf target (.symbol "transfer") (.vec (some args))) := by
  by_cases hlength : args.length = 3
  · obtain ⟨sender, recipient, amount, rfl⟩ := List.length_eq_three.mp hlength
    cases amount <;> rfl
  rw [transferSpend, if_pos hlength]
  unfold spendOf
  split
  · rename_i hargs
    obtain rfl := Option.some.inj (ScVal.vec.inj hargs)
    exact absurd rfl hlength
  · rename_i hname _
    exact absurd (ScVal.symbol.inj hname) (by decide)
  · rfl

theorem swapSpend_eq :
    swapSpend args = .ok (spendOf target (.symbol "swap_chained") (.vec (some args))) := by
  by_cases hlength : args.length = 5
  · match args, hlength with
    | [user, chain, tokenIn, amount, minOut], _ =>
      cases amount
      case u128 hi lo _ =>
        change (scValToAddressString (arms tokenIn) >>= _) = _
        rw [scValToAddressString_arms, spendOf, ← shiftLeft_or_eq]
        cases Soroban.scValToAddressString tokenIn <;> rfl
      all_goals rfl
  · rw [swapSpend, if_pos hlength]
    unfold spendOf
    split
    · rename_i hname _
      exact absurd (ScVal.symbol.inj hname) (by decide)
    · rename_i hargs
      obtain rfl := Option.some.inj (ScVal.vec.inj hargs)
      exact absurd rfl hlength
    · rfl

theorem wrappedSpend_symbol (name : String) (items : List ScVal) :
    wrappedSpend target (arms (.symbol name)) (arms (.vec (some items))) =
      .ok (spendOf target (.symbol name) (.vec (some items))) := by
  change (match name with
    | "transfer" => transferSpend target items
    | "swap_chained" => swapSpend items
    | _ => .ok none) = _
  split
  · exact transferSpend_eq target items
  · exact swapSpend_eq target items
  rename_i htransfer hswap
  rw [spendOf_eq_none_of_fn (fun h => htransfer (ScVal.symbol.inj h))
    (fun h => hswap (ScVal.symbol.inj h))]

theorem wrappedSpend_eq (fn args : ScVal) :
    wrappedSpend target (arms fn) (arms args) = .ok (spendOf target fn args) := by
  by_cases hfn : ∃ name, fn = .symbol name
  · obtain ⟨name, rfl⟩ := hfn
    by_cases hargs : ∃ items, args = .vec (some items)
    · obtain ⟨items, rfl⟩ := hargs
      exact wrappedSpend_symbol target name items
    rw [spendOf_eq_none_of_args fun items h => hargs ⟨items, h⟩]
    cases args
    case vec items =>
      cases items with
      | none => rfl
      | some items => exact absurd ⟨items, rfl⟩ hargs
    all_goals rfl
  · rw [spendOf_eq_none_of_fn (fun h => hfn ⟨_, h⟩) (fun h => hfn ⟨_, h⟩)]
    cases fn
    case symbol name => exact absurd ⟨name, rfl⟩ hfn
    all_goals rfl

theorem forwardSpend_eq {args : List ScVal} (hlength : args.length = forwardArgCount) :
    forwardSpend args = .ok (Bundler.forwardSpend args) := by
  match args, hlength with
  | [_, _, _, _, target, fn, wrapped, _, _], _ =>
    change (scValToAddressString (arms target) >>= _) =
      .ok ((Soroban.scValToAddressString target).bind fun target => spendOf target fn wrapped)
    rw [scValToAddressString_arms]
    cases Soroban.scValToAddressString target with
    | none => rfl
    | some target => exact wrappedSpend_eq target fn wrapped

theorem mustI128_arms (v : ScVal) : mustI128 (arms v) =
    match v with
    | .i128 hi lo => .ok (hi, lo)
    | _ => .error .armNotSet := by
  cases v <;> rfl

theorem forwardBalanceShort_eq (wallet : String) (hlength : inv.args.length = forwardArgCount) :
    forwardBalanceShort wallet (.invokeContract inv) =
      Bundler.forwardBalanceShort wallet inv.args := by
  obtain ⟨contract, name, args⟩ := inv
  have hspend := forwardSpend_eq hlength
  match args, hlength with
  | token :: one :: maxFee :: rest, _ =>
    change (orPanic (scValToAddressString (arms token)) >>= _) = _
    rw [scValToAddressString_arms, Bundler.forwardBalanceShort]
    change _ = match Soroban.scValToAddressString token with
      | none => _
      | some token => _
    cases Soroban.scValToAddressString token with
    | none => rfl
    | some token =>
      change (orPanic (mustI128 (arms maxFee)) >>= fun x => orPanic (forwardSpend _) >>= _) = _
      rw [mustI128_arms, hspend]
      cases maxFee <;> rfl

theorem submitForward_eq (cfg : TxConfig) (wallet : String)
    (hlength : inv.args.length = forwardArgCount) (entries : AuthEntries) :
    submitForward cfg wallet (.invokeContract inv) entries =
      Bundler.submitForward cfg wallet (.invokeContract inv) entries := by
  rw [submitForward, Bundler.submitForward, forwardBalanceShort_eq wallet hlength]
  rfl

end Refines

end Unions

section Panics

variable {cfg : TxConfig} {fn : HostFunction} {wallet : String}
  {entries : AuthEntries} {script : Script TxRes}
  {h h' : Log TxRes}

def relayed (script : Script TxRes) (h : Log TxRes) (wallet : String) (fn : HostFunction)
    (entries : AuthEntries) :
    Except (GaslessError × String) String :=
  script (⟨.buildTransaction (gaslessTransaction fn entries), .ok ()⟩ :: h)
    (.gaslessSubmit .forward wallet (gaslessRequestID fn entries) (gaslessTransaction fn entries))

def Refused (script : Script TxRes) (h : Log TxRes) (wallet : String) (fn : HostFunction)
    (entries : AuthEntries) : Prop :=
  script h (.buildTransaction (gaslessTransaction fn entries)) = .ok () ∧
    ∃ hash, relayed script h wallet fn entries = .error (.refused, hash)

/-- The maximum fee is an i128, or it is not looked at because no fee token is named. -/
def FeeReadable (args : List ScVal) : Prop :=
  args[0]?.bind scValToAddressString = none ∨ ∃ hi lo, args[2]? = some (.i128 hi lo)

theorem forward_of_userPaidWallet
    (hpaid : (userPaidWallet cfg fn).runWith script h = (.ok (some wallet), h')) :
    cfg.gaslessConfigured = true ∧
      ∃ inv, fn = .invokeContract inv ∧ inv.args.length = forwardArgCount := by
  unfold userPaidWallet at hpaid
  split at hpaid
  · rename_i hshaped
    have hinv : ∃ inv, fn = .invokeContract inv ∧ inv.args.length = forwardArgCount := by
      cases fn with
      | invokeContract inv =>
        exact ⟨inv, rfl, beq_iff_eq.mp ((Bool.and_eq_true _ _).mp hshaped).2⟩
      | _ => cases hshaped
    split at hpaid
    · exact ⟨‹_›, hinv⟩
    · cases hpaid
  · cases hpaid

theorem isSome_i128Of_iff {v : Option ScVal} :
    (v.bind i128Of).isSome ↔ ∃ hi lo, v = some (.i128 hi lo) := by
  constructor
  · intro h
    cases v with
    | none => cases h
    | some v =>
      cases v
      case i128 hi lo => exact ⟨hi, lo, rfl⟩
      all_goals cases h
  · rintro ⟨hi, lo, rfl⟩
    rfl

theorem forwardBalanceShort_panics_iff (script : Script TxRes) (h : Log TxRes) (wallet : String)
    (args : List ScVal) :
    ((forwardBalanceShort wallet args).runWith script h).1 = .error .panicked ↔
      ¬ FeeReadable args := by
  rw [FeeReadable, ← isSome_i128Of_iff, forwardBalanceShort]
  cases args[0]?.bind scValToAddressString with
  | none => exact iff_of_false nofun fun hfee => hfee (.inl rfl)
  | some token =>
    cases args[2]?.bind i128Of with
    | none => exact iff_of_true rfl (by simp)
    | some maxFee =>
      refine iff_of_false (fun hrun => ?_) fun hfee => hfee (.inr rfl)
      rw [runWith_perform_bind] at hrun
      split at hrun
      · cases hrun
      · cases hrun

section

variable (hgasless : cfg.gaslessConfigured = true)

include hgasless

theorem submitGasless_outcome :
    ((submitGasless cfg .forward wallet fn entries).runWith script h).1 =
      match script h (.buildTransaction (gaslessTransaction fn entries)) with
      | .error _ => .error (.rpc "build gasless envelope")
      | .ok () =>
        match relayed script h wallet fn entries with
        | .ok hash => .ok ⟨hash, .success, ""⟩
        | .error (e, hash) =>
          if e = .pending ∧ hash ≠ "" then .ok ⟨hash, .pending, ""⟩ else .error (.gasless e) := by
  rw [submitGasless, if_pos hgasless, runWith_perform_bind]
  cases script h (.buildTransaction (gaslessTransaction fn entries)) with
  | error e => rfl
  | ok u =>
    change (runWith script (_ :: _ :: h) (match relayed script h wallet fn entries with
      | .ok hash => _
      | .error (e, hash) => _)).1 = _
    cases relayed script h wallet fn entries with
    | ok hash => rfl
    | error failed =>
      dsimp only
      split
      · rfl
      · rfl

theorem submitGasless_ne_panicked :
    ((submitGasless cfg .forward wallet fn entries).runWith script h).1 ≠ .error .panicked := by
  rw [submitGasless_outcome hgasless]
  split
  · nofun
  split
  · nofun
  split
  · nofun
  · nofun

theorem submitGasless_refused_iff :
    ((submitGasless cfg .forward wallet fn entries).runWith script h).1 =
      .error (.gasless .refused) ↔ Refused script h wallet fn entries := by
  rw [submitGasless_outcome hgasless, Refused]
  cases script h (.buildTransaction (gaslessTransaction fn entries)) with
  | error e => exact iff_of_false nofun fun hrefused => nomatch hrefused.1
  | ok u =>
    refine Iff.trans ?_ (and_iff_right rfl).symm
    cases relayed script h wallet fn entries with
    | ok hash => exact iff_of_false nofun nofun
    | error failed =>
      obtain ⟨e, hash⟩ := failed
      by_cases hpending : e = .pending ∧ hash ≠ ""
      · simp [hpending]
      · simp [hpending]

theorem submitForward_panics_iff :
    ((submitForward cfg wallet fn entries).runWith script h).1 = .error .panicked ↔
      Refused script h wallet fn entries ∧ ¬ FeeReadable (callArgs fn) := by
  have hne : ((submitGasless cfg .forward wallet fn entries).runWith script h).1 ≠
    .error .panicked := submitGasless_ne_panicked hgasless
  rw [← submitGasless_refused_iff hgasless, submitForward, runWith_bind, runWith_attempt]
  generalize (submitGasless cfg .forward wallet fn entries).runWith script h = run at hne
  obtain ⟨out, h₁⟩ := run
  dsimp only
  split
  · exact iff_of_false nofun fun hrefused => nomatch hrefused.1
  · refine Iff.trans ?_ (and_iff_right rfl).symm
    rw [← forwardBalanceShort_panics_iff script h₁ wallet (callArgs fn), runWith_bind, callArgs]
    generalize (forwardBalanceShort wallet _).runWith script h₁ = check
    obtain ⟨short, h₂⟩ := check
    cases short with
    | error e =>
      exact ⟨fun he => congrArg _ (Except.error.inj he), fun he => congrArg _ (Except.error.inj he)⟩
    | ok short => cases short <;> exact iff_of_false nofun nofun
  · rename_i e hrefused
    refine iff_of_false (fun hrun => ?_) fun hout => ?_
    · exact hne hrun
    · exact hrefused (Except.error.inj hout.1)

end

/-- A submission that its wallet pays for ends without a panic as long as the maximum fee is an
i128 wherever it is read, which is after a refusal. -/
theorem forward_returns_iff (cfg : TxConfig) (fn : HostFunction) (wallet : String)
    (entries : AuthEntries)
    (script : Script TxRes) (h h' : Log TxRes)
    (hpaid : (userPaidWallet cfg fn).runWith script h = (.ok (some wallet), h')) :
    (∃ spend, Unions.forwardSpend (callArgs fn) = .ok spend) ∧
    (∀ h, ((Unions.forwardBalanceShort wallet fn).runWith script h).1 ≠ .error .panicked ↔
      FeeReadable (callArgs fn)) ∧
    (((Unions.submitForward cfg wallet fn entries).runWith script h').1 ≠ .error .panicked ↔
      (Refused script h' wallet fn entries → FeeReadable (callArgs fn))) := by
  obtain ⟨hgasless, inv, rfl, hlength⟩ := forward_of_userPaidWallet hpaid
  refine ⟨⟨_, Unions.forwardSpend_eq hlength⟩, fun h => ?_, ?_⟩
  · rw [Unions.forwardBalanceShort_eq wallet hlength, ne_eq, forwardBalanceShort_panics_iff,
      not_not]
    rfl
  · rw [Unions.submitForward_eq cfg wallet hlength, ne_eq, submitForward_panics_iff hgasless,
      not_and, not_not]

end Panics

namespace Sample

def payer : Hash := ⟨List.replicate 32 2, List.length_replicate⟩

def feeToken : Hash := ⟨List.replicate 32 3, List.length_replicate⟩

def forwarder : Hash := ⟨List.replicate 32 4, List.length_replicate⟩

def forwardCall (maxFee : ScVal) : HostFunction :=
  .invokeContract ⟨.contract forwarder, forwardFn,
    [.address (.contract feeToken), scI128 0 1, maxFee, scU32 100, .address (.contract feeToken),
      scSymbol "transfer", scVec [], .address (.contract payer), .address (.contract forwarder)]⟩

def relayerConfig : TxConfig := ⟨"network", payer, "", true⟩

def refusals (_ : Log TxRes) : (op : TxOp) → TxRes op
  | .feeTokens => .ok (contractText forwarder)
  | .buildTransaction _ => .ok ()
  | .gaslessSubmit _ _ _ _ => .error (.refused, "")
  | .ledgerSequence _ => .error .failed
  | .simulate _ => .error .failed
  | .signPayload _ _ => .error .failed
  | .send _ => .error .failed
  | .getTransaction _ => .error .failed
  | .tokenBalance _ _ => .error .failed

theorem paid (maxFee : ScVal) :
    (userPaidWallet relayerConfig (forwardCall maxFee)).runWith refusals [] =
      (.ok (some (contractText payer)), [⟨.feeTokens, .ok (contractText forwarder)⟩]) := by
  have hwallet : forwardCallWallet (forwardCall maxFee) (contractText forwarder) =
      some (contractText payer) := by
    rw [forwardCallWallet, forwardCall]
    exact if_pos ⟨rfl, rfl, rfl⟩
  rw [← hwallet]
  rfl

end Sample

theorem Sample.refusal_reported :
    ((Unions.submitForward Sample.relayerConfig (contractText Sample.payer)
        (Sample.forwardCall (scI128 0 500)) []).runWith Sample.refusals
      [⟨.feeTokens, .ok (contractText Sample.forwarder)⟩]).1 ≠ .error .panicked :=
  (forward_returns_iff _ _ _ [] _ _ _ (Sample.paid (scI128 0 500))).2.2.mpr
    fun _ => .inr ⟨0, 500, rfl⟩

theorem Sample.void_fee_panics :
    (userPaidWallet Sample.relayerConfig (Sample.forwardCall .void)).runWith Sample.refusals [] =
        (.ok (some (contractText Sample.payer)),
          [⟨.feeTokens, .ok (contractText Sample.forwarder)⟩]) ∧
      ((Unions.submitForward Sample.relayerConfig (contractText Sample.payer)
          (Sample.forwardCall .void) []).runWith Sample.refusals
        [⟨.feeTokens, .ok (contractText Sample.forwarder)⟩]).1 = .error .panicked := by
  refine ⟨Sample.paid .void, ?_⟩
  rw [Sample.forwardCall, Unions.submitForward_eq _ _ rfl, submitForward_panics_iff rfl]
  refine ⟨⟨rfl, "", rfl⟩, ?_⟩
  rintro (h | ⟨hi, lo, h⟩)
  · cases h
  · cases h

end LatchApi.Bundler
