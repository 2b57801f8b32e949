import LatchApi.Lib.Eval
import LatchApi.Build.Built

/-!
Which token a fee is planned in. The list of tokens is reordered in place while it is walked; the
search then passes over tokens without a quote and stops at a balance that cannot be read.
-/

namespace LatchApi.Build

open Lib Program Soroban Bundler List Option

variable {ts : List GaslessFeeToken}

section Reordering

variable {tokens : List GaslessFeeToken}

theorem swapStep_perm (ts : List GaslessFeeToken) (i : Nat) : (swapStep ts i).Perm ts := by
  unfold swapStep
  split
  · rename_i first t hfirst ht
    obtain ⟨hzero, rfl⟩ := List.getElem?_eq_some_iff.mp hfirst
    obtain ⟨hi, rfl⟩ := List.getElem?_eq_some_iff.mp ht
    split
    · exact set_set_perm hzero hi
    · exact .refl _
  · exact .refl _

theorem swapStep_cases (ts : List GaslessFeeToken) (i : Nat) :
    (∃ t, (swapStep ts i)[0]? = some t ∧ t.native = true) ∨
      swapStep ts i = ts ∧ ∀ t, ts[i]? = some t → t.native = true → i = 0 := by
  unfold swapStep
  split
  · rename_i first t hfirst ht
    obtain ⟨hzero, -⟩ := List.getElem?_eq_some_iff.mp hfirst
    split
    · rename_i hswap
      refine .inl ⟨t, ?_, hswap.1⟩
      rw [getElem?_set_ne hswap.2, getElem?_set_self hzero]
    · rename_i hkeep
      refine .inr ⟨rfl, fun t' ht' hnative => ?_⟩
      obtain rfl := some.inj (ht.symm.trans ht')
      by_contra hne
      exact hkeep ⟨hnative, hne⟩
  · rename_i hmissing
    refine .inr ⟨rfl, fun t ht _ => ?_⟩
    have hzero := Nat.zero_lt_of_lt (List.getElem?_eq_some_iff.mp ht).1
    exact (hmissing _ t (getElem?_eq_getElem hzero) ht).elim

def NativeAhead (n : Nat) (ts : List GaslessFeeToken) : Prop :=
  ∀ i < n, ∀ t, ts[i]? = some t → t.native = true →
    ∃ first, ts[0]? = some first ∧ first.native = true

theorem NativeAhead.step {n : Nat} (h : NativeAhead n ts) :
    NativeAhead (n + 1) (swapStep ts n) := by
  intro i hi t ht hnative
  rcases swapStep_cases ts n with hfront | ⟨hkept, hnone⟩
  · exact hfront
  rw [hkept] at ht ⊢
  rcases Nat.lt_succ_iff_lt_or_eq.mp hi with hi | rfl
  · exact h i hi t ht hnative
  · obtain rfl := hnone t ht hnative
    exact ⟨t, ht, hnative⟩

theorem nativeFirst_spec (tokens : List GaslessFeeToken) :
    (nativeFirst tokens).Perm tokens ∧ NativeAhead tokens.length (nativeFirst tokens) := by
  have hfold : ∀ n, ((range n).foldl swapStep tokens).Perm tokens ∧
      NativeAhead n ((range n).foldl swapStep tokens) := by
    intro n
    induction n with
    | zero => exact ⟨.refl _, fun i hi => absurd hi (Nat.not_lt_zero i)⟩
    | succ n ih =>
      rw [range_succ, foldl_append, foldl_cons, foldl_nil]
      exact ⟨(swapStep_perm _ n).trans ih.1, ih.2.step⟩
  exact hfold tokens.length

theorem nativeFirst_perm (tokens : List GaslessFeeToken) : (nativeFirst tokens).Perm tokens :=
  (nativeFirst_spec tokens).1

theorem nativeFirst_front (h : ∃ t ∈ tokens, t.native = true) :
    ∃ first, (nativeFirst tokens)[0]? = some first ∧ first.native = true := by
  obtain ⟨t, ht, hnative⟩ := h
  obtain ⟨hperm, hahead⟩ := nativeFirst_spec tokens
  obtain ⟨i, hi⟩ := mem_iff_getElem?.mp (hperm.mem_iff.mpr ht)
  refine hahead i ?_ t hi hnative
  rw [← hperm.length_eq]
  exact (List.getElem?_eq_some_iff.mp hi).1

end Reordering

variable {script : Script BuildRes} {wallet : String}
  {target : InvokeContractArgs}

section Search

def BuildOp.isQuote : BuildOp → Bool
  | .quote _ _ => true
  | _ => false

def quotesAsked (h : Log BuildRes) : Nat := (h.filter fun e => e.1.isQuote).length

structure FeeWorld where
  config : GaslessFeeConfig
  sim : Simulation
  resourceFee : Int64
  quotes : Nat → Except GaslessError GaslessQuote
  balances : String → Except RpcError (Int64 × UInt64)

structure FeeWorld.Answers (w : FeeWorld) (wallet : String) (target : InvokeContractArgs)
    (script : Script BuildRes) : Prop where
  config : ∀ h, script h .feeTokens = .ok w.config
  built : ∀ h, script h (.buildTransaction (resourceFeeTransaction target)) = .ok ()
  simulated : ∀ h, script h (.simulate (resourceFeeTransaction target)) = .ok w.sim
  succeeded : w.sim.error = ""
  fee : parseInt64 w.sim.minResourceFee = some w.resourceFee
  quoted : ∀ h token fee, script h (.quote token fee) = w.quotes (quotesAsked h)
  balance : ∀ h token, script h (.balanceOf token wallet) = w.balances token

def amountDue (q : GaslessQuote) (t : GaslessFeeToken) (spendToken : String)
    (spendAmount : Option Int) : Int :=
  q.maxFeeAmount.toInt + if spendToken = t.contract then spendAmount.getD 0 else 0

variable (w : FeeWorld) (spendToken : String) (spendAmount : Option Int)

def FeeWorld.Payable (i : Nat) (t : GaslessFeeToken) (q : GaslessQuote) : Prop :=
  w.quotes i = .ok q ∧ ∃ balance, w.balances t.contract = .ok balance ∧
    amountDue q t spendToken spendAmount ≤ i128ToInt balance.1 balance.2

structure FeeWorld.Chosen (k : Nat) (ts : List GaslessFeeToken) (i : Nat) (t : GaslessFeeToken)
    (q : GaslessQuote) : Prop where
  at_index : ts[i]? = some t
  payable : w.Payable spendToken spendAmount (k + i) t q
  first : ∀ j < i, ∀ t' q', ts[j]? = some t' → ¬ w.Payable spendToken spendAmount (k + j) t' q'

def FeeWorld.Reads (k : Nat) (ts : List GaslessFeeToken) : Prop :=
  ∀ i t q, ts[i]? = some t → w.quotes (k + i) = .ok q →
    (∀ j < i, ∀ t' q', ts[j]? = some t' → ¬ w.Payable spendToken spendAmount (k + j) t' q') →
      ∃ balance, w.balances t.contract = .ok balance

variable {w} {spendToken spendAmount} {k : Nat} {t : GaslessFeeToken} {q : GaslessQuote}

theorem FeeWorld.Reads.tail (h : w.Reads spendToken spendAmount k (t :: ts))
    (hno : ∀ q, ¬ w.Payable spendToken spendAmount k t q) :
    w.Reads spendToken spendAmount (k + 1) ts := by
  intro i t' q hi hq hearlier
  refine h (i + 1) t' q hi (by rwa [Nat.add_right_comm, Nat.add_assoc] at hq) fun j hj t₁ q₁ ht₁ => ?_
  cases j with
  | zero =>
    cases ht₁
    exact hno q₁
  | succ j =>
    rw [show k + (j + 1) = k + 1 + j by omega]
    exact hearlier j (Nat.lt_of_succ_lt_succ hj) t₁ q₁ ht₁

theorem FeeWorld.Chosen.tail {i : Nat} {t' : GaslessFeeToken}
    (h : w.Chosen spendToken spendAmount k (t :: ts) i t' q)
    (hno : ∀ q, ¬ w.Payable spendToken spendAmount k t q) :
    ∃ i', w.Chosen spendToken spendAmount (k + 1) ts i' t' q := by
  cases i with
  | zero =>
    obtain rfl := some.inj h.at_index
    exact absurd h.payable (hno q)
  | succ i =>
    refine ⟨i, h.at_index, ?_, fun j hj t₁ q₁ ht₁ => ?_⟩
    · rw [show k + 1 + i = k + (i + 1) by omega]
      exact h.payable
    · rw [show k + 1 + j = k + (j + 1) by omega]
      exact h.first (j + 1) (Nat.succ_lt_succ hj) t₁ q₁ ht₁

structure SearchSpec (w : FeeWorld) (spendToken : String) (spendAmount : Option Int) (k : Nat)
    (ts : List GaslessFeeToken) (out : Except BuildError GaslessQuote) : Prop where
  ok : ∀ i t q, w.Chosen spendToken spendAmount k ts i t q → out = .ok q
  error : (∀ i t q, ts[i]? = some t → ¬ w.Payable spendToken spendAmount (k + i) t q) →
    ∃ e, out = .error e

theorem SearchSpec.cons_of_not {out : Except BuildError GaslessQuote}
    (hno : ∀ q, ¬ w.Payable spendToken spendAmount k t q)
    (h : SearchSpec w spendToken spendAmount (k + 1) ts out) :
    SearchSpec w spendToken spendAmount k (t :: ts) out where
  ok i t' q hchosen := by
    obtain ⟨i', hchosen⟩ := hchosen.tail hno
    exact h.ok i' t' q hchosen
  error hnone := by
    refine h.error fun i t' q ht' => ?_
    rw [show k + 1 + i = k + (i + 1) by omega]
    exact hnone (i + 1) t' q ht'

theorem SearchSpec.cons_of_payable (hq : w.Payable spendToken spendAmount k t q) :
    SearchSpec w spendToken spendAmount k (t :: ts) (.ok q) where
  ok i t' q' hchosen := by
    cases i with
    | zero =>
      have hq' := hchosen.payable.1
      rw [Nat.add_zero, hq.1] at hq'
      rw [Except.ok.inj hq']
    | succ i => exact absurd hq (hchosen.first 0 (Nat.succ_pos i) t q rfl)
  error hnone := absurd hq (hnone 0 t q rfl)

theorem search_spec (hw : w.Answers wallet target script) (resourceFee : Int64)
    (quoteErr : Option GaslessError) (ts : List GaslessFeeToken) (h : Log BuildRes)
    (hk : quotesAsked h = k) (hreads : w.Reads spendToken spendAmount k ts) :
    SearchSpec w spendToken spendAmount k ts
      ((chooseFeeToken wallet spendToken spendAmount resourceFee quoteErr ts).runWith script h).1 := by
  induction ts generalizing quoteErr h k with
  | nil =>
    refine ⟨fun i t q hchosen => ?_, fun _ => ?_⟩
    · cases hchosen.at_index
    unfold chooseFeeToken
    split
    · exact ⟨_, rfl⟩
    · exact ⟨_, rfl⟩
  | cons t ts ih =>
    rw [chooseFeeToken, runWith_perform_bind, hw.quoted, hk]
    cases hquote : w.quotes k with
    | error e =>
      have hno : ∀ q, ¬ w.Payable spendToken spendAmount k t q := fun q hq => by
        cases hquote.symm.trans hq.1
      exact .cons_of_not hno (ih _ _ (congrArg Nat.succ hk) (hreads.tail hno))
    | ok q =>
      obtain ⟨balance, hbalance⟩ := hreads 0 t q rfl hquote fun j hj => absurd hj (Nat.not_lt_zero j)
      rw [runWith_perform_bind, hw.balance, hbalance]
      simp only [orRpc, orFail, ok_bind]
      by_cases hdue : amountDue q t spendToken spendAmount ≤ i128ToInt balance.1 balance.2
      · rw [if_pos (show forwardFeeNeed _ _ _ _ ≤ _ from hdue)]
        exact .cons_of_payable ⟨hquote, balance, hbalance, hdue⟩
      rw [if_neg (show ¬ forwardFeeNeed _ _ _ _ ≤ _ from hdue)]
      have hno : ∀ q, ¬ w.Payable spendToken spendAmount k t q := by
        rintro q' ⟨hq', balance', hbalance', hdue'⟩
        obtain rfl := Except.ok.inj (hquote.symm.trans hq')
        obtain rfl := Except.ok.inj (hbalance.symm.trans hbalance')
        exact hdue hdue'
      exact .cons_of_not hno (ih _ _ (congrArg Nat.succ hk) (hreads.tail hno))

theorem exists_chosen {i : Nat} (hi : ts[i]? = some t) (hq : w.Payable spendToken spendAmount i t q) :
    ∃ i t q, w.Chosen spendToken spendAmount 0 ts i t q := by
  induction i using Nat.strong_induction_on generalizing t q with
  | _ i ih =>
    by_cases hearlier : ∃ j < i, ∃ t' q', ts[j]? = some t' ∧ w.Payable spendToken spendAmount j t' q'
    · obtain ⟨j, hj, t', q', ht', hq'⟩ := hearlier
      exact ih j hj ht' hq'
    refine ⟨i, t, q, hi, by rwa [Nat.zero_add], fun j hj t' q' ht' hq' => hearlier ?_⟩
    rw [Nat.zero_add] at hq'
    exact ⟨j, hj, t', q', ht', hq'⟩

end Search

section Plan

structure GaslessFeeConfig.Decodes (config : GaslessFeeConfig) (wallet : String) : Prop where
  forwarder : ∃ id, contractIDFromAddress config.feeForwarder = some id
  relayer : ∃ address, scAddress config.relayer = some address
  wallet : ∃ address, scAddress wallet = some address
  tokens : ∀ t ∈ config.feeTokens, ∃ address, scAddress t.contract = some address

def ForwardWrap.PaysIn (wrap : ForwardWrap) (config : GaslessFeeConfig) (sim : Simulation)
    (target : InvokeContractArgs) (wallet : String) (t : GaslessFeeToken) (q : GaslessQuote) : Prop :=
  wrap.fee = ⟨t.contract, q.symbol, toString q.maxFeeAmount, formatSevenDecimals q.maxFeeAmount⟩ ∧
    forwardHostFunction config.feeForwarder t.contract q.maxFeeAmount
      (sim.latestLedger.toUInt64.toUInt32 + forwardExpiryLedgers) target wallet config.relayer =
        .ok wrap.hostFunction

theorem exists_forwardHostFunction {config : GaslessFeeConfig} (hd : config.Decodes wallet)
    {t : GaslessFeeToken} (ht : t ∈ config.feeTokens) (maxFee : Int64) (expiration : UInt32)
    (target : InvokeContractArgs) :
    ∃ fn, forwardHostFunction config.feeForwarder t.contract maxFee expiration target wallet
      config.relayer = .ok fn := by
  obtain ⟨id, hid⟩ := hd.forwarder
  obtain ⟨token, htoken⟩ := hd.tokens t ht
  obtain ⟨user, huser⟩ := hd.wallet
  obtain ⟨relayer, hrelayer⟩ := hd.relayer
  rw [forwardHostFunction, hid, htoken, huser, hrelayer]
  exact ⟨_, rfl⟩

variable {w : FeeWorld}

theorem run_simulateResourceFee (hw : w.Answers wallet target script) (h : Log BuildRes) :
    ((simulateResourceFee target).runWith script h).1 = .ok (w.resourceFee, w.sim.latestLedger) ∧
      quotesAsked ((simulateResourceFee target).runWith script h).2 = quotesAsked h := by
  rw [simulateResourceFee, runWith_perform_bind, hw.built]
  simp only [orRpc, orFail, ok_bind]
  rw [runWith_perform_bind, hw.simulated]
  simp only [ok_bind, hw.succeeded, hw.fee]
  exact ⟨rfl, rfl⟩

theorem run_planForward {cfg : BuildConfig} (hgasless : cfg.gaslessConfigured = true)
    (hw : w.Answers wallet target script) (spendToken : String) (spendAmount : Option Int) :
    let plan := (planForward cfg wallet target spendToken spendAmount).runWith script []
    ∃ h, quotesAsked h = 0 ∧
      ∀ out, ((chooseFeeToken wallet spendToken spendAmount w.resourceFee none
          (nativeFirst w.config.feeTokens)).runWith script h).1 = out →
        (∀ e, out = .error e → plan.1 = .error e) ∧
        ∀ q fn, out = .ok q → forwardHostFunction w.config.feeForwarder q.feeToken q.maxFeeAmount
            (w.sim.latestLedger.toUInt64.toUInt32 + forwardExpiryLedgers) target wallet
            w.config.relayer = .ok fn →
          plan.1 = .ok ⟨fn, ⟨q.feeToken, q.symbol, toString q.maxFeeAmount,
            formatSevenDecimals q.maxFeeAmount⟩, w.config.relayer, w.config.feeForwarder⟩ := by
  obtain ⟨hfee, hasked⟩ := run_simulateResourceFee hw [⟨.feeTokens, .ok w.config⟩]
  intro plan
  refine ⟨_, hasked, fun out hout => ?_⟩
  change (∀ e, out = .error e →
      ((planForward cfg wallet target spendToken spendAmount).runWith script []).1 = .error e) ∧
    ∀ q fn, out = .ok q → _ →
      ((planForward cfg wallet target spendToken spendAmount).runWith script []).1 = .ok _
  rw [planForward, if_pos hgasless, runWith_perform_bind, hw.config]
  simp only [orGasless, orFail, ok_bind]
  rw [runWith_bind_ok hfee]
  refine ⟨?_, ?_⟩
  · rintro e rfl
    rw [runWith_bind_error hout]
  rintro q fn rfl hfn
  rw [runWith_bind_ok hout, hfn]
  rfl

/-- A plan puts a native token first and pays in the first token, in that order, that can. -/
theorem planForward_pays_first (cfg : BuildConfig) (w : FeeWorld) (wallet : String)
    (target : InvokeContractArgs) (spendToken : String) (spendAmount : Option Int)
    (script : Script BuildRes)
    (hgasless : cfg.gaslessConfigured = true) (hw : w.Answers wallet target script)
    (hdecodes : w.config.Decodes wallet)
    (hquotes : ∀ i t q, (nativeFirst w.config.feeTokens)[i]? = some t → w.quotes i = .ok q →
      q.feeToken = t.contract) :
    let order := nativeFirst w.config.feeTokens
    let plan := (planForward cfg wallet target spendToken spendAmount).runWith script []
    order.Perm w.config.feeTokens ∧
      ((∃ t ∈ w.config.feeTokens, t.native = true) →
        ∃ first, order[0]? = some first ∧ first.native = true) ∧
      (w.Reads spendToken spendAmount 0 order →
        (∀ i t q, w.Chosen spendToken spendAmount 0 order i t q →
          ∃ wrap, plan.1 = .ok wrap ∧ wrap.PaysIn w.config w.sim target wallet t q) ∧
        ((∃ e, plan.1 = .error e) ↔
          ∀ i t q, order[i]? = some t → ¬ w.Payable spendToken spendAmount i t q)) := by
  intro order plan
  have hperm : order.Perm w.config.feeTokens := nativeFirst_perm w.config.feeTokens
  refine ⟨hperm, nativeFirst_front, fun hreads => ?_⟩
  obtain ⟨h, hasked, hplan⟩ := run_planForward hgasless hw spendToken spendAmount
  have hspec := search_spec hw w.resourceFee none order h hasked hreads
  obtain ⟨hfails, hsucceeds⟩ := hplan _ rfl
  have hpays : ∀ i t q, w.Chosen spendToken spendAmount 0 order i t q →
      ∃ wrap, plan.1 = .ok wrap ∧ wrap.PaysIn w.config w.sim target wallet t q := by
    intro i t q hchosen
    have htoken : q.feeToken = t.contract := by
      have hquote := hchosen.payable.1
      rw [Nat.zero_add] at hquote
      exact hquotes i t q hchosen.at_index hquote
    obtain ⟨fn, hfn⟩ := exists_forwardHostFunction hdecodes
      (hperm.mem_iff.mp (mem_of_getElem? hchosen.at_index)) q.maxFeeAmount
      (w.sim.latestLedger.toUInt64.toUInt32 + forwardExpiryLedgers) target
    refine ⟨_, hsucceeds q fn (hspec.ok i t q hchosen) (htoken ▸ hfn), ?_, hfn⟩
    rw [htoken]
  refine ⟨hpays, fun ⟨e, herror⟩ i t q ht hq => ?_, fun hnone => ?_⟩
  · obtain ⟨i', t', q', hchosen⟩ := exists_chosen ht hq
    obtain ⟨wrap, hok, -⟩ := hpays i' t' q' hchosen
    cases hok.symm.trans herror
  · have hsearch := hspec.error fun i t q ht => by
      rw [Nat.zero_add]
      exact hnone i t q ht
    obtain ⟨e, herror⟩ := hsearch
    exact ⟨e, hfails e herror⟩

namespace Sample

def stablecoin : GaslessFeeToken := ⟨contractText (key 5), "USDC", false⟩

def lumens : GaslessFeeToken := ⟨contractText (key 6), "XLM", true⟩

def lumensQuote : GaslessQuote := ⟨lumens.contract, "XLM", 1000⟩

def feeWorld : FeeWorld where
  config := ⟨stablecoin.contract, lumens.contract, [stablecoin, lumens]⟩
  sim := ⟨⟨"", none, 100, .of []⟩, "100"⟩
  resourceFee := 100
  quotes i := if i = 0 then .ok lumensQuote else .error .unavailable
  balances _ := .ok (0, 5000)

def gaslessConfig : BuildConfig := { config with gaslessConfigured := true }

def feeAnswers (h : Log BuildRes) : (op : BuildOp) → BuildRes op
  | .feeTokens => .ok feeWorld.config
  | .simulate _ => .ok feeWorld.sim
  | .quote _ _ => feeWorld.quotes (quotesAsked h)
  | .balanceOf token _ => feeWorld.balances token
  | op => answers [] h op

theorem feeAnswers_answers (wallet : String) (target : InvokeContractArgs) :
    feeWorld.Answers wallet target feeAnswers where
  config _ := rfl
  built _ := rfl
  simulated _ := rfl
  succeeded := rfl
  fee := by decide +kernel
  quoted _ _ _ := rfl
  balance _ _ := rfl

theorem feeConfig_decodes : feeWorld.config.Decodes stablecoin.contract := by
  have hcoin : ∃ id, contractIDFromAddress stablecoin.contract = some id :=
    isSome_iff_exists.mp (by decide +kernel)
  have hlumens : ∃ address, scAddress lumens.contract = some address :=
    isSome_iff_exists.mp (by decide +kernel)
  have hcoin' : ∃ address, scAddress stablecoin.contract = some address :=
    isSome_iff_exists.mp (by decide +kernel)
  refine ⟨hcoin, hlumens, hcoin', ?_⟩
  change ∀ t ∈ [stablecoin, lumens], ∃ address, scAddress t.contract = some address
  simp only [forall_mem_cons]
  exact ⟨hcoin', hlumens, fun t ht => absurd ht not_mem_nil⟩

theorem lumens_chosen : feeWorld.Chosen lumens.contract (some 3000) 0
    (nativeFirst feeWorld.config.feeTokens) 0 lumens lumensQuote where
  at_index := rfl
  payable := by
    refine ⟨rfl, (0, 5000), rfl, ?_⟩
    simp only [amountDue, if_true]
    decide
  first j hj := absurd hj (Nat.not_lt_zero j)

end Sample

theorem Sample.lumens_pay : ∃ wrap,
    ((planForward Sample.gaslessConfig Sample.stablecoin.contract Sample.increment
        Sample.lumens.contract (some 3000)).runWith Sample.feeAnswers []).1 = .ok wrap ∧
      wrap.fee.token = Sample.lumens.contract := by
  have hquotes : ∀ i t q, (nativeFirst Sample.feeWorld.config.feeTokens)[i]? = some t →
      Sample.feeWorld.quotes i = .ok q → q.feeToken = t.contract := by
    intro i t q ht hq
    cases i with
    | zero =>
      obtain rfl := some.inj ht
      obtain rfl := Except.ok.inj hq
      rfl
    | succ i => cases hq
  have hgasless : Sample.gaslessConfig.gaslessConfigured = true := rfl
  obtain ⟨-, -, hplan⟩ := planForward_pays_first Sample.gaslessConfig Sample.feeWorld
    Sample.stablecoin.contract Sample.increment Sample.lumens.contract (some 3000) Sample.feeAnswers
    hgasless (Sample.feeAnswers_answers _ _) Sample.feeConfig_decodes hquotes
  obtain ⟨hpays, -⟩ := hplan fun i t q _ _ _ => ⟨(0, 5000), rfl⟩
  obtain ⟨wrap, hwrap, hfee, -⟩ := hpays 0 Sample.lumens Sample.lumensQuote Sample.lumens_chosen
  exact ⟨wrap, hwrap, by rw [hfee]⟩

end Plan

end LatchApi.Build
