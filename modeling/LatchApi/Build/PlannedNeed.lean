import LatchApi.Build.FeePlan
import LatchApi.Build.RuleIDs
import LatchApi.Build.Swap
import LatchApi.Build.Transactions

namespace LatchApi.Build

open Lib Program Soroban Bundler
open Multisig (CatalogAsset resolveAsset parseAmountToI128)

variable (cfg : BuildConfig)

variable {h : Log BuildRes} {target : InvokeContractArgs}

section Plan

structure Planned (wallet spendToken : String) (spendAmount : Option Int) (h : Log BuildRes)
    (token : String) (q : GaslessQuote) (balance : Int64 × UInt64) :
    Prop where
  quoted : ∃ fee, ⟨.quote token fee, .ok q⟩ ∈ h
  read : ⟨.balanceOf token wallet, .ok balance⟩ ∈ h
  covers : forwardFeeNeed q.maxFeeAmount spendToken token spendAmount ≤ i128ToInt balance.1 balance.2

variable {wallet spendToken : String} {spendAmount : Option Int} {h' : Log BuildRes}
  {token : String} {q : GaslessQuote} {balance : Int64 × UInt64}

theorem Planned.mono (hp : Planned wallet spendToken spendAmount h token q balance) (hsub : h ⊆ h') :
    Planned wallet spendToken spendAmount h' token q balance :=
  ⟨hp.quoted.imp fun _ hq => hsub hq, hsub hp.read, hp.covers⟩

theorem obeys_chooseFeeToken (resourceFee : Int64) (quoteErr : Option GaslessError)
    (ts : List GaslessFeeToken) :
    Obeys anyRun h (chooseFeeToken wallet spendToken spendAmount resourceFee quoteErr ts)
      (onOk fun h' q => ∃ token balance,
        Planned wallet spendToken spendAmount h' token q balance) := by
  induction ts generalizing h quoteErr with
  | nil =>
    unfold chooseFeeToken
    split
    · exact .fail trivial
    · exact .fail trivial
  | cons t ts ih =>
    refine obeys_call_then fun quoted => ?_
    cases quoted with
    | error e => exact ih (some e)
    | ok q =>
      refine obeys_call_then fun read => obeys_orFail_bind fun balance hbalance => ?_
      subst hbalance
      dsimp only
      split
      · rename_i hcovers
        refine .ok ⟨t.contract, balance, ⟨forwardResourceFactor * resourceFee, ?_⟩, List.mem_cons_self,
          hcovers⟩
        exact List.mem_cons_of_mem _ List.mem_cons_self
      · exact ih quoteErr

def Wraps (wallet : String) (target : InvokeContractArgs) (q : GaslessQuote) (fn : HostFunction) :
    Prop :=
  ∃ forwarder expiration relayer, forwardHostFunction forwarder q.feeToken q.maxFeeAmount expiration
    target wallet relayer = .ok fn

theorem obeys_planForward :
    Obeys anyRun h (planForward cfg wallet target spendToken spendAmount) (onOk fun h' wrap =>
      ∃ token q balance, Planned wallet spendToken spendAmount h' token q balance ∧
        Wraps wallet target q wrap.hostFunction) := by
  unfold planForward
  split
  · refine obeys_call_then fun answer => (obeys_any _).bind_onOk fun h₁ config _ => ?_
    refine (obeys_any _).bind_onOk fun h₂ fee _ => ?_
    refine (obeys_chooseFeeToken _ _ _).bind_onOk fun h₃ q hq => ?_
    obtain ⟨token, balance, hplanned⟩ := hq
    exact obeys_ofExcept_bind fun fn hfn => .ok ⟨token, q, balance, hplanned, _, _, _, hfn⟩
  · exact .fail trivial

end Plan

section Builds

inductive ForwardBuild where
  | send (input : BuildSendInput) (catalog : List CatalogAsset)
  | swap (input : BuildSwapInput)

namespace ForwardBuild

def wallet : ForwardBuild → String
  | .send input _ => input.smartAccountAddress
  | .swap input => input.smartAccountAddress

def body (cfg : BuildConfig) : ForwardBuild → SwapBuilder BuildAuthTransactionResult
  | .send input catalog => do
    let r ← ofBuilder (buildSend cfg input catalog)
    return r.toBuildAuthTransactionResult
  | .swap input => do
    let r ← buildSwap cfg input
    return r.toBuildAuthTransactionResult

inductive Calls : ForwardBuild → InvokeContractArgs → String → Int → Prop
  | send {input : BuildSendInput} {catalog : List CatalogAsset} {asset : CatalogAsset} {hi : Int64}
      {lo : UInt64} {target : InvokeContractArgs}
      (hasset : resolveAsset catalog input.assetID input.contractID = .ok asset)
      (hamount : parseAmountToI128 input.amount asset.decimals = some (hi, lo))
      (hcall : transferCall input asset hi lo = .ok target) :
      Calls (.send input catalog) target asset.contractID (i128ToInt hi lo)
  | swap {input : BuildSwapInput} {amountIn amountOutMin : Nat} {target : InvokeContractArgs}
      (hamount : parseU128Raw input.amountInRaw "amountInRaw" = .ok amountIn)
      (hcall : swapCall input amountIn amountOutMin = .ok target) :
      Calls (.swap input) target input.tokenInContractID amountIn

end ForwardBuild

structure Forwards (b : ForwardBuild) (h : Log BuildRes) (r : BuildAuthTransactionResult)
    (fn : HostFunction) (target : InvokeContractArgs) (spendToken : String) (amount : Int)
    (token : String) (q : GaslessQuote) (balance : Int64 × UInt64) : Prop where
  encoded : ∃ auth, r.txXdr = .of (.v1 [.invokeHostFunction fn auth])
  calls : b.Calls target spendToken amount
  planned : Planned b.wallet spendToken (some amount) h token q balance
  wraps : Wraps b.wallet target q fn

theorem SendBuilt.forwards {input : BuildSendInput} {catalog : List CatalogAsset}
    {r : BuildAuthTransactionResult} (hb : SendBuilt cfg input catalog
      (fun target spendToken amount h wrap => ∃ token q balance,
        Planned input.smartAccountAddress spendToken (some amount) h token q balance ∧
          Wraps input.smartAccountAddress target q wrap.hostFunction) h r) :
    ∃ fn target spendToken amount token q balance,
      Forwards (.send input catalog) h r fn target spendToken amount token q balance := by
  obtain ⟨asset, hi, lo, target, h₁, wrap, auth, hasset, hamount, hcall, hsub,
    ⟨token, q, balance, hplanned, hwraps⟩, htx⟩ := hb.planned
  exact ⟨_, target, _, _, token, q, balance, ⟨auth, htx⟩, .send hasset hamount hcall,
    hplanned.mono hsub, hwraps⟩

theorem obeys_ofBuilder_bind {α β : Type} {p : Builder α} {f : α → SwapBuilder β}
    {P : Log BuildRes → α → Prop} {R : Log BuildRes → β → Prop} (hp : Obeys anyRun h p (onOk P))
    (hf : ∀ h' a, P h' a → Obeys anyRun h' (f a) (onOk R)) :
    Obeys anyRun h (ofBuilder p >>= f) (onOk R) := by
  unfold ofBuilder
  rw [bind_assoc, obeys_bind, obeys_attempt]
  refine hp.mono fun h' out hout => ?_
  cases out with
  | ok a => exact hf h' a hout
  | error e => exact .fail trivial

theorem obeys_callRpc_bind {α β : Type} {context : String} {p : Builder (Except RpcError α)}
    {f : α → SwapBuilder β} {R : Log BuildRes → β → Prop}
    (hf : ∀ h' a, Obeys anyRun h' (f a) (onOk R)) :
    Obeys anyRun h (callRpc context p >>= f) (onOk R) :=
  obeys_ofBuilder_bind (obeys_any _) fun h' a _ => hf h' a

theorem obeys_buildSwap_forwards (input : BuildSwapInput) :
    Obeys anyRun [] (buildSwap cfg input) (onOk fun h r =>
      ∃ fn target spendToken amount token q balance, Forwards (.swap input) h
        r.toBuildAuthTransactionResult fn target spendToken amount token q balance) := by
  refine obeys_ofExcept_bind fun _ _ => obeys_ofExcept_bind fun amountIn hamount => ?_
  refine obeys_ofExcept_bind fun amountOutMin _ => ?_
  refine obeys_ofBuilder_bind (obeys_any _) fun h₁ contextRuleID _ => ?_
  refine obeys_callRpc_bind fun h₂ rule => ?_
  refine obeys_ofExcept_bind fun _ _ => obeys_callRpc_bind fun h₃ tokenBalance => ?_
  refine obeys_ofExcept_bind fun _ _ => obeys_ofExcept_bind fun swap hswap => ?_
  refine obeys_ofExcept_bind fun _ _ => ?_
  refine obeys_ofBuilder_bind (obeys_planForward cfg) fun h₄ wrap hwrap => ?_
  obtain ⟨token, q, balance, hplanned, hwraps⟩ := hwrap
  have hcalls : ForwardBuild.Calls (.swap input) swap input.tokenInContractID amountIn :=
    .swap hamount hswap
  refine Obeys.mono_onOk (P := fun h' r => h₄ ⊆ h' ∧
    ∃ auth, r.txXdr = .of (.v1 [.invokeHostFunction wrap.hostFunction auth])) ?_ fun h' r hr =>
      ⟨_, _, _, _, token, q, balance, hr.2, hcalls, hplanned.mono hr.1, hwraps⟩
  refine Obeys.subset_onOk ?_
  refine obeys_callRpc_bind fun h₅ seq => ?_
  refine obeys_ofBuilder_bind (shape_buildAuthTransactionCore _) fun h₆ core hcore => .ok ?_
  obtain ⟨⟨auth, data, htx⟩, -⟩ := hcore
  exact ⟨auth, htx⟩

theorem ForwardBuild.obeys_body (b : ForwardBuild) : Obeys anyRun [] (b.body cfg) (onOk fun h r =>
      ∃ fn target spendToken amount token q balance,
        Forwards b h r fn target spendToken amount token q balance) := by
  cases b with
  | send input catalog =>
    refine obeys_ofBuilder_bind (obeys_buildSend (fun _ _ _ _ => obeys_planForward cfg) catalog) ?_
    exact fun _ _ hr => .ok (hr.forwards cfg)
  | swap input => exact (obeys_buildSwap_forwards cfg input).bind_onOk fun _ _ hr => .ok hr

end Builds

variable {amount : Int}

section Need

theorem i128ToInt_of_nonneg {n : Int64} (h : 0 ≤ n) : i128ToInt 0 n.toUInt64 = n.toInt := by
  have hnonneg : 0 ≤ n.toInt := by simpa using Int64.le_iff_toInt_le.mp h
  have hnat : n.toUInt64.toNat = n.toBitVec.toNat := rfl
  have hzero : (0 : Int64).toInt = 0 := rfl
  rw [i128ToInt, hzero, zero_mul, zero_add, hnat, ← Int64.toInt_toBitVec, BitVec.toInt_eq_toNat_cond]
  rw [← Int64.toInt_toBitVec, BitVec.toInt_eq_toNat_cond] at hnonneg
  split at hnonneg
  · rename_i hsmall
    rw [if_pos hsmall]
  · omega

theorem bigIntToU128_eq {n : Nat} (h : n < 2 ^ 128) :
    ((bigIntToU128 n).1.toNat : Int) * 2 ^ 64 + (bigIntToU128 n).2.toNat = n := by
  simp only [bigIntToU128, UInt64.toNat_ofNat']
  omega

theorem parseU128Raw_lt {raw fieldName : String} {n : Nat}
    (h : parseU128Raw raw fieldName = .ok n) : n < 2 ^ 128 := by
  unfold parseU128Raw at h
  split at h
  · cases h
  split at h
  · cases h
  split at h
  · rename_i hlt
    exact Except.ok.inj h ▸ hlt
  · cases h

theorem scAddress_eq_some {address : String} {val : ScVal} (h : scAddress address = some val) :
    scValToAddressString val = some address := by
  obtain ⟨a, ha, rfl⟩ := Option.map_eq_some_iff.mp h
  exact addressString_of_text ha

variable {spendToken : String}

theorem ForwardBuild.Calls.spendOf_eq {b : ForwardBuild} (h : b.Calls target spendToken amount) :
    ∃ text, addressString target.contractAddress = some text ∧
      spendOf text (scSymbol target.functionName) (scVec target.args) = some (spendToken, amount) := by
  cases h with
  | @send input catalog asset hi lo target hasset hamount hcall =>
    obtain ⟨sender, -, hcall⟩ := bind_eq_ok.mp hcall
    obtain ⟨receiver, -, hcall⟩ := bind_eq_ok.mp hcall
    obtain ⟨id, hid, hcall⟩ := bind_eq_ok.mp hcall
    cases hcall
    exact ⟨asset.contractID, congrArg some (text_of_strkey (orError_eq_ok.mp hid)), rfl⟩
  | @swap input amountIn amountOutMin target hamount hcall =>
    obtain ⟨router, -, hcall⟩ := bind_eq_ok.mp hcall
    obtain ⟨chain, -, hcall⟩ := bind_eq_ok.mp hcall
    obtain ⟨smartAccount, -, hcall⟩ := bind_eq_ok.mp hcall
    obtain ⟨tokenIn, htoken, hcall⟩ := bind_eq_ok.mp hcall
    cases hcall
    have htoken := scAddress_eq_some (orError_eq_ok.mp (mapError_eq_ok.mp htoken))
    refine ⟨contractText router, rfl, ?_⟩
    change (scValToAddressString tokenIn).map (fun token => (token,
      ((bigIntToU128 amountIn).1.toNat : Int) * 2 ^ 64 + (bigIntToU128 amountIn).2.toNat)) = _
    rw [htoken, bigIntToU128_eq (parseU128Raw_lt hamount)]
    rfl

def balanceBelow (wallet token : String) (amount : Int) : Submitter Bool := do
  match ← tokenBalance token wallet with
  | .error _ => return false
  | .ok balance => return decide (balance < amount)

theorem forwardBalanceShort_eq {args : List ScVal} {token : String} {maxFee : Int}
    (htoken : args[0]?.bind scValToAddressString = some token)
    (hmax : args[2]?.bind i128Of = some maxFee) (wallet : String) :
    forwardBalanceShort wallet args = balanceBelow wallet token (forwardNeed token args maxFee) := by
  rw [forwardBalanceShort, htoken]
  simp only [hmax]
  rfl

theorem forwardNeed_eq {args : List ScVal} (hspend : forwardSpend args = some (spendToken, amount))
    (maxFee : Int64) (token : String) :
    forwardNeed token args maxFee.toInt = forwardFeeNeed maxFee spendToken token (some amount) := by
  rw [forwardNeed, hspend, forwardFeeNeed]
  by_cases htoken : spendToken = token
  · simp only [htoken, if_true, Option.getD_some]
  · simp only [htoken, if_false, add_zero]

theorem callArgs_forwardHostFunction {forwarder feeToken user relayer : String} {maxFee : Int64}
    {expiration : UInt32} {fn : HostFunction}
    (h : forwardHostFunction forwarder feeToken maxFee expiration target user relayer = .ok fn) :
    ∃ token user relayer, scAddress feeToken = some token ∧
      callArgs fn = [token, scI128 0 1, scI128 0 maxFee.toUInt64, scU32 expiration,
        .address target.contractAddress, scSymbol target.functionName, scVec target.args, user,
        relayer] := by
  obtain ⟨id, -, h⟩ := bind_eq_ok.mp h
  obtain ⟨token, htoken, h⟩ := bind_eq_ok.mp h
  obtain ⟨user, -, h⟩ := bind_eq_ok.mp h
  obtain ⟨relayer, -, h⟩ := bind_eq_ok.mp h
  cases h
  exact ⟨token, user, relayer, orError_eq_ok.mp htoken, rfl⟩

theorem forwardBalanceShort_of_wraps {b : ForwardBuild} {q : GaslessQuote} {fn : HostFunction}
    (hcalls : b.Calls target spendToken amount) (hwraps : Wraps b.wallet target q fn)
    (hnonneg : 0 ≤ q.maxFeeAmount) : forwardBalanceShort b.wallet (callArgs fn) =
      balanceBelow b.wallet q.feeToken
        (forwardFeeNeed q.maxFeeAmount spendToken q.feeToken (some amount)) := by
  obtain ⟨forwarder, expiration, relayer, hfn⟩ := hwraps
  obtain ⟨token, user, relayer, htoken, hargs⟩ := callArgs_forwardHostFunction hfn
  obtain ⟨text, htext, hspend⟩ := hcalls.spendOf_eq
  have hzero : (callArgs fn)[0]?.bind scValToAddressString = some q.feeToken := by
    rw [hargs]
    exact scAddress_eq_some htoken
  have htwo : (callArgs fn)[2]?.bind i128Of = some q.maxFeeAmount.toInt := by
    rw [hargs]
    exact congrArg some (i128ToInt_of_nonneg hnonneg)
  have hspend : forwardSpend (callArgs fn) = some (spendToken, amount) := by
    rw [hargs]
    change (addressString target.contractAddress).bind (fun text =>
      spendOf text (scSymbol target.functionName) (scVec target.args)) = _
    rw [htext]
    exact hspend
  rw [forwardBalanceShort_eq hzero htwo, forwardNeed_eq hspend]

namespace Sample

def lumensAsset : CatalogAsset := ⟨"XLM", "XLM", contractText (key 3), 7⟩

def sendsLumens : ForwardBuild :=
  .send
    { smartAccountAddress := contractText (key 2)
      signerType := .passkey
      signerG := ""
      assetID := "XLM"
      contractID := ""
      recipient := contractText (key 5)
      amount := "1.5"
      keyDataHex := "" }
    [lumensAsset]

def sendAnswers (h : Log BuildRes) : (op : BuildOp) → BuildRes op
  | .readRules _ _ => .ok none
  | .feeTokens =>
      .ok ⟨contractText (key 5), contractText (key 5), [⟨lumensAsset.contractID, "XLM", true⟩]⟩
  | .quote token _ => .ok ⟨token, "XLM", 1000⟩
  | .balanceOf _ _ => .ok (0, 50000000)
  | .ledgerSequence _ => .ok 1
  | op => answers [] h op

end Sample

end Need

end LatchApi.Build
