import LatchApi.Bundler.Sent
import LatchApi.Bundler.Unions
import LatchApi.Deploy.Handlers

namespace LatchApi.Bundler

open Lib Program Soroban List
open Store (CallError)
open WebAuthn (HttpFail)
open Deploy (DeployConfig parseNetwork)

section Policy

inductive PolicyError where
  | decode
  | invalid (message : String)
  | contractNotAllowed (contractID : String)

def contractSet (addresses : List String) : List String := addresses.filter (· ≠ "")

structure BundlerPolicy where
  allowed : List String

def newBundlerPolicy (contracts : List String) : BundlerPolicy := ⟨contractSet contracts⟩

def operationTarget (i : Nat) : OperationBody → Except PolicyError String
  | .invokeHostFunction (.invokeContract inv) _ =>
    match inv.contractAddress with
    | .contract id => .ok (contractText id)
    | _ => .error (.invalid ("operation " ++ toString i ++ " target is not a contract address"))
  | .invokeHostFunction _ _ =>
    .error (.invalid ("operation " ++ toString i ++ " is not a contract invocation"))
  | .other => .error (.invalid ("operation " ++ toString i ++ " is not an invoke host function"))

def sameTarget (target : String) (i : Nat) : List OperationBody → Except PolicyError Unit
  | [] => .ok ()
  | op :: ops => do
    let contractID ← operationTarget i op
    if contractID ≠ target then
      .error (.invalid ("batched operations target different contracts: " ++ target ++ " and " ++
        contractID))
    else sameTarget target (i + 1) ops

def invokedContractID (tx : Encoded TransactionEnvelope) : Except PolicyError String :=
  match tx.decode with
  | none => .error .decode
  | some (.v1 (op :: ops)) => do
    let target ← operationTarget 0 op
    sameTarget target 1 ops
    return target
  | some _ => .error (.invalid "expected at least one operation in the transaction envelope")

def BundlerPolicy.checkEnvelope (policy : BundlerPolicy) (tx : Encoded TransactionEnvelope) :
    Except PolicyError Unit :=
  if policy.allowed = [] then .ok ()
  else do
    let contractID ← invokedContractID tx
    if contractID ∈ policy.allowed then .ok () else .error (.contractNotAllowed contractID)

end Policy

section Handler

def maxAuthEntries : Nat := 32

structure SubmitTransactionRequest where
  txXdr : Encoded TransactionEnvelope
  authEntries : Option (List (Encoded (Encoded SorobanAuthorizationEntry)))
  network : String

inductive RelayError where
  | reply (fail : HttpFail)
  | rejected (e : SubmitError)
  | panicked

abbrev Relay (α : Type) := Program TxOp TxRes RelayError α

def invalidBody : RelayError := .reply ⟨400, "invalid request body"⟩

def requiredEntries (body : Option SubmitTransactionRequest) : Except RelayError
    (SubmitTransactionRequest × List (Encoded (Encoded SorobanAuthorizationEntry))) :=
  match body with
  | none => .error invalidBody
  | some req =>
    match req.txXdr, req.authEntries with
    | .malformed "", _ => .error invalidBody
    | _, none => .error invalidBody
    | _, some entries =>
      if entries.length = 0 then .error (.reply ⟨400, "auth_entries must not be empty"⟩)
      else if maxAuthEntries < entries.length then .error (.reply ⟨400, "too many auth_entries"⟩)
      else .ok (req, entries)

def decodeAuthEntry (raw : Encoded (Encoded SorobanAuthorizationEntry)) :
    Except RelayError SorobanAuthorizationEntry :=
  match raw.decode with
  | none => .error (.reply ⟨400, "auth_entries must be base64"⟩)
  | some xdr =>
    match xdr.decode with
    | none => .error (.reply ⟨400, "auth_entries must be SorobanAuthorizationEntry XDR"⟩)
    | some entry => .ok entry

def rejectedByPolicy : RelayError :=
  .reply ⟨400, "this contract is not eligible for bundler-paid submission"⟩

def gaslessFailure : SubmitError → Option CallError
  | .insufficientFeeBalance => some .insufficientFeeBalance
  | .feeQuoteStale => some .feeQuoteStale
  | .gasless .tooManyFailures => some .tooManyFailures
  | .gasless .limited => some .limited
  | .gasless .notConfigured => some .unavailable
  | .gasless .unavailable => some .unavailable
  | .gasless .pending => some .unavailable
  | _ => none

def failSubmit (e : SubmitError) : RelayError :=
  match e, gaslessFailure e with
  | .panicked, _ => .panicked
  | _, some failure => .reply (Deploy.failGasless failure)
  | e, none => .rejected e

def relaySubmit (net : DeployConfig) (cfg : TxConfig) (policy : BundlerPolicy)
    (body : Option SubmitTransactionRequest) : Relay SubmitResult := do
  let (req, raw) ← ofExcept (requiredEntries body)
  let entries ← ofExcept (raw.mapM decodeAuthEntry)
  let _ ← ofExcept ((parseNetwork net req.network).mapError .reply)
  ofExcept ((policy.checkEnvelope req.txXdr).mapError fun _ => rejectedByPolicy)
  match ← (submitBatchAuthEntries cfg req.txXdr entries).attempt with
  | .ok result => return result
  | .error e => .fail (failSubmit e)

end Handler

variable {fns : List HostFunction}

section Carried

def readTimeoutSeconds : Nat := 300

/-- The read that a token's balance is answered from, a simulated transaction like the others. -/
def balanceRead (token wallet : String) : Option Transaction := do
  let holder ← scAddress wallet
  let contractID ← contractIDFromAddress token
  return { source := simDummySourceAccount, sequence := 0
           operations := [⟨.invokeContract ⟨.contract contractID, "balance", [holder]⟩,
             simDummySourceAccount, []⟩]
           baseFee := minBaseFee, timeoutSeconds := readTimeoutSeconds, sorobanData := none }

def Carries (P : HostFunction → Prop) : TxOp → Prop
  | .tokenBalance token wallet =>
    ∀ tx, balanceRead token wallet = some tx → ∀ op ∈ tx.operations, P op.hostFunction
  | .simulate tx => ∀ op ∈ tx.operations, P op.hostFunction
  | .send signed => ∀ op ∈ signed.transaction.operations, P op.hostFunction
  | .gaslessSubmit _ _ _ tx => ∀ op ∈ tx.operations, P op.hostFunction
  | _ => True

/-- The wallet's balance of the fee token that its forward call names, read once the relayer has
refused that call. -/
def FeeRead (earlier : Log TxRes) : TxOp → Prop
  | .tokenBalance token wallet => ∃ requestID fn entries hash,
      ⟨.gaslessSubmit .forward wallet requestID (gaslessTransaction fn entries),
        .error (.refused, hash)⟩ ∈ earlier ∧ (callArgs fn)[0]?.bind scValToAddressString = some token
  | _ => False

def carriesOrReads (P : HostFunction → Prop) : Discipline TxOp TxRes where
  legal _ _ := True
  guard earlier op := Carries P op ∨ FeeRead earlier op

variable {P : HostFunction → Prop} {fn : HostFunction} {h : Log TxRes}

theorem obeys_of_carries {α : Type} {p : Submitter α} (hp : Always (Carries P) p) :
    Obeys (carriesOrReads P) h p (onOk fun _ _ => True) :=
  hp.obeys fun _ _ => .inl

theorem carries_rebuilt (hfns : ∀ fn ∈ fns, P fn) (cfg : TxConfig) (seq : Int)
    (entries : AuthEntries) (data : Option Bytes) :
    ∀ op ∈ (rebuiltTransaction cfg seq fns entries data).operations, P op.hostFunction := by
  intro op hop
  obtain ⟨fn, hfn, rfl⟩ := mem_map.mp hop
  exact hfns fn hfn

theorem carries_relayed (hfn : P fn) (entries : AuthEntries) :
    ∀ op ∈ (gaslessTransaction fn entries).operations, P op.hostFunction :=
  forall_mem_singleton.mpr hfn

theorem carries_submitBatch (hfns : ∀ fn ∈ fns, P fn) (cfg : TxConfig) (entries : AuthEntries) :
    Always (Carries P) (submitBatch cfg fns entries none) := by
  have hrebuilt := carries_rebuilt hfns cfg
  unfold submitBatch
  simp only [always_perform_bind, always_orRpc_bind, always_ofExcept_bind]
  refine ⟨trivial, fun _ seq _ => ⟨trivial, fun _ _ _ => ⟨hrebuilt seq entries none, ?_⟩⟩⟩
  refine fun _ _ _ _ _ data _ => ⟨trivial, fun _ _ _ => ?_⟩
  exact (always_sendAndPollWithMeta (fun _ => trivial) _).mpr (hrebuilt seq entries (some data))

theorem carries_submitSponsored (hfn : P fn) (cfg : TxConfig) (wallet : String)
    (entries : AuthEntries) :
    Always (Carries P) (submitBatch cfg [fn] entries (some (wallet, fn))) := by
  have hrebuilt := carries_rebuilt (forall_mem_singleton.mpr hfn) cfg
  unfold submitBatch
  simp only [pure_eq, ok_bind, always_perform_bind, always_orRpc_bind, always_ofExcept_bind]
  refine ⟨trivial, fun _ _ _ => ⟨hrebuilt 0 entries none, fun _ _ _ _ _ => ?_⟩⟩
  exact always_submitGasless (fun _ => trivial) (carries_relayed hfn entries) cfg

theorem carries_userPaidWallet (cfg : TxConfig) (fn : HostFunction) :
    Always (Carries P) (userPaidWallet cfg fn) := by
  unfold userPaidWallet
  split_ifs
  · rw [always_perform_bind]
    refine ⟨trivial, fun r => ?_⟩
    cases r <;> trivial
  · trivial
  · trivial

theorem obeys_forwardRelayed (hfn : P fn) (cfg : TxConfig) (wallet : String)
    (entries : AuthEntries) :
    Obeys (carriesOrReads P) h (submitGasless cfg .forward wallet fn entries) fun h' out =>
      out = .error (.gasless .refused) → ∃ requestID hash,
        ⟨.gaslessSubmit .forward wallet requestID (gaslessTransaction fn entries),
          .error (.refused, hash)⟩ ∈ h' := by
  unfold submitGasless
  split_ifs
  · refine .call (.inl trivial) fun built _ => ?_
    cases built with
    | error e => exact .fail nofun
    | ok _ =>
      refine .call (.inl (carries_relayed hfn entries)) fun r _ => ?_
      rcases r with ⟨e, hash⟩ | hash
      · change Obeys _ _ (if e = .pending ∧ hash ≠ "" then _ else _) _
        split_ifs
        · exact .ok nofun
        · refine .fail fun he => ?_
          cases he
          exact ⟨_, hash, mem_cons_self⟩
      · exact .ok nofun
  · exact .fail nofun

theorem obeys_forwardBalanceShort {wallet requestID hash : String}
    {entries : AuthEntries}
    (hrefused : ⟨.gaslessSubmit .forward wallet requestID (gaslessTransaction fn entries),
      .error (.refused, hash)⟩ ∈ h) :
    Obeys (carriesOrReads P) h (forwardBalanceShort wallet (callArgs fn))
      (onOk fun _ _ => True) := by
  unfold forwardBalanceShort
  split
  · exact .ok trivial
  rename_i token htoken
  split
  · exact .fail trivial
  refine .call (.inr ⟨requestID, fn, entries, hash, hrefused, htoken⟩) fun r _ => ?_
  cases r <;> exact .ok trivial

theorem obeys_submitForward (hfn : P fn) (cfg : TxConfig) (wallet : String)
    (entries : AuthEntries) :
    Obeys (carriesOrReads P) h (submitForward cfg wallet fn entries) (onOk fun _ _ => True) := by
  unfold submitForward
  rw [obeys_bind, obeys_attempt]
  refine (obeys_forwardRelayed hfn cfg wallet entries).mono fun h' out hout => ?_
  simp only
  split
  · exact .ok trivial
  · obtain ⟨requestID, hash, hrefused⟩ := hout rfl
    refine (obeys_forwardBalanceShort hrefused).bind_onOk fun _ short _ => ?_
    cases short <;> exact .fail trivial
  · exact .fail trivial

theorem obeys_submitHostFunctions (hfns : ∀ fn ∈ fns, P fn) (cfg : TxConfig)
    (entries : AuthEntries) :
    Obeys (carriesOrReads P) h (submitHostFunctions cfg fns entries) (onOk fun _ _ => True) := by
  unfold submitHostFunctions
  split
  · rename_i fn
    have hfn : P fn := forall_mem_singleton.mp hfns
    refine (obeys_of_carries (carries_userPaidWallet cfg fn)).bind_onOk fun _ wallet _ => ?_
    cases wallet with
    | some wallet => exact obeys_submitForward hfn cfg wallet entries
    | none =>
      cases sponsoredWallet fn with
      | some wallet => exact obeys_of_carries (carries_submitSponsored hfn cfg wallet entries)
      | none => exact obeys_of_carries (carries_submitBatch hfns cfg entries)
  · exact obeys_of_carries (carries_submitBatch hfns cfg entries)

end Carried

section Allowed

def CallsAllowed (contracts : List String) (fn : HostFunction) : Prop :=
  ∃ id name args, fn = .invokeContract ⟨.contract id, name, args⟩ ∧ contractText id ∈ contracts

variable {contracts : List String} {target : String} {ops : List OperationBody}
  {tx : Encoded TransactionEnvelope} {i : Nat}

theorem target_of_ok {op : OperationBody} (h : operationTarget i op = .ok target) :
    ∃ id name args auth, contractText id = target ∧
      op = .invokeHostFunction (.invokeContract ⟨.contract id, name, args⟩) auth := by
  unfold operationTarget at h
  split at h
  · rename_i inv auth
    obtain ⟨address, name, args⟩ := inv
    cases address with
    | contract id => exact ⟨id, name, args, auth, Except.ok.inj h, rfl⟩
    | _ => cases h
  · cases h
  · cases h

theorem targets_of_sameTarget (h : sameTarget target i ops = .ok ()) :
    ∀ op ∈ ops, ∃ j, operationTarget j op = .ok target := by
  induction ops generalizing i with
  | nil => simp
  | cons op ops ih =>
    rw [sameTarget, bind_eq_ok] at h
    obtain ⟨contractID, htarget, h⟩ := h
    split_ifs at h with hne
    rw [not_not] at hne
    subst hne
    exact forall_mem_cons.mpr ⟨⟨i, htarget⟩, ih h⟩

theorem targets_of_invokedContractID (hdecode : tx.decode = some (.v1 ops))
    (h : invokedContractID tx = .ok target) : ∀ op ∈ ops, ∃ j, operationTarget j op = .ok target := by
  unfold invokedContractID at h
  rw [hdecode] at h
  cases ops with
  | nil => cases h
  | cons op ops =>
    simp only [bind_eq_ok] at h
    obtain ⟨first, hfirst, _, hsame, h⟩ := h
    cases h
    exact forall_mem_cons.mpr ⟨⟨0, hfirst⟩, targets_of_sameTarget hsame⟩

theorem mem_of_sameContract {first : Option String} (h : sameContract first i ops = .ok fns) :
    ∀ fn ∈ fns, ∃ auth, .invokeHostFunction fn auth ∈ ops := by
  induction ops generalizing first i fns with
  | nil =>
    cases h
    simp
  | cons op ops ih =>
    cases op with
    | other => cases h
    | invokeHostFunction fn auth =>
      simp only [sameContract, hostFunctionOf, bind_eq_ok] at h
      obtain ⟨contract, -, h⟩ := h
      split_ifs at h
      rw [bind_eq_ok] at h
      obtain ⟨rest, hrest, h⟩ := h
      cases h
      refine forall_mem_cons.mpr ⟨⟨auth, mem_cons_self⟩, fun fn' hfn' => ?_⟩
      obtain ⟨auth', hmem⟩ := ih hrest fn' hfn'
      exact ⟨auth', mem_cons_of_mem _ hmem⟩

theorem mem_of_batchHostFunctions (h : batchHostFunctions tx = .ok fns) :
    ∃ ops, tx.decode = some (.v1 ops) ∧ ∀ fn ∈ fns, ∃ auth, .invokeHostFunction fn auth ∈ ops := by
  unfold batchHostFunctions at h
  split at h
  · cases h
  · cases h
  rename_i ops hdecode
  split_ifs at h
  exact ⟨ops, hdecode, mem_of_sameContract h⟩

theorem allowed_of_checked (hlist : ∃ a ∈ contracts, a ≠ "")
    (hpolicy : (newBundlerPolicy contracts).checkEnvelope tx = .ok ())
    (hbatch : batchHostFunctions tx = .ok fns) : ∀ fn ∈ fns, CallsAllowed contracts fn := by
  have hforce : contractSet contracts ≠ [] := by
    obtain ⟨a, ha, hne⟩ := hlist
    exact ne_nil_of_mem (mem_filter.mpr ⟨ha, by simpa using hne⟩)
  rw [BundlerPolicy.checkEnvelope, newBundlerPolicy, if_neg hforce, bind_eq_ok] at hpolicy
  obtain ⟨target, htarget, hpolicy⟩ := hpolicy
  split_ifs at hpolicy with hallowed
  obtain ⟨ops, hdecode, hops⟩ := mem_of_batchHostFunctions hbatch
  intro fn hfn
  obtain ⟨auth, hmem⟩ := hops fn hfn
  obtain ⟨j, hop⟩ := targets_of_invokedContractID hdecode htarget _ hmem
  obtain ⟨id, name, args, auth', rfl, hcall⟩ := target_of_ok hop
  obtain ⟨rfl, -⟩ := OperationBody.invokeHostFunction.inj hcall
  exact ⟨id, name, args, rfl, (mem_filter.mp hallowed).1⟩

theorem obeys_relaySubmit (hlist : ∃ a ∈ contracts, a ≠ "") (net : DeployConfig) (cfg : TxConfig)
    (body : Option SubmitTransactionRequest) :
    Obeys (carriesOrReads (CallsAllowed contracts)) []
      (relaySubmit net cfg (newBundlerPolicy contracts) body) (onOk fun _ _ => True) := by
  unfold relaySubmit
  refine obeys_ofExcept_bind fun required _ => obeys_ofExcept_bind fun entries _ =>
    obeys_ofExcept_bind fun _ _ => obeys_ofExcept_bind fun _ hpolicy => ?_
  have hpolicy := mapError_eq_ok.mp hpolicy
  have hsubmit : Obeys (carriesOrReads (CallsAllowed contracts)) []
      (submitBatchAuthEntries cfg required.1.txXdr entries) (onOk fun _ _ => True) :=
    obeys_ofExcept_bind fun fns hbatch =>
      obeys_submitHostFunctions (allowed_of_checked hlist hpolicy hbatch) cfg entries
  rw [obeys_bind, obeys_attempt]
  refine hsubmit.mono fun h' out _ => ?_
  cases out with
  | ok result => exact .ok trivial
  | error e => exact .fail trivial

end Allowed

/-- Under an allowlist every transaction that the relay has simulated or sent calls allowed contracts
only, in each operation and on each route, but for the balance read that follows a refused forward. -/
theorem relay_sends_allowed (net : DeployConfig) (cfg : TxConfig) (contracts : List String)
    (hlist : ∃ a ∈ contracts, a ≠ "") (body : Option SubmitTransactionRequest)
    (script : Script TxRes) :
    ∀ e earlier,
      e :: earlier <:+ ((relaySubmit net cfg (newBundlerPolicy contracts) body).runWith script []).2 →
      Carries (CallsAllowed contracts) e.1 ∨ FeeRead earlier e.1 :=
  (obeys_relaySubmit hlist net cfg body).guard_runWith (fun _ _ => trivial) (by simp)

namespace Sample

def unsignedEntry : SorobanAuthorizationEntry :=
  ⟨.sourceAccount, ⟨.contractFn ⟨.contract (filled 3), "ping", []⟩, []⟩⟩

def pingRequest : SubmitTransactionRequest := ⟨.of ping, some [.of (.of unsignedEntry)], "testnet"⟩

def pingRelay : Relay SubmitResult :=
  relaySubmit ⟨none, []⟩ bundlerOnly (newBundlerPolicy [contractText (filled 3)]) (some pingRequest)

theorem allowed_ping_relayed : (∀ e earlier, e :: earlier <:+ (pingRelay.runWith (fun _ => settling) []).2 →
      Carries (CallsAllowed [contractText (filled 3)]) e.1 ∨ FeeRead earlier e.1) ∧
    (pingRelay.runWith (fun _ => settling) []).1.toOption = some ⟨"hash", .success, "meta"⟩ := by
  refine ⟨?_, by decide +kernel⟩
  have hlist : ∃ a ∈ [contractText (filled 3)], a ≠ "" :=
    ⟨contractText (filled 3), mem_cons_self, by decide +kernel⟩
  exact relay_sends_allowed ⟨none, []⟩ bundlerOnly [contractText (filled 3)] hlist
    (some pingRequest) fun _ => settling

def forwardRequest : SubmitTransactionRequest :=
  ⟨.of (.v1 [.invokeHostFunction (forwardCall (scI128 0 500)) []]),
    some [.of (.of unsignedEntry)], "testnet"⟩

def forwardRelay : Relay SubmitResult :=
  relaySubmit ⟨none, []⟩ relayerConfig (newBundlerPolicy [contractText forwarder])
    (some forwardRequest)

theorem balanceRead_feeToken : ∃ tx, balanceRead (contractText feeToken) (contractText payer) = some tx ∧
    tx.operations = [⟨.invokeContract ⟨.contract feeToken, "balance", [.address (.contract payer)]⟩,
      simDummySourceAccount, []⟩] := by
  rw [balanceRead, scAddress, scAddressFromString_contractText, contractIDFromAddress_contractText]
  exact ⟨_, rfl, rfl⟩

def readOf : TxOp → Option (String × String)
  | .tokenBalance token wallet => some (token, wallet)
  | _ => none

theorem eq_of_readOf {op : TxOp} {token wallet : String} (h : readOf op = some (token, wallet)) :
    op = .tokenBalance token wallet := by
  cases op <;> cases h
  rfl

theorem refused_forward_reads_token :
    ¬ ∀ e ∈ (forwardRelay.runWith refusals []).2, Carries (CallsAllowed [contractText forwarder]) e.1 := by
  intro hall
  have hreads : (forwardRelay.runWith refusals []).2.filterMap (fun e => readOf e.1) =
      [(contractText feeToken, contractText payer)] := by decide +kernel
  obtain ⟨e, he, hop⟩ := mem_filterMap.mp (hreads ▸ mem_singleton_self _)
  have hcarries := hall e he
  rw [eq_of_readOf hop] at hcarries
  obtain ⟨tx, htx, hops⟩ := balanceRead_feeToken
  have hcalls := hcarries tx htx
  rw [hops, forall_mem_singleton] at hcalls
  obtain ⟨id, name, args, hcall, hmem⟩ := hcalls
  cases hcall
  have hsame := contractText_injective (mem_singleton.mp hmem)
  revert hsame
  decide

end Sample

end LatchApi.Bundler
