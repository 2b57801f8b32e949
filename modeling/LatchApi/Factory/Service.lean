import LatchApi.Factory.OneShot
import LatchApi.Lib.Ensures
import LatchApi.Multisig.Operations

namespace LatchApi.Factory

open Lib Program Store Soroban Multisig
  Bundler
open List

structure ReadResult where
  error : String
  value : Option (Encoded ScVal)

inductive CreationStatus where
  | success (returned : Option (Encoded ScVal))
  | notFound
  | other

inductive RpcOp where
  | simulateRead (fn : HostFunction)
  | getLedgerEntries (contractID : Hash)
  | gaslessSubmit (wallet requestID : String) (fn : HostFunction)
  | getTransaction (hash : String)

@[reducible] def RpcRes : RpcOp → Type
  | .simulateRead _ => Except RpcError ReadResult
  | .getLedgerEntries _ => Except RpcError Bool
  | .gaslessSubmit _ _ _ => Except (GaslessError × String) String
  | .getTransaction _ => Except PollError CreationStatus

abbrev FactoryService (α : Type) := Program RpcOp RpcRes CallError α

structure FactoryConfig where
  factoryAddress : String
  gaslessConfigured : Bool

def deployPollAttempts : Nat := 30

def gaslessCallError : GaslessError → CallError
  | .notConfigured => .unavailable
  | .unavailable => .unavailable
  | .pending => .unavailable
  | .limited => .limited
  | .tooManyFailures => .tooManyFailures
  | .refused => .internal
  | .other => .internal

def scValToContractAddress : ScVal → Option String
  | .address (.contract id) => some (contractText id)
  | _ => none

def orInternal {α : Type} : Option α → Except CallError α := orError .internal

def readAddress (result : ReadResult) : Except CallError String :=
  if result.error ≠ "" then .error .internal
  else orInternal ((result.value.bind Encoded.decode).bind scValToContractAddress)

def predictAddress (cfg : FactoryConfig) (params : ScVal) : FactoryService String := do
  let factoryID ← ofExcept (orInternal (contractIDFromAddress cfg.factoryAddress))
  match ← perform (RpcOp.simulateRead
      (invokeContractHostFunction factoryID "get_account_address" [params])) with
  | .error _ => .fail .internal
  | .ok result => ofExcept (readAddress result)

def isDeployed (contractAddress : String) : FactoryService Bool := do
  let contractID ← ofExcept (orInternal (contractIDFromAddress contractAddress))
  match ← perform (RpcOp.getLedgerEntries contractID) with
  | .error _ => .fail .internal
  | .ok exists_ => return exists_

def submitSponsored (cfg : FactoryConfig) (wallet : String) (fn : HostFunction) :
    FactoryService SubmitResult := do
  if cfg.gaslessConfigured then
    match ← perform (RpcOp.gaslessSubmit wallet (gaslessRequestID fn []) fn) with
    | .ok hash => return ⟨hash, .success, ""⟩
    | .error (e, hash) =>
      if e = .pending ∧ hash ≠ "" then return ⟨hash, .pending, ""⟩ else .fail (gaslessCallError e)
  else .fail .unavailable

def pollDeployResult (hash : String) : Nat → FactoryService String
  | 0 => .fail .unavailable
  | attempts + 1 => do
    match ← perform (RpcOp.getTransaction hash) with
    | .error .cancelled => .fail .unavailable
    | .error .failed => .fail .internal
    | .ok (.success none) => return ""
    | .ok (.success (some returned)) =>
      ofExcept (orInternal (returned.decode.bind scValToContractAddress))
    | .ok .notFound => pollDeployResult hash attempts
    | .ok .other => .fail .internal

def checkActual (predicted actual : String) : Except CallError String :=
  let actual := if actual = "" then predicted else actual
  if actual = predicted then .ok actual else .error .internal

def deploy (cfg : FactoryConfig) (params : ScVal) (predicted : String) :
    FactoryService (String × Bool) := do
  if ← isDeployed predicted then return (predicted, true)
  else
    let factoryID ← ofExcept (orInternal (contractIDFromAddress cfg.factoryAddress))
    let createFn := invokeContractHostFunction factoryID "create_account" [params]
    let result ← submitSponsored cfg predicted createFn
    if result.status = .success then
      let actual ← pollDeployResult result.hash deployPollAttempts
      let address ← ofExcept (checkActual predicted actual)
      return (address, false)
    else .fail .unavailable

structure FactoryContract where
  accountID : ScVal → Hash

def FactoryContract.address (F : FactoryContract) (params : ScVal) : String :=
  contractText (F.accountID params)

structure Chain where
  created : List ScVal
  sent : List (String × ScVal)
  landed : List String

def Chain.empty : Chain := ⟨[], [], []⟩

inductive ChainEvent where
  | create (params : ScVal)
  | land (i : Nat)

def Chain.step (chain : Chain) : ChainEvent → Chain
  | .create params => { chain with created := chain.created ++ [params] }
  | .land i =>
    match chain.sent[i]? with
    | none => chain
    | some (hash, params) =>
      { chain with created := chain.created ++ [params], landed := chain.landed ++ [hash] }

structure RpcChoice where
  events : List ChainEvent := []
  answers : Bool := true
  submitted : Except (GaslessError × String) String := .error (.other, "")
  seen : Bool := true
  kept : Bool := true

def createdParams : HostFunction → Option ScVal
  | .invokeContract inv => inv.args.head?
  | _ => none

def answeredHash : Except (GaslessError × String) String → String
  | .ok hash => hash
  | .error (_, hash) => hash

variable (F : FactoryContract)

def Chain.submit (chain : Chain) (answer : Except (GaslessError × String) String)
    (fn : HostFunction) :
    Except (GaslessError × String) String × Chain :=
  match createdParams fn with
  | none => (.error (.refused, ""), chain)
  | some params =>
    if chain.sent.any fun tx => tx.1 == answeredHash answer &&
        decide (F.accountID tx.2 ≠ F.accountID params) then
      (.error (.other, ""), chain)
    else (answer, { chain with sent := chain.sent ++ [(answeredHash answer, params)] })

def Chain.status (chain : Chain) (hash : String) (c : RpcChoice) : CreationStatus :=
  match chain.sent.find? fun tx => tx.1 == hash with
  | none => .notFound
  | some (_, params) =>
    if c.seen && chain.landed.contains hash then
      .success (if c.kept then some (.of (.address (.contract (F.accountID params)))) else none)
    else .notFound

def rpcExec (op : RpcOp) (chain : Chain) (c : RpcChoice) : RpcRes op × Chain :=
  let chain := c.events.foldl Chain.step chain
  match op with
  | .simulateRead fn =>
    (if c.answers then
      .ok ⟨"", (createdParams fn).map fun params => .of (.address (.contract (F.accountID params)))⟩
    else .error .failed, chain)
  | .getLedgerEntries contractID =>
    (if c.answers then .ok (chain.created.any fun params => decide (F.accountID params = contractID))
    else .error .failed, chain)
  | .gaslessSubmit _ _ fn => chain.submit F c.submitted fn
  | .getTransaction hash =>
    (if c.answers then .ok (chain.status F hash c) else .error .failed, chain)

section Spec

variable {F : FactoryContract} {cfg : FactoryConfig} {chain chain' chain'' : Chain} {params : ScVal}
  {predicted hash : String}

structure Chain.Sound (F : FactoryContract) (chain : Chain) : Prop where
  created_of_landed : ∀ hash ∈ chain.landed, ∃ params, (hash, params) ∈ chain.sent ∧
    params ∈ chain.created
  one_account : ∀ hash params params', (hash, params) ∈ chain.sent → (hash, params') ∈ chain.sent →
    F.accountID params = F.accountID params'

theorem Chain.Sound.empty : Chain.empty.Sound F where
  created_of_landed := by simp [Chain.empty]
  one_account := by simp [Chain.empty]

structure Chain.Extends (F : FactoryContract) (chain chain' : Chain) : Prop where
  sound : chain'.Sound F
  created : chain.created ⊆ chain'.created
  sent : chain.sent ⊆ chain'.sent

theorem Chain.Sound.refl (h : chain.Sound F) : chain.Extends F chain :=
  ⟨h, Subset.refl _, Subset.refl _⟩

theorem Chain.Extends.trans (h : chain.Extends F chain') (h' : chain'.Extends F chain'') :
    chain.Extends F chain'' :=
  ⟨h'.sound, Subset.trans h.created h'.created, Subset.trans h.sent h'.sent⟩

theorem Chain.Extends.outcome {α ε : Type} {P : α → Chain → Prop} {out : Except ε α}
    (h : chain.Extends F chain') (hout : Program.outcome (chain'.Extends F) P out chain'') :
    Program.outcome (chain.Extends F) P out chain'' := by
  cases out with
  | ok a => exact ⟨h.trans hout.1, hout.2⟩
  | error e => exact h.trans hout

theorem Chain.Sound.step (h : chain.Sound F) (e : ChainEvent) : chain.Extends F (chain.step e) := by
  cases e with
  | create params =>
    refine ⟨⟨fun hash hhash => ?_, h.one_account⟩, subset_append_left _ _, Subset.refl _⟩
    obtain ⟨params', hsent, hcreated⟩ := h.created_of_landed hash hhash
    exact ⟨params', hsent, mem_append_left _ hcreated⟩
  | land i =>
    cases htx : chain.sent[i]? with
    | none =>
      simp only [Chain.step, htx]
      exact h.refl
    | some tx =>
      obtain ⟨hash, params⟩ := tx
      simp only [Chain.step, htx]
      refine ⟨⟨fun hash' hhash' => ?_, h.one_account⟩, subset_append_left _ _,
        Subset.refl _⟩
      rcases mem_append.mp hhash' with hhash' | hhash'
      · obtain ⟨params', hsent, hcreated⟩ := h.created_of_landed hash' hhash'
        exact ⟨params', hsent, mem_append_left _ hcreated⟩
      · obtain rfl := mem_singleton.mp hhash'
        exact ⟨params, mem_of_getElem? htx, mem_append_right _ mem_cons_self⟩

theorem Chain.Sound.events (h : chain.Sound F) (events : List ChainEvent) :
    chain.Extends F (events.foldl Chain.step chain) := by
  induction events generalizing chain with
  | nil => exact h.refl
  | cons e events ih => exact (h.step e).trans (ih (h.step e).sound)

theorem Chain.Sound.submit (h : chain.Sound F) (answer : Except (GaslessError × String) String)
    {fn : HostFunction} (hfn : createdParams fn = some params) :
    chain.Extends F (chain.submit F answer fn).2 ∧
      ∀ hash, (chain.submit F answer fn).1 = .ok hash →
        (hash, params) ∈ (chain.submit F answer fn).2.sent := by
  simp only [Chain.submit, hfn]
  split_ifs with hknown
  · exact ⟨h.refl, fun hash hok => by cases hok⟩
  simp only [any_eq_true, Bool.and_eq_true, beq_iff_eq, decide_eq_true_eq, not_exists,
    not_and, not_not] at hknown
  refine ⟨⟨⟨fun hash hhash => ?_, fun hash p p' hp hp' => ?_⟩, Subset.refl _,
    subset_append_left _ _⟩, fun hash hok => ?_⟩
  · obtain ⟨params', hsent, hcreated⟩ := h.created_of_landed hash hhash
    exact ⟨params', mem_append_left _ hsent, hcreated⟩
  · simp only [mem_append, mem_singleton, Prod.mk.injEq] at hp hp'
    rcases hp with hp | ⟨rfl, rfl⟩ <;> rcases hp' with hp' | ⟨hhash, rfl⟩
    · exact h.one_account hash p p' hp hp'
    · exact hknown _ hp hhash
    · exact (hknown _ hp' rfl).symm
    · rfl
  · have hhash : answeredHash answer = hash := by rw [show answer = .ok hash from hok]; rfl
    exact mem_append_right _ (by rw [hhash]; exact mem_cons_self)

theorem ensures_predictAddress (cfg : FactoryConfig) (params : ScVal) (h : chain.Sound F) :
    Ensures (rpcExec F) (outcome (chain.Extends F) fun address _ => address = F.address params)
      (predictAddress cfg params) chain := by
  refine ensures_ofExcept_bind (fun factoryID _ => ?_) fun e _ => h.refl
  rw [ensures_perform_bind]
  intro c
  have hevents := h.events c.events
  simp only [rpcExec]
  cases c.answers with
  | false => exact hevents
  | true => exact ⟨hevents, rfl⟩

theorem ensures_isDeployed (h : chain.Sound F) :
    Ensures (rpcExec F) (outcome (chain.Extends F) fun deployed chain' => deployed = true →
      ∃ params ∈ chain'.created, F.address params = predicted) (isDeployed predicted) chain := by
  refine ensures_ofExcept_bind (fun contractID hid => ?_) fun e _ => h.refl
  rw [ensures_perform_bind]
  intro c
  have hevents := h.events c.events
  simp only [rpcExec]
  cases c.answers with
  | false => exact hevents
  | true =>
    refine ⟨hevents, fun hdeployed => ?_⟩
    obtain ⟨params, hmem, haccount⟩ := any_eq_true.mp hdeployed
    refine ⟨params, hmem, ?_⟩
    have htext : contractText contractID = predicted := by
      cases hdecode : contractIDFromAddress predicted with
      | none => rw [hdecode] at hid; cases hid
      | some id =>
        rw [hdecode] at hid
        cases hid
        exact text_of_strkey hdecode
    rw [FactoryContract.address, of_decide_eq_true haccount, htext]

theorem ensures_submitSponsored (h : chain.Sound F) {wallet : String} {fn : HostFunction}
    (hfn : createdParams fn = some params) :
    Ensures (rpcExec F) (outcome (chain.Extends F) fun result chain' => result.status = .success →
      (result.hash, params) ∈ chain'.sent) (submitSponsored cfg wallet fn) chain := by
  unfold submitSponsored
  split_ifs
  · rw [ensures_perform_bind]
    intro c
    have hevents := h.events c.events
    obtain ⟨hextends, hsent⟩ := hevents.sound.submit c.submitted hfn
    simp only [rpcExec]
    cases hanswer : (Chain.submit F (c.events.foldl Chain.step chain) c.submitted fn).1 with
    | ok hash => exact ⟨hevents.trans hextends, fun _ => hsent hash hanswer⟩
    | error e =>
      obtain ⟨e, hash⟩ := e
      dsimp only
      split_ifs
      · exact ⟨hevents.trans hextends, fun hstatus => by cases hstatus⟩
      · exact hevents.trans hextends
  · exact h.refl

theorem landed_of_success {c : RpcChoice} {returned : Option (Encoded ScVal)}
    (h : chain.status F hash c = .success returned) : hash ∈ chain.landed := by
  unfold Chain.status at h
  split at h
  · cases h
  by_cases hseen : (c.seen && chain.landed.contains hash) = true
  · rw [Bool.and_eq_true, contains_iff_mem] at hseen
    exact hseen.2
  · rw [if_neg hseen] at h
    cases h

theorem Chain.Sound.created_of_sent (h : chain.Sound F) (hlanded : hash ∈ chain.landed)
    (hsent : (hash, params) ∈ chain.sent) :
    ∃ params' ∈ chain.created, F.accountID params' = F.accountID params := by
  obtain ⟨params', hsent', hcreated⟩ := h.created_of_landed hash hlanded
  exact ⟨params', hcreated, h.one_account hash params' params hsent' hsent⟩

theorem ensures_pollDeployResult (h : chain.Sound F) (hsent : (hash, params) ∈ chain.sent)
    (attempts : Nat) :
    Ensures (rpcExec F) (outcome (chain.Extends F) fun _ chain' =>
      ∃ params' ∈ chain'.created, F.accountID params' = F.accountID params)
      (pollDeployResult hash attempts) chain := by
  induction attempts generalizing chain with
  | zero => exact h.refl
  | succ attempts ih =>
    rw [pollDeployResult, ensures_perform_bind]
    intro c
    have hevents := h.events c.events
    have hsent' := hevents.sent hsent
    simp only [rpcExec]
    cases c.answers with
    | false => exact hevents
    | true =>
      simp only [if_true]
      cases hstatus : Chain.status F (c.events.foldl Chain.step chain) hash c with
      | notFound =>
        exact (ih hevents.sound hsent').mono fun out chain' hout => hevents.outcome hout
      | other => exact hevents
      | success returned =>
        have hcreated := hevents.sound.created_of_sent (landed_of_success hstatus) hsent'
        cases returned with
        | none => exact ⟨hevents, hcreated⟩
        | some returned =>
          rw [ensures_ofExcept]
          cases orInternal (returned.decode.bind scValToContractAddress) with
          | error e => exact hevents
          | ok address => exact ⟨hevents, hcreated⟩

theorem ensures_deploy (cfg : FactoryConfig) (params : ScVal) (predicted : String)
    (h : chain.Sound F) :
    Ensures (rpcExec F) (outcome (chain.Extends F) fun r chain' => r.1 = predicted ∧
      ∃ params' ∈ chain'.created,
        F.address params' = predicted ∨ F.address params' = F.address params)
      (deploy cfg params predicted) chain := by
  refine (ensures_isDeployed h).bind_outcome fun deployed chain₁ h₁ hdeployed => ?_
  cases deployed with
  | true =>
    obtain ⟨params', hcreated, haddress⟩ := hdeployed rfl
    exact ⟨h₁, rfl, params', hcreated, .inl haddress⟩
  | false =>
    refine ensures_ofExcept_bind (fun factoryID _ => ?_) fun e _ => h₁
    have hcreate : createdParams
        (invokeContractHostFunction factoryID "create_account" [params]) = some params := rfl
    refine ((ensures_submitSponsored h₁.sound hcreate).mono fun out chain' => h₁.outcome).bind_outcome fun result chain₂ h₂ hsent => ?_
    split_ifs with hstatus
    · refine ((ensures_pollDeployResult h₂.sound (hsent hstatus) deployPollAttempts).mono
        fun out chain' => h₂.outcome).bind_outcome fun actual chain₃ h₃ hcreated => ?_
      refine ensures_ofExcept_bind (fun address haddress => ?_) fun e _ => h₃
      obtain ⟨params', hmem, haccount⟩ := hcreated
      refine ⟨h₃, ?_, params', hmem, .inr (congrArg contractText haccount)⟩
      unfold checkActual at haddress
      dsimp only at haddress
      split_ifs at haddress with hempty hsame hsame
      · exact (Except.ok.inj haddress).symm
      · exact (Except.ok.inj haddress).symm.trans hsame
    · exact h₂

end Spec

end LatchApi.Factory
