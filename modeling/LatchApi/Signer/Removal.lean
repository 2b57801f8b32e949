import LatchApi.Bundler.Rpc
import LatchApi.Deploy.Handlers
import LatchApi.Lib.Reply

namespace LatchApi.Signer

open Lib Program Soroban Store Passkey
open WebAuthn (HttpFail internalError)
open Deploy (DeployConfig bindRequired parseNetwork)
open Bundler (RpcError TransactionStatus)

section Confirm

structure FetchedTransaction where
  status : TransactionStatus
  envelopeXdr : Encoded TransactionEnvelope

inductive ConfirmOp where
  | getTransaction (txHash : String)
  | deletePasskeyCredential (credentialID : String)

@[reducible] def ConfirmRes : ConfirmOp → Type
  | .getTransaction _ => Except RpcError FetchedTransaction
  | .deletePasskeyCredential _ => Except DbError Unit

inductive ConfirmError where
  | chainCallNotSuccessful
  | chainCallMismatch
  | internal (context : String)
deriving DecidableEq

abbrev Confirmer (ε α : Type) := Program ConfirmOp ConfirmRes ε α

structure DecodedInvocation where
  contractID : Hash
  functionName : String
  args : List ScVal

def decodeSingleInvocation (envelopeXdr : Encoded TransactionEnvelope) :
    Except ConfirmError DecodedInvocation :=
  match envelopeXdr.decode with
  | none => .error (.internal "decode transaction envelope")
  | some .other => .error (.internal "expected a v1 transaction envelope")
  | some (.v1 [.invokeHostFunction (.invokeContract ⟨.contract id, functionName, args⟩) _]) =>
    .ok ⟨id, functionName, args⟩
  | some (.v1 [.invokeHostFunction (.invokeContract _) _]) =>
    .error (.internal "invocation target is not a contract address")
  | some (.v1 [.invokeHostFunction _ _]) => .error (.internal "expected a contract invocation")
  | some (.v1 [.other]) => .error (.internal "operation is not an invoke host function")
  | some (.v1 _) => .error (.internal "expected exactly one operation")

def scValEqual (a b : ScVal) : Bool := marshalScVal a == marshalScVal b

def verifyInvocation (invocation : DecodedInvocation) (smartAccountAddress functionName : String)
    (expectedArgs : List ScVal) : Except ConfirmError Unit :=
  match contractIDFromAddress smartAccountAddress with
  | none => .error (.internal "resolve smart account contract")
  | some wantContractID =>
    if invocation.contractID = wantContractID ∧ invocation.functionName = functionName ∧
        invocation.args.length = expectedArgs.length ∧
        (invocation.args.zip expectedArgs).all (fun arg => scValEqual arg.1 arg.2) then .ok ()
    else .error .chainCallMismatch

def settledInvocation (tx : FetchedTransaction) : Except ConfirmError (DecodedInvocation × String) :=
  match tx.status with
  | .success resultMetaXdr => (decodeSingleInvocation tx.envelopeXdr).map fun i => (i, resultMetaXdr)
  | _ => .error .chainCallNotSuccessful

def fetchSettledInvocation (txHash : String) : Confirmer ConfirmError (DecodedInvocation × String) := do
  match ← perform (ConfirmOp.getTransaction txHash) with
  | .error _ => .fail (.internal "fetch transaction")
  | .ok tx => ofExcept (settledInvocation tx)

structure ConfirmRemoveSignerInput where
  smartAccountAddress : String
  contextRuleID : UInt32
  signerID : UInt32
  txHash : String

def confirmRemoveSigner (input : ConfirmRemoveSignerInput) : Confirmer ConfirmError Unit := do
  let settled ← fetchSettledInvocation input.txHash
  ofExcept (verifyInvocation settled.1 input.smartAccountAddress "remove_signer"
    [scU32 input.contextRuleID, scU32 input.signerID])

def deregister (keyDataHex : String) : Confirmer IndexError Unit := do
  let credentialID ← ofExcept (credentialIDFromKeyData keyDataHex)
  match ← perform (ConfirmOp.deletePasskeyCredential credentialID) with
  | .ok () => return ()
  | .error _ => .fail (.internal "delete passkey credential")

structure ConfirmRemoveRequest where
  network : String
  smartAccountAddress : String
  contextRuleID : UInt32
  signerID : UInt32
  keyDataHex : String
  txHash : String

def ConfirmRemoveRequest.hasRequired (req : ConfirmRemoveRequest) : Bool :=
  req.smartAccountAddress ≠ "" && req.keyDataHex ≠ "" && req.txHash ≠ ""

def ConfirmRemoveRequest.input (req : ConfirmRemoveRequest) : ConfirmRemoveSignerInput :=
  ⟨req.smartAccountAddress, req.contextRuleID, req.signerID, req.txHash⟩

def failChainConfirm : ConfirmError → HttpFail
  | .chainCallNotSuccessful =>
    ⟨400, "transaction has not settled successfully yet; retry once it has"⟩
  | .chainCallMismatch => ⟨400, "transaction did not invoke the expected contract call"⟩
  | .internal _ => internalError

def bindConfirmRemove (cfg : DeployConfig) (body : Option ConfirmRemoveRequest) :
    Except HttpFail ConfirmRemoveRequest := do
  let req ← bindRequired ConfirmRemoveRequest.hasRequired body
  let _ ← parseNetwork cfg req.network
  return req

def handleConfirmRemoveSigner (cfg : DeployConfig) (body : Option ConfirmRemoveRequest) :
    Confirmer HttpFail Unit := do
  let req ← ofExcept (bindConfirmRemove cfg body)
  match ← (confirmRemoveSigner req.input).attempt with
  | .error e => .fail (failChainConfirm e)
  | .ok () =>
    let _ ← (deregister req.keyDataHex).attempt
    return ()

end Confirm

section World

inductive OnChainSigner where
  | external (verifier : ScAddress) (keyData : Bytes)
  | delegated (address : ScAddress)
deriving DecidableEq

/-- A transaction of the chain, with the signers that the smart accounts had before it, by account
and signer id. -/
structure ChainTx where
  hash : String
  status : TransactionStatus
  envelopeXdr : Encoded TransactionEnvelope
  signersBefore : Hash → UInt32 → Option OnChainSigner

structure World where
  chain : Table ChainTx String String ChainTx.hash ChainTx.hash
  passkeys : Table PasskeyRow String String PasskeyRow.credentialID PasskeyRow.credentialID

def World.transaction (w : World) (txHash : String) : Option ChainTx :=
  w.chain.find fun tx => tx.hash == txHash

def World.fetched (w : World) (txHash : String) : FetchedTransaction :=
  match w.transaction txHash with
  | some tx => ⟨tx.status, tx.envelopeXdr⟩
  | none => ⟨.notFound, .malformed ""⟩

def World.withoutPasskey (w : World) (credentialID : String) : World :=
  { w with passkeys := w.passkeys.delete fun r => r.credentialID == credentialID }

def exec : (op : ConfirmOp) → World → Reply → ConfirmRes op × World
  | .getTransaction txHash, w, reply => replied RpcError.failed reply (w.fetched txHash) w w
  | .deletePasskeyCredential credentialID, w, reply =>
    replied DbError.failed reply () w (w.withoutPasskey credentialID)

structure Confirmed (cfg : DeployConfig) (w : World) (req : ConfirmRemoveRequest) : Prop where
  required : req.hasRequired = true
  network : ∃ network, parseNetwork cfg req.network = .ok network
  invocation : ∃ settled, settledInvocation (w.fetched req.txHash) = .ok settled ∧
    verifyInvocation settled.1 req.smartAccountAddress "remove_signer"
      [scU32 req.contextRuleID, scU32 req.signerID] = .ok ()

/-- The row is the removed signer's: of the confirmed account, with the key data that the signer
of the confirmed id had before the transaction. -/
def OfRemovedSigner (w : World) (req : ConfirmRemoveRequest) (row : PasskeyRow) : Prop :=
  row.smartAccountAddress = req.smartAccountAddress ∧
    ∃ tx id verifier keyData, w.transaction req.txHash = some tx ∧
      contractIDFromAddress req.smartAccountAddress = some id ∧
      tx.signersBefore id req.signerID = some (.external verifier keyData) ∧
      hexDecode row.keyDataHex = some keyData

/-- Whatever a request deletes is the row of the signer whose removal it confirms. -/
def DropsOnlyRemoved (cfg : DeployConfig) (w : World) (body : Option ConfirmRemoveRequest) : Prop :=
  ∀ out w', Runs exec (handleConfirmRemoveSigner cfg body) w out w' →
    ∀ row ∈ w.passkeys.rows, row ∉ w'.passkeys.rows →
      ∃ req, body = some req ∧ OfRemovedSigner w req row

end World

variable {credentialID : String} {body : Option ConfirmRemoveRequest}

section Runs

variable {cfg : DeployConfig} {w w' : World} {req : ConfirmRemoveRequest}
  {input : ConfirmRemoveSignerInput}

theorem runs_getTransaction_then {α : Type} {settled : FetchedTransaction → Except ConfirmError α}
    {txHash : String} {a : α} :
    Runs exec (do
      match ← perform (ConfirmOp.getTransaction txHash) with
      | .error _ => .fail (.internal "fetch transaction")
      | .ok tx => ofExcept (settled tx)) w (.ok a) w' ↔
      w' = w ∧ settled (w.fetched txHash) = .ok a := by
  rw [runs_bind_ok]
  constructor
  · rintro ⟨answer, w₁, hcall, hrest⟩
    obtain ⟨reply, hanswer, rfl⟩ := (runs_perform ..).mp hcall
    cases hanswer
    cases reply with
    | done =>
      obtain ⟨hout, rfl⟩ := (runs_ofExcept _ _ _ _).mp hrest
      exact ⟨rfl, hout.symm⟩
    | _ => cases hrest.1
  · rintro ⟨rfl, hsettled⟩
    exact ⟨_, _, (runs_perform ..).mpr ⟨.done, rfl, rfl⟩,
      (runs_ofExcept _ _ _ _).mpr ⟨hsettled.symm, rfl⟩⟩

theorem runs_fetchSettledInvocation {txHash : String} {settled : DecodedInvocation × String} :
    Runs exec (fetchSettledInvocation txHash) w (.ok settled) w' ↔
      w' = w ∧ settledInvocation (w.fetched txHash) = .ok settled :=
  runs_getTransaction_then

theorem runs_confirmRemoveSigner : Runs exec (confirmRemoveSigner input) w (.ok ()) w' ↔
      w' = w ∧ ∃ settled, settledInvocation (w.fetched input.txHash) = .ok settled ∧
        verifyInvocation settled.1 input.smartAccountAddress "remove_signer"
          [scU32 input.contextRuleID, scU32 input.signerID] = .ok () := by
  unfold confirmRemoveSigner
  rw [runs_bind_ok]
  constructor
  · rintro ⟨settled, w₁, hfetch, hverify⟩
    obtain ⟨rfl, hsettled⟩ := runs_fetchSettledInvocation.mp hfetch
    obtain ⟨hout, rfl⟩ := (runs_ofExcept _ _ _ _).mp hverify
    exact ⟨rfl, settled, hsettled, hout.symm⟩
  · rintro ⟨rfl, settled, hsettled, hverify⟩
    exact ⟨settled, _, runs_fetchSettledInvocation.mpr ⟨rfl, hsettled⟩,
      (runs_ofExcept _ _ _ _).mpr ⟨hverify.symm, rfl⟩⟩

theorem eq_of_runs_confirmRemoveSigner {out : Except ConfirmError Unit}
    (h : Runs exec (confirmRemoveSigner input) w out w') : w' = w := by
  have hreads : Always (fun op => op = .getTransaction input.txHash) (confirmRemoveSigner input) := by
    refine Always.bind ⟨rfl, fun answer => ?_⟩ fun settled => ?_
    · cases answer with
      | error e => trivial
      | ok tx =>
        change Always _ (ofExcept (settledInvocation tx))
        cases settledInvocation tx <;> trivial
    · cases verifyInvocation settled.1 input.smartAccountAddress "remove_signer"
        [scU32 input.contextRuleID, scU32 input.signerID] <;> trivial
  refine hreads.runs_proj id ?_ h
  rintro op w reply rfl
  cases reply <;> rfl

theorem world_of_runs_deregister {keyDataHex : String} {out : Except IndexError Unit}
    (h : Runs exec (deregister keyDataHex) w out w') :
    w' = w ∨ ∃ credentialID, credentialIDFromKeyData keyDataHex = .ok credentialID ∧
      w' = w.withoutPasskey credentialID := by
  unfold deregister at h
  cases hid : credentialIDFromKeyData keyDataHex with
  | error e =>
    rw [hid] at h
    exact .inl h.2
  | ok credentialID =>
    rw [hid] at h
    obtain ⟨reply, h⟩ := h
    cases reply with
    | failed => exact .inl h.2
    | _ => exact .inr ⟨credentialID, rfl, h.2⟩

theorem runs_deregister {keyDataHex : String}
    (hid : credentialIDFromKeyData keyDataHex = .ok credentialID) :
    Runs exec (deregister keyDataHex) w (.ok ()) (w.withoutPasskey credentialID) := by
  unfold deregister
  rw [hid]
  exact ⟨.done, rfl, rfl⟩

theorem bindRequired_eq_ok {α : Type} {required : α → Bool} {body : Option α} {req : α} :
    bindRequired required body = .ok req ↔ body = some req ∧ required req = true := by
  unfold bindRequired
  cases body with
  | none => simp [WebAuthn.bindBody]
  | some req' =>
    simp only [WebAuthn.bindBody]
    by_cases hreq : required req' = true
    · rw [if_pos hreq]
      constructor
      · intro h
        cases h
        exact ⟨rfl, hreq⟩
      · rintro ⟨h, -⟩
        rw [Option.some.inj h]
    · rw [if_neg hreq]
      constructor
      · intro h
        cases h
      rintro ⟨h, hreq'⟩
      cases h
      exact absurd hreq' hreq

theorem bindRequired_parseNetwork_eq_ok {α : Type} {required : α → Bool} {network : α → String}
    {body : Option α} {req : α} :
    (do
      let req ← bindRequired required body
      let _ ← parseNetwork cfg (network req)
      return req) = .ok req ↔
      body = some req ∧ required req = true ∧ ∃ n, parseNetwork cfg (network req) = .ok n := by
  constructor
  · intro h
    obtain ⟨req', hbind, h⟩ := bind_eq_ok.mp h
    obtain ⟨network, hnetwork, h⟩ := bind_eq_ok.mp h
    cases h
    obtain ⟨hbody, hrequired⟩ := bindRequired_eq_ok.mp hbind
    exact ⟨hbody, hrequired, network, hnetwork⟩
  · rintro ⟨hbody, hrequired, network, hnetwork⟩
    exact bind_eq_ok.mpr ⟨req, bindRequired_eq_ok.mpr ⟨hbody, hrequired⟩,
      bind_eq_ok.mpr ⟨network, hnetwork, rfl⟩⟩

theorem bindConfirmRemove_eq_ok :
    bindConfirmRemove cfg body = .ok req ↔ body = some req ∧ req.hasRequired = true ∧
      ∃ network, parseNetwork cfg req.network = .ok network :=
  bindRequired_parseNetwork_eq_ok

theorem world_of_runs {out : Except HttpFail Unit}
    (h : Runs exec (handleConfirmRemoveSigner cfg body) w out w') :
    w' = w ∨ ∃ req credentialID, body = some req ∧ Confirmed cfg w req ∧
      credentialIDFromKeyData req.keyDataHex = .ok credentialID ∧
      w' = w.withoutPasskey credentialID := by
  unfold handleConfirmRemoveSigner at h
  cases hbind : bindConfirmRemove cfg body with
  | error e =>
    rw [hbind] at h
    exact .inl h.2
  | ok req =>
    obtain ⟨hbody, hrequired, hnetwork⟩ := bindConfirmRemove_eq_ok.mp hbind
    rw [hbind] at h
    change Runs exec ((confirmRemoveSigner req.input).attempt >>= _) w out w' at h
    rcases (runs_bind _ _ _ _ _).mp h with ⟨outcome, w₁, hconfirm, h⟩ | ⟨e, hconfirm, -⟩
    · obtain ⟨o, ho, hconfirm⟩ := (runs_attempt _ _ _ _).mp hconfirm
      cases ho
      obtain rfl := eq_of_runs_confirmRemoveSigner hconfirm
      cases outcome with
      | error e => exact .inl h.2
      | ok u =>
        obtain ⟨-, hinvocation⟩ := runs_confirmRemoveSigner.mp hconfirm
        rcases (runs_bind _ _ _ _ _).mp h with ⟨o, w₂, hderegister, h⟩ | ⟨e, hderegister, -⟩
        · obtain ⟨o', -, hderegister⟩ := (runs_attempt _ _ _ _).mp hderegister
          obtain ⟨-, rfl⟩ := h
          rcases world_of_runs_deregister hderegister with hsame | ⟨credentialID, hid, hw⟩
          · exact .inl hsame
          · exact .inr ⟨req, credentialID, hbody, ⟨hrequired, hnetwork, hinvocation⟩, hid, hw⟩
        · obtain ⟨o', ho', -⟩ := (runs_attempt _ _ _ _).mp hderegister
          cases ho'
    · obtain ⟨o', ho', -⟩ := (runs_attempt _ _ _ _).mp hconfirm
      cases ho'

theorem runs_of_confirmed (h : Confirmed cfg w req)
    (hid : credentialIDFromKeyData req.keyDataHex = .ok credentialID) :
    Runs exec (handleConfirmRemoveSigner cfg (some req)) w (.ok ()) (w.withoutPasskey credentialID) := by
  have hbind : bindConfirmRemove cfg (some req) = .ok req :=
    bindConfirmRemove_eq_ok.mpr ⟨rfl, h.required, h.network⟩
  have hconfirm : Runs exec (confirmRemoveSigner req.input) w (.ok ()) w :=
    runs_confirmRemoveSigner.mpr ⟨rfl, h.invocation⟩
  have hderegister : Runs exec (deregister req.keyDataHex) w (.ok ())
      (w.withoutPasskey credentialID) := runs_deregister hid
  unfold handleConfirmRemoveSigner
  rw [hbind]
  change Runs exec ((confirmRemoveSigner req.input).attempt >>= _) w _ _
  rw [runs_bind_ok]
  refine ⟨.ok (), w, (runs_attempt _ _ _ _).mpr ⟨_, rfl, hconfirm⟩, ?_⟩
  rw [runs_bind_ok]
  exact ⟨.ok (), _, (runs_attempt _ _ _ _).mpr ⟨_, rfl, hderegister⟩, rfl, rfl⟩

theorem not_mem_withoutPasskey {row : PasskeyRow} (hrow : row ∈ w.passkeys.rows) :
    row ∉ (w.withoutPasskey credentialID).passkeys.rows ↔ row.credentialID = credentialID := by
  rw [World.withoutPasskey, Table.mem_delete]
  simp [hrow]

theorem not_dropsOnlyRemoved {row : PasskeyRow} (h : Confirmed cfg w req)
    (hrow : row ∈ w.passkeys.rows)
    (hid : credentialIDFromKeyData req.keyDataHex = .ok row.credentialID)
    (hother : row.smartAccountAddress ≠ req.smartAccountAddress) :
    ¬ DropsOnlyRemoved cfg w (some req) := by
  intro hdrops
  have hgone := (not_mem_withoutPasskey hrow).mpr rfl
  obtain ⟨req', hreq', haccount, -⟩ := hdrops _ _ (runs_of_confirmed h hid) row hrow hgone
  cases hreq'
  exact hother haccount

end Runs

namespace Sample

theorem length_key (b : UInt8) : (List.replicate 32 b).length = 32 := List.length_replicate

def key (b : UInt8) : Hash := ⟨List.replicate 32 b, length_key b⟩

def config : DeployConfig := ⟨some .testnet, []⟩

def keyData (credentialID : UInt8) : Bytes := List.replicate 65 4 ++ [credentialID]

def attackersAccount : Hash := key 1

def victimsAccount : Hash := key 2

def signers (account : Hash) (id : UInt32) : Option OnChainSigner :=
  if account = attackersAccount ∧ id = 1 then some (.external (.contract (key 4)) (keyData 7))
  else if account = victimsAccount ∧ id = 0 then some (.external (.contract (key 4)) (keyData 9))
  else none

def removal : ChainTx where
  hash := "removal"
  status := .success ""
  envelopeXdr := .of (.v1 [.invokeHostFunction (.invokeContract
    ⟨.contract attackersAccount, "remove_signer", [scU32 0, scU32 1]⟩) []])
  signersBefore := signers

def victimsRow : PasskeyRow where
  credentialID := credentialIDHex (hexEncode (keyData 9))
  keyDataHex := hexEncode (keyData 9)
  smartAccountAddress := contractText victimsAccount
  label := "savings"
  seq := 0

def world : World where
  chain := ⟨[removal], List.nodup_singleton _, List.nodup_singleton _⟩
  passkeys := ⟨[victimsRow], List.nodup_singleton _, List.nodup_singleton _⟩

def request : ConfirmRemoveRequest where
  network := ""
  smartAccountAddress := contractText attackersAccount
  contextRuleID := 0
  signerID := 1
  keyDataHex := hexEncode (keyData 9)
  txHash := "removal"

def invocation : DecodedInvocation := ⟨attackersAccount, "remove_signer", [scU32 0, scU32 1]⟩

theorem verified : (verifyInvocation invocation request.smartAccountAddress "remove_signer"
    [scU32 request.contextRuleID, scU32 request.signerID]).isOk = true := by decide +kernel

theorem confirmed : Confirmed config world request where
  required := by decide +kernel
  network := ⟨.testnet, by decide +kernel⟩
  invocation := by
    have hverified := verified
    refine ⟨(invocation, _), rfl, ?_⟩
    cases h : verifyInvocation invocation request.smartAccountAddress "remove_signer"
        [scU32 request.contextRuleID, scU32 request.signerID] with
    | ok u => rfl
    | error e => rw [h] at hverified; cases hverified

end Sample

end LatchApi.Signer
