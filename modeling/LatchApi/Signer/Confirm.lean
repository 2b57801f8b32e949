import LatchApi.Rules.Scan
import LatchApi.Rules.Values
import LatchApi.Signer.Removal
import LatchApi.Soroban.Framing

namespace LatchApi.Signer

open Lib Program Soroban Bundler List Option
open Rules (scMapGet buildDefaultContextType buildExternalSignerScVal
  backupSignerRuleName addSignerRuleArgs)

section Values

inductive TransactionMeta where
  | v3 (sorobanMeta : Option ScVal)
  | v4 (sorobanMeta : Option (Option ScVal))
  | other

def TransactionMeta.returnValue : TransactionMeta → Option ScVal
  | .v4 (some returnValue) => returnValue
  | .v3 sorobanMeta => sorobanMeta
  | _ => none

structure ConfirmConfig where
  webauthnVerifierAddress : String
  unmarshalMeta : String → Option TransactionMeta

def extractReturnU32 (cfg : ConfirmConfig) (resultMetaXdr : String) : Option UInt32 := do
  let txMeta ← cfg.unmarshalMeta resultMetaXdr
  match txMeta.returnValue with
  | some (.u32 n) => some n
  | _ => none

def extractReturnContextRuleID (cfg : ConfirmConfig) (resultMetaXdr : String) : Option UInt32 := do
  let txMeta ← cfg.unmarshalMeta resultMetaXdr
  let returnValue ← txMeta.returnValue
  match scMapGet returnValue "id" with
  | some (.u32 n) => some n
  | _ => none

end Values

section Service

variable (cfg : ConfirmConfig)

def required {α : Type} (context : String) : Option α → Except ConfirmError α
  | some a => .ok a
  | none => .error (.internal context)

def expectedSigner (keyDataHex : String) : Except ConfirmError ScVal := do
  if cfg.webauthnVerifierAddress = "" then
    throw (.internal "webauthn verifier address not configured")
  let keyData ← required "decode keyDataHex" (hexDecode keyDataHex)
  required "resolve verifier address" (buildExternalSignerScVal cfg.webauthnVerifierAddress keyData)

structure ConfirmAddSignerInput where
  smartAccountAddress : String
  contextRuleID : UInt32
  keyDataHex : String
  txHash : String

def confirmAddSigner (input : ConfirmAddSignerInput) : Confirmer ConfirmError UInt32 := do
  let signer ← ofExcept (expectedSigner cfg input.keyDataHex)
  let settled ← fetchSettledInvocation input.txHash
  ofExcept (verifyInvocation settled.1 input.smartAccountAddress "add_signer"
    [scU32 input.contextRuleID, signer])
  ofExcept (required "extract signer_id" (extractReturnU32 cfg settled.2))

structure ConfirmAddSignerRuleInput where
  smartAccountAddress : String
  keyDataHex : String
  txHash : String

def confirmAddSignerRule (input : ConfirmAddSignerRuleInput) : Confirmer ConfirmError UInt32 := do
  let signer ← ofExcept (expectedSigner cfg input.keyDataHex)
  let settled ← fetchSettledInvocation input.txHash
  ofExcept (verifyInvocation settled.1 input.smartAccountAddress "add_context_rule"
    (addSignerRuleArgs signer))
  ofExcept (required "extract context rule id" (extractReturnContextRuleID cfg settled.2))

structure ConfirmRemoveSignerRuleInput where
  smartAccountAddress : String
  contextRuleID : UInt32
  txHash : String

def confirmRemoveSignerRule (input : ConfirmRemoveSignerRuleInput) : Confirmer ConfirmError Unit := do
  let settled ← fetchSettledInvocation input.txHash
  ofExcept (verifyInvocation settled.1 input.smartAccountAddress "remove_context_rule"
    [scU32 input.contextRuleID])

end Service

section Confirmations

inductive Confirmation where
  | addSigner (input : ConfirmAddSignerInput)
  | removeSigner (input : ConfirmRemoveSignerInput)
  | addSignerRule (input : ConfirmAddSignerRuleInput)
  | removeSignerRule (input : ConfirmRemoveSignerRuleInput)

namespace Confirmation

def program (cfg : ConfirmConfig) : Confirmation → Confirmer ConfirmError (Option UInt32)
  | .addSigner input => some <$> confirmAddSigner cfg input
  | .removeSigner input => (fun _ => none) <$> confirmRemoveSigner input
  | .addSignerRule input => some <$> confirmAddSignerRule cfg input
  | .removeSignerRule input => (fun _ => none) <$> confirmRemoveSignerRule input

def account : Confirmation → String
  | .addSigner input => input.smartAccountAddress
  | .removeSigner input => input.smartAccountAddress
  | .addSignerRule input => input.smartAccountAddress
  | .removeSignerRule input => input.smartAccountAddress

def txHash : Confirmation → String
  | .addSigner input => input.txHash
  | .removeSigner input => input.txHash
  | .addSignerRule input => input.txHash
  | .removeSignerRule input => input.txHash

def functionName : Confirmation → String
  | .addSigner _ => "add_signer"
  | .removeSigner _ => "remove_signer"
  | .addSignerRule _ => "add_context_rule"
  | .removeSignerRule _ => "remove_context_rule"

def expectedArgs (cfg : ConfirmConfig) : Confirmation → Option (List ScVal)
  | .addSigner input => do
    let keyData ← hexDecode input.keyDataHex
    let signer ← buildExternalSignerScVal cfg.webauthnVerifierAddress keyData
    return [scU32 input.contextRuleID, signer]
  | .removeSigner input => some [scU32 input.contextRuleID, scU32 input.signerID]
  | .addSignerRule input => do
    let keyData ← hexDecode input.keyDataHex
    let signer ← buildExternalSignerScVal cfg.webauthnVerifierAddress keyData
    return addSignerRuleArgs signer
  | .removeSignerRule input => some [scU32 input.contextRuleID]

end Confirmation

def OperationOnWire : OperationBody → Prop
  | .invokeHostFunction (.invokeContract invoked) _ => ScVal.OnWireItems invoked.args
  | _ => True

def FetchedTransaction.OnWire (tx : FetchedTransaction) : Prop :=
  ∀ operations, tx.envelopeXdr.decode = some (.v1 operations) → ∀ op ∈ operations, OperationOnWire op

structure Performs (account functionName : String) (args : List ScVal) (tx : FetchedTransaction) :
    Prop where
  succeeded : ∃ resultMetaXdr, tx.status = .success resultMetaXdr
  invokes : ∃ id auth, contractIDFromAddress account = some id ∧ tx.envelopeXdr.decode =
    some (.v1 [.invokeHostFunction (.invokeContract ⟨.contract id, functionName, args⟩) auth])

end Confirmations

variable {args : List ScVal}

variable {invocation : DecodedInvocation} {account functionName : String}

section Decoding

variable {tx : FetchedTransaction}

theorem decode_of_decodeSingleInvocation {envelopeXdr : Encoded TransactionEnvelope}
    (h : decodeSingleInvocation envelopeXdr = .ok invocation) :
    ∃ auth, envelopeXdr.decode = some (.v1 [.invokeHostFunction (.invokeContract
      ⟨.contract invocation.contractID, invocation.functionName, invocation.args⟩) auth]) := by
  unfold decodeSingleInvocation at h
  split at h
  · cases h
  · cases h
  · rename_i id functionName args auth hdecode
    cases h
    exact ⟨auth, hdecode⟩
  · cases h
  · cases h
  · cases h
  · cases h

theorem settledInvocation_eq_ok {settled : DecodedInvocation × String} :
    settledInvocation tx = .ok settled ↔
      tx.status = .success settled.2 ∧ decodeSingleInvocation tx.envelopeXdr = .ok settled.1 := by
  unfold settledInvocation
  cases tx.status with
  | success resultMetaXdr =>
    simp only [map_eq_ok, TransactionStatus.success.injEq]
    constructor
    · rintro ⟨invocation, h, rfl⟩
      exact ⟨rfl, h⟩
    · rintro ⟨rfl, h⟩
      exact ⟨settled.1, h, rfl⟩
  | _ => simp

theorem verifyInvocation_eq_ok : verifyInvocation invocation account functionName args = .ok () ↔
      contractIDFromAddress account = some invocation.contractID ∧
        invocation.functionName = functionName ∧ invocation.args.length = args.length ∧
        (invocation.args.zip args).all (fun arg => scValEqual arg.1 arg.2) = true := by
  unfold verifyInvocation
  cases contractIDFromAddress account with
  | none => simp
  | some id =>
    simp only [some.injEq]
    split
    · rename_i h
      obtain ⟨hid, hrest⟩ := h
      exact ⟨fun _ => ⟨hid.symm, hrest⟩, fun _ => rfl⟩
    · rename_i h
      constructor
      · intro herror
        cases herror
      · rintro ⟨hid, hrest⟩
        exact absurd ⟨hid.symm, hrest⟩ h

theorem eq_of_scValEqual {expected : List ScVal} (hwire : ScVal.OnWireItems args)
    (hexact : ∀ e ∈ expected, e.Exact) (hlength : args.length = expected.length)
    (h : (args.zip expected).all (fun arg => scValEqual arg.1 arg.2) = true) : args = expected := by
  induction expected generalizing args with
  | nil => exact length_eq_zero_iff.mp hlength
  | cons e es ih =>
    obtain ⟨a, as, rfl⟩ := exists_cons_of_length_eq_add_one hlength
    rw [zip_cons_cons, all_cons, Bool.and_eq_true] at h
    have hhead : a = e := hexact e mem_cons_self a hwire.1 (beq_iff_eq.mp h.1)
    have htail : as = es := ih hwire.2 (fun e' he' => hexact e' (mem_cons_of_mem _ he'))
      (Nat.succ.inj hlength) h.2
    rw [hhead, htail]

theorem performs_of_verified (hwire : tx.OnWire) (hexact : ∀ e ∈ args, e.Exact)
    {resultMetaXdr : String} (hsettled : settledInvocation tx = .ok (invocation, resultMetaXdr))
    (hverified : verifyInvocation invocation account functionName args = .ok ()) :
    Performs account functionName args tx := by
  obtain ⟨hsucceeded, hsingle⟩ := settledInvocation_eq_ok.mp hsettled
  obtain ⟨auth, hdecode⟩ := decode_of_decodeSingleInvocation hsingle
  obtain ⟨hid, hname, hlength, hall⟩ := verifyInvocation_eq_ok.mp hverified
  have hargs : ScVal.OnWireItems invocation.args := hwire _ hdecode _ mem_cons_self
  rw [hname, eq_of_scValEqual hargs hexact hlength hall] at hdecode
  exact ⟨⟨resultMetaXdr, hsucceeded⟩, invocation.contractID, auth, hid, hdecode⟩

end Decoding

section Expected

variable {cfg : ConfirmConfig} {signer : ScVal} {keyDataHex : String}

theorem exact_scU32 (n : UInt32) : (scU32 n).Exact := ScVal.Framed.exact (w := .u32 n) trivial

theorem framed_symbol {name : String} (h : (textBytes name).length < 4294967296) :
    (scSymbol name).Framed := h

theorem exact_externalSigner {verifierAddress : String} {keyData : Bytes}
    (h : buildExternalSignerScVal verifierAddress keyData = some signer) : signer.Exact := by
  obtain ⟨verifier, hverifier, rfl⟩ := map_eq_some_iff.mp h
  obtain ⟨address, -, rfl⟩ := map_eq_some_iff.mp hverifier
  have hname : (scSymbol "External").Framed := framed_symbol (by decide +kernel)
  have hlength : 2 + 1 < 4294967296 := by decide
  exact exact_vec [scSymbol "External", .address address] ⟨hname, trivial, trivial⟩
    (exact_bytes keyData) hlength

theorem exact_addSignerRuleArgs (h : signer.Exact) : ∀ e ∈ addSignerRuleArgs signer, e.Exact := by
  have hdefault : (scSymbol "Default").Framed := framed_symbol (by decide +kernel)
  have hname : (scString backupSignerRuleName).Framed := by
    change (textBytes "backup").length < 4294967296
    decide +kernel
  have htype : buildDefaultContextType.Framed := ⟨by decide, hdefault, trivial⟩
  have hmap : (scMap []).Framed := ⟨by decide, trivial⟩
  have hsigners : (scVec [signer]).Exact := exact_vec [] trivial h (by decide)
  have hvoid : scVoid.Exact := ScVal.Framed.exact (w := .void) trivial
  simp only [addSignerRuleArgs, forall_mem_cons]
  exact ⟨htype.exact, hname.exact, hvoid, hsigners, hmap.exact, by simp⟩

theorem required_eq_ok {α : Type} {context : String} {x : Option α} {a : α} :
    required context x = .ok a ↔ x = some a := by
  cases x <;> simp [required]

theorem of_expectedSigner (h : expectedSigner cfg keyDataHex = .ok signer) :
    ∃ keyData, hexDecode keyDataHex = some keyData ∧
      buildExternalSignerScVal cfg.webauthnVerifierAddress keyData = some signer := by
  unfold expectedSigner at h
  split at h
  · cases h
  · obtain ⟨keyData, hkey, hsigner⟩ := bind_eq_ok.mp h
    exact ⟨keyData, required_eq_ok.mp hkey, required_eq_ok.mp hsigner⟩

end Expected

section Sound

variable {cfg : ConfirmConfig}

def offWire : (op : ConfirmOp) → ConfirmRes op → Prop
  | .getTransaction _, .ok tx => tx.OnWire
  | _, _ => True

def offWireAnswers : Discipline ConfirmOp ConfirmRes := ⟨offWire, fun _ _ => True⟩

def Fetched (txHash account functionName : String) (args : List ScVal)
    (h : Log ConfirmRes) : Prop :=
  ∃ tx, (⟨.getTransaction txHash, .ok tx⟩ : Event ConfirmRes) ∈ h ∧
    Performs account functionName args tx

def Settled (txHash : String) (h : Log ConfirmRes) (invocation : DecodedInvocation) : Prop :=
  ∃ tx : FetchedTransaction, (⟨.getTransaction txHash, .ok tx⟩ : Event ConfirmRes) ∈ h ∧ tx.OnWire ∧
    ∃ resultMetaXdr, settledInvocation tx = .ok (invocation, resultMetaXdr)

theorem obeys_fetchSettledInvocation (txHash : String) (h : Log ConfirmRes) :
    Obeys offWireAnswers h (fetchSettledInvocation txHash)
      (onOk fun h settled => Settled txHash h settled.1) := by
  unfold fetchSettledInvocation
  rw [obeys_perform_then]
  refine ⟨trivial, fun answer hanswer => ?_⟩
  cases answer with
  | error e => exact .fail trivial
  | ok tx =>
    rw [obeys_ofExcept]
    cases hsettled : settledInvocation tx with
    | error e => trivial
    | ok settled => exact ⟨tx, mem_cons_self, hanswer, settled.2, hsettled⟩

theorem obeys_verify_bind {α : Type} {h : Log ConfirmRes} {txHash : String}
    {rest : Unit → Confirmer ConfirmError α} (hsettled : Settled txHash h invocation)
    (hexact : ∀ e ∈ args, e.Exact) (hrest : ∀ u, Always (fun _ => False) (rest u)) :
    Obeys offWireAnswers h
      (Program.ofExcept (verifyInvocation invocation account functionName args) >>= rest)
      (onOk fun h _ => Fetched txHash account functionName args h) := by
  obtain ⟨tx, hmem, hwire, resultMetaXdr, hsettled⟩ := hsettled
  refine obeys_ofExcept_bind fun u hverified => ?_
  have hperforms := performs_of_verified hwire hexact hsettled hverified
  cases hprogram : rest u with
  | ok a => exact .ok ⟨tx, hmem, hperforms⟩
  | fail e => exact .fail trivial
  | call op next =>
    have hcall := hrest u
    rw [hprogram] at hcall
    exact hcall.1.elim

theorem always_ofExcept {α : Type} (x : Except ConfirmError α) :
    Always (fun _ => False) (Program.ofExcept x : Confirmer ConfirmError α) := by
  cases x <;> trivial

theorem obeys_confirmAddSigner (input : ConfirmAddSignerInput) (h : Log ConfirmRes) :
    Obeys offWireAnswers h (confirmAddSigner cfg input) (onOk fun h _ =>
      ∃ args, (Confirmation.addSigner input).expectedArgs cfg = some args ∧
        Fetched input.txHash input.smartAccountAddress "add_signer" args h) := by
  refine obeys_ofExcept_bind fun signer hsigner => ?_
  obtain ⟨keyData, hkey, hbuilt⟩ := of_expectedSigner hsigner
  refine (obeys_fetchSettledInvocation _ _).bind_onOk fun h' result hsettled => ?_
  have hexact : ∀ e ∈ [scU32 input.contextRuleID, signer], e.Exact := by
    simp only [forall_mem_cons]
    exact ⟨exact_scU32 _, exact_externalSigner hbuilt, by simp⟩
  refine (obeys_verify_bind hsettled hexact fun _ => always_ofExcept _).mono_onOk fun h' _ hf => ?_
  exact ⟨_, by simp [Confirmation.expectedArgs, hkey, hbuilt], hf⟩

theorem obeys_confirmAddSignerRule (input : ConfirmAddSignerRuleInput) (h : Log ConfirmRes) :
    Obeys offWireAnswers h (confirmAddSignerRule cfg input) (onOk fun h _ =>
      ∃ args, (Confirmation.addSignerRule input).expectedArgs cfg = some args ∧
        Fetched input.txHash input.smartAccountAddress "add_context_rule" args h) := by
  refine obeys_ofExcept_bind fun signer hsigner => ?_
  obtain ⟨keyData, hkey, hbuilt⟩ := of_expectedSigner hsigner
  refine (obeys_fetchSettledInvocation _ _).bind_onOk fun h' result hsettled => ?_
  have hexact := exact_addSignerRuleArgs (exact_externalSigner hbuilt)
  refine (obeys_verify_bind hsettled hexact fun _ => always_ofExcept _).mono_onOk fun h' _ hf => ?_
  exact ⟨_, by simp [Confirmation.expectedArgs, hkey, hbuilt], hf⟩

theorem obeys_confirmRemoval {txHash : String} (ids : List UInt32) (h : Log ConfirmRes) :
    Obeys offWireAnswers h (fetchSettledInvocation txHash >>= fun settled =>
        (Program.ofExcept (verifyInvocation settled.1 account functionName (ids.map scU32)) :
          Confirmer ConfirmError Unit))
      (onOk fun h _ => Fetched txHash account functionName (ids.map scU32) h) := by
  refine (obeys_fetchSettledInvocation _ _).bind_onOk fun h' settled hsettled => ?_
  have hexact : ∀ e ∈ ids.map scU32, e.Exact := by
    intro e he
    obtain ⟨n, -, rfl⟩ := mem_map.mp he
    exact exact_scU32 n
  obtain ⟨tx, hmem, hwire, resultMetaXdr, hsettled⟩ := hsettled
  rw [obeys_ofExcept]
  cases hverified : verifyInvocation settled.1 account functionName (ids.map scU32) with
  | error e => trivial
  | ok u => exact ⟨tx, hmem, performs_of_verified hwire hexact hsettled hverified⟩

theorem obeys_confirmation (cfg : ConfirmConfig) (c : Confirmation) (h : Log ConfirmRes) :
    Obeys offWireAnswers h (c.program cfg) (onOk fun h _ =>
      ∃ args, c.expectedArgs cfg = some args ∧
        Fetched c.txHash c.account c.functionName args h) := by
  cases c with
  | addSigner input => exact (obeys_confirmAddSigner input h).bind_onOk fun h' a ha => .ok ha
  | removeSigner input =>
    refine (obeys_confirmRemoval [input.contextRuleID, input.signerID] h).bind_onOk ?_
    exact fun h' a ha => .ok ⟨_, rfl, ha⟩
  | addSignerRule input => exact (obeys_confirmAddSignerRule input h).bind_onOk fun h' a ha => .ok ha
  | removeSignerRule input =>
    refine (obeys_confirmRemoval [input.contextRuleID] h).bind_onOk ?_
    exact fun h' a ha => .ok ⟨_, rfl, ha⟩

end Sound

namespace Sample

def verifier : Hash := key 4

def backupSigner : ScVal :=
  scVec [scSymbol "External", .address (.contract verifier), scBytes (keyData 9)]

def confirmConfig : ConfirmConfig where
  webauthnVerifierAddress := contractText verifier
  unmarshalMeta _ := some (.v4 (some (some (scMap [scMapEntry "id" (scU32 3)]))))

def addition : FetchedTransaction where
  status := .success ""
  envelopeXdr := .of (.v1 [.invokeHostFunction (.invokeContract
    ⟨.contract victimsAccount, "add_context_rule", addSignerRuleArgs backupSigner⟩) []])

def additionInput : ConfirmAddSignerRuleInput :=
  ⟨contractText victimsAccount, hexEncode (keyData 9), "addition"⟩

def answerAddition (_ : Log ConfirmRes) : (op : ConfirmOp) → ConfirmRes op
  | .getTransaction _ => .ok addition
  | .deletePasskeyCredential _ => .ok ()

theorem onWire_addition : addition.OnWire := by
  intro operations hdecode
  obtain rfl := TransactionEnvelope.v1.inj (some.inj hdecode)
  have hsymbol (name : String) (h : (textBytes name).length < 4294967296) :
      (scSymbol name).OnWire := h
  have hstring (name : String) (h : (textBytes name).length < 4294967296) :
      (scString name).OnWire := h
  have hbytes : (scBytes (keyData 9)).OnWire := by
    change (keyData 9).length < 4294967296
    decide
  have hdefault : buildDefaultContextType.OnWire :=
    ⟨by decide, hsymbol _ (by decide +kernel), trivial⟩
  have hsigner : backupSigner.OnWire :=
    ⟨by decide, hsymbol _ (by decide +kernel), trivial, hbytes, trivial⟩
  rw [forall_mem_singleton]
  exact ⟨hdefault, hstring _ (by decide +kernel), trivial, ⟨by decide, hsigner, trivial⟩,
    ⟨by decide, trivial⟩, trivial⟩

theorem addition_returns : (((Confirmation.addSignerRule additionInput).program confirmConfig).runWith
    answerAddition []).1 = .ok (some 3) := by decide +kernel

end Sample

end LatchApi.Signer
