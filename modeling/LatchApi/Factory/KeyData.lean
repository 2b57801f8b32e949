import LatchApi.Factory.Service

namespace LatchApi.Factory

open Lib Program Soroban Multisig
open WebAuthn (deriveWebauthnSalt)

def buildWebauthnAccountInitParams (keyDataHex : String) (salt : Bytes) : Option ScVal :=
  (hexDecode keyDataHex).map fun keyData => scMap [
    scMapEntry "account_salt" (scBytes salt),
    scMapEntry "signers" (scVec [externalInit "WebAuthn" keyData]),
    scMapEntry "threshold" scVoid]

def deployByKeyData (cfg : FactoryConfig) (keyDataHex : String) : FactoryService (String × Bool) := do
  let params ← ofExcept (orInternal
    (buildWebauthnAccountInitParams keyDataHex (deriveWebauthnSalt keyDataHex)))
  let predicted ← predictAddress cfg params
  deploy cfg params predicted

def Predicts (F : FactoryContract) (cfg : FactoryConfig) (keyDataHex address : String) : Prop :=
  ∃ params chain chain',
    buildWebauthnAccountInitParams keyDataHex (deriveWebauthnSalt keyDataHex) = some params ∧
    chain.Sound F ∧ Runs (rpcExec F) (predictAddress cfg params) chain (.ok address) chain'

def Deploys (F : FactoryContract) (cfg : FactoryConfig) (keyDataHex address : String) : Prop :=
  ∃ alreadyDeployed chain chain', chain.Sound F ∧
    Runs (rpcExec F) (deployByKeyData cfg keyDataHex) chain (.ok (address, alreadyDeployed)) chain'

section Address

variable {F : FactoryContract} {cfg : FactoryConfig} {keyDataHex address : String} {params : ScVal}

theorem Predicts.eq (h : Predicts F cfg keyDataHex address)
    (hparams : buildWebauthnAccountInitParams keyDataHex (deriveWebauthnSalt keyDataHex) =
      some params) : address = F.address params := by
  obtain ⟨params', chain, chain', hparams', hsound, hrun⟩ := h
  obtain rfl := Option.some.inj (hparams'.symm.trans hparams)
  exact (ensures_iff.mp (ensures_predictAddress cfg params' hsound) _ _ hrun).2

theorem Deploys.predicts (h : Deploys F cfg keyDataHex address) :
    Predicts F cfg keyDataHex address := by
  obtain ⟨alreadyDeployed, chain, chain', hsound, hrun⟩ := h
  unfold deployByKeyData at hrun
  simp only [runs_bind_ok, runs_ofExcept] at hrun
  obtain ⟨params, _, ⟨hparams, rfl⟩, predicted, chain₁, hpredict, hdeploy⟩ := hrun
  obtain ⟨hextends, -⟩ := ensures_iff.mp (ensures_predictAddress cfg params hsound) _ _ hpredict
  obtain ⟨-, rfl, -⟩ :=
    ensures_iff.mp (ensures_deploy cfg params predicted hextends.sound) _ _ hdeploy
  exact ⟨params, _, chain₁, orError_eq_ok.mp hparams.symm, hsound, hpredict⟩

theorem runs_predictAddress {factoryID : Hash}
    (hfactory : contractIDFromAddress cfg.factoryAddress = some factoryID) (chain : Chain) :
    Runs (rpcExec F) (predictAddress cfg params) chain (.ok (F.address params)) chain := by
  unfold predictAddress
  rw [hfactory, runs_bind_ok]
  exact ⟨factoryID, chain, ⟨rfl, rfl⟩, {}, rfl, rfl⟩

theorem deploys_address {factoryID : Hash}
    (hfactory : contractIDFromAddress cfg.factoryAddress = some factoryID)
    (hparams : buildWebauthnAccountInitParams keyDataHex (deriveWebauthnSalt keyDataHex) =
      some params) : Deploys F cfg keyDataHex (F.address params) := by
  let chain : Chain := { Chain.empty with created := [params] }
  have hsound : chain.Sound F := (Chain.Sound.empty (F := F)).step (.create params) |>.sound
  refine ⟨true, chain, chain, hsound, ?_⟩
  unfold deployByKeyData
  rw [hparams]
  refine (runs_bind_ok _ _ _ _ _).mpr ⟨params, chain, ⟨rfl, rfl⟩, ?_⟩
  refine (runs_bind_ok _ _ _ _ _).mpr ⟨_, chain, runs_predictAddress hfactory chain, ?_⟩
  refine (runs_bind_ok _ _ _ _ _).mpr ⟨true, chain, ?_, rfl, rfl⟩
  unfold isDeployed
  rw [FactoryContract.address, contractIDFromAddress_contractText]
  refine (runs_bind_ok _ _ _ _ _).mpr ⟨F.accountID params, chain, ⟨rfl, rfl⟩, ?_⟩
  refine (runs_bind_ok _ _ _ _ _).mpr
    ⟨.ok true, chain, (runs_perform _ _ _ _).mpr ⟨{}, ?_⟩, rfl, rfl⟩
  simp [rpcExec, chain]

end Address

section Salt

variable {h₁ h₂ : String} {keyData : Bytes}

theorem Predicts.unique {F : FactoryContract} {cfg : FactoryConfig} {a₁ a₂ : String}
    (hdecode : hexDecode h₁ = hexDecode h₂) (hsalt : deriveWebauthnSalt h₁ = deriveWebauthnSalt h₂)
    (hp₁ : Predicts F cfg h₁ a₁) (hp₂ : Predicts F cfg h₂ a₂) : a₁ = a₂ := by
  obtain ⟨params, _, _, hparams, -⟩ := id hp₁
  have hparams₂ := hparams
  rw [buildWebauthnAccountInitParams, hdecode, hsalt] at hparams₂
  rw [hp₁.eq hparams, hp₂.eq hparams₂]

def saltOf : ScVal → Bytes
  | .map (some ((_, .bytes salt) :: _)) => salt
  | _ => []

def saltFactory (salt : Bytes) (id other : Hash) : FactoryContract where
  accountID params := if saltOf params = salt then id else other

theorem exists_apart (hdecode₁ : hexDecode h₁ = some keyData) (hdecode₂ : hexDecode h₂ = some keyData)
    (hsalt : deriveWebauthnSalt h₁ ≠ deriveWebauthnSalt h₂) :
    ∃ F cfg a₁ a₂, Deploys F cfg h₁ a₁ ∧ Deploys F cfg h₂ a₂ ∧ a₁ ≠ a₂ := by
  let id : Hash := ⟨List.replicate 32 0, rfl⟩
  let other : Hash := ⟨List.replicate 32 1, rfl⟩
  let F := saltFactory (deriveWebauthnSalt h₁) id other
  have hfactory := contractIDFromAddress_contractText id
  have hparams : ∀ h, hexDecode h = some keyData →
      ∃ params, buildWebauthnAccountInitParams h (deriveWebauthnSalt h) = some params ∧
        saltOf params = deriveWebauthnSalt h := by
    intro h hdecode
    rw [buildWebauthnAccountInitParams, hdecode]
    exact ⟨_, rfl, rfl⟩
  obtain ⟨params₁, hparams₁, hsalt₁⟩ := hparams h₁ hdecode₁
  obtain ⟨params₂, hparams₂, hsalt₂⟩ := hparams h₂ hdecode₂
  refine ⟨F, ⟨contractText id, true⟩, _, _, deploys_address hfactory hparams₁,
    deploys_address hfactory hparams₂, fun heq => ?_⟩
  have hids := contractText_injective heq
  have hid₁ : F.accountID params₁ = id := if_pos hsalt₁
  have hid₂ : F.accountID params₂ = other := if_neg (hsalt₂ ▸ hsalt.symm)
  rw [hid₁, hid₂] at hids
  exact absurd (congrArg Subtype.val hids) (by decide)

end Salt

end LatchApi.Factory
