import LatchApi.Multisig.PayloadSigners

namespace LatchApi.Factory

open Lib Soroban Multisig List Option

abbrev MultisigSignerKind := Deploy.KeyType

structure MultisigSignerInit where
  type : MultisigSignerKind
  keyDataHex : String
  gAddress : String
  label : String
deriving DecidableEq

inductive ParamsError where
  | signerAddress (i : Nat)
  | signerKeyData (i : Nat)
  | unsupportedType (name : String)
  | salt
deriving DecidableEq

def delegatedInit (address : ScVal) : ScVal := scVec [scSymbol "Delegated", address]

def externalInit (kind : String) (keyData : Bytes) : ScVal :=
  scVec [scSymbol "External", scMap [
    scMapEntry "key_data" (scBytes keyData),
    scMapEntry "signer_kind" (scVec [scSymbol kind])]]

def decodeKeyData (i : Nat) (keyDataHex : String) : Except ParamsError Bytes :=
  match hexDecode keyDataHex with
  | some keyData => .ok keyData
  | none => .error (.signerKeyData i)

def MultisigSignerInit.signerVal (s : MultisigSignerInit) (i : Nat) : Except ParamsError ScVal :=
  match s.type with
  | .delegated =>
    match scAddress s.gAddress with
    | some address => .ok (delegatedInit address)
    | none => .error (.signerAddress i)
  | .webauthn => do return externalInit "WebAuthn" (← decodeKeyData i s.keyDataHex)
  | .ed25519 => do return externalInit "Ed25519" (← decodeKeyData i s.keyDataHex)
  | .unsupported name => .error (.unsupportedType name)

def accountInit (threshold : UInt32) (salt : Bytes) (signerVals : List ScVal) : ScVal :=
  scMap [
    scMapEntry "account_salt" (scBytes salt),
    scMapEntry "signers" (scVec signerVals),
    scMapEntry "threshold" (scU32 threshold)]

def buildMultisigAccountInitParams (threshold : UInt32) (salt : Bytes)
    (signers : List MultisigSignerInit) : Except ParamsError ScVal := do
  let signerVals ← signers.zipIdx.mapM fun (s, i) => s.signerVal i
  return accountInit threshold salt signerVals

def hexDecodeSalt (saltHex : String) : Except ParamsError Bytes :=
  match hexDecode saltHex with
  | some salt => .ok salt
  | none => .error .salt

def initThreshold : ScVal → Nat
  | .map (some [_, _, (_, .u32 threshold)]) => threshold.toNat
  | _ => 0

def initSigners : ScVal → List ScVal
  | .map (some [_, (_, .vec (some signerVals)), _]) => signerVals
  | _ => []

/-- As many signers as the threshold asks for can sign. -/
def Usable (params : ScVal) : Prop :=
  1 ≤ initThreshold params ∧ initThreshold params ≤ (initSigners params).length

instance (params : ScVal) : Decidable (Usable params) := inferInstanceAs (Decidable (_ ∧ _))

open Classical in
noncomputable def distinctSigners (params : ScVal) : Nat := (initSigners params).toFinset.card

/-- The threshold does not count a signer twice. -/
def UsableOnce (params : ScVal) : Prop :=
  1 ≤ initThreshold params ∧ initThreshold params ≤ distinctSigners params

@[simp] theorem initSigners_accountInit (threshold : UInt32) (salt : Bytes)
    (signerVals : List ScVal) :
    initSigners (accountInit threshold salt signerVals) = signerVals := rfl

variable {signers : List MultisigSignerInit} {s : MultisigSignerInit}

section Value

variable {threshold : UInt32} {salt : Bytes} {params v : ScVal}

def MultisigSignerInit.value (s : MultisigSignerInit) : Option ScVal :=
  match s.type with
  | .delegated => (scAddress s.gAddress).map delegatedInit
  | .webauthn => (hexDecode s.keyDataHex).map (externalInit "WebAuthn")
  | .ed25519 => (hexDecode s.keyDataHex).map (externalInit "Ed25519")
  | .unsupported _ => none

theorem value_of_signerVal {i : Nat} : s.signerVal i = .ok v ↔ s.value = some v := by
  obtain ⟨type, keyDataHex, gAddress, label⟩ := s
  cases type with
  | delegated =>
    simp only [MultisigSignerInit.signerVal, MultisigSignerInit.value]
    cases scAddress gAddress <;> simp
  | unsupported name => simp [MultisigSignerInit.signerVal, MultisigSignerInit.value]
  | _ =>
    simp only [MultisigSignerInit.signerVal, MultisigSignerInit.value, decodeKeyData]
    cases hexDecode keyDataHex <;> simp [bind, Except.bind, pure, Except.pure]

theorem forall₂_of_zipIdx {α β : Type} {R : α → β → Prop} {xs : List α} {ys : List β} (n : Nat) :
    List.Forall₂ (fun x y => R x.1 y) (xs.zipIdx n) ys ↔ List.Forall₂ R xs ys := by
  induction xs generalizing n ys with
  | nil => simp
  | cons x xs ih =>
    rw [zipIdx_cons, forall₂_cons_left_iff, forall₂_cons_left_iff]
    simp only [ih]

theorem buildMultisigAccountInitParams_eq_ok :
    buildMultisigAccountInitParams threshold salt signers = .ok params ↔
      ∃ signerVals, List.Forall₂ (fun s v => s.value = some v) signers signerVals ∧
        params = accountInit threshold salt signerVals := by
  rw [buildMultisigAccountInitParams, bind_eq_ok]
  simp only [mapM_eq_ok, value_of_signerVal, pure, Except.pure, Except.ok.injEq]
  constructor
  · rintro ⟨signerVals, hvals, rfl⟩
    exact ⟨signerVals, (forall₂_of_zipIdx 0).mp hvals, rfl⟩
  · rintro ⟨signerVals, hvals, rfl⟩
    exact ⟨signerVals, (forall₂_of_zipIdx 0).mpr hvals, rfl⟩

section

variable (h : buildMultisigAccountInitParams threshold salt signers = .ok params)

include h

theorem initSigners_map_some :
    (initSigners params).map some = signers.map MultisigSignerInit.value := by
  obtain ⟨signerVals, hvals, rfl⟩ := buildMultisigAccountInitParams_eq_ok.mp h
  rw [initSigners_accountInit]
  clear h
  induction hvals with
  | nil => rfl
  | cons hv _ ih => rw [map_cons, map_cons, hv, ih]

theorem initThreshold_of_build : initThreshold params = threshold.toNat := by
  obtain ⟨signerVals, -, rfl⟩ := buildMultisigAccountInitParams_eq_ok.mp h
  rfl

theorem length_initSigners : (initSigners params).length = signers.length := by
  have hlength := congrArg length (initSigners_map_some h)
  rwa [length_map, length_map] at hlength

end

def MultisigSignerInit.identity (s : MultisigSignerInit) : MultisigSignerKind × String :=
  (s.type, if s.type = .delegated then s.gAddress else toLower s.keyDataHex)

theorem value_eq_delegated (htype : s.type = .delegated) (h : s.value = some v) :
    ∃ address, scAddressFromString s.gAddress = some address ∧
      v = delegatedInit (.address address) := by
  simp only [MultisigSignerInit.value, htype] at h
  obtain ⟨val, hval, rfl⟩ := map_eq_some_iff.mp h
  obtain ⟨address, haddress, rfl⟩ := map_eq_some_iff.mp hval
  exact ⟨address, haddress, rfl⟩

def kindSymbol : MultisigSignerKind → String
  | .webauthn => "WebAuthn"
  | _ => "Ed25519"

theorem value_eq_external (htype : s.type ≠ .delegated) (h : s.value = some v) :
    (s.type = .webauthn ∨ s.type = .ed25519) ∧
      ∃ keyData, hexDecode s.keyDataHex = some keyData ∧ v = externalInit (kindSymbol s.type) keyData := by
  obtain ⟨type, keyDataHex, gAddress, label⟩ := s
  cases type with
  | delegated => exact absurd rfl htype
  | webauthn =>
    obtain ⟨keyData, hkey, rfl⟩ := map_eq_some_iff.mp h
    exact ⟨.inl rfl, keyData, hkey, rfl⟩
  | ed25519 =>
    obtain ⟨keyData, hkey, rfl⟩ := map_eq_some_iff.mp h
    exact ⟨.inr rfl, keyData, hkey, rfl⟩
  | unsupported name => cases h

theorem externalInit_ne_delegatedInit (kind : String) (keyData : Bytes) (address : ScVal) :
    externalInit kind keyData ≠ delegatedInit address := by
  intro h
  simp [externalInit, delegatedInit, scVec, scSymbol] at h

theorem externalInit_injective {kind kind' : String} {keyData keyData' : Bytes}
    (h : externalInit kind keyData = externalInit kind' keyData') :
    kind = kind' ∧ keyData = keyData' := by
  simp only [externalInit, scVec, scMap, scMapEntry, scBytes, scSymbol, ScVal.vec.injEq,
    some.injEq, cons.injEq, ScVal.map.injEq, Prod.mk.injEq, ScVal.bytes.injEq,
    ScVal.symbol.injEq, and_true, true_and] at h
  exact ⟨h.2, h.1⟩

theorem value_eq_iff_identity_eq {s' : MultisigSignerInit} {v' : ScVal} (h : s.value = some v)
    (h' : s'.value = some v') : v = v' ↔ s.identity = s'.identity := by
  by_cases hs : s.type = .delegated
  · obtain ⟨address, haddress, rfl⟩ := value_eq_delegated hs h
    by_cases hs' : s'.type = .delegated
    · obtain ⟨address', haddress', rfl⟩ := value_eq_delegated hs' h'
      simp only [MultisigSignerInit.identity, hs, hs', if_true, Prod.mk.injEq, true_and]
      constructor
      · intro heq
        simp only [delegatedInit, scVec, ScVal.vec.injEq, some.injEq, cons.injEq,
          ScVal.address.injEq, and_true, true_and] at heq
        exact scAddressFromString_injective haddress (heq ▸ haddress')
      · intro heq
        rw [heq, haddress'] at haddress
        rw [some.inj haddress]
    · obtain ⟨-, keyData, -, rfl⟩ := value_eq_external hs' h'
      refine ⟨fun heq => absurd heq.symm (externalInit_ne_delegatedInit _ _ _), fun heq => ?_⟩
      exact absurd ((congrArg Prod.fst heq).symm.trans hs) hs'
  · obtain ⟨hkind, keyData, hkey, rfl⟩ := value_eq_external hs h
    by_cases hs' : s'.type = .delegated
    · obtain ⟨address', -, rfl⟩ := value_eq_delegated hs' h'
      refine ⟨fun heq => absurd heq (externalInit_ne_delegatedInit _ _ _), fun heq => ?_⟩
      exact absurd ((congrArg Prod.fst heq).trans hs') hs
    · obtain ⟨hkind', keyData', hkey', rfl⟩ := value_eq_external hs' h'
      simp only [MultisigSignerInit.identity, hs, hs', if_false, Prod.mk.injEq]
      have hlower := hexDecode_toLower hkey
      have hlower' := hexDecode_toLower hkey'
      constructor
      · intro heq
        obtain ⟨hsymbol, rfl⟩ := externalInit_injective heq
        refine ⟨?_, hexDecode_toLower_injective hlower hlower'⟩
        rcases hkind with hk | hk <;> rcases hkind' with hk' | hk' <;>
          simp [hk, hk', kindSymbol] at hsymbol ⊢
      · rintro ⟨htype, htext⟩
        rw [htext, hlower'] at hlower
        rw [htype, some.inj hlower]

end Value

section Counting

variable {threshold : UInt32} {salt : Bytes} {params : ScVal}

open Classical in
theorem card_toFinset_of_forall₂ {α β γ : Type} [DecidableEq γ] {R : α → β → Prop} {g : α → γ}
    {xs : List α} {ys : List β} (h : List.Forall₂ R xs ys)
    (heq : ∀ {x y x' y'}, R x y → R x' y' → (y = y' ↔ g x = g x')) :
    ys.toFinset.card = (xs.map g).toFinset.card := by
  induction h with
  | nil => simp
  | @cons x y xs ys hxy hrest ih =>
    have hmem : y ∈ ys ↔ g x ∈ xs.map g := by
      rw [List.mem_map]
      constructor
      · intro hy
        obtain ⟨x', hx', hR⟩ := exists_of_forall₂ hrest.flip hy
        exact ⟨x', hx', ((heq hxy hR).mp rfl).symm⟩
      · rintro ⟨x', hx', hg⟩
        obtain ⟨y', hy', hR⟩ := exists_of_forall₂ hrest hx'
        rw [(heq hxy hR).mpr hg.symm]
        exact hy'
    rw [map_cons, toFinset_cons, toFinset_cons, Finset.card_insert_eq_ite,
      Finset.card_insert_eq_ite, ih]
    simp only [List.mem_toFinset, hmem]

section

variable (h : buildMultisigAccountInitParams threshold salt signers = .ok params)

include h

theorem distinctSigners_of_build :
    distinctSigners params = (signers.map MultisigSignerInit.identity).toFinset.card := by
  obtain ⟨signerVals, hvals, rfl⟩ := buildMultisigAccountInitParams_eq_ok.mp h
  exact card_toFinset_of_forall₂ hvals value_eq_iff_identity_eq

theorem usable_of_build :
    Usable params ↔ 1 ≤ threshold.toNat ∧ threshold.toNat ≤ signers.length := by
  rw [Usable, initThreshold_of_build h, length_initSigners h]

theorem usableOnce_of_build : UsableOnce params ↔ 1 ≤ threshold.toNat ∧
      threshold.toNat ≤ (signers.map MultisigSignerInit.identity).toFinset.card := by
  rw [UsableOnce, initThreshold_of_build h, distinctSigners_of_build h]

end

end Counting

end LatchApi.Factory
