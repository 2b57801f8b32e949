import LatchApi.Lib.HexText
import LatchApi.Lib.Lexicographic
import LatchApi.Nonce.Flows

namespace LatchApi.Nonce

open Lib Program Store Passkey WebAuthn
  Deploy

inductive Purpose where
  | signIn (wallet : String) (keyType : WalletKeyType) (network : Network)
  | deploy (keyRef : String) (keyType : KeyType) (network : Network)
  | lookup
deriving DecidableEq

def Purpose.wallet : Purpose → String
  | .signIn wallet _ _ => wallet
  | .deploy keyRef _ _ => keyRef
  | .lookup => ""

def Purpose.keyType : Purpose → String
  | .signIn _ keyType _ => keyType.name
  | .deploy _ keyType _ => keyType.name
  | .lookup => passkeyLookupNonceKeyType

def Purpose.scope : Purpose → String
  | .signIn _ _ network => network.name
  | .deploy _ _ network => deployNonceScope network
  | .lookup => passkeyLookupNonceScope

def Purpose.binding (p : Purpose) : String := bindNonce p.wallet p.keyType p.scope

def Purpose.Valid : Purpose → Prop
  | .signIn wallet keyType _ => validWalletShape wallet keyType = true
  | .deploy keyRef keyType _ => validateKeyRef keyRef keyType = .ok ()
  | .lookup => True

theorem bindNonce_inj {w w' k k' s s' : String} (hw : '|' ∉ w.toList) (hw' : '|' ∉ w'.toList)
    (hk : '|' ∉ k.toList) (hk' : '|' ∉ k'.toList) (h : bindNonce w k s = bindNonce w' k' s') :
    w = w' ∧ k = k' ∧ s = s' := by
  have hlist := congrArg String.toList h
  simp only [bindNonce, String.toList_append, List.append_assoc] at hlist
  obtain ⟨hwallet, hrest⟩ := append_cons_inj_of_not_mem_left hw hw' hlist
  obtain ⟨hkey, hscope⟩ := append_cons_inj_of_not_mem_left hk hk' hrest
  exact ⟨String.toList_inj.mp hwallet, String.toList_inj.mp hkey, String.toList_inj.mp hscope⟩

theorem bar_not_mem_of_hex {keyRef reason : String} (h : requireHex reason keyRef = .ok ()) :
    '|' ∉ keyRef.toList := by
  unfold requireHex at h
  split_ifs at h with hsome
  obtain ⟨bs, hbs⟩ := Option.isSome_iff_exists.mp hsome
  exact not_mem_of_hexDecode hbs List.mem_cons_self (by decide)

theorem bar_not_mem_of_strkey {version : UInt8} {text : String}
    (h : (strkeyDecode version text).isSome = true) : '|' ∉ text.toList := by
  obtain ⟨payload, hpayload⟩ := Option.isSome_iff_exists.mp h
  exact not_mem_of_strkeyDecode hpayload (by decide)

variable {p : Purpose}

theorem Purpose.Valid.wallet (h : p.Valid) : '|' ∉ p.wallet.toList := by
  cases p with
  | signIn wallet keyType network =>
    cases keyType with
    | other name => cases h
    | _ => exact bar_not_mem_of_strkey h
  | deploy keyRef keyType network =>
    cases keyType with
    | delegated =>
      simp only [Purpose.Valid, validateKeyRef] at h
      split_ifs at h with hsome
      exact bar_not_mem_of_strkey hsome
    | unsupported name => cases h
    | _ =>
      simp only [Purpose.Valid, validateKeyRef] at h
      split_ifs at h
      exact bar_not_mem_of_hex h
  | lookup => exact List.not_mem_nil

theorem Purpose.Valid.keyType (h : p.Valid) : '|' ∉ p.keyType.toList := by
  have hed : '|' ∉ "ed25519".toList := by decide
  have hpasskey : '|' ∉ "passkey".toList := by decide
  have hwebauthn : '|' ∉ "webauthn".toList := by decide
  have hdelegated : '|' ∉ "delegated".toList := by decide
  cases p with
  | signIn wallet keyType network =>
    cases keyType with
    | ed25519 => exact hed
    | passkey => exact hpasskey
    | other name => cases h
  | deploy keyRef keyType network =>
    cases keyType with
    | ed25519 => exact hed
    | webauthn => exact hwebauthn
    | delegated => exact hdelegated
    | unsupported name => cases h
  | lookup => decide

theorem network_name_inj : ∀ {n n' : Network}, n.name = n'.name → n = n' := by
  rintro (_ | _) (_ | _) <;> decide

theorem deployNonceScope_inj : ∀ {n n' : Network}, deployNonceScope n = deployNonceScope n' → n = n' := by
  rintro (_ | _) (_ | _) <;> decide

theorem name_ne_deployNonceScope : ∀ n n' : Network, n.name ≠ deployNonceScope n' := by
  rintro (_ | _) (_ | _) <;> decide

theorem name_ne_lookupScope : ∀ n : Network, n.name ≠ passkeyLookupNonceScope := by
  rintro (_ | _) <;> decide

theorem deployNonceScope_ne_lookupScope : ∀ n : Network, deployNonceScope n ≠ passkeyLookupNonceScope := by
  rintro (_ | _) <;> decide

theorem walletKeyType_name_inj {w w' : String} {k k' : WalletKeyType}
    (hk : validWalletShape w k = true) (hk' : validWalletShape w' k' = true)
    (h : k.name = k'.name) : k = k' := by
  have hne : "ed25519" ≠ "passkey" := by decide
  cases k with
  | other name => cases hk
  | ed25519 =>
    cases k' with
    | other name => cases hk'
    | ed25519 => rfl
    | passkey => exact absurd h hne
  | passkey =>
    cases k' with
    | other name => cases hk'
    | ed25519 => exact absurd h.symm hne
    | passkey => rfl

theorem keyType_name_inj {r r' : String} {k k' : KeyType} (hk : validateKeyRef r k = .ok ())
    (hk' : validateKeyRef r' k' = .ok ()) (h : k.name = k'.name) : k = k' := by
  have hsupported : ∀ {k : KeyType} {r : String}, validateKeyRef r k = .ok () →
      k ∈ [KeyType.ed25519, .webauthn, .delegated] := by
    intro k r hv
    cases k with
    | unsupported name => cases hv
    | _ => simp
  have hinj : ∀ k ∈ [KeyType.ed25519, .webauthn, .delegated],
      ∀ k' ∈ [KeyType.ed25519, .webauthn, .delegated], k.name = k'.name → k = k' := by
    decide
  exact hinj k (hsupported hk) k' (hsupported hk') h

theorem Purpose.binding_inj {q : Purpose} (hp : p.Valid) (hq : q.Valid) (h : p.binding = q.binding) :
    p = q := by
  obtain ⟨hwallet, hkey, hscope⟩ :=
    bindNonce_inj hp.wallet hq.wallet hp.keyType hq.keyType h
  cases p with
  | signIn wallet keyType network =>
    cases q with
    | signIn wallet' keyType' network' =>
      rw [show wallet = wallet' from hwallet, walletKeyType_name_inj hp hq hkey,
        network_name_inj hscope]
    | deploy keyRef keyType' network' => exact absurd hscope (name_ne_deployNonceScope _ _)
    | lookup => exact absurd hscope (name_ne_lookupScope _)
  | deploy keyRef keyType network =>
    cases q with
    | signIn wallet' keyType' network' =>
      exact absurd hscope.symm (name_ne_deployNonceScope _ _)
    | deploy keyRef' keyType' network' =>
      rw [show keyRef = keyRef' from hwallet, keyType_name_inj hp hq hkey,
        deployNonceScope_inj hscope]
    | lookup => exact absurd hscope (deployNonceScope_ne_lookupScope _)
  | lookup =>
    cases q with
    | signIn wallet' keyType' network' => exact absurd hscope.symm (name_ne_lookupScope _)
    | deploy keyRef' keyType' network' =>
      exact absurd hscope.symm (deployNonceScope_ne_lookupScope _)
    | lookup => rfl

end LatchApi.Nonce
