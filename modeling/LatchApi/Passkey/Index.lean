import LatchApi.Store.Ops

namespace LatchApi.Passkey

open Lib Program Store

def webauthnPubKeyHexLen : Nat := 130

def publicKeyHex (keyDataHex : String) : String :=
  asciiText ((textBytes keyDataHex).take webauthnPubKeyHexLen)

def credentialIDHex (keyDataHex : String) : String :=
  asciiText ((textBytes keyDataHex).drop webauthnPubKeyHexLen)

inductive IndexError where
  | validation (message : String)
  | internal (context : String)
deriving DecidableEq

def isBase32 (c : Char) : Bool := decide ('A' ≤ c ∧ c ≤ 'Z') || decide ('2' ≤ c ∧ c ≤ '7')

def isContractAddress (s : String) : Bool :=
  s.toList.head? == some 'C' && s.length == 56 && (s.toList.drop 1).all isBase32

def credentialIDFromKeyData (keyDataHex : String) : Except IndexError String :=
  if keyDataHex.utf8ByteSize ≤ webauthnPubKeyHexLen then
    .error (.validation "key_data_hex too short to contain a credential id")
  else .ok (credentialIDHex keyDataHex)

def indexRow (keyDataHex smartAccountAddress label : String) (seq : Int) :
    Except IndexError PasskeyRow :=
  match credentialIDFromKeyData keyDataHex with
  | .error e => .error e
  | .ok credentialID =>
    if hexDecode keyDataHex = none then .error (.validation "key_data_hex must be hex")
    else if !isContractAddress smartAccountAddress then
      .error (.validation "smart_account_address is not a contract address")
    else .ok ⟨credentialID, keyDataHex, smartAccountAddress, label, seq⟩

def register (keyDataHex smartAccountAddress label : String) (seq : Int) :
    Program Op Res IndexError Unit := do
  let row ← ofExcept (indexRow keyDataHex smartAccountAddress label seq)
  match ← runWrite (.upsertPasskeyCredential row) with
  | .ok () => return ()
  | .error _ => .fail (.internal "upsert passkey credential")

variable {keyDataHex smartAccountAddress label : String}

theorem indexRow_ok {seq : Int} {row : PasskeyRow}
    (h : indexRow keyDataHex smartAccountAddress label seq = .ok row) :
    row = ⟨credentialIDHex keyDataHex, keyDataHex, smartAccountAddress, label, seq⟩ := by
  unfold indexRow credentialIDFromKeyData at h
  split at h
  · cases h
  rename_i credentialID hid
  split_ifs at hid h
  cases hid
  exact (Except.ok.inj h).symm

theorem obeys_register {g : Log Res → Op → Prop} {h : Log Res} {seq : Int}
    (hg : ∀ row, indexRow keyDataHex smartAccountAddress label seq = .ok row →
      g h (.write (.upsertPasskeyCredential row))) :
    Obeys (guarded g) h (register keyDataHex smartAccountAddress label seq)
      (fun h' _ => h ⊆ h') := by
  unfold register
  rw [obeys_bind, obeys_ofExcept]
  cases hrow : indexRow keyDataHex smartAccountAddress label seq with
  | error e => exact fun _ he => he
  | ok row =>
    refine obeys_perform_bind (hg row hrow) fun r _ => ?_
    cases r with
    | error e => exact .fail (List.subset_cons_self _ _)
    | ok _ => exact .ok (List.subset_cons_self _ _)

theorem runs_register {seq : Int} {s s' : Shared} :
    Runs exec (register keyDataHex smartAccountAddress label seq) s (.ok ()) s' ↔
      ∃ row db, indexRow keyDataHex smartAccountAddress label seq = .ok row ∧
        (Write.upsertPasskeyCredential row).apply s.db = some db ∧ s' = { s with db := db } := by
  unfold register
  simp only [runs_bind_ok, runs_ofExcept]
  constructor
  · rintro ⟨row, _, ⟨hrow, rfl⟩, answer, s₁, hwrite, hrest⟩
    cases answer with
    | error e => cases hrest.1
    | ok _ =>
      obtain ⟨-, rfl⟩ := hrest
      obtain ⟨db, hdb⟩ := (runs_runWrite_done _).mp hwrite
      exact ⟨row, db, hrow.symm, hdb⟩
  · rintro ⟨row, db, hrow, hdb⟩
    exact ⟨row, s, ⟨hrow.symm, rfl⟩, .ok (), s', (runs_runWrite_done _).mpr ⟨db, hdb⟩, rfl, rfl⟩

end LatchApi.Passkey
