import LatchApi.Factory.KeyData
import LatchApi.Nonce.Flows

/-!
What depends on how the hexadecimal text of a key data is spelled: the salt of the account is a hash
of the text, and the recovery index has the digits of the credential id as they were sent, while
sign-in asks for them in lower case.
-/

namespace LatchApi.Deploy

open Lib Program Store Passkey WebAuthn
open Factory (Predicts Deploys exists_apart)
open Nonce (lookup verifyLookup ofProof passkeyLookupNonceKeyType passkeyLookupNonceScope)

def credentialIDBytes (keyData : Bytes) : Bytes := keyData.drop 65

/-- A lookup and an adoption of the credential id both go on with this row. -/
structure Finds (s : Shared) (credentialID : Bytes) (row : PasskeyRow) : Prop where
  adopted : ∀ L input challenge authData credentialIDB64 out s', input.credentialID = credentialID →
    (Runs Store.exec (adoptExternalPasskey L input challenge authData credentialIDB64) s out s' ↔
      Runs Store.exec (adoptIndexed L input challenge authData credentialIDB64 row) s out s' ∨
        (out = .error (.internal "get passkey credential index") ∧ s' = s))
  lookedUp : ∀ draw L cfg input drawn row' w, input.credentialID = hexEncode credentialID →
    (Runs (Nonce.exec draw) (lookup L cfg input) ⟨s, drawn⟩ (.ok row') w ↔
      row' = row ∧ verifyLookup L cfg input row = .ok () ∧
        Runs (Nonce.exec draw) (ofProof (consumeNonce input.nonceHex "" passkeyLookupNonceKeyType
          passkeyLookupNonceScope)) ⟨s, drawn⟩ (.ok ()) w)

/-- The service knows key data by its bytes: the account is the same for both spellings, and a
credential id that was registered is found by its bytes. -/
structure SpellingFree (h₁ h₂ : String) (keyData : Bytes) : Prop where
  predicted : ∀ F cfg a₁ a₂, Predicts F cfg h₁ a₁ → Predicts F cfg h₂ a₂ → a₁ = a₂
  deployed : ∀ F cfg a₁ a₂, Deploys F cfg h₁ a₁ → Deploys F cfg h₂ a₂ → a₁ = a₂
  found : ∀ address label seq s s',
    Runs Store.exec (register h₁ address label seq) s (.ok ()) s' →
    Finds s' (credentialIDBytes keyData) ⟨credentialIDHex h₁, h₁, address, label, seq⟩

def Collide (h₁ h₂ : String) : Prop :=
  h₁ ≠ h₂ ∧ sha256 (textBytes (h₁ ++ "webauthn-v1")) = sha256 (textBytes (h₂ ++ "webauthn-v1"))

variable {draw : Nat → Bytes} {w : Nonce.State}

section Reads

variable {s : Shared} {credentialID : Bytes} {row : PasskeyRow}

theorem runs_adoptExternalPasskey {L : Libraries} {input : FinishAuthenticationInput}
    {challenge : ChallengeRow} {authData : AuthenticatorData} {credentialIDB64 : String}
    {out : Except CeremonyError AuthenticatedCredential} {s' : Shared}
    (hrow : (s.db.passkeys.find fun r => r.credentialID == hexEncode input.credentialID) = some row) :
    Runs Store.exec (adoptExternalPasskey L input challenge authData credentialIDB64) s out s' ↔
      Runs Store.exec (adoptIndexed L input challenge authData credentialIDB64 row) s out s' ∨
        (out = .error (.internal "get passkey credential index") ∧ s' = s) := by
  unfold adoptExternalPasskey
  rw [runs_runQuery_bind]
  simp only [Query.answer, hrow, orNoRows, orError]
  constructor
  · rintro ⟨pick, fault, h⟩
    split_ifs at h
    · exact .inl h
    · exact .inr h
  · rintro (h | h)
    · exact ⟨0, .none, h⟩
    · exact ⟨0, .before, h⟩

theorem nonce_exec_db (draw : Nat → Bytes) {op : Op} (hop : op.effects = []) (w : Nonce.State)
    (c : Nonce.Choice) : (Nonce.exec draw (.store op) w c).2.shared.db = w.shared.db := by
  have hdb : (exec op w.shared c.store).2.db = w.shared.db := by
    rcases exec_db op w.shared c.store with h | h
    · exact h
    · rw [hop] at h
      exact (Option.some.inj h).symm
  cases op with
  | random n => rfl
  | _ => exact hdb

theorem db_of_silent {α : Type} {p : ProofService α} {w' : Nonce.State}
    {out : Except Nonce.FlowError α} (hp : Always (fun op => op.effects = []) p)
    (h : Runs (Nonce.exec draw) (ofProof p) w out w') : w'.shared.db = w.shared.db := by
  induction p generalizing w with
  | ok a => rw [h.2]
  | fail e => rw [h.2]
  | call op next ih =>
    obtain ⟨c, h⟩ := h
    exact (ih _ (hp.2 _) h).trans (nonce_exec_db draw hp.1 w c)

theorem silent_consumeNonce (nonceHex wallet keyType scope : String) :
    Always (fun op => op.effects = []) (consumeNonce nonceHex wallet keyType scope) := by
  refine ⟨rfl, fun r => ?_⟩
  rcases r with (_ | _) | stored
  · trivial
  · trivial
  change Always _ (ofExcept (boundTo _ stored))
  cases boundTo (bindNonce wallet keyType scope) stored with
  | _ => trivial

theorem runs_flow_read {ε α : Type} {q : Query}
    {f : Except DbError q.Answer → Program Nonce.FlowOp Nonce.FlowRes ε α} {w' : Nonce.State}
    {out : Except ε α} :
    Runs (Nonce.exec draw) (perform (Nonce.FlowOp.store (.read q)) >>= f) w out w' ↔
      ∃ pick fault, Runs (Nonce.exec draw)
        (f (if fault = Fault.none then q.answer w.shared.db pick else .error .failed)) w out w' := by
  constructor
  · rintro ⟨c, h⟩
    exact ⟨c.store.pick, c.store.fault, h⟩
  · rintro ⟨pick, fault, h⟩
    exact ⟨{ store := { pick, fault } }, h⟩

theorem runs_lookup {L : Libraries} {cfg : DeployConfig} {input : Nonce.PasskeyLookup} {drawn : Nat}
    {row' : PasskeyRow}
    (hrow : (s.db.passkeys.find fun r => r.credentialID == input.credentialID) = some row) :
    Runs (Nonce.exec draw) (lookup L cfg input) ⟨s, drawn⟩ (.ok row') w ↔
      row' = row ∧ verifyLookup L cfg input row = .ok () ∧
        Runs (Nonce.exec draw) (ofProof (consumeNonce input.nonceHex "" passkeyLookupNonceKeyType
          passkeyLookupNonceScope)) ⟨s, drawn⟩ (.ok ()) w := by
  unfold lookup
  rw [runs_bind_ok]
  constructor
  · rintro ⟨answer, w₁, hattempt, hrest⟩
    obtain ⟨taken, heq, htaken⟩ := (runs_attempt _ _ _ _).mp hattempt
    cases heq
    cases answer with
    | error e => cases hrest.1
    | ok _ =>
      -- the index read after the nonce was taken is the one before it
      have hdb := db_of_silent (silent_consumeNonce _ _ _ _) htaken
      obtain ⟨pick, fault, hrest⟩ := runs_flow_read.mp hrest
      rw [Query.answer, hdb, hrow] at hrest
      split_ifs at hrest
      · obtain ⟨_, w₂, hverify, hok, rfl⟩ := (runs_bind_ok _ _ _ _ _).mp hrest
        obtain ⟨hverified, rfl⟩ := (runs_ofExcept _ _ _ _).mp hverify
        exact ⟨Except.ok.inj hok, hverified.symm, htaken⟩
      · cases hrest.1
  · rintro ⟨rfl, hverify, htaken⟩
    have hdb := db_of_silent (silent_consumeNonce _ _ _ _) htaken
    refine ⟨_, w, (runs_attempt _ _ _ _).mpr ⟨_, rfl, htaken⟩,
      runs_flow_read.mpr ⟨0, .none, ?_⟩⟩
    rw [if_pos rfl, Query.answer, hdb, hrow]
    exact (runs_bind_ok _ _ _ _ _).mpr
      ⟨(), w, (runs_ofExcept _ _ _ _).mpr ⟨hverify.symm, rfl⟩, rfl, rfl⟩

theorem finds_of_find
    (hrow : (s.db.passkeys.find fun r => r.credentialID == hexEncode credentialID) = some row) :
    Finds s credentialID row where
  adopted _ _ _ _ _ _ _ hid := runs_adoptExternalPasskey (hid ▸ hrow)
  lookedUp _ _ _ _ _ _ _ hid := runs_lookup (hid ▸ hrow)

theorem runs_adoptIndexed_refused (input : FinishAuthenticationInput) (challenge : ChallengeRow)
    (authData : AuthenticatorData) (credentialIDB64 : String) (row : PasskeyRow) (s : Shared) :
    ∃ reason, Runs Store.exec
      (adoptIndexed noLibraries input challenge authData credentialIDB64 row) s
      (.error (.verificationFailed reason)) s := by
  unfold adoptIndexed indexedPublicKey
  split
  · exact ⟨_, rfl, rfl⟩
  split
  · exact ⟨_, rfl, rfl⟩
  rename_i pubKey _
  have hsigned : requireSignature noLibraries input pubKey =
      .error (.verificationFailed "signature verification failed") := by
    simp [requireSignature, FinishAuthenticationInput.signedBy, verifyP256Signature, noLibraries]
  refine ⟨"signature verification failed", ?_⟩
  change Runs exec (ofExcept (requireSignature noLibraries input pubKey) >>= _) s _ s
  rw [hsigned]
  exact ⟨rfl, rfl⟩

theorem Finds.exists_row (h : Finds s credentialID row) :
    ∃ row', (s.db.passkeys.find fun r => r.credentialID == hexEncode credentialID) = some row' := by
  let input : FinishAuthenticationInput :=
    ⟨.malformed "", credentialID, [], [], [], "", "", ⟨"", "", [], false, false, []⟩⟩
  let challenge : ChallengeRow := ⟨0, none, .authentication, "", "", "", 0, 0⟩
  let authData : AuthenticatorData := ⟨[], 0, 0, [], []⟩
  obtain ⟨reason, hrefused⟩ := runs_adoptIndexed_refused input challenge authData "" row s
  have hrun := (h.adopted noLibraries input challenge authData "" _ _ rfl).mpr (.inl hrefused)
  obtain ⟨pick, fault, hrun⟩ := runs_runQuery_bind.mp hrun
  split_ifs at hrun
  · cases hfind : s.db.passkeys.find fun r => r.credentialID == hexEncode credentialID with
    | none =>
      rw [Query.answer, show input.credentialID = credentialID from rfl, hfind] at hrun
      cases hrun.1
    | some row' => exact ⟨row', rfl⟩
  · cases hrun.1

end Reads

section Spelling

variable {h₁ h₂ : String} {keyData : Bytes}

theorem toLower_credentialIDHex (h : hexDecode h₁ = some keyData) :
    toLower (credentialIDHex h₁) = hexEncode (credentialIDBytes keyData) := by
  have hdecode : hexDecode (credentialIDHex h₁) = some (credentialIDBytes keyData) :=
    hexDecode_drop h 65
  rw [← toLower_hexEncode_iff.mpr hdecode, toLower_hexEncode]

theorem indexRow_of_accepted {address label : String} {seq : Int}
    (haccepted : checkKeyData h₁ = .ok ()) (haddress : isContractAddress address = true) :
    indexRow h₁ address label seq = .ok ⟨credentialIDHex h₁, h₁, address, label, seq⟩ := by
  unfold checkKeyData at haccepted
  split_ifs at haccepted with hlong hhex
  have hid : credentialIDFromKeyData h₁ = .ok (credentialIDHex h₁) := by
    apply if_neg
    simp only [minWebauthnKeyDataHexLen, webauthnPubKeyHexLen] at hlong ⊢
    omega
  have hsome : hexDecode h₁ ≠ none := by simpa using hhex
  rw [indexRow, hid]
  simp [hsome, haddress]

theorem find_of_register {address label : String} {seq : Int} {s s' : Shared}
    (hrun : Runs Store.exec (register h₁ address label seq) s (.ok ()) s') (credentialID : String) :
    (s'.db.passkeys.find fun r => r.credentialID == credentialID) =
      if credentialIDHex h₁ = credentialID then some ⟨credentialIDHex h₁, h₁, address, label, seq⟩
      else s.db.passkeys.find fun r => r.credentialID == credentialID := by
  obtain ⟨row, db, hrow, happly, rfl⟩ := runs_register.mp hrun
  obtain rfl := indexRow_ok hrow
  obtain ⟨t, ht, rfl⟩ := Option.map_eq_some_iff.mp happly
  rw [Table.find_upsert ht]
  split
  · rename_i heq
    cases hfind : s.db.passkeys.find fun r => r.credentialID == credentialID with
    | none => rfl
    | some old =>
      have hold : old.credentialID = credentialID := by simpa using (Table.mem_of_find hfind).2
      have hkey : credentialIDHex h₁ = old.credentialID := heq.trans hold.symm
      rw [Option.elim_some, PasskeyRow.overwrite, ← hkey]
  · rfl

theorem exists_registered (haccepted : checkKeyData h₁ = .ok ()) :
    ∃ address label seq s', Runs Store.exec (register h₁ address label seq) ⟨Db.empty, []⟩ (.ok ())
      s' := by
  let address := "CAAAAAAAAAAAAAAAAAAAAAAAAAAAAAAAAAAAAAAAAAAAAAAAAAAAAAAA"
  let row : PasskeyRow := ⟨credentialIDHex h₁, h₁, address, "", 0⟩
  obtain ⟨t, ht⟩ := Table.exists_upsert Db.empty.passkeys row row.overwrite fun _ => ⟨rfl, rfl⟩
  refine ⟨address, "", 0, ⟨{ Db.empty with passkeys := t }, []⟩, runs_register.mpr
    ⟨row, _, indexRow_of_accepted haccepted (by decide +kernel), ?_, rfl⟩⟩
  rw [Write.apply, ht]
  rfl

theorem exists_lost (hdecode : hexDecode h₁ = some keyData) (haccepted : checkKeyData h₁ = .ok ())
    (hcapital : toLower (credentialIDHex h₁) ≠ credentialIDHex h₁) :
    ∃ address label seq s s', Runs Store.exec (register h₁ address label seq) s (.ok ()) s' ∧
      ∀ row, ¬ Finds s' (credentialIDBytes keyData) row := by
  obtain ⟨address, label, seq, s', hrun⟩ := exists_registered haccepted
  refine ⟨address, label, seq, _, s', hrun, fun row hfinds => ?_⟩
  obtain ⟨row', hrow'⟩ := hfinds.exists_row
  rw [find_of_register hrun, if_neg] at hrow'
  · cases hrow'
  · rw [← toLower_credentialIDHex hdecode]
    exact hcapital.symm

/-- Key data is known by its bytes for one spelling, with the credential id in lower case. -/
theorem spellingFree_iff (hdecode₁ : hexDecode h₁ = some keyData)
    (hdecode₂ : hexDecode h₂ = some keyData) (haccepted : checkKeyData h₁ = .ok ()) :
    SpellingFree h₁ h₂ keyData ↔
      (h₁ = h₂ ∨ Collide h₁ h₂) ∧ toLower (credentialIDHex h₁) = credentialIDHex h₁ := by
  constructor
  · intro h
    refine ⟨?_, ?_⟩
    · by_contra hapart
      rw [not_or] at hapart
      have hsalt : deriveWebauthnSalt h₁ ≠ deriveWebauthnSalt h₂ := fun heq =>
        hapart.2 ⟨hapart.1, heq⟩
      obtain ⟨F, cfg, a₁, a₂, hdeploy₁, hdeploy₂, hne⟩ := exists_apart hdecode₁ hdecode₂ hsalt
      exact hne (h.deployed F cfg a₁ a₂ hdeploy₁ hdeploy₂)
    · by_contra hcapital
      obtain ⟨address, label, seq, s, s', hrun, hlost⟩ := exists_lost hdecode₁ haccepted hcapital
      exact hlost _ (h.found address label seq s s' hrun)
  · rintro ⟨hspelling, hlower⟩
    have hsalt : deriveWebauthnSalt h₁ = deriveWebauthnSalt h₂ := by
      rcases hspelling with rfl | hcollide
      · rfl
      · exact hcollide.2
    have hdecode : hexDecode h₁ = hexDecode h₂ := hdecode₁.trans hdecode₂.symm
    refine ⟨fun F cfg a₁ a₂ h₁ h₂ => h₁.unique hdecode hsalt h₂, fun F cfg a₁ a₂ h₁ h₂ =>
      h₁.predicts.unique hdecode hsalt h₂.predicts, fun address label seq s s' hrun => ?_⟩
    apply finds_of_find
    rw [find_of_register hrun, if_pos]
    rw [← toLower_credentialIDHex hdecode₁, hlower]

end Spelling

namespace Sample

def passkeyBytes : Bytes := 4 :: List.replicate 65 0xab

def lowerText : String := hexEncode passkeyBytes

def upperText : String := String.ofList ((hexChars passkeyBytes).map Char.toUpper)

theorem hexDecode_upperText : hexDecode upperText = some passkeyBytes := by decide +kernel

theorem accepted_upperText : checkKeyData upperText = .ok () := by decide +kernel

theorem one_spelling_found : SpellingFree lowerText lowerText passkeyBytes := by
  have hdecode : hexDecode lowerText = some passkeyBytes := hexDecode_hexEncode passkeyBytes
  rw [spellingFree_iff hdecode hdecode (by decide +kernel)]
  refine ⟨.inl rfl, ?_⟩
  decide +kernel

theorem two_spellings_apart :
    hexDecode upperText = hexDecode lowerText ∧ checkKeyData upperText = .ok () ∧
    checkKeyData lowerText = .ok () ∧
    (∃ F cfg a₁ a₂, Deploys F cfg upperText a₁ ∧ Deploys F cfg lowerText a₂ ∧ a₁ ≠ a₂) ∧
    ∃ address label seq s s', Runs Store.exec (register upperText address label seq) s (.ok ()) s' ∧
      ∀ row, ¬ Finds s' (credentialIDBytes passkeyBytes) row := by
  have hdecode : hexDecode lowerText = some passkeyBytes := hexDecode_hexEncode passkeyBytes
  refine ⟨hexDecode_upperText.trans hdecode.symm, accepted_upperText, by decide +kernel,
    exists_apart hexDecode_upperText hdecode ?_, exists_lost hexDecode_upperText accepted_upperText ?_⟩
  · decide +kernel
  · decide +kernel

end Sample

end LatchApi.Deploy
