import LatchApi.WebAuthn.Handlers
import LatchApi.WebAuthn.Specs

namespace LatchApi.WebAuthn

open Lib Program Store List Option

theorem runs_execute_ok (context : String) (w : Write) (u : Unit) (s s' : Shared) :
    Runs exec (execute context w) s (.ok u) s' ↔
      ∃ db, w.apply s.db = some db ∧ s' = { s with db := db } := by
  simp only [execute, runs_bind_ok, orInternal, runs_orFail]
  constructor
  · rintro ⟨r, s₁, h, rfl, rfl⟩
    exact (runs_runWrite_done w).mp h
  · intro h
    exact ⟨.ok (), s', (runs_runWrite_done w).mpr h, rfl, rfl⟩

theorem runs_parseUserID_ok (userID : Encoded Uuid) (uid : Uuid) (s s' : Shared) :
    Runs exec (parseUserID userID) s (.ok uid) s' ↔ userID.decode = some uid ∧ s' = s := by
  unfold parseUserID
  cases h : userID.decode <;> simp [eq_comm]

theorem runs_getActiveChallenge_ok (userID : Encoded Uuid) (purpose : Purpose)
    (ch : ChallengeRow) (s s' : Shared)
    (h : Runs exec (getActiveChallenge userID purpose) s (.ok ch) s') : s' = s := by
  simp only [getActiveChallenge, runs_bind_ok, runs_parseUserID_ok, runs_runQuery_ok] at h
  obtain ⟨uid, s₁, ⟨-, rfl⟩, found, s₂, ⟨rfl, -⟩, h⟩ := h
  cases found with
  | error e => simp at h
  | ok row =>
    simp only [runs_bind_ok, runs_now_ok, runs_ofExcept] at h
    obtain ⟨now, s₃, rfl, -, rfl⟩ := h
    rfl

variable (L : Libraries)

theorem runs_finishRegistration_ok (input : FinishRegistrationInput) (out : RegisteredCredential)
    (s s' : Shared) (h : Runs exec (finishRegistration L input) s (.ok out) s') :
    ∃ uid a id now, input.userID.decode = some uid ∧ input.presented L = some a ∧
      out = ⟨base64UrlEncode a.credentialID, a.rawPublicKey, a.cosePublicKey⟩ ∧
      s.db.credentials.upsert (registeredRow id uid a input.transports now)
        (registeredRow id uid a input.transports now).overwrite (fun _ => ⟨rfl, rfl⟩) =
          some s'.db.credentials := by
  simp only [finishRegistration, storeRegistration, consumeChallenge, runs_bind_ok, runs_ofExcept,
    runs_execute_ok, runs_parseUserID_ok, runs_newUUID_ok, runs_now_ok, pure_eq, runs_ok] at h
  obtain ⟨ch, s₁, hch, a, _, ⟨ha, rfl⟩, _, s₂, ⟨db₁, hdel, rfl⟩, uid, _, ⟨huid, rfl⟩, id, _, rfl,
    now, _, rfl, _, s₃, ⟨db₂, hup, rfl⟩, hout, rfl⟩ := h
  obtain rfl := runs_getActiveChallenge_ok _ _ _ _ _ hch
  cases hdel
  refine ⟨uid, a, id, now, huid, verifyRegistration_presented L input ch a ha.symm,
    Except.ok.inj hout, ?_⟩
  obtain ⟨t, ht, rfl⟩ := map_eq_some_iff.mp hup
  exact ht

theorem runs_finishAuthentication_ok (input : FinishAuthenticationInput)
    (out : AuthenticatedCredential) (s s' : Shared)
    (h : Runs exec (finishAuthentication L input) s (.ok out) s') :
    (∃ cred ∈ s.db.credentials.rows, cred.credentialID = out.credentialID ∧
      cred.userID = out.userID ∧ input.signedBy L cred.p256RawPublicKey = true) ∨
        ∀ r ∈ s.db.credentials.rows, r.credentialID ≠ out.credentialID := by
  simp only [finishAuthentication, runs_bind_ok, runs_ofExcept, runs_runQuery_ok] at h
  obtain ⟨ch, s₁, hch, authData, _, ⟨-, rfl⟩, found, _, ⟨rfl, hfound⟩, h⟩ := h
  obtain rfl := runs_getActiveChallenge_ok _ _ _ _ _ hch
  rcases found with (_ | _) | cred
  · right
    have hfree : Free (fun _ _ => True) fun _ => True := ⟨fun _ _ _ => trivial, fun _ _ _ h => h⟩
    obtain ⟨_, hid⟩ := Runs.outcome (obeys_adoptExternalPasskey (h := [])
      (R := fun _ out => out.credentialID = base64UrlEncode input.credentialID)
      (fun _ _ _ _ _ _ => ⟨trivial, rfl⟩) hfree hfree trivial fun _ _ => ⟨trivial, trivial⟩)
      exec_legal h
    rw [hid]
    rcases hfound with hf | ⟨pick, hf⟩
    · cases hf
    · exact no_credential_of_answer hf.symm
  · simp at h
  · left
    simp only [authenticateStored, runs_bind_ok, runs_ofExcept, runs_execute_ok, consumeChallenge,
      pure_eq, runs_ok] at h
    obtain ⟨_, _, ⟨hsig, -⟩, -, -, -, -, -, -, -, -, -, -, -, -, hout, -⟩ := h
    cases hout
    rcases hfound with hf | ⟨pick, hf⟩
    · cases hf
    · obtain ⟨hmem, hc⟩ := credential_of_answer hf.symm
      exact ⟨cred, hmem, hc, rfl, signedBy_of_requireSignature hsig.symm⟩

def CredentialRow.verification (r : CredentialRow) : Bytes × Bytes × Int :=
  (r.p256RawPublicKey, r.cosePublicKey, r.signCount)

theorem key_of_verification {r r' : CredentialRow}
    (h : CredentialRow.verification r' = CredentialRow.verification r) :
    r'.p256RawPublicKey = r.p256RawPublicKey :=
  congrArg Prod.fst h

def KeepsOthers (user : Uuid) (before after : Db) : Prop :=
  ∀ r ∈ before.credentials.rows, r.userID ≠ user → ∃ r' ∈ after.credentials.rows,
    r'.id = r.id ∧ r'.credentialID = r.credentialID ∧ r'.userID = r.userID ∧
      CredentialRow.verification r' = CredentialRow.verification r

/-- Whenever an authentication accepted in `after` returns another user for a
credential that user had before, it verified the key stored before. -/
def KeepsSignIns (user : Uuid) (before : Db) (after : Shared) : Prop :=
  ∀ input out s', Runs exec (finishAuthentication L input) after (.ok out) s' →
    ∀ r ∈ before.credentials.rows, r.credentialID = out.credentialID → r.userID = out.userID →
      r.userID ≠ user → input.signedBy L r.p256RawPublicKey = true

/-- The presented credential belongs to nobody else, or is stored already as presented. -/
def PresentsNoOthers (input : FinishRegistrationInput) (user : Uuid) (db : Db) : Prop :=
  ∀ a, input.presented L = some a → ∀ r ∈ db.credentials.rows,
    r.credentialID = base64UrlEncode a.credentialID → r.userID ≠ user →
      CredentialRow.verification r = (a.rawPublicKey, a.cosePublicKey, (a.signCount : Int))

section Registration

variable {L : Libraries} {input : FinishRegistrationInput} {user : Uuid} {s s' : Shared}
  {out : RegisteredCredential}

theorem keepsOthers_iff (huser : input.userID.decode = some user)
    (hrun : Runs exec (finishRegistration L input) s (.ok out) s') :
    KeepsOthers user s.db s'.db ↔ PresentsNoOthers L input user s.db := by
  obtain ⟨uid, a, id, now, huid, ha, -, hup⟩ := runs_finishRegistration_ok L input out s s' hrun
  obtain rfl : uid = user := some.inj (huid.symm.trans huser)
  have hmem := fun r => Table.mem_upsert (r := r) hup
  constructor
  · intro hkeep a' ha' r hr hc hne
    obtain rfl : a' = a := some.inj (ha'.symm.trans ha)
    obtain ⟨r', hr', hid, -, -, hver⟩ := hkeep r hr hne
    -- the conflicting row is overwritten in place, so it is the one found again
    have hover : (registeredRow id uid a' input.transports now).overwrite r ∈
        s'.db.credentials.rows := (hmem _).mpr (.inr (.inl ⟨r, hr, hc, rfl⟩))
    obtain rfl := Table.eq_of_pk_eq hover hr' hid.symm
    exact hver.symm
  · intro hpres r hr hne
    by_cases hc : r.credentialID = base64UrlEncode a.credentialID
    · refine ⟨_, (hmem _).mpr (.inr (.inl ⟨r, hr, hc, rfl⟩)), rfl, rfl, rfl, ?_⟩
      exact (hpres a ha r hr hc hne).symm
    · exact ⟨r, (hmem r).mpr (.inl ⟨hr, hc⟩), rfl, rfl, rfl, rfl⟩

theorem keepsSignIns (hkeep : KeepsOthers user s.db s'.db) : KeepsSignIns L user s.db s' := by
  intro input out s'' hrun r hr hc hu hne
  obtain ⟨r', hr', -, hc', -, hver⟩ := hkeep r hr hne
  have hkey : r'.p256RawPublicKey = r.p256RawPublicKey := key_of_verification hver
  rcases runs_finishAuthentication_ok L input out s' s'' hrun with ⟨cred, hmem, hcred, -, hsig⟩ | hnone
  · obtain rfl := Table.eq_of_uk_eq hmem hr' (hcred.trans (hc.symm.trans hc'.symm))
    rwa [hkey] at hsig
  · exact absurd (hc'.trans hc) (hnone r' hr')

/-- A registration accepted for `user` leaves the keys of all other users and their
sign-ins alone exactly when it does not present a credential of theirs anew. -/
theorem finishRegistration_keeps_others_iff (huser : input.userID.decode = some user)
    (hrun : Runs exec (finishRegistration L input) s (.ok out) s') :
    KeepsOthers user s.db s'.db ∧ KeepsSignIns L user s.db s' ↔
      PresentsNoOthers L input user s.db :=
  ⟨fun h => (keepsOthers_iff huser hrun).mp h.1, fun h =>
    have hkeep := (keepsOthers_iff huser hrun).mpr h
    ⟨hkeep, keepsSignIns hkeep⟩⟩

end Registration

namespace Sample

def bytesOf : (len n : Nat) → Bytes
  | 0, _ => []
  | len + 1, n => bytesOf len (n / 256) ++ [UInt8.ofNat n]

def ownerKey : Bytes :=
  bytesOf 33 0x040fa2df0a44b41789f95021045c8ae62067f4e34bc2712a2b42a44d3eec27de51 ++
    bytesOf 32 0x890b8e856b3118069f066ee3ed79c8af153389e46815dc0f35036fc36845b9fe

def intruderKey : Bytes :=
  bytesOf 33 0x04afc77d690e3351f178e598923c2fbac0e7ef26d46478ff093a541ff202ac7818 ++
    bytesOf 32 0xbd90a39bec72084338ad7a0723f80cea504bd2f62d3c27932aa97a7856160026

def credentialID : Bytes := bytesOf 16 0xa0a1a2a3a4a5a6a7a8a9aaabacadaeaf

def registrationChallenge : String := "AAECAwQFBgcICQoLDA0ODxAREhMUFRYXGBkaGxwdHh8"

def authenticationChallenge : String := "ICEiIyQlJicoKSorLC0uLzAxMjM0NTY3ODk6Ozw9Pj8"

def clientDataJSON (type challenge : String) : Bytes := textBytes
  ("\x7b\"type\":\"" ++ type ++ "\",\"challenge\":\"" ++ challenge ++
    "\",\"origin\":\"http://localhost:3000\"\x7d")

def rpIDHash : Bytes := bytesOf 32 0x49960de5880e8c687434170f6476605b8fe4aeb9a28632c7995cf3ba831d9763

def coseKey (key : Bytes) : Bytes :=
  bytesOf 10 0xa5010203262001215820 ++ (key.drop 1).take 32 ++ bytesOf 3 0x225820 ++ key.drop 33

def attestationObject (key : Bytes) : Bytes :=
  bytesOf 30 0xa363666d74646e6f6e656761747453746d74a06861757468446174615894 ++
    rpIDHash ++ [0x41, 0, 0, 0, 0] ++ List.replicate 16 0 ++ [0, 16] ++
    credentialID ++ coseKey key

def registrationBody (key : Bytes) : FinishRegistrationRequest where
  rawID := .of credentialID
  clientDataJSON := .of (clientDataJSON "webauthn.create" registrationChallenge)
  attestationObject := .of (attestationObject key)
  transports := []
  chromeExtensionID := ""
  extensionIDHeader := ""
  displayName := ""
  seq := 0
  callerCredentialID := ""

def authenticatorData : Bytes := rpIDHash ++ [0x01, 0, 0, 0, 0]

def signature : Bytes :=
  bytesOf 37 0x3045022100c050164cca112d456c527573305ec20bc80272587fbd50234971a5be1d1d4efd ++
    bytesOf 34 0x022072f2e187a561ca7947de63b3c37bbeb729ea0a58d9d1b94cb17ddaa0ad1e330c

def libraries : Libraries where
  unmarshalClientData b :=
    if b = clientDataJSON "webauthn.create" registrationChallenge then
      some ⟨"webauthn.create", registrationChallenge, "http://localhost:3000"⟩
    else if b = clientDataJSON "webauthn.get" authenticationChallenge then
      some ⟨"webauthn.get", authenticationChallenge, "http://localhost:3000"⟩
    else none
  unmarshalAttestation b :=
    if b = attestationObject ownerKey ∨ b = attestationObject intruderKey then
      some ⟨"none", b.drop 30⟩
    else none
  unmarshalCoseKey b :=
    if b = coseKey ownerKey ∨ b = coseKey intruderKey then
      some ⟨2, -7, 1, (b.drop 10).take 32, b.drop 45⟩
    else none
  marshalCoseKey key := coseKey (0x04 :: key.x ++ key.y)
  unmarshalFirst b := some (b.take 77)
  parseUrl u := some (if u = "http://localhost:3000" then ⟨"http", "localhost:3000"⟩ else ⟨"", ""⟩)
  onCurve key := key = ownerKey ∨ key = intruderKey
  verifyASN1 key digest sig := key = intruderKey ∧ sig = signature ∧
    digest = bytesOf 32 0xea0ef171969b181e4f654fc86eccd541ea6679c6a04cedd8a08ddb250987497e

def config : WebAuthnConfig where
  rpID := "localhost"
  origin := "http://localhost:3000"
  allowedExtensionIDs := []
  isDevelopment := false
  devTrustRequestHost := false
  allowedDevOrigins := []

def registration (user : Uuid) (key : Bytes) : FinishRegistrationInput where
  userID := .of user
  credentialID := credentialID
  clientDataJSON := clientDataJSON "webauthn.create" registrationChallenge
  attestationObject := attestationObject key
  transports := []
  chromeExtensionIDFromBody := ""
  extensionIDHeader := ""
  config := config

def authentication : FinishAuthenticationInput where
  userID := .of 2
  credentialID := credentialID
  clientDataJSON := clientDataJSON "webauthn.get" authenticationChallenge
  authenticatorData := authenticatorData
  signature := signature
  chromeExtensionIDFromBody := ""
  extensionIDHeader := ""
  config := config

def challenge (id : Uuid) (purpose : Purpose) (text : String) : ChallengeRow where
  id := id
  userID := some 2
  purpose := purpose
  challenge := text
  rpID := "localhost"
  origin := "http://localhost:3000"
  expiresAt := 300000
  createdAt := 0

def ownerRow : CredentialRow :=
  registeredRow 10 1 ⟨credentialID, coseKey ownerKey, ownerKey, 0⟩ [] 0

def shared : Shared where
  db := { Db.empty with
    challenges := ⟨[challenge 20 .registration registrationChallenge,
      challenge 21 .authentication authenticationChallenge], by decide, by decide⟩
    credentials := ⟨[ownerRow], List.nodup_singleton _, List.nodup_singleton _⟩ }
  nonces := []

theorem registration_accepted : ∃ out s' aout s'',
    Runs exec (finishRegistration libraries (registration 2 intruderKey)) shared (.ok out) s' ∧
    s'.db.credentials.rows.map CredentialRow.p256RawPublicKey = [intruderKey] ∧
    Runs exec (finishAuthentication libraries authentication) s' (.ok aout) s'' ∧
    aout.userID = 1 := by
  have h : ((play exec (finishRegistration libraries (registration 2 intruderKey)) shared
      (replicate 6 { uuid := 11 })).bind fun r =>
        (play exec (finishAuthentication libraries authentication) r.2 (replicate 6 {})).map
          fun r' => (r.1.toOption.isSome, r.2.db.credentials.rows.map CredentialRow.p256RawPublicKey,
            r'.1.toOption.map AuthenticatedCredential.userID)) =
      some (true, [intruderKey], some 1) := by
    decide +kernel
  obtain ⟨⟨out, s'⟩, hreg, h⟩ := bind_eq_some_iff.mp h
  obtain ⟨⟨aout, s''⟩, hauth, h⟩ := map_eq_some_iff.mp h
  simp only [Prod.mk.injEq] at h
  obtain ⟨hout, hrows, haout⟩ := h
  cases out with
  | error e => cases hout
  | ok out =>
    cases aout with
    | error e => cases haout
    | ok aout => exact ⟨out, s', aout, s'', play_sound _ _ _ _ _ hreg, hrows,
        play_sound _ _ _ _ _ hauth, some.inj haout⟩

theorem finishRegistration_keeps_others_iff_accepted : ∃ out s',
    Runs exec (finishRegistration libraries (registration 2 intruderKey)) shared (.ok out) s' ∧
    (KeepsOthers 2 shared.db s'.db ∧ KeepsSignIns libraries 2 shared.db s' ↔
      PresentsNoOthers libraries (registration 2 intruderKey) 2 shared.db) := by
  obtain ⟨out, s', -, -, hrun, -⟩ := registration_accepted
  exact ⟨out, s', hrun, finishRegistration_keeps_others_iff rfl hrun⟩

theorem finishRegistration_takes_over : ∃ out s' aout s'',
    Runs exec (finishRegistration libraries (registration 2 intruderKey)) shared (.ok out) s' ∧
    ¬ KeepsOthers 2 shared.db s'.db ∧
    Runs exec (finishAuthentication libraries authentication) s' (.ok aout) s'' ∧
    aout.userID = 1 ∧ authentication.signedBy libraries ownerKey = false := by
  obtain ⟨out, s', aout, s'', hreg, hrows, hauth, huser⟩ := registration_accepted
  refine ⟨out, s', aout, s'', hreg, fun hkeep => ?_, hauth, huser, by decide +kernel⟩
  obtain ⟨r', hr', -, -, -, hver⟩ := hkeep ownerRow (mem_singleton_self _)
    (show (1 : Uuid) ≠ 2 by decide)
  have hkey : r'.p256RawPublicKey = ownerRow.p256RawPublicKey := key_of_verification hver
  have hmem : r'.p256RawPublicKey ∈ [intruderKey] := hrows ▸ mem_map_of_mem hr'
  rw [hkey, mem_singleton] at hmem
  exact absurd hmem (by decide +kernel)

end Sample

end LatchApi.WebAuthn
