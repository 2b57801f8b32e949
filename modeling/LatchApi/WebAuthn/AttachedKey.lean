import LatchApi.Lib.HexText
import LatchApi.Store.Effects
import LatchApi.WebAuthn.Takeover

/-!
The key data of an attached signer. The reply has the id that the client sent beside the public key
of the attestation object, the stored row has the id of the attestation object.
-/

namespace LatchApi.WebAuthn

open Lib Program Store List Option

def getCredentialKeyDataHex (credentialID : String) : Service String := do
  match ← runQuery (.getWebauthnCredentialByCredentialID credentialID) with
  | .error _ => .fail (.internal ("get webauthn credential " ++ credentialID))
  | .ok cred =>
    if cred.p256RawPublicKey = [] then
      .fail (.internal ("credential " ++ credentialID ++ " has no stored P-256 public key"))
    else return buildKeyDataHex cred.p256RawPublicKey cred.credentialIDBytes

/-- Whatever is read for the credential's key data is this text, and it can be read. -/
def ReadsBack (s : Shared) (credentialID keyDataHex : String) : Prop :=
  ∀ text s', Runs exec (getCredentialKeyDataHex credentialID) s (.ok text) s' ↔
    text = keyDataHex ∧ s' = s

/-- The bytes kept for the id of an attested credential: an older row keeps its own. -/
def storedID (db : Db) (a : AttestedCredential) : Bytes :=
  match db.storedCredential (base64UrlEncode a.credentialID) with
  | some row => row.credentialIDBytes
  | none => a.credentialID

section ReadBack

variable {s s' : Shared} {credentialID : String}

theorem runs_getCredentialKeyDataHex {text : String} :
    Runs exec (getCredentialKeyDataHex credentialID) s (.ok text) s' ↔
      s' = s ∧ ∃ row, s.db.storedCredential credentialID = some row ∧ row.p256RawPublicKey ≠ [] ∧
        text = buildKeyDataHex row.p256RawPublicKey row.credentialIDBytes := by
  unfold getCredentialKeyDataHex
  rw [runs_bind_ok]
  constructor
  · rintro ⟨found, s₁, hread, h⟩
    obtain ⟨rfl, hfound⟩ := (runs_runQuery_ok _ _).mp hread
    cases found with
    | error e => cases h.1
    | ok row =>
      have hrow : s₁.db.storedCredential credentialID = some row := by
        rcases hfound with hfound | ⟨pick, hfound⟩
        · cases hfound
        · exact orError_eq_ok.mp hfound.symm
      by_cases hkey : row.p256RawPublicKey = []
      · simp only [hkey, if_true] at h
        cases h.1
      · simp only [hkey, if_false] at h
        exact ⟨h.2, row, hrow, hkey, Except.ok.inj h.1⟩
  · rintro ⟨rfl, row, hrow, hkey, rfl⟩
    refine ⟨.ok row, s', (runs_runQuery_ok _ _).mpr ⟨rfl, .inr ⟨0, ?_⟩⟩, ?_⟩
    · exact (orError_eq_ok.mpr hrow).symm
    · simp only [hkey, if_false]
      exact ⟨rfl, rfl⟩

theorem readsBack_iff {row : CredentialRow} {keyDataHex : String}
    (hrow : s.db.storedCredential credentialID = some row) (hkey : row.p256RawPublicKey ≠ []) :
    ReadsBack s credentialID keyDataHex ↔
      buildKeyDataHex row.p256RawPublicKey row.credentialIDBytes = keyDataHex := by
  have hruns : ∀ text s', Runs exec (getCredentialKeyDataHex credentialID) s (.ok text) s' ↔
      s' = s ∧ text = buildKeyDataHex row.p256RawPublicKey row.credentialIDBytes := by
    intro text s'
    rw [runs_getCredentialKeyDataHex, hrow]
    simp [hkey]
  simp only [ReadsBack, hruns]
  constructor
  · intro h
    exact ((h _ s).mp ⟨rfl, rfl⟩).1
  · rintro rfl text s'
    exact and_comm

theorem buildKeyDataHex_inj {key id id' : Bytes} :
    buildKeyDataHex key id = buildKeyDataHex key id' ↔ id = id' := by
  constructor
  · intro h
    apply hexEncode_injective
    have hlist := congrArg String.toList h
    simp only [buildKeyDataHex, String.toList_append] at hlist
    exact String.toList_injective (append_cancel_left hlist)
  · rintro rfl
    rfl

end ReadBack

section Attach

variable {L : Libraries} {cfg : WebAuthnConfig} {ctx : SessionContext}
  {smartAccountAddress : String} {body : Option FinishRegistrationRequest}
  {cred : RegisteredCredential} {keyDataHex : String} {s s' : Shared}
  {input : FinishRegistrationInput}

def LeavesCredentials (op : Op) : Prop := ∀ w ∈ op.effects, ∀ c v, w.onCredential c v = v

theorem storedCredential_of_leaves {op : Op} (hop : LeavesCredentials op) (s : Shared) (ch : Choice)
    (c : String) : (exec op s ch).2.db.storedCredential c = s.db.storedCredential c := by
  have hfold : ∀ (ws : List Write) v, (∀ w ∈ ws, ∀ c v, w.onCredential c v = v) →
      ws.foldl (fun v w => w.onCredential c v) v = v := by
    intro ws v hws
    induction ws with
    | nil => rfl
    | cons w ws ih =>
      rw [foldl_cons, hws w mem_cons_self]
      exact ih fun w hw => hws w (mem_cons_of_mem _ hw)
  rcases storedCredential_of_exec op s ch c with h | h
  · exact h
  · rw [h, hfold _ _ hop]

theorem leaves_of_silent {op : Op} (h : op.effects = []) : LeavesCredentials op := by
  intro w hw
  rw [h] at hw
  cases hw

theorem leaves_hasProvedCredential (sessionID : Uuid) (credentialID : String) :
    Always LeavesCredentials (hasProvedCredential sessionID credentialID) := by
  unfold hasProvedCredential
  split
  · trivial
  · refine ⟨leaves_of_silent rfl, fun r => ?_⟩
    cases r <;> trivial

theorem leaves_requireProvedSigner (ctx : SessionContext)
    (callerCredentialID smartAccountAddress : String) :
    Always LeavesCredentials (requireProvedSigner ctx callerCredentialID smartAccountAddress) := by
  unfold requireProvedSigner
  split
  · trivial
  refine (leaves_hasProvedCredential _ _).attempt.bind fun proved => ?_
  match proved with
  | .error _ => trivial
  | .ok false => trivial
  | .ok true =>
    refine ⟨leaves_of_silent rfl, fun answer => ?_⟩
    rcases answer with e | (_ | _)
    · trivial
    · trivial
    · trivial

theorem leaves_addProvedCredential (sessionID : Uuid) (credentialID : String) :
    Always LeavesCredentials (addProvedCredential sessionID credentialID) := by
  refine ⟨leaves_of_silent rfl, fun now => ⟨fun w hw c v => ?_, fun r => always_orFail _ r⟩⟩
  obtain rfl := mem_singleton.mp hw
  rfl

theorem storedCredential_of_runs {ε α : Type} {p : Program Op Res ε α} {out : Except ε α}
    (hp : Always LeavesCredentials p) (hrun : Runs exec p s out s') (c : String) :
    s'.db.storedCredential c = s.db.storedCredential c :=
  hp.runs_proj (fun s => s.db.storedCredential c)
    (fun _ s ch hop => storedCredential_of_leaves hop s ch c) hrun

theorem runs_finishRegistrationOrFail
    (hrun : Runs exec (finishRegistrationOrFail L input) s (.ok cred) s') :
    Runs exec (finishRegistration L input) s (.ok cred) s' := by
  obtain ⟨answer, s₁, hattempt, hrest⟩ := (runs_bind_ok _ _ _ _ _).mp hrun
  obtain ⟨o, heq, hfinish⟩ := (runs_attempt _ _ _ _).mp hattempt
  cases heq
  cases answer with
  | error e => cases hrest.1
  | ok cred' =>
    obtain ⟨hcred, rfl⟩ := hrest
    cases hcred
    exact hfinish

theorem stored_of_attachSignerFinish
    (hrun : Runs exec (attachSignerFinish L cfg ctx smartAccountAddress body) s
      (.ok (.attached cred keyDataHex)) s') :
    ∃ req input a row, body = some req ∧ registrationInput cfg ctx req = .ok input ∧
      input.presented L = some a ∧ s'.db.storedCredential cred.credentialID = some row ∧
      row.p256RawPublicKey = a.rawPublicKey ∧ row.credentialIDBytes = storedID s.db a ∧
      keyDataHex = buildKeyDataHex a.rawPublicKey input.credentialID := by
  unfold attachSignerFinish at hrun
  simp only [runs_bind_ok, runs_ofExcept, callOrFail, runs_orFail] at hrun
  obtain ⟨req, s₀, ⟨hbody, rfl⟩, _, s₁, hproved, input, s₂, ⟨hinput, rfl⟩, cred', s₄, hfinish,
    _, s₅, hattach, _, s₆, ⟨-, rfl⟩, _, s₇, hadded, hreply, rfl⟩ := hrun
  obtain ⟨rfl, rfl⟩ := Reply.attached.inj (Except.ok.inj hreply)
  obtain ⟨uid, a, id, now, -, ha, rfl, hup⟩ :=
    runs_finishRegistration_ok _ _ _ _ _ (runs_finishRegistrationOrFail hfinish)
  let row := registeredRow id uid a input.transports now
  let c := base64UrlEncode a.credentialID
  have hid : row.credentialID = c := rfl
  have hstored : s'.db.storedCredential c =
      some ((s₀.db.storedCredential c).elim row row.overwrite) := calc
    s'.db.storedCredential c = s₆.db.storedCredential c :=
      storedCredential_of_runs (leaves_addProvedCredential _ _).attempt hadded c
    _ = s₄.db.storedCredential c := storedCredential_of_runs
      (p := attachCredential _ _ _) ⟨leaves_of_silent rfl, fun _ => trivial⟩ hattach c
    _ = some ((s₂.db.storedCredential c).elim row row.overwrite) :=
      (Table.find_upsert hup c).trans (if_pos hid)
    _ = some ((s₀.db.storedCredential c).elim row row.overwrite) := by
      rw [storedCredential_of_runs (leaves_requireProvedSigner _ _ _) hproved c]
  have hbody' : body = some req := by
    cases body with
    | none => cases hbody
    | some req' => rw [Except.ok.inj hbody]
  refine ⟨req, input, a, _, hbody', hinput.symm, ha, hstored, ?_, ?_, rfl⟩
  · cases s₀.db.storedCredential c <;> rfl
  change _ = (match s₀.db.storedCredential c with
    | some row => row.credentialIDBytes
    | none => a.credentialID)
  cases s₀.db.storedCredential c <;> rfl

theorem rawPublicKey_ne_nil {a : AttestedCredential}
    (h : input.presented L = some a) : a.rawPublicKey ≠ [] := by
  unfold FinishRegistrationInput.presented at h
  split at h
  · cases h
  rename_i authData _
  unfold attestedCredential at h
  cases hcose : coseEC2ToRawP256Uncompressed L authData.credentialPublicKeyRaw with
  | error e =>
    rw [hcose] at h
    cases h
  | ok rawPubKey =>
    rw [hcose] at h
    cases h
    unfold coseEC2ToRawP256Uncompressed at hcose
    split at hcose
    · cases hcose
    split_ifs at hcose
    cases hcose
    exact cons_ne_nil _ _

/-- The reply of an accepted request is what is read back when the client has sent the id that is
stored with the credential. -/
theorem attachSignerFinish_readsBack_iff
    (hrun : Runs exec (attachSignerFinish L cfg ctx smartAccountAddress body) s
      (.ok (.attached cred keyDataHex)) s') :
    ReadsBack s' cred.credentialID keyDataHex ↔
      ∃ req input a, body = some req ∧ registrationInput cfg ctx req = .ok input ∧
        input.presented L = some a ∧ input.credentialID = storedID s.db a := by
  obtain ⟨req, input, a, row, hbody, hinput, ha, hrow, hkey, hid, rfl⟩ :=
    stored_of_attachSignerFinish hrun
  rw [readsBack_iff hrow (hkey ▸ rawPublicKey_ne_nil ha), hkey, hid, buildKeyDataHex_inj]
  constructor
  · intro h
    exact ⟨req, input, a, hbody, hinput, ha, h.symm⟩
  rintro ⟨req', input', a', hbody', hinput', ha', h⟩
  obtain rfl := some.inj (hbody'.symm.trans hbody)
  obtain rfl := Except.ok.inj (hinput'.symm.trans hinput)
  obtain rfl := some.inj (ha'.symm.trans ha)
  exact h.symm

end Attach

namespace Sample

def signerStore : Shared where
  db := { Db.empty with
    challenges := ⟨[challenge 20 .registration registrationChallenge], by decide, by decide⟩
    proved := ⟨[⟨5, "signer", 0⟩], by decide, by decide⟩ }
  nonces := []

def attachRequest (rawID : Bytes) : FinishRegistrationRequest :=
  { registrationBody ownerKey with
    rawID := .of rawID, displayName := "backup", callerCredentialID := "signer" }

abbrev attaching (rawID : Bytes) : Handler Reply :=
  attachSignerFinish libraries config ⟨5, 2⟩ "account" (some (attachRequest rawID))

def repliedAndRead (p : Handler Reply) (s : Shared) (cs : List Choice) : Option (String × String) :=
  (play exec p s cs).bind fun
    | (.ok (.attached cred keyDataHex), s') =>
      (play exec (getCredentialKeyDataHex cred.credentialID) s' [{}]).bind fun
        | (.ok text, _) => some (keyDataHex, text)
        | _ => none
    | _ => none

theorem runs_of_repliedAndRead {p : Handler Reply} {s : Shared} {cs : List Choice}
    {keyDataHex text : String} (h : repliedAndRead p s cs = some (keyDataHex, text)) :
    ∃ cred s' s'', Runs exec p s (.ok (.attached cred keyDataHex)) s' ∧
      Runs exec (getCredentialKeyDataHex cred.credentialID) s' (.ok text) s'' := by
  obtain ⟨⟨out, s'⟩, hplay, h⟩ := bind_eq_some_iff.mp h
  match out, hplay, h with
  | .ok (.attached cred _), hplay, h =>
    obtain ⟨⟨out, s''⟩, hread, h⟩ := bind_eq_some_iff.mp h
    match out, hread, h with
    | .ok _, hread, h =>
      cases h
      exact ⟨cred, s', s'', play_sound _ _ _ _ _ hplay, play_sound _ _ _ _ _ hread⟩

def attachChoices : List Choice :=
  List.replicate 11 { uuid := 30, signer := .ok true, attached := .ok () }

theorem own_id_read_back : ∃ cred keyDataHex s',
    Runs exec (attaching credentialID) signerStore (.ok (.attached cred keyDataHex)) s' ∧
      ReadsBack s' cred.credentialID keyDataHex := by
  have hkeys : repliedAndRead (attaching credentialID) signerStore attachChoices =
      some (buildKeyDataHex ownerKey credentialID, buildKeyDataHex ownerKey credentialID) := by
    decide +kernel
  obtain ⟨cred, s', -, hrun, -⟩ := runs_of_repliedAndRead hkeys
  refine ⟨cred, _, s', hrun, ?_⟩
  rw [attachSignerFinish_readsBack_iff hrun]
  refine ⟨_, registration 2 ownerKey, ⟨credentialID, coseKey ownerKey, ownerKey, 0⟩, rfl, rfl, ?_, ?_⟩
  · decide +kernel
  · decide +kernel

theorem other_id_not_read_back : ∃ cred keyDataHex s',
    Runs exec (attaching [0xff]) signerStore (.ok (.attached cred keyDataHex)) s' ∧
      ¬ ReadsBack s' cred.credentialID keyDataHex := by
  have hkeys : repliedAndRead (attaching [0xff]) signerStore attachChoices =
      some (buildKeyDataHex ownerKey [0xff], buildKeyDataHex ownerKey credentialID) := by
    decide +kernel
  obtain ⟨cred, s', s'', hrun, hread⟩ := runs_of_repliedAndRead hkeys
  refine ⟨cred, _, s', hrun, fun hback => ?_⟩
  have htext := ((hback _ s'').mp hread).1
  rw [buildKeyDataHex_inj] at htext
  exact absurd htext (by decide +kernel)

end Sample

end LatchApi.WebAuthn
