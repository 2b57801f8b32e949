import LatchApi.Deploy.Handlers
import LatchApi.WebAuthn.Takeover

namespace LatchApi.Deploy

open Lib Program Store Passkey WebAuthn List

inductive DeployRequest where
  | challenge (body : Option DeployChallengeRequest)
  | webauthn (body : Option DeployWebauthnRequest)

structure Replacement where
  old : PasskeyRow
  new : PasskeyRow
  request : DeployRequest

structure IndexState where
  shared : Shared
  replaced : List Replacement

abbrev DeployThread := Thread DeployRequest Op Res HttpFail DeployReply

abbrev DeployRun := Config DeployRequest Op Res HttpFail DeployReply IndexState

def replacements (req : DeployRequest) (before after : Db) : List Replacement :=
  before.passkeys.rows.flatMap fun old => (after.passkeys.rows.filter fun new =>
    new.credentialID = old.credentialID ∧ new ≠ old).map fun new => ⟨old, new, req⟩

section System

variable (L : Libraries) (E : Ed25519Verify) (cfg : DeployConfig)

def DeployRequest.body : DeployRequest → DeployHandler DeployReply
  | .challenge body => deployChallenge cfg body
  | .webauthn body => deployWebauthn L E cfg body

def indexExec (t : DeployThread) (op : Op) (s : IndexState) (c : Choice) : Res op × IndexState :=
  let r := exec op s.shared c
  (r.1, ⟨r.2, s.replaced ++ replacements t.request s.shared.db r.2.db⟩)

def deploySystem : System DeployRequest Op Res HttpFail DeployReply IndexState Choice String where
  body := DeployRequest.body L E cfg
  exec := indexExec
  world key s := some { s with
    shared := { s.shared with nonces := s.shared.nonces.filter fun n => n.1 != key } }

def DeployWebauthnRequest.asserts (req : DeployWebauthnRequest) (key : Bytes) : Bool :=
  match proofAssertion req.proof .webauthn, decodeNonce req.proof.nonce with
  | .ok assertion, .ok nonce =>
    decide (verifyWebAuthnAssertion L [key] nonce assertion cfg.allowedOrigins = .ok ())
  | _, _ => false

def DeployRequest.asserts (req : DeployRequest) (key : Bytes) : Bool :=
  match req with
  | .webauthn (some body) => body.asserts L cfg key
  | _ => false

def Replacement.moves (x : Replacement) (key : Bytes) : Prop :=
  webauthnKey x.old.keyDataHex = some key ∧
    (webauthnKey x.new.keyDataHex ≠ some key ∨
      x.new.smartAccountAddress ≠ x.old.smartAccountAddress)

/-- Only a request that proves possession of the stored key moves a row of the index. -/
def MovedByHolders (c : DeployRun) : Prop :=
  ∀ x ∈ c.state.replaced, ∀ key, x.moves key → x.request.asserts L cfg key = true

/-- The rows of the index an operation writes start with the keys stored for them. -/
def keepsKeys : System.Schedule DeployRequest Op Res HttpFail DeployReply IndexState :=
  fun s _ _ op => ∀ row ∈ op.indexes, ∀ r ∈ s.shared.db.passkeys.rows,
    r.credentialID = row.credentialID → (webauthnKey r.keyDataHex).isSome →
      webauthnKey r.keyDataHex = webauthnKey row.keyDataHex

instance (s : IndexState) (others : List DeployThread) (t : DeployThread) (op : Op) :
    Decidable (keepsKeys s others t op) :=
  inferInstanceAs (Decidable (∀ row ∈ op.indexes, ∀ r ∈ s.shared.db.passkeys.rows,
    r.credentialID = row.credentialID → (webauthnKey r.keyDataHex).isSome →
      webauthnKey r.keyDataHex = webauthnKey row.keyDataHex))

def indexGuard (req : DeployRequest) (_ : Log Res) (op : Op) : Prop :=
  op.effects ≠ [] → ∃ row key, op.effects = [.upsertPasskeyCredential row] ∧
    webauthnKey row.keyDataHex = some key ∧ req.asserts L cfg key = true

end System

variable {req : DeployRequest}

section Guards

variable {L : Libraries} {E : Ed25519Verify} {cfg : DeployConfig} {h : Log Res}

theorem indexGuard_of_no_effects (h : Log Res) (op : Op) (hop : op.effects = []) :
    indexGuard L cfg req h op :=
  fun hne => absurd hop hne

theorem obeys_deployChallenge (body : Option DeployChallengeRequest) :
    Obeys (guarded (indexGuard L cfg req)) h (deployChallenge cfg body) (onOk fun _ _ => True) := by
  refine obeys_ofExcept_bind fun fields _ => obeys_ofExcept_bind fun network _ => ?_
  rw [obeys_bind, obeys_attempt]
  refine Obeys.mono (Q := onOk fun _ _ => True) ?_ ?_
  · refine obeys_ofExcept_bind fun _ _ => ?_
    refine (obeys_issueNonce indexGuard_of_no_effects _ _ _).bind_onOk ?_
    exact fun _ _ _ => .ok trivial
  · rintro h' (e | ⟨nonce, ttl⟩) -
    · exact .fail trivial
    · exact .ok trivial

theorem webauthnKey_of_verifySignature {input : DeployProofInput} {nonce : Bytes} {u : Unit}
    (htype : input.keyType = .webauthn) (h : verifySignature L E cfg input nonce = .ok u) :
    ∃ key, webauthnKey input.keyRef = some key ∧
      verifyWebAuthnAssertion L [key] nonce input.assertion cfg.allowedOrigins = .ok u := by
  simp only [verifySignature, htype] at h
  cases hkey : webauthnKey input.keyRef with
  | none => rw [hkey] at h; cases h
  | some key =>
    rw [hkey] at h
    exact ⟨key, rfl, h⟩

theorem obeys_verifyProof (body : DeployWebauthnRequest) (network : Network) :
    Obeys (guarded (indexGuard L cfg req)) h
      (verifyProof L E cfg body.proof body.keyDataHex .webauthn network) (onOk fun _ _ =>
        ∃ key, webauthnKey body.keyDataHex = some key ∧ body.asserts L cfg key = true) := by
  refine obeys_ofExcept_bind fun assertion hassertion => ?_
  rw [obeys_bind, obeys_attempt]
  refine (obeys_proofVerify indexGuard_of_no_effects _).mono ?_
  rintro h' (e | u) hout
  · exact .fail trivial
  obtain ⟨nonce, hnonce, hsig⟩ := hout
  obtain ⟨key, hkey, hverify⟩ := webauthnKey_of_verifySignature rfl hsig
  refine .ok ⟨key, hkey, ?_⟩
  simp only at hnonce hverify
  simp [DeployWebauthnRequest.asserts, hassertion, hnonce, hverify]

theorem obeys_deployWebauthn (body : Option DeployWebauthnRequest)
    (hreq : req = .webauthn body) :
    Obeys (guarded (indexGuard L cfg req)) h (deployWebauthn L E cfg body)
      (onOk fun _ _ => True) := by
  refine obeys_ofExcept_bind fun fields hfields => obeys_ofExcept_bind fun _ _ =>
    obeys_ofExcept_bind fun network _ => ?_
  have hbody : body = some fields := by
    cases body with
    | none => cases hfields
    | some b =>
      simp only [bindRequired, bindBody] at hfields
      split_ifs at hfields
      exact congrArg some (Except.ok.inj hfields)
  refine (obeys_verifyProof fields network).bind_onOk ?_
  rintro h₁ _ ⟨key, hkey, hasserts⟩
  refine obeys_perform_bind (indexGuard_of_no_effects _ _ rfl) fun r _ => ?_
  match r with
  | .error e => exact .fail trivial
  | .ok (address, already) =>
    rw [obeys_bind, obeys_attempt]
    refine (obeys_register fun row hrow => ?_).mono fun _ _ _ => .ok trivial
    intro _
    refine ⟨row, key, rfl, ?_, ?_⟩
    · rw [indexRow_ok hrow]
      exact hkey
    · rw [hreq, hbody]
      exact hasserts

theorem obeys_deployBody (req : DeployRequest) :
    Obeys (guarded (indexGuard L cfg req)) [] (req.body L E cfg) fun _ _ => True := by
  cases req with
  | challenge body => exact (obeys_deployChallenge body).mono fun _ _ _ => trivial
  | webauthn body => exact (obeys_deployWebauthn body rfl).mono fun _ _ _ => trivial

end Guards

section Runs

variable {L : Libraries} {E : Ed25519Verify} {cfg : DeployConfig} {x : Replacement}

theorem mem_replacements {before after : Db} :
    x ∈ replacements req before after ↔ x.old ∈ before.passkeys.rows ∧
      x.new ∈ after.passkeys.rows ∧ x.new.credentialID = x.old.credentialID ∧ x.new ≠ x.old ∧
        x.request = req := by
  obtain ⟨old, new, request⟩ := x
  simp only [replacements, mem_flatMap, mem_map, mem_filter, decide_eq_true_eq,
    Replacement.mk.injEq]
  constructor
  · rintro ⟨_, hold, _, ⟨hnew, hc, hne⟩, rfl, rfl, rfl⟩
    exact ⟨hold, hnew, hc, hne, rfl⟩
  · rintro ⟨hold, hnew, hc, hne, rfl⟩
    exact ⟨old, hold, new, ⟨hnew, hc, hne⟩, rfl, rfl, rfl⟩

theorem replacements_self (req : DeployRequest) (db : Db) : replacements req db db = [] := by
  refine eq_nil_iff_forall_not_mem.mpr fun x hx => ?_
  obtain ⟨hold, hnew, hc, hne, -⟩ := mem_replacements.mp hx
  exact hne (Table.eq_of_uk_eq hnew hold hc)

theorem old_of_upsert {row : PasskeyRow} {db db' : Db}
    (h : (Write.upsertPasskeyCredential row).apply db = some db') (hx : x ∈ replacements req db db') :
    x.old.credentialID = row.credentialID := by
  obtain ⟨hold, hnew, hc, hne, -⟩ := mem_replacements.mp hx
  obtain ⟨t, ht, rfl⟩ := Option.map_eq_some_iff.mp h
  rcases (Table.mem_upsert ht).mp hnew with ⟨hr, -⟩ | ⟨r, hr, he, hover⟩ | ⟨hrow, hnone⟩
  · exact absurd (Table.eq_of_uk_eq hr hold hc) hne
  · have hkeep : x.new.credentialID = r.credentialID := by rw [hover]; rfl
    exact (hc.symm.trans hkeep).trans he
  · rw [← hc, hrow]

theorem asserts_of_moves {s : IndexState} {others : List DeployThread} {t : DeployThread} {op : Op}
    {ch : Choice} {key : Bytes} (hallow : keepsKeys s others t op)
    (hguard : indexGuard L cfg t.request t.history op)
    (hx : x ∈ replacements t.request s.shared.db (exec op s.shared ch).2.db)
    (hmoves : x.moves key) : x.request.asserts L cfg key = true := by
  rcases exec_db op s.shared ch with hdb | happly
  · rw [hdb, replacements_self] at hx
    cases hx
  by_cases hop : op.effects = []
  · rw [hop] at happly
    rw [← Option.some.inj happly, replacements_self] at hx
    cases hx
  · obtain ⟨row, key', heff, hkey', hasserts⟩ := hguard hop
    rw [heff, applyAll_singleton] at happly
    obtain ⟨hold, -, -, -, hreq⟩ := mem_replacements.mp hx
    have hindexed : row ∈ op.indexes := by simp [Op.indexes, heff, Write.indexedPasskey]
    have hsame := hallow row hindexed x.old hold (old_of_upsert happly hx)
      (by rw [hmoves.1]; rfl)
    rw [hmoves.1, hkey'] at hsame
    rw [hreq, Option.some.inj hsame]
    exact hasserts

/-- In a run in which every write to the index keeps the stored key, only requests that
prove possession of that key move a row. -/
theorem moved_by_holders_of_keepsKeys (s : IndexState) (c : DeployRun) (hstart : s.replaced = [])
    (hrun : (deploySystem L E cfg).Reachable keepsKeys s c) : MovedByHolders L cfg c := by
  refine hrun.invariant (fun req => guarded (indexGuard L cfg req)) (MovedByHolders L cfg)
    obeys_deployBody ?_ ?_ (fun _ _ _ h => h) ?_ ?_
  · exact fun _ op s ch => exec_legal op s.shared ch
  · intro x hx
    rw [hstart] at hx
    cases hx
  · intro s s' ts key hworld h
    cases hworld
    exact h
  · intro s before after t op next ch _ hallow hguard h x hx key hmoves
    rcases mem_append.mp hx with hx | hx
    · exact h x hx key hmoves
    · exact asserts_of_moves hallow hguard hx hmoves

end Runs

namespace Sample

open WebAuthn.Sample (libraries ownerKey intruderKey credentialID)

def config : DeployConfig := ⟨some .testnet, ["http://localhost:3000"]⟩

def noEd25519 : Ed25519Verify := fun _ _ _ => false

def keyData (key : Bytes) : String := hexEncode key ++ hexEncode credentialID

def contract (c : Char) : String := String.ofList ('C' :: List.replicate 55 c)

def indexed (key : Bytes) : IndexState where
  shared :=
    { db := { Db.empty with
        passkeys := ⟨[⟨hexEncode credentialID, keyData key, contract 'A', "main", 1⟩],
          List.nodup_singleton _, List.nodup_singleton _⟩ }
      nonces := [] }
  replaced := []

def nonce : Bytes := (List.range 32).map fun i => UInt8.ofNat (32 + i)

def challengeRequest : DeployChallengeRequest := ⟨.webauthn, keyData intruderKey, "testnet"⟩

def deployRequest : DeployWebauthnRequest where
  keyDataHex := keyData intruderKey
  network := ""
  proof := ⟨hexEncode nonce, .of WebAuthn.Sample.signature, .of WebAuthn.Sample.authenticatorData,
    .of WebAuthn.Sample.authentication.clientDataJSON⟩
  label := "main"
  seq := 1

def deployment : List (System.Move DeployRequest Choice String) :=
  let choice : Choice := { bytes := nonce, address := .ok (contract 'B', false) }
  [.arrive (.challenge (some challengeRequest)), .act 0 choice, .act 0 choice,
    .arrive (.webauthn (some deployRequest)), .act 1 choice, .act 1 choice, .act 1 choice]

theorem moved_by_holders_of_keepsKeys_redeployed : ∃ c,
    (deploySystem libraries noEd25519 config).Reachable keepsKeys (indexed intruderKey) c ∧
    c.state.replaced.map (fun x => x.new.smartAccountAddress) = [contract 'B'] ∧
    MovedByHolders libraries config c := by
  have h : ∃ c ∈ (deploySystem libraries noEd25519 config).schedule keepsKeys
      ⟨indexed intruderKey, []⟩ deployment,
      c.state.replaced.map (fun x => x.new.smartAccountAddress) = [contract 'B'] := by
    decide +kernel
  obtain ⟨c, hc, hreplaced⟩ := h
  have hrun := System.schedule_sound _ _ _ hc
  exact ⟨c, hrun, hreplaced, moved_by_holders_of_keepsKeys _ c rfl hrun⟩

theorem deployment_takes_over_index_row : ∃ c,
    (deploySystem libraries noEd25519 config).Reachable System.anySchedule (indexed ownerKey) c ∧
    ¬ MovedByHolders libraries config c := by
  have h : ∃ c ∈ (deploySystem libraries noEd25519 config).schedule System.anySchedule
      ⟨indexed ownerKey, []⟩ deployment, ∃ x ∈ c.state.replaced,
        webauthnKey x.old.keyDataHex = some ownerKey ∧
        x.new.smartAccountAddress ≠ x.old.smartAccountAddress ∧
        x.request.asserts libraries config ownerKey = false := by
    decide +kernel
  obtain ⟨c, hc, x, hx, hkey, haddress, hasserts⟩ := h
  refine ⟨c, System.schedule_sound _ _ _ hc, fun hmoved => ?_⟩
  have htrue := hmoved x hx ownerKey ⟨hkey, .inr haddress⟩
  rw [hasserts] at htrue
  cases htrue

end Sample

end LatchApi.Deploy
