import LatchApi.WebAuthn.Handlers
import LatchApi.WebAuthn.Specs

namespace LatchApi.WebAuthn

open Lib Program Store Passkey List

inductive Route where
  | registrationBegin (input : CeremonyBeginInput)
  | authenticationBegin (input : CeremonyBeginInput)
  | registrationFinish (body : Option FinishRegistrationRequest)
  | attachSignerFinish (smartAccountAddress : String) (body : Option FinishRegistrationRequest)
  | authenticationFinish (body : Option FinishAuthenticationRequest)

structure Request where
  party : Nat
  session : SessionContext
  route : Route

structure FirstStored where
  credentialID : String
  party : Nat
  key : Bytes
deriving DecidableEq

structure Ledger where
  shared : Shared
  first : List FirstStored

def noteFirst (party : Nat) (db : Db) (first : List FirstStored) : List FirstStored :=
  first ++ (db.credentials.rows.filter fun r =>
    r.credentialID ∉ first.map FirstStored.credentialID).map fun r =>
      ⟨r.credentialID, party, r.p256RawPublicKey⟩

section System

variable (L : Libraries) (cfg : WebAuthnConfig)

def Request.body (req : Request) : Handler Reply :=
  match req.route with
  | .registrationBegin input => registrationBegin L cfg req.session input
  | .authenticationBegin input => authenticationBegin L cfg req.session input
  | .registrationFinish body => registrationFinish L cfg req.session body
  | .attachSignerFinish address body => attachSignerFinish L cfg req.session address body
  | .authenticationFinish body => authenticationFinish L cfg req.session body

abbrev PasskeyThread := Thread Request Op Res HttpFail Reply

def passkeyExec (t : PasskeyThread) (op : Op) (s : Ledger) (c : Choice) : Res op × Ledger :=
  let r := exec op s.shared c
  (r.1, ⟨r.2, noteFirst t.request.party r.2.db s.first⟩)

def passkeySystem : System Request Op Res HttpFail Reply Ledger Choice Empty where
  body := Request.body L cfg
  exec := passkeyExec
  world e _ := nomatch e

def Request.signs (req : Request) (key : Bytes) : Bool :=
  match req.route with
  | .authenticationFinish (some body) =>
    (authenticationInput cfg req.session body).toOption.any fun input => input.signedBy L key
  | _ => false

def OfSession (session : Uuid) (t : PasskeyThread) : Prop :=
  t.request.session.sessionID = session ∨
    ∃ row, written (.insertWebappSession row) ∈ t.history ∧ row.id = session

/-- A handler may record a credential for its own session or the one it has opened,
once it has stored the credential or seen the assertion verify. -/
def Recordable (req : Request) (h : Log Res) (row : ProvedRow) : Prop :=
  (req.session.sessionID = row.sessionID ∨
    ∃ session, written (.insertWebappSession session) ∈ h ∧ session.id = row.sessionID) ∧
  ((∃ r, written (.upsertWebauthnCredential r) ∈ h ∧ r.credentialID = row.credentialID) ∨
    ∃ body input, req.route = .authenticationFinish (some body) ∧
      authenticationInput cfg req.session body = .ok input ∧ SeenProof L input row.credentialID h)

def recordGuard (req : Request) (h : Log Res) (op : Op) : Prop :=
  ∀ row, .insertSessionProvedCredential row ∈ op.effects → Recordable L cfg req h row

end System

section Guards

variable {L : Libraries} {cfg : WebAuthnConfig} {req : Request} {h h' : Log Res}
  {c : String} (userID : Encoded Uuid) {input : FinishAuthenticationInput}

theorem SeenProof.mono (hh : h ⊆ h') (hs : SeenProof L input c h) : SeenProof L input c h' := by
  rcases hs with ⟨cred, hread, hsig⟩ | ⟨ws, row, hc, hrow⟩
  · exact .inl ⟨cred, hh hread, hsig⟩
  · exact .inr ⟨ws, row, hh hc, hrow⟩

theorem Recordable.mono {row : ProvedRow} (hh : h ⊆ h') (hr : Recordable L cfg req h row) :
    Recordable L cfg req h' row := by
  obtain ⟨hsession, hproof⟩ := hr
  constructor
  · rcases hsession with hs | ⟨session, hs, hid⟩
    · exact .inl hs
    · exact .inr ⟨session, hh hs, hid⟩
  · rcases hproof with ⟨r, hr, hc⟩ | ⟨body, input, hroute, hin, hs⟩
    · exact .inl ⟨r, hh hr, hc⟩
    · exact .inr ⟨body, input, hroute, hin, hs.mono hh⟩

theorem recordGuard_call {op : Op} (hop : op.effects = []) : recordGuard L cfg req h op := by
  intro row hrow
  rw [hop] at hrow
  cases hrow

theorem recordGuard_write {w : Write} (hw : w.Routine) : recordGuard L cfg req h (.write w) := by
  intro row hrow
  rw [← mem_singleton.mp hrow] at hw
  exact hw.elim

theorem free_recordGuard {J : Log Res → Prop} (hJ : ∀ h e, J h → J (e :: h)) :
    Free (recordGuard L cfg req) J :=
  ⟨fun _ _ hop => recordGuard_call (effects_of_quiet hop), fun h e _ => hJ h e⟩

theorem obeys_addProvedCredential {session : Uuid}
    (hrec : ∀ now, Recordable L cfg req h ⟨session, c, now⟩) :
    Obeys (guarded (recordGuard L cfg req)) h (addProvedCredential session c)
      (onOk fun _ _ => True) := by
  refine obeys_perform_bind (recordGuard_call rfl) fun now _ => ?_
  refine obeys_execute (fun row hrow => ?_) trivial
  obtain rfl : row = ⟨session, c, now⟩ := by simpa [Op.effects] using hrow
  exact (hrec now).mono (subset_cons_self _ _)

theorem obeys_replaceProvedCredential {session : Uuid}
    (hrec : ∀ now, Recordable L cfg req h ⟨session, c, now⟩) :
    Obeys (guarded (recordGuard L cfg req)) h (replaceProvedCredential session c)
      (onOk fun _ _ => True) := by
  have hfree : Free (recordGuard L cfg req) (h ⊆ ·) :=
    free_recordGuard fun _ _ hh e he => mem_cons_of_mem _ (hh he)
  refine obeys_free_bind hfree (Subset.refl h) rfl fun r h₁ _ hh => ?_
  refine obeys_orFail_bind fun _ _ => obeys_txExecute_bind hfree hh fun h₂ db hh => ?_
  refine obeys_free_bind hfree hh rfl fun now h₃ _ hh => ?_
  refine obeys_txExecute_bind hfree hh fun h₄ _ hh => ?_
  refine obeys_perform_bind (fun row hrow => ?_) fun r _ => ?_
  · obtain rfl : row = ⟨session, c, now⟩ := by simpa [Op.effects, Write.resolve] using hrow
    exact (hrec now).mono hh
  cases r with
  | error e => exact .fail trivial
  | ok _ => exact .ok trivial

theorem obeys_finishRegistration (input : FinishRegistrationInput) :
    Obeys (guarded (recordGuard L cfg req)) h (finishRegistration L input) (onOk fun h' cred =>
      ∃ row, written (.upsertWebauthnCredential row) ∈ h' ∧
        row.credentialID = cred.credentialID) := by
  refine obeys_getActiveChallenge_bind (fun _ => recordGuard_call rfl)
    (fun _ => recordGuard_call rfl) fun uid challenge now => obeys_ofExcept_bind fun a _ => ?_
  exact obeys_storeRegistration (J := fun _ => True) (free_recordGuard fun _ _ h => h)
    (recordGuard_write trivial) trivial fun h' id uid now out _ hout =>
      ⟨fun row hrow => by simp [Op.effects] at hrow, _, mem_cons_self, hout.symm⟩

theorem obeys_finishAuthentication :
    Obeys (guarded (recordGuard L cfg req)) h (finishAuthentication L input)
      (onOk fun h' out => SeenProof L input out.credentialID h') := by
  refine obeys_getActiveChallenge_bind (fun _ => recordGuard_call rfl)
    (fun _ => recordGuard_call rfl) fun uid challenge now => obeys_ofExcept_bind fun authData _ => ?_
  refine obeys_perform_bind (recordGuard_call rfl) fun r _ => ?_
  rcases r with (_ | _) | cred
  · have hfree : Free (recordGuard L cfg req) fun _ => True := free_recordGuard fun _ _ h => h
    refine obeys_adoptExternalPasskey (fun h' ws owner row _ ha => ?_) hfree hfree trivial
      fun _ _ => ⟨recordGuard_write trivial, trivial⟩
    obtain ⟨user, account, rfl⟩ := ha.writes
    exact ⟨fun row hrow => by simp [Op.effects] at hrow, .inr ⟨_, row, mem_cons_self, by simp,
      ha.credential, ha.signed⟩⟩
  · exact .fail trivial
  · refine obeys_ofExcept_bind fun _ hsig => obeys_ofExcept_bind fun _ _ => ?_
    refine obeys_execute_bind (recordGuard_write trivial) ?_
    refine obeys_execute_bind (recordGuard_write trivial) ?_
    refine obeys_execute_bind (recordGuard_write trivial) ?_
    refine .ok (.inl ⟨cred, ?_, signedBy_of_requireSignature hsig⟩)
    exact mem_cons_of_mem _ (mem_cons_of_mem _ (mem_cons_of_mem _ mem_cons_self))

theorem obeys_finishRegistrationOrFail (input : FinishRegistrationInput) :
    Obeys (guarded (recordGuard L cfg req)) h (finishRegistrationOrFail L input)
      (onOk fun h' cred => ∃ row, written (.upsertWebauthnCredential row) ∈ h' ∧
        row.credentialID = cred.credentialID) := by
  unfold finishRegistrationOrFail
  rw [obeys_bind, obeys_attempt]
  refine (obeys_finishRegistration input).mono ?_
  rintro h' (e | cred) hout
  · exact .fail trivial
  · exact .ok hout

theorem obeys_registerBestEffort (keyDataHex address : String) (label : Option String) (seq : Int) :
    Obeys (guarded (recordGuard L cfg req)) h (registerBestEffort keyDataHex address label seq)
      (onOk fun h' _ => h ⊆ h') := by
  unfold registerBestEffort
  cases label with
  | none => exact .ok fun _ he => he
  | some label =>
    rw [obeys_bind, obeys_attempt]
    exact (obeys_register fun row _ => recordGuard_write trivial).mono fun h' _ hh => .ok hh

theorem obeys_callOrFail {α : Type} (x : Except CallError α) :
    Obeys (guarded (recordGuard L cfg req)) h (callOrFail x) (onOk fun h' _ => h' = h) := by
  cases x with
  | error e => exact .fail trivial
  | ok a => exact .ok rfl

theorem obeys_record_registered {cred : RegisteredCredential} {row : CredentialRow} (reply : Reply)
    (hup : written (.upsertWebauthnCredential row) ∈ h) (hc : row.credentialID = cred.credentialID) :
    Obeys (guarded (recordGuard L cfg req)) h ((do
      let _ ← (addProvedCredential req.session.sessionID cred.credentialID).attempt
      return reply) : Handler Reply) (onOk fun _ _ => True) := by
  rw [obeys_bind, obeys_attempt]
  refine (obeys_addProvedCredential fun now => ⟨.inl rfl, .inl ⟨row, hup, hc⟩⟩).mono ?_
  exact fun _ _ _ => .ok trivial

theorem obeys_registrationFinish (body : Option FinishRegistrationRequest) :
    Obeys (guarded (recordGuard L cfg req)) h (registrationFinish L cfg req.session body)
      (onOk fun _ _ => True) := by
  refine obeys_ofExcept_bind fun fields _ => obeys_ofExcept_bind fun input _ => ?_
  refine (obeys_finishRegistrationOrFail input).bind_onOk ?_
  rintro h₁ cred ⟨row, hup, hc⟩
  refine obeys_perform_bind (recordGuard_call rfl) fun r _ => ?_
  refine (obeys_callOrFail r).bind_onOk ?_
  rintro _ account rfl
  refine (obeys_registerBestEffort _ _ _ _).bind_onOk fun h₂ _ hh₂ => ?_
  exact obeys_record_registered _ (hh₂ (mem_cons_of_mem _ hup)) hc

theorem obeys_requireProvedSigner (caller address : String) :
    Obeys (guarded (recordGuard L cfg req)) h (requireProvedSigner req.session caller address)
      (onOk fun _ _ => True) := by
  unfold requireProvedSigner hasProvedCredential
  split
  · exact .fail trivial
  rw [obeys_bind, obeys_attempt]
  refine obeys_perform_bind (recordGuard_call rfl) fun r _ => ?_
  rcases r with _ | _ | _
  · exact .fail (.fail trivial)
  · exact .ok (.fail trivial)
  refine .ok (obeys_perform_bind (recordGuard_call rfl) fun r _ => ?_)
  refine (obeys_callOrFail r).bind_onOk fun _ isSigner _ => ?_
  cases isSigner with
  | false => exact .fail trivial
  | true => exact .ok trivial

theorem obeys_attachSignerFinish (address : String) (body : Option FinishRegistrationRequest) :
    Obeys (guarded (recordGuard L cfg req)) h (attachSignerFinish L cfg req.session address body)
      (onOk fun _ _ => True) := by
  refine obeys_ofExcept_bind fun fields _ => ?_
  refine (obeys_requireProvedSigner _ _).bind_onOk fun h₁ _ _ => ?_
  refine obeys_ofExcept_bind fun input _ => ?_
  refine (obeys_finishRegistrationOrFail input).bind_onOk ?_
  rintro h₂ cred ⟨row, hup, hc⟩
  refine obeys_perform_bind (recordGuard_call rfl) fun r _ => ?_
  refine (obeys_callOrFail r).bind_onOk ?_
  rintro _ _ rfl
  exact obeys_record_registered _ (mem_cons_of_mem _ hup) hc

theorem obeys_sessionFor (cred : AuthenticatedCredential) :
    Obeys (guarded (recordGuard L cfg req)) h (sessionFor req.session cred)
      (onOk fun h' session => h ⊆ h' ∧ (req.session.sessionID = session ∨
        ∃ row, written (.insertWebappSession row) ∈ h' ∧ row.id = session)) := by
  unfold sessionFor issueForUser
  split
  · exact .ok ⟨fun _ he => he, .inl rfl⟩
  rw [obeys_bind, obeys_attempt]
  refine obeys_perform_bind (recordGuard_call rfl) fun now _ => ?_
  refine obeys_perform_bind (recordGuard_call rfl) fun id _ => ?_
  refine obeys_perform_bind (recordGuard_write trivial) fun r _ => ?_
  cases r with
  | error e => exact .fail (.fail trivial)
  | ok _ =>
    refine .ok (.ok ⟨fun e he => by simp [he], .inr ⟨_, mem_cons_self, rfl⟩⟩)

theorem obeys_authenticationFinish (body : Option FinishAuthenticationRequest)
    (hroute : req.route = .authenticationFinish body) :
    Obeys (guarded (recordGuard L cfg req)) h (authenticationFinish L cfg req.session body)
      (onOk fun _ _ => True) := by
  refine obeys_ofExcept_bind fun fields hbody => obeys_ofExcept_bind fun input hinput => ?_
  have hroute' : req.route = .authenticationFinish (some fields) := by
    cases body with
    | none => cases hbody
    | some b =>
      cases hbody
      exact hroute
  rw [obeys_bind, obeys_attempt]
  refine obeys_finishAuthentication.mono ?_
  rintro h₁ (e | cred) hproof
  · exact .fail trivial
  refine (obeys_sessionFor cred).bind_onOk ?_
  rintro h₂ session ⟨hh₂, hsession⟩
  rw [obeys_bind, obeys_attempt]
  have hrec : ∀ now, Recordable L cfg req h₂ ⟨session, cred.credentialID, now⟩ := fun now =>
    ⟨hsession, .inr ⟨fields, input, hroute', hinput, hproof.mono hh₂⟩⟩
  refine (obeys_replaceProvedCredential hrec).mono ?_
  rintro h₃ (e | _) -
  · exact .fail trivial
  · refine obeys_perform_bind (recordGuard_call rfl) fun r _ => ?_
    exact (obeys_callOrFail r).bind_onOk fun _ _ _ => .ok trivial

theorem obeys_ceremonyBegin (input : CeremonyBeginInput)
    (start : String → String → Service BeginOptions)
    (hstart : ∀ rpID origin, Obeys (guarded (recordGuard L cfg req)) h (start rpID origin)
      fun _ _ => True) :
    Obeys (guarded (recordGuard L cfg req)) h (ceremonyBegin L cfg input start)
      (onOk fun _ _ => True) := by
  unfold ceremonyBegin
  cases resolveCeremonyContext L input cfg with
  | error e => exact .fail trivial
  | ok context =>
    rw [obeys_bind, obeys_attempt]
    refine (hstart _ _).mono ?_
    rintro h' (e | options) -
    · exact .fail trivial
    · exact .ok trivial

theorem obeys_beginCeremony (purpose : Purpose) (userID : Encoded Uuid) (rpID origin : String) :
    Obeys (guarded (recordGuard L cfg req)) h (beginCeremony purpose userID rpID origin)
      (onOk fun _ _ => True) := by
  refine Obeys.bind_onOk (P := fun _ _ => True) ?_ fun h' _ _ => ?_
  · refine obeys_perform_bind (recordGuard_call rfl) fun raw _ => obeys_parseUserID_bind fun uid => ?_
    refine obeys_perform_bind (recordGuard_call rfl) fun now _ => ?_
    refine obeys_perform_bind (recordGuard_call rfl) fun id _ => ?_
    exact obeys_execute_bind (recordGuard_write trivial) (.ok trivial)
  · refine obeys_parseUserID_bind fun uid => ?_
    refine obeys_perform_bind (recordGuard_call rfl) fun rows _ => ?_
    exact obeys_orFail_bind fun _ _ => .ok trivial

theorem obeys_beginRegistration (rpID origin : String) :
    Obeys (guarded (recordGuard L cfg req)) h (beginRegistration userID rpID origin)
      (onOk fun _ _ => True) := by
  refine (obeys_beginCeremony _ _ _ _).bind_onOk fun h' _ _ => ?_
  exact obeys_perform_bind (recordGuard_call rfl) fun _ _ => .ok trivial

theorem obeys_beginAuthentication (rpID origin : String) :
    Obeys (guarded (recordGuard L cfg req)) h (beginAuthentication userID rpID origin)
      (onOk fun _ _ => True) :=
  (obeys_beginCeremony _ _ _ _).bind_onOk fun _ _ _ => .ok trivial

theorem obeys_body (req : Request) :
    Obeys (guarded (recordGuard L cfg req)) [] (req.body L cfg) fun _ _ => True := by
  have hany : ∀ {α ε : Type} {p : Program Op Res ε α} {h : Log Res},
      Obeys (guarded (recordGuard L cfg req)) h p (onOk fun _ _ => True) →
      Obeys (guarded (recordGuard L cfg req)) h p fun _ _ => True :=
    fun hp => hp.mono fun _ _ _ => trivial
  unfold Request.body
  cases hroute : req.route with
  | registrationBegin input =>
    exact hany (obeys_ceremonyBegin _ _ fun _ _ => hany (obeys_beginRegistration _ _ _))
  | authenticationBegin input =>
    exact hany (obeys_ceremonyBegin _ _ fun _ _ => hany (obeys_beginAuthentication _ _ _))
  | registrationFinish body => exact hany (obeys_registrationFinish body)
  | attachSignerFinish address body => exact hany (obeys_attachSignerFinish address body)
  | authenticationFinish body => exact hany (obeys_authenticationFinish body hroute)

end Guards

end LatchApi.WebAuthn
