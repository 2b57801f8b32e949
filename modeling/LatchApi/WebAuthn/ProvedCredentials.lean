import LatchApi.Store.Effects
import LatchApi.WebAuthn.PasskeyRuns
import LatchApi.WebAuthn.Takeover

namespace LatchApi.WebAuthn

open Lib Program Store List

variable {L : Libraries} {cfg : WebAuthnConfig}

variable {first : List FirstStored}

theorem mem_noteFirst {party : Nat} {db : Db} {f : FirstStored} :
    f ∈ noteFirst party db first ↔ f ∈ first ∨ ∃ r ∈ db.credentials.rows,
      r.credentialID ∉ first.map FirstStored.credentialID ∧
        f = ⟨r.credentialID, party, r.p256RawPublicKey⟩ := by
  simp [noteFirst, and_assoc, eq_comm]

theorem noteFirst_nodup {party : Nat} {db : Db} (h : (first.map FirstStored.credentialID).Nodup) :
    ((noteFirst party db first).map FirstStored.credentialID).Nodup := by
  simp only [noteFirst, map_append, map_map]
  refine nodup_append'.mpr ⟨h, ?_, ?_⟩
  · exact (db.credentials.uk_nodup.sublist (filter_sublist.map _))
  intro c hc hnew
  obtain ⟨r, hr, rfl⟩ := mem_map.mp hnew
  exact absurd hc (by simpa using (mem_filter.mp hr).2)

/-- The request's party stored the credential first, or the request signs under the
key it was first stored with. -/
def Earned (L : Libraries) (cfg : WebAuthnConfig) (first : List FirstStored) (req : Request)
    (c : String) : Prop :=
  ∃ f ∈ first, f.credentialID = c ∧ (f.party = req.party ∨ req.signs L cfg f.key = true)

variable {first' : List FirstStored}

theorem Earned.mono {req : Request} {c : String} (hsub : first ⊆ first')
    (h : Earned L cfg first req c) : Earned L cfg first' req c := by
  obtain ⟨f, hf, h⟩ := h
  exact ⟨f, hsub hf, h⟩

def storedBy (e : Event Res) (row : CredentialRow) : Prop :=
  ∃ ws, (e = committed ws ∨ ∃ w, e = written w ∧ ws = [w]) ∧ .upsertWebauthnCredential row ∈ ws

structure Honest (L : Libraries) (cfg : WebAuthnConfig) (first : List FirstStored)
    (t : PasskeyThread) : Prop where
  read : ∀ c cred, credentialRead c cred ∈ t.history →
    ∃ f ∈ first, f.credentialID = c ∧ f.key = cred.p256RawPublicKey
  stored : ∀ e ∈ t.history, ∀ row, storedBy e row → Earned L cfg first t.request row.credentialID

structure Proofs (L : Libraries) (cfg : WebAuthnConfig)
    (c : Config Request Op Res HttpFail Reply Ledger) : Prop where
  keys : ∀ id key, c.state.shared.db.StoresKey id key →
    ∃ f ∈ c.state.first, f.credentialID = id ∧ f.key = key
  unique : (c.state.first.map FirstStored.credentialID).Nodup
  threads : ∀ t ∈ c.threads, Honest L cfg c.state.first t
  proved : ∀ session id, c.state.shared.db.HasProved session id →
    ∃ t ∈ c.threads, OfSession session t ∧ Earned L cfg c.state.first t.request id

/-- A credential id that was stored before is stored again only with its first key, and
by the party that stored it first or with a signature under that key. -/
def storesOwn (L : Libraries) (cfg : WebAuthnConfig) :
    System.Schedule Request Op Res HttpFail Reply Ledger :=
  fun s _ t op => ∀ row ∈ op.stores, ∀ f ∈ s.first, f.credentialID = row.credentialID →
    f.key = row.p256RawPublicKey ∧ (f.party = t.request.party ∨ t.request.signs L cfg f.key = true)

instance (s : Ledger) (others : List PasskeyThread) (t : PasskeyThread) (op : Op) :
    Decidable (storesOwn L cfg s others t op) :=
  inferInstanceAs (Decidable (∀ row ∈ op.stores, ∀ f ∈ s.first, f.credentialID = row.credentialID →
    f.key = row.p256RawPublicKey ∧ (f.party = t.request.party ∨ t.request.signs L cfg f.key = true)))

variable {s : Ledger} {t : PasskeyThread}

section Step

variable {op : Op} {others : List PasskeyThread} {ch : Choice} {next : Res op → Handler Reply}

theorem first_subset : s.first ⊆ (passkeyExec t op s ch).2.first :=
  fun _ hf => mem_noteFirst.mpr (.inl hf)

theorem storesKey_first {id : String} {key : Bytes} (hallow : storesOwn L cfg s others t op)
    (hkeys : ∀ id key, s.shared.db.StoresKey id key →
      ∃ f ∈ s.first, f.credentialID = id ∧ f.key = key)
    (h : (passkeyExec t op s ch).2.shared.db.StoresKey id key) :
    ∃ f ∈ (passkeyExec t op s ch).2.first, f.credentialID = id ∧ f.key = key := by
  by_cases hid : id ∈ s.first.map FirstStored.credentialID
  · have hold : s.shared.db.StoresKey id key ∨ ∃ row, .upsertWebauthnCredential row ∈ op.effects ∧
        row.credentialID = id ∧ row.p256RawPublicKey = key := by
      rcases exec_db op s.shared ch with hdb | happly
      · exact .inl (hdb ▸ h)
      · exact storesKey_of_applyAll happly h
    rcases hold with hold | ⟨row, hrow, rfl, rfl⟩
    · obtain ⟨f, hf, hfid⟩ := hkeys id key hold
      exact ⟨f, first_subset hf, hfid⟩
    · obtain ⟨f, hf, hfid⟩ := mem_map.mp hid
      exact ⟨f, first_subset hf, hfid, (hallow row (mem_stores.mpr hrow) f hf hfid).1⟩
  · obtain ⟨r, hr, rfl, rfl⟩ := h
    exact ⟨_, mem_noteFirst.mpr (.inr ⟨r, hr, hid, rfl⟩), rfl, rfl⟩

theorem storesKey_of_read {c : String} {cred : CredentialRow}
    (h : (⟨op, (passkeyExec t op s ch).1⟩ : Event Res) = credentialRead c cred) :
    s.shared.db.StoresKey c cred.p256RawPublicKey := by
  obtain ⟨rfl, hr⟩ := Sigma.mk.inj h
  have hans := eq_of_heq hr
  simp only [passkeyExec, exec] at hans
  split_ifs at hans with hfault
  · obtain ⟨hmem, hc⟩ := credential_of_answer hans
    exact ⟨cred, hmem, hc, rfl⟩

theorem stored_of_event {row : CredentialRow}
    (h : storedBy ⟨op, (passkeyExec t op s ch).1⟩ row) :
    .upsertWebauthnCredential row ∈ op.effects ∧
      ∃ key, (passkeyExec t op s ch).2.shared.db.StoresKey row.credentialID key := by
  obtain ⟨ws, hws, hrow⟩ := h
  have happly : op.effects = ws ∧
      applyAll s.shared.db ws = some (passkeyExec t op s ch).2.shared.db := by
    rcases hws with he | ⟨w, he, rfl⟩
    · obtain ⟨rfl, hr⟩ := Sigma.mk.inj he
      exact ⟨rfl, settle_ok (eq_of_heq hr)⟩
    obtain ⟨rfl, hr⟩ := Sigma.mk.inj he
    rw [applyAll_singleton]
    exact ⟨rfl, settle_ok (eq_of_heq hr)⟩
  obtain ⟨rfl, happly⟩ := happly
  exact ⟨hrow, stored_of_applyAll happly (.inr ⟨row, hrow, rfl⟩)⟩

theorem earned_of_stored {row : CredentialRow} (hallow : storesOwn L cfg s others t op)
    (hrow : .upsertWebauthnCredential row ∈ op.effects) {f : FirstStored}
    (hf : f ∈ (passkeyExec t op s ch).2.first) (hfid : f.credentialID = row.credentialID) :
    Earned L cfg (passkeyExec t op s ch).2.first t.request row.credentialID := by
  refine ⟨f, hf, hfid, ?_⟩
  rcases mem_noteFirst.mp hf with hf | ⟨r, -, -, rfl⟩
  · exact (hallow row (mem_stores.mpr hrow) f hf hfid).2
  · exact .inl rfl

theorem Honest.mono (hsub : first ⊆ first') (h : Honest L cfg first t) : Honest L cfg first' t where
  read c cred he := by
    obtain ⟨f, hf, hfid⟩ := h.read c cred he
    exact ⟨f, hsub hf, hfid⟩
  stored e he row hrow := (h.stored e he row hrow).mono hsub

theorem Honest.advance (hallow : storesOwn L cfg s others t op)
    (hkeys : ∀ id key, s.shared.db.StoresKey id key →
      ∃ f ∈ s.first, f.credentialID = id ∧ f.key = key) (h : Honest L cfg s.first t) :
    Honest L cfg (passkeyExec t op s ch).2.first
      (t.advance op (passkeyExec t op s ch).1 next) where
  read c cred he := by
    rcases mem_cons.mp he with he | he
    · obtain ⟨f, hf, hfid⟩ := hkeys _ _ (storesKey_of_read he.symm)
      exact ⟨f, first_subset hf, hfid⟩
    · exact (h.mono first_subset).read c cred he
  stored e he row hrow := by
    rcases mem_cons.mp he with rfl | he
    · obtain ⟨hup, key, hkey⟩ := stored_of_event hrow
      obtain ⟨f, hf, hfid, -⟩ := storesKey_first hallow hkeys hkey
      exact earned_of_stored hallow hup hf hfid
    · exact (h.mono first_subset).stored e he row hrow

theorem Honest.earned {row : ProvedRow} (h : Honest L cfg first t)
    (hrec : Recordable L cfg t.request t.history row) :
    OfSession row.sessionID t ∧ Earned L cfg first t.request row.credentialID := by
  obtain ⟨hsession, hproof⟩ := hrec
  refine ⟨hsession, ?_⟩
  rcases hproof with ⟨r, hr, hc⟩ | ⟨body, input, hroute, hinput, ⟨cred, hread, hsig⟩ | ⟨ws, r, hws, hr, hc, -⟩⟩
  · rw [← hc]
    exact h.stored _ hr r ⟨_, .inr ⟨_, rfl, rfl⟩, mem_singleton_self _⟩
  · obtain ⟨f, hf, hfid, hkey⟩ := h.read _ _ hread
    refine ⟨f, hf, hfid, .inr ?_⟩
    simpa [Request.signs, hroute, hinput, hkey, Except.toOption] using hsig
  · rw [← hc]
    exact h.stored _ hws r ⟨ws, .inl rfl, hr⟩

theorem OfSession.advance {session : Uuid} {r : Res op}
    (h : OfSession session t) : OfSession session (t.advance op r next) := by
  rcases h with h | ⟨row, hrow, hid⟩
  · exact .inl h
  · exact .inr ⟨row, mem_cons_of_mem _ hrow, hid⟩

end Step

theorem proofs_act {before after : List PasskeyThread} {op : Op} {next : Res op → Handler Reply}
    {ch : Choice} (hallow : storesOwn L cfg s (before ++ after) t op)
    (hguard : recordGuard L cfg t.request t.history op) (h : Proofs L cfg ⟨s, before ++ t :: after⟩) :
    Proofs L cfg ⟨(passkeyExec t op s ch).2,
      before ++ t.advance op (passkeyExec t op s ch).1 next :: after⟩ where
  keys _ _ hkey := storesKey_first hallow h.keys hkey
  unique := noteFirst_nodup h.unique
  threads := System.forall_advanced h.threads (fun _ hu => hu.mono first_subset)
    ((h.threads t (by simp)).advance hallow h.keys)
  proved session id hid := by
    have hmem : t.advance op (passkeyExec t op s ch).1 next ∈
        before ++ t.advance op (passkeyExec t op s ch).1 next :: after := by simp
    have hnew : s.shared.db.HasProved session id ∨ ∃ row,
        .insertSessionProvedCredential row ∈ op.effects ∧ row.sessionID = session ∧
          row.credentialID = id := by
      rcases exec_db op s.shared ch with hdb | happly
      · exact .inl (hdb ▸ hid)
      · exact hasProved_of_applyAll happly hid
    rcases hnew with hold | ⟨row, hrow, rfl, rfl⟩
    · exact System.exists_advanced (h.proved session id hold)
        (fun _ hu => ⟨hu.1, hu.2.mono first_subset⟩)
        (fun ht => ⟨ht.1.advance, ht.2.mono first_subset⟩)
    · obtain ⟨hsession, hearned⟩ := (h.threads t (by simp)).earned (hguard row hrow)
      exact ⟨_, hmem, hsession.advance, hearned.mono first_subset⟩

theorem hasProvedCredential_true_iff (session : Uuid) (id : String) (s : Shared) :
    (∃ s', Runs exec (hasProvedCredential session id) s (.ok true) s') ↔
      id ≠ "" ∧ s.db.HasProved session id := by
  have hany : (s.db.proved.rows.any fun r => r.sessionID == session && r.credentialID == id) = true ↔
      s.db.HasProved session id := by
    simp [Db.HasProved]
  unfold hasProvedCredential
  split_ifs with hid
  · simp [hid]
  simp only [runs_bind_ok, runs_runQuery_ok, ne_eq, hid, not_false_eq_true, true_and, ← hany]
  constructor
  · rintro ⟨s', r, s₁, ⟨rfl, hr⟩, h⟩
    obtain ⟨rfl, -⟩ := runs_orFail.mp h
    rcases hr with hr | ⟨pick, hr⟩
    · cases hr
    · exact (Except.ok.inj hr).symm
  · intro h
    exact ⟨s, .ok true, s, ⟨rfl, .inr ⟨0, congrArg Except.ok h.symm⟩⟩,
      runs_orFail.mpr ⟨rfl, rfl⟩⟩

/-- Whenever a session has proved a credential that no party of the session stored
first, a request of the session signs under the key it was first stored with. -/
def ProvedBySignature (L : Libraries) (cfg : WebAuthnConfig)
    (c : Config Request Op Res HttpFail Reply Ledger) : Prop :=
  ∀ session id s', Runs exec (hasProvedCredential session id) c.state.shared (.ok true) s' →
    ∀ f ∈ c.state.first, f.credentialID = id →
      (∀ t ∈ c.threads, OfSession session t → t.request.party ≠ f.party) →
      ∃ t ∈ c.threads, OfSession session t ∧ t.request.signs L cfg f.key = true

def Ledger.Fresh (s : Ledger) : Prop :=
  s.shared.db.credentials.rows = [] ∧ s.shared.db.proved.rows = [] ∧ s.first = []

theorem Reachable.proofs {c : Config Request Op Res HttpFail Reply Ledger} (hstart : s.Fresh)
    (h : (passkeySystem L cfg).Reachable (storesOwn L cfg) s c) :
    Proofs L cfg c := by
  obtain ⟨hcreds, hproved, hfirst⟩ := hstart
  refine h.invariant (fun req => guarded (recordGuard L cfg req)) (Proofs L cfg)
    obeys_body ?_ ?_ ?_ (fun _ _ _ e => nomatch e) ?_
  · exact fun _ op s ch => exec_legal op s.shared ch
  · exact
      { keys := fun id key hk => by simp [Db.StoresKey, hcreds] at hk
        unique := by simp [hfirst]
        threads := by simp
        proved := fun session id hp => by simp [Db.HasProved, hproved] at hp }
  · intro s ts req h
    have hnew : Honest L cfg s.first ⟨req, [], (passkeySystem L cfg).body req⟩ :=
      ⟨by simp, by simp⟩
    refine ⟨h.keys, h.unique, ?_, fun session id hp => ?_⟩
    · intro t ht
      rcases mem_append.mp ht with ht | ht
      · exact h.threads t ht
      · exact mem_singleton.mp ht ▸ hnew
    · obtain ⟨t, ht, hs⟩ := h.proved session id hp
      exact ⟨t, mem_append_left _ ht, hs⟩
  · intro s before after t op next ch _ hallow hguard h
    exact proofs_act hallow hguard h

/-- In a run in which every stored credential is stored again only by its first party
or its key holder, proved credentials are proved. -/
theorem proved_by_signature_of_storesOwn (s : Ledger)
    (c : Config Request Op Res HttpFail Reply Ledger) (hstart : s.Fresh)
    (hrun : (passkeySystem L cfg).Reachable (storesOwn L cfg) s c) : ProvedBySignature L cfg c := by
  intro session id s' hhas f hf hid hother
  have h := Reachable.proofs hstart hrun
  obtain ⟨-, hproved⟩ := (hasProvedCredential_true_iff session id c.state.shared).mp ⟨s', hhas⟩
  obtain ⟨t, ht, hsession, f', hf', hid', hearned⟩ := h.proved session id hproved
  obtain rfl : f' = f := inj_on_of_nodup_map h.unique hf' hf (hid'.trans hid.symm)
  rcases hearned with hparty | hsigns
  · exact absurd hparty.symm (hother t ht hsession)
  · exact ⟨t, ht, hsession, hsigns⟩

namespace Sample

def authenticationBody : FinishAuthenticationRequest where
  rawID := .of credentialID
  clientDataJSON := .of (clientDataJSON "webauthn.get" authenticationChallenge)
  authenticatorData := .of authenticatorData
  signature := .of signature
  chromeExtensionID := ""
  extensionIDHeader := ""

def choice (id : Uuid) (first : Nat) : Choice where
  uuid := id
  bytes := (List.range 32).map fun i => UInt8.ofNat (first + i)
  deployed := .ok ⟨"", "", "", true, false⟩

def served (thread party : Nat) (route : Route) (first steps : Nat) :
    List (System.Move Request Choice Empty) :=
  .arrive ⟨party, ⟨party, party⟩, route⟩ ::
    List.replicate steps (.act thread (choice (100 + thread) first))

def emptyLedger : Ledger := ⟨⟨Db.empty, []⟩, []⟩

theorem emptyLedger_fresh : emptyLedger.Fresh := ⟨rfl, rfl, rfl⟩

def registerThenSign : List (System.Move Request Choice Empty) :=
  served 0 1 (.registrationBegin ⟨"", "", "", "", ""⟩) 0 6 ++
  served 1 1 (.registrationFinish (some (registrationBody intruderKey))) 0 9 ++
  served 2 2 (.authenticationBegin ⟨"", "", "", "", ""⟩) 32 5 ++
  served 3 2 (.authenticationFinish (some authenticationBody)) 32 15

theorem proved_by_signature_of_storesOwn_signed : ∃ c,
    (passkeySystem libraries config).Reachable (storesOwn libraries config) emptyLedger c ∧
    c.state.shared.db.proved.rows.map ProvedRow.sessionID = [1, 103] ∧
    ProvedBySignature libraries config c := by
  have h : ∃ c ∈ (passkeySystem libraries config).schedule (storesOwn libraries config)
      ⟨emptyLedger, []⟩ registerThenSign,
      c.state.shared.db.proved.rows.map ProvedRow.sessionID = [1, 103] := by
    decide +kernel
  obtain ⟨c, hc, hrows⟩ := h
  have hrun := System.schedule_sound _ _ _ hc
  exact ⟨c, hrun, hrows, proved_by_signature_of_storesOwn _ c emptyLedger_fresh hrun⟩

def registerTwice : List (System.Move Request Choice Empty) :=
  served 0 1 (.registrationBegin ⟨"", "", "", "", ""⟩) 0 6 ++
  served 1 1 (.registrationFinish (some (registrationBody ownerKey))) 0 9 ++
  served 2 2 (.registrationBegin ⟨"", "", "", "", ""⟩) 0 6 ++
  served 3 2 (.registrationFinish (some (registrationBody intruderKey))) 0 9

def Route.isRegistration : Route → Bool
  | .registrationBegin _ => true
  | .registrationFinish _ => true
  | _ => false

def opensSession (e : Event Res) : Bool :=
  match e.1 with
  | .write (.insertWebappSession _) => true
  | _ => false

theorem ofSession_of_not_opens {session : Uuid} (ht : t.history.any opensSession = false)
    (h : OfSession session t) :
    t.request.session.sessionID = session := by
  rcases h with h | ⟨row, hrow, -⟩
  · exact h
  · have := any_eq_false.mp ht _ hrow
    exact absurd rfl this

theorem signs_of_isRegistration {req : Request} {key : Bytes}
    (h : Route.isRegistration req.route = true) : req.signs libraries config key = false := by
  unfold Request.signs
  split
  · rename_i hroute
    rw [hroute] at h
    cases h
  · rfl

theorem registration_proves_without_signature : ∃ c,
    (passkeySystem libraries config).Reachable System.anySchedule emptyLedger c ∧
    ¬ ProvedBySignature libraries config c := by
  have h : ∃ c ∈ (passkeySystem libraries config).schedule System.anySchedule
      ⟨emptyLedger, []⟩ registerTwice,
      (c.state.shared.db.proved.rows.any fun r => r.sessionID == 2 &&
        r.credentialID == base64UrlEncode credentialID) = true ∧
      c.state.first = [⟨base64UrlEncode credentialID, 1, ownerKey⟩] ∧
      ∀ t ∈ c.threads, t.request.party = t.request.session.sessionID ∧
        Route.isRegistration t.request.route = true ∧ t.history.any opensSession = false := by
    decide +kernel
  obtain ⟨c, hc, hproved, hfirst, hthreads⟩ := h
  refine ⟨c, System.schedule_sound _ _ _ hc, fun hsig => ?_⟩
  have hhas : c.state.shared.db.HasProved 2 (base64UrlEncode credentialID) := by
    simpa [Db.HasProved] using hproved
  obtain ⟨s', hrun⟩ := (hasProvedCredential_true_iff 2 _ c.state.shared).mpr
    ⟨by decide +kernel, hhas⟩
  obtain ⟨t, ht, -, hsigns⟩ := hsig 2 _ s' hrun ⟨base64UrlEncode credentialID, 1, ownerKey⟩
    (hfirst ▸ mem_singleton_self _) rfl fun t ht hs => by
      obtain ⟨hparty, -, hopens⟩ := hthreads t ht
      rw [hparty, ofSession_of_not_opens hopens hs]
      decide
  rw [signs_of_isRegistration (hthreads t ht).2.1] at hsigns
  cases hsigns

end Sample

end LatchApi.WebAuthn
