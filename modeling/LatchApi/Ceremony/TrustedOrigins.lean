import Mathlib.Data.List.TakeWhile
import LatchApi.Ceremony.Runs
import LatchApi.WebAuthn.Takeover

/-!
Which origins complete a ceremony. The begin call takes the extension id from whatever source names
one, and only the finish call looks at the allow-list; the stored origin of an extension never
serves the web branch of the finish call, since a response from it is an extension's response.
-/

namespace LatchApi.WebAuthn

open Lib Store List

variable {row : ChallengeRow} {expected : FinishVerification} {candidates : List String}
  {wantType : String} {clientDataJSON : Bytes}

section Resolve

variable {L : Libraries} {cfg : WebAuthnConfig}

theorem valid_of_resolveExtensionIDFrom {found : Option String} {cs : List String} {id : String}
    (hfound : ∀ f, found = some f → isValidChromeExtensionID f = true)
    (h : resolveExtensionIDFrom found cs = .ok (some id)) : isValidChromeExtensionID id = true := by
  induction cs generalizing found with
  | nil => exact hfound id (Except.ok.inj h)
  | cons c cs ih =>
    unfold resolveExtensionIDFrom at h
    split_ifs at h with hskip
    · exact ih hfound h
    split at h
    · refine ih (fun f hf => ?_) h
      cases hf
      simpa using (not_or.mp hskip).2
    · split_ifs at h
      exact ih hfound h

theorem resolveWebRPIDAndOrigin_of_production (hdev : cfg.isDevelopment = false)
    (requestHost : String) : resolveWebRPIDAndOrigin cfg requestHost = (cfg.rpID, cfg.origin) := by
  simp [resolveWebRPIDAndOrigin, hdev]

theorem context_of_production (hdev : cfg.isDevelopment = false) {input : CeremonyBeginInput}
    {rpID origin : String} (h : resolveCeremonyContext L input cfg = .ok (rpID, origin)) :
    rpID = cfg.rpID ∧ (origin = cfg.origin ∨
      ∃ id, isValidChromeExtensionID id = true ∧ origin = "chrome-extension://" ++ id) := by
  simp only [resolveCeremonyContext, bind, Except.bind] at h
  split at h
  · cases h
  rename_i found hfound
  cases found with
  | none =>
    rw [resolveWebRPIDAndOrigin_of_production hdev] at h
    cases h
    exact ⟨rfl, .inl rfl⟩
  | some id =>
    cases h
    exact ⟨rfl, .inr ⟨id, valid_of_resolveExtensionIDFrom (fun f hf => by cases hf) hfound, rfl⟩⟩

theorem addCandidate_subset {out : List String} {c : String} : addCandidate out c ⊆ out ++ [c] := by
  unfold addCandidate
  split
  · exact subset_append_left _ _
  · exact Subset.refl _

theorem foldl_subset {α : Type} {f : List α → α → List α} {cs : List α}
    (hf : ∀ out, ∀ c ∈ cs, f out c ⊆ out ++ [c]) (out : List α) : cs.foldl f out ⊆ out ++ cs := by
  induction cs generalizing out with
  | nil => simp
  | cons c cs ih =>
    have hrest := ih (fun out c hc => hf out c (mem_cons_of_mem _ hc)) (f out c)
    have hfirst := hf out c mem_cons_self
    intro x hx
    rcases mem_append.mp (hrest hx) with hx | hx
    · rcases mem_append.mp (hfirst hx) with hx | hx
      · exact mem_append_left _ hx
      · obtain rfl := mem_singleton.mp hx
        exact mem_append_right _ mem_cons_self
    · exact mem_append_right _ (mem_cons_of_mem _ hx)

theorem dedupe_subset (hweb : ∀ c ∈ candidates, parseChromeExtensionIDFromURL L c = none) :
    dedupe L candidates ⊆ candidates := by
  refine foldl_subset (fun out c hc => ?_) []
  rw [hweb c hc]
  exact addCandidate_subset

theorem finishVerification_cases {input : CeremonyFinishInput} {challenge : StoredChallengeContext}
    (h : resolveFinishVerification L input challenge cfg = .ok expected) :
    (∃ id ∈ cfg.allowedExtensionIDs, expected = ⟨"chrome-extension://" ++ id, dedupe L [cfg.rpID]⟩) ∨
      parseChromeExtensionIDFromURL L input.clientDataOrigin = none ∧
        input.clientDataOrigin = challenge.origin ∧
        expected = ⟨challenge.origin, dedupe L [challenge.rpID, challenge.origin]⟩ := by
  simp only [resolveFinishVerification, bind, Except.bind, throw, throwThe, MonadExceptOf.throw,
    pure, Except.pure] at h
  split at h
  · cases h
  split at h
  · split_ifs at h with hallowed
    exact .inl ⟨_, hallowed, (Except.ok.inj h).symm⟩
  split at h
  · split_ifs at h with hallowed
    exact .inl ⟨_, hallowed, (Except.ok.inj h).symm⟩
  rename_i hweb
  split_ifs at h with horigin
  exact .inr ⟨hweb, not_not.mp horigin, (Except.ok.inj h).symm⟩

theorem verifyClientData_ok {cd : ClientData} {wantChallenge wantOrigin : String}
    (h : verifyClientData cd wantType wantChallenge wantOrigin = .ok ()) :
    cd.origin = wantOrigin := by
  unfold verifyClientData at h
  split_ifs at h with htype hchallenge horigin
  exact not_not.mp horigin

theorem verifyCeremony_ok {fromBody header : String}
    (h : verifyCeremony L clientDataJSON fromBody header cfg wantType row = .ok expected) :
    ∃ cd, L.unmarshalClientData clientDataJSON = some cd ∧ cd.origin = expected.expectedOrigin ∧
      resolveFinishVerification L ⟨fromBody, header, cd.origin⟩ ⟨row.rpID, row.origin⟩ cfg =
        .ok expected := by
  unfold verifyCeremony at h
  split at h
  · cases h
  rename_i cd hcd
  split at h
  · cases h
  rename_i expected' hresolve
  split at h
  · cases h
  rename_i hclient
  cases h
  exact ⟨cd, hcd, verifyClientData_ok hclient, hresolve⟩

theorem verifyRegistration_ok {input : FinishRegistrationInput} {a : AttestedCredential}
    (h : verifyRegistration L input row = .ok a) :
    ∃ expected authData, verifyCeremony L input.clientDataJSON input.chromeExtensionIDFromBody
        input.extensionIDHeader input.config "webauthn.create" row = .ok expected ∧
      decodeAttestation L input.attestationObject = .ok authData ∧
      rpIDHashMatchesAny authData.rpIDHash expected.expectedRPIDs = true := by
  unfold verifyRegistration verifyAttestation at h
  split at h
  · cases h
  rename_i expected hexpected
  split at h
  · cases h
  rename_i authData hdecode
  split_ifs at h with hattested hpresent hhash
  exact ⟨expected, authData, hexpected, hdecode, by simpa using hhash⟩

theorem verifyAssertionData_ok {input : FinishAuthenticationInput} {authData : AuthenticatorData}
    (h : verifyAssertionData L input row = .ok authData) :
    ∃ expected, verifyCeremony L input.clientDataJSON input.chromeExtensionIDFromBody
        input.extensionIDHeader input.config "webauthn.get" row = .ok expected ∧
      parseAuthenticatorData L input.authenticatorData = .ok authData ∧
      rpIDHashMatchesAny authData.rpIDHash expected.expectedRPIDs = true := by
  unfold verifyAssertionData at h
  split at h
  · cases h
  rename_i expected hexpected
  split at h
  · cases h
  rename_i authData' hparse
  split_ifs at h with hpresent hhash
  cases h
  exact ⟨expected, hexpected, hparse, by simpa using hhash⟩

end Resolve

end LatchApi.WebAuthn

namespace LatchApi.Ceremony

open Lib Program Store WebAuthn

def ParsesExtensionOrigins (L : Libraries) : Prop :=
  ∀ id, isValidChromeExtensionID id = true →
    L.parseUrl ("chrome-extension://" ++ id) = some ⟨"chrome-extension", id⟩

structure Production (L : Libraries) (cfg : WebAuthnConfig) : Prop where
  notDevelopment : cfg.isDevelopment = false
  webOrigin : parseChromeExtensionIDFromURL L cfg.origin = none
  webRPID : parseChromeExtensionIDFromURL L cfg.rpID = none

def Request.Configured (L : Libraries) (cfg : WebAuthnConfig) : Request → Prop
  | .beginRegistration _ rpID origin =>
    ∃ input, resolveCeremonyContext L input cfg = .ok (rpID, origin)
  | .beginAuthentication _ rpID origin =>
    ∃ input, resolveCeremonyContext L input cfg = .ok (rpID, origin)
  | .finishRegistration input => input.config = cfg
  | .finishAuthentication input => input.config = cfg

/-- The configured site may use its relying party id or its origin, an allow-listed extension only
the relying party id. -/
def Trusts (cfg : WebAuthnConfig) (origin : String) (rpIDHash : Bytes) : Prop :=
  (origin = cfg.origin ∧
    (rpIDHash = sha256 (textBytes cfg.rpID) ∨ rpIDHash = sha256 (textBytes cfg.origin))) ∨
  (∃ id ∈ cfg.allowedExtensionIDs, origin = "chrome-extension://" ++ id) ∧
    rpIDHash = sha256 (textBytes cfg.rpID)

def Request.Trusted (L : Libraries) (cfg : WebAuthnConfig) : Request → Prop
  | .finishRegistration input => ∃ cd authData, L.unmarshalClientData input.clientDataJSON = some cd ∧
    decodeAttestation L input.attestationObject = .ok authData ∧
    Trusts cfg cd.origin authData.rpIDHash
  | .finishAuthentication input => ∃ cd authData,
    L.unmarshalClientData input.clientDataJSON = some cd ∧
    parseAuthenticatorData L input.authenticatorData = .ok authData ∧
    Trusts cfg cd.origin authData.rpIDHash
  | _ => True

section Runs

variable {L : Libraries} {cfg : WebAuthnConfig}

theorem parse_extensionOrigin (hurl : ParsesExtensionOrigins L) {id : String}
    (hid : isValidChromeExtensionID id = true) :
    parseChromeExtensionIDFromURL L ("chrome-extension://" ++ id) = some id := by
  have hne : "chrome-extension://" ++ id ≠ "" := by
    intro h
    have hlen := congrArg String.length h
    rw [String.length_append] at hlen
    have hpos : 0 < "chrome-extension://".length := by decide
    have hzero : "".length = 0 := rfl
    omega
  rw [parseChromeExtensionIDFromURL, if_neg hne, hurl id hid]
  exact if_pos ⟨rfl, hid⟩

def Recorded (cfg : WebAuthnConfig) (row : ChallengeRow) : Prop :=
  row.rpID = cfg.rpID ∧ (row.origin = cfg.origin ∨
    ∃ id, isValidChromeExtensionID id = true ∧ row.origin = "chrome-extension://" ++ id)

theorem recorded_of_issued (hprod : Production L cfg) {t : CeremonyThread}
    (ht : t.request.Configured L cfg) (h : Issued row t) :
    Recorded cfg row := by
  have hctx := h.context
  cases hreq : t.request with
  | beginRegistration userID rpID origin | beginAuthentication userID rpID origin =>
    rw [hreq] at ht hctx
    obtain ⟨input, hinput⟩ := ht
    cases hctx
    exact context_of_production hprod.notDevelopment hinput
  | finishRegistration input | finishAuthentication input =>
    rw [hreq] at hctx
    cases hctx

theorem hash_of_matches {rpIDHash : Bytes}
    (hweb : ∀ c ∈ candidates, parseChromeExtensionIDFromURL L c = none)
    (h : rpIDHashMatchesAny rpIDHash (dedupe L candidates) = true) :
    ∃ c ∈ candidates, rpIDHash = sha256 (textBytes c) := by
  obtain ⟨c, hc, hhash⟩ := List.any_eq_true.mp h
  exact ⟨c, dedupe_subset hweb hc, (beq_iff_eq.mp hhash).symm⟩

theorem trusts_of_verifyCeremony (hurl : ParsesExtensionOrigins L) (hprod : Production L cfg)
    {rpIDHash : Bytes} {fromBody header : String} (hrow : Recorded cfg row)
    (h : verifyCeremony L clientDataJSON fromBody header cfg wantType row = .ok expected)
    (hhash : rpIDHashMatchesAny rpIDHash expected.expectedRPIDs = true) :
    ∃ cd, L.unmarshalClientData clientDataJSON = some cd ∧ Trusts cfg cd.origin rpIDHash := by
  obtain ⟨cd, hcd, horigin, hresolve⟩ := verifyCeremony_ok h
  refine ⟨cd, hcd, ?_⟩
  rcases finishVerification_cases hresolve with ⟨id, hid, rfl⟩ | ⟨hweb, hsame, rfl⟩
  · obtain ⟨c, hc, hsha⟩ := hash_of_matches (by simpa using hprod.webRPID) hhash
    obtain rfl := List.mem_singleton.mp hc
    exact .inr ⟨⟨id, hid, horigin⟩, hsha⟩
  · dsimp only at hweb hsame hhash
    obtain ⟨hrpID, hstored | ⟨id, hid, hstored⟩⟩ := hrow
    · rw [hrpID, hstored] at hhash
      obtain ⟨c, hc, hsha⟩ := hash_of_matches
        (by simpa using ⟨hprod.webRPID, hprod.webOrigin⟩) hhash
      refine .inl ⟨horigin.trans hstored, ?_⟩
      rcases List.mem_cons.mp hc with rfl | hc
      · exact .inl hsha
      · obtain rfl := List.mem_singleton.mp hc
        exact .inr hsha
    · -- the response would come from the extension that the begin call named
      have hparse := parse_extensionOrigin hurl hid
      rw [← hstored, ← hsame] at hparse
      cases hweb.symm.trans hparse

/-- In every run of a production configuration, a finish call succeeds only for a response from the
configured origin or from an allow-listed extension, made for the configured relying party. -/
theorem trusted_of_succeeded (L : Libraries) (mint : Nat → Uuid) (cfg : WebAuthnConfig)
    (hurl : ParsesExtensionOrigins L) (hprod : Production L cfg) (shared : Shared)
    (c : CeremonyConfig)
    (hc : (ceremonySystem L mint).Reachable System.anySchedule (start shared) c)
    (hcfg : ∀ t ∈ c.threads, t.request.Configured L cfg) :
    ∀ t ∈ c.threads, t.succeeded = true → t.request.Trusted L cfg := by
  intro t ht hs
  have hend := ends_of_reachable hc ht hs
  have hrecorded : ∀ row ∈ reads t.history, Recorded cfg row := by
    intro row hrow
    obtain ⟨u, hu, hissued⟩ := (traced_of_reachable hc).read t ht row hrow
    exact recorded_of_issued hprod (hcfg u hu) hissued
  have hconf := hcfg t ht
  cases hreq : t.request with
  | finishRegistration input =>
    rw [hreq] at hend hconf
    obtain ⟨row, hconsumed, a, hverify⟩ := hend rfl
    obtain rfl : input.config = cfg := hconf
    obtain ⟨expected, authData, hceremony, hdecode, hhash⟩ := verifyRegistration_ok hverify
    obtain ⟨cd, hcd, htrusts⟩ :=
      trusts_of_verifyCeremony hurl hprod (hrecorded row hconsumed.1) hceremony hhash
    exact ⟨cd, authData, hcd, hdecode, htrusts⟩
  | finishAuthentication input =>
    rw [hreq] at hend hconf
    obtain ⟨row, hconsumed, authData, hverify⟩ := hend rfl
    obtain rfl : input.config = cfg := hconf
    obtain ⟨expected, hceremony, hparse, hhash⟩ := verifyAssertionData_ok hverify
    obtain ⟨cd, hcd, htrusts⟩ :=
      trusts_of_verifyCeremony hurl hprod (hrecorded row hconsumed.1) hceremony hhash
    exact ⟨cd, authData, hcd, hparse, htrusts⟩
  | _ => trivial

end Runs

namespace Sample

open WebAuthn.Sample

/-- Scheme and host, of a text that has them. -/
def parseUrl (u : String) : Option Url :=
  let rest := u.toList.dropWhile (· ≠ ':')
  if [':', '/', '/'].isPrefixOf rest then
    some ⟨String.ofList (u.toList.takeWhile (· ≠ ':')),
      String.ofList ((rest.drop 3).takeWhile (· ≠ '/'))⟩
  else none

def parsing : Libraries := { libraries with parseUrl := parseUrl }

theorem parsing_parses : ParsesExtensionOrigins parsing := by
  intro id hid
  rw [isValidChromeExtensionID, Bool.and_eq_true, List.all_eq_true] at hid
  have hhost : id.toList.takeWhile (fun c => !decide (c = '/')) = id.toList := by
    rw [List.takeWhile_eq_self_iff]
    intro c hc
    have hle := (of_decide_eq_true (hid.2 c hc)).1
    rw [Bool.not_eq_true', decide_eq_false_iff_not]
    rintro rfl
    exact absurd hle (by decide)
  have hurl : ("chrome-extension://" ++ id).toList =
      "chrome-extension".toList ++ [':', '/', '/'] ++ id.toList := String.toList_append
  change parseUrl _ = _
  simp [parseUrl, hurl, hhost]

theorem production : Production parsing config :=
  ⟨rfl, by decide +kernel, by decide +kernel⟩

def Plain : Request → Prop
  | .beginRegistration _ rpID origin => rpID = config.rpID ∧ origin = config.origin
  | .beginAuthentication _ rpID origin => rpID = config.rpID ∧ origin = config.origin
  | .finishRegistration input => input.config = config
  | .finishAuthentication input => input.config = config

instance (req : Request) : Decidable (Plain req) := by
  cases req <;> unfold Plain <;> infer_instance

theorem configured_of_plain {req : Request} (h : Plain req) : req.Configured parsing config := by
  have hweb : resolveCeremonyContext parsing ⟨"", "", "", "", ""⟩ config =
      .ok (config.rpID, config.origin) := rfl
  cases req with
  | finishRegistration input => exact h
  | finishAuthentication input => exact h
  | _ =>
    obtain ⟨rfl, rfl⟩ := h
    exact ⟨_, hweb⟩

def registersFromSite : List (System.Move Request Choice Shared) :=
  .arrive (.beginRegistration (.of 2) "localhost" "http://localhost:3000") ::
    List.replicate 6 (.act 0 { bytes := (List.range 32).map UInt8.ofNat }) ++
  .arrive (.finishRegistration (registration 2 ownerKey)) :: List.replicate 6 (.act 1 {})

theorem registered_from_site :
    ∃ c, (ceremonySystem parsing id).Reachable System.anySchedule (start ⟨Db.empty, []⟩) c ∧
      c.threads.map Thread.succeeded = [true, true] ∧
      ∀ t ∈ c.threads, t.succeeded = true → t.request.Trusted parsing config := by
  obtain ⟨c, hrun, hsucceeded, hplain⟩ : ∃ c, (ceremonySystem parsing id).Reachable
      System.anySchedule (start ⟨Db.empty, []⟩) c ∧
      c.threads.map Thread.succeeded = [true, true] ∧ ∀ t ∈ c.threads, Plain t.request :=
    System.exists_reachable registersFromSite (by decide +kernel)
  exact ⟨c, hrun, hsucceeded, trusted_of_succeeded parsing id config parsing_parses production
    ⟨Db.empty, []⟩ c hrun fun t ht => configured_of_plain (hplain t ht)⟩

end Sample

end LatchApi.Ceremony
