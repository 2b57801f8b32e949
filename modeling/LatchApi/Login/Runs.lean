import LatchApi.Store.Effects
import LatchApi.WebAuthn.Takeover

namespace LatchApi.Login

open Lib Program Store WebAuthn List

def elsewhere (shared s : Shared) : Option Shared :=
  some { shared with db := { shared.db with credentials := s.db.credentials } }

def loginSystem (L : Libraries) : System FinishAuthenticationInput Op Res CeremonyError
    AuthenticatedCredential Shared Choice Shared where
  body := finishAuthentication L
  exec _ := exec
  world := elsewhere

abbrev LoginThread :=
  Thread FinishAuthenticationInput Op Res CeremonyError AuthenticatedCredential

abbrev LoginConfig :=
  Config FinishAuthenticationInput Op Res CeremonyError AuthenticatedCredential Shared

abbrev LoginSchedule :=
  System.Schedule FinishAuthenticationInput Op Res CeremonyError AuthenticatedCredential Shared

def assertedID (input : FinishAuthenticationInput) : String := base64UrlEncode input.credentialID

def carriedCount (L : Libraries) (input : FinishAuthenticationInput) : Option Nat :=
  (parseAuthenticatorData L input.authenticatorData).toOption.map AuthenticatorData.signCount

variable {L : Libraries} {input : FinishAuthenticationInput}

theorem carriedCount_of_verified {challenge : ChallengeRow} {authData : AuthenticatorData}
    (h : verifyAssertionData L input challenge = .ok authData) :
    carriedCount L input = some authData.signCount := by
  unfold verifyAssertionData at h
  split at h
  · cases h
  split at h
  · cases h
  rename_i parsed hparse
  split_ifs at h
  cases h
  simp [carriedCount, hparse, Except.toOption]

def Accepted (received : Nat) (stored : Int) : Prop := requireSignCount received stored = .ok ()

theorem Accepted.le {received : Nat} {stored : Int} (h : Accepted received stored) :
    stored ≤ received := by
  unfold Accepted requireSignCount at h
  split_ifs at h with hcond
  by_contra hlt
  exact hcond ⟨by omega, by omega⟩

theorem Accepted.lt {received : Nat} {stored : Int} (h : Accepted received stored)
    (hne : received ≠ 0) : stored < received := by
  unfold Accepted requireSignCount at h
  split_ifs at h with hcond
  by_contra hle
  exact hcond ⟨.inl hne, by omega⟩

abbrev History := Log Res

def foundOf : Event Res → Option CredentialRow
  | ⟨.read (.getWebauthnCredentialByCredentialID _), .ok row⟩ => some row
  | _ => none

def isAbsent : Event Res → Bool
  | ⟨.read (.getWebauthnCredentialByCredentialID _), .error .noRows⟩ => true
  | _ => false

def isUpdate : Event Res → Bool
  | ⟨.write (.updateWebauthnCredentialSignCount _ _), _⟩ => true
  | _ => false

def isCommit : Event Res → Bool
  | ⟨.commit _, _⟩ => true
  | _ => false

def linkOf : Write → Option (Uuid × String)
  | .relinkMultisigMembersByCredential userID credentialID => some (userID, credentialID)
  | _ => none

def found (h : History) : List CredentialRow := h.filterMap foundOf

def links (h : History) : List (Uuid × String) := h.flatMap fun e => e.1.effects.filterMap linkOf

def silent : Op → Bool
  | .read (.getWebauthnCredentialByCredentialID _) => false
  | .write (.updateWebauthnCredentialSignCount _ _) => false
  | .write (.upsertWebauthnCredential _) => false
  | .write (.relinkMultisigMembersByCredential _ _) => false
  | .commit _ => false
  | _ => true

def Tail (h₀ h : History) : Prop := ∃ es, h = es ++ h₀ ∧ ∀ e ∈ es, silent e.1 = true

variable {h : History} {op : Op}

section Tail

variable {h₀ : History} {e : Event Res}

theorem Tail.refl (h : History) : Tail h h := ⟨[], rfl, by simp⟩

theorem Tail.cons (ht : Tail h₀ h) (hop : silent op = true) (r : Res op) :
    Tail h₀ (⟨op, r⟩ :: h) := by
  obtain ⟨es, rfl, hes⟩ := ht
  refine ⟨⟨op, r⟩ :: es, rfl, fun e he => ?_⟩
  rcases mem_cons.mp he with rfl | he
  · exact hop
  · exact hes e he

theorem isAbsent_silent (h : silent e.1 = true) : isAbsent e = false := by
  unfold isAbsent
  split
  · cases h
  · rfl

theorem isCommit_silent (h : silent e.1 = true) : isCommit e = false := by
  unfold isCommit
  split
  · cases h
  · rfl

theorem link_silent (h : silent op = true) : op.effects.filterMap linkOf = [] := by
  cases op with
  | write w => cases w <;> first | rfl | cases h
  | commit ws => cases h
  | _ => rfl

theorem Tail.any_eq (ht : Tail h₀ h) {p : Event Res → Bool}
    (hp : ∀ e, silent e.1 = true → p e = false) : h.any p = h₀.any p := by
  obtain ⟨es, rfl, hes⟩ := ht
  have hnone : es.any p = false := any_eq_false.mpr fun e he => by simp [hp e (hes e he)]
  simp [hnone]

theorem Tail.links_eq (ht : Tail h₀ h) : links h = links h₀ := by
  obtain ⟨es, rfl, hes⟩ := ht
  have hnil : links es = [] := flatMap_eq_nil_iff.mpr fun e he => link_silent (hes e he)
  simp only [links, flatMap_append] at hnil ⊢
  rw [hnil, nil_append]

end Tail

def Adoption (c : String) (owner : Uuid) (ws : List Write) : Prop :=
  ∃ user row account, ws = [.insertWebappUser user, .upsertWebauthnCredential row,
      .upsertSmartAccount account, .relinkMultisigMembersByCredential owner c] ∧
    row.credentialID = c ∧ row.userID = owner

def guard (L : Libraries) (input : FinishAuthenticationInput) (h : History) : Op → Prop
  | .read (.getWebauthnCredentialByCredentialID c) => c = assertedID input
  | .write (.updateWebauthnCredentialSignCount c n) =>
    c = assertedID input ∧ h.any isUpdate = false ∧
      ∃ row ∈ found h, ∃ m, n = Int.ofNat m ∧ carriedCount L input = some m ∧
        Accepted m row.signCount
  | .write (.upsertWebauthnCredential _) => False
  | .commit ws => h.any isAbsent = true ∧ h.any isCommit = false ∧
    ∃ owner, Adoption (assertedID input) owner ws
  | _ => True

structure Ends (L : Libraries) (input : FinishAuthenticationInput) (h : History)
    (out : AuthenticatedCredential) : Prop where
  credential : out.credentialID = assertedID input
  links : links h = [(out.userID, out.credentialID)]
  stored : (∃ row ∈ found h, row.userID = out.userID ∧ ∃ n, carriedCount L input = some n ∧
      Accepted n row.signCount ∧
      written (.updateWebauthnCredentialSignCount (assertedID input) n) ∈ h) ∨
    h.any isAbsent = true ∧ ∃ ws, committed ws ∈ h ∧ Adoption (assertedID input) out.userID ws

section Obeys

variable {h₀ : History}

theorem silent_of_quiet (hop : quiet op = true) : silent op = true := by
  unfold silent
  split
  · cases hop
  · cases hop
  · cases hop
  · cases hop
  · cases hop
  · rfl

theorem free_guard : Free (guard L input) (Tail h₀) := by
  refine ⟨fun h op hop => ?_, fun h e hop ht => ht.cons (silent_of_quiet hop) e.2⟩
  unfold guard
  split
  · cases hop
  · cases hop
  · cases hop
  · cases hop
  · trivial

theorem adoption_ends {h' : History} {owner : Uuid} {row : CredentialRow} {ws : List Write}
    (habsent : h₀.any isAbsent = true) (hcommit : h₀.any isCommit = false) (hlinks : links h₀ = [])
    (ht : Tail h₀ h') (ha : Adopts L input (assertedID input) owner row ws) :
    guard L input h' (.commit ws) ∧ Ends L input (committed ws :: h') ⟨assertedID input, owner⟩ := by
  obtain ⟨user, account, rfl⟩ := ha.writes
  have hadoption : Adoption (assertedID input) owner _ :=
    ⟨user, row, account, rfl, ha.credential, ha.owner⟩
  have habsent' : h'.any isAbsent = true := (ht.any_eq fun _ => isAbsent_silent).trans habsent
  have hcommit' : h'.any isCommit = false := (ht.any_eq fun _ => isCommit_silent).trans hcommit
  refine ⟨⟨habsent', hcommit', owner, hadoption⟩, rfl, ?_, .inr ⟨habsent', _, mem_cons_self, hadoption⟩⟩
  change [(owner, assertedID input)] ++ links h' = _
  rw [ht.links_eq, hlinks]
  rfl

theorem obeys_finishAuthentication_ends :
    Obeys (guarded (guard L input)) [] (finishAuthentication L input) (onOk (Ends L input)) := by
  refine obeys_getActiveChallenge_bind (fun _ => trivial) (fun _ => trivial)
    fun uid challenge now => obeys_ofExcept_bind fun authData hverified => ?_
  refine obeys_perform_bind rfl fun r _ => ?_
  rcases r with (_ | _) | cred
  · exact obeys_adoptExternalPasskey (fun h' ws owner row ht ha => adoption_ends rfl rfl rfl ht ha)
      free_guard free_guard (Tail.refl _) fun h' ht => ⟨trivial, ht.cons rfl _⟩
  · exact .fail trivial
  · refine obeys_ofExcept_bind fun _ _ => obeys_ofExcept_bind fun _ haccepted => ?_
    have hcarried := carriedCount_of_verified hverified
    refine obeys_execute_bind trivial ?_
    refine obeys_execute_bind ⟨rfl, rfl, cred, mem_cons_self, authData.signCount, rfl, hcarried,
      haccepted⟩ ?_
    refine obeys_execute_bind trivial (.ok ⟨rfl, rfl, .inl ⟨cred, mem_cons_self, rfl, _, hcarried,
      haccepted, by simp [assertedID]⟩⟩)

end Obeys

section Runs

variable {shared : Shared} {c : LoginConfig} {allow : LoginSchedule}
  (hc : (loginSystem L).Reachable allow shared c) {t : LoginThread} (ht : t ∈ c.threads)

include hc ht

theorem ends_of_reachable {out : AuthenticatedCredential} (hout : t.rest = .ok out) :
    Ends L t.request t.history out :=
  hc.ended (fun input => guarded (guard L input)) (fun _ => obeys_finishAuthentication_ends)
    (fun _ => exec_legal) ht hout

theorem guard_of_reachable {next : Res op → Service AuthenticatedCredential}
    (hrest : t.rest = .call op next) : guard L t.request t.history op :=
  hc.guard (fun input => guarded (guard L input)) (fun _ => obeys_finishAuthentication_ends)
    (fun _ => exec_legal) ht hrest

end Runs

section Exec

variable {s : Shared} {ch : Choice} {c : String}

theorem exec_foundOf {row : CredentialRow} (h : foundOf ⟨op, (exec op s ch).1⟩ = some row) :
    ∃ c, op = .read (.getWebauthnCredentialByCredentialID c) ∧
      s.db.storedCredential c = some row := by
  unfold foundOf at h
  split at h
  · rename_i c r heq
    obtain rfl := Option.some.inj h
    obtain ⟨rfl, heq⟩ := Sigma.mk.inj heq
    have hr : (if ch.fault = .none then orNoRows (s.db.storedCredential c) else .error .failed) =
        Except.ok r := eq_of_heq heq
    refine ⟨c, rfl, ?_⟩
    split at hr
    · exact orError_eq_ok.mp hr
    · cases hr
  · cases h

theorem exec_isAbsent (h : isAbsent ⟨op, (exec op s ch).1⟩ = true) :
    ∃ c, op = .read (.getWebauthnCredentialByCredentialID c) ∧
      s.db.storedCredential c = none := by
  unfold isAbsent at h
  split at h
  · rename_i c heq
    obtain ⟨rfl, heq⟩ := Sigma.mk.inj heq
    have hr : (if ch.fault = .none then orNoRows (s.db.storedCredential c) else .error .failed) =
        Except.error DbError.noRows := eq_of_heq heq
    refine ⟨c, rfl, ?_⟩
    split at hr
    · exact orNoRows_eq_noRows.mp hr
    · cases hr
  · cases h

theorem exec_stored (hg : guard L input h op) (s : Shared) (ch : Choice) (c : String) :
    (exec op s ch).2.db.storedCredential c = s.db.storedCredential c ∨
      assertedID input = c ∧
        ((∃ n, op = .write (.updateWebauthnCredentialSignCount c n) ∧
            (exec op s ch).2.db.storedCredential c =
              (s.db.storedCredential c).map fun r => { r with signCount := n }) ∨
          ∃ ws owner row, op = .commit ws ∧ Adoption c owner ws ∧ row.userID = owner ∧
            (exec op s ch).2.db.storedCredential c =
              some ((s.db.storedCredential c).elim row row.overwrite)) := by
  rcases storedCredential_of_exec op s ch c with heq | heq
  · exact .inl heq
  cases op with
  | write w =>
    cases w with
    | updateWebauthnCredentialSignCount c' n =>
      obtain ⟨rfl, -⟩ := hg
      by_cases hc : assertedID input = c
      · subst hc
        refine .inr ⟨rfl, .inl ⟨n, rfl, ?_⟩⟩
        simpa [Op.effects, Write.onCredential] using heq
      · left
        simpa [Op.effects, Write.onCredential, hc] using heq
    | upsertWebauthnCredential row => cases hg
    | _ => exact .inl heq
  | commit ws =>
    obtain ⟨-, -, owner, user, row, account, rfl, hid, howner⟩ := hg
    by_cases hc : assertedID input = c
    · subst hc
      refine .inr ⟨rfl, .inr ⟨_, owner, row, rfl, ⟨user, row, account, rfl, hid, howner⟩,
        howner, ?_⟩⟩
      simpa [Op.effects, Write.onCredential, hid] using heq
    · left
      simpa [Op.effects, Write.onCredential, hid, hc] using heq
  | _ => exact .inl heq

end Exec

namespace Sample

open WebAuthn.Sample (bytesOf credentialID clientDataJSON rpIDHash coseKey config)

structure Assertion where
  user : Uuid
  challenge : String
  count : UInt8
  digest : Bytes
  signature : Bytes

def passkey : Bytes :=
  bytesOf 33 0x0443ddba1f6c491058472e9fbeb0f2cf5f571880d898f17604cbf001d888fc8ee0 ++
    bytesOf 32 0x1be522ab04ebd73b851c12bfb226adb35a57799f7fef395825bfc58e47abcb66

def first : Assertion where
  user := 2
  challenge := "ICEiIyQlJicoKSorLC0uLzAxMjM0NTY3ODk6Ozw9Pj8"
  count := 5
  digest := bytesOf 32 0xde47203da8cf1e851802eda0d507d5b6e9259ccb21bd8d27a99eee4dc9cc5f50
  signature :=
    bytesOf 37 0x3046022100d7856cd94cce3284ccc4d6d6cda1e53dde7872a46ed0970af4e15b60a59dcc8c ++
      bytesOf 35 0x022100f9bf7ddc59afe03eb37e6f83db5822f13bf698fd4bfb5b8933a2cc19fbc6baf9

def second : Assertion where
  user := 3
  challenge := "QEFCQ0RFRkdISUpLTE1OT1BRUlNUVVZXWFlaW1xdXl8"
  count := 6
  digest := bytesOf 32 0x5c5a965d507d5d640c00fba46faac3269be903816ae8c96bf126b0e6f0d4b49a
  signature :=
    bytesOf 37 0x3045022100aecceb6791f5b15cd4aa16f1e62b13cc73c4d5a263e2f7428bc6eeadea1140d4 ++
      bytesOf 34 0x022079a8895034bace87b46efddc5859daa4b0ce0d9cd054259bf68f5f28a4d8edc5

def Assertion.clientData (a : Assertion) : Bytes := clientDataJSON "webauthn.get" a.challenge

def libraries : Libraries where
  unmarshalClientData b :=
    ([first, second].find? fun a => a.clientData = b).map fun a =>
      ⟨"webauthn.get", a.challenge, "http://localhost:3000"⟩
  unmarshalAttestation _ := none
  unmarshalCoseKey _ := none
  marshalCoseKey key := coseKey (0x04 :: key.x ++ key.y)
  unmarshalFirst _ := none
  parseUrl := WebAuthn.Sample.libraries.parseUrl
  onCurve key := key = passkey
  verifyASN1 key digest signature := key = passkey ∧
    ∃ a ∈ [first, second], digest = a.digest ∧ signature = a.signature

def login (a : Assertion) : FinishAuthenticationInput where
  userID := .of a.user
  credentialID := credentialID
  clientDataJSON := a.clientData
  authenticatorData := rpIDHash ++ [0x01, 0, 0, 0, a.count]
  signature := a.signature
  chromeExtensionIDFromBody := ""
  extensionIDHeader := ""
  config := config

def challengeRow (id : Uuid) (a : Assertion) : ChallengeRow where
  id := id
  userID := some a.user
  purpose := .authentication
  challenge := a.challenge
  rpID := "localhost"
  origin := "http://localhost:3000"
  expiresAt := 300000
  createdAt := 0

def database : Db :=
  { Db.empty with
    challenges := ⟨[challengeRow 20 first, challengeRow 21 second], by decide, by decide⟩ }

abbrev Moves := List (System.Move FinishAuthenticationInput Choice Shared)

def acts (i n : Nat) (uuid : Uuid) : Moves := List.replicate n (.act i { uuid := uuid })

end Sample

end LatchApi.Login
