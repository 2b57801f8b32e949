import LatchApi.WebAuthn.Service

namespace LatchApi.WebAuthn

open Lib Program Store List

/-- A call that changes nothing and looks up neither a challenge nor a credential. -/
def quiet : Op → Bool
  | .read (.getLatestWebauthnChallenge _ _) => false
  | .read (.getWebauthnCredentialByCredentialID _) => false
  | .write _ => false
  | .commit _ => false
  | _ => true

theorem effects_of_quiet {op : Op} (h : quiet op = true) : op.effects = [] := by
  cases op with
  | write w => cases h
  | commit ws => cases h
  | _ => rfl

structure Free (g : Log Res → Op → Prop) (J : Log Res → Prop) : Prop where
  guard : ∀ h op, quiet op = true → g h op
  keeps : ∀ h e, quiet e.1 = true → J h → J (e :: h)

variable {g : Log Res → Op → Prop} {J : Log Res → Prop} {context : String}

section Calls

variable {h : Log Res} {α β ε : Type} {R : Log Res → β → Prop}

theorem obeys_parseUserID_bind {userID : Encoded Uuid} {f : Uuid → Service β}
    (hf : ∀ uid, Obeys (guarded g) h (f uid) (onOk R)) :
    Obeys (guarded g) h (parseUserID userID >>= f) (onOk R) := by
  unfold parseUserID
  split
  · exact hf _
  · exact .fail trivial

theorem obeys_execute {w : Write} {P : Log Res → Unit → Prop} (hw : g h (.write w))
    (hP : P (written w :: h) ()) :
    Obeys (guarded g) h (execute context w) (onOk P) := by
  refine obeys_perform_bind hw fun r _ => ?_
  cases r with
  | error e => exact .fail trivial
  | ok _ => exact .ok hP

theorem obeys_execute_bind {w : Write} {f : Unit → Service β} (hw : g h (.write w))
    (hf : Obeys (guarded g) (written w :: h) (f ()) (onOk R)) :
    Obeys (guarded g) h (execute context w >>= f) (onOk R) := by
  refine (obeys_execute (P := fun h' _ => h' = written w :: h) hw rfl).bind_onOk ?_
  rintro _ _ rfl
  exact hf

theorem obeys_getActiveChallenge_bind {userID : Encoded Uuid} {purpose : Purpose}
    {f : ChallengeRow → Service β}
    (hread : ∀ uid, g h (.read (.getLatestWebauthnChallenge uid purpose))) (hnow : ∀ h, g h .now)
    (hf : ∀ uid row now, Obeys (guarded g)
      (⟨.now, now⟩ :: ⟨.read (.getLatestWebauthnChallenge uid purpose), .ok row⟩ :: h) (f row)
      (onOk R)) :
    Obeys (guarded g) h (getActiveChallenge userID purpose >>= f) (onOk R) := by
  unfold getActiveChallenge
  rw [bind_assoc]
  refine obeys_parseUserID_bind fun uid => ?_
  rw [bind_assoc]
  refine obeys_perform_bind (hread uid) fun r _ => ?_
  cases r with
  | error e => exact .fail trivial
  | ok row =>
    refine obeys_perform_bind (hnow _) fun now _ => ?_
    refine obeys_ofExcept_bind fun ch hch => ?_
    unfold unexpired at hch
    split_ifs at hch
    cases hch
    exact hf uid row now

variable (hfree : Free g J) (hJ : J h)
include hfree hJ

theorem obeys_free_bind {op : Op} {f : Res op → Program Op Res ε β} (hop : quiet op = true)
    (hf : ∀ r h', legal op r → J h' → Obeys (guarded g) h' (f r) (onOk R)) :
    Obeys (guarded g) h (perform op >>= f) (onOk R) :=
  obeys_perform_bind (hfree.guard _ _ hop) fun r hr => hf r _ hr (hfree.keeps _ _ hop hJ)

theorem obeys_txExecute_bind {ws : List Write} {w : Write} {f : List Write → Service β}
    (hf : ∀ h' db, J h' → Obeys (guarded g) h' (f (ws ++ [w.resolve db])) (onOk R)) :
    Obeys (guarded g) h (txExecute context ws w >>= f) (onOk R) := by
  unfold txExecute
  rw [bind_assoc]
  refine obeys_free_bind hfree hJ rfl fun r h' hr hJ => ?_
  cases r with
  | error e => exact .fail trivial
  | ok w' =>
    obtain ⟨db, rfl⟩ := hr
    exact hf h' db hJ

end Calls

variable {input : FinishAuthenticationInput}

theorem signedBy_of_requireSignature {L : Libraries} {pubKey : Bytes} {u : Unit}
    (h : requireSignature L input pubKey = .ok u) :
    input.signedBy L pubKey = true := by
  unfold requireSignature at h
  split_ifs at h with hsig
  exact hsig

/-- The run has seen a key stored, or has stored a key itself, for the credential
under which the assertion verifies. -/
def SeenProof (L : Libraries) (input : FinishAuthenticationInput) (credentialID : String)
    (h : Log Res) : Prop :=
  (∃ cred, credentialRead credentialID cred ∈ h ∧ input.signedBy L cred.p256RawPublicKey = true) ∨
    ∃ ws row, committed ws ∈ h ∧ .upsertWebauthnCredential row ∈ ws ∧
      row.credentialID = credentialID ∧ input.signedBy L row.p256RawPublicKey = true

structure Adopts (L : Libraries) (input : FinishAuthenticationInput) (c : String) (owner : Uuid)
    (row : CredentialRow) (ws : List Write) : Prop where
  writes : ∃ user account, ws = [.insertWebappUser user, .upsertWebauthnCredential row,
    .upsertSmartAccount account, .relinkMultisigMembersByCredential owner c]
  credential : row.credentialID = c
  owner : row.userID = owner
  signed : input.signedBy L row.p256RawPublicKey = true

variable {challenge : ChallengeRow}

section Finish

variable {h : Log Res} {I : Log Res → Prop} {L : Libraries}

theorem obeys_storeRegistration {input : FinishRegistrationInput} {a : AttestedCredential}
    {R : Log Res → RegisteredCredential → Prop} (hfree : Free g J)
    (hdelete : g h (.write (.deleteWebauthnChallenge challenge.id)))
    (hJ : J (written (.deleteWebauthnChallenge challenge.id) :: h))
    (hstore : ∀ h' id uid now out, J h' → out.credentialID = base64UrlEncode a.credentialID →
      g h' (.write (.upsertWebauthnCredential (registeredRow id uid a input.transports now))) ∧
        R (written (.upsertWebauthnCredential (registeredRow id uid a input.transports now)) :: h')
          out) :
    Obeys (guarded g) h (storeRegistration input challenge a) (onOk R) := by
  refine obeys_execute_bind hdelete (obeys_parseUserID_bind fun uid => ?_)
  refine obeys_free_bind hfree hJ rfl fun id h₁ _ hJ => ?_
  refine obeys_free_bind hfree hJ rfl fun now h₂ _ hJ => ?_
  have hdone := hstore h₂ id uid now ⟨_, a.rawPublicKey, a.cosePublicKey⟩ hJ rfl
  exact obeys_execute_bind hdone.1 (.ok hdone.2)

variable {c : String} {R : Log Res → AuthenticatedCredential → Prop}
  (hcommit : ∀ h' ws owner row, J h' → Adopts L input c owner row ws →
    g h' (.commit ws) ∧ R (committed ws :: h') ⟨c, owner⟩)
include hcommit

theorem obeys_adoptionTx {pubKey cose : Bytes} {signCount : Nat} (hfree : Free g J) (hJ : J h)
    (row : PasskeyRow) (hsig : input.signedBy L pubKey = true) :
    Obeys (guarded g) h (adoptionTx input row pubKey cose signCount c) (onOk R) := by
  refine obeys_free_bind hfree hJ rfl fun r h₁ _ hJ => obeys_orFail_bind fun _ _ => ?_
  refine obeys_free_bind hfree hJ rfl fun now h₂ _ hJ => ?_
  refine obeys_free_bind hfree hJ rfl fun owner h₃ _ hJ => ?_
  refine obeys_txExecute_bind hfree hJ fun h₄ _ hJ => ?_
  refine obeys_free_bind hfree hJ rfl fun id h₅ _ hJ => ?_
  refine obeys_txExecute_bind hfree hJ fun h₆ _ hJ => ?_
  refine obeys_free_bind hfree hJ rfl fun id' h₇ _ hJ => ?_
  refine obeys_txExecute_bind hfree hJ fun h₈ _ hJ => ?_
  refine obeys_txExecute_bind hfree hJ fun h₉ _ hJ => ?_
  have hdone := hcommit h₉ _ owner
    (adoptedRow id owner c input.credentialID cose pubKey signCount now) hJ
    ⟨⟨⟨owner, now⟩, adoptedAccount id' owner c row now, rfl⟩, rfl, rfl, hsig⟩
  exact obeys_perform_bind hdone.1 fun r _ => obeys_orFail_bind fun _ hr => hr ▸ .ok hdone.2

theorem obeys_adoptExternalPasskey {authData : AuthenticatorData} (hfreeI : Free g I)
    (hfree : Free g J) (hI : I h)
    (hdelete : ∀ h', I h' → g h' (.write (.deleteWebauthnChallenge challenge.id)) ∧
      J (written (.deleteWebauthnChallenge challenge.id) :: h')) :
    Obeys (guarded g) h (adoptExternalPasskey L input challenge authData c) (onOk R) := by
  refine obeys_free_bind hfreeI hI rfl fun r h₁ _ hI => ?_
  rcases r with (_ | _) | row
  · exact .fail trivial
  · exact .fail trivial
  refine obeys_ofExcept_bind fun pubKey _ => obeys_ofExcept_bind fun _ hsig => ?_
  refine obeys_execute_bind (hdelete _ hI).1 ?_
  cases rawP256ToCoseEC2 L pubKey with
  | error e => exact .fail trivial
  | ok cose =>
    exact obeys_adoptionTx hcommit hfree (hdelete _ hI).2 row (signedBy_of_requireSignature hsig)

end Finish

end LatchApi.WebAuthn
