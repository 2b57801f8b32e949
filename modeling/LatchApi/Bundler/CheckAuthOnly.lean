import LatchApi.Bundler.Sent

namespace LatchApi.Bundler

open Lib Program Soroban

def TxConfig.isBundlers (cfg : TxConfig) (e : SorobanAuthorizationEntry) : Bool :=
  addressStringFromCredentials e == some cfg.bundlerG

def signableEntries (cfg : TxConfig) (signedByClient : List Nat) (i : Nat) :
    AuthEntries → AuthEntries
  | [] => []
  | e :: es =>
    if leftToBundler signedByClient i e then
      if cfg.isBundlers e then e :: signableEntries cfg signedByClient (i + 1) es else []
    else signableEntries cfg signedByClient (i + 1) es

def leavesForeign (cfg : TxConfig) (signedByClient : List Nat) (i : Nat) :
    AuthEntries → Bool
  | [] => false
  | e :: es =>
    (leftToBundler signedByClient i e && !cfg.isBundlers e) ||
      leavesForeign cfg signedByClient (i + 1) es

inductive SignedByBundler (cfg : TxConfig) (signedByClient : List Nat) :
    Nat → AuthEntries → AuthEntries → Prop
  | nil (i : Nat) : SignedByBundler cfg signedByClient i [] []
  | keep {i : Nat} {e : SorobanAuthorizationEntry} {es es' : AuthEntries}
      (hleft : leftToBundler signedByClient i e = false)
      (hes : SignedByBundler cfg signedByClient (i + 1) es es') :
      SignedByBundler cfg signedByClient i (e :: es) (e :: es')
  | sign {i : Nat} {e : SorobanAuthorizationEntry} {es es' : AuthEntries}
      (signature : Bytes) (hleft : leftToBundler signedByClient i e = true)
      (hbundler : cfg.isBundlers e = true)
      (hes : SignedByBundler cfg signedByClient (i + 1) es es') :
      SignedByBundler cfg signedByClient i (e :: es)
        (e.withSignature (accountSignature cfg.bundler.val signature) :: es')

variable {e : SorobanAuthorizationEntry}

section Signing

variable {G : TxOp → Prop} {α : Type} {cfg : TxConfig} {signedByClient : List Nat} {i : Nat}
  {es es' : AuthEntries}

theorem payload_of_left (h : leftToBundler signedByClient i e = true) (passphrase : String) :
    ∃ payload, hashSorobanAuthPayload e passphrase = some payload := by
  obtain ⟨credentials, invocation⟩ := e
  cases credentials with
  | address creds => exact ⟨_, rfl⟩
  | sourceAccount =>
    simp [leftToBundler, isUnsignedAddressAuthEntry,
      SorobanAuthorizationEntry.addressCredentials] at h

theorem always_signBundlerDelegatedAuthEntry (hleft : leftToBundler signedByClient i e = true)
    (k : SorobanAuthorizationEntry → Submitter α) :
    Always G (signBundlerDelegatedAuthEntry cfg e >>= k) ↔
      (cfg.isBundlers e = true →
        (∀ payload, hashSorobanAuthPayload e cfg.networkPassphrase = some payload →
          G (.signPayload e payload)) ∧
        ∀ signature, Always G (k (e.withSignature (accountSignature cfg.bundler.val signature)))) := by
  obtain ⟨payload, hpayload⟩ := payload_of_left hleft cfg.networkPassphrase
  unfold signBundlerDelegatedAuthEntry
  simp only [bind_assoc, always_ofExcept_bind, requireBundlers_eq_ok, hpayload,
    always_perform_bind, always_orRpc_bind, pure_eq, ok_bind, TxConfig.isBundlers, beq_iff_eq,
    forall_const, Option.some.injEq, forall_eq']
  refine imp_congr_right fun _ => and_congr_right fun _ =>
    ⟨fun h signature => h (.ok signature) signature rfl, fun h _ signature _ => h signature⟩

theorem always_signBundlerEntries (k : AuthEntries → Submitter α) :
    Always G (signBundlerEntries cfg signedByClient i es >>= k) ↔
      (∀ e ∈ signableEntries cfg signedByClient i es, ∀ payload,
        hashSorobanAuthPayload e cfg.networkPassphrase = some payload → G (.signPayload e payload)) ∧
      ∀ es', SignedByBundler cfg signedByClient i es es' → Always G (k es') := by
  induction es generalizing i k with
  | nil =>
    simp only [signBundlerEntries, ok_bind, signableEntries, List.not_mem_nil, false_imp_iff,
      implies_true, true_and]
    refine ⟨fun h es' hes => ?_, fun h => h [] (.nil i)⟩
    cases hes
    exact h
  | cons e es ih =>
    simp only [signBundlerEntries, pure_eq, ok_bind, signableEntries]
    by_cases hleft : leftToBundler signedByClient i e = true
    · simp only [hleft, if_true, bind_assoc, ok_bind, always_signBundlerDelegatedAuthEntry hleft,
        ih]
      by_cases hbundler : cfg.isBundlers e = true
      · simp only [hbundler, if_true, forall_const, List.mem_cons, forall_eq_or_imp]
        constructor
        · rintro ⟨hsign, h⟩
          refine ⟨⟨hsign, (h []).1⟩, fun es' hes => ?_⟩
          cases hes with
          | keep hleft' _ => rw [hleft] at hleft'; cases hleft'
          | sign signature _ _ hes => exact (h signature).2 _ hes
        · rintro ⟨⟨hsign, hrest⟩, h⟩
          exact ⟨hsign, fun signature => ⟨hrest, fun es' hes =>
            h _ (.sign signature hleft hbundler hes)⟩⟩
      · simp only [hbundler, Bool.false_eq_true, false_imp_iff, if_false, List.not_mem_nil,
          implies_true, true_and, true_iff]
        intro es' hes
        cases hes with
        | keep hleft' _ => rw [hleft] at hleft'; cases hleft'
        | sign _ _ hbundler' _ => exact absurd hbundler' hbundler
    · simp only [hleft, Bool.false_eq_true, if_false, bind_assoc, ok_bind, ih]
      refine and_congr_right fun _ => ⟨fun h es' hes => ?_, fun h es' hes => ?_⟩
      · cases hes with
        | keep _ hes => exact h _ hes
        | sign _ hleft' _ _ => exact absurd hleft' hleft
      · exact h _ (.keep (by simpa using hleft) hes)

theorem SignedByBundler.leavesForeign_eq_false
    (h : SignedByBundler cfg signedByClient i es es') :
    leavesForeign cfg signedByClient i es = false := by
  induction h with
  | nil i => rfl
  | keep hleft _ ih => simp [leavesForeign, hleft, ih]
  | sign _ _ hbundler _ ih => simp [leavesForeign, hbundler, ih]

theorem exists_signedByBundler (h : leavesForeign cfg signedByClient i es = false) :
    ∃ es', SignedByBundler cfg signedByClient i es es' := by
  induction es generalizing i with
  | nil => exact ⟨[], .nil i⟩
  | cons e es ih =>
    simp only [leavesForeign, Bool.or_eq_false_iff] at h
    obtain ⟨es', hes⟩ := ih h.2
    by_cases hleft : leftToBundler signedByClient i e = true
    · exact ⟨_, .sign [] hleft (by simpa [hleft] using h.1) hes⟩
    · exact ⟨_, .keep (by simpa using hleft) hes⟩

theorem payload_of_signable (h : e ∈ signableEntries cfg signedByClient i es)
    (passphrase : String) : ∃ payload, hashSorobanAuthPayload e passphrase = some payload := by
  induction es generalizing i with
  | nil => cases h
  | cons e₀ es ih =>
    unfold signableEntries at h
    by_cases hleft : leftToBundler signedByClient i e₀ = true
    · by_cases hbundler : cfg.isBundlers e₀ = true
      · rw [if_pos hleft, if_pos hbundler] at h
        rcases List.mem_cons.mp h with rfl | h
        · exact payload_of_left hleft passphrase
        · exact ih h
      · rw [if_pos hleft, if_neg hbundler] at h
        cases h
    · rw [if_neg hleft] at h
      exact ih h

end Signing

inductive SignerRequest where
  | webauthn (input : SubmitWebAuthnInput)
  | delegated (input : SubmitDelegatedInput)

namespace SignerRequest

variable (cfg : TxConfig) (X : Codec)

def prepare : SignerRequest → Except SubmitError Prepared
  | webauthn input => prepareWebAuthn cfg input
  | delegated input => prepareDelegated X input

def txXdr : SignerRequest → Encoded TransactionEnvelope
  | webauthn input => input.txXdr
  | delegated input => input.txXdr

def synthesized : SignerRequest → Bool
  | webauthn input => input.delegatedGAuthEntrySynthesized
  | delegated input => input.delegatedGAuthEntrySynthesized

def body : SignerRequest → Submitter SubmitResult
  | webauthn input => submitWebAuthn cfg input
  | delegated input => submitDelegated cfg X input

theorem body_eq (req : SignerRequest) : req.body cfg X =
    ofExcept (req.prepare cfg X) >>= signAndSubmit cfg req.txXdr req.synthesized := by
  cases req <;> rfl

end SignerRequest

/-- The entry authorizes the check of the request's smart account entry, on its digest
under the rules of its payload, and nothing else. -/
def Prepared.Approves (cfg : TxConfig) (p : Prepared) (e : SorobanAuthorizationEntry) : Prop :=
  ∃ creds digest, p.smartAccountEntry.credentials = .address creds ∧
    computeAuthDigest p.smartAccountEntry cfg.networkPassphrase p.contextRuleIDs = some digest ∧
    e.rootInvocation = checkAuthInvocation creds.address digest

def SignsApproval (cfg : TxConfig) (X : Codec) (req : SignerRequest) (op : TxOp) : Prop :=
  ∀ e payload, op = .signPayload e payload →
    ∃ p, req.prepare cfg X = .ok p ∧ p.Approves cfg e

theorem onlySends_signsApproval (cfg : TxConfig) (X : Codec) (req : SignerRequest)
    (entries : AuthEntries) : OnlySends (SignsApproval cfg X req) entries where
  quiet op hop e payload h := by
    subst h
    cases hop
  relayed mode wallet fn e payload h := nomatch h

variable {p : Prepared} {req : SignerRequest} {cfg : TxConfig} {X : Codec}

theorem signsApproval_signPayload (hp : req.prepare cfg X = .ok p) (e : SorobanAuthorizationEntry)
    (payload : Bytes) : SignsApproval cfg X req (.signPayload e payload) ↔ p.Approves cfg e := by
  constructor
  · intro h
    obtain ⟨p', hp', happroves⟩ := h e payload rfl
    rw [hp] at hp'
    cases hp'
    exact happroves
  · rintro happroves _ _ ⟨⟩
    exact ⟨p, hp, happroves⟩

theorem always_submit_signsApproval (cfg : TxConfig) (X : Codec) (req : SignerRequest)
    (tx : Encoded TransactionEnvelope) (entries : AuthEntries) :
    Always (SignsApproval cfg X req) (submitWithBundler cfg tx entries) :=
  (always_submitWithBundler (onlySends_signsApproval cfg X req entries) cfg tx).mpr
    fun _ _ => .inr fun _ _ _ _ h => nomatch h

theorem always_signAndSubmit (hp : req.prepare cfg X = .ok p) (tx : Encoded TransactionEnvelope) :
    Always (SignsApproval cfg X req) (signAndSubmit cfg tx req.synthesized p) ↔
      (req.synthesized = true →
        ∀ e ∈ signableEntries cfg p.signedByClient 0 p.entries, p.Approves cfg e) := by
  unfold signAndSubmit
  cases req.synthesized with
  | false => simp [always_submit_signsApproval]
  | true =>
    simp only [if_true, always_signBundlerEntries, signsApproval_signPayload hp,
      always_submit_signsApproval, implies_true, and_true, forall_const]
    refine forall₂_congr fun e he => ⟨fun h => ?_, fun h _ _ => h⟩
    obtain ⟨payload, hpayload⟩ := payload_of_signable he cfg.networkPassphrase
    exact h payload hpayload

theorem always_body_iff (cfg : TxConfig) (X : Codec) (req : SignerRequest) (G : TxOp → Prop) :
    Always G (req.body cfg X) ↔ ∀ p, req.prepare cfg X = .ok p →
      Always G (signAndSubmit cfg req.txXdr req.synthesized p) := by
  rw [req.body_eq, always_ofExcept_bind]

theorem not_always_of_signable (hp : req.prepare cfg X = .ok p)
    (hsynthesized : req.synthesized = true)
    (he : e ∈ signableEntries cfg p.signedByClient 0 p.entries) (hnot : ¬ p.Approves cfg e) :
    ¬ Always (SignsApproval cfg X req) (req.body cfg X) := fun halways =>
  hnot ((always_signAndSubmit hp _).mp ((always_body_iff cfg X req _).mp halways p hp)
    hsynthesized e he)

namespace Sample

theorem length_key (b : UInt8) : (List.replicate 32 b).length = 32 := List.length_replicate

def key (b : UInt8) : Hash := ⟨List.replicate 32 b, length_key b⟩

def config : TxConfig := ⟨"network", key 1, contractText (key 4), false⟩

def payout : InvokeContractArgs :=
  ⟨.contract (key 3), "transfer", [.address (.account (key 1)), .address (.account (key 5)), scI128 0 1000]⟩

def payoutTx : Encoded TransactionEnvelope := .of (.v1 [.invokeHostFunction (.invokeContract payout) []])

def payoutEntry : SorobanAuthorizationEntry :=
  ⟨.address ⟨.account (key 1), 7, 1000, .void⟩, ⟨.contractFn payout, []⟩⟩

def walletEntry : SorobanAuthorizationEntry :=
  ⟨.address ⟨.contract (key 2), 6, 1000, .void⟩, ⟨.contractFn payout, []⟩⟩

def payoutRequest : SubmitWebAuthnInput where
  txXdr := payoutTx
  authEntryXdr := .malformed ""
  sigDataXdr := "00"
  keyDataHex := "04"
  contextRuleID := some 0
  authEntriesXdr := [.of walletEntry, .of payoutEntry]
  smartAccountAuthEntryIndex := 0
  delegatedGAuthEntrySynthesized := true

theorem payoutEntry_not_approval (p : Prepared) : ¬ p.Approves config payoutEntry := by
  rintro ⟨creds, digest, -, -, h⟩
  have hfunction := congrArg SorobanAuthorizedInvocation.function h
  simp [payoutEntry, payout, checkAuthInvocation] at hfunction

theorem payoutEntry_signable (h : prepareWebAuthn config payoutRequest = .ok p) :
    payoutEntry ∈ signableEntries config p.signedByClient 0 p.entries := by
  obtain ⟨entries, payload, hentries, -, hindex, -, hp, hsigned⟩ := prepareWebAuthn_eq_ok h
  have hidx : p.smartAccountIndex = 0 := Int.ofNat_eq_zero.mp hindex
  cases hentries
  rw [hsigned, hp, hidx]
  simp [signableEntries, leftToBundler, isUnsignedAddressAuthEntry, payoutEntry, isUnsigned,
    SorobanAuthorizationEntry.addressCredentials, TxConfig.isBundlers,
    addressStringFromCredentials, addressString, TxConfig.bundlerG, config]

theorem payoutRequest_prepared :
    ∃ p, (SignerRequest.webauthn payoutRequest).prepare config noCodec = .ok p := by
  show ∃ p, prepareWebAuthn config payoutRequest = .ok p
  have hok : (prepareWebAuthn config payoutRequest).isOk = true := by decide +kernel
  cases h : prepareWebAuthn config payoutRequest with
  | ok p => exact ⟨p, rfl⟩
  | error e => rw [h] at hok; cases hok

end Sample

end LatchApi.Bundler
