import LatchApi.Deploy.Handlers
import LatchApi.Factory.Params

namespace LatchApi.Factory

open Lib Program Store Soroban Multisig
  WebAuthn Deploy
open List

inductive FactoryOp where
  | predictAddress (params : ScVal)
  | deploy (params : ScVal) (predicted : String)

@[reducible] def FactoryRes : FactoryOp → Type
  | .predictAddress _ => Except CallError String
  | .deploy _ _ => Except CallError (String × Bool)

def FactoryOp.params : FactoryOp → ScVal
  | .predictAddress params => params
  | .deploy params _ => params

inductive AccountsError where
  | signerValidation (message : String)
  | duplicateSigner (message : String)
  | params (e : ParamsError)
  | factory (context : String) (e : CallError)

def minAccountSigners : Nat := 2

def isValidGAddress (g : String) : Bool := (strkeyDecode versionAccount g).isSome

def validateSignerInit (s : MultisigSignerInit) : String :=
  match s.type with
  | .delegated =>
    if s.gAddress = "" then "gAddress is required for a delegated signer"
    else if isValidGAddress s.gAddress then ""
    else "gAddress is not a valid Stellar account address"
  | .webauthn =>
    if s.keyDataHex = "" then "keyDataHex is required for a webauthn signer"
    else if isValidWebauthnKeyDataHex s.keyDataHex then ""
    else "keyDataHex must be a hex-encoded uncompressed P-256 key plus credential id"
  | kind => "unsupported signer type " ++ quoted kind.name

def duplicatesSigner (candidate s : MultisigSignerInit) : Option String :=
  if s.type ≠ candidate.type then none
  else
    match candidate.type with
    | .delegated =>
      if candidate.gAddress ≠ "" ∧ s.gAddress = candidate.gAddress then
        some "a delegated signer with this address has already been added"
      else none
    | .webauthn =>
      if candidate.keyDataHex ≠ "" ∧ normalizeHex s.keyDataHex = normalizeHex candidate.keyDataHex then
        some "a webauthn signer with this key has already been added"
      else none
    | _ => none

def duplicateSignerInitError (candidate : MultisigSignerInit) (existing : List MultisigSignerInit) :
    String := (existing.findSome? (duplicatesSigner candidate)).getD ""

def checkSigner (signers : List MultisigSignerInit) (s : MultisigSignerInit) (i : Nat) :
    Except AccountsError Unit :=
  if validateSignerInit s ≠ "" then
    .error (.signerValidation ("signer " ++ toString i ++ ": " ++ validateSignerInit s))
  else if duplicateSignerInitError s (signers.take i) ≠ "" then
    .error (.duplicateSigner
      ("signer " ++ toString i ++ ": " ++ duplicateSignerInitError s (signers.take i)))
  else .ok ()

def validateSignerInits (threshold : Int) (signers : List MultisigSignerInit) :
    Except AccountsError Unit :=
  if threshold < 1 then .error (.signerValidation "threshold must be at least 1")
  else if signers.length < minAccountSigners then
    .error (.signerValidation ("at least " ++ toString minAccountSigners ++ " signers are required"))
  else if threshold > signers.length then
    .error (.signerValidation "threshold cannot exceed the number of signers")
  else signers.zipIdx.forM fun (s, i) => checkSigner signers s i

def signerInitSortKey (s : MultisigSignerInit) : String :=
  if s.type = .delegated then "0:delegated:" ++ s.gAddress
  else "1:webauthn:" ++ normalizeHex s.keyDataHex

def keyLE (a b : MultisigSignerInit) : Prop := signerInitSortKey a ≤ signerInitSortKey b

instance : DecidableRel keyLE := fun a b =>
  inferInstanceAs (Decidable (signerInitSortKey a ≤ signerInitSortKey b))

def canonicalizeSignerInits (signers : List MultisigSignerInit) : List MultisigSignerInit :=
  signers.insertionSort keyLE

structure DeployedParams where
  smartAccountAddress : String
  predictedAddress : String
  alreadyDeployed : Bool
  paramsXdr : Encoded ScVal
  resolvedSigners : List MultisigSignerInit

abbrev AccountsService (α : Type) := Program FactoryOp FactoryRes AccountsError α

def orFactory {α : Type} (context : String) : Except CallError α → AccountsService α :=
  orFail (.factory context)

def requireSalt (accountSaltHex : String) : Except AccountsError Unit :=
  if accountSaltHex = "" then .error (.signerValidation "accountSaltHex is required") else .ok ()

def deployParams (threshold : Int) (signers : List MultisigSignerInit) (accountSaltHex : String) :
    AccountsService DeployedParams := do
  ofExcept (validateSignerInits threshold signers)
  ofExcept (requireSalt accountSaltHex)
  let resolvedSigners := canonicalizeSignerInits signers
  let salt ← ofExcept ((hexDecodeSalt accountSaltHex).mapError .params)
  let params ← ofExcept ((buildMultisigAccountInitParams (UInt32.ofInt threshold) salt
    resolvedSigners).mapError .params)
  let predicted ← orFactory "predict multisig smart account address"
    (← perform (FactoryOp.predictAddress params))
  let (address, alreadyDeployed) ← orFactory "deploy multisig smart account"
    (← perform (FactoryOp.deploy params predicted))
  return ⟨address, predicted, alreadyDeployed, .of params, resolvedSigners⟩

inductive MobileOp where
  | store (op : Store.Op)
  | factory (op : FactoryOp)

@[reducible] def MobileRes : MobileOp → Type
  | .store op => Store.Res op
  | .factory op => FactoryRes op

structure DeployMultisigSigner where
  type : MultisigSignerKind
  keyDataHex : String
  gAddress : String
deriving DecidableEq

structure DeployMultisigRequest where
  signers : List DeployMultisigSigner
  threshold : UInt32
  saltHex : String
  network : String
  proofKeyType : MultisigSignerKind
  proofKeyRef : String
  proof : DeployProof

def DeployMultisigRequest.hasRequired (req : DeployMultisigRequest) : Bool :=
  !req.signers.isEmpty && req.threshold != 0 && req.saltHex != "" && req.proofKeyType.name != "" &&
    req.proofKeyRef != "" && req.proof.nonce != "" && decide (req.proof.signature ≠ .of [])

def saltHexLen : Nat := 64

def ed25519PublicKeyHexLen : Nat := 64

def checkMultisigShape (req : DeployMultisigRequest) : Except HttpFail Unit :=
  if req.signers.length < 2 then .error ⟨400, "signers must contain at least 2 entries"⟩
  else if req.threshold < 1 ∨ req.signers.length < req.threshold.toNat then
    .error ⟨400, "threshold must be between 1 and the number of signers"⟩
  else if req.saltHex.utf8ByteSize ≠ saltHexLen then
    .error ⟨400, "salt_hex must be 64 hex characters"⟩
  else .ok ()

def decodeSalt (saltHex : String) : Except HttpFail Bytes :=
  match hexDecode saltHex with
  | some salt => .ok salt
  | none => .error ⟨400, "salt_hex must be valid hex"⟩

def externalKeyOk (s : DeployMultisigSigner) : Except HttpFail Unit :=
  if s.keyDataHex = "" then
    .error ⟨400, "key_data_hex is required for ed25519 and webauthn signers"⟩
  else if (hexDecode s.keyDataHex).isNone then .error ⟨400, "key_data_hex must be valid hex"⟩
  else if s.type = .ed25519 ∧ s.keyDataHex.utf8ByteSize ≠ ed25519PublicKeyHexLen then
    .error ⟨400, "ed25519 key_data_hex must be 64 hex characters"⟩
  else .ok ()

def DeployMultisigSigner.toInit (s : DeployMultisigSigner) : MultisigSignerInit :=
  ⟨s.type, s.keyDataHex, s.gAddress, ""⟩

def validateMultisigSigner (s : DeployMultisigSigner) : Except HttpFail Unit :=
  match s.type with
  | .ed25519 => externalKeyOk s
  | .webauthn => externalKeyOk s
  | .delegated =>
    if (strkeyDecode versionAccount s.gAddress).isSome then .ok ()
    else .error ⟨400, "delegated signers require a valid g_address"⟩
  | .unsupported _ => .error ⟨400, "signer type must be ed25519, webauthn, or delegated"⟩

def checkMultisigSigner (s : DeployMultisigSigner) : Except HttpFail MultisigSignerInit := do
  validateMultisigSigner s
  return s.toInit

def signerSetContains (signers : List MultisigSignerInit) (keyType : MultisigSignerKind)
    (keyRef : String) : Bool :=
  signers.any fun s => decide (s.type = keyType) &&
    if keyType = .delegated then s.gAddress == keyRef else s.keyDataHex == keyRef

def requireProver (signers : List MultisigSignerInit) (req : DeployMultisigRequest) :
    Except HttpFail Unit :=
  if signerSetContains signers req.proofKeyType req.proofKeyRef then .ok ()
  else .error ⟨400, "proof_key_ref must match one of the signers"⟩

def deployMultisig (signers : List MultisigSignerInit) (threshold : UInt32) (salt : Bytes) :
    Program FactoryOp FactoryRes CallError (String × Bool) :=
  if signers.length < 2 then .fail .internal
  else if threshold < 1 ∨ signers.length < threshold.toNat then .fail .internal
  else
    match buildMultisigAccountInitParams threshold salt signers with
    | .error _ => .fail .internal
    | .ok params => do
      match ← perform (FactoryOp.predictAddress params) with
      | .error e => .fail e
      | .ok predicted =>
        match ← perform (FactoryOp.deploy params predicted) with
        | .error e => .fail e
        | .ok deployed => return deployed

abbrev MobileHandler (α : Type) := Program MobileOp MobileRes HttpFail α

def deployMultisigRoute (L : Libraries) (E : Ed25519Verify) (cfg : DeployConfig)
    (body : Option DeployMultisigRequest) : MobileHandler DeployReply := do
  let req ← ofExcept (bindRequired DeployMultisigRequest.hasRequired body)
  ofExcept (checkMultisigShape req)
  let salt ← ofExcept (decodeSalt req.saltHex)
  let signers ← ofExcept (req.signers.mapM checkMultisigSigner)
  let network ← ofExcept (parseNetwork cfg req.network)
  ofExcept (requireProver signers req)
  (verifyProof L E cfg req.proof req.proofKeyRef req.proofKeyType network).embed MobileOp.store
    fun _ r => r
  match ← ((deployMultisig signers req.threshold salt).embed MobileOp.factory fun _ r => r).attempt with
  | .error e => .fail (failGasless e)
  | .ok (address, alreadyDeployed) => return .deployed address alreadyDeployed

variable {G : FactoryOp → Prop} {signers : List MultisigSignerInit} {req : DeployMultisigRequest}
  {candidate s : MultisigSignerInit}

section Distinct

theorem toInit_of_checkMultisigSigner {s : DeployMultisigSigner} {init : MultisigSignerInit}
    (h : checkMultisigSigner s = .ok init) : init = s.toInit := by
  obtain ⟨_, -, heq⟩ := bind_eq_ok.mp h
  exact (Except.ok.inj heq).symm

theorem toInit_of_mapM {signers : List DeployMultisigSigner} {inits : List MultisigSignerInit}
    (h : signers.mapM checkMultisigSigner = .ok inits) :
    inits = signers.map DeployMultisigSigner.toInit := by
  have hall := mapM_eq_ok.mp h
  clear h
  induction hall with
  | nil => rfl
  | cons hs _ ih => rw [map_cons, toInit_of_checkMultisigSigner hs, ih]

def DeployMultisigRequest.Built (req : DeployMultisigRequest) (params : ScVal) : Prop :=
  (1 ≤ req.threshold.toNat) ∧ ∃ salt, buildMultisigAccountInitParams req.threshold salt
    (req.signers.map DeployMultisigSigner.toInit) = .ok params

theorem always_deployMultisig {threshold : UInt32} {salt : Bytes}
    (hG : ∀ call, buildMultisigAccountInitParams threshold salt signers = .ok call.params → G call) :
    Always G (deployMultisig signers threshold salt) := by
  unfold deployMultisig
  split_ifs
  · trivial
  · trivial
  split
  · trivial
  rename_i params hparams
  refine ⟨hG (.predictAddress params) hparams, fun predicted => ?_⟩
  cases predicted with
  | error e => trivial
  | ok predicted =>
    refine ⟨hG (.deploy params predicted) hparams, fun deployed => ?_⟩
    cases deployed <;> trivial

theorem threshold_pos_of_shape {u : Unit} (h : checkMultisigShape req = .ok u) :
    1 ≤ req.threshold.toNat := by
  unfold checkMultisigShape at h
  split_ifs at h with _ hbounds
  have hlow : ¬ req.threshold < 1 := fun hlt => hbounds (.inl hlt)
  rw [UInt32.lt_iff_toNat_lt] at hlow
  exact Nat.le_of_not_lt hlow

theorem always_built (L : Libraries) (E : Ed25519Verify) (cfg : DeployConfig)
    (req : DeployMultisigRequest) :
    Always (fun op => ∀ call, op = .factory call → req.Built call.params)
      (deployMultisigRoute L E cfg (some req)) := by
  unfold deployMultisigRoute
  simp only [always_ofExcept_bind]
  intro req' hreq _ hshape salt _ inits hinits network _ _ _
  have hsame : req' = req := by
    simp only [bindRequired, bindBody] at hreq
    split_ifs at hreq
    exact (Except.ok.inj hreq).symm
  subst hsame
  have hpos := threshold_pos_of_shape hshape
  obtain rfl := toInit_of_mapM hinits
  refine Always.bind (Always.embed (always_of_forall ?_ _)) fun _ => ?_
  · rintro op call ⟨⟩
  refine Always.bind (Always.attempt (Always.embed (always_deployMultisig ?_))) fun out => ?_
  · rintro call hcall _ ⟨⟩
    exact ⟨hpos, salt, hcall⟩
  · cases out <;> trivial

theorem duplicatesSigner_ne_empty (candidate s : MultisigSignerInit) :
    duplicatesSigner candidate s ≠ some "" := by
  intro h
  unfold duplicatesSigner at h
  split at h
  · cases h
  split at h
  · split_ifs at h
    exact absurd (Option.some.inj h) (by decide)
  · split_ifs at h
    exact absurd (Option.some.inj h) (by decide)
  · cases h

theorem duplicatesSigner_of_error_empty {existing : List MultisigSignerInit}
    (h : duplicateSignerInitError candidate existing = "") (hs : s ∈ existing) :
    duplicatesSigner candidate s = none := by
  unfold duplicateSignerInitError at h
  cases hfind : existing.findSome? (duplicatesSigner candidate) with
  | none => exact findSome?_eq_none_iff.mp hfind s hs
  | some text =>
    rw [hfind, Option.getD_some] at h
    obtain ⟨s', -, hs'⟩ := exists_of_findSome?_eq_some hfind
    exact absurd (h ▸ hs') (duplicatesSigner_ne_empty _ _)

theorem normalizeHex_of_hexDecode {h : String} {out : Bytes} (hdecode : hexDecode h = some out) :
    normalizeHex h = toLower h :=
  normalizeHex_of_not_prefixed (not_prefixed_of_not_mem
    (not_mem_of_hexDecode hdecode (b := 120) (by decide) (by decide)))

theorem gAddress_ne_of_valid (htype : s.type = .delegated) (h : validateSignerInit s = "") :
    s.gAddress ≠ "" := by
  intro hempty
  simp only [validateSignerInit, htype, hempty, if_true] at h
  exact absurd h (by decide)

theorem keyDataHex_ne_of_valid (htype : s.type = .webauthn) (h : validateSignerInit s = "") :
    s.keyDataHex ≠ "" := by
  intro hempty
  simp only [validateSignerInit, htype, hempty, if_true] at h
  exact absurd h (by decide)

theorem identity_ne_of_duplicatesSigner {v v' : ScVal} (hvalid : validateSignerInit candidate = "")
    (hdup : duplicatesSigner candidate s = none) (hv : candidate.value = some v)
    (hv' : s.value = some v') : s.identity ≠ candidate.identity := by
  intro heq
  obtain ⟨htype, hkey⟩ := Prod.mk.inj heq
  unfold duplicatesSigner at hdup
  rw [if_neg (by simp [htype])] at hdup
  by_cases hdelegated : candidate.type = .delegated
  · simp only [htype, hdelegated, if_true] at hkey
    simp only [hdelegated] at hdup
    rw [if_pos ⟨gAddress_ne_of_valid hdelegated hvalid, hkey⟩] at hdup
    cases hdup
  · obtain ⟨hkind, keyData, hdecode, -⟩ := value_eq_external hdelegated hv
    obtain ⟨-, keyData', hdecode', -⟩ := value_eq_external (htype ▸ hdelegated) hv'
    simp only [htype, hdelegated, if_false] at hkey
    rw [← normalizeHex_of_hexDecode hdecode, ← normalizeHex_of_hexDecode hdecode'] at hkey
    rcases hkind with hkind | hkind
    · simp only [hkind] at hdup
      rw [if_pos ⟨keyDataHex_ne_of_valid hkind hvalid, hkey⟩] at hdup
      cases hdup
    · simp only [validateSignerInit, hkind, Deploy.KeyType.name] at hvalid
      exact absurd hvalid (by decide)

variable {threshold : Int}

theorem validateSignerInits_eq_ok (h : validateSignerInits threshold signers = .ok ()) :
    1 ≤ threshold ∧ threshold ≤ signers.length ∧
      ∀ i s, signers[i]? = some s → validateSignerInit s = "" ∧
        duplicateSignerInitError s (signers.take i) = "" := by
  unfold validateSignerInits at h
  split_ifs at h with hlow hfew hhigh
  refine ⟨by omega, by omega, fun i s hs => ?_⟩
  have hcheck := forM_eq_ok.mp h (s, i) (mem_zipIdx_iff_getElem?.mpr hs)
  simp only [checkSigner] at hcheck
  split_ifs at hcheck with hvalid hdup
  exact ⟨by simpa using hvalid, by simpa using hdup⟩

theorem identity_nodup (h : validateSignerInits threshold signers = .ok ())
    (hvalue : ∀ s ∈ signers, ∃ v, s.value = some v) :
    (signers.map MultisigSignerInit.identity).Nodup := by
  obtain ⟨-, -, hcheck⟩ := validateSignerInits_eq_ok h
  rw [Nodup, pairwise_map, pairwise_iff_getElem]
  intro i j hi hj hij
  obtain ⟨hvalid, hdup⟩ := hcheck j signers[j] (getElem?_eq_getElem hj)
  obtain ⟨v, hv⟩ := hvalue signers[j] (getElem_mem hj)
  obtain ⟨v', hv'⟩ := hvalue signers[i] (getElem_mem hi)
  have hmem : signers[i] ∈ signers.take j := by
    rw [mem_take_iff_getElem]
    exact ⟨i, by omega, rfl⟩
  exact identity_ne_of_duplicatesSigner hvalid (duplicatesSigner_of_error_empty hdup hmem) hv hv'

theorem always_deployParams {accountSaltHex : String}
    (hG : ∀ call salt, validateSignerInits threshold signers = .ok () →
      buildMultisigAccountInitParams (UInt32.ofInt threshold) salt
        (canonicalizeSignerInits signers) = .ok call.params → G call) :
    Always G (deployParams threshold signers accountSaltHex) := by
  unfold deployParams
  simp only [always_ofExcept_bind, always_perform_bind]
  intro _ hvalid _ _ salt _ params hparams
  have hbuilt := mapError_eq_ok.mp hparams
  refine ⟨hG (.predictAddress params) salt hvalid hbuilt, fun predicted => ?_⟩
  cases predicted with
  | error e => trivial
  | ok predicted =>
    refine ⟨hG (.deploy params predicted) salt hvalid hbuilt, fun deployed => ?_⟩
    cases deployed <;> trivial

theorem toNat_ofInt (n : Int) : ((UInt32.ofInt n).toNat : Int) = n % 2 ^ 32 := by
  rw [UInt32.ofInt, UInt32.toNat_ofNat']
  omega

theorem usableOnce_of_validated {salt : Bytes} {params : ScVal}
    (hvalid : validateSignerInits threshold signers = .ok ())
    (hbuilt : buildMultisigAccountInitParams (UInt32.ofInt threshold) salt
      (canonicalizeSignerInits signers) = .ok params) :
    UsableOnce params ↔ threshold % 2 ^ 32 ≠ 0 := by
  have hperm : (canonicalizeSignerInits signers).Perm signers := perm_insertionSort _ _
  have hvalue : ∀ s ∈ signers, ∃ v, s.value = some v := by
    intro s hs
    obtain ⟨signerVals, hvals, -⟩ := buildMultisigAccountInitParams_eq_ok.mp hbuilt
    obtain ⟨v, -, hv⟩ := exists_of_forall₂ hvals (hperm.mem_iff.mpr hs)
    exact ⟨v, hv⟩
  have hnodup : ((canonicalizeSignerInits signers).map MultisigSignerInit.identity).Nodup :=
    (hperm.map _).nodup_iff.mpr (identity_nodup hvalid hvalue)
  obtain ⟨hlow, hhigh, -⟩ := validateSignerInits_eq_ok hvalid
  rw [usableOnce_of_build hbuilt, toFinset_card_of_nodup hnodup, length_map,
    hperm.length_eq]
  have hnat := toNat_ofInt threshold
  omega

def DeployMultisigRequest.differentSigners (req : DeployMultisigRequest) : Nat :=
  (req.signers.map fun s => s.toInit.identity).toFinset.card

theorem usableOnce_of_built {params : ScVal} (h : req.Built params) :
    UsableOnce params ↔ req.threshold.toNat ≤ req.differentSigners := by
  obtain ⟨hpos, salt, hbuilt⟩ := h
  rw [usableOnce_of_build hbuilt, DeployMultisigRequest.differentSigners, map_map]
  exact and_iff_right hpos

theorem oneShot_usableOnce_iff (L : Libraries) (E : Ed25519Verify) (cfg : DeployConfig)
    (req : DeployMultisigRequest) (threshold : Int) (signers : List MultisigSignerInit)
    (accountSaltHex : String) :
    Always (fun op => ∀ call, op = .factory call →
        (UsableOnce call.params ↔ req.threshold.toNat ≤ req.differentSigners))
      (deployMultisigRoute L E cfg (some req)) ∧
    Always (fun call => UsableOnce call.params ↔ threshold % 2 ^ 32 ≠ 0)
      (deployParams threshold signers accountSaltHex) := by
  refine ⟨?_, ?_⟩
  · exact (always_built L E cfg req).mono fun op hop call hcall => usableOnce_of_built (hop call hcall)
  · exact always_deployParams fun call salt hvalid hbuilt => usableOnce_of_validated hvalid hbuilt

end Distinct

namespace Sample

def signerKey : String := hexEncode (List.replicate 32 7)

def twice : DeployMultisigRequest where
  signers := [⟨.ed25519, signerKey, ""⟩, ⟨.ed25519, signerKey, ""⟩]
  threshold := 2
  saltHex := hexEncode (List.replicate 32 0)
  network := ""
  proofKeyType := .ed25519
  proofKeyRef := signerKey
  proof := ⟨"00", .of [1], .of [], .of []⟩

def config : DeployConfig := ⟨some .testnet, []⟩

def libraries : Libraries where
  unmarshalClientData _ := none
  unmarshalAttestation _ := none
  unmarshalCoseKey _ := none
  marshalCoseKey _ := []
  unmarshalFirst _ := none
  parseUrl _ := none
  onCurve _ := false
  verifyASN1 _ _ _ := false

def challenged : Shared :=
  ⟨Db.empty, [(walletNoncePrefix ++ "00", bindNonce signerKey "ed25519" (deployNonceScope .testnet))]⟩

def answers (_ : Log MobileRes) : (op : MobileOp) → MobileRes op
  | .store op => (Store.exec op challenged {}).1
  | .factory (.predictAddress _) => .ok "account"
  | .factory (.deploy _ predicted) => .ok (predicted, false)

def isDeploy : MobileOp → Bool
  | .factory (.deploy _ _) => true
  | _ => false

theorem repeated_signer_deployed : ∃ e ∈ ((deployMultisigRoute libraries (fun _ _ _ => true) config
        (some twice)).runWith answers []).2,
      ∃ params predicted, e.1 = .factory (.deploy params predicted) ∧ ¬ UsableOnce params := by
  have hdeploy : (((deployMultisigRoute libraries (fun _ _ _ => true) config
      (some twice)).runWith answers []).2.any fun e => isDeploy e.1) = true := by decide +kernel
  obtain ⟨e, he, hisDeploy⟩ := any_eq_true.mp hdeploy
  refine ⟨e, he, ?_⟩
  have hbuilt := (always_built libraries (fun _ _ _ => true) config twice).runWith
    answers (h := []) (by simp) e he
  obtain ⟨op, r⟩ := e
  rcases op with op | params | ⟨params, predicted⟩
  · cases hisDeploy
  · cases hisDeploy
  refine ⟨params, predicted, rfl, ?_⟩
  have hiff : UsableOnce params ↔ _ := usableOnce_of_built (hbuilt (.deploy params predicted) rfl)
  rw [hiff]
  decide +kernel

end Sample

end LatchApi.Factory
