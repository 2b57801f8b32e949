import Mathlib.Data.List.Sort
import LatchApi.Bundler.Signers
import LatchApi.Multisig.Rows

namespace LatchApi.Multisig

open Lib Soroban Store Bundler List

structure MultisigApproval where
  memberID : Uuid
  memberKeyDataHex : String
  memberGAddress : String
  webauthnSigDataXdrHex : String
  delegatedEntryTemplateXdr : Encoded SorobanAuthorizationEntry
  delegatedSignedAuthEntryBase64 : Encoded Bytes
  delegatedSignerAddress : String
  tag : String

def strOrEmpty (s : Option String) : String := s.getD ""

def nullStr (s : String) : Option String := if s = "" then none else some s

theorem strOrEmpty_nullStr (s : String) : strOrEmpty (nullStr s) = s := by
  unfold nullStr
  split_ifs with h
  · exact h.symm
  · rfl

def trimHexPrefix : List Char → List Char
  | '0' :: 'x' :: digits => digits
  | digits => digits

def normalizeHex (h : String) : String := toLower (String.ofList (trimHexPrefix h.toList))

def minWebauthnKeyDataHexLen : Nat := 132

def isValidWebauthnKeyDataHex (h : String) : Bool :=
  let normalized := normalizeHex h
  minWebauthnKeyDataHexLen ≤ normalized.utf8ByteSize &&
    normalized.toList.take 2 == ['0', '4'] && (hexDecode normalized).isSome

def isEmptyTemplate : Encoded SorobanAuthorizationEntry → Bool
  | .of _ => false
  | .malformed text => text == ""

def isEmptySignature : Encoded Bytes → Bool
  | .of b => b.isEmpty
  | .malformed text => text == ""

def ApprovalWithMember.toApproval (row : ApprovalWithMember) : MultisigApproval where
  memberID := row.approval.memberID
  memberKeyDataHex := strOrEmpty row.member.keyDataHex
  memberGAddress := strOrEmpty row.member.gAddress
  webauthnSigDataXdrHex := strOrEmpty row.approval.webauthnSigDataXdrHex
  delegatedEntryTemplateXdr := row.approval.delegatedEntryTemplateXdr.getD (.malformed "")
  delegatedSignedAuthEntryBase64 := row.approval.delegatedSignedAuthEntryBase64.getD (.malformed "")
  delegatedSignerAddress := strOrEmpty row.approval.delegatedSignerAddress
  tag := row.approval.tag

def MultisigApproval.hasWebauthnMaterial (a : MultisigApproval) : Bool :=
  a.webauthnSigDataXdrHex != "" && a.memberKeyDataHex != ""

def MultisigApproval.hasDelegatedMaterial (a : MultisigApproval) : Bool :=
  !isEmptyTemplate a.delegatedEntryTemplateXdr &&
    !isEmptySignature a.delegatedSignedAuthEntryBase64 &&
    a.delegatedSignerAddress != ""

def usableWebauthn (rows : List ApprovalWithMember) : List MultisigApproval :=
  (rows.filter fun row => decide (row.approval.approvalType = .webauthn) &&
    row.toApproval.hasWebauthnMaterial).map ApprovalWithMember.toApproval

def usableDelegated (rows : List ApprovalWithMember) : List MultisigApproval :=
  (rows.filter fun row => decide (row.approval.approvalType = .delegated) &&
    (row.toApproval.hasDelegatedMaterial && row.toApproval.memberGAddress != "")).map
      ApprovalWithMember.toApproval

structure PickedApprovals where
  webauthn : List MultisigApproval
  delegated : List MultisigApproval

def PickedApprovals.all (p : PickedApprovals) : List MultisigApproval := p.webauthn ++ p.delegated

def pickApprovalsForThreshold (threshold : Nat) (webauthn delegated : List MultisigApproval) :
    PickedApprovals where
  webauthn := webauthn.take threshold
  delegated := delegated.take (threshold - (webauthn.take threshold).length)

inductive PayloadError where
  | verifierAddress (i : Nat)
  | keyDataHex (i : Nat)
  | sigDataXdrHex (i : Nat)
  | signerKey (i : Nat)
  | delegatedAddress (i : Nat)
deriving DecidableEq

def maxOpaqueLength : Nat := 2 ^ 31 - 1

structure WebauthnApprovalInput where
  verifierAddress : String
  keyDataHex : String
  sigDataXdrHex : String

def WebauthnApprovalInput.dedupKey (w : WebauthnApprovalInput) : String :=
  "External:" ++ w.verifierAddress ++ ":" ++ normalizeHex w.keyDataHex

def WebauthnApprovalInput.signerEntry (i : Nat) (w : WebauthnApprovalInput) :
    Except PayloadError (ScVal × ScVal) :=
  match scAddress w.verifierAddress with
  | none => .error (.verifierAddress i)
  | some verifier =>
    match hexDecode (normalizeHex w.keyDataHex) with
    | none => .error (.keyDataHex i)
    | some keyData =>
      match hexDecode (normalizeHex w.sigDataXdrHex) with
      | none => .error (.sigDataXdrHex i)
      | some sigData =>
        if maxOpaqueLength < keyData.length then .error (.signerKey i)
        else .ok (externalKey verifier keyData, scBytes sigData)

def delegatedDedupKey (gAddress : String) : String := "Delegated:" ++ gAddress

def delegatedSignerEntry (i : Nat) (gAddress : String) : Except PayloadError (ScVal × ScVal) :=
  match scAddress gAddress with
  | none => .error (.delegatedAddress i)
  | some address => .ok (delegatedKey address, scBytes [])

def collectSigners {ι : Type} (key : ι → String)
    (entry : Nat → ι → Except PayloadError (ScVal × ScVal)) (i : Nat) (seen : List String) :
    List ι → Except PayloadError (List String × List (ScVal × ScVal))
  | [] => .ok (seen, [])
  | x :: xs =>
    if key x ∈ seen then collectSigners key entry (i + 1) seen xs
    else
      match entry i x with
      | .error e => .error e
      | .ok signer =>
        match collectSigners key entry (i + 1) (key x :: seen) xs with
        | .error e => .error e
        | .ok (seen', signers) => .ok (seen', signer :: signers)

def keyOrder (a b : ScVal × ScVal) : Prop := ¬ marshalScVal b.1 < marshalScVal a.1

instance : DecidableRel keyOrder := fun a b =>
  inferInstanceAs (Decidable (¬ marshalScVal b.1 < marshalScVal a.1))

def multisigSigners (webauthn : List WebauthnApprovalInput) (delegated : List String) :
    Except PayloadError (List (ScVal × ScVal)) := do
  let (seen, external) ←
    collectSigners WebauthnApprovalInput.dedupKey WebauthnApprovalInput.signerEntry 0 [] webauthn
  let (_, accounts) ← collectSigners delegatedDedupKey delegatedSignerEntry 0 seen delegated
  return (external ++ accounts).insertionSort keyOrder

def buildMultisigAuthPayload (contextRuleIDs : List UInt32)
    (webauthn : List WebauthnApprovalInput) (delegated : List String) :
    Except PayloadError ScVal :=
  (multisigSigners webauthn delegated).map (authPayload contextRuleIDs)

inductive ExecuteAuthError where
  | smartAccountEntryIndex
  | notAddressCredentials
  | decodeTemplate (memberID : Uuid)
  | templateMismatch
  | payload (e : PayloadError)
  | missingSignature (memberID : Uuid)
  | delegated (e : DelegatedError)

def checkTemplate (liveDigest : String) (a : MultisigApproval) : Except ExecuteAuthError Unit :=
  match a.delegatedEntryTemplateXdr.decode with
  | none => .error (.decodeTemplate a.memberID)
  | some template =>
    if delegatedCheckAuthArgHex template = some liveDigest then .ok () else .error .templateMismatch

def signedDelegatedEntryFromApproval (X : Codec) (a : MultisigApproval) :
    Except ExecuteAuthError SorobanAuthorizationEntry :=
  if a.hasDelegatedMaterial then
    (applyDelegatedSignature X a.delegatedEntryTemplateXdr a.delegatedSignedAuthEntryBase64
      a.delegatedSignerAddress).mapError .delegated
  else .error (.missingSignature a.memberID)

def smartAccountEntryAt (entries : AuthEntries) (index : Int) :
    Option (Nat × SorobanAuthorizationEntry) :=
  if 0 ≤ index then entries[index.toNat]?.map fun e => (index.toNat, e) else none

def keptEntries (entries : AuthEntries) (idx : Nat) :
    AuthEntries :=
  (entries.eraseIdx idx).filter fun e => !isUnsignedAddressAuthEntry e

def webauthnInput (cfg : TxConfig) (a : MultisigApproval) : WebauthnApprovalInput :=
  ⟨cfg.webauthnVerifierAddress, a.memberKeyDataHex, a.webauthnSigDataXdrHex⟩

def orNotAddress {α : Type} : Option α → Except ExecuteAuthError α := orError .notAddressCredentials

def buildMultisigExecuteAuthEntries (cfg : TxConfig) (X : Codec) (entries : AuthEntries)
    (index : Int) (contextRuleID : UInt32)
    (picked : PickedApprovals) : Except ExecuteAuthError AuthEntries := do
  let some (idx, entry) := smartAccountEntryAt entries index | .error .smartAccountEntryIndex
  let ids := contextRuleIDsForEntry entry contextRuleID
  let liveDigest ← orNotAddress (computeAuthDigestHex entry cfg.networkPassphrase ids)
  picked.delegated.forM (checkTemplate liveDigest)
  let payload ← (buildMultisigAuthPayload ids (picked.webauthn.map (webauthnInput cfg))
    (picked.delegated.map MultisigApproval.memberGAddress)).mapError .payload
  if entry.hasSourceAccount then .error .notAddressCredentials
  else
    let signed ← picked.delegated.mapM (signedDelegatedEntryFromApproval X)
    return entry.withSignature payload :: keptEntries entries idx ++ signed

inductive AssembleError where
  | thresholdNotMet (have_ need : Nat)
  | decodeAuthEntries
  | normalizeAuthEntries
  | execute (e : ExecuteAuthError)

structure Execution where
  picked : PickedApprovals
  entries : AuthEntries

def storedEntries (built : BuiltProposalArtifacts) :
    Except AssembleError AuthEntries :=
  match built.authEntries.decode with
  | none => .error .decodeAuthEntries
  | some raw =>
    match normalizeAuthEntries raw with
    | none => .error .normalizeAuthEntries
    | some entries => .ok entries

def assembleExecution (cfg : TxConfig) (X : Codec) (built : BuiltProposalArtifacts)
    (threshold : Nat) (rows : List ApprovalWithMember) : Except AssembleError Execution := do
  let webauthn := usableWebauthn rows
  let delegated := usableDelegated rows
  if webauthn.length + delegated.length < threshold then
    .error (.thresholdNotMet (webauthn.length + delegated.length) threshold)
  else
    let picked := pickApprovalsForThreshold threshold webauthn delegated
    let entries ← storedEntries built
    let final ← (buildMultisigExecuteAuthEntries cfg X entries built.smartAccountAuthEntryIndex
      built.contextRuleID picked).mapError .execute
    return ⟨picked, final⟩

variable {entries : AuthEntries} {index : Int}
  {final : AuthEntries}

section Assembled

variable {cfg : TxConfig} {X : Codec} {rows : List ApprovalWithMember} {picked : PickedApprovals}
  {contextRuleID : UInt32} {a : MultisigApproval} {e : SorobanAuthorizationEntry}

theorem smartAccountEntryAt_eq_some {idx : Nat} :
    smartAccountEntryAt entries index = some (idx, e) ↔
      entries[idx]? = some e ∧ (idx : Int) = index := by
  unfold smartAccountEntryAt
  constructor
  · intro h
    by_cases hindex : 0 ≤ index
    · rw [if_pos hindex] at h
      obtain ⟨e', he', hpair⟩ := Option.map_eq_some_iff.mp h
      cases hpair
      exact ⟨he', Int.toNat_of_nonneg hindex⟩
    · rw [if_neg hindex] at h
      cases h
  · rintro ⟨he, rfl⟩
    simp [he]

structure Assembled (cfg : TxConfig) (X : Codec) (entries : AuthEntries) (index : Int)
    (contextRuleID : UInt32) (picked : PickedApprovals) (final : AuthEntries) where
  idx : Nat
  entry : SorobanAuthorizationEntry
  liveDigest : String
  signers : List (ScVal × ScVal)
  signed : AuthEntries
  entry_at : entries[idx]? = some entry
  index_eq : (idx : Int) = index
  hasSourceAccount_eq : entry.hasSourceAccount = false
  digest_eq : computeAuthDigestHex entry cfg.networkPassphrase
    (contextRuleIDsForEntry entry contextRuleID) = some liveDigest
  templates : ∀ a ∈ picked.delegated, checkTemplate liveDigest a = .ok ()
  signers_eq : multisigSigners (picked.webauthn.map (webauthnInput cfg))
    (picked.delegated.map MultisigApproval.memberGAddress) = .ok signers
  signed_by : List.Forall₂ (fun a e => signedDelegatedEntryFromApproval X a = .ok e)
    picked.delegated signed
  final_eq : final = entry.withSignature (authPayload (contextRuleIDsForEntry entry contextRuleID)
    signers) :: keptEntries entries idx ++ signed

theorem Assembled.head_eq (a : Assembled cfg X entries index contextRuleID picked final) :
    final.head? = some (a.entry.withSignature
      (authPayload (contextRuleIDsForEntry a.entry contextRuleID) a.signers)) :=
  congrArg head? a.final_eq

theorem Assembled.mem_of_signed (a : Assembled cfg X entries index contextRuleID picked final)
    (he : e ∈ a.signed) : e ∈ final := by
  apply Eq.mpr (congrArg (e ∈ ·) a.final_eq)
  exact mem_append_right _ he

theorem assembled_of_build
    (h : buildMultisigExecuteAuthEntries cfg X entries index contextRuleID picked = .ok final) :
    Nonempty (Assembled cfg X entries index contextRuleID picked final) := by
  unfold buildMultisigExecuteAuthEntries at h
  split at h
  · rename_i idx entry hentry
    obtain ⟨hentry, hindex⟩ := smartAccountEntryAt_eq_some.mp hentry
    obtain ⟨liveDigest, hdigest, h⟩ := bind_eq_ok.mp h
    obtain ⟨_, htemplates, h⟩ := bind_eq_ok.mp h
    obtain ⟨payload, hpayload, h⟩ := bind_eq_ok.mp h
    obtain ⟨signers, hsigners, rfl⟩ := map_eq_ok.mp (mapError_eq_ok.mp hpayload)
    by_cases hsource : entry.hasSourceAccount = true
    · rw [if_pos hsource] at h
      cases h
    rw [if_neg hsource] at h
    obtain ⟨signed, hsigned, h⟩ := bind_eq_ok.mp h
    exact ⟨{
      idx := idx
      entry := entry
      liveDigest := liveDigest
      signers := signers
      signed := signed
      entry_at := hentry
      index_eq := hindex
      hasSourceAccount_eq := by simpa using hsource
      digest_eq := orError_eq_ok.mp hdigest
      templates := forM_eq_ok.mp htemplates
      signers_eq := hsigners
      signed_by := mapM_eq_ok.mp hsigned
      final_eq := (Except.ok.inj h).symm }⟩
  · cases h

theorem assembleExecution_eq_ok {built : BuiltProposalArtifacts} {threshold : Nat} {ex : Execution}
    (h : assembleExecution cfg X built threshold rows = .ok ex) :
    threshold ≤ (usableWebauthn rows).length + (usableDelegated rows).length ∧
      ex.picked = pickApprovalsForThreshold threshold (usableWebauthn rows) (usableDelegated rows) ∧
      ∃ entries, storedEntries built = .ok entries ∧
        Nonempty (Assembled cfg X entries built.smartAccountAuthEntryIndex built.contextRuleID
          ex.picked ex.entries) := by
  unfold assembleExecution at h
  by_cases hfew : (usableWebauthn rows).length + (usableDelegated rows).length < threshold
  · simp only [if_pos hfew] at h
    cases h
  simp only [if_neg hfew] at h
  obtain ⟨entries, hentries, h⟩ := bind_eq_ok.mp h
  obtain ⟨final, hfinal, h⟩ := bind_eq_ok.mp h
  cases h
  exact ⟨Nat.le_of_not_lt hfew, rfl, entries, hentries, assembled_of_build (mapError_eq_ok.mp hfinal)⟩

theorem mem_usableWebauthn :
    a ∈ usableWebauthn rows ↔ ∃ row ∈ rows, row.approval.approvalType = .webauthn ∧
      row.toApproval.hasWebauthnMaterial = true ∧ row.toApproval = a := by
  simp only [usableWebauthn, mem_map, mem_filter, Bool.and_eq_true, decide_eq_true_eq,
    and_assoc]

theorem mem_usableDelegated :
    a ∈ usableDelegated rows ↔ ∃ row ∈ rows, row.approval.approvalType = .delegated ∧
      row.toApproval.hasDelegatedMaterial = true ∧ row.toApproval.memberGAddress ≠ "" ∧
      row.toApproval = a := by
  simp only [usableDelegated, mem_map, mem_filter, Bool.and_eq_true, decide_eq_true_eq,
    bne_iff_ne, and_assoc]

theorem mem_rows_of_picked {threshold : Nat}
    (ha : a ∈ (pickApprovalsForThreshold threshold (usableWebauthn rows)
      (usableDelegated rows)).all) : ∃ row ∈ rows, row.toApproval = a := by
  rcases mem_append.mp ha with ha | ha
  · obtain ⟨row, hrow, -, -, rfl⟩ := mem_usableWebauthn.mp (mem_of_mem_take ha)
    exact ⟨row, hrow, rfl⟩
  · obtain ⟨row, hrow, -, -, -, rfl⟩ := mem_usableDelegated.mp (mem_of_mem_take ha)
    exact ⟨row, hrow, rfl⟩

end Assembled

end LatchApi.Multisig
