import LatchApi.Draft.Ops

namespace LatchApi.Draft

open Lib Program Store Soroban Multisig
  Factory

def draftInviteTTL : Int := 7 * 24 * 60 * 60 * 1000

def defaultDraftThreshold : Int := 2

inductive DraftError where
  | draftNotFound
  | notCollecting
  | memberValidation (message : String)
  | memberDuplicate (message : String)
  | insufficientSigners
  | thresholdInvalid
  | inviteUnavailable
  | memberNotFound
  | noActiveDraft
  | parseUserID
  | db (context : String)
  | params (e : ParamsError)
  | factory (context : String) (e : CallError)

abbrev Service (α : Type) := Program DraftOp DraftRes DraftError α

def orDb {α : Type} (context : String) (x : Except DbError α) : Except DraftError α :=
  x.mapError fun _ => .db context

def orMissing {α : Type} (missing : DraftError) (context : String) (x : Except DbError α) :
    Except DraftError α :=
  x.mapError fun
    | .noRows => missing
    | .failed => .db context

def orFactoryError {α : Type} (context : String) (x : Except CallError α) : Except DraftError α :=
  x.mapError (.factory context)

section Calls

abbrev runQuery (q : Query) : Service (Except DbError q.Answer) := perform (DraftOp.read q)

abbrev runWrite (w : Write) : Service (Except DbError Unit) := perform (DraftOp.write w)

abbrev persistTx (account : AccountRow) (members : List MemberRow) : Service (Except DbError Unit) :=
  perform (DraftOp.persistTx account members)

abbrev newUUID : Service Uuid := perform DraftOp.newUUID

abbrev now : Service Int := perform DraftOp.now

abbrev random (n : Nat) : Service Bytes := perform (DraftOp.random n)

abbrev factoryPredictAddress (params : ScVal) : Service (Except CallError String) :=
  perform (DraftOp.factory (.predictAddress params))

abbrev factoryDeploy (params : ScVal) (predicted : String) : Service (Except CallError (String × Bool)) :=
  perform (DraftOp.factory (.deploy params predicted))

end Calls

def listMembers (draftID : Uuid) : Service (List DraftMemberRow) := do
  ofExcept (orDb "list draft members" (← runQuery (.listMultisigDraftMembersForDraft draftID)))

def loadAndSerialize (draft : DraftRow) : Service SerializedDraft := do
  let memberRows ← listMembers draft.id
  return serialize draft memberRows

def createDraft (userID : Encoded Uuid) : Service SerializedDraft := do
  let uid ← ofExcept (orError .parseUserID userID.decode)
  let saltHex := hexEncode (← random 32)
  let inviteToken := base64UrlEncode (← random 24)
  let createdAt ← now
  let id ← newUUID
  ofExcept (orDb "insert multisig draft" (← runWrite (.insertMultisigDraft
    ⟨id, uid, defaultDraftThreshold, saltHex, inviteToken, .collecting, none, none, createdAt,
      some (createdAt + draftInviteTTL)⟩)))
  let draft ← ofExcept (orDb "load created draft"
    (← runQuery (.getMultisigDraftByIDForCreator id uid)))
  loadAndSerialize draft

def getActiveDraft (userID : Encoded Uuid) : Service SerializedDraft := do
  let uid ← ofExcept (orError .parseUserID userID.decode)
  let draft ← ofExcept (orMissing .noActiveDraft "get active draft"
    (← runQuery (.getActiveMultisigDraftForUser uid)))
  loadAndSerialize draft

def getDraftForCreator (draftID userID : Encoded Uuid) : Service DraftRow := do
  let did ← ofExcept (orError .draftNotFound draftID.decode)
  let uid ← ofExcept (orError .parseUserID userID.decode)
  ofExcept (orMissing .draftNotFound "get draft" (← runQuery (.getMultisigDraftByIDForCreator did uid)))

def getDraft (draftID userID : Encoded Uuid) : Service SerializedDraft := do
  loadAndSerialize (← getDraftForCreator draftID userID)

def requireCollecting (draft : DraftRow) : Except DraftError Unit :=
  if draft.status = .collecting then .ok () else .error .notCollecting

def requireThreshold (threshold : Int) (memberRows : List DraftMemberRow) : Except DraftError Unit :=
  if threshold < 1 ∨ threshold > memberRows.length then .error .thresholdInvalid else .ok ()

def int32 (n : Int) : Int := Int.bmod n (2 ^ 32)

def updateThreshold (draftID userID : Encoded Uuid) (threshold : Int) : Service SerializedDraft := do
  let draft ← getDraftForCreator draftID userID
  ofExcept (requireCollecting draft)
  let memberRows ← listMembers draft.id
  ofExcept (requireThreshold threshold memberRows)
  ofExcept (orDb "update threshold"
    (← runWrite (.updateMultisigDraftThreshold draft.id (int32 threshold))))
  return serialize (setThreshold (int32 threshold) draft) memberRows

@[irreducible] def requireValid (member : DraftMultisigMember) : Except DraftError Unit :=
  if validateDraftMember member = "" then .ok ()
  else .error (.memberValidation (validateDraftMember member))

def requireNew (member : DraftMultisigMember) (existing : List DraftMultisigMember) :
    Except DraftError Unit :=
  if duplicateMemberError member existing = "" then .ok ()
  else .error (.memberDuplicate (duplicateMemberError member existing))

def memberRow (id draftID : Uuid) (member : DraftMultisigMember) (source : MemberSource)
    (createdAt : Int) (userID : Option Uuid) : DraftMemberRow where
  id := id
  draftID := draftID
  label := member.label
  memberType := member.kind
  gAddress := nullStr member.gAddress
  keyDataHex := nullStr member.keyDataHex
  credentialID := nullStr member.credentialID
  publicKeyHex := nullStr member.publicKeyHex
  source := source
  createdAt := createdAt
  userID := userID

theorem domainMemberFromRow_memberRow (id draftID : Uuid) (member : DraftMultisigMember)
    (source : MemberSource) (createdAt : Int) (userID : Option Uuid) :
    domainMemberFromRow (memberRow id draftID member source createdAt userID) = member := by
  simp only [domainMemberFromRow, memberRow, strOrEmpty_nullStr]

theorem requireValid_eq_ok {member : DraftMultisigMember} {u : Unit}
    (h : requireValid member = .ok u) : member.valid = true := by
  unfold requireValid at h
  split_ifs at h with hempty
  exact beq_iff_eq.mpr hempty

def addMemberToDraft (draft : DraftRow) (member : DraftMultisigMember) (userID : Encoded Uuid)
    (source : MemberSource) : Service Unit := do
  ofExcept (requireValid member)
  let existingRows ← listMembers draft.id
  ofExcept (requireNew member (existingRows.map domainMemberFromRow))
  let id ← newUUID
  let createdAt ← now
  ofExcept (orDb "insert draft member" (← runWrite (.insertMultisigDraftMember
    (memberRow id draft.id member source createdAt userID.decode))))

def addMember (draftID userID : Encoded Uuid) (member : DraftMultisigMember) :
    Service SerializedDraft := do
  let draft ← getDraftForCreator draftID userID
  ofExcept (requireCollecting draft)
  addMemberToDraft draft member userID .creator
  loadAndSerialize draft

def deleteMember (draftID memberID userID : Encoded Uuid) : Service SerializedDraft := do
  let draft ← getDraftForCreator draftID userID
  ofExcept (requireCollecting draft)
  let mid ← ofExcept (orError .memberNotFound memberID.decode)
  ofExcept (orDb "delete draft member" (← runWrite (.deleteMultisigDraftMember mid draft.id)))
  loadAndSerialize draft

def requireSigners (signers : List MultisigSignerInit) : Except DraftError Unit :=
  if signers.length < 2 then .error .insufficientSigners else .ok ()

def draftParams (draft : DraftRow) (memberRows : List DraftMemberRow) : Except DraftError ScVal := do
  let signers := validDeployableFactorySigners memberRows
  requireSigners signers
  (buildParams draft signers).mapError .params

structure PredictedDraft where
  address : String
  paramsXdr : Encoded ScVal
  result : SerializedDraft

def predictAddress (draftID userID : Encoded Uuid) : Service PredictedDraft := do
  let draft ← getDraftForCreator draftID userID
  let memberRows ← listMembers draft.id
  let params ← ofExcept (draftParams draft memberRows)
  let predicted ← ofExcept (orFactoryError "predict multisig smart account address"
    (← factoryPredictAddress params))
  ofExcept (orDb "persist predicted address"
    (← runWrite (.updateMultisigDraftPredictedAddress draft.id (nullStr predicted))))
  return ⟨predicted, .of params, serialize (setPredicted (nullStr predicted) draft) memberRows⟩

def isDeployable (m : DraftMultisigMember) : Bool :=
  m.valid && decide (m.kind = .webauthn ∨ m.kind = .delegated)

def accountMemberType : MultisigSignerKind → MemberType
  | .webauthn => .webauthn
  | .delegated => .delegated
  | kind => .other kind.name

def accountMember (createdAt : Int) (id : Uuid) (row : DraftMemberRow) : MemberRow :=
  let m := domainMemberFromRow row
  { id := id
    multisigAccountID := 0
    memberType := accountMemberType m.kind
    label := nullStr m.label
    keyDataHex := nullStr m.keyDataHex
    credentialID := nullStr m.credentialID
    gAddress := nullStr m.gAddress
    createdAt := createdAt
    userID := row.userID }

def newUUIDs : Nat → Service (List Uuid)
  | 0 => .ok []
  | n + 1 => do
    let id ← newUUID
    let ids ← newUUIDs n
    return id :: ids

def persistDeployedAccount (userID : Uuid) (smartAccountAddress : String) (threshold : Int)
    (accountSaltHex : String) (draftMemberRows : List DraftMemberRow) : Service Unit := do
  let id ← newUUID
  let createdAt ← now
  let membersCreatedAt ← now
  let rows := draftMemberRows.filter fun row => isDeployable (domainMemberFromRow row)
  let ids ← newUUIDs rows.length
  ofExcept (orDb "persist deployed account" (← persistTx
    ⟨id, userID, smartAccountAddress, threshold.toNat, accountSaltHex, createdAt⟩
    (List.zipWith (accountMember membersCreatedAt) ids rows)))

structure DeployedDraft where
  address : String
  alreadyDeployed : Bool
  result : SerializedDraft

def predictedOrAsk (draft : DraftRow) (params : ScVal) : Service String :=
  if strOrEmpty draft.predictedAddress = "" then do
    ofExcept (orFactoryError "predict multisig smart account address" (← factoryPredictAddress params))
  else return strOrEmpty draft.predictedAddress

def deployCollecting (draft : DraftRow) : Service DeployedDraft := do
  let memberRows ← listMembers draft.id
  let params ← ofExcept (draftParams draft memberRows)
  let predicted ← predictedOrAsk draft params
  let (address, alreadyDeployed) ← ofExcept (orFactoryError "deploy multisig smart account"
    (← factoryDeploy params predicted))
  persistDeployedAccount draft.creatorUserID address draft.threshold draft.accountSaltHex memberRows
  ofExcept (orDb "mark draft deployed" (← runWrite
    (.updateMultisigDraftDeployed draft.id (nullStr address) (nullStr predicted))))
  return ⟨address, alreadyDeployed,
    serialize (setDeployed (nullStr address) (nullStr predicted) draft) memberRows⟩

def deploy (draftID userID : Encoded Uuid) : Service DeployedDraft := do
  let draft ← getDraftForCreator draftID userID
  if draft.status = .deployed then
    let memberRows ← listMembers draft.id
    return ⟨strOrEmpty draft.smartAccountAddress, true, serialize draft memberRows⟩
  else deployCollecting draft

def requireOpen (draft : DraftRow) : Except DraftError Unit :=
  if draft.status = .collecting then .ok () else .error .inviteUnavailable

def requireUnexpired (expiresAt time : Int) : Except DraftError Unit :=
  if expiresAt ≤ time then .error .inviteUnavailable else .ok ()

def getDraftByInviteToken (token : String) : Service DraftRow := do
  let draft ← ofExcept (orMissing .inviteUnavailable "get draft by invite token"
    (← runQuery (.getMultisigDraftByInviteToken token)))
  ofExcept (requireOpen draft)
  match draft.expiresAt with
  | none => return draft
  | some expiresAt =>
    ofExcept (requireUnexpired expiresAt (← now))
    return draft

def getPublicDraftByToken (token : String) : Service PublicDraftView := do
  let draft ← getDraftByInviteToken token
  let memberRows ← listMembers draft.id
  return serializePublic draft memberRows

def addMemberViaInvite (token : String) (userID : Encoded Uuid) (member : DraftMultisigMember) :
    Service PublicDraftView := do
  let draft ← getDraftByInviteToken token
  addMemberToDraft draft member userID .invite
  let memberRows ← listMembers draft.id
  return serializePublic draft memberRows

inductive Request where
  | createDraft (userID : Encoded Uuid)
  | getActiveDraft (userID : Encoded Uuid)
  | getDraft (draftID userID : Encoded Uuid)
  | updateThreshold (draftID userID : Encoded Uuid) (threshold : Int)
  | addMember (draftID userID : Encoded Uuid) (member : DraftMultisigMember)
  | addMemberViaInvite (token : String) (userID : Encoded Uuid) (member : DraftMultisigMember)
  | deleteMember (draftID memberID userID : Encoded Uuid)
  | predictAddress (draftID userID : Encoded Uuid)
  | deploy (draftID userID : Encoded Uuid)
  | getPublicDraft (token : String)

inductive Answer where
  | draft (result : SerializedDraft)
  | publicDraft (view : PublicDraftView)
  | predicted (answer : PredictedDraft)
  | deployed (answer : DeployedDraft)

def Answer.shown : Answer → Option SerializedDraft
  | .draft result => some result
  | .publicDraft _ => none
  | .predicted answer => some answer.result
  | .deployed answer => some answer.result

def body : Request → Service Answer
  | .createDraft userID => do return .draft (← createDraft userID)
  | .getActiveDraft userID => do return .draft (← getActiveDraft userID)
  | .getDraft draftID userID => do return .draft (← getDraft draftID userID)
  | .updateThreshold draftID userID threshold => do
    return .draft (← updateThreshold draftID userID threshold)
  | .addMember draftID userID member => do return .draft (← addMember draftID userID member)
  | .addMemberViaInvite token userID member => do
    return .publicDraft (← addMemberViaInvite token userID member)
  | .deleteMember draftID memberID userID => do
    return .draft (← deleteMember draftID memberID userID)
  | .predictAddress draftID userID => do return .predicted (← predictAddress draftID userID)
  | .deploy draftID userID => do return .deployed (← deploy draftID userID)
  | .getPublicDraft token => do return .publicDraft (← getPublicDraftByToken token)

end LatchApi.Draft
