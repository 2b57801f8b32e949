import LatchApi.Draft.Members
import LatchApi.Factory.Service
import LatchApi.Lib.Reply

namespace LatchApi.Draft

open Lib Program Store Soroban Multisig
  Factory

inductive Query where
  | getMultisigDraftByIDForCreator (id creatorUserID : Uuid)
  | getMultisigDraftByInviteToken (token : String)
  | getActiveMultisigDraftForUser (userID : Uuid)
  | listMultisigDraftMembersForDraft (draftID : Uuid)

@[reducible] def Query.Answer : Query → Type
  | .getMultisigDraftByIDForCreator _ _ => DraftRow
  | .getMultisigDraftByInviteToken _ => DraftRow
  | .getActiveMultisigDraftForUser _ => DraftRow
  | .listMultisigDraftMembersForDraft _ => List DraftMemberRow

inductive Write where
  | insertMultisigDraft (row : DraftRow)
  | updateMultisigDraftThreshold (id : Uuid) (threshold : Int)
  | updateMultisigDraftPredictedAddress (id : Uuid) (predicted : Option String)
  | updateMultisigDraftDeployed (id : Uuid) (smartAccountAddress predicted : Option String)
  | insertMultisigDraftMember (row : DraftMemberRow)
  | deleteMultisigDraftMember (id draftID : Uuid)

inductive DraftOp where
  | read (q : Query)
  | write (w : Write)
  | persistTx (account : AccountRow) (members : List MemberRow)
  | newUUID
  | now
  | random (n : Nat)
  | factory (op : FactoryOp)

@[reducible] def DraftRes : DraftOp → Type
  | .read q => Except DbError q.Answer
  | .write _ => Except DbError Unit
  | .persistTx _ _ => Except DbError Unit
  | .newUUID => Uuid
  | .now => Int
  | .random _ => Bytes
  | .factory op => FactoryRes op

/-- Beside the tables and the chain: `asked` are the parameters that the factory was asked to
deploy, `edited` the drafts that were edited after their address was last predicted. -/
structure State where
  drafts : Table DraftRow Uuid String DraftRow.id DraftRow.inviteToken
  members : Table DraftMemberRow Uuid Uuid DraftMemberRow.id DraftMemberRow.id
  accounts : Multisig.Db
  chain : Factory.Chain
  asked : List ScVal
  edited : List Uuid

def State.empty : State := ⟨.empty, .empty, .empty, .empty, [], []⟩

def State.membersOf (s : State) (draftID : Uuid) : List DraftMemberRow :=
  s.members.rows.filter fun r => decide (r.draftID = draftID)

/-- Everything the service does not control. `order` decides between rows of the same age. -/
structure Choice where
  reply : Lib.Reply := .done
  order : List Uuid := []
  uuid : Uuid := 0
  time : Int := 0
  bytes : Bytes := []
  rpc : Nat → RpcChoice := fun _ => {}

def Query.answer (s : State) (order : List Uuid) : (q : Query) → Except DbError q.Answer
  | .getMultisigDraftByIDForCreator id creatorUserID =>
    orNoRows (s.drafts.find fun r => decide (r.id = id ∧ r.creatorUserID = creatorUserID))
  | .getMultisigDraftByInviteToken token =>
    orNoRows (s.drafts.find fun r => decide (r.inviteToken = token))
  | .getActiveMultisigDraftForUser userID =>
    orNoRows ((s.drafts.rows.filter fun r => decide (r.creatorUserID = userID ∧
      r.status = .collecting)).insertionSort (rowOrder (fun r => -r.createdAt) DraftRow.id order)).head?
  | .listMultisigDraftMembersForDraft draftID =>
    .ok ((s.membersOf draftID).insertionSort (rowOrder DraftMemberRow.createdAt DraftMemberRow.id order))

def State.updateDraft (s : State) (id : Uuid) (set : DraftRow → DraftRow)
    (hset : ∀ r, (set r).id = r.id ∧ (set r).inviteToken = r.inviteToken) : State :=
  { s with drafts := s.drafts.update (fun r => decide (r.id = id)) set hset }

def setThreshold (threshold : Int) (r : DraftRow) : DraftRow := { r with threshold := threshold }

def setPredicted (predicted : Option String) (r : DraftRow) : DraftRow :=
  { r with predictedAddress := predicted }

def setDeployed (smartAccountAddress predicted : Option String) (r : DraftRow) : DraftRow :=
  { r with
    status := .deployed
    smartAccountAddress := smartAccountAddress
    predictedAddress := predicted }

def State.write (s : State) : Write → Option State
  | .insertMultisigDraft row => (s.drafts.insert row).map fun t => { s with drafts := t }
  | .updateMultisigDraftThreshold id threshold =>
    some { s.updateDraft id (setThreshold threshold) (fun _ => ⟨rfl, rfl⟩) with
      edited := id :: s.edited }
  | .updateMultisigDraftPredictedAddress id predicted =>
    some { s.updateDraft id (setPredicted predicted) (fun _ => ⟨rfl, rfl⟩) with
      edited := s.edited.filter fun i => decide (i ≠ id) }
  | .updateMultisigDraftDeployed id smartAccountAddress predicted =>
    some (s.updateDraft id (setDeployed smartAccountAddress predicted) fun _ => ⟨rfl, rfl⟩)
  | .insertMultisigDraftMember row =>
    (s.members.insert row).map fun t => { s with members := t, edited := row.draftID :: s.edited }
  | .deleteMultisigDraftMember id draftID =>
    some { s with
      members := s.members.delete fun r => decide (r.id = id ∧ r.draftID = draftID)
      edited := draftID :: s.edited }

section Persist

def insertMembers (t : Table MemberRow Uuid Uuid MemberRow.id MemberRow.id) :
    List MemberRow → Option (Table MemberRow Uuid Uuid MemberRow.id MemberRow.id)
  | [] => some t
  | row :: rows => do
    if t.rows.any row.clashes then none
    else insertMembers (← t.insert row) rows

theorem setAccount_keys (account r : AccountRow) : (setAccount account r).id = r.id ∧
      (setAccount account r).smartAccountAddress = r.smartAccountAddress := ⟨rfl, rfl⟩

def persist (db : Multisig.Db) (account : AccountRow) (members : List MemberRow) :
    Option Multisig.Db := do
  let accounts ← db.accounts.upsert account (setAccount account) (setAccount_keys account)
  let row ← accounts.find fun r => decide (r.smartAccountAddress = account.smartAccountAddress)
  let cleared := db.members.delete fun r => decide (r.multisigAccountID = row.id)
  let stored ← insertMembers cleared (members.map fun m => { m with multisigAccountID := row.id })
  return { db with accounts := accounts, members := stored }

end Persist

def State.settle (s : State) (reply : Lib.Reply) : Option State → Except DbError Unit × State
  | none => (.error .failed, s)
  | some s' => replied .failed reply () s s'

def exec (F : FactoryContract) (cfg : FactoryConfig) :
    (op : DraftOp) → State → Choice → DraftRes op × State
  | .read q, s, c => (if c.reply = .done then q.answer s c.order else .error .failed, s)
  | .write w, s, c => s.settle c.reply (s.write w)
  | .persistTx account members, s, c =>
    s.settle c.reply ((persist s.accounts account members).map fun db => { s with accounts := db })
  | .newUUID, s, c => (c.uuid, s)
  | .now, s, c => (c.time, s)
  | .random n, s, c => ((c.bytes ++ List.replicate n 0).take n, s)
  | .factory (.predictAddress params), s, c =>
    let out := drive (rpcExec F) c.rpc 0 (Factory.predictAddress cfg params) s.chain
    (out.1, { s with chain := out.2 })
  | .factory (.deploy params predicted), s, c =>
    let out := drive (rpcExec F) c.rpc 0 (Factory.deploy cfg params predicted) s.chain
    (out.1, { s with chain := out.2, asked := s.asked ++ [params] })

end LatchApi.Draft
