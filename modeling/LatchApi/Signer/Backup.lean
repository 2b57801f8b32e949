import LatchApi.Signer.Confirm

namespace LatchApi.Signer

open Lib Program Soroban Passkey
open Store (DbError CallError Fault Choice Shared PasskeyRow Uuid)
open WebAuthn (HttpFail SessionContext requireProvedSigner)
open Deploy (DeployConfig bindRequired parseNetwork)
open Rules (addSignerRuleArgs)

section Handler

inductive RecordOp where
  | store (op : Store.Op)
  | confirm (op : ConfirmOp)
  | setAccountSignerContextRuleID (smartAccountAddress credentialID : String) (contextRuleID : Int32)

@[reducible] def RecordRes : RecordOp → Type
  | .store op => Store.Res op
  | .confirm op => ConfirmRes op
  | .setAccountSignerContextRuleID _ _ _ => Except DbError Unit

abbrev Recorder (ε α : Type) := Program RecordOp RecordRes ε α

def ofStore {ε α : Type} (p : Program Store.Op Store.Res ε α) : Recorder ε α :=
  p.embed RecordOp.store fun _ r => r

def ofConfirm {ε α : Type} (p : Confirmer ε α) : Recorder ε α :=
  p.embed RecordOp.confirm fun _ r => r

structure ConfirmAddRequest where
  network : String
  smartAccountAddress : String
  keyDataHex : String
  credentialID : String
  label : String
  seq : Int
  txHash : String
  callerCredentialID : String

def ConfirmAddRequest.hasRequired (req : ConfirmAddRequest) : Bool :=
  req.smartAccountAddress ≠ "" && req.keyDataHex ≠ "" && req.credentialID ≠ "" && req.txHash ≠ ""

def ConfirmAddRequest.input (req : ConfirmAddRequest) : ConfirmAddSignerRuleInput :=
  ⟨req.smartAccountAddress, req.keyDataHex, req.txHash⟩

structure ConfirmAddReply where
  contextRuleID : UInt32
  smartAccountAddress : String
  credentialID : String
deriving DecidableEq

def signerAddedIndexFailed : HttpFail :=
  ⟨500, "add_context_rule succeeded on-chain but indexing it failed; retry this confirm call"⟩

def bindConfirmAdd (cfg : DeployConfig) (body : Option ConfirmAddRequest) :
    Except HttpFail ConfirmAddRequest := do
  let req ← bindRequired ConfirmAddRequest.hasRequired body
  let _ ← parseNetwork cfg req.network
  return req

def markSignerContextRule (smartAccountAddress credentialID : String) (contextRuleID : UInt32) :
    Recorder DbError Unit := do
  ofExcept (← perform (RecordOp.setAccountSignerContextRuleID smartAccountAddress credentialID
    contextRuleID.toInt32))

def recordSigner (req : ConfirmAddRequest) (contextRuleID : UInt32) :
    Recorder HttpFail ConfirmAddReply := do
  match ← (markSignerContextRule req.smartAccountAddress req.credentialID contextRuleID).attempt with
  | .error _ => .fail signerAddedIndexFailed
  | .ok () =>
    match ← (ofStore (register req.keyDataHex req.smartAccountAddress req.label req.seq)).attempt with
    | .error _ => .fail signerAddedIndexFailed
    | .ok () => return ⟨contextRuleID, req.smartAccountAddress, req.credentialID⟩

def handleConfirmAddSigner (cfg : DeployConfig) (chain : ConfirmConfig) (ctx : SessionContext)
    (body : Option ConfirmAddRequest) : Recorder HttpFail ConfirmAddReply := do
  let req ← ofExcept (bindConfirmAdd cfg body)
  ofStore (requireProvedSigner ctx req.callerCredentialID req.smartAccountAddress)
  match ← (ofConfirm (confirmAddSignerRule chain req.input)).attempt with
  | .error e => .fail (failChainConfirm e)
  | .ok contextRuleID => recordSigner req contextRuleID

end Handler

section World

structure AccountSignerRow where
  id : Uuid
  smartAccountAddress : String
  credentialID : Option String
  contextRuleID : Option Int32

structure RecordWorld where
  shared : Shared
  chain : Table ChainTx String String ChainTx.hash ChainTx.hash
  accountSigners : Table AccountSignerRow Uuid Uuid AccountSignerRow.id AccountSignerRow.id

def RecordWorld.confirming (w : RecordWorld) : World := ⟨w.chain, w.shared.db.passkeys⟩

def RecordWorld.confirmed (w : RecordWorld) (s : World) : RecordWorld :=
  { w with
    chain := s.chain
    shared := { w.shared with db := { w.shared.db with passkeys := s.passkeys } } }

def RecordWorld.signerCredentialIDs (w : RecordWorld) (smartAccountAddress : String) :
    Except CallError (List String) :=
  match w.shared.db.smartAccounts.find fun r => r.smartAccountAddress == smartAccountAddress with
  | none => .error .unknownAccount
  | some account => .ok (account.credentialID :: (w.accountSigners.rows.filter fun r =>
      r.smartAccountAddress == smartAccountAddress).filterMap AccountSignerRow.credentialID)

def RecordWorld.isSignerOfAccount (w : RecordWorld) (credentialID smartAccountAddress : String) :
    Except CallError Bool :=
  (w.signerCredentialIDs smartAccountAddress).map fun ids => ids.contains credentialID

def AccountSignerRow.isFor (smartAccountAddress credentialID : String) (r : AccountSignerRow) : Bool :=
  r.smartAccountAddress == smartAccountAddress && r.credentialID == some credentialID

def RecordWorld.marked (w : RecordWorld) (smartAccountAddress credentialID : String)
    (contextRuleID : Int32) : RecordWorld :=
  { w with
    accountSigners := w.accountSigners.update (AccountSignerRow.isFor smartAccountAddress credentialID)
      (fun r => { r with contextRuleID := some contextRuleID }) fun _ => ⟨rfl, rfl⟩ }

def replyOf : Fault → Reply
  | .none => .done
  | .before => .failed
  | .after => .lost

def recordExec : (op : RecordOp) → RecordWorld → Choice → RecordRes op × RecordWorld
  | .store (.isSignerOfAccount credentialID smartAccountAddress), w, c =>
    (if c.fault = .none then w.isSignerOfAccount credentialID smartAccountAddress
      else .error .internal, w)
  | .store op, w, c => ((Store.exec op w.shared c).1, { w with shared := (Store.exec op w.shared c).2 })
  | .confirm op, w, c => ((exec op w.confirming (replyOf c.fault)).1,
      w.confirmed (exec op w.confirming (replyOf c.fault)).2)
  | .setAccountSignerContextRuleID smartAccountAddress credentialID contextRuleID, w, c =>
    replied DbError.failed (replyOf c.fault) () w
      (w.marked smartAccountAddress credentialID contextRuleID)

def RuleAdded (chain : ConfirmConfig) (w : World) (input : ConfirmAddSignerRuleInput)
    (contextRuleID : UInt32) : Prop :=
  ∃ signer result, expectedSigner chain input.keyDataHex = .ok signer ∧
    settledInvocation (w.fetched input.txHash) = .ok result ∧
    verifyInvocation result.1 input.smartAccountAddress "add_context_rule" (addSignerRuleArgs signer) =
      .ok () ∧
    extractReturnContextRuleID chain result.2 = some contextRuleID

structure ProvedSigner (w : RecordWorld) (ctx : SessionContext)
    (credentialID smartAccountAddress : String) : Prop where
  named : credentialID ≠ ""
  proved : (w.shared.db.proved.rows.any fun r =>
    r.sessionID == ctx.sessionID && r.credentialID == credentialID) = true
  signer : w.isSignerOfAccount credentialID smartAccountAddress = .ok true

structure Passes (cfg : DeployConfig) (chain : ConfirmConfig) (ctx : SessionContext) (w : RecordWorld)
    (req : ConfirmAddRequest) : Prop where
  required : req.hasRequired = true
  network : ∃ network, parseNetwork cfg req.network = .ok network
  caller : ProvedSigner w ctx req.callerCredentialID req.smartAccountAddress
  added : ∃ contextRuleID, RuleAdded chain w.confirming req.input contextRuleID
  indexed : ∃ row, indexRow req.keyDataHex req.smartAccountAddress req.label req.seq = .ok row

def returnedRule (chain : ConfirmConfig) (tx : FetchedTransaction) : Option UInt32 :=
  match tx.status with
  | .success resultMetaXdr => extractReturnContextRuleID chain resultMetaXdr
  | _ => none

def credentialIn (keyDataHex : String) : Option String :=
  (hexDecode keyDataHex).map fun keyData => base64UrlEncode (keyData.drop 65)

structure Recorded (chain : ConfirmConfig) (w w' : RecordWorld) (req : ConfirmAddRequest) : Prop where
  row : ∃ row ∈ w'.accountSigners.rows, row.isFor req.smartAccountAddress req.credentialID ∧
    ∃ contextRuleID, row.contextRuleID = some contextRuleID ∧
      returnedRule chain (w.confirming.fetched req.txHash) = some contextRuleID.toUInt32
  credential : credentialIn req.keyDataHex = some req.credentialID

/-- Whenever the request is answered with success, its signer is recorded. -/
def RecordsConfirmed (cfg : DeployConfig) (chain : ConfirmConfig) (ctx : SessionContext)
    (w : RecordWorld) (body : Option ConfirmAddRequest) : Prop :=
  ∀ reply w', Runs recordExec (handleConfirmAddSigner cfg chain ctx body) w (.ok reply) w' →
    ∃ req, body = some req ∧ Recorded chain w w' req

end World

variable {s : World} {credentialID : String} {reply : ConfirmAddReply}
  {body : Option ConfirmAddRequest}

section Runs

variable {cfg : DeployConfig} {chain : ConfirmConfig} {ctx : SessionContext} {w w' : RecordWorld}
  {req : ConfirmAddRequest} {contextRuleID : UInt32} {smartAccountAddress : String}
  {input : ConfirmAddSignerRuleInput}

theorem replyOf_surjective : Function.Surjective fun c : Choice => replyOf c.fault := by
  intro reply
  cases reply with
  | done => exact ⟨{ fault := .none }, rfl⟩
  | failed => exact ⟨{ fault := .before }, rfl⟩
  | lost => exact ⟨{ fault := .after }, rfl⟩

theorem confirmed_confirming (w : RecordWorld) : w.confirmed w.confirming = w := rfl

theorem runs_ofConfirm {ε α : Type} {p : Confirmer ε α} {out : Except ε α} :
    Runs recordExec (ofConfirm p) w out w' ↔
      ∃ s, Runs exec p w.confirming out s ∧ w' = w.confirmed s := by
  rw [← confirmed_confirming w]
  exact runs_embed w.confirmed replyOf_surjective (fun _ _ _ _ => ⟨rfl, rfl⟩)
    (always_of_forall (G := fun _ => True) (fun _ => trivial) p)

theorem runs_confirmAddSignerRule {s' : World} :
    Runs exec (confirmAddSignerRule chain input) s (.ok contextRuleID) s' ↔
      s' = s ∧ RuleAdded chain s input contextRuleID := by
  unfold confirmAddSignerRule
  simp only [runs_bind_ok, runs_ofExcept, runs_fetchSettledInvocation]
  constructor
  · rintro ⟨signer, s₁, ⟨hsigner, rfl⟩, result, s₂, ⟨rfl, hsettled⟩, u, s₃, ⟨hverified, rfl⟩,
      hreturned, rfl⟩
    exact ⟨rfl, signer, result, hsigner.symm, hsettled, hverified.symm,
      required_eq_ok.mp hreturned.symm⟩
  · rintro ⟨rfl, signer, result, hsigner, hsettled, hverified, hreturned⟩
    exact ⟨signer, s', ⟨hsigner.symm, rfl⟩, result, s', ⟨rfl, hsettled⟩, (), s', ⟨hverified.symm, rfl⟩,
      (required_eq_ok.mpr hreturned).symm, rfl⟩

def OwnAnswer : Store.Op → Prop
  | .isSignerOfAccount _ _ => False
  | _ => True

theorem runs_ofStore {ε α : Type} {p : Program Store.Op Store.Res ε α} {out : Except ε α}
    (hp : Always OwnAnswer p) : Runs recordExec (ofStore p) w out w' ↔
      ∃ s, Runs Store.exec p w.shared out s ∧ w' = { w with shared := s } := by
  refine runs_embed (fun s => { w with shared := s }) Function.surjective_id (fun op s c hop => ?_) hp
  cases op with
  | isSignerOfAccount credentialID smartAccountAddress => exact hop.elim
  | _ => exact ⟨rfl, rfl⟩

theorem runs_hasProvedCredential {sessionID : Uuid} {s s' : Shared} :
    Runs Store.exec (WebAuthn.hasProvedCredential sessionID credentialID) s (.ok true) s' ↔
      s' = s ∧ credentialID ≠ "" ∧ (s.db.proved.rows.any fun r =>
        r.sessionID == sessionID && r.credentialID == credentialID) = true := by
  unfold WebAuthn.hasProvedCredential
  by_cases hempty : credentialID = ""
  · rw [if_pos hempty]
    constructor
    · rintro ⟨h, -⟩
      cases h
    · rintro ⟨-, hnamed, -⟩
      exact absurd hempty hnamed
  · rw [if_neg hempty, runs_bind_ok]
    constructor
    · rintro ⟨answer, s₁, hread, hrest⟩
      obtain ⟨rfl, rfl | ⟨pick, rfl⟩⟩ := (Store.runs_runQuery_ok _ _).mp hread
      · cases hrest.1
      · obtain ⟨hproved, rfl⟩ := hrest
        exact ⟨rfl, hempty, (Except.ok.inj hproved).symm⟩
    · rintro ⟨rfl, -, hproved⟩
      refine ⟨.ok true, _, (Store.runs_runQuery_ok _ _).mpr ⟨rfl, .inr ⟨0, ?_⟩⟩, rfl, rfl⟩
      exact congrArg Except.ok hproved.symm

def isSignerOrFail (credentialID smartAccountAddress : String) : WebAuthn.Handler Unit := do
  let isSigner ← WebAuthn.callOrFail (← Store.isSignerOfAccount credentialID smartAccountAddress)
  if isSigner then return ()
  else .fail ⟨403, "you are not an authorized signer of this account"⟩

theorem runs_isSignerOfAccount :
    Runs recordExec (ofStore (isSignerOrFail credentialID smartAccountAddress)) w (.ok ()) w' ↔
      w' = w ∧ w.isSignerOfAccount credentialID smartAccountAddress = .ok true := by
  constructor
  · rintro ⟨c, h⟩
    by_cases hfault : c.fault = .none
    · cases hanswer : w.isSignerOfAccount credentialID smartAccountAddress with
      | error e => simp [recordExec, hfault, hanswer, WebAuthn.callOrFail, orFail] at h; cases h.1
      | ok isSigner =>
        simp only [recordExec, hfault, hanswer] at h
        cases isSigner with
        | false => cases h.1
        | true => exact ⟨h.2, rfl⟩
    · simp only [recordExec, hfault] at h
      cases h.1
  · rintro ⟨rfl, hsigner⟩
    refine ⟨{ fault := .none }, ?_⟩
    simp only [recordExec, hsigner]
    exact ⟨rfl, rfl⟩

theorem runs_requireProvedSigner :
    Runs recordExec (ofStore (requireProvedSigner ctx credentialID smartAccountAddress)) w (.ok ()) w' ↔
      w' = w ∧ ProvedSigner w ctx credentialID smartAccountAddress := by
  have hreads : Always OwnAnswer (WebAuthn.hasProvedCredential ctx.sessionID credentialID) := by
    unfold WebAuthn.hasProvedCredential
    split
    · trivial
    · refine ⟨trivial, fun answer => ?_⟩
      cases answer <;> trivial
  unfold requireProvedSigner
  by_cases hempty : credentialID = ""
  · rw [if_pos hempty]
    constructor
    · rintro ⟨h, -⟩
      cases h
    · rintro ⟨-, h⟩
      exact absurd hempty h.named
  · rw [if_neg hempty, ofStore, embed_bind, embed_attempt, runs_bind_ok]
    constructor
    · rintro ⟨outcome, w₁, hattempt, hrest⟩
      obtain ⟨o, ho, hread⟩ := (runs_attempt _ _ _ _).mp hattempt
      cases ho
      rcases outcome with e | (_ | _)
      · cases hrest.1
      · cases hrest.1
      obtain ⟨s, hstore, rfl⟩ := (runs_ofStore hreads).mp hread
      obtain ⟨rfl, hnamed, hproved⟩ := runs_hasProvedCredential.mp hstore
      obtain ⟨rfl, hsigner⟩ := runs_isSignerOfAccount.mp hrest
      exact ⟨rfl, hnamed, hproved, hsigner⟩
    · rintro ⟨rfl, hnamed, hproved, hsigner⟩
      refine ⟨.ok true, w', (runs_attempt _ _ _ _).mpr ⟨_, rfl, ?_⟩,
        runs_isSignerOfAccount.mpr ⟨rfl, hsigner⟩⟩
      exact (runs_ofStore hreads).mpr
        ⟨w'.shared, runs_hasProvedCredential.mpr ⟨rfl, hnamed, hproved⟩, rfl⟩

theorem runs_markSignerContextRule :
    Runs recordExec (markSignerContextRule smartAccountAddress credentialID contextRuleID) w (.ok ()) w' ↔
      w' = w.marked smartAccountAddress credentialID contextRuleID.toInt32 := by
  constructor
  · rintro ⟨c, h⟩
    cases hfault : c.fault with
    | none => simp only [recordExec, hfault] at h; exact h.2
    | _ => simp only [recordExec, hfault] at h; cases h.1
  · rintro rfl
    exact ⟨{ fault := .none }, rfl, rfl⟩

def RecordWorld.Indexed (w w' : RecordWorld) (row : PasskeyRow) : Prop :=
  ∃ db, (Store.Write.upsertPasskeyCredential row).apply w.shared.db = some db ∧
    w' = { w with shared := { w.shared with db := db } }

theorem exists_indexed (w : RecordWorld) (row : PasskeyRow) : ∃ w', w.Indexed w' row := by
  obtain ⟨t, ht⟩ := Table.exists_upsert w.shared.db.passkeys row row.overwrite fun _ => ⟨rfl, rfl⟩
  exact ⟨_, _, by rw [Store.Write.apply, ht]; rfl, rfl⟩

theorem always_register {keyDataHex label : String} {seq : Int} :
    Always OwnAnswer (register keyDataHex smartAccountAddress label seq) := by
  refine (always_ofExcept_bind _ _).mpr fun row _ => ⟨trivial, fun r => ?_⟩
  cases r with
  | _ => trivial

theorem runs_register {keyDataHex label : String} {seq : Int} :
    Runs recordExec (ofStore (register keyDataHex smartAccountAddress label seq)) w (.ok ()) w' ↔
      ∃ row, indexRow keyDataHex smartAccountAddress label seq = .ok row ∧ w.Indexed w' row := by
  rw [runs_ofStore always_register]
  simp only [Passkey.runs_register]
  constructor
  · rintro ⟨_, ⟨row, db, hrow, happly, rfl⟩, rfl⟩
    exact ⟨row, hrow, db, happly, rfl⟩
  · rintro ⟨row, hrow, db, happly, rfl⟩
    exact ⟨_, ⟨row, db, hrow, happly, rfl⟩, rfl⟩

theorem runs_recordSigner : Runs recordExec (recordSigner req contextRuleID) w (.ok reply) w' ↔
      reply = ⟨contextRuleID, req.smartAccountAddress, req.credentialID⟩ ∧
      ∃ row, indexRow req.keyDataHex req.smartAccountAddress req.label req.seq = .ok row ∧
        (w.marked req.smartAccountAddress req.credentialID contextRuleID.toInt32).Indexed w' row := by
  unfold recordSigner
  rw [runs_bind_ok]
  constructor
  · rintro ⟨outcome, w₁, hattempt, hrest⟩
    obtain ⟨o, ho, hmark⟩ := (runs_attempt _ _ _ _).mp hattempt
    cases ho
    rcases outcome with e | _
    · cases hrest.1
    obtain rfl := runs_markSignerContextRule.mp hmark
    obtain ⟨outcome, w₂, hattempt', hreply⟩ := (runs_bind_ok _ _ _ _ _).mp hrest
    obtain ⟨o', ho', hregister⟩ := (runs_attempt _ _ _ _).mp hattempt'
    cases ho'
    rcases outcome with e | _
    · cases hreply.1
    obtain ⟨row, hrow, hindexed⟩ := runs_register.mp hregister
    obtain ⟨hout, rfl⟩ := hreply
    exact ⟨Except.ok.inj hout, row, hrow, hindexed⟩
  · rintro ⟨rfl, row, hrow, hindexed⟩
    refine ⟨.ok (), _, (runs_attempt _ _ _ _).mpr ⟨_, rfl, runs_markSignerContextRule.mpr rfl⟩, ?_⟩
    rw [runs_bind_ok]
    exact ⟨.ok (), w', (runs_attempt _ _ _ _).mpr ⟨_, rfl, runs_register.mpr ⟨row, hrow, hindexed⟩⟩,
      rfl, rfl⟩

theorem bindConfirmAdd_eq_ok :
    bindConfirmAdd cfg body = .ok req ↔ body = some req ∧ req.hasRequired = true ∧
      ∃ network, parseNetwork cfg req.network = .ok network :=
  bindRequired_parseNetwork_eq_ok

theorem runs_handleConfirmAddSigner :
    Runs recordExec (handleConfirmAddSigner cfg chain ctx body) w (.ok reply) w' ↔
      ∃ req contextRuleID, body = some req ∧ Passes cfg chain ctx w req ∧
        RuleAdded chain w.confirming req.input contextRuleID ∧
        Runs recordExec (recordSigner req contextRuleID) w (.ok reply) w' := by
  unfold handleConfirmAddSigner
  simp only [runs_bind_ok, runs_ofExcept, runs_attempt]
  constructor
  · rintro ⟨req, w₁, ⟨hbind, rfl⟩, u, w₂, hproved, outcome, w₃, ⟨o, ho, hconfirm⟩, hrest⟩
    obtain ⟨rfl, hcaller⟩ := runs_requireProvedSigner.mp hproved
    cases ho
    obtain ⟨hbody, hrequired, hnetwork⟩ := bindConfirmAdd_eq_ok.mp hbind.symm
    rcases outcome with e | contextRuleID
    · cases hrest.1
    obtain ⟨s, hrule, rfl⟩ := runs_ofConfirm.mp hconfirm
    obtain ⟨rfl, hadded⟩ := runs_confirmAddSignerRule.mp hrule
    obtain ⟨-, row, hrow, -⟩ := runs_recordSigner.mp hrest
    exact ⟨req, contextRuleID, hbody, ⟨hrequired, hnetwork, hcaller, ⟨_, hadded⟩, row, hrow⟩, hadded,
      hrest⟩
  · rintro ⟨req, contextRuleID, hbody, hpasses, hadded, hrest⟩
    have hbind := bindConfirmAdd_eq_ok.mpr ⟨hbody, hpasses.required, hpasses.network⟩
    refine ⟨req, w, ⟨hbind.symm, rfl⟩, (), w,
      runs_requireProvedSigner.mpr ⟨rfl, hpasses.caller⟩, .ok contextRuleID, w, ⟨_, rfl, ?_⟩, hrest⟩
    exact runs_ofConfirm.mpr ⟨_, runs_confirmAddSignerRule.mpr ⟨rfl, hadded⟩, rfl⟩

theorem returnedRule_of_ruleAdded (h : RuleAdded chain s input contextRuleID) :
    returnedRule chain (s.fetched input.txHash) = some contextRuleID := by
  obtain ⟨signer, result, -, hsettled, -, hreturned⟩ := h
  rw [returnedRule, (settledInvocation_eq_ok.mp hsettled).1]
  exact hreturned

theorem Indexed.accountSigners {row : PasskeyRow} (h : w.Indexed w' row) :
    w'.accountSigners = w.accountSigners := by
  obtain ⟨db, -, rfl⟩ := h
  rfl

theorem mem_marked {id : Int32} {row : AccountSignerRow} :
    row ∈ (w.marked smartAccountAddress credentialID id).accountSigners.rows ↔
      (row ∈ w.accountSigners.rows ∧ row.isFor smartAccountAddress credentialID = false) ∨
        ∃ r ∈ w.accountSigners.rows, r.isFor smartAccountAddress credentialID = true ∧
          row = { r with contextRuleID := some id } := Table.mem_updated

theorem runs_of_passes (h : Passes cfg chain ctx w req) : ∃ reply w' contextRuleID,
    Runs recordExec (handleConfirmAddSigner cfg chain ctx (some req)) w (.ok reply) w' ∧
      w'.accountSigners =
        (w.marked req.smartAccountAddress req.credentialID contextRuleID).accountSigners := by
  obtain ⟨contextRuleID, hadded⟩ := h.added
  obtain ⟨index, hindex⟩ := h.indexed
  obtain ⟨w', hindexed⟩ := exists_indexed
    (w.marked req.smartAccountAddress req.credentialID contextRuleID.toInt32) index
  have hrecord := runs_recordSigner.mpr ⟨rfl, index, hindex, hindexed⟩
  exact ⟨_, w', _, runs_handleConfirmAddSigner.mpr ⟨req, contextRuleID, rfl, h, hadded, hrecord⟩,
    Indexed.accountSigners hindexed⟩

theorem ruleAdded_of_play
    (h : (play exec (confirmAddSignerRule chain input) s [.done]).any
      (fun x => x.1.toOption.isSome) = true) :
    ∃ contextRuleID, RuleAdded chain s input contextRuleID := by
  obtain ⟨contextRuleID, s', hrun, -⟩ :=
    exists_runs_of_play exec _ s [.done] (fun _ => true) (by simpa using h)
  exact ⟨contextRuleID, (runs_confirmAddSignerRule.mp hrun).2⟩

theorem not_recordsConfirmed (h : Passes cfg chain ctx w req) (hnone : w.accountSigners.rows = []) :
    ¬ RecordsConfirmed cfg chain ctx w (some req) := by
  intro hrecords
  obtain ⟨reply, w', contextRuleID, hrun, hsigners⟩ := runs_of_passes h
  obtain ⟨req', -, ⟨row, hrow, -⟩, -⟩ := hrecords reply w' hrun
  rw [hsigners] at hrow
  rcases mem_marked.mp hrow with ⟨hmem, -⟩ | ⟨r, hmem, -⟩
  · rw [hnone] at hmem
    cases hmem
  · rw [hnone] at hmem
    cases hmem

end Runs

/-- A backup signer that is confirmed is recorded exactly if, for a request that passes every check,
a row was attached for its account and credential, and that is the credential of its key data. -/
theorem recordsConfirmed_iff (cfg : DeployConfig) (chain : ConfirmConfig) (ctx : SessionContext)
    (w : RecordWorld) (body : Option ConfirmAddRequest) :
    RecordsConfirmed cfg chain ctx w body ↔
      ∀ req, body = some req → Passes cfg chain ctx w req →
        (∃ row ∈ w.accountSigners.rows, row.isFor req.smartAccountAddress req.credentialID) ∧
          credentialIn req.keyDataHex = some req.credentialID := by
  constructor
  · rintro hrecords req rfl hpasses
    obtain ⟨reply, w', contextRuleID, hrun, hsigners⟩ := runs_of_passes hpasses
    obtain ⟨req', hreq, ⟨row, hrow, hfor, -⟩, hcredential⟩ := hrecords reply w' hrun
    cases hreq
    rw [hsigners] at hrow
    refine ⟨?_, hcredential⟩
    rcases mem_marked.mp hrow with ⟨hmem, hother⟩ | ⟨r, hmem, hr, -⟩
    · exact absurd hfor (by simp [hother])
    · exact ⟨r, hmem, hr⟩
  · intro hattached reply w' hrun
    obtain ⟨req, contextRuleID, rfl, hpasses, hadded, hrecord⟩ := runs_handleConfirmAddSigner.mp hrun
    obtain ⟨-, index, -, hindexed⟩ := runs_recordSigner.mp hrecord
    obtain ⟨⟨r, hmem, hr⟩, hcredential⟩ := hattached req rfl hpasses
    refine ⟨req, rfl, ⟨{ r with contextRuleID := some contextRuleID.toInt32 }, ?_, hr, _, rfl, ?_⟩,
      hcredential⟩
    · rw [Indexed.accountSigners hindexed]
      exact mem_marked.mpr (.inr ⟨r, hmem, hr, rfl⟩)
    · rw [UInt32.toUInt32_toInt32]
      exact returnedRule_of_ruleAdded hadded

namespace Sample

def context : SessionContext := ⟨1, 1⟩

def ownersCredential : String := base64UrlEncode [7]

def unattached : RecordWorld where
  shared :=
    { db := { Store.Db.empty with
        proved := ⟨[⟨1, ownersCredential, 0⟩], List.nodup_singleton _, List.nodup_singleton _⟩
        smartAccounts := ⟨[⟨1, 1, ownersCredential, hexEncode (keyData 7), "",
          contractText victimsAccount, 1, 0⟩], List.nodup_singleton _, List.nodup_singleton _⟩ }
      nonces := [] }
  chain := ⟨[⟨"addition", addition.status, addition.envelopeXdr, fun _ _ => none⟩],
    List.nodup_singleton _, List.nodup_singleton _⟩
  accountSigners := .empty

def addRequest : ConfirmAddRequest where
  network := ""
  smartAccountAddress := contractText victimsAccount
  keyDataHex := hexEncode (keyData 9)
  credentialID := base64UrlEncode [9]
  label := "backup"
  seq := 0
  txHash := "addition"
  callerCredentialID := ownersCredential

theorem addRequest_passes : Passes config confirmConfig context unattached addRequest where
  required := by decide +kernel
  network := ⟨.testnet, by decide +kernel⟩
  caller := ⟨by decide +kernel, by decide +kernel, by decide +kernel⟩
  added := ruleAdded_of_play (by decide +kernel)
  indexed := ⟨⟨credentialIDHex (hexEncode (keyData 9)), hexEncode (keyData 9),
    contractText victimsAccount, "backup", 0⟩, by decide +kernel⟩

theorem unattached_not_recorded :
    ¬ RecordsConfirmed config confirmConfig context unattached (some addRequest) := by
  have hnone : unattached.accountSigners.rows = [] := rfl
  exact not_recordsConfirmed addRequest_passes hnone

end Sample

end LatchApi.Signer
