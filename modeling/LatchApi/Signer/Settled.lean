import LatchApi.Build.RuleIDs
import LatchApi.Setup.Planned
import LatchApi.Signer.Confirm

namespace LatchApi.Signer

open Lib Program Soroban Bundler Build Setup Option
open Rules (buildExternalSignerScVal addSignerRuleArgs)

inductive SignerChange where
  | add (input : AddSignerInput)
  | remove (input : RemoveSignerInput)

namespace SignerChange

variable (cfg : BuildConfig)

def call : SignerChange → Except BuildError HostFunction
  | .add input => addSignerCall cfg input
  | .remove input => removeSignerCall input

def build : SignerChange → SignerBuilder (Option BuildAuthTransactionResult)
  | .add input => do
    match ← addSigner cfg input with
    | .built tx _ => return some tx
    | .alreadyConfigured _ _ => return none
  | .remove input => do
    let built ← removeSigner cfg input
    return some built.1

def confirmation (txHash : String) : SignerChange → Confirmation
  | .add input => .addSignerRule ⟨input.smartAccountAddress, input.keyDataHex, txHash⟩
  | .remove input => .removeSignerRule ⟨input.smartAccountAddress, input.contextRuleID, txHash⟩

end SignerChange

section Landing

inductive Landing where
  | plain
  | feeBump
deriving DecidableEq

def Landing.envelope (tx : Transaction) : Landing → TransactionEnvelope
  | .plain => envelopeOf tx
  | .feeBump => .other

def Names (hash : String) : Except (GaslessError × String) String → Prop
  | .ok h => h = hash
  | .error e => e.2 = hash

/-- The change was built, signed by its passkey and relayed as this transaction under the hash. -/
structure Submitted (cfg : BuildConfig) (change : SignerChange) (tx : Transaction) (hash : String) :
    Prop where
  built : ∃ builder built submission node result,
    ((change.build cfg).runWith builder []).1 = .ok (some built) ∧
    submission.txXdr = built.txXdr ∧
    ((submitWebAuthn cfg.toTxConfig submission).runWith node []).1 = .ok result ∧
    result.hash = hash ∧
    ∃ mode wallet requestID answer, Names hash answer ∧
      (⟨.gaslessSubmit mode wallet requestID tx, answer⟩ : Event TxRes) ∈
        ((submitWebAuthn cfg.toTxConfig submission).runWith node []).2

def Passed {α : Type} : Except ConfirmError α → Prop
  | .ok _ => True
  | .error e => e = .internal "extract context rule id"

def PastChecks (cfg : ConfirmConfig) (c : Confirmation) (tx : FetchedTransaction) : Prop :=
  ∀ script, (∀ h, script h (.getTransaction c.txHash) = .ok tx) →
    Passed ((c.program cfg).runWith script []).1

variable (cfg : BuildConfig) (unmarshalMeta : String → Option TransactionMeta)

def ConfirmsSubmitted (landing : Landing) (change : SignerChange) : Prop :=
  ∀ tx hash resultMetaXdr, Submitted cfg change tx hash →
    PastChecks ⟨cfg.webauthnVerifierAddress, unmarshalMeta⟩ (change.confirmation hash)
      ⟨.success resultMetaXdr, .of (landing.envelope tx)⟩

def Submittable (change : SignerChange) : Prop := ∃ tx hash, Submitted cfg change tx hash

end Landing

variable {cfg : BuildConfig}

section Built

variable {α β : Type} {h : Log BuildRes} {R : Log BuildRes → β → Prop}
  {f : α → SignerBuilder β}

theorem obeys_orBuild {p : Builder α} {P : Log BuildRes → α → Prop}
    (hp : Obeys anyRun h p (onOk P)) : Obeys anyRun h (orBuild p) (onOk P) := by
  unfold Setup.orBuild
  rw [obeys_bind, obeys_attempt]
  refine hp.mono fun h' out hout => ?_
  cases out with
  | ok a => exact .ok hout
  | error e => exact .fail trivial

theorem obeys_orBuild_any {p : Builder α} (hf : ∀ h' a, Obeys anyRun h' (f a) (onOk R)) :
    Obeys anyRun h (orBuild p >>= f) (onOk R) :=
  (obeys_orBuild (obeys_any p)).bind_onOk fun h' a _ => hf h' a

def CarriesCall (fn : HostFunction) (r : BuildAuthTransactionResult) : Prop :=
  ∃ auth, r.txXdr = .of (.v1 [.invokeHostFunction fn auth])

theorem obeys_buildSetupAuth (fn : HostFunction) (auth : AuthTransactionCoreInput) :
    Obeys anyRun h (buildSetupAuthTransaction cfg fn auth) (onOk fun _ => CarriesCall fn) :=
  (obeys_buildSetupAuthTransaction cfg fn auth).mono_onOk fun _ _ hr => hr.1

theorem obeys_orBuild_ofExcept {x : Except BuildError α}
    (hf : ∀ a, x = .ok a → Obeys anyRun h (f a) (onOk R)) :
    Obeys anyRun h (orBuild (Program.ofExcept x) >>= f) (onOk R) := by
  cases x with
  | ok a => exact hf a rfl
  | error e => exact .fail trivial

theorem obeys_build (cfg : BuildConfig) (change : SignerChange) : Obeys anyRun h (change.build cfg)
    (onOk fun _ built => ∀ r, built = some r → ∃ fn, change.call cfg = .ok fn ∧ CarriesCall fn r) := by
  cases change with
  | add input =>
    refine Obeys.bind_onOk (P := fun _ result => ∀ r id, result = .built r id →
      ∃ fn, addSignerCall cfg input = .ok fn ∧ CarriesCall fn r) ?_ fun h' result hresult => ?_
    · refine obeys_orBuild_any fun h' _ => obeys_orBuild_any fun h' rules => ?_
      refine obeys_ofExcept_bind fun chosen _ => ?_
      cases chosen with
      | inl id => exact .ok fun r id' h => by cases h
      | inr rule =>
        refine obeys_orBuild_ofExcept fun fn hfn => ?_
        refine (obeys_orBuild (obeys_buildSetupAuth fn _)).bind_onOk fun h' tx htx => .ok ?_
        rintro r id h
        cases h
        exact ⟨fn, hfn, htx⟩
    · cases result with
      | built tx id =>
        refine .ok fun r h => ?_
        cases h
        exact hresult tx id rfl
      | alreadyConfigured message id => exact .ok fun r h => by cases h
  | remove input =>
    refine Obeys.bind_onOk (P := fun _ (result : BuildAuthTransactionResult × UInt32) =>
      ∃ fn, removeSignerCall input = .ok fn ∧ CarriesCall fn result.1) ?_ fun h' result hresult => ?_
    · refine obeys_orBuild_any fun h' found => ?_
      obtain ⟨authRuleID, discovery⟩ := found
      dsimp only
      split
      · exact .fail trivial
      split
      · exact .fail trivial
      refine obeys_orBuild_any fun h' authRule => ?_
      refine obeys_orBuild_ofExcept fun fn hfn => ?_
      refine (obeys_orBuild (obeys_buildSetupAuth fn _)).bind_onOk fun h' tx htx => .ok ?_
      exact ⟨fn, hfn, htx⟩
    · refine .ok fun r h => ?_
      cases h
      exact hresult

end Built

section Relayed

variable {cfg : TxConfig} {tx : Encoded TransactionEnvelope} {fn : HostFunction} {wallet : String}

def RelaysOnly (fn : HostFunction) : TxOp → Prop
  | .gaslessSubmit _ _ _ tx => ∃ entries, tx = gaslessTransaction fn entries
  | _ => True

theorem always_signBundlerEntry (e : SorobanAuthorizationEntry) :
    Always (RelaysOnly fn) (signBundlerDelegatedAuthEntry cfg e) := by
  unfold signBundlerDelegatedAuthEntry
  rw [always_ofExcept_bind]
  intro _ _
  split
  · trivial
  · exact ⟨trivial, fun _ => (always_orFail _ _).bind fun _ => trivial⟩

theorem always_signBundlerEntries (signed : List Nat) (i : Nat) (entries : AuthEntries) :
    Always (RelaysOnly fn) (signBundlerEntries cfg signed i entries) := by
  induction entries generalizing i with
  | nil => trivial
  | cons e es ih =>
    unfold signBundlerEntries
    split
    · exact (always_signBundlerEntry e).bind fun _ => (ih _).bind fun _ => trivial
    · exact (ih _).bind fun _ => trivial

theorem always_sponsored (hfn : singleHostFunction tx = .ok fn) (hforward : isForwardShaped fn = false)
    (hsponsored : sponsoredWallet fn = some wallet) (entries : AuthEntries) :
    Always (RelaysOnly fn) (submitWithBundler cfg tx entries) := by
  unfold submitWithBundler
  rw [hfn]
  change Always _ (submitHostFunction _ fn entries)
  unfold submitHostFunction submitRebuilt userPaidWallet
  simp only [hforward, hsponsored, Bool.false_eq_true, if_false, ok_bind, Option.isSome_some, if_true]
  refine ⟨trivial, fun _ => (always_orFail _ _).bind fun _ => ⟨trivial, fun _ => ?_⟩⟩
  refine (always_orFail _ _).bind fun sim => ?_
  rw [always_ofExcept_bind]
  intro _ _
  unfold submitGasless
  split
  · refine ⟨trivial, fun _ => (always_orFail _ _).bind fun _ => ⟨⟨entries, rfl⟩, fun answer => ?_⟩⟩
    rcases answer with ⟨e, hash⟩ | hash
    · change Always _ (if e = .pending ∧ hash ≠ "" then _ else _)
      split <;> trivial
    · trivial
  · trivial

theorem always_submitWebAuthn {input : SubmitWebAuthnInput} (hfn : singleHostFunction input.txXdr = .ok fn)
    (hforward : isForwardShaped fn = false) (hsponsored : sponsoredWallet fn = some wallet) :
    Always (RelaysOnly fn) (submitWebAuthn cfg input) := by
  unfold submitWebAuthn signAndSubmit
  rw [always_ofExcept_bind]
  intro p _
  split
  · exact (always_signBundlerEntries _ _ _).bind fun entries =>
      always_sponsored hfn hforward hsponsored entries
  · exact always_sponsored hfn hforward hsponsored _

end Relayed

variable {change : SignerChange} {unmarshalMeta : String → Option TransactionMeta} {hash : String}

section Calls

variable {fn : HostFunction}

theorem call_eq_ok (h : change.call cfg = .ok fn) (hash : String)
    (unmarshalMeta : String → Option TransactionMeta) : ∃ account args,
    contractIDFromAddress (change.confirmation hash).account = some account ∧
      (change.confirmation hash).expectedArgs ⟨cfg.webauthnVerifierAddress, unmarshalMeta⟩ = some args ∧
      fn = .invokeContract ⟨.contract account, (change.confirmation hash).functionName, args⟩ := by
  cases change with
  | add input =>
    have h : addSignerCall cfg input = .ok fn := h
    simp only [addSignerCall, bind_eq_ok, orInvalid, orError_eq_ok] at h
    obtain ⟨keyData, hkey, signer, hsigner, account, haccount, hfn⟩ := h
    have hsigner := orError_eq_ok.mp hsigner
    refine ⟨account, addSignerRuleArgs signer, haccount, ?_, (Except.ok.inj hfn).symm⟩
    simp [SignerChange.confirmation, Confirmation.expectedArgs, hkey, hsigner]
  | remove input =>
    have h : removeSignerCall input = .ok fn := h
    simp only [removeSignerCall, bind_eq_ok, orInvalid, orError_eq_ok] at h
    obtain ⟨account, haccount, hfn⟩ := h
    exact ⟨account, [scU32 input.contextRuleID], haccount, rfl, (Except.ok.inj hfn).symm⟩

theorem sponsored_of_call (h : change.call cfg = .ok fn) :
    isForwardShaped fn = false ∧ ∃ wallet, sponsoredWallet fn = some wallet := by
  obtain ⟨account, args, -, -, rfl⟩ := call_eq_ok h "" fun _ => none
  cases change with
  | _ => exact ⟨rfl, _, rfl⟩

theorem relayed_of_submitted {tx : Transaction} (h : Submitted cfg change tx hash) :
    ∃ fn auth, change.call cfg = .ok fn ∧ envelopeOf tx = .v1 [.invokeHostFunction fn auth] := by
  obtain ⟨builder, built, submission, node, result, hbuilt, hxdr, -, -, mode, wallet, requestID, answer,
    -, hmem⟩ := h.built
  have hcarries : onOk (fun _ out => ∀ r, out = some r → ∃ fn, change.call cfg = .ok fn ∧ CarriesCall fn r)
      _ ((change.build cfg).runWith builder []).1 :=
    Obeys.runWith (obeys_build cfg change) fun _ _ => trivial
  rw [hbuilt] at hcarries
  obtain ⟨fn, hcall, auth, htx⟩ := hcarries built rfl
  obtain ⟨hforward, wallet', hsponsored⟩ := sponsored_of_call hcall
  have hfn : singleHostFunction submission.txXdr = .ok fn := by
    rw [hxdr, htx]
    rfl
  obtain ⟨entries, rfl⟩ := (always_submitWebAuthn hfn hforward hsponsored).runWith node
    (h := []) (by simp) _ hmem
  exact ⟨fn, entries, hcall, rfl⟩

end Calls

section Confirmed

variable {cfg : ConfirmConfig} {tx : FetchedTransaction} {c : Confirmation}

def fetchedAnswers (tx : FetchedTransaction) : (op : ConfirmOp) → ConfirmRes op
  | .getTransaction _ => .ok tx
  | .deletePasskeyCredential _ => .ok ()

theorem eval_fetchSettledInvocation (txHash : String) :
    eval (fetchedAnswers tx) (fetchSettledInvocation txHash) = settledInvocation tx := by
  unfold fetchSettledInvocation
  rw [eval_perform_bind]
  exact eval_ofExcept _ _

theorem always_confirmation (change : SignerChange) (hash : String) :
    Always (fun op => op = .getTransaction (change.confirmation hash).txHash)
      ((change.confirmation hash).program cfg) := by
  have hof : ∀ {α : Type} (x : Except ConfirmError α),
      Always (fun op => op = .getTransaction hash) (ofExcept x : Confirmer ConfirmError α) := by
    intro α x
    cases x <;> trivial
  cases change with
  | add input =>
    refine Always.bind ((hof _).bind fun signer => Always.bind ?_ fun settled => ?_) fun _ => trivial
    · refine ⟨rfl, fun r => ?_⟩
      cases r with
      | error e => trivial
      | ok tx => exact hof _
    · exact (hof _).bind fun _ => hof _
  | remove input =>
    refine Always.bind (Always.bind ?_ fun invocation => hof _) fun _ => trivial
    refine ⟨rfl, fun r => ?_⟩
    cases r with
    | error e => trivial
    | ok tx => exact hof _

theorem pastChecks_iff : PastChecks cfg (change.confirmation hash) tx ↔
      Passed (eval (fetchedAnswers tx) ((change.confirmation hash).program cfg)) := by
  have hrun : ∀ script, (∀ h, script h (.getTransaction (change.confirmation hash).txHash) = .ok tx) →
      (((change.confirmation hash).program cfg).runWith script []).1 =
        eval (fetchedAnswers tx) ((change.confirmation hash).program cfg) := by
    intro script hscript
    refine runWith_eq_eval (always_confirmation change hash) (fun h op hop => ?_) []
    subst hop
    exact hscript h
  constructor
  · intro hpast
    rw [← hrun (fun _ => fetchedAnswers tx) fun _ => rfl]
    exact hpast _ fun _ => rfl
  · intro hpassed script hscript
    rw [hrun script hscript]
    exact hpassed

theorem eval_addSignerRule (input : ConfirmAddSignerRuleInput) :
    eval (fetchedAnswers tx) ((Confirmation.addSignerRule input).program cfg) = (do
      let signer ← expectedSigner cfg input.keyDataHex
      let settled ← settledInvocation tx
      verifyInvocation settled.1 input.smartAccountAddress "add_context_rule" (addSignerRuleArgs signer)
      required "extract context rule id" (extractReturnContextRuleID cfg settled.2)) >>=
        fun id => .ok (some id) := by
  change eval (fetchedAnswers tx) (confirmAddSignerRule cfg input >>= fun id => .ok (some id)) = _
  unfold confirmAddSignerRule
  simp only [eval_bind, eval_ofExcept, eval_fetchSettledInvocation, eval_ok]

theorem eval_removeSignerRule (input : ConfirmRemoveSignerRuleInput) :
    eval (fetchedAnswers tx) ((Confirmation.removeSignerRule input).program cfg) = (do
      let settled ← settledInvocation tx
      verifyInvocation settled.1 input.smartAccountAddress "remove_context_rule"
        [scU32 input.contextRuleID]) >>= fun _ => .ok none := by
  change eval (fetchedAnswers tx) (confirmRemoveSignerRule input >>= fun _ => .ok none) = _
  unfold confirmRemoveSignerRule
  simp only [eval_bind, eval_ofExcept, eval_fetchSettledInvocation, eval_ok]

theorem expectedSigner_eq_ok {keyDataHex : String} {keyData : Bytes} {signer : ScVal}
    (hkey : hexDecode keyDataHex = some keyData)
    (hsigner : buildExternalSignerScVal cfg.webauthnVerifierAddress keyData = some signer) :
    expectedSigner cfg keyDataHex = .ok signer := by
  have hverifier : cfg.webauthnVerifierAddress ≠ "" := by
    intro hempty
    rw [hempty] at hsigner
    cases hsigner
  unfold expectedSigner
  rw [if_neg hverifier, hkey, required]
  change required _ (buildExternalSignerScVal cfg.webauthnVerifierAddress keyData) = _
  rw [hsigner]
  rfl

theorem verifyInvocation_self {account name : String} {id : Hash} {args : List ScVal}
    (haccount : contractIDFromAddress account = some id) :
    verifyInvocation ⟨id, name, args⟩ account name args = .ok () := by
  refine verifyInvocation_eq_ok.mpr ⟨haccount, rfl, rfl, ?_⟩
  induction args with
  | nil => rfl
  | cons arg args ih =>
    rw [List.zip_cons_cons, List.all_cons, ih, Bool.and_true]
    exact beq_self_eq_true _

variable {resultMetaXdr : String} {id : Hash} {args : List ScVal}

theorem past_of_plain (haccount : contractIDFromAddress (change.confirmation hash).account = some id)
    (hargs : (change.confirmation hash).expectedArgs cfg = some args)
    (auth : AuthEntries) : PastChecks cfg (change.confirmation hash)
      ⟨.success resultMetaXdr, .of (.v1 [.invokeHostFunction (.invokeContract
        ⟨.contract id, (change.confirmation hash).functionName, args⟩) auth])⟩ := by
  rw [pastChecks_iff]
  cases change with
  | add input =>
    obtain ⟨keyData, hkey, hargs⟩ := bind_eq_some_iff.mp hargs
    obtain ⟨signer, hsigner, hargs⟩ := bind_eq_some_iff.mp hargs
    cases hargs
    have hverify : verifyInvocation ⟨id, "add_context_rule", addSignerRuleArgs signer⟩
        input.smartAccountAddress "add_context_rule" (addSignerRuleArgs signer) = .ok () :=
      verifyInvocation_self haccount
    change Passed (eval _ ((Confirmation.addSignerRule _).program cfg))
    rw [eval_addSignerRule, expectedSigner_eq_ok hkey hsigner]
    change Passed ((verifyInvocation ⟨id, "add_context_rule", addSignerRuleArgs signer⟩
      input.smartAccountAddress "add_context_rule" (addSignerRuleArgs signer) >>= fun _ =>
        required "extract context rule id" (extractReturnContextRuleID cfg resultMetaXdr)) >>= _)
    rw [hverify]
    cases extractReturnContextRuleID cfg resultMetaXdr with
    | none => rfl
    | some ruleID => trivial
  | remove input =>
    cases hargs
    have hverify : verifyInvocation ⟨id, "remove_context_rule", [scU32 input.contextRuleID]⟩
        input.smartAccountAddress "remove_context_rule" [scU32 input.contextRuleID] = .ok () :=
      verifyInvocation_self haccount
    change Passed (eval _ ((Confirmation.removeSignerRule _).program cfg))
    rw [eval_removeSignerRule]
    change Passed (verifyInvocation ⟨id, "remove_context_rule", [scU32 input.contextRuleID]⟩
      input.smartAccountAddress "remove_context_rule" [scU32 input.contextRuleID] >>= _)
    rw [hverify]
    trivial

theorem not_past_of_feeBump (hargs : (change.confirmation hash).expectedArgs cfg = some args) :
    ¬ PastChecks cfg (change.confirmation hash) ⟨.success resultMetaXdr, .of .other⟩ := by
  have herror : ConfirmError.internal "expected a v1 transaction envelope" ≠
    .internal "extract context rule id" := by decide
  rw [pastChecks_iff]
  cases change with
  | add input =>
    obtain ⟨keyData, hkey, hargs⟩ := bind_eq_some_iff.mp hargs
    obtain ⟨signer, hsigner, -⟩ := bind_eq_some_iff.mp hargs
    change ¬ Passed (eval _ ((Confirmation.addSignerRule _).program cfg))
    rw [eval_addSignerRule, expectedSigner_eq_ok hkey hsigner]
    exact herror
  | remove input =>
    change ¬ Passed (eval _ ((Confirmation.removeSignerRule _).program cfg))
    rw [eval_removeSignerRule]
    exact herror

end Confirmed

section Main

theorem not_confirmsSubmitted (h : Submittable cfg change) :
    ¬ ConfirmsSubmitted cfg unmarshalMeta .feeBump change := by
  obtain ⟨tx, hash, hsubmitted⟩ := h
  obtain ⟨fn, auth, hcall, -⟩ := relayed_of_submitted hsubmitted
  obtain ⟨id, args, -, hargs, -⟩ := call_eq_ok hcall hash unmarshalMeta
  exact fun hconfirms => not_past_of_feeBump hargs (hconfirms tx hash "" hsubmitted)

theorem confirmsSubmitted_plain : ConfirmsSubmitted cfg unmarshalMeta .plain change := by
  intro tx hash resultMetaXdr hsubmitted
  obtain ⟨fn, auth, hcall, henvelope⟩ := relayed_of_submitted hsubmitted
  obtain ⟨id, args, haccount, hargs, rfl⟩ := call_eq_ok hcall hash unmarshalMeta
  rw [Landing.envelope, henvelope]
  exact past_of_plain haccount hargs auth

end Main

/-- A change of backup signers that was submitted and settled is confirmed exactly if its transaction
did not land as a fee bump. -/
theorem confirmsSubmitted_iff (cfg : BuildConfig) (unmarshalMeta : String → Option TransactionMeta)
    (landing : Landing) (change : SignerChange) :
    ConfirmsSubmitted cfg unmarshalMeta landing change ↔
      landing = .plain ∨ ¬ Submittable cfg change := by
  constructor
  · intro hconfirms
    cases landing with
    | plain => exact .inl rfl
    | feeBump => exact .inr fun hsubmittable => not_confirmsSubmitted hsubmittable hconfirms
  · rintro (rfl | hnot)
    · exact confirmsSubmitted_plain
    · exact fun tx hash resultMetaXdr hsubmitted => absurd ⟨tx, hash, hsubmitted⟩ hnot

namespace Sample

open Build.Sample (passkeySubmission)

def relayedConfig : BuildConfig := { Build.Sample.config with gaslessConfigured := true }

def backedUp : Rules.RuleTable :=
  Rules.RuleTable.after [.add (Rules.Sample.defaultRule "first"), .add (Rules.Sample.defaultRule "backup")]

def removeBackup : SignerChange := .remove ⟨contractText (Build.Sample.key 2), 1⟩

def builderAnswers (h : Log BuildRes) : (op : BuildOp) → BuildRes op
  | .readRules _ read => backedUp.answers [] read
  | .ledgerSequence _ => .ok 1
  | op => Build.Sample.answers [] h op

def relaying (h : Log TxRes) : (op : TxOp) → TxRes op
  | .gaslessSubmit _ _ _ _ => .ok "removal"
  | op => Build.Sample.accepting h op

def submissionRun (r : BuildAuthTransactionResult) : Except SubmitError SubmitResult × Log TxRes :=
  (submitWebAuthn relayedConfig.toTxConfig (passkeySubmission r)).runWith relaying []

def isRelayed : Event TxRes → Bool
  | ⟨.gaslessSubmit _ _ _ _, .ok hash⟩ => hash == "removal"
  | _ => false

def removalRelayed : Except SignerError (Option BuildAuthTransactionResult) → Bool
  | .ok (some r) => (submissionRun r).1.toOption.any (fun result => result.hash == "removal") &&
      (submissionRun r).2.any isRelayed
  | _ => false

theorem submittable_removal : Submittable relayedConfig removeBackup := by
  have hcheck : removalRelayed ((removeBackup.build relayedConfig).runWith builderAnswers []).1 = true := by
    decide +kernel
  unfold removalRelayed at hcheck
  split at hcheck
  · rename_i r hbuilt
    rw [Bool.and_eq_true, any_eq_true, List.any_eq_true] at hcheck
    obtain ⟨⟨result, hresult, hhash⟩, ⟨op, answer⟩, hmem, hrelayed⟩ := hcheck
    cases op with
    | gaslessSubmit mode wallet requestID tx =>
      cases answer with
      | error e => cases hrelayed
      | ok hash =>
        have hresult : (submissionRun r).1 = .ok result := by
          cases hrun : (submissionRun r).1 with
          | error e =>
            rw [hrun] at hresult
            cases hresult
          | ok result' =>
            rw [hrun] at hresult
            exact congrArg Except.ok (some.inj hresult)
        exact ⟨tx, "removal", builderAnswers, r, passkeySubmission r, relaying, result, hbuilt, rfl, hresult,
          beq_iff_eq.mp hhash, mode, wallet, requestID, .ok hash, beq_iff_eq.mp hrelayed, hmem⟩
    | _ => cases hrelayed
  · cases hcheck

theorem fee_bump_not_confirmed :
    ¬ ConfirmsSubmitted relayedConfig (fun _ => none) .feeBump removeBackup :=
  not_confirmsSubmitted submittable_removal

end Sample

end LatchApi.Signer
