import LatchApi.Setup.Planned

namespace LatchApi.Setup

open Lib Program Soroban Bundler Rules Build

section Refusals

variable (cfg : BuildConfig) (input : AddSignerInput) (t : RuleTable)

def HasSigners (r : ContextRuleSummary) : Bool := !r.signers.isEmpty

def defaultSignerRules : List (Nat × ScVal) :=
  t.rules.filter fun r =>
    let rule := parseContextRuleSummary (UInt32.ofNat r.1) r.2
    rule.isDefault && HasSigners rule

/-- A refusal for a backup signer is made only if two default rules have signers, one for a signer that
is already there only if any call can be signed with the key. -/
structure RefusesTruly : Prop where
  backup : ∀ script, AnsweredFrom t input.smartAccountAddress script →
    ((addSigner cfg input).runWith script []).1 = .error .backupSignerAlreadyConfigured →
      2 ≤ (defaultSignerRules t).length
  configured : ∀ script, AnsweredFrom t input.smartAccountAddress script → ∀ message id,
    ((addSigner cfg input).runWith script []).1 = .ok (.alreadyConfigured message id) →
      ∃ found, t.result (findRuleForSigner cfg.webauthnVerifierAddress input.keyDataHex "") =
        .ok (some found)

def KeyListed (P : ContextRuleSummary → Prop) : Prop :=
  ∃ r ∈ t.scanned, Lists cfg.webauthnVerifierAddress input.keyDataHex r ∧ P r

end Refusals

variable {input : AddSignerInput}

section Choice

variable {cfg : BuildConfig} {t : RuleTable}

theorem hasSigners_of_lists {verifier keyHex : String} {r : ContextRuleSummary}
    (h : Lists verifier keyHex r) : HasSigners r = true := by
  obtain ⟨keyData, hmem, -⟩ := h
  unfold HasSigners
  cases hsigners : r.signers with
  | nil =>
    rw [hsigners] at hmem
    cases hmem
  | cons s signers => rfl

theorem find_eq_none_iff : ((t.scanned.filter fun rule => !rule.signers.isEmpty).find? fun rule =>
      ruleHasExactExternalSigner rule cfg.webauthnVerifierAddress input.keyDataHex) = none ↔
    ¬ KeyListed cfg input t fun _ => True := by
  rw [List.find?_eq_none]
  constructor
  · rintro hnone ⟨r, hr, hlists, -⟩
    exact hnone r (List.mem_filter.mpr ⟨hr, hasSigners_of_lists hlists⟩) (exact_iff_lists.mpr hlists)
  · intro hnone r hr hexact
    exact hnone ⟨r, (List.mem_filter.mp hr).1, exact_iff_lists.mp hexact, trivial⟩

theorem choice_configured :
    (∃ id, chooseDefaultRule cfg input.keyDataHex t.scanned = .ok (.inl id)) ↔
      KeyListed cfg input t fun _ => True := by
  rw [← not_iff_not, ← find_eq_none_iff]
  unfold chooseDefaultRule
  dsimp only
  cases (t.scanned.filter fun rule => !rule.signers.isEmpty).find? fun rule =>
      ruleHasExactExternalSigner rule cfg.webauthnVerifierAddress input.keyDataHex with
  | some r => exact ⟨fun hnone => absurd ⟨r.id, rfl⟩ hnone, nofun⟩
  | none =>
    refine ⟨fun _ => rfl, ?_⟩
    rintro - ⟨id, hchoice⟩
    dsimp only at hchoice
    split_ifs at hchoice
    split at hchoice <;> cases hchoice

theorem choice_backup :
    chooseDefaultRule cfg input.keyDataHex t.scanned = .error .backupSignerAlreadyConfigured ↔
      ¬ KeyListed cfg input t (fun _ => True) ∧ 2 ≤ (t.scanned.filter HasSigners).length := by
  rw [← find_eq_none_iff]
  unfold chooseDefaultRule
  dsimp only
  cases (t.scanned.filter fun rule => !rule.signers.isEmpty).find? fun rule =>
      ruleHasExactExternalSigner rule cfg.webauthnVerifierAddress input.keyDataHex with
  | some r => exact ⟨nofun, nofun⟩
  | none =>
    by_cases hcount : 2 ≤ (t.scanned.filter fun rule => !rule.signers.isEmpty).length
    · exact ⟨fun _ => ⟨rfl, hcount⟩, fun _ => if_pos hcount⟩
    refine ⟨fun hchoice => ?_, fun h => absurd h.2 hcount⟩
    dsimp only at hchoice
    rw [if_neg hcount] at hchoice
    split at hchoice <;> cases hchoice

end Choice

section Runs

variable {cfg : BuildConfig} {t : RuleTable} {α β : Type} {p : Builder α}
  {script : Script BuildRes} {h : Log BuildRes}

theorem runWith_orBuild (f : α → SignerBuilder β) : ((orBuild p >>= f).runWith script h).1 =
    match (p.runWith script h).1 with
    | .ok a => ((f a).runWith script (p.runWith script h).2).1
    | .error e => .error (.build e) := by
  unfold orBuild
  have hattempt : ((p.attempt : SignerBuilder _).runWith script h).1 = .ok (p.runWith script h).1 := by
    rw [runWith_attempt]
  rw [bind_assoc, runWith_bind_ok hattempt, runWith_attempt]
  cases (p.runWith script h).1 <;> rfl

theorem addSigner_outcome (hcheck : checkAddInput cfg input = .ok ())
    (hscript : AnsweredFrom t input.smartAccountAddress script) :
    match chooseDefaultRule cfg input.keyDataHex t.scanned with
    | .error e => ((addSigner cfg input).runWith script []).1 = .error e
    | .ok (.inl id) => ((addSigner cfg input).runWith script []).1 =
        .ok (.alreadyConfigured "This passkey already signs for this account." id)
    | .ok (.inr _) => (∃ e, ((addSigner cfg input).runWith script []).1 = .error (.build e)) ∨
        ∃ tx id, ((addSigner cfg input).runWith script []).1 = .ok (.built tx id) := by
  have hread : Always (ReadsRules input.smartAccountAddress)
      (readRules input.smartAccountAddress listContextRules >>= orRpc "list context rules") :=
    (always_readRules _).bind fun _ => always_orFail _ _
  have hlist : ((readRules input.smartAccountAddress listContextRules >>=
      orRpc "list context rules").runWith script []).1 = .ok t.scanned := by
    rw [runWith_decides hread hscript, decides_bind, decides_reader, t.result_listContextRules]
    rfl
  unfold addSigner
  simp only [hcheck, runWith_orBuild, Program.ofExcept, runWith, hlist]
  cases chooseDefaultRule cfg input.keyDataHex t.scanned with
  | error e => rfl
  | ok choice =>
    cases choice with
    | inl id => rfl
    | inr rule =>
      simp only [ok_bind, runWith_orBuild]
      cases addSignerCall cfg input with
      | error e => exact .inl ⟨e, rfl⟩
      | ok fn =>
        simp only [runWith]
        generalize (buildSetupAuthTransaction cfg fn _).runWith script _ = built
        cases built.1 with
        | error e => exact .inl ⟨e, rfl⟩
        | ok tx => exact .inr ⟨tx, rule.id, rfl⟩

theorem checkAddInput_eq_ok : checkAddInput cfg input = .ok () ↔
    ¬ (input.keyDataHex = "" ∨ cfg.webauthnVerifierAddress = "") := by
  unfold checkAddInput
  split_ifs with hkey hverifier
  · simp [hkey]
  · simp [hverifier]
  · simp [hkey, hverifier]

theorem addSigner_unchecked (h : input.keyDataHex = "" ∨ cfg.webauthnVerifierAddress = "")
    (script : Script BuildRes) :
    ∃ e, ((addSigner cfg input).runWith script []).1 = .error (.build e) := by
  cases hcheck : checkAddInput cfg input with
  | ok _ => exact absurd h (checkAddInput_eq_ok.mp hcheck)
  | error e =>
    refine ⟨e, ?_⟩
    unfold addSigner
    rw [hcheck, runWith_orBuild]
    rfl

theorem found_iff_keyListed :
    (∃ found, t.result (findRuleForSigner cfg.webauthnVerifierAddress input.keyDataHex "") =
      .ok (some found)) ↔ KeyListed cfg input t fun r => r.isDefault = true := by
  constructor
  · rintro ⟨found, hfound⟩
    rw [result_signerRule] at hfound
    obtain ⟨r, hr, -, hlists, hkind⟩ :=
      RuleTable.scanned_iff.mp (exists_of_signerRule (Except.ok.inj hfound))
    exact ⟨r, hr, hlists, hkind.resolve_left fun hcalls => hcalls.1 rfl⟩
  · rintro ⟨r, hr, hlists, hdefault⟩
    rw [result_signerRule]
    cases hfound : signerRule t cfg.webauthnVerifierAddress input.keyDataHex "" with
    | some found => exact ⟨found, rfl⟩
    | none =>
      exact absurd (RuleTable.scanned_iff.mpr ⟨r, hr, rfl, hlists, .inr hdefault⟩)
        (signerRule_eq_none hfound r.id)

theorem refusesTruly_of_unchecked (h : input.keyDataHex = "" ∨ cfg.webauthnVerifierAddress = "") :
    RefusesTruly cfg input t where
  backup script _ hrun := by
    obtain ⟨e, herror⟩ := addSigner_unchecked h script
    cases herror.symm.trans hrun
  configured script _ message id hrun := by
    obtain ⟨e, herror⟩ := addSigner_unchecked h script
    cases herror.symm.trans hrun

section

variable (hcheck : checkAddInput cfg input = .ok ())
  (hscript : AnsweredFrom t input.smartAccountAddress script)

include hcheck hscript

theorem configured_iff : (∃ message id,
      ((addSigner cfg input).runWith script []).1 = .ok (.alreadyConfigured message id)) ↔
      KeyListed cfg input t fun _ => True := by
  have hout := addSigner_outcome hcheck hscript
  rw [← choice_configured]
  split at hout
  · rename_i e hchoice
    rw [hout, hchoice]
    exact ⟨nofun, nofun⟩
  · rename_i id hchoice
    rw [hout, hchoice]
    exact ⟨fun _ => ⟨id, rfl⟩, fun _ => ⟨_, id, rfl⟩⟩
  · rename_i rule hchoice
    rw [hchoice]
    rcases hout with ⟨e, hout⟩ | ⟨tx, id, hout⟩
    · rw [hout]
      exact ⟨nofun, nofun⟩
    · rw [hout]
      exact ⟨nofun, nofun⟩

theorem backup_iff :
    ((addSigner cfg input).runWith script []).1 = .error .backupSignerAlreadyConfigured ↔
      ¬ KeyListed cfg input t (fun _ => True) ∧ 2 ≤ (t.scanned.filter HasSigners).length := by
  have hout := addSigner_outcome hcheck hscript
  rw [← choice_backup]
  split at hout
  · rename_i e hchoice
    rw [hout, hchoice]
    exact ⟨fun h => congrArg Except.error (Except.error.inj h),
      fun h => congrArg Except.error (Except.error.inj h)⟩
  · rename_i id hchoice
    rw [hout, hchoice]
    exact ⟨nofun, nofun⟩
  · rename_i rule hchoice
    rw [hchoice]
    rcases hout with ⟨e, hout⟩ | ⟨tx, id, hout⟩
    · rw [hout]
      exact ⟨nofun, nofun⟩
    · rw [hout]
      exact ⟨nofun, nofun⟩

end

end Runs

/-- The refusals are true exactly if the request is refused for another reason, or if the rules for
single contracts list the key only next to a default rule and do not make up the count. -/
theorem refusesTruly_iff (cfg : BuildConfig) (input : AddSignerInput) (t : RuleTable) :
    RefusesTruly cfg input t ↔ (input.keyDataHex = "" ∨ cfg.webauthnVerifierAddress = "") ∨
      (KeyListed cfg input t (fun _ => True) → KeyListed cfg input t fun r => r.isDefault = true) ∧
      (¬ KeyListed cfg input t (fun _ => True) → 2 ≤ (t.scanned.filter HasSigners).length →
        2 ≤ (defaultSignerRules t).length) := by
  by_cases hrefused : input.keyDataHex = "" ∨ cfg.webauthnVerifierAddress = ""
  · exact ⟨fun _ => .inl hrefused, fun _ => refusesTruly_of_unchecked hrefused⟩
  have hcheck := checkAddInput_eq_ok.mpr hrefused
  constructor
  · intro htruly
    have htable : AnsweredFrom t input.smartAccountAddress fun _ => tableAnswers t := fun _ _ => rfl
    refine .inr ⟨fun hlisted => ?_, fun hunlisted hcount => ?_⟩
    · obtain ⟨message, id, hout⟩ := (configured_iff hcheck htable).mpr hlisted
      exact found_iff_keyListed.mp (htruly.configured _ htable message id hout)
    · exact htruly.backup _ htable ((backup_iff hcheck htable).mpr ⟨hunlisted, hcount⟩)
  · rintro (hother | ⟨hlisted, hcounted⟩)
    · exact absurd hother hrefused
    refine ⟨fun script hscript hout => ?_, fun script hscript message id hout => ?_⟩
    · obtain ⟨hunlisted, hcount⟩ := (backup_iff hcheck hscript).mp hout
      exact hcounted hunlisted hcount
    · exact found_iff_keyListed.mpr
        (hlisted ((configured_iff hcheck hscript).mp ⟨message, id, hout⟩))

namespace Sample

open Build.Sample (config key)

def oneBackupless : RuleTable := RuleTable.after [
  .add (scMap [(scSymbol "context_type", scVec [scSymbol "Default"]),
    (scSymbol "signers", scVec
      [scVec [scSymbol "External", .address (.contract (key 4)), scBytes [4, 1]]])]),
  .add (scMap [(scSymbol "context_type", scVec [scSymbol "CallContract", .address (.contract (key 3))]),
    (scSymbol "signers", scVec [scVec [scSymbol "Delegated", .address (.account (key 7))]])])]

def secondPasskey : AddSignerInput := ⟨contractText (key 2), "0402"⟩

theorem backup_refused_without_backup :
    oneBackupless.GapFree ∧ ¬ RefusesTruly config secondPasskey oneBackupless := by
  have hids : ∀ r ∈ oneBackupless.rules, r.1 < oneBackupless.rules.length := by decide
  have hunlisted : ¬ KeyListed config secondPasskey oneBackupless fun _ => True := by
    have hnone : ∀ r ∈ oneBackupless.scanned, ruleHasExactExternalSigner r
        config.webauthnVerifierAddress secondPasskey.keyDataHex = false := by decide +kernel
    rintro ⟨r, hr, hlists, -⟩
    cases (hnone r hr).symm.trans (exact_iff_lists.mpr hlists)
  have hcheck : checkAddInput config secondPasskey = .ok () :=
    checkAddInput_eq_ok.mpr (by decide +kernel)
  have htable : AnsweredFrom oneBackupless secondPasskey.smartAccountAddress
    fun _ => tableAnswers oneBackupless := fun _ _ => rfl
  refine ⟨fun id rule hrule => hids _ hrule, fun htruly => ?_⟩
  have htwo := htruly.backup _ htable
    ((backup_iff hcheck htable).mpr ⟨hunlisted, by decide +kernel⟩)
  have hone : (defaultSignerRules oneBackupless).length = 1 := by decide +kernel
  omega

end Sample

end LatchApi.Setup
