import LatchApi.Multisig.Guards

namespace LatchApi.Multisig

open Lib Program Soroban Store Bundler List

structure Extends (h h' : History) : Prop where
  rows : rowsRead h' = rowsRead h
  writes : Multisig.writes h' = Multisig.writes h
  suffix : ∃ events, h' = events ++ h

variable {h : History}

namespace Extends

variable {h₁ h₂ : History}

theorem refl (h : History) : Extends h h := ⟨rfl, rfl, [], rfl⟩

theorem trans (h₁₂ : Extends h h₁) (h₂₃ : Extends h₁ h₂) : Extends h h₂ := by
  obtain ⟨events, rfl⟩ := h₁₂.suffix
  obtain ⟨events', rfl⟩ := h₂₃.suffix
  exact ⟨h₂₃.rows.trans h₁₂.rows, h₂₃.writes.trans h₁₂.writes, events' ++ events, by simp⟩

theorem filterMap_mem {β : Type} (h₁₂ : Extends h h₁) (view : Event MsRes → Option β) {b : β}
    (hb : b ∈ h.filterMap view) : b ∈ h₁.filterMap view := by
  obtain ⟨events, rfl⟩ := h₁₂.suffix
  rw [filterMap_append]
  exact mem_append_right _ hb

theorem quiet {op : MsOp} (hq : op.quiet = true) (r : MsRes op) (h : History) :
    Extends h (⟨op, r⟩ :: h) := by
  refine ⟨?_, ?_, [⟨op, r⟩], rfl⟩
  · cases op with
    | read q => cases q <;> first | rfl | cases hq
    | _ => rfl
  · cases op with
    | write w => cases hq
    | _ => rfl

end Extends

variable {cfg : TxConfig} {req : Request} {D : Discipline MsOp MsRes} {context : String}

section Rules

variable {X : Codec} {α β : Type} {R : History → β → Prop} {f : α → Service β}

theorem obeys_next_bind {h₀ : History} {op : MsOp} {f : MsRes op → Service β} (hq : op.quiet = true)
    (hw : writes h₀ = []) (he : Extends h₀ h) (hf : ∀ r, Extends h₀ (⟨op, r⟩ :: h) →
      Obeys (fullDiscipline cfg X req) (⟨op, r⟩ :: h) (f r) (onOk R)) :
    Obeys (fullDiscipline cfg X req) h (perform op >>= f) (onOk R) := by
  rw [obeys_bind, obeys_perform]
  exact ⟨guard_of_quiet hq (he.writes.trans hw), fun r _ => hf r (he.trans (.quiet hq r h))⟩

theorem obeys_quiet_bind {op : MsOp} {f : MsRes op → Service β} (hq : op.quiet = true)
    (hw : writes h = []) (hf : ∀ r, Extends h (⟨op, r⟩ :: h) →
      Obeys (fullDiscipline cfg X req) (⟨op, r⟩ :: h) (f r) (onOk R)) :
    Obeys (fullDiscipline cfg X req) h (perform op >>= f) (onOk R) :=
  obeys_next_bind hq hw (.refl h) hf

end Rules

variable {h' : History}

variable {account : AccountRow}

section Quiet

variable {X : Codec}

theorem Granted.extend {userID : Uuid} (hg : Granted userID h account) (he : Extends h h') :
    Granted userID h' account := by
  rcases hg with hcreator | ⟨rows, hrows, hm⟩
  · exact .inl hcreator
  · exact .inr ⟨rows, he.filterMap_mem membersListed hrows, hm⟩

theorem obeys_accountAccessGranted (hw : writes h = []) (account : AccountRow) (userID : Uuid) :
    Obeys (fullDiscipline cfg X req) h (accountAccessGranted account userID)
      (onOk fun h' granted => Extends h h' ∧ (granted = true → Granted userID h' account)) := by
  unfold accountAccessGranted
  split
  · rename_i hcreator
    exact .ok ⟨.refl h, fun _ => .inl hcreator⟩
  refine obeys_quiet_bind rfl hw fun r hr => obeys_orFail_bind fun members hmembers => ?_
  subst hmembers
  refine .ok ⟨hr, fun hany => .inr ⟨members, mem_cons_self, ?_⟩⟩
  obtain ⟨m, hm, hlink⟩ := any_eq_true.mp hany
  exact ⟨m, hm, of_decide_eq_true hlink⟩

theorem obeys_requireAccess (hw : writes h = []) (account : AccountRow) (userID : Uuid) :
    Obeys (fullDiscipline cfg X req) h (requireAccess account userID)
      (onOk fun h' a => Extends h h' ∧ a = account ∧ Granted userID h' account) := by
  refine (obeys_accountAccessGranted hw account userID).bind_onOk fun h' granted hh' => ?_
  split
  · rename_i hgranted
    exact .ok ⟨hh'.1, rfl, hh'.2 hgranted⟩
  · exact .fail trivial

theorem obeys_getOwnedAccountByAddress (hw : writes h = []) (address : String) (userID : Uuid) :
    Obeys (fullDiscipline cfg X req) h (getOwnedAccountByAddress address userID)
      (onOk fun h' account => Extends h h' ∧ account ∈ h'.filterMap accountFound ∧
        (address, account) ∈ h'.filterMap foundAt ∧ Granted userID h' account) := by
  refine obeys_quiet_bind rfl hw fun r hr => obeys_orFail_bind fun account haccount => ?_
  subst haccount
  refine (obeys_requireAccess (hr.writes.trans hw) account userID).mono_onOk ?_
  rintro h' _ ⟨hh', rfl, hgranted⟩
  exact ⟨hr.trans hh', hh'.filterMap_mem accountFound mem_cons_self,
    hh'.filterMap_mem foundAt mem_cons_self, hgranted⟩

theorem obeys_getOwnedAccountByID (hw : writes h = []) (accountID userID : Uuid) :
    Obeys (fullDiscipline cfg X req) h (getOwnedAccountByID accountID userID)
      (onOk fun h' account => Extends h h' ∧ (accountID, account) ∈ accountsRead h' ∧
        Granted userID h' account) := by
  refine obeys_quiet_bind rfl hw fun r hr => obeys_orFail_bind fun account haccount => ?_
  refine (obeys_requireAccess (hr.writes.trans hw) account userID).mono_onOk ?_
  rintro h' _ ⟨hh', rfl, hgranted⟩
  refine ⟨hr.trans hh', hh'.filterMap_mem accountRead ?_, hgranted⟩
  subst haccount
  exact mem_cons_self

theorem mayActAs_eq_ok {member : MemberRow} {callerUserID : Uuid} {expectedType : MemberType}
    {u : Unit} (h : mayActAs account member callerUserID expectedType = .ok u) :
    member.multisigAccountID = account.id ∧
      (account.userID = callerUserID ∨ member.userID = some callerUserID) := by
  unfold mayActAs at h
  split_ifs at h with haccount htype hcaller
  refine ⟨not_not.mp haccount, ?_⟩
  by_contra hne
  exact hcaller (not_or.mp hne)

theorem obeys_getOwnedMember (hw : writes h = []) (account : AccountRow) (callerUserID : Uuid)
    (memberID : Option Uuid) (expectedType : MemberType) :
    Obeys (fullDiscipline cfg X req) h (getOwnedMember account callerUserID memberID expectedType)
      (onOk fun h' member => Extends h h' ∧ member ∈ membersRead h' ∧
        member.multisigAccountID = account.id ∧ ActsAs callerUserID h' account member.id) := by
  unfold getOwnedMember
  split
  · refine obeys_quiet_bind rfl hw fun r hr => obeys_orFail_bind fun member hmember => ?_
    subst hmember
    refine obeys_ofExcept_bind fun _ hmay => ?_
    obtain ⟨haccount, hcaller⟩ := mayActAs_eq_ok hmay
    exact .ok ⟨hr, mem_cons_self, haccount, member, mem_cons_self, rfl, haccount, hcaller⟩
  · exact .fail trivial

theorem ActsAs.extend {userID memberID : Uuid} (ha : ActsAs userID h account memberID)
    (he : Extends h h') :
    ActsAs userID h' account memberID := by
  obtain ⟨member, hmember, hfacts⟩ := ha
  exact ⟨member, he.filterMap_mem memberRead hmember, hfacts⟩

theorem obeys_simulateAndExtract (hw : writes h = []) (smartAccountAddress : String)
    (op : ProposalOperation) :
    Obeys (fullDiscipline cfg X req) h (simulateAndExtract cfg smartAccountAddress op)
      (onOk fun h' out => Extends h h' ∧ BuiltFor cfg smartAccountAddress op out.1) := by
  refine obeys_quiet_bind rfl hw fun _ h₁ => obeys_orFail_bind fun rule _ => ?_
  refine obeys_next_bind rfl hw h₁ fun _ h₂ => obeys_orFail_bind fun seq _ => ?_
  refine obeys_next_bind rfl hw h₂ fun _ h₃ => obeys_orFail_bind fun _ _ => ?_
  refine obeys_next_bind rfl hw h₃ fun _ h₄ => obeys_orFail_bind fun sim _ => ?_
  refine obeys_ofExcept_bind fun out hout => ?_
  refine obeys_next_bind rfl hw h₄ fun _ h₅ => obeys_orFail_bind fun _ _ => ?_
  exact .ok ⟨h₅, rule.1, sim, out.2, hout⟩

theorem obeys_isAuthExpired (hw : writes h = []) (validUntilLedger : UInt32) :
    Obeys (fullDiscipline cfg X req) h (isAuthExpired validUntilLedger)
      (onOk fun h' _ => Extends h h') := by
  refine obeys_quiet_bind rfl hw fun _ h₁ => obeys_orFail_bind fun latest _ => ?_
  split <;> exact .ok h₁

theorem obeys_buildOperation
    (hD : ∀ contractID holder, D.guard h (.fetchSACBalance contractID holder))
    (input : CreateProposalInput) (catalog : List CatalogAsset) :
    Obeys D h (buildOperation input catalog) (onOk fun h' op => Extends h h' ∧
      reconstructOperation input.smartAccountAddress input.operationKind op.targetContractID
        op.params = .ok op) := by
  unfold buildOperation
  split
  · rename_i hkind
    rw [hkind, obeys_ofExcept]
    cases hop : buildCounterIncrementOperation input.smartAccountAddress input.targetContractID with
    | error e => trivial
    | ok op => exact ⟨.refl h, reconstruct_counterIncrement hop⟩
  · rename_i hkind
    rw [hkind]
    unfold buildSacTransferOperation
    split_ifs
    · exact .fail trivial
    refine obeys_ofExcept_bind fun asset _ => obeys_ofExcept_bind fun (hi, lo) hamount => ?_
    refine .call (hD _ _) fun _ _ => obeys_orFail_bind fun (balHi, balLo) _ => ?_
    by_cases hshort : i128ToInt balHi balLo < i128ToInt hi lo
    · simp only [if_pos hshort]
      exact .fail trivial
    simp only [if_neg hshort]
    refine obeys_ofExcept_bind fun fn hfn => .ok ⟨.quiet rfl _ h, ?_⟩
    exact reconstruct_sacTransfer (orError_eq_ok.mp hamount) hfn _ rfl
  · exact .fail trivial

theorem obeys_buildDelegatedCheckAuthTemplate (hw : writes h = [])
    (smartAccountAddress signerG : String) (entry : SorobanAuthorizationEntry)
    (contextRuleIDs : List UInt32) (validUntil : UInt32) :
    Obeys (fullDiscipline cfg X req) h (buildDelegatedCheckAuthTemplate cfg smartAccountAddress signerG
        entry contextRuleIDs validUntil)
      (onOk fun h' out => Extends h h' ∧ ∃ smartAccount signer nonce,
        scAddressFromString smartAccountAddress = some smartAccount ∧
        scAddressFromString signerG = some signer ∧
        out.2 = checkAuthEntry smartAccount signer out.1 nonce validUntil) := by
  unfold buildDelegatedCheckAuthTemplate
  split
  · refine obeys_ofExcept_bind fun smartAccount haccount => obeys_ofExcept_bind fun signer hsigner => ?_
    refine obeys_quiet_bind rfl hw fun _ h₁ => obeys_orFail_bind fun nonce _ => ?_
    exact .ok ⟨h₁, smartAccount, signer, nonce, orError_eq_ok.mp haccount,
      orError_eq_ok.mp hsigner, rfl⟩
  · exact .fail trivial

theorem obeys_newUUIDs (hw : writes h = []) (n : Nat) :
    Obeys (fullDiscipline cfg X req) h (newUUIDs n) (onOk fun h' _ => Extends h h') := by
  induction n generalizing h with
  | zero => exact .ok (.refl h)
  | succ n ih =>
    refine obeys_quiet_bind rfl hw fun _ h₁ => ?_
    exact (ih (h₁.writes.trans hw)).bind_onOk fun h₂ ids hh₂ => .ok (h₁.trans hh₂)

end Quiet

section Requests

variable {X : Codec} {r : ProposalRow} (proposalID memberID : Option Uuid) (userID : Uuid)

structure Started (userID : Uuid) (h : History) (r : ProposalRow) (account : AccountRow) : Prop where
  read : PendingRead h r r.id
  writes : Multisig.writes h = []
  granted : Granted userID h account
  account : (r.multisigAccountID, account) ∈ accountsRead h

theorem Started.extend {userID : Uuid} (hs : Started userID h r account) (he : Extends h h') :
    Started userID h' r account where
  read := ⟨he.rows.trans hs.read.rows, hs.read.pending, rfl⟩
  writes := he.writes.trans hs.writes
  account := he.filterMap_mem accountRead hs.account
  granted := hs.granted.extend he

theorem obeys_getOwnedProposal :
    Obeys (fullDiscipline cfg X req) [] (getOwnedProposal proposalID userID)
      (onOk fun h' out => rowsRead h' = [out.1] ∧ writes h' = [] ∧
        (out.1.multisigAccountID, out.2) ∈ accountsRead h' ∧ Granted userID h' out.2) := by
  unfold getOwnedProposal
  split
  · refine .call ⟨rfl, trivial, trivial, trivial⟩ fun r _ => obeys_orFail_bind fun proposal hr => ?_
    subst hr
    rw [obeys_bind, obeys_attempt]
    refine (obeys_getOwnedAccountByID rfl proposal.multisigAccountID userID).mono fun h' out hout => ?_
    cases out with
    | error e => exact .fail trivial
    | ok account =>
      obtain ⟨hext, haccount, hgranted⟩ := hout
      exact .ok ⟨hext.rows, hext.writes, haccount, hgranted⟩
  · exact .fail trivial

theorem obeys_getPendingProposal :
    Obeys (fullDiscipline cfg X req) [] (getPendingProposal proposalID userID)
      (onOk fun h' out => Started userID h' out.1 out.2) := by
  refine (obeys_getOwnedProposal proposalID userID).bind_onOk fun h' out hout => ?_
  obtain ⟨hread, hwrites, haccount, hgranted⟩ := hout
  refine obeys_ofExcept_bind fun _ hpending => .ok ⟨⟨hread, ?_, rfl⟩, hwrites, hgranted, haccount⟩
  unfold requirePending at hpending
  by_contra hne
  rw [if_neg hne] at hpending
  cases hpending

theorem obeys_createProposal (hw : writes h = []) (hrows : rowsRead h = [])
    (input : CreateProposalInput) (catalog : List CatalogAsset) :
    Obeys (fullDiscipline cfg X req) h (createProposal cfg req.userID input catalog)
      (onOk fun _ _ => True) := by
  refine (obeys_getOwnedAccountByAddress hw _ req.userID).bind_onOk fun h₁ account hfound => ?_
  obtain ⟨hh₁, haccount, hfound, hgranted⟩ := hfound
  have hw₁ := hh₁.writes.trans hw
  refine (obeys_buildOperation (fun _ _ => guard_of_quiet rfl hw₁) input catalog).bind_onOk
    fun h₂ op hh₂ => ?_
  obtain ⟨he₂, hop⟩ := hh₂
  refine (obeys_simulateAndExtract (he₂.writes.trans hw₁) _ op).bind_onOk
    fun h₃ (built, discovery) hh₃ => ?_
  obtain ⟨hh₃, rule, sim, rest, hbuilt⟩ := hh₃
  by_cases hrule : input.requireMatchedContextRule ∧ discovery ≠ .matched
  · simp only [if_pos hrule]
    exact .fail trivial
  simp only [if_neg hrule]
  refine obeys_next_bind rfl hw₁ (he₂.trans hh₃) fun id he₄ => ?_
  refine obeys_next_bind rfl hw₁ he₄ fun createdAt he₅ => ?_
  refine .call ⟨⟨he₅.writes.trans hw₁, he₅.rows.trans (hh₁.rows.trans hrows), rfl,
    coherent_of_extractArtifacts hbuilt⟩, ⟨account, he₅.filterMap_mem accountFound haccount, rfl,
    hgranted.extend he₅⟩, ⟨_, account, he₅.filterMap_mem foundAt hfound, rfl,
    consistent_of_extractArtifacts hbuilt rfl hop⟩, rfl⟩ fun r _ => ?_
  exact obeys_orFail_bind fun id _ => .ok trivial

theorem obeys_rebuildProposal (hs : Started req.userID h r account) :
    Obeys (fullDiscipline cfg X req) h (rebuildProposal cfg r account) (onOk fun _ _ => True) := by
  refine obeys_ofExcept_bind fun op hop => ?_
  refine (obeys_simulateAndExtract hs.writes _ op).bind_onOk fun h₁ out hh₁ => ?_
  obtain ⟨hh₁, rule, sim, rest, hbuilt⟩ := hh₁
  have hs₁ := hs.extend hh₁
  have hrow : r ∈ rowsRead h₁ := hs₁.read.rows ▸ mem_singleton_self r
  refine .call ⟨⟨r, hs₁.read, hs₁.writes⟩,
    ⟨r, account, hs₁.read.rows, rfl, hs₁.account, hs₁.granted, nofun⟩, trivial, trivial⟩ fun _ _ => obeys_orFail_bind fun _ hr => ?_
  subst hr
  refine .call ⟨⟨r, ⟨hs₁.read.rows, hs₁.read.pending, rfl⟩,
    coherent_of_extractArtifacts hbuilt, congrArg (_ :: ·) hs₁.writes, mem_cons_self⟩,
    ⟨r, account, hs₁.read.rows, rfl, hs₁.account, hs₁.granted, nofun⟩,
    ⟨r, account, hrow, rfl, hs₁.account,
    consistent_of_extractArtifacts hbuilt rfl hop⟩, trivial⟩
    fun _ _ => obeys_orFail_bind fun _ _ => .ok trivial

theorem obeys_refreshProposal :
    Obeys (fullDiscipline cfg X req) [] (refreshProposal cfg req.userID proposalID)
      (onOk fun _ _ => True) :=
  (obeys_getPendingProposal proposalID req.userID).bind_onOk fun _ _ hs =>
    obeys_rebuildProposal hs

theorem obeys_ensureFresh (hs : Started req.userID h r account) :
    Obeys (fullDiscipline cfg X req) h (ensureFresh cfg r account)
      (onOk fun h' _ => Started req.userID h' r account) := by
  refine (obeys_isAuthExpired hs.writes _).bind_onOk fun h₁ expired hh₁ => ?_
  split
  · exact (obeys_rebuildProposal (hs.extend hh₁)).bind_onOk fun _ _ _ => .fail trivial
  · exact .ok (hs.extend hh₁)

theorem obeys_approveWebauthn (sigDataXdrHex : String) : Obeys (fullDiscipline cfg X req) []
      (approveWebauthn req.userID proposalID memberID sigDataXdrHex)
      (onOk fun _ _ => True) := by
  refine (obeys_getPendingProposal proposalID req.userID).bind_onOk
    fun h₁ (proposal, account) hs => ?_
  refine (obeys_getOwnedMember hs.writes account req.userID memberID .webauthn).bind_onOk
    fun h₂ member hh₂ => ?_
  obtain ⟨hh₂, -, -, hacts⟩ := hh₂
  have hs := hs.extend hh₂
  refine obeys_quiet_bind rfl hs.writes fun id hh₃ => ?_
  refine obeys_next_bind rfl hs.writes hh₃ fun createdAt hh₄ => ?_
  have hs := hs.extend hh₄
  refine .call ⟨⟨proposal, hs.read, hs.writes, id, _, _, _, rfl⟩,
    ⟨proposal, account, hs.read.rows, rfl, hs.account, hs.granted,
      fun m hm => Option.some.inj hm ▸ hacts⟩, trivial, trivial⟩ fun r _ => ?_
  cases r with
  | ok id => exact .ok trivial
  | error e => exact .fail trivial

theorem gAddress_of_requireGAddress {member : MemberRow} {g : String}
    (h : requireGAddress member = .ok g) : member.gAddress = some g ∧ g ≠ "" := by
  unfold requireGAddress at h
  by_cases hempty : strOrEmpty member.gAddress = ""
  · rw [if_pos hempty] at h
    cases h
  rw [if_neg hempty] at h
  cases h
  refine ⟨?_, hempty⟩
  cases hg : member.gAddress with
  | none =>
    rw [hg] at hempty
    exact absurd rfl hempty
  | some g => rfl

theorem obeys_approveDelegatedBegin :
    Obeys (fullDiscipline cfg X req) [] (approveDelegatedBegin cfg req.userID proposalID memberID)
      (onOk fun _ _ => True) := by
  refine (obeys_getPendingProposal proposalID req.userID).bind_onOk
    fun h₁ (proposal, account) hs => ?_
  refine (obeys_ensureFresh hs).bind_onOk fun h₂ _ hs => ?_
  refine (obeys_getOwnedMember hs.writes account req.userID memberID .delegated).bind_onOk
    fun h₃ member hh₃ => ?_
  obtain ⟨hh₃, hmember, haccount, hacts⟩ := hh₃
  have hs := hs.extend hh₃
  refine obeys_ofExcept_bind fun g hg => obeys_ofExcept_bind fun entries _ =>
    obeys_ofExcept_bind fun (_, entry) _ => ?_
  obtain ⟨hg, hne⟩ := gAddress_of_requireGAddress hg
  refine (obeys_buildDelegatedCheckAuthTemplate hs.writes _ _ _ _ _).bind_onOk
    fun h₄ (digest, template) hh₄ => ?_
  obtain ⟨hh₄, smartAccount, signer, nonce, hsmart, hsigner, htemplate⟩ := hh₄
  refine obeys_next_bind rfl hs.writes hh₄ fun id hh₅ => ?_
  refine obeys_next_bind rfl hs.writes hh₅ fun createdAt hh₆ => ?_
  have hs := hs.extend hh₆
  have hmember := hh₆.filterMap_mem memberRead hmember
  have hacts := hacts.extend hh₆
  refine .call ⟨⟨proposal, hs.read, hs.writes, account, member, g, smartAccount, signer,
    digest, nonce, id, createdAt, hs.account, hmember, haccount, hg, hne, hsmart, hsigner, ?_⟩,
    ⟨proposal, account, hs.read.rows, rfl, hs.account, hs.granted,
      fun m hm => Option.some.inj hm ▸ hacts⟩, trivial, trivial⟩ fun r _ => obeys_orFail_bind fun _ _ => .ok trivial
  rw [← show template = _ from htemplate]

theorem template_of_startedTemplate {approval : ApprovalRow}
    {template : Encoded SorobanAuthorizationEntry} (h : startedTemplate approval = .ok template) :
    approval.delegatedEntryTemplateXdr = some template := by
  unfold startedTemplate at h
  split at h
  · cases h
  rename_i stored hstored
  by_cases hempty : isEmptyTemplate stored = true
  · rw [if_pos hempty] at h
    cases h
  · rw [if_neg hempty] at h
    exact Except.ok.inj h ▸ hstored

theorem obeys_approveDelegatedFinish (signed : Encoded Bytes) (signerAddress : String) :
    Obeys (fullDiscipline cfg X req) []
      (approveDelegatedFinish cfg X req.userID proposalID memberID signed signerAddress)
      (onOk fun _ _ => True) := by
  refine (obeys_getPendingProposal proposalID req.userID).bind_onOk
    fun h₁ (proposal, account) hs => ?_
  refine (obeys_getOwnedMember hs.writes account req.userID memberID .delegated).bind_onOk
    fun h₂ member hh₂ => ?_
  obtain ⟨hh₂, -, -, hacts⟩ := hh₂
  have hs := hs.extend hh₂
  refine obeys_quiet_bind rfl hs.writes fun r hh₃ => obeys_orFail_bind fun existing hr => ?_
  subst hr
  have hs := hs.extend hh₃
  refine obeys_ofExcept_bind fun template htemplate => obeys_ofExcept_bind fun _ hverify => ?_
  refine .call ⟨⟨proposal, hs.read, hs.writes, ⟨existing, template, signerAddress,
    mem_cons_self, template_of_startedTemplate htemplate, rfl, mapError_eq_ok.mp hverify⟩, rfl⟩,
    ⟨proposal, account, hs.read.rows, rfl, hs.account, hs.granted,
      fun m hm => Option.some.inj hm ▸ hacts⟩, trivial, trivial⟩ fun r _ => obeys_orFail_bind fun _ _ => .ok trivial

theorem obeys_executeProposal (proposalID : Option Uuid) :
    Obeys (fullDiscipline cfg X (.execute userID proposalID)) [] (executeProposal cfg X userID proposalID)
      (onOk fun _ _ => True) := by
  refine (obeys_getPendingProposal proposalID userID).bind_onOk
    fun h₁ (proposal, account) hs => ?_
  have hs : Started (Request.execute userID proposalID).userID h₁ proposal account := hs
  refine (obeys_ensureFresh hs).bind_onOk fun h₂ _ hs => ?_
  refine obeys_quiet_bind rfl hs.writes fun r hh₃ => obeys_orFail_bind fun rows hr => ?_
  subst hr
  have hs := hs.extend hh₃
  refine obeys_ofExcept_bind fun execution hexecution => ?_
  refine .call ⟨⟨hs.writes, hs.read, hs.account, ⟨_, _, rfl⟩, rows, mem_cons_self,
    mapError_eq_ok.mp hexecution⟩, trivial, trivial, trivial⟩
    fun r _ => obeys_orFail_bind fun result hr => ?_
  subst hr
  refine .call ⟨⟨proposal, ⟨hs.read.rows, hs.read.pending, rfl⟩, hs.writes⟩,
    ⟨proposal, account, hs.read.rows, rfl, hs.account, hs.granted, nofun⟩, trivial,
    result.hash, mem_cons_self, rfl⟩ fun r _ => obeys_orFail_bind fun _ _ => .ok trivial

theorem obeys_registerAccount (hw : writes h = []) (userID : Uuid) (input : RegisterAccountInput) :
    Obeys (fullDiscipline cfg X req) h (registerAccount userID input) (onOk fun _ _ => True) := by
  refine obeys_ofExcept_bind fun _ _ => ?_
  refine obeys_quiet_bind rfl hw fun _ h₁ => obeys_orFail_bind fun own _ => ?_
  refine obeys_next_bind rfl hw h₁ fun id h₂ => ?_
  refine obeys_next_bind rfl hw h₂ fun createdAt h₃ => ?_
  refine obeys_next_bind rfl hw h₃ fun membersCreatedAt h₄ => ?_
  refine (obeys_newUUIDs (h₄.writes.trans hw) _).bind_onOk fun h₅ ids hh₅ => ?_
  refine obeys_next_bind rfl hw (h₄.trans hh₅) fun _ _ => ?_
  exact obeys_orFail_bind fun _ _ => .ok trivial

end Requests

theorem full_requestBody (cfg : TxConfig) (X : Codec) (req : Request) :
    Obeys (fullDiscipline cfg X req) [] (req.body cfg X) fun _ _ => True := by
  have hbody : Obeys (fullDiscipline cfg X req) [] (req.body cfg X) (onOk fun _ _ => True) := by
    cases req with
    | create userID input catalog =>
      exact (obeys_createProposal rfl rfl input catalog).bind_onOk fun _ _ _ => .ok trivial
    | refresh userID proposalID =>
      exact (obeys_refreshProposal proposalID).bind_onOk fun _ _ _ => .ok trivial
    | approveWebauthn userID proposalID memberID sigDataXdrHex =>
      exact (obeys_approveWebauthn proposalID memberID sigDataXdrHex).bind_onOk
        fun _ _ _ => .ok trivial
    | approveDelegatedBegin userID proposalID memberID =>
      exact (obeys_approveDelegatedBegin proposalID memberID).bind_onOk fun _ _ _ => .ok trivial
    | approveDelegatedFinish userID proposalID memberID signed signerAddress =>
      exact (obeys_approveDelegatedFinish proposalID memberID signed signerAddress).bind_onOk
        fun _ _ _ => .ok trivial
    | execute userID proposalID =>
      exact (obeys_executeProposal userID proposalID).bind_onOk fun _ _ _ => .ok trivial
    | register userID input =>
      exact (obeys_registerAccount rfl userID input).bind_onOk fun _ _ _ => .ok trivial
  exact hbody.mono fun _ _ _ => trivial

theorem obeys_requestBody (cfg : TxConfig) (X : Codec) (req : Request) :
    Obeys (discipline cfg X req) [] (req.body cfg X) fun _ _ => True :=
  (full_requestBody cfg X req).weaken (fun _ _ hg => hg.1) fun _ _ _ => trivial

end LatchApi.Multisig
