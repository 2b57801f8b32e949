import LatchApi.Multisig.UnderWay

namespace LatchApi.Multisig

open Lib Program Soroban Store Bundler List Lib.System Lib.Table

def Db.Consistent (cfg : TxConfig) (db : Db) : Prop :=
  ∀ row ∈ db.proposals.rows, ∃ account ∈ db.accounts.rows, account.id = row.multisigAccountID ∧
    row.Consistent cfg account.smartAccountAddress

section Runs

variable {cfg : TxConfig} {X : Codec} {op : MsOp}

structure ProposalRow.SameCall (row r : ProposalRow) : Prop where
  id : row.id = r.id
  account : row.multisigAccountID = r.multisigAccountID
  target : row.targetContractID = r.targetContractID
  kind : row.operationKind = r.operationKind
  params : row.operationParams = r.operationParams

theorem ProposalRow.SameCall.trans {row₁ row₂ row₃ : ProposalRow} (h₁ : row₁.SameCall row₂)
    (h₂ : row₂.SameCall row₃) : row₁.SameCall row₃ :=
  ⟨h₁.id.trans h₂.id, h₁.account.trans h₂.account, h₁.target.trans h₂.target,
    h₁.kind.trans h₂.kind, h₁.params.trans h₂.params⟩

theorem ProposalRow.Consistent.of_sameCall {address : String} {row r : ProposalRow}
    (h : r.Consistent cfg address) (hsame : row.SameCall r) (hbuilt : row.built = r.built) :
    row.Consistent cfg address := by
  obtain ⟨entries, entry, op, hagrees⟩ := h
  have hoperation : reconstructOperation address row.operationKind row.targetContractID
      row.operationParams = .ok op := by
    rw [hsame.kind, hsame.target, hsame.params]
    exact hagrees.operation
  obtain ⟨hstored, hindex, hentry, hcredentials, hpayload, hdigest, hexpiry, -, htx⟩ := hagrees
  rw [← hbuilt] at hstored hindex hentry hpayload hdigest hexpiry htx
  exact ⟨entries, entry, op, hstored, hindex, hentry, hcredentials, hpayload, hdigest, hexpiry,
    hoperation, htx⟩

theorem DbStep.sameCall_after {db db' : Db} (h : DbStep op db db') {row : ProposalRow}
    (hrow : row ∈ db.proposals.rows) : ∃ row' ∈ db'.proposals.rows, row'.SameCall row := by
  obtain ⟨row', hrow', hid, -, -⟩ := h.row_after hrow
  refine ⟨row', hrow', ?_⟩
  cases h with
  | same =>
    obtain rfl := eq_of_pk_eq hrow' hrow hid
    exact ⟨rfl, rfl, rfl, rfl, rfl⟩
  | register hop hreg =>
    rw [(register_eq_some hreg).1.1] at hrow'
    obtain rfl := eq_of_pk_eq hrow' hrow hid
    exact ⟨rfl, rfl, rfl, rfl, rfl⟩
  | write hop hw =>
    cases (write_eq_some hw).2.1 row' hrow' with
    | kept hold =>
      obtain rfl := eq_of_pk_eq hold hrow hid
      exact ⟨rfl, rfl, rfl, rfl, rfl⟩
    | inserted =>
      obtain ⟨t, ht, -⟩ := Option.map_eq_some_iff.mp hw
      exact absurd hid.symm (pk_ne_of_insert ht hrow)
    | rebuilt hold =>
      obtain rfl := eq_of_pk_eq hold hrow hid
      exact ⟨rfl, rfl, rfl, rfl, rfl⟩
    | executed hold =>
      obtain rfl := eq_of_pk_eq hold hrow hid
      exact ⟨rfl, rfl, rfl, rfl, rfl⟩

structure StillSo (db : Db) (h : History) : Prop where
  rows : ∀ r ∈ rowsRead h, ∃ row ∈ db.proposals.rows, row.SameCall r
  accounts : ∀ x ∈ accountsRead h, ∃ a ∈ db.accounts.rows, a.id = x.1 ∧
    a.smartAccountAddress = x.2.smartAccountAddress
  found : ∀ x ∈ h.filterMap foundAt, ∃ a ∈ db.accounts.rows, a.id = x.2.id ∧
    a.smartAccountAddress = x.1

theorem StillSo.nil (db : Db) : StillSo db [] where
  rows _ hr := absurd hr not_mem_nil
  accounts _ hx := absurd hx not_mem_nil
  found _ hx := absurd hx not_mem_nil

theorem StillSo.step {db db' : Db} {h : History} (hs : StillSo db h)
    (hstep : DbStep op db db') : StillSo db' h where
  rows r hr := by
    obtain ⟨row, hrow, hsame⟩ := hs.rows r hr
    obtain ⟨row', hrow', hsame'⟩ := hstep.sameCall_after hrow
    exact ⟨row', hrow', hsame'.trans hsame⟩
  accounts x hx := by
    obtain ⟨a, ha, hid, haddress⟩ := hs.accounts x hx
    obtain ⟨a', ha', hid', haddress'⟩ := hstep.keeps.accounts a ha
    exact ⟨a', ha', hid'.trans hid, haddress'.trans haddress⟩
  found x hx := by
    obtain ⟨a, ha, hid, haddress⟩ := hs.found x hx
    obtain ⟨a', ha', hid', haddress'⟩ := hstep.keeps.accounts a ha
    exact ⟨a', ha', hid'.trans hid, haddress'.trans haddress⟩

theorem mem_of_foundAt {s : State} {c : Choice} {x : String × AccountRow}
    (h : foundAt ⟨op, (exec cfg op s c).1⟩ = some x) :
    x.2 ∈ s.db.accounts.rows ∧ x.2.smartAccountAddress = x.1 := by
  cases op with
  | read q =>
    cases q with
    | getMultisigAccountByAddress address =>
      obtain ⟨row, hrow, rfl⟩ := Option.map_eq_some_iff.mp h
      obtain ⟨hmem, haddress⟩ := mem_of_orNoRows hrow
      exact ⟨hmem, of_decide_eq_true haddress⟩
    | _ => cases h
  | _ => cases h

theorem StillSo.advance {s : State} {t : MsThread} (c : Choice) (next : MsRes op → Service Reply)
    (hs : StillSo s.db t.history) :
    StillSo (exec cfg op s c).2.db (t.advance op (exec cfg op s c).1 next).history where
  rows r hr := by
    rcases Thread.mem_view_advance hr with hr | hr
    · exact (hs.step (exec_dbStep cfg op s c)).rows r hr
    obtain ⟨-, hmem, hsame⟩ := mem_of_rowRead hr
    rw [← hsame] at hmem
    exact ⟨r, hmem, rfl, rfl, rfl, rfl, rfl⟩
  accounts x hx := by
    rcases Thread.mem_view_advance hx with hx | hx
    · exact (hs.step (exec_dbStep cfg op s c)).accounts x hx
    obtain ⟨hmem, hid⟩ := mem_of_accountRead hx
    obtain ⟨a, ha, haid, haddress⟩ := (exec_dbStep cfg op s c).keeps.accounts _ hmem
    exact ⟨a, ha, haid.trans hid, haddress⟩
  found x hx := by
    rcases Thread.mem_view_advance hx with hx | hx
    · exact (hs.step (exec_dbStep cfg op s c)).found x hx
    obtain ⟨hmem, haddress⟩ := mem_of_foundAt hx
    obtain ⟨a, ha, haid, haddress'⟩ := (exec_dbStep cfg op s c).keeps.accounts _ hmem
    exact ⟨a, ha, haid, haddress'.trans haddress⟩

theorem Db.Consistent.step {db db' : Db} {h : History} (hc : db.Consistent cfg)
    (hstep : DbStep op db db') (hs : StillSo db h) (hg : BuildGuard cfg h op) :
    db'.Consistent cfg := by
  intro row hrow
  -- accounts stay with their addresses, so one of the old table will do
  suffices hold : ∃ account ∈ db.accounts.rows, account.id = row.multisigAccountID ∧
      row.Consistent cfg account.smartAccountAddress by
    obtain ⟨a, ha, hid, hrow⟩ := hold
    obtain ⟨a', ha', hid', haddress⟩ := hstep.keeps.accounts a ha
    exact ⟨a', ha', hid'.trans hid, haddress ▸ hrow⟩
  cases hstep with
  | same => exact hc row hrow
  | register hop hreg =>
    rw [(register_eq_some hreg).1.1] at hrow
    exact hc row hrow
  | write hop hw =>
    subst hop
    cases (write_eq_some hw).2.1 row hrow with
    | kept hold => exact hc row hold
    | inserted =>
      obtain ⟨address, account, hfound, haccount, hbuilt⟩ := hg
      obtain ⟨a, ha, hid, haddress⟩ := hs.found _ hfound
      exact ⟨a, ha, hid.trans haccount.symm, haddress ▸ hbuilt⟩
    | @rebuilt old built hold =>
      obtain ⟨r, account, hr, hid, haccount, hbuilt⟩ := hg
      obtain ⟨stored, hstored, hsame⟩ := hs.rows r hr
      obtain rfl := eq_of_pk_eq hstored hold (hsame.id.trans hid)
      obtain ⟨a, ha, haid, haddress⟩ := hs.accounts _ haccount
      refine ⟨a, ha, haid.trans hsame.account.symm, ?_⟩
      rw [haddress]
      exact hbuilt.of_sameCall ⟨hsame.id, hsame.account, hsame.target, hsame.kind, hsame.params⟩ rfl
    | @executed old txHash hold =>
      obtain ⟨a, ha, hid, hbuilt⟩ := hc old hold
      exact ⟨a, ha, hid, hbuilt.of_sameCall ⟨rfl, rfl, rfl, rfl, rfl⟩ rfl⟩

/-- In every run, under every interleaving, the columns of every stored proposal agree if
those of the proposals stored at the start do. -/
theorem proposals_consistent (cfg : TxConfig) (X : Codec) (s : State) (c : MsRun)
    (hs : s.db.Consistent cfg)
    (h : (multisigSystem cfg X).Reachable System.anySchedule s c) : c.state.db.Consistent cfg := by
  let Inv : MsRun → Prop := fun c =>
    c.state.db.Consistent cfg ∧ ∀ t ∈ c.threads, StillSo c.state.db t.history
  have hinv : Inv c := by
    refine Reachable.invariant (fun _ => buildDiscipline cfg) Inv (fun req =>
      (full_requestBody cfg X req).weaken (fun _ _ hg => hg.2.2.1) fun _ _ _ => trivial)
      (fun _ _ _ _ => trivial) ⟨hs, nofun⟩ ?_ ?_ ?_ h
    · rintro s ts req ⟨hc, hts⟩
      exact ⟨hc, forall_arrived hts (.nil s.db)⟩
    · rintro s s' ts e hworld hinv
      obtain ⟨chain, -, rfl⟩ := Option.map_eq_some_iff.mp hworld
      exact hinv
    · rintro s before after t op next ch hrest - hg ⟨hc, hts⟩
      have hstep := exec_dbStep cfg op s ch
      have ht : StillSo s.db t.history := hts t (by simp)
      have hthreads : ∀ u ∈ before ++ t.advance op (exec cfg op s ch).1 next :: after,
          StillSo (exec cfg op s ch).2.db u.history :=
        forall_advanced hts (fun u hu => hu.step hstep) (ht.advance ch next)
      exact ⟨hc.step hstep ht hg, hthreads⟩
  exact hinv.1

end Runs

section Rebuilt

theorem stored_operation_rebuilt (answers : History → (op : MsOp) → MsRes op) (h : History)
    (input : CreateProposalInput) (catalog : List CatalogAsset) {op : ProposalOperation}
    (hop : ((buildOperation input catalog).runWith answers h).1 = .ok op) :
    ∃ rebuilt, reconstructOperation input.smartAccountAddress input.operationKind
        op.targetContractID op.params = .ok rebuilt ∧
      rebuilt.hostFunction = op.hostFunction ∧ rebuilt.targetContractID = op.targetContractID := by
  have hbuilds : Obeys ⟨fun _ _ => True, fun _ _ => True⟩ h (buildOperation input catalog) _ :=
    obeys_buildOperation (fun _ _ => trivial) input catalog
  have hrebuilt : onOk _ _ ((buildOperation input catalog).runWith answers h).1 :=
    hbuilds.runWith fun _ _ => trivial
  rw [hop] at hrebuilt
  exact ⟨op, hrebuilt.2, rfl, rfl⟩

end Rebuilt

namespace Sample

open Bundler.Sample

def unproposed : State := ⟨{ startDb with proposals := .empty, approvals := .empty }, .empty⟩

def incrementInput : CreateProposalInput :=
  ⟨walletAddress, .counterIncrement, contractText (key 3), "", "", "", "", true⟩

theorem refreshed_consistent : ∃ c : MsRun, (c.state.db.proposal 7).isSome = true ∧
    c.threads.map Thread.succeeded = [true, true] ∧ c.state.db.Consistent config := by
  have h : ∃ c ∈ (multisigSystem config noCodec).schedule anySchedule ⟨unproposed, []⟩
      (.arrive (.create 1 incrementInput []) :: acts 0 9 (answers 1) ++
        .arrive (.refresh 1 (some 7)) :: acts 1 9 (answers 2)),
      (c.state.db.proposal 7).isSome = true ∧ c.threads.map Thread.succeeded = [true, true] := by
    decide +kernel
  obtain ⟨c, hc, hrow, hthreads⟩ := h
  have hstart : unproposed.db.Consistent config := fun row hrow => nomatch hrow
  exact ⟨c, hrow, hthreads, proposals_consistent config noCodec unproposed c hstart
    (schedule_sound _ _ _ hc)⟩

def token : CatalogAsset := ⟨"token", "TKN", contractText (key 3), 7⟩

def payment : CreateProposalInput :=
  ⟨walletAddress, .sacTransfer, "", "token", "", contractText (key 5), "1.50", true⟩

def balanceAnswers (_ : History) : (op : MsOp) → MsRes op
  | .fetchSACBalance _ _ => .ok (0, 20000000)
  | op => offline op

theorem payment_rebuilt : ∃ op rebuilt,
    ((buildOperation payment [token]).runWith balanceAnswers []).1 = .ok op ∧
      reconstructOperation payment.smartAccountAddress payment.operationKind op.targetContractID
        op.params = .ok rebuilt ∧
      rebuilt.hostFunction = op.hostFunction ∧ rebuilt.targetContractID = op.targetContractID := by
  have hrun : ((buildOperation payment [token]).runWith balanceAnswers []).1.toOption.any
      (fun _ => true) = true := by decide +kernel
  obtain ⟨op, h', hop, -⟩ := exists_ok_of_any hrun
  obtain ⟨rebuilt, hrebuilt⟩ := stored_operation_rebuilt balanceAnswers [] payment [token]
    (congrArg Prod.fst hop)
  exact ⟨op, rebuilt, congrArg Prod.fst hop, hrebuilt⟩

end Sample

end LatchApi.Multisig
