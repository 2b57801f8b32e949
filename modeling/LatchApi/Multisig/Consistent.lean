import Mathlib.Data.List.TakeWhile
import LatchApi.Multisig.Operations

namespace LatchApi.Multisig

open Lib Program Soroban Store Bundler List

variable {lo : UInt64} {hi : Int64} {amount : String}

variable {cs : List Char} {decimals : Nat}

section Amounts

theorem decimalOf_eq_ofDigitChars (hcs : ∀ c ∈ cs, c.isDigit = true) (n : Nat) :
    decimalOf n cs = some (Nat.ofDigitChars 10 cs n) := by
  induction cs generalizing n with
  | nil => rfl
  | cons c cs ih =>
    have hc : '0' ≤ c ∧ c ≤ '9' := by
      have hdigit := hcs c mem_cons_self
      rw [Char.isDigit, Bool.and_eq_true, decide_eq_true_eq, decide_eq_true_eq] at hdigit
      exact hdigit
    rw [decimalOf, if_pos hc, ih (fun d hd => hcs d (mem_cons_of_mem _ hd)),
      Nat.ofDigitChars_cons]
    rfl

theorem ne_of_isDigit {c d : Char} (hc : c.isDigit = true) (hd : d.isDigit = false) : c ≠ d := by
  rintro rfl
  rw [hc] at hd
  cases hd

theorem isSpace_of_isDigit {c : Char} (hc : c.isDigit = true) : isSpace c = false := by
  have hle : c ≤ '9' := by
    rw [Char.isDigit, Bool.and_eq_true, decide_eq_true_eq, decide_eq_true_eq] at hc
    exact hc.2
  rw [isSpace, Bool.or_eq_false_iff, decide_eq_false_iff_not, decide_eq_false_iff_not]
  refine ⟨fun hmem => ?_, fun hrange => ?_⟩
  · have hnone : ['\t', '\n', '\x0b', '\x0c', '\r', ' ', '\u0085', '\u00a0', '\u1680',
        '\u2028', '\u2029', '\u202f', '\u205f', '\u3000'].all (fun d => !d.isDigit) = true := by
      decide
    have hspace := all_eq_true.mp hnone c hmem
    rw [hc] at hspace
    cases hspace
  · exact absurd (Char.le_trans hrange.1 hle) (by decide)

theorem trimSpace_of_none (hcs : ∀ c ∈ cs, isSpace c = false) :
    trimSpace (String.ofList cs) = String.ofList cs := by
  have hdrop : ∀ {ds : List Char}, (∀ c ∈ ds, isSpace c = false) → ds.dropWhile isSpace = ds := by
    intro ds hds
    cases ds with
    | nil => rfl
    | cons d ds => rw [dropWhile_cons, hds d mem_cons_self]; rfl
  have hreverse : ∀ c ∈ cs.reverse, isSpace c = false := fun c hc => hcs c (mem_reverse.mp hc)
  rw [trimSpace, String.toList_ofList, hdrop hcs, hdrop hreverse, reverse_reverse]

theorem parseDecimal_of_digits (hdigits : ∀ c ∈ cs, c.isDigit = true) (hne : cs ≠ []) :
    parseDecimal cs = some (Nat.ofDigitChars 10 cs 0) := by
  rw [← decimalOf_eq_ofDigitChars hdigits]
  unfold parseDecimal
  split
  · exact absurd rfl hne
  · exact absurd rfl (ne_of_isDigit (hdigits '+' mem_cons_self) rfl)
  · exact absurd rfl (ne_of_isDigit (hdigits '+' mem_cons_self) rfl)
  · rfl

theorem parseAmountToI128_digits (whole frac : List Char) {n : Nat}
    (hdigits : ∀ c ∈ whole ++ frac, c.isDigit = true) (hne : whole ≠ [])
    (hfrac : frac.length ≤ decimals)
    (hvalue : Nat.ofDigitChars 10 (whole ++ frac ++ replicate (decimals - frac.length) '0') 0 = n)
    (hn : n < 2 ^ 127) :
    parseAmountToI128 (String.ofList (whole ++ if frac.isEmpty then [] else '.' :: frac)) decimals =
      some (Int64.ofNat (n / 2 ^ 64), UInt64.ofNat n) := by
  have hwhole : ∀ c ∈ whole, decide (c ≠ '.') = true := fun c hc =>
    decide_eq_true (ne_of_isDigit (hdigits c (mem_append_left _ hc)) rfl)
  have hspace : ∀ c ∈ whole ++ (if frac.isEmpty then [] else '.' :: frac), isSpace c = false := by
    intro c hc
    have hmem : c ∈ whole ++ frac ∨ c = '.' := by
      cases frac <;> simp at hc ⊢ <;> tauto
    rcases hmem with hmem | rfl
    · exact isSpace_of_isDigit (hdigits c hmem)
    · decide
  have htake : (whole ++ if frac.isEmpty then [] else '.' :: frac).takeWhile (· ≠ '.') = whole := by
    rw [takeWhile_append_of_pos hwhole]
    cases frac <;> simp
  have hdrop : ((whole ++ if frac.isEmpty then [] else '.' :: frac).dropWhile (· ≠ '.')).drop 1 =
      frac := by
    rw [dropWhile_append_of_pos hwhole]
    cases frac <;> simp
  have hhead : whole.head? ≠ some '-' := fun h =>
    ne_of_isDigit (hdigits '-' (mem_append_left _ (mem_of_head? h))) rfl rfl
  have hall : ∀ c ∈ whole ++ frac ++ replicate (decimals - frac.length) '0', c.isDigit = true :=
    forall_mem_append.mpr ⟨hdigits, fun c hc => eq_of_mem_replicate hc ▸ rfl⟩
  simp only [parseAmountToI128, trimSpace_of_none hspace, String.toList_ofList, htake, hdrop]
  rw [if_neg (by simp [hne, hhead, hfrac]), if_neg (by simpa using hne),
    parseDecimal_of_digits hall (by simp [hne]), hvalue]
  exact if_pos hn

theorem isDigit_toDigits (n : Nat) : ∀ c ∈ Nat.toDigits 10 n, c.isDigit = true := fun _ hc =>
  Nat.isDigit_of_mem_toDigits (by omega) (by omega) hc

theorem i128ToInt_raw {n : Nat} (hn : n < 2 ^ 127) :
    i128ToInt (Int64.ofNat (n / 2 ^ 64)) (UInt64.ofNat n) = n := by
  have hhi : (Int64.ofNat (n / 2 ^ 64)).toInt = (n / 2 ^ 64 : Nat) :=
    Int64.toInt_ofNat_of_lt (by omega)
  rw [i128ToInt, hhi, UInt64.toNat_ofNat']
  omega

theorem raw_of_parseAmountToI128 (h : parseAmountToI128 amount decimals = some (hi, lo)) :
    ∃ raw < 2 ^ 127, Int64.ofNat (raw / 2 ^ 64) = hi ∧ UInt64.ofNat raw = lo := by
  unfold parseAmountToI128 at h
  dsimp only at h
  split at h
  · cases h
  split at h
  · cases h
  rename_i raw _
  split at h
  · rename_i hraw
    obtain ⟨hhi, hlo⟩ := Prod.mk.inj (Option.some.inj h)
    exact ⟨raw, hraw, hhi, hlo⟩
  · cases h

theorem parse_formatI128Raw (h : parseAmountToI128 amount decimals = some (hi, lo)) :
    parseAmountToI128 (formatI128Raw hi lo) 0 = some (hi, lo) := by
  obtain ⟨raw, hraw, rfl, rfl⟩ := raw_of_parseAmountToI128 h
  have hformat : formatI128Raw (Int64.ofNat (raw / 2 ^ 64)) (UInt64.ofNat raw) =
      String.ofList (Nat.toDigits 10 raw) := by
    have htext : toString (raw : Int) = String.ofList (Nat.toDigits 10 raw) :=
      Nat.repr_eq_ofList_toDigits
    simp only [formatI128Raw, formatI128Amount, i128ToInt_raw hraw, pow_zero, Int.tmod_one,
      Int.tdiv_one, htext, String.toList_ofList]
    rw [if_pos (by decide +kernel), append_nil]
  have hvalue : Nat.ofDigitChars 10 (Nat.toDigits 10 raw ++ [] ++ replicate (0 - 0) '0') 0 = raw := by
    simp
  rw [hformat]
  simpa using parseAmountToI128_digits (Nat.toDigits 10 raw) [] (by simpa using isDigit_toDigits raw)
    Nat.toDigits_ne_nil (Nat.le_refl 0) hvalue hraw

end Amounts

section Nodes

mutual

def invocationNodes : SorobanAuthorizedInvocation → List SorobanAuthorizedFunction
  | ⟨function, subInvocations⟩ => function :: forestNodes subInvocations

def forestNodes : List SorobanAuthorizedInvocation → List SorobanAuthorizedFunction
  | [] => []
  | i :: is => invocationNodes i ++ forestNodes is

end

mutual

theorem countAuthContexts_eq_length : ∀ i : SorobanAuthorizedInvocation,
    countAuthContexts i = (invocationNodes i).length
  | ⟨function, subInvocations⟩ => by
    rw [countAuthContexts, invocationNodes, length_cons,
      countContexts_eq_length subInvocations, Nat.add_comm]

theorem countContexts_eq_length : ∀ is : List SorobanAuthorizedInvocation,
    countContexts is = (forestNodes is).length
  | [] => by rw [countContexts, forestNodes, length_nil]
  | i :: is => by
    rw [countContexts, forestNodes, length_append, countAuthContexts_eq_length i,
      countContexts_eq_length is]

end

theorem contextRuleIDsForEntry_eq_map (entry : SorobanAuthorizationEntry) (ruleID : UInt32) :
    contextRuleIDsForEntry entry ruleID =
      (invocationNodes entry.rootInvocation).map fun _ => ruleID := by
  rw [contextRuleIDsForEntry, countAuthContexts_eq_length, map_const']

end Nodes

section Columns

structure Agrees (cfg : TxConfig) (address : String) (row : ProposalRow) (entries : AuthEntries)
    (entry : SorobanAuthorizationEntry) (op : ProposalOperation) : Prop where
  stored : storedEntries row.built = .ok entries
  index : 0 ≤ row.built.smartAccountAuthEntryIndex ∧
    row.built.smartAccountAuthEntryIndex < entries.length
  entry_at : entries[row.built.smartAccountAuthEntryIndex.toNat]? = some entry
  credentials : addressStringFromCredentials entry = some address
  payload : (hashSorobanAuthPayload entry cfg.networkPassphrase).map hexEncode =
    some row.built.signaturePayloadHex
  digest : computeAuthDigestHex entry cfg.networkPassphrase
    ((invocationNodes entry.rootInvocation).map fun _ => row.built.contextRuleID) =
      some row.built.authDigestHex
  expiry : ∀ e ∈ entries, ∀ creds, e.addressCredentials = some creds →
    creds.signatureExpirationLedger = row.built.validUntilLedger
  operation : reconstructOperation address row.operationKind row.targetContractID
    row.operationParams = .ok op
  transaction : row.built.txXdr = .of (.v1 [.invokeHostFunction op.hostFunction entries])

def ProposalRow.Consistent (cfg : TxConfig) (address : String) (row : ProposalRow) : Prop :=
  ∃ entries entry op, Agrees cfg address row entries entry op

theorem expiration_of_mem {entries : AuthEntries} {validUntil : UInt32}
    {e : SorobanAuthorizationEntry} (he : e ∈ setAddressCredentialExpiration entries validUntil)
    {creds : SorobanAddressCredentials} (hcreds : e.addressCredentials = some creds) :
    creds.signatureExpirationLedger = validUntil := by
  obtain ⟨⟨credentials, invocation⟩, -, rfl⟩ := mem_map.mp he
  cases credentials with
  | address old =>
    cases hcreds
    rfl
  | sourceAccount => cases hcreds

variable {address : String} {op : ProposalOperation}

theorem consistent_of_extractArtifacts {cfg : TxConfig} {contextRuleID : UInt32}
    {sim : OperationSimulation}
    {out : BuiltProposalArtifacts × AuthEntries × Bytes} {row : ProposalRow}
    (h : extractArtifacts cfg address op.hostFunction contextRuleID sim = .ok out)
    (hbuilt : row.built = out.1)
    (hop : reconstructOperation address row.operationKind row.targetContractID
      row.operationParams = .ok op) : row.Consistent cfg address := by
  obtain ⟨simulated, entries, idx, entry, payload, digest, validUntil, hentries, hentry, hmine,
    hpayload, hdigest, hout⟩ := extractArtifacts_eq_ok h
  rw [hout] at hbuilt
  have hlt := (List.getElem?_eq_some_iff.mp hentry).1
  refine ⟨entries, entry, op, ?_⟩
  constructor
  case stored => simp [hbuilt, storedEntries, normalizeAuthEntries_map_of]
  case index => simpa [hbuilt] using hlt
  case entry_at => simpa [hbuilt] using hentry
  case credentials => exact beq_iff_eq.mp hmine
  case payload => simp [hbuilt, hpayload]
  case digest =>
    rw [hbuilt, ← contextRuleIDsForEntry_eq_map, computeAuthDigestHex, hdigest]
    rfl
  case expiry =>
    intro e he creds hcreds
    rw [hentries] at he
    rw [hbuilt]
    exact expiration_of_mem he hcreds
  case operation => exact hop
  case transaction => rw [hbuilt]

end Columns

section Calls

theorem transferFunction_eq_ok {what smartAccountAddress recipient tokenContractID : String}
    {fn : HostFunction} :
    transferFunction what smartAccountAddress recipient tokenContractID hi lo = .ok fn ↔
      ∃ sender receiver contractID, scAddress smartAccountAddress = some sender ∧
        scAddress recipient = some receiver ∧
        contractIDFromAddress tokenContractID = some contractID ∧
        fn = invokeContractHostFunction contractID "transfer" [sender, receiver, scI128 hi lo] := by
  constructor
  · intro h
    obtain ⟨sender, hsender, h⟩ := bind_eq_ok.mp h
    obtain ⟨receiver, hreceiver, h⟩ := bind_eq_ok.mp h
    obtain ⟨contractID, hcontract, h⟩ := bind_eq_ok.mp h
    exact ⟨sender, receiver, contractID, orError_eq_ok.mp hsender, orError_eq_ok.mp hreceiver,
      orError_eq_ok.mp hcontract, (Except.ok.inj h).symm⟩
  · rintro ⟨sender, receiver, contractID, hsender, hreceiver, hcontract, rfl⟩
    refine bind_eq_ok.mpr ⟨sender, orError_eq_ok.mpr hsender, ?_⟩
    refine bind_eq_ok.mpr ⟨receiver, orError_eq_ok.mpr hreceiver, ?_⟩
    exact bind_eq_ok.mpr ⟨contractID, orError_eq_ok.mpr hcontract, rfl⟩

theorem reconstruct_counterIncrement {targetContractID : String}
    (h : buildCounterIncrementOperation address targetContractID = .ok op) :
    reconstructOperation address .counterIncrement op.targetContractID op.params = .ok op := by
  have htarget : op.targetContractID = targetContractID := by
    unfold buildCounterIncrementOperation at h
    split at h
    · cases h
    obtain ⟨contractID, -, h⟩ := bind_eq_ok.mp h
    obtain ⟨account, -, h⟩ := bind_eq_ok.mp h
    rw [← Except.ok.inj h]
  rw [reconstructOperation, htarget]
  exact h

theorem reconstruct_sacTransfer {recipient : String} {asset : CatalogAsset} {fn : HostFunction}
    (hamount : parseAmountToI128 amount asset.decimals = some (hi, lo))
    (hfn : transferFunction "asset" address recipient asset.contractID hi lo = .ok fn)
    (params : Encoded SacTransferOperationParams)
    (hparams : params = .of ⟨asset.contractID, recipient, formatI128Raw hi lo, asset.assetID,
      asset.symbol, amount⟩) :
    reconstructOperation address .sacTransfer asset.contractID params =
      .ok ⟨fn, asset.contractID, params⟩ := by
  subst hparams
  have htoken : transferFunction "token" address recipient asset.contractID hi lo = .ok fn :=
    transferFunction_eq_ok.mpr (transferFunction_eq_ok.mp hfn)
  refine bind_eq_ok.mpr ⟨_, rfl, ?_⟩
  refine bind_eq_ok.mpr ⟨(hi, lo), orError_eq_ok.mpr (parse_formatI128Raw hamount), ?_⟩
  exact bind_eq_ok.mpr ⟨fn, htoken, rfl⟩

end Calls

end LatchApi.Multisig
