import LatchApi.Lib.Heap
import LatchApi.Bundler.CheckAuthOnly
import LatchApi.Multisig.ExecuteAuth

/-!
The entries of an execution as they lie in memory. An entry is copied by value but holds its
credentials by reference, so what is written through a copy could show up in the entry it was
copied from.
-/

namespace LatchApi.Multisig

open Lib Soroban Bundler List Option

inductive CredentialsRef where
  | sourceAccount
  | address (p : Nat)

structure EntryRef where
  credentials : CredentialsRef
  rootInvocation : SorobanAuthorizedInvocation

abbrev Memory := Heap SorobanAddressCredentials

def EntryRef.load (m : Memory) (e : EntryRef) : Option SorobanAuthorizationEntry :=
  match e.credentials with
  | .sourceAccount => some ⟨.sourceAccount, e.rootInvocation⟩
  | .address p => (m.read p).map fun creds => ⟨.address creds, e.rootInvocation⟩

def loadAll (m : Memory) (refs : List EntryRef) : Option AuthEntries :=
  refs.mapM (EntryRef.load m)

def storeEntry (m : Memory) (e : SorobanAuthorizationEntry) : EntryRef × Memory :=
  match e.credentials with
  | .sourceAccount => (⟨.sourceAccount, e.rootInvocation⟩, m)
  | .address creds => (⟨.address (m.alloc creds).1, e.rootInvocation⟩, (m.alloc creds).2)

def copyWithSignature (m : Memory) (creds : SorobanAddressCredentials) (signature : ScVal) :
    Nat × Memory :=
  ((m.alloc creds).1, (m.alloc creds).2.modify (m.alloc creds).1 fun c =>
    { c with signature := signature })

def entryRefAt (refs : List EntryRef) (index : Int) : Option (Nat × EntryRef) :=
  if 0 ≤ index then refs[index.toNat]?.map fun e => (index.toNat, e) else none

def appendKept (m : Memory) (idx : Nat) : Nat → List EntryRef → List EntryRef
  | _, [] => []
  | i, e :: es =>
    if i = idx ∨ (e.load m).any isUnsignedAddressAuthEntry then appendKept m idx (i + 1) es
    else e :: appendKept m idx (i + 1) es

def appendSigned (X : Codec) : List MultisigApproval → Memory →
    Except ExecuteAuthError (List EntryRef × Memory)
  | [], m => .ok ([], m)
  | a :: as, m => do
    let signed ← signedDelegatedEntryFromApproval X a
    let (refs, m') ← appendSigned X as (storeEntry m signed).2
    return ((storeEntry m signed).1 :: refs, m')

def buildMultisigExecuteAuthEntryRefs (cfg : TxConfig) (X : Codec) (refs : List EntryRef)
    (index : Int) (contextRuleID : UInt32) (picked : PickedApprovals) (m : Memory) :
    Except ExecuteAuthError (List EntryRef × Memory) := do
  let some (idx, ref) := entryRefAt refs index | .error .smartAccountEntryIndex
  let some entry := ref.load m | .error .notAddressCredentials
  let ids := contextRuleIDsForEntry entry contextRuleID
  let liveDigest ← orNotAddress (computeAuthDigestHex entry cfg.networkPassphrase ids)
  picked.delegated.forM (checkTemplate liveDigest)
  let payload ← (buildMultisigAuthPayload ids (picked.webauthn.map (webauthnInput cfg))
    (picked.delegated.map MultisigApproval.memberGAddress)).mapError .payload
  match entry.addressCredentials with
  | none => .error .notAddressCredentials
  | some creds =>
    let (p, m) := copyWithSignature m creds payload
    let kept := appendKept m idx 0 refs
    let (signed, m) ← appendSigned X picked.delegated m
    return ({ ref with credentials := .address p } :: kept ++ signed, m)

variable {entries : AuthEntries}

section Memory

variable {m m' : Memory} {e : EntryRef} {refs : List EntryRef} {entry : SorobanAuthorizationEntry}

theorem load_of_keeps (hm : m.Keeps m') (h : e.load m = some entry) : e.load m' = some entry := by
  obtain ⟨credentials, invocation⟩ := e
  cases credentials with
  | sourceAccount => exact h
  | address p =>
    obtain ⟨creds, hcreds, hentry⟩ := map_eq_some_iff.mp h
    exact map_eq_some_iff.mpr ⟨creds, hm p creds hcreds, hentry⟩

theorem rootInvocation_of_load (h : e.load m = some entry) :
    e.rootInvocation = entry.rootInvocation := by
  obtain ⟨credentials, invocation⟩ := e
  cases credentials with
  | sourceAccount =>
    cases h
    rfl
  | address p =>
    obtain ⟨creds, -, rfl⟩ := map_eq_some_iff.mp h
    rfl

theorem loadAll_nil : loadAll m [] = some [] := rfl

theorem loadAll_cons : loadAll m (e :: refs) = some (entry :: entries) ↔
    e.load m = some entry ∧ loadAll m refs = some entries := by
  simp only [loadAll, List.mapM_cons, Option.bind_eq_bind, Option.bind_eq_some_iff, Option.pure_def,
    some.injEq, cons.injEq]
  constructor
  · rintro ⟨a, ha, as, has, rfl, rfl⟩
    exact ⟨ha, has⟩
  · rintro ⟨ha, has⟩
    exact ⟨entry, ha, entries, has, rfl, rfl⟩

theorem exists_of_loadAll_cons (h : loadAll m (e :: refs) = some entries) :
    ∃ entry rest, entries = entry :: rest ∧ e.load m = some entry ∧ loadAll m refs = some rest := by
  simp only [loadAll, List.mapM_cons, Option.bind_eq_bind, Option.bind_eq_some_iff, Option.pure_def,
    some.injEq] at h
  obtain ⟨entry, hentry, rest, hrest, rfl⟩ := h
  exact ⟨entry, rest, rfl, hentry, hrest⟩

theorem loadAll_of_keeps (hm : m.Keeps m') (h : loadAll m refs = some entries) :
    loadAll m' refs = some entries := by
  induction refs generalizing entries with
  | nil => exact h
  | cons e refs ih =>
    obtain ⟨entry, rest, rfl, hentry, hrest⟩ := exists_of_loadAll_cons h
    exact loadAll_cons.mpr ⟨load_of_keeps hm hentry, ih hrest⟩

theorem loadAll_append {refs' : List EntryRef} {entries' : AuthEntries}
    (h : loadAll m refs = some entries) (h' : loadAll m refs' = some entries') :
    loadAll m (refs ++ refs') = some (entries ++ entries') := by
  induction refs generalizing entries with
  | nil =>
    cases h
    exact h'
  | cons e refs ih =>
    obtain ⟨entry, rest, rfl, hentry, hrest⟩ := exists_of_loadAll_cons h
    exact loadAll_cons.mpr ⟨hentry, ih hrest⟩

theorem length_of_loadAll (h : loadAll m refs = some entries) : entries.length = refs.length := by
  induction refs generalizing entries with
  | nil =>
    cases h
    rfl
  | cons e refs ih =>
    obtain ⟨entry, rest, rfl, -, hrest⟩ := exists_of_loadAll_cons h
    rw [length_cons, length_cons, ih hrest]

theorem load_of_getElem? (h : loadAll m refs = some entries) {i : Nat} (he : refs[i]? = some e) :
    ∃ entry, e.load m = some entry ∧ entries[i]? = some entry := by
  induction refs generalizing entries i with
  | nil => cases he
  | cons r refs ih =>
    obtain ⟨entry, rest, rfl, hentry, hrest⟩ := exists_of_loadAll_cons h
    cases i with
    | zero =>
      cases he
      exact ⟨entry, hentry, rfl⟩
    | succ i => exact ih hrest he

theorem storeEntry_spec (m : Memory) (entry : SorobanAuthorizationEntry) :
    m.Keeps (storeEntry m entry).2 ∧
      (storeEntry m entry).1.load (storeEntry m entry).2 = some entry := by
  obtain ⟨credentials, invocation⟩ := entry
  cases credentials with
  | sourceAccount => exact ⟨.refl m, rfl⟩
  | address creds =>
    refine ⟨m.keeps_alloc creds, ?_⟩
    exact map_eq_some_iff.mpr ⟨creds, m.read_alloc creds, rfl⟩

def isKept (idx : Nat) (x : SorobanAuthorizationEntry × Nat) : Bool :=
  decide (x.2 ≠ idx) && !isUnsignedAddressAuthEntry x.1

theorem isKept_eq_false {idx i : Nat} :
    isKept idx (entry, i) = false ↔ i = idx ∨ isUnsignedAddressAuthEntry entry = true := by
  rw [isKept, Bool.and_eq_false_iff, decide_eq_false_iff_not, not_not, Bool.not_eq_false']

theorem loadAll_appendKept (h : loadAll m refs = some entries) (idx i : Nat) :
    loadAll m (appendKept m idx i refs) =
      some (((entries.zipIdx i).filter (isKept idx)).map Prod.fst) := by
  induction refs generalizing entries i with
  | nil =>
    cases h
    rfl
  | cons e refs ih =>
    obtain ⟨entry, rest, rfl, hentry, hrest⟩ := exists_of_loadAll_cons h
    rw [appendKept, zipIdx_cons, hentry, any_some]
    by_cases hskip : i = idx ∨ isUnsignedAddressAuthEntry entry = true
    · rw [if_pos hskip, filter_cons_of_neg (by rw [isKept_eq_false.mpr hskip]; decide)]
      exact ih hrest (i + 1)
    have hkept : isKept idx (entry, i) = true :=
      Bool.eq_true_of_not_eq_false fun h => hskip (isKept_eq_false.mp h)
    rw [if_neg hskip, filter_cons_of_pos hkept, map_cons]
    exact loadAll_cons.mpr ⟨hentry, ih hrest (i + 1)⟩

theorem filter_isKept_of_lt {idx i : Nat} (h : idx < i) (entries : AuthEntries) :
    ((entries.zipIdx i).filter (isKept idx)).map Prod.fst =
      entries.filter fun e => !isUnsignedAddressAuthEntry e := by
  induction entries generalizing i with
  | nil => rfl
  | cons e es ih =>
    have hkept : isKept idx (e, i) = !isUnsignedAddressAuthEntry e := by
      simp [isKept, Nat.ne_of_gt h]
    rw [zipIdx_cons, filter_cons, filter_cons, hkept]
    split
    · rw [map_cons, ih (Nat.lt_succ_of_lt h)]
    · exact ih (Nat.lt_succ_of_lt h)

theorem keptEntries_eq (entries : AuthEntries) (idx i : Nat) :
    keptEntries entries idx = ((entries.zipIdx i).filter (isKept (i + idx))).map Prod.fst := by
  induction entries generalizing idx i with
  | nil => rfl
  | cons e es ih =>
    rw [zipIdx_cons]
    cases idx with
    | zero =>
      rw [filter_cons_of_neg (by simp [isKept]), Nat.add_zero,
        filter_isKept_of_lt (Nat.lt_succ_self i)]
      rfl
    | succ idx =>
      have hkept : isKept (i + (idx + 1)) (e, i) = !isUnsignedAddressAuthEntry e := by
        simp [isKept]
      have hrest := ih idx (i + 1)
      rw [show i + 1 + idx = i + (idx + 1) by omega] at hrest
      rw [keptEntries, eraseIdx_cons_succ, filter_cons, filter_cons, hkept]
      rw [keptEntries] at hrest
      split
      · rw [map_cons, ← hrest]
      · exact hrest

end Memory

section Refinement

variable {m : Memory} {refs : List EntryRef} {α : Type}
  {value : Except ExecuteAuthError AuthEntries}

/-- The references stand for the entries, and nothing that was in memory has changed; or both
fail alike. -/
def Represents (m : Memory) (out : Except ExecuteAuthError (List EntryRef × Memory))
    (value : Except ExecuteAuthError AuthEntries) : Prop :=
  match out, value with
  | .ok (refs, m'), .ok entries => m.Keeps m' ∧ loadAll m' refs = some entries
  | .error e, .error e' => e = e'
  | _, _ => False

theorem represents_error (e : ExecuteAuthError) : Represents m (.error e) (.error e) := rfl

theorem Represents.bind {x : Except ExecuteAuthError α}
    {f : α → Except ExecuteAuthError (List EntryRef × Memory)}
    {g : α → Except ExecuteAuthError AuthEntries} (h : ∀ a, Represents m (f a) (g a)) : Represents m
    (x >>= f) (x >>= g) := by
  cases x with
  | ok a => exact h a
  | error e => exact rfl

theorem Represents.append {m₁ : Memory} {out : Except ExecuteAuthError (List EntryRef × Memory)}
    (h : Represents m₁ out value) (hkeeps : m.Keeps m₁) (hrefs : loadAll m₁ refs = some entries) :
    Represents m (out >>= fun x => .ok (refs ++ x.1, x.2)) (value >>= fun es => .ok (entries ++ es)) := by
  revert h
  cases out <;> cases value
  case error.error => exact id
  case error.ok => exact False.elim
  case ok.error => exact False.elim
  case ok.ok =>
    rintro ⟨hrest, hload⟩
    exact ⟨hkeeps.trans hrest, loadAll_append (loadAll_of_keeps hrest hrefs) hload⟩

theorem represents_appendSigned (X : Codec) (approvals : List MultisigApproval) (m : Memory) :
    Represents m (appendSigned X approvals m)
      (approvals.mapM (signedDelegatedEntryFromApproval X)) := by
  induction approvals generalizing m with
  | nil => exact ⟨.refl m, rfl⟩
  | cons a as ih =>
    rw [mapM_cons, appendSigned]
    refine Represents.bind fun e => ?_
    obtain ⟨hkeeps, hload⟩ := storeEntry_spec m e
    have hrest := ih (storeEntry m e).2
    exact hrest.append hkeeps (loadAll_cons.mpr ⟨hload, loadAll_nil⟩)

theorem copyWithSignature_spec (m : Memory) (creds : SorobanAddressCredentials) (signature : ScVal) :
    m.Keeps (copyWithSignature m creds signature).2 ∧
      (copyWithSignature m creds signature).2.read (copyWithSignature m creds signature).1 =
        some { creds with signature := signature } :=
  ⟨m.keeps_modify_alloc creds _, m.read_modify_alloc creds _⟩

theorem loadAll_of_entryRefAt (hload : loadAll m refs = some entries) (index : Int) :
    (entryRefAt refs index = none ∧ smartAccountEntryAt entries index = none) ∨
      ∃ idx ref entry, entryRefAt refs index = some (idx, ref) ∧ ref.load m = some entry ∧
        smartAccountEntryAt entries index = some (idx, entry) := by
  unfold entryRefAt smartAccountEntryAt
  by_cases hindex : 0 ≤ index
  · rw [if_pos hindex, if_pos hindex]
    cases hr : refs[index.toNat]? with
    | none =>
      have hlen := length_of_loadAll hload
      have hnone : entries[index.toNat]? = none := by
        rw [getElem?_eq_none_iff] at hr ⊢
        omega
      rw [hnone]
      exact .inl ⟨rfl, rfl⟩
    | some ref =>
      obtain ⟨entry, hentry, hat⟩ := load_of_getElem? hload hr
      rw [hat]
      exact .inr ⟨index.toNat, ref, entry, rfl, hentry, rfl⟩
  · rw [if_neg hindex, if_neg hindex]
    exact .inl ⟨rfl, rfl⟩

theorem represents_build (cfg : TxConfig) (X : Codec) (hload : loadAll m refs = some entries)
    (index : Int) (contextRuleID : UInt32) (picked : PickedApprovals) :
    Represents m (buildMultisigExecuteAuthEntryRefs cfg X refs index contextRuleID picked m)
      (buildMultisigExecuteAuthEntries cfg X entries index contextRuleID picked) := by
  unfold buildMultisigExecuteAuthEntryRefs buildMultisigExecuteAuthEntries
  rcases loadAll_of_entryRefAt hload index with ⟨href, hentry⟩ | ⟨idx, ref, entry, href, hentry, hat⟩
  · rw [href, hentry]
    exact represents_error _
  rw [href, hat]
  simp only [hentry]
  refine Represents.bind fun liveDigest => Represents.bind fun _ => Represents.bind fun payload => ?_
  obtain ⟨credentials, invocation⟩ := entry
  cases credentials with
  | sourceAccount => exact represents_error _
  | address creds =>
    obtain ⟨hkeeps, hread⟩ := copyWithSignature_spec m creds payload
    have hsigned := represents_appendSigned X picked.delegated (copyWithSignature m creds payload).2
    have hkept := loadAll_appendKept (loadAll_of_keeps hkeeps hload) idx 0
    rw [← Nat.zero_add idx, ← keptEntries_eq, Nat.zero_add] at hkept
    have hfirst : EntryRef.load (copyWithSignature m creds payload).2
        { ref with credentials := .address (copyWithSignature m creds payload).1 } =
          some ((⟨.address creds, invocation⟩ : SorobanAuthorizationEntry).withSignature payload) := by
      rw [rootInvocation_of_load hentry]
      exact map_eq_some_iff.mpr ⟨_, hread, rfl⟩
    exact hsigned.append hkeeps (loadAll_cons.mpr ⟨hfirst, hkept⟩)

theorem Represents.of_ok {refs' : List EntryRef} {m' : Memory}
    (h : Represents m (.ok (refs', m')) value) :
    ∃ final, value = .ok final ∧ m.Keeps m' ∧ loadAll m' refs' = some final := by
  cases value with
  | error e => exact h.elim
  | ok final => exact ⟨final, rfl, h⟩

/-- What an execution submits: the smart account's entry with another signature, the other entries
that are no placeholders, and the members' entries. What was in memory before stays as it was. -/
theorem execution_entries_assembled (cfg : TxConfig) (X : Codec) (m : Memory) (refs : List EntryRef)
    (index : Int) (contextRuleID : UInt32) (picked : PickedApprovals)
    {entries : AuthEntries} (hload : loadAll m refs = some entries)
    {refs' : List EntryRef} {m' : Memory}
    (hbuild : buildMultisigExecuteAuthEntryRefs cfg X refs index contextRuleID picked m =
      .ok (refs', m')) :
    m.Keeps m' ∧ loadAll m' refs = some entries ∧
      ∃ (idx : Nat) (entry : SorobanAuthorizationEntry) (signature : ScVal)
          (signed : AuthEntries),
        (idx : Int) = index ∧ entries[idx]? = some entry ∧
        loadAll m' refs' = some (entry.withSignature signature ::
          ((entries.zipIdx.filter (isKept idx)).map Prod.fst ++ signed)) ∧
        (∃ liveDigest, computeAuthDigestHex entry cfg.networkPassphrase
            (contextRuleIDsForEntry entry contextRuleID) = some liveDigest ∧
          computeAuthDigestHex (entry.withSignature signature) cfg.networkPassphrase
            (contextRuleIDsForEntry (entry.withSignature signature) contextRuleID) =
              some liveDigest) ∧
        List.Forall₂ (fun a e => signedDelegatedEntryFromApproval X a = .ok e) picked.delegated
          signed := by
  have hrepresents := represents_build cfg X hload index contextRuleID picked
  rw [hbuild] at hrepresents
  obtain ⟨final, hvalue, hkeeps, hloaded⟩ := hrepresents.of_ok
  obtain ⟨a⟩ := assembled_of_build hvalue
  refine ⟨hkeeps, loadAll_of_keeps hkeeps hload, a.idx, a.entry,
    authPayload (contextRuleIDsForEntry a.entry contextRuleID) a.signers, a.signed, a.index_eq,
    a.entry_at, ?_, ⟨a.liveDigest, a.digest_eq, ?_⟩, a.signed_by⟩
  · have hfinal := a.final_eq
    rw [keptEntries_eq entries a.idx 0, Nat.zero_add] at hfinal
    exact hloaded.trans (congrArg some hfinal)
  · rw [computeAuthDigestHex_withSignature]
    exact a.digest_eq

end Refinement

namespace Sample

open Bundler.Sample

def cells : Memory :=
  ⟨[⟨.contract (key 2), 6, 1000, .void⟩, ⟨.account (key 1), 7, 1000, .void⟩]⟩

def unsignedSource : SorobanAuthorizationEntry := ⟨.sourceAccount, ⟨.contractFn payout, []⟩⟩

def threeRefs : List EntryRef :=
  [⟨.address 0, ⟨.contractFn payout, []⟩⟩, ⟨.address 1, ⟨.contractFn payout, []⟩⟩,
    ⟨.sourceAccount, ⟨.contractFn payout, []⟩⟩]

def liveDigest : Bytes := (computeAuthDigest walletEntry "network" [0]).getD []

def memberApproval : MultisigApproval where
  memberID := 1
  memberKeyDataHex := ""
  memberGAddress := accountText (key 5)
  webauthnSigDataXdrHex := ""
  delegatedEntryTemplateXdr :=
    .of (checkAuthEntry (.contract (key 2)) (.account (key 5)) liveDigest 9 1000)
  delegatedSignedAuthEntryBase64 := .of (List.replicate 64 7)
  delegatedSignerAddress := accountText (key 5)
  tag := ""

theorem liveDigest_eq : computeAuthDigest walletEntry "network" [0] = some liveDigest := by
  unfold liveDigest
  cases h : computeAuthDigest walletEntry "network" [0] with
  | none => cases h
  | some digest => rfl

theorem memberApproval_current : checkTemplate (hexEncode liveDigest) memberApproval = .ok () := by
  have harg : delegatedCheckAuthArgHex (checkAuthEntry (.contract (key 2)) (.account (key 5))
      liveDigest 9 1000) = some (hexEncode liveDigest) := rfl
  simp only [checkTemplate, memberApproval, Encoded.decode, harg, if_true]

theorem three_refs_built : ∃ out, buildMultisigExecuteAuthEntryRefs config noCodec threeRefs 0 0
    ⟨[], [memberApproval]⟩ cells = .ok out := by
  have hdigest : orNotAddress (computeAuthDigestHex walletEntry config.networkPassphrase
      (contextRuleIDsForEntry walletEntry 0)) = .ok (hexEncode liveDigest) := by
    rw [computeAuthDigestHex, show computeAuthDigest walletEntry config.networkPassphrase
      (contextRuleIDsForEntry walletEntry 0) = some liveDigest from liveDigest_eq]
    rfl
  have hpayload : (buildMultisigAuthPayload [0] [] [accountText (key 5)]).toOption.isSome = true := by
    decide +kernel
  have hsigned : (signedDelegatedEntryFromApproval noCodec memberApproval).toOption.isSome = true := by
    decide +kernel
  cases hp : buildMultisigAuthPayload [0] [] [accountText (key 5)] with
  | error e => simp [hp, Except.toOption] at hpayload
  | ok payload =>
    cases hs : signedDelegatedEntryFromApproval noCodec memberApproval with
    | error e => simp [hs, Except.toOption] at hsigned
    | ok signed =>
      have hat : entryRefAt threeRefs 0 = some (0, ⟨.address 0, ⟨.contractFn payout, []⟩⟩) := rfl
      have hload : EntryRef.load cells ⟨.address 0, ⟨.contractFn payout, []⟩⟩ = some walletEntry := rfl
      have hpayload' : Except.mapError ExecuteAuthError.payload (buildMultisigAuthPayload
          (contextRuleIDsForEntry walletEntry 0) [] [accountText (key 5)]) = .ok payload :=
        mapError_eq_ok.mpr hp
      have htemplates : [memberApproval].forM (checkTemplate (hexEncode liveDigest)) = .ok () :=
        forM_eq_ok.mpr (by simpa using memberApproval_current)
      unfold buildMultisigExecuteAuthEntryRefs
      rw [hat]
      simp only [hload]
      exact ⟨_, bind_eq_ok.mpr ⟨_, hdigest, bind_eq_ok.mpr ⟨(), htemplates, bind_eq_ok.mpr
        ⟨payload, hpayload', bind_eq_ok.mpr ⟨_, bind_eq_ok.mpr ⟨signed, hs, rfl⟩, rfl⟩⟩⟩⟩⟩

theorem three_refs_assembled : ∃ refs' m',
    buildMultisigExecuteAuthEntryRefs config noCodec threeRefs 0 0 ⟨[], [memberApproval]⟩ cells =
      .ok (refs', m') ∧ cells.Keeps m' ∧
      loadAll m' threeRefs = some [walletEntry, payoutEntry, unsignedSource] ∧
      ∃ signature signed, loadAll m' refs' =
        some (walletEntry.withSignature signature :: unsignedSource :: signed) := by
  have hload : loadAll cells threeRefs = some [walletEntry, payoutEntry, unsignedSource] := rfl
  obtain ⟨⟨refs', m'⟩, hbuild⟩ := three_refs_built
  obtain ⟨hkeeps, hsame, idx, entry, signature, signed, hidx, hentry, hloaded, -, -⟩ :=
    execution_entries_assembled config noCodec cells threeRefs 0 0 ⟨[], [memberApproval]⟩ hload hbuild
  obtain rfl : idx = 0 := Int.ofNat_eq_zero.mp hidx
  obtain rfl : walletEntry = entry := some.inj hentry
  exact ⟨refs', m', hbuild, hkeeps, hsame, signature, signed, hloaded⟩

end Sample

end LatchApi.Multisig
