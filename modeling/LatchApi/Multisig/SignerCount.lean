import LatchApi.Lib.KeyedRows
import LatchApi.Multisig.Registration

namespace LatchApi.Multisig

open Lib Program Store Bundler List

inductive SignerIdentity where
  | credential (id : String)
  | keyData (hex : String)
  | account (g : String)
deriving DecidableEq

structure Signer where
  memberType : MemberType
  keyDataHex : Option String
  credentialID : Option String
  gAddress : Option String

def Signer.identity (s : Signer) : Option SignerIdentity :=
  if s.memberType = .delegated then s.gAddress.map .account
  else (s.credentialID.map .credential).or (s.keyDataHex.map .keyData)

def MemberRow.signer (r : MemberRow) : Signer :=
  ⟨r.memberType, r.keyDataHex, r.credentialID, r.gAddress⟩

def RegisterMemberInput.signer (m : RegisterMemberInput) : Signer :=
  ⟨m.type, nullStr m.keyDataHex, nullStr m.credentialID, nullStr m.gAddress⟩

def signers : Upserting Signer Signer where
  names m c :=
    if m.memberType = .delegated then m.gAddress.isSome && c.gAddress == m.gAddress
    else m.credentialID.isSome && c.credentialID == m.credentialID
  set m c :=
    { c with
      memberType := m.memberType
      keyDataHex := if m.memberType = .delegated then c.keyDataHex else m.keyDataHex }
  new m := m
  names_set _ _ _ := rfl

def Signer.under (c : Signer) (ms : List Signer) : Signer :=
  { c with memberType := (ms.getLast?.map Signer.memberType).getD c.memberType }

def signersIn (accountID : Uuid) (rows : List MemberRow) : List Signer :=
  (rows.filter fun r => decide (r.multisigAccountID = accountID)).map MemberRow.signer

def Db.signersOf (db : Db) (accountID : Uuid) : List Signer := signersIn accountID db.members.rows

def Db.HasSigners (db : Db) (accountID : Uuid) (n : Int) : Prop :=
  ∃ rows : List MemberRow,
    (∀ r ∈ rows, (r ∈ db.members.rows ∧ r.multisigAccountID = accountID) ∧ r.signer.identity.isSome) ∧
      rows.Pairwise (fun r r' => r.signer.identity ≠ r'.signer.identity) ∧ n ≤ rows.length

/-- The different signers of what is stored and submitted. The submitted members go by the row
they name, that of a stored member or of the first of them, and count once for each row. -/
def RegisterAccountInput.signersWith (input : RegisterAccountInput) (stored : List Signer) :
    Finset SignerIdentity :=
  ((signers.groups stored (input.members.map RegisterMemberInput.signer)).filterMap fun g =>
    (g.1.under g.2).identity).toFinset

section Groups

variable {c : Signer} {ms : List Signer}

theorem sets_keys (c : Signer) (ms : List Signer) :
    (signers.sets c ms).credentialID = c.credentialID ∧
      (signers.sets c ms).gAddress = c.gAddress := by
  induction ms using reverseRecOn with
  | nil => exact ⟨rfl, rfl⟩
  | append_singleton ms m ih =>
    rw [Upserting.sets, foldl_concat]
    exact ih

theorem memberType_sets (c : Signer) (ms : List Signer) :
    (signers.sets c ms).memberType = (c.under ms).memberType := by
  induction ms using reverseRecOn with
  | nil => rfl
  | append_singleton ms m ih =>
    rw [Upserting.sets, foldl_concat, Signer.under, getLast?_concat]
    rfl

theorem keyDataHex_sets (hnames : ∀ m ∈ ms, signers.names m c = true)
    (hnone : c.credentialID = none) : (signers.sets c ms).keyDataHex = c.keyDataHex := by
  induction ms using reverseRecOn with
  | nil => rfl
  | append_singleton ms m ih =>
    have hdelegated : m.memberType = .delegated := by
      by_contra hne
      have h := hnames m (mem_append_right _ mem_cons_self)
      simp only [signers, if_neg hne, hnone, Bool.and_eq_true, beq_iff_eq] at h
      rw [← h.2] at h
      cases h.1
    rw [Upserting.sets, foldl_concat]
    change (if m.memberType = .delegated then (signers.sets c ms).keyDataHex else _) = _
    rw [if_pos hdelegated]
    exact ih fun m' hm' => hnames m' (mem_append_left _ hm')

theorem identity_sets (hnames : ∀ m ∈ ms, signers.names m c = true) :
    (signers.sets c ms).identity = (c.under ms).identity := by
  obtain ⟨hcredential, hg⟩ := sets_keys c ms
  rw [Signer.identity, Signer.identity, memberType_sets, hcredential, hg]
  cases hc : c.credentialID with
  | none =>
    rw [keyDataHex_sets hnames hc]
    simp only [Signer.under, hc]
  | some id =>
    simp only [Signer.under, hc]
    rfl

end Groups

section Upserts

variable {db db' : Db} {row r : MemberRow} {rows l : List MemberRow} {id a : Uuid} {ids : List Uuid}

theorem conflicts_eq_names (ha : row.multisigAccountID = a)
    (hr : r.multisigAccountID = a) : row.conflicts r = signers.names row.signer r.signer := by
  rw [MemberRow.conflicts, hr, ha, decide_eq_true rfl, Bool.true_and]
  rfl

theorem not_conflicts (ha : row.multisigAccountID = a)
    (hr : r.multisigAccountID ≠ a) : row.conflicts r = false := by
  rw [MemberRow.conflicts, ha, decide_eq_false hr, Bool.false_and]

theorem signersIn_cons (a : Uuid) (r : MemberRow) (l : List MemberRow) : signersIn a (r :: l) =
    if r.multisigAccountID = a then r.signer :: signersIn a l else signersIn a l := by
  by_cases h : r.multisigAccountID = a <;> simp [signersIn, h]

theorem upsert_signersIn_cons (ha : row.multisigAccountID = a) (hr : row.conflicts r = false)
    (l : List MemberRow) :
    signers.upsert row.signer (signersIn a (r :: l)) =
      if r.multisigAccountID = a then r.signer :: signers.upsert row.signer (signersIn a l)
      else signers.upsert row.signer (signersIn a l) := by
  rw [signersIn_cons]
  by_cases hacct : r.multisigAccountID = a
  · rw [conflicts_eq_names ha hacct] at hr
    rw [if_pos hacct, if_pos hacct, Upserting.upsert, hr]
    rfl
  · rw [if_neg hacct, if_neg hacct]

theorem upsert_of_conflict (ha : row.multisigAccountID = a) (hids : (l.map MemberRow.id).Nodup)
    (hfind : l.find? row.conflicts = some r) :
    signersIn a (l.map fun x => if decide (x.id = r.id) then setMember row x else x) =
      signers.upsert row.signer (signersIn a l) := by
  induction l with
  | nil => cases hfind
  | cons x l ih =>
    obtain ⟨hx, hids⟩ := nodup_cons.mp hids
    rw [find?_cons] at hfind
    cases hconflicts : row.conflicts x with
    | true =>
      rw [hconflicts] at hfind
      obtain rfl := Option.some.inj hfind
      have hacct : x.multisigAccountID = a := by
        by_contra hne
        rw [not_conflicts ha hne] at hconflicts
        cases hconflicts
      have hrest : (l.map fun y => if decide (y.id = x.id) then setMember row y else y) = l := by
        refine (map_congr_left fun y hy => ?_).trans (map_id l)
        refine if_neg fun h => hx ?_
        have hid : y.id = x.id := of_decide_eq_true h
        exact hid ▸ mem_map_of_mem hy
      have hself : decide (x.id = x.id) = true := decide_eq_true rfl
      rw [map_cons, hrest, if_pos hself, signersIn_cons, signersIn_cons, if_pos hacct,
        if_pos (show (setMember row x).multisigAccountID = a from hacct),
        Upserting.upsert, if_pos (conflicts_eq_names ha hacct ▸ hconflicts)]
      rfl
    | false =>
      rw [hconflicts] at hfind
      have hne : decide (x.id = r.id) = false := decide_eq_false fun h =>
        hx (h ▸ mem_map_of_mem (mem_of_find?_eq_some hfind))
      rw [map_cons, hne, upsert_signersIn_cons ha hconflicts, ← ih hids hfind]
      exact signersIn_cons a x _

theorem upsert_of_no_conflict (ha : row.multisigAccountID = a)
    (hfind : l.find? row.conflicts = none) :
    signersIn a (l ++ [row]) = signers.upsert row.signer (signersIn a l) := by
  induction l with
  | nil =>
    rw [nil_append, signersIn_cons, if_pos ha]
    rfl
  | cons x l ih =>
    rw [find?_cons] at hfind
    cases hconflicts : row.conflicts x with
    | true =>
      rw [hconflicts] at hfind
      cases hfind
    | false =>
      rw [hconflicts] at hfind
      rw [cons_append, signersIn_cons, upsert_signersIn_cons ha hconflicts, ih hfind]

theorem signersOf_upsertMember (h : db.upsertMember row = some (db', id))
    (ha : row.multisigAccountID = a) :
    db'.signersOf a = signers.upsert row.signer (db.signersOf a) := by
  rcases upsertMember_cases h with ⟨r, hfind, rfl⟩ | ⟨hfind, t, ht, rfl⟩
  · exact upsert_of_conflict ha db.members.pk_nodup hfind
  · rw [Db.signersOf, Table.rows_insert ht]
    exact upsert_of_no_conflict ha hfind

theorem signersOf_upsertMembers (h : db.upsertMembers rows = some (db', ids))
    (ha : ∀ row ∈ rows, row.multisigAccountID = a) :
    db'.signersOf a = signers.upserts (db.signersOf a) (rows.map MemberRow.signer) := by
  induction rows generalizing db ids with
  | nil =>
    obtain rfl := upsertMembers_nil h
    rfl
  | cons row rows ih =>
    obtain ⟨db₁, id, ids', hrow, hrows⟩ := upsertMembers_cons h
    rw [forall_mem_cons] at ha
    rw [ih hrows ha.2, signersOf_upsertMember hrow ha.1]
    rfl

theorem signersOf_register {account : AccountRow} {members : List MemberRow} {accountID : Uuid}
    (h : db.register account members = some (db', accountID, ids)) :
    db'.signersOf accountID =
      signers.upserts (db.signersOf accountID) (members.map MemberRow.signer) := by
  obtain ⟨accounts, row, ids', -, -, hmembers, hout⟩ := register_cases h
  obtain ⟨rfl, -⟩ := Prod.mk.inj hout
  rw [signersOf_upsertMembers hmembers, map_map]
  · rfl
  intro m hm
  obtain ⟨m, -, rfl⟩ := mem_map.mp hm
  rfl

end Upserts

section Count

theorem identities_groups (stored ms : List Signer) :
    ((signers.groups stored ms).map fun g => signers.sets g.1 g.2).filterMap Signer.identity =
      (signers.groups stored ms).filterMap fun g => (g.1.under g.2).identity := by
  rw [filterMap_map]
  refine filterMap_congr fun g hg => ?_
  exact identity_sets fun m hm => signers.names_of_mem_groups hg hm

theorem hasSigners_iff (db : Db) (accountID : Uuid) (n : Int) : db.HasSigners accountID n ↔
      n ≤ (((db.signersOf accountID).filterMap Signer.identity).toFinset.card : Int) := by
  have hkeys : (db.signersOf accountID).filterMap Signer.identity =
      (db.members.rows.filter fun r => decide (r.multisigAccountID = accountID)).filterMap
        fun r => r.signer.identity := filterMap_map
  rw [hkeys, ← Int.toNat_le, ← exists_distinct_iff]
  simp only [Db.HasSigners, mem_filter, decide_eq_true_eq, Int.toNat_le]

/-- After a registration the account has as many different signers as its threshold asks for,
exactly if that many are named by what was stored and what was submitted, row by row. -/
theorem threshold_reachable_iff {cfg : TxConfig} {own : List String} {s s' : State} {userID : Uuid}
    {input : RegisterAccountInput} {out : RegisteredAccount}
    (h : Runs (execOwning cfg own) (registerAccount userID input) s (.ok out) s') :
    s'.db.HasSigners out.id input.threshold ↔
      input.threshold ≤ ((input.signersWith (s.db.signersOf out.id)).card : Int) := by
  obtain ⟨-, id, createdAt, t, ids, hlen, hregister⟩ := registerAccount_ok h
  have hsubmitted : (zipWith (memberRow userID own t) ids input.members).map MemberRow.signer =
      input.members.map RegisterMemberInput.signer := by
    have hmap := congrArg (map MemberRow.signer)
      (@anonymous_zipWith ids userID out.id own t input.members hlen)
    rw [map_map, map_map, map_map] at hmap
    exact hmap
  rw [hasSigners_iff, signersOf_register hregister, hsubmitted, Upserting.upserts_eq_groups,
    identities_groups, RegisterAccountInput.signersWith]

open Bundler.Sample

namespace Sample

def pairOf (credentialID credentialID' : String) : RegisterAccountInput :=
  ⟨"wallet", 2, "00",
    [⟨.webauthn, "04bb", credentialID, "", ""⟩, ⟨.webauthn, "04cc", credentialID', "", ""⟩]⟩

def noAccounts : State := ⟨⟨.empty, .empty, .empty, .empty⟩, .empty⟩

end Sample

theorem Sample.pair_reachable : ∃ out s',
    Runs (execOwning config []) (registerAccount 9 (Sample.pairOf "one" "other")) Sample.noAccounts
        (.ok out) s' ∧ s'.db.HasSigners out.id 2 := by
  obtain ⟨out, s', hrun, -⟩ := exists_runs_of_play (execOwning config [])
    (registerAccount 9 (Sample.pairOf "one" "other")) Sample.noAccounts Sample.registeringChoices
    (fun _ => true) (by decide +kernel)
  have hcount : (2 : Int) ≤ ((Sample.pairOf "one" "other").signersWith []).card := by decide +kernel
  exact ⟨out, s', hrun, (threshold_reachable_iff hrun).mpr hcount⟩

theorem Sample.repeated_credential_unreachable : ∃ out s',
    Runs (execOwning config []) (registerAccount 9 (Sample.pairOf "same" "same")) Sample.noAccounts
        (.ok out) s' ∧ ¬ s'.db.HasSigners out.id 2 := by
  obtain ⟨out, s', hrun, hfew⟩ := exists_runs_of_play (execOwning config [])
    (registerAccount 9 (Sample.pairOf "same" "same")) Sample.noAccounts Sample.registeringChoices
    (fun s => decide (s.db.members.rows.length ≤ 1)) (by decide +kernel)
  refine ⟨out, s', hrun, fun hsigners => ?_⟩
  have hcard := (hasSigners_iff s'.db out.id 2).mp hsigners
  have hdistinct := toFinset_card_le ((s'.db.signersOf out.id).filterMap Signer.identity)
  have hidentities := length_filterMap_le Signer.identity (s'.db.signersOf out.id)
  have hrows : (s'.db.signersOf out.id).length ≤ s'.db.members.rows.length := by
    rw [Db.signersOf, signersIn, length_map]
    exact length_filter_le ..
  have hone := of_decide_eq_true hfew
  omega

end Count

end LatchApi.Multisig
