import LatchApi.Multisig.UnderWay
import Mathlib.Data.List.Induction

namespace LatchApi.Multisig

open Lib Program Store Bundler List

variable {db : Db} {r : MemberRow}

section Upserts

variable {db' : Db} {row : MemberRow} {rows : List MemberRow} {id u : Uuid} {ids : List Uuid}

def Db.FallsOn (db : Db) (row r : MemberRow) : Prop := db.members.find row.conflicts = some r

instance : DecidableRel (Db.FallsOn db) := fun row r =>
  inferInstanceAs (Decidable (db.members.find row.conflicts = some r))

def Db.settled (db : Db) (rows : List MemberRow) (r : MemberRow) : MemberRow :=
  rows.foldl (fun x row => if db.FallsOn row r then setMember row x else x) r

theorem find_update (p : MemberRow → Bool) (f : MemberRow → MemberRow)
    (hf : ∀ r, p (f r) = p r) (rows : List MemberRow) :
    (rows.map f).find? p = (rows.find? p).map f := by
  induction rows with
  | nil => rfl
  | cons r rows ih =>
    rw [map_cons, find?_cons, find?_cons, hf]
    cases p r with
    | true => rfl
    | false => exact ih

theorem successor_upsertMember (h : db.upsertMember row = some (db', id))
    (hr : r ∈ db.members.rows) :
    (if db.FallsOn row r then setMember row r else r) ∈ db'.members.rows ∧
      ∀ row', db'.FallsOn row' (if db.FallsOn row r then setMember row r else r) ↔
        db.FallsOn row' r := by
  rcases upsertMember_cases h with ⟨r₀, hfind, rfl⟩ | ⟨hfind, t, ht, rfl⟩
  · obtain ⟨hr₀, -⟩ := Table.mem_of_find hfind
    have hstep : (if db.FallsOn row r then setMember row r else r) =
        if decide (r.id = r₀.id) then setMember row r else r := by
      refine if_congr ?_ rfl rfl
      rw [decide_eq_true_iff]
      constructor
      · intro hfalls
        rw [Option.some.inj (hfind.symm.trans hfalls)]
      · intro hid
        rw [Db.FallsOn, hfind, Table.eq_of_pk_eq hr hr₀ hid]
    rw [hstep]
    refine ⟨mem_map.mpr ⟨r, hr, rfl⟩, fun row' => ?_⟩
    have hkeep : ∀ x : MemberRow, row'.conflicts (if decide (x.id = r₀.id) then setMember row x
        else x) = row'.conflicts x := by
      intro x
      split <;> rfl
    change find? row'.conflicts (db.members.rows.map _) = some _ ↔ _
    rw [find_update _ _ hkeep, Option.map_eq_some_iff]
    constructor
    · rintro ⟨x, hx, heq⟩
      have hid : x.id = r.id := by
        have := congrArg MemberRow.id heq
        split at this <;> split at this <;> exact this
      obtain rfl := Table.eq_of_pk_eq (mem_of_find?_eq_some hx) hr hid
      exact hx
    · intro hfalls
      exact ⟨r, hfalls, rfl⟩
  · have hmiss : ¬ db.FallsOn row r := by
      rw [Db.FallsOn, hfind]
      exact nofun
    rw [if_neg hmiss]
    refine ⟨(Table.mem_insert ht).mpr (.inl hr), fun row' => ?_⟩
    have hne : row ≠ r := fun heq => Table.pk_ne_of_insert ht hr (congrArg MemberRow.id heq.symm)
    change find? row'.conflicts t.rows = some r ↔
      find? row'.conflicts db.members.rows = some r
    rw [Table.rows_insert ht, find?_append]
    cases hold : find? row'.conflicts db.members.rows with
    | some x => exact Iff.rfl
    | none =>
      rw [Option.none_or]
      refine ⟨fun hnew => ?_, fun hnone => by cases hnone⟩
      exact absurd (mem_singleton.mp (mem_of_find?_eq_some hnew)).symm hne

theorem settled_upsertMembers (h : db.upsertMembers rows = some (db', ids))
    (hr : r ∈ db.members.rows) : db.settled rows r ∈ db'.members.rows := by
  induction rows generalizing db ids r with
  | nil =>
    obtain rfl := upsertMembers_nil h
    exact hr
  | cons row rows ih =>
    obtain ⟨db₁, id, ids', hrow, hrows⟩ := upsertMembers_cons h
    obtain ⟨hmem, hfalls⟩ := successor_upsertMember hrow hr
    have hlater := ih hrows hmem
    unfold Db.settled at hlater ⊢
    simp only [hfalls] at hlater
    exact hlater

section

variable (h : db.upsertMember row = some (db', id))

include h

theorem exists_of_mem_upsertMember {m : MemberRow} (hm : m ∈ db'.members.rows) :
    m = row ∨ ∃ r ∈ db.members.rows,
      m.multisigAccountID = r.multisigAccountID ∧
        (m.userID = r.userID ∨ m.userID = row.userID.or r.userID) := by
  rcases upsertMember_cases h with ⟨r₀, -, rfl⟩ | ⟨-, t, ht, rfl⟩
  · rcases Table.mem_updated.mp hm with ⟨hm, -⟩ | ⟨r, hr, -, rfl⟩
    · exact .inr ⟨m, hm, rfl, .inl rfl⟩
    · exact .inr ⟨r, hr, rfl, .inr rfl⟩
  · rcases (Table.mem_insert ht).mp hm with hm | rfl
    · exact .inr ⟨m, hm, rfl, .inl rfl⟩
    · exact .inl rfl

theorem linked_of_upsertMember (hu : row.userID = some u) : db'.Linked row.multisigAccountID u := by
  rcases upsertMember_cases h with ⟨r, hfind, rfl⟩ | ⟨-, t, ht, rfl⟩
  · obtain ⟨hr, hconflict⟩ := Table.mem_of_find hfind
    have haccount : r.multisigAccountID = row.multisigAccountID := by
      rw [MemberRow.conflicts, Bool.and_eq_true, decide_eq_true_iff] at hconflict
      exact hconflict.1
    refine ⟨setMember row r, Table.mem_updated.mpr (.inr ⟨r, hr, decide_eq_true rfl, rfl⟩),
      haccount, ?_⟩
    rw [setMember, hu, Option.some_or]
  · exact ⟨row, (Table.mem_insert ht).mpr (.inr rfl), rfl, hu⟩

theorem linked_upsertMember (hu : row.userID = none ∨ row.userID = some u) :
    db'.Linked row.multisigAccountID u ↔
      db.Linked row.multisigAccountID u ∨ row.userID = some u := by
  constructor
  · rintro ⟨m, hm, haccount, huser⟩
    rcases exists_of_mem_upsertMember h hm with rfl | ⟨r, hr, hsame, hold | hnew⟩
    · exact .inr huser
    · exact .inl ⟨r, hr, hsame.symm.trans haccount, hold.symm.trans huser⟩
    rcases hu with hnone | hsome
    · rw [hnone, Option.none_or] at hnew
      exact .inl ⟨r, hr, hsame.symm.trans haccount, hnew.symm.trans huser⟩
    · exact .inr hsome
  · rintro (⟨r, hr, haccount, huser⟩ | hsome)
    · refine ⟨_, (successor_upsertMember h hr).1, ?_, ?_⟩
      · split <;> exact haccount
      split
      · rcases hu with hnone | hsome
        · rw [setMember, hnone, Option.none_or, huser]
        · rw [setMember, hsome, Option.some_or]
      · exact huser
    · exact linked_of_upsertMember h hsome

end

theorem linked_upsertMembers {a : Uuid} (h : db.upsertMembers rows = some (db', ids))
    (ha : ∀ row ∈ rows, row.multisigAccountID = a)
    (hu : ∀ row ∈ rows, row.userID = none ∨ row.userID = some u) :
    db'.Linked a u ↔ db.Linked a u ∨ ∃ row ∈ rows, row.userID = some u := by
  induction rows generalizing db ids with
  | nil =>
    obtain rfl := upsertMembers_nil h
    simp
  | cons row rows ih =>
    obtain ⟨db₁, id, ids', hrow, hrows⟩ := upsertMembers_cons h
    rw [forall_mem_cons] at ha hu
    have hstep := linked_upsertMember hrow hu.1
    rw [ha.1] at hstep
    rw [ih hrows ha.2 hu.2, hstep, exists_mem_cons_iff, or_assoc]

end Upserts

variable (rows : List MemberRow)

section Settled

theorem settled_eq : db.settled rows r =
    (rows.filter fun row => decide (db.FallsOn row r)).foldl (fun x row => setMember row x) r := by
  rw [Db.settled, foldl_filter]
  simp only [decide_eq_true_eq]

theorem memberType_setMembers : (rows.foldl (fun x row => setMember row x) r).memberType =
      (rows.getLast?.map MemberRow.memberType).getD r.memberType := by
  induction rows using reverseRecOn with
  | nil => rfl
  | append_singleton rows row ih => rw [foldl_concat, getLast?_concat]; rfl

theorem keyDataHex_setMember (row r : MemberRow) : (setMember row r).keyDataHex =
    if row.memberType = .delegated then r.keyDataHex else row.keyDataHex := rfl

theorem keyDataHex_setMembers : (rows.foldl (fun x row => setMember row x) r).keyDataHex =
      ((rows.filter fun row => decide (row.memberType ≠ .delegated)).getLast?.map
        MemberRow.keyDataHex).getD r.keyDataHex := by
  induction rows using reverseRecOn with
  | nil => rfl
  | append_singleton rows row ih =>
    rw [foldl_concat, filter_append]
    by_cases htype : row.memberType = .delegated
    · rw [keyDataHex_setMember, if_pos htype, ih]
      simp [htype]
    · rw [keyDataHex_setMember, if_neg htype]
      simp [htype]

theorem userID_setMembers {rows : List MemberRow} (h : ∀ row ∈ rows, row.userID = none) :
    (rows.foldl (fun x row => setMember row x) r).userID = r.userID := by
  induction rows using reverseRecOn with
  | nil => rfl
  | append_singleton rows row ih =>
    rw [foldl_concat, setMember, h row (by simp), Option.none_or]
    exact ih fun row' hrow' => h row' (mem_append_left _ hrow')

end Settled

section Condition

def RegisterMemberInput.signsAs (m : RegisterMemberInput) (accountID : Uuid) (r : MemberRow) : Bool :=
  decide (r.multisigAccountID = accountID) &&
    if m.type = .delegated then m.gAddress != "" && r.gAddress == some m.gAddress
    else m.credentialID != "" && r.credentialID == some m.credentialID

def RegisterAccountInput.over (input : RegisterAccountInput) (db : Db) (accountID : Uuid)
    (r : MemberRow) : List RegisterMemberInput :=
  input.members.filter fun m => decide (db.members.find (m.signsAs accountID) = some r)

/-- The input repeats what is stored of the account, and none of its members has a
passkey of the caller. -/
structure RegisterAccountInput.Repeats (input : RegisterAccountInput) (db : Db)
    (account : AccountRow) (own : List String) : Prop where
  threshold : input.threshold = account.threshold
  salt : input.accountSaltHex = account.accountSaltHex
  strangers : ∀ m ∈ input.members, m.type = .webauthn → m.credentialID ≠ "" → m.credentialID ∉ own
  types : ∀ r ∈ db.members.rows, r.multisigAccountID = account.id →
    ∀ m, (input.over db account.id r).getLast? = some m → m.type = r.memberType
  keys : ∀ r ∈ db.members.rows, r.multisigAccountID = account.id →
    ∀ m, ((input.over db account.id r).filter fun m => decide (m.type ≠ .delegated)).getLast? = some m →
      nullStr m.keyDataHex = r.keyDataHex

/-- The state after a registration by an outsider shows nothing of it. -/
structure Harmless (cfg : TxConfig) (s s' : State) (account : AccountRow) (userID : Uuid) : Prop where
  columns : ∀ a ∈ s'.db.accounts.rows, a.id = account.id →
    a.threshold = account.threshold ∧ a.accountSaltHex = account.accountSaltHex
  members : ∀ r ∈ s.db.members.rows, r.multisigAccountID = account.id →
    ∃ r' ∈ s'.db.members.rows, r'.id = r.id ∧ r'.memberType = r.memberType ∧
      r'.keyDataHex = r.keyDataHex ∧ r'.userID = r.userID
  access : ∀ a ∈ s'.db.accounts.rows, a.id = account.id →
    ∀ granted s'', Runs (exec cfg) (accountAccessGranted a userID) s' (.ok granted) s'' →
      granted = false

def execOwning (cfg : TxConfig) (own : List String) (op : MsOp) (s : State) (c : Choice) :
    MsRes op × State := exec cfg op s { c with credentialIDs := own }

end Condition

variable {ids : List Uuid}

variable {input : RegisterAccountInput}

section Rows

variable {userID accountID : Uuid} {own : List String} {t : Int} (m : RegisterMemberInput)

def memberRowOf (userID : Uuid) (own : List String) (accountID : Uuid) (m : RegisterMemberInput) :
    MemberRow := { memberRow userID own 0 0 m with multisigAccountID := accountID }

theorem conflicts_memberRowOf :
    (memberRowOf userID own accountID m).conflicts = m.signsAs accountID := by
  have hnull : ∀ text : String, ∀ x : Option String,
      ((nullStr text).isSome && x == nullStr text) = (text != "" && x == some text) := by
    intro text x
    unfold nullStr
    by_cases h : text = "" <;> simp [h]
  funext r
  simp only [MemberRow.conflicts, RegisterMemberInput.signsAs, memberRowOf, memberRow, hnull]
  rfl

def MemberRow.anonymous (row : MemberRow) : MemberRow := { row with id := 0, createdAt := 0 }

theorem anonymous_zipWith {members : List RegisterMemberInput}
    (hlen : ids.length = members.length) :
    (((List.zipWith (memberRow userID own t) ids members).map fun m =>
        { m with multisigAccountID := accountID }).map MemberRow.anonymous) =
      members.map (memberRowOf userID own accountID) := by
  induction ids generalizing members with
  | nil =>
    obtain rfl := length_eq_zero_iff.mp hlen.symm
    rfl
  | cons id ids ih =>
    obtain _ | ⟨m, members⟩ := members
    · cases hlen
    · exact congrArg _ (ih (Nat.succ.inj hlen))

theorem settled_anonymous (r : MemberRow) :
    db.settled (rows.map MemberRow.anonymous) r = db.settled rows r := by
  unfold Db.settled
  rw [foldl_map]
  rfl

theorem settled_congr {db₁ : Db} (h : db₁.members = db.members) (rows : List MemberRow)
    (r : MemberRow) : db₁.settled rows r = db.settled rows r := by
  obtain ⟨accounts, members, proposals, approvals⟩ := db
  obtain rfl := h
  rfl

theorem mem_userID_zipWith {members : List RegisterMemberInput} (hlen : ids.length = members.length)
    (user : Option Uuid) :
    (∃ row ∈ (List.zipWith (memberRow userID own t) ids members).map fun m =>
        { m with multisigAccountID := accountID }, row.userID = user) ↔
      ∃ m ∈ members, (memberRowOf userID own accountID m).userID = user := by
  have hmap := congrArg (map MemberRow.userID)
    (@anonymous_zipWith ids userID accountID own t members hlen)
  rw [map_map, map_map] at hmap
  rw [← mem_map, ← mem_map, map_map]
  exact iff_of_eq (congrArg (user ∈ ·) (hmap.trans (map_map ..)))

theorem id_settled (r : MemberRow) : (db.settled rows r).id = r.id := by
  rw [settled_eq]
  induction rows.filter fun row => decide (db.FallsOn row r) using reverseRecOn with
  | nil => rfl
  | append_singleton rows row ih =>
    rw [foldl_concat]
    exact ih

theorem userID_memberRowOf_iff : (memberRowOf userID own accountID m).userID = some userID ↔
      m.type = .webauthn ∧ m.credentialID ≠ "" ∧ m.credentialID ∈ own := by
  simp [memberRowOf, memberRow]

theorem userID_memberRowOf : (memberRowOf userID own accountID m).userID = none ∨
      (memberRowOf userID own accountID m).userID = some userID := by
  simp only [memberRowOf, memberRow]
  split <;> simp

theorem filter_falls_memberRowOf : (input.members.map (memberRowOf userID own accountID)).filter
        (fun row => decide (db.FallsOn row r)) =
      (input.over db accountID r).map (memberRowOf userID own accountID) := by
  rw [filter_map, RegisterAccountInput.over]
  congr 1
  refine filter_congr fun m _ => ?_
  rw [Function.comp_apply]
  congr 1
  rw [Db.FallsOn, conflicts_memberRowOf]

theorem userID_settled
    (h : ∀ m ∈ input.members, (memberRowOf userID own accountID m).userID ≠ some userID) :
    (db.settled (input.members.map (memberRowOf userID own accountID)) r).userID = r.userID := by
  rw [settled_eq, filter_falls_memberRowOf]
  refine userID_setMembers fun row hrow => ?_
  obtain ⟨m, hm, rfl⟩ := mem_map.mp hrow
  exact (userID_memberRowOf m).resolve_right (h m (mem_of_mem_filter hm))

theorem memberType_settled : (db.settled (input.members.map (memberRowOf userID own accountID)) r).memberType =
      r.memberType ↔ ∀ m, (input.over db accountID r).getLast? = some m → m.type = r.memberType := by
  rw [settled_eq, memberType_setMembers, filter_falls_memberRowOf, getLast?_map]
  cases (input.over db accountID r).getLast? with
  | none => simp
  | some m => simp [memberRowOf, memberRow]

theorem keyDataHex_settled : (db.settled (input.members.map (memberRowOf userID own accountID)) r).keyDataHex =
      r.keyDataHex ↔ ∀ m, ((input.over db accountID r).filter fun m =>
        decide (m.type ≠ .delegated)).getLast? = some m → nullStr m.keyDataHex = r.keyDataHex := by
  have hfilter : ((input.over db accountID r).map (memberRowOf userID own accountID)).filter
      (fun row => decide (row.memberType ≠ .delegated)) =
      ((input.over db accountID r).filter fun m => decide (m.type ≠ .delegated)).map
        (memberRowOf userID own accountID) := filter_map ..
  rw [settled_eq, keyDataHex_setMembers, filter_falls_memberRowOf, hfilter, getLast?_map]
  cases ((input.over db accountID r).filter fun m => decide (m.type ≠ .delegated)).getLast? with
  | none => simp
  | some m => simp [memberRowOf, memberRow]

end Rows

section Run

variable {cfg : TxConfig} {own : List String} {s s' : State} {userID : Uuid}

theorem runs_newUUIDs {n : Nat}
    (h : Runs (execOwning cfg own) (newUUIDs n) s (.ok ids) s') : ids.length = n ∧ s' = s := by
  induction n generalizing s ids with
  | zero =>
    obtain ⟨hids, rfl⟩ := h
    rw [Except.ok.inj hids]
    exact ⟨rfl, rfl⟩
  | succ n ih =>
    rw [newUUIDs, runs_bind_ok] at h
    obtain ⟨id, s₁, ⟨c, -, rfl⟩, h⟩ := h
    rw [runs_bind_ok] at h
    obtain ⟨ids', s₂, hids', hids, rfl⟩ := h
    obtain ⟨hlen, rfl⟩ := ih hids'
    rw [Except.ok.inj hids]
    exact ⟨congrArg Nat.succ hlen, rfl⟩

theorem settle_eq_ok {α : Type} {fault : Fault} {change : Option (Db × α)} {a : α}
    (h : (settle s fault change).1 = .ok a) : change = some ((settle s fault change).2.db, a) := by
  unfold settle at h ⊢
  split at h
  · cases h
  · cases h
  · rw [Except.ok.inj h]
  · cases h

theorem choice_of_registerAccount {out : RegisteredAccount}
    (h : Runs (execOwning cfg own) (registerAccount userID input) s (.ok out) s') : Nonempty Choice := by
  simp only [registerAccount, runs_bind_ok, runs_perform] at h
  obtain ⟨_, _, -, _, _, ⟨c, -⟩, -⟩ := h
  exact ⟨c⟩

theorem registerAccount_ok {out : RegisteredAccount}
    (h : Runs (execOwning cfg own) (registerAccount userID input) s (.ok out) s') :
    validateRegistration input = .ok () ∧ ∃ id createdAt t ids, ids.length = input.members.length ∧
      s.db.register ⟨id, userID, input.smartAccountAddress, input.threshold.toNat,
          input.accountSaltHex, createdAt⟩
        (List.zipWith (memberRow userID own t) ids input.members) =
        some (s'.db, out.id, out.memberIDs) := by
  simp only [registerAccount, runs_bind_ok, runs_ofExcept, runs_perform, orDbError, runs_orFail] at h
  obtain ⟨_, s₁, ⟨hvalid, rfl⟩, answer, s₂, ⟨c, hanswer, rfl⟩, own', s₃, ⟨hown, rfl⟩, id, s₄,
    ⟨c₁, -, rfl⟩, createdAt, s₅, ⟨c₂, -, rfl⟩, t, s₆, ⟨c₃, -, rfl⟩, ids, s₇, hids, answer', s₈,
    ⟨c₄, hanswer', rfl⟩, ⟨accountID, memberIDs⟩, s₉, ⟨hregister, rfl⟩, hout, rfl⟩ := h
  obtain ⟨hlen, rfl⟩ := runs_newUUIDs hids
  cases hout
  have hsame : own' = own := by
    rw [Except.ok.inj hanswer, execOwning, exec] at hown
    split at hown
    · exact (Except.ok.inj hown).symm
    · cases hown
  subst hsame
  refine ⟨hvalid.symm, id, createdAt, t, ids, hlen, ?_⟩
  exact settle_eq_ok ((Except.ok.inj hanswer').symm.trans hregister)

theorem runs_accountAccessGranted {a : AccountRow} {granted : Bool}
    (h : Runs (exec cfg) (accountAccessGranted a userID) s (.ok granted) s') :
    granted = true ↔ s.db.Participates a userID := by
  unfold accountAccessGranted at h
  by_cases hcreator : a.userID = userID
  · rw [if_pos hcreator] at h
    obtain ⟨hgranted, -⟩ := h
    simp only [Except.ok.inj hgranted, true_iff]
    exact .inl hcreator
  · simp only [if_neg hcreator, runs_bind_ok, runs_perform] at h
    obtain ⟨answer, _, ⟨c, hanswer, rfl⟩, members, _, hmembers, hgranted, -⟩ := h
    have hmembers : answer = .ok members := by
      cases answer with
      | error e => cases hmembers.1
      | ok x => rw [Except.ok.inj hmembers.1]
    rw [hmembers, exec] at hanswer
    split at hanswer
    · obtain rfl := Except.ok.inj (Except.ok.inj hanswer)
      rw [Except.ok.inj hgranted]
      simp only [any_eq_true, mem_insertionSort, mem_filter, decide_eq_true_eq,
        Db.Participates, hcreator, false_or, Db.Linked, and_assoc]
    · cases Except.ok.inj hanswer

theorem exists_runs_accountAccessGranted (c : Choice) (a : AccountRow) :
    ∃ granted s'', Runs (exec cfg) (accountAccessGranted a userID) s (.ok granted) s'' := by
  unfold accountAccessGranted
  by_cases hcreator : a.userID = userID
  · rw [if_pos hcreator]
    exact ⟨true, s, rfl, rfl⟩
  · rw [if_neg hcreator]
    exact ⟨_, s, { c with fault := .none }, rfl, rfl⟩

theorem access_iff (c : Choice) {a : AccountRow} :
    (∀ granted s'', Runs (exec cfg) (accountAccessGranted a userID) s (.ok granted) s'' →
      granted = false) ↔ ¬ s.db.Participates a userID := by
  constructor
  · intro hall hpart
    obtain ⟨granted, s'', hrun⟩ := @exists_runs_accountAccessGranted cfg s userID c a
    have htrue := (runs_accountAccessGranted hrun).mpr hpart
    rw [hall granted s'' hrun] at htrue
    cases htrue
  · intro hpart granted s'' hrun
    rw [← runs_accountAccessGranted hrun] at hpart
    exact Bool.eq_false_of_not_eq_true hpart

end Run

theorem register_existing {db' : Db} {new account : AccountRow} {members : List MemberRow}
    {out : Uuid × List Uuid} (h : db.register new members = some (db', out))
    (haccount : account ∈ db.accounts.rows)
    (haddress : account.smartAccountAddress = new.smartAccountAddress) :
    setAccount new account ∈ db'.accounts.rows ∧ ∃ db₁ ids, db₁.members = db.members ∧
      Db.upsertMembers db₁ (members.map fun m => { m with multisigAccountID := account.id }) =
        some (db', ids) := by
  obtain ⟨accounts, row, ids, haccounts, hrow, hmembers, -⟩ := register_cases h
  have hset : setAccount new account ∈ accounts.rows :=
    (Table.mem_upsert haccounts).mpr (.inr (.inl ⟨account, haccount, haddress, rfl⟩))
  obtain ⟨hmem, hfound⟩ := Table.mem_of_find hrow
  have hrow_eq : row = setAccount new account :=
    Table.eq_of_uk_eq hmem hset ((of_decide_eq_true hfound).trans haddress.symm)
  rw [(upsertMembers_eq_some hmembers).1.2.2]
  rw [hrow_eq] at hmembers
  exact ⟨hset, { db with accounts := accounts }, ids, rfl, hmembers⟩

/-- A registration by an outsider is harmless exactly if it repeats what is stored. -/
theorem harmless_iff_repeats {cfg : TxConfig} {own : List String} {s s' : State} {userID : Uuid}
    {input : RegisterAccountInput} {out : RegisteredAccount} {account : AccountRow}
    (h : Runs (execOwning cfg own) (registerAccount userID input) s (.ok out) s')
    (haccount : account ∈ s.db.accounts.rows)
    (haddress : account.smartAccountAddress = input.smartAccountAddress)
    (houtsider : ¬ s.db.Participates account userID) :
    Harmless cfg s s' account userID ↔ input.Repeats s.db account own := by
  obtain ⟨c⟩ := choice_of_registerAccount h
  obtain ⟨hvalid, id, createdAt, t, ids, hlen, hregister⟩ := registerAccount_ok h
  obtain ⟨hset, db₁, memberIDs, hmembers₁, hupsert⟩ :=
    register_existing hregister haccount haddress
  have hcolumns : ∀ a ∈ s'.db.accounts.rows, a.id = account.id → a = setAccount
      ⟨id, userID, input.smartAccountAddress, input.threshold.toNat, input.accountSaltHex, createdAt⟩
        account := fun a ha hid => Table.eq_of_pk_eq ha hset hid
  have hsettled : ∀ r ∈ s.db.members.rows,
      s.db.settled (input.members.map (memberRowOf userID own account.id)) r ∈ s'.db.members.rows := by
    intro r hr
    rw [← anonymous_zipWith hlen, settled_anonymous, ← settled_congr hmembers₁]
    exact settled_upsertMembers hupsert (hmembers₁ ▸ hr)
  have hlinked : s'.db.Linked account.id userID ↔ ∃ m ∈ input.members,
      m.type = .webauthn ∧ m.credentialID ≠ "" ∧ m.credentialID ∈ own := by
    have hnot : ¬ db₁.Linked account.id userID := by
      rw [Db.Linked, hmembers₁]
      exact fun hlink => houtsider (.inr hlink)
    rw [linked_upsertMembers hupsert, or_iff_right hnot, mem_userID_zipWith hlen]
    · simp only [userID_memberRowOf_iff]
    · intro row hrow
      obtain ⟨m, -, rfl⟩ := mem_map.mp hrow
      rfl
    · intro row hrow
      obtain ⟨m, -, hm⟩ := (mem_userID_zipWith hlen row.userID).mp ⟨row, hrow, rfl⟩
      rw [← hm]
      exact userID_memberRowOf m
  have hthreshold : input.threshold.toNat = account.threshold ↔
      input.threshold = account.threshold := by
    have hpos : ¬ input.threshold < 1 := by
      intro hlt
      rw [validateRegistration, if_pos hlt] at hvalid
      cases hvalid
    omega
  constructor
  · intro hharmless
    obtain ⟨hthresh, hsalt⟩ := hharmless.columns _ hset rfl
    have hstrangers : ∀ m ∈ input.members, m.type = .webauthn → m.credentialID ≠ "" →
        m.credentialID ∉ own := by
      intro m hm htype hcred hown
      refine (access_iff c).mp (hharmless.access _ hset rfl) (.inr ?_)
      exact hlinked.mpr ⟨m, hm, htype, hcred, hown⟩
    have hsame : ∀ r ∈ s.db.members.rows, r.multisigAccountID = account.id →
        (s.db.settled (input.members.map (memberRowOf userID own account.id)) r).memberType =
            r.memberType ∧
          (s.db.settled (input.members.map (memberRowOf userID own account.id)) r).keyDataHex =
            r.keyDataHex := by
      intro r hr haccount
      obtain ⟨r', hr', hid, htype, hkey, -⟩ := hharmless.members r hr haccount
      rw [← Table.eq_of_pk_eq hr' (hsettled r hr) (hid.trans (id_settled _ r).symm)]
      exact ⟨htype, hkey⟩
    exact ⟨hthreshold.mp hthresh, hsalt, hstrangers,
      fun r hr haccount => memberType_settled.mp (hsame r hr haccount).1,
      fun r hr haccount => keyDataHex_settled.mp (hsame r hr haccount).2⟩
  · intro hrepeats
    have hnone : ∀ m ∈ input.members,
        (memberRowOf userID own account.id m).userID ≠ some userID := by
      intro m hm hsome
      obtain ⟨htype, hcred, hown⟩ := (userID_memberRowOf_iff m).mp hsome
      exact hrepeats.strangers m hm htype hcred hown
    refine ⟨?_, ?_, ?_⟩
    · intro a ha hid
      rw [hcolumns a ha hid]
      exact ⟨hthreshold.mpr hrepeats.threshold, hrepeats.salt⟩
    · intro r hr haccount
      exact ⟨_, hsettled r hr, id_settled _ r, memberType_settled.mpr (hrepeats.types r hr haccount),
        keyDataHex_settled.mpr (hrepeats.keys r hr haccount), userID_settled hnone⟩
    · intro a ha hid
      rw [access_iff c, hcolumns a ha hid]
      rintro (hcreator | hlink)
      · exact houtsider (.inl hcreator)
      · obtain ⟨m, hm, htype, hcred, hown⟩ := hlinked.mp hlink
        exact hrepeats.strangers m hm htype hcred hown

namespace Sample

open Bundler.Sample

def wallet : AccountRow := ⟨1, 1, "wallet", 1, "00", 0⟩

def walletState : State :=
  ⟨⟨⟨[wallet], List.nodup_singleton _, List.nodup_singleton _⟩,
    ⟨[passkeyMember 1], List.nodup_singleton _, List.nodup_singleton _⟩, .empty, .empty⟩, .empty⟩

def registering (credentialID : String) : RegisterAccountInput :=
  ⟨"wallet", 1, "00",
    [⟨.webauthn, "04bb", credentialID, "", ""⟩, ⟨.webauthn, "04cc", "other", "", ""⟩]⟩

def registeringChoices : List Choice :=
  [withUuid 0, withUuid 5, withUuid 0, withUuid 0, withUuid 6, withUuid 7, withUuid 0]

theorem outsider_of_wallet : ¬ walletState.db.Participates wallet 9 := by
  rintro (h | ⟨m, hm, -, h⟩)
  · exact absurd h (by decide)
  · obtain rfl := mem_singleton.mp hm
    exact absurd h (by decide)

theorem harmless_when_repeated : ∃ out s',
    Runs (execOwning config ["mine"]) (registerAccount 9 (registering "theirs")) walletState
        (.ok out) s' ∧ Harmless config walletState s' wallet 9 := by
  obtain ⟨out, s', hrun, -⟩ := exists_runs_of_play (execOwning config ["mine"])
    (registerAccount 9 (registering "theirs")) walletState registeringChoices (fun _ => true)
    (by decide +kernel)
  have hover : ∀ r ∈ walletState.db.members.rows,
      ((registering "theirs").over walletState.db wallet.id r).length = 0 := by decide +kernel
  refine ⟨out, s', hrun,
    (harmless_iff_repeats hrun mem_cons_self rfl outsider_of_wallet).mpr ?_⟩
  refine ⟨rfl, rfl, by decide, ?_, ?_⟩
  · intro r hr _ m hm
    rw [length_eq_zero_iff.mp (hover r hr)] at hm
    cases hm
  · intro r hr _ m hm
    rw [length_eq_zero_iff.mp (hover r hr)] at hm
    cases hm

theorem outsider_gets_access : ∃ out s',
    Runs (execOwning config ["mine"]) (registerAccount 9 (registering "mine")) walletState
        (.ok out) s' ∧
      wallet ∈ walletState.db.accounts.rows ∧ ¬ walletState.db.Participates wallet 9 ∧
      ¬ Harmless config walletState s' wallet 9 := by
  obtain ⟨out, s', hrun, hfacts⟩ := exists_runs_of_play (execOwning config ["mine"])
    (registerAccount 9 (registering "mine")) walletState registeringChoices
    (fun s => decide (∃ a ∈ s.db.accounts.rows, a.id = 1 ∧
      ∃ m ∈ s.db.members.rows, m.multisigAccountID = 1 ∧ m.userID = some 9)) (by decide +kernel)
  obtain ⟨a, ha, hid, m, hm, haccount, huser⟩ := of_decide_eq_true hfacts
  refine ⟨out, s', hrun, mem_cons_self, outsider_of_wallet, fun hharmless => ?_⟩
  exact (access_iff (answers 1)).mp (hharmless.access a ha hid)
    (.inr ⟨m, hm, haccount.trans hid.symm, huser⟩)

end Sample

end LatchApi.Multisig
