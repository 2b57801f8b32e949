import LatchApi.Lib.Eval
import LatchApi.Rules.Complete

namespace LatchApi.SignIn

open Lib Program Soroban Bundler Rules List

def maxContextRuleScan : Nat := 64

inductive SignInError where
  | noWebAuthnSigner
  | decodeContractAddress
  | simulate (err : RpcError)
deriving DecidableEq

abbrev KeyReader (α : Type) := Program ReadCall ReadRes SignInError α

section Read

def webAuthnKey : ScVal → Option Bytes
  | .vec (some [.symbol "External", _, .bytes keyData]) =>
    if 65 ≤ keyData.length ∧ keyData.head? = some 4 then some (keyData.take 65) else none
  | _ => none

def signerKeys : ScVal × ScVal → List Bytes
  | (.symbol "signers", .vec (some signers)) => signers.filterMap webAuthnKey
  | _ => []

def webAuthnKeysFromRule : ScVal → List Bytes
  | .map (some entries) => entries.flatMap signerKeys
  | _ => []

def simulateRead (wallet : String) (call : ReadCall) : KeyReader (Option ScVal) :=
  match strkeyDecode versionContract wallet with
  | none => .fail .decodeContractAddress
  | some _ => do
    match ← perform call with
    | .error err => .fail (.simulate err)
    | .ok val => return val

def addKey (keys : List Bytes) (key : Bytes) : List Bytes :=
  if key ∈ keys then keys else keys ++ [key]

def collectKeys (wallet : String) (count : Nat) : Nat → Nat → Nat → List Bytes → KeyReader (List Bytes)
  | 0, _, _, keys => .ok keys
  | n + 1, id, found, keys =>
    if found < count then do
      match ← simulateRead wallet (.getContextRule (UInt32.ofNat id)) with
      | none => collectKeys wallet count n (id + 1) found keys
      | some rule =>
        collectKeys wallet count n (id + 1) (found + 1) ((webAuthnKeysFromRule rule).foldl addKey keys)
    else .ok keys

def webAuthnSignerKeys (wallet : String) : KeyReader (List Bytes) := do
  match ← simulateRead wallet .getContextRulesCount with
  | some (.u32 count) =>
    if count.toNat = 0 then .fail .noWebAuthnSigner
    else
      let keys ← collectKeys wallet count.toNat (min (count.toNat + 8) maxContextRuleScan) 0 0 []
      if keys = [] then .fail .noWebAuthnSigner else return keys
  | _ => .fail .noWebAuthnSigner

end Read

variable {key : Bytes}

section Spec

def HasPasskey (rule : ScVal) (key : Bytes) : Prop :=
  ∃ entries signers verifier keyData, rule = scMap entries ∧
    (scSymbol "signers", scVec signers) ∈ entries ∧
    scVec [scSymbol "External", verifier, scBytes keyData] ∈ signers ∧
    65 ≤ keyData.length ∧ keyData.head? = some 4 ∧ key = keyData.take 65

theorem webAuthnKey_eq_some {signer : ScVal} : webAuthnKey signer = some key ↔
    ∃ verifier keyData, signer = scVec [scSymbol "External", verifier, scBytes keyData] ∧
      65 ≤ keyData.length ∧ keyData.head? = some 4 ∧ key = keyData.take 65 := by
  constructor
  · intro h
    unfold webAuthnKey at h
    split at h
    · rename_i verifier keyData
      split_ifs at h with hpoint
      exact ⟨verifier, keyData, rfl, hpoint.1, hpoint.2, (Option.some.inj h).symm⟩
    · cases h
  · rintro ⟨verifier, keyData, rfl, hlength, hhead, rfl⟩
    exact if_pos ⟨hlength, hhead⟩

theorem mem_signerKeys {entry : ScVal × ScVal} : key ∈ signerKeys entry ↔
    ∃ signers, entry = (scSymbol "signers", scVec signers) ∧
      ∃ signer ∈ signers, webAuthnKey signer = some key := by
  constructor
  · intro h
    unfold signerKeys at h
    split at h
    · rename_i signers
      exact ⟨signers, rfl, mem_filterMap.mp h⟩
    · cases h
  · rintro ⟨signers, rfl, h⟩
    exact mem_filterMap.mpr h

theorem mem_webAuthnKeysFromRule {rule : ScVal} :
    key ∈ webAuthnKeysFromRule rule ↔ HasPasskey rule key := by
  constructor
  · intro h
    unfold webAuthnKeysFromRule at h
    split at h
    · rename_i entries
      obtain ⟨entry, hentry, hkey⟩ := mem_flatMap.mp h
      obtain ⟨signers, rfl, signer, hsigner, hkey⟩ := mem_signerKeys.mp hkey
      obtain ⟨verifier, keyData, rfl, hpoint⟩ := webAuthnKey_eq_some.mp hkey
      exact ⟨entries, signers, verifier, keyData, rfl, hentry, hsigner, hpoint⟩
    · cases h
  · rintro ⟨entries, signers, verifier, keyData, rfl, hentry, hsigner, hpoint⟩
    refine mem_flatMap.mpr ⟨_, hentry, mem_signerKeys.mpr ⟨signers, rfl, _, hsigner, ?_⟩⟩
    exact webAuthnKey_eq_some.mpr ⟨verifier, keyData, rfl, hpoint⟩

def PasskeyOf (t : RuleTable) (ids : Nat → Prop) (key : Bytes) : Prop :=
  ∃ id rule, (id, rule) ∈ t.rules ∧ ids id ∧ HasPasskey rule key

/-- The reader returns the passkeys of all live rules, each once, or that there is none. -/
def SeesEvery (t : RuleTable) (wallet : String) : Prop :=
  match ((webAuthnSignerKeys wallet).runWith t.answers []).1 with
  | .ok keys => keys ≠ [] ∧ keys.Nodup ∧ ∀ key, key ∈ keys ↔ PasskeyOf t (fun _ => True) key
  | .error err => err = .noWebAuthnSigner ∧ ∀ key, ¬ PasskeyOf t (fun _ => True) key

end Spec

variable {id : Nat}

section Collect

variable (t : RuleTable)

def keysFrom : Nat → Nat → List Bytes → List Bytes
  | 0, _, keys => keys
  | n + 1, id, keys => keysFrom n (id + 1)
      ((((t.rule id).map webAuthnKeysFromRule).getD []).foldl addKey keys)

def liveFrom (id : Nat) : Nat := t.rules.countP fun r => id ≤ r.1

variable {t} {keys new : List Bytes}

theorem mem_foldl_addKey : key ∈ new.foldl addKey keys ↔ key ∈ keys ∨ key ∈ new := by
  induction new generalizing keys with
  | nil => simp
  | cons k new ih =>
    have hadd : key ∈ addKey keys k ↔ key ∈ keys ∨ key = k := by
      unfold addKey
      split_ifs with hmem
      · exact ⟨.inl, fun h => h.elim id fun heq => heq ▸ hmem⟩
      · simp
    rw [foldl_cons, ih, hadd, mem_cons, or_assoc]

theorem nodup_foldl_addKey (h : keys.Nodup) : (new.foldl addKey keys).Nodup := by
  induction new generalizing keys with
  | nil => exact h
  | cons k new ih =>
    refine ih ?_
    unfold addKey
    split_ifs with hmem
    · exact h
    rw [nodup_append]
    refine ⟨h, nodup_singleton k, fun a ha b hb hab => hmem ?_⟩
    rw [← mem_singleton.mp hb, ← hab]
    exact ha

theorem nodup_keysFrom (n id : Nat) (h : keys.Nodup) : (keysFrom t n id keys).Nodup := by
  induction n generalizing id keys with
  | zero => exact h
  | succ n ih => exact ih _ (nodup_foldl_addKey h)

theorem mem_rule_keys :
    key ∈ ((t.rule id).map webAuthnKeysFromRule).getD [] ↔ PasskeyOf t (fun id' => id' = id) key := by
  constructor
  · intro h
    cases hrule : t.rule id with
    | none => simp [hrule] at h
    | some rule =>
      rw [hrule] at h
      exact ⟨id, rule, RuleTable.rule_eq_some_iff.mp hrule, rfl, mem_webAuthnKeysFromRule.mp h⟩
  · rintro ⟨_, rule, hrule, rfl, hkey⟩
    rw [RuleTable.rule_eq_some_iff.mpr hrule]
    exact mem_webAuthnKeysFromRule.mpr hkey

theorem mem_keysFrom {n : Nat} : key ∈ keysFrom t n id keys ↔
      key ∈ keys ∨ PasskeyOf t (fun id' => id ≤ id' ∧ id' < id + n) key := by
  induction n generalizing id keys with
  | zero =>
    have hnone : ¬ PasskeyOf t (fun id' => id ≤ id' ∧ id' < id + 0) key := by
      rintro ⟨id', rule, -, hrange, -⟩
      omega
    exact ⟨.inl, fun h => h.resolve_right hnone⟩
  | succ n ih =>
    rw [keysFrom, ih, mem_foldl_addKey, mem_rule_keys, or_assoc]
    refine or_congr Iff.rfl ⟨?_, ?_⟩
    · rintro (⟨id', rule, hrule, rfl, hkey⟩ | ⟨id', rule, hrule, hrange, hkey⟩)
      · exact ⟨id', rule, hrule, by omega, hkey⟩
      · exact ⟨id', rule, hrule, by omega, hkey⟩
    · rintro ⟨id', rule, hrule, hrange, hkey⟩
      by_cases hid : id' = id
      · exact .inl ⟨id', rule, hrule, hid, hkey⟩
      · exact .inr ⟨id', rule, hrule, by omega, hkey⟩

theorem liveFrom_zero : liveFrom t 0 = t.rules.length := by
  simp [liveFrom]

theorem liveFrom_eq (id : Nat) :
    liveFrom t id = liveFrom t (id + 1) + (t.rule id).toList.length := by
  have hsplit : ∀ rules : List (Nat × ScVal), rules.countP (fun r => decide (id ≤ r.1)) =
      rules.countP (fun r => decide (id + 1 ≤ r.1)) + (rules.map Prod.fst).count id := by
    intro rules
    induction rules with
    | nil => rfl
    | cons r rules ih =>
      simp only [countP_cons, map_cons, count_cons, ih, decide_eq_true_eq, beq_iff_eq]
      split_ifs <;> omega
  rw [liveFrom, hsplit, liveFrom]
  congr 1
  cases hrule : t.rule id with
  | none =>
    refine count_eq_zero.mpr fun hmem => ?_
    obtain ⟨⟨id', rule⟩, hr, rfl⟩ := mem_map.mp hmem
    rw [RuleTable.rule_eq_some_iff.mpr hr] at hrule
    cases hrule
  | some rule =>
    have hmem : id ∈ t.rules.map Prod.fst :=
      mem_map.mpr ⟨(id, rule), RuleTable.rule_eq_some_iff.mp hrule, rfl⟩
    exact count_eq_one_of_mem t.ids_nodup hmem

theorem keysFrom_of_liveFrom (h : liveFrom t id = 0) (n : Nat) (keys : List Bytes) :
    keysFrom t n id keys = keys := by
  induction n generalizing id keys with
  | zero => rfl
  | succ n ih =>
    have hnext := liveFrom_eq (t := t) id
    have hrule : t.rule id = none := by
      cases hrule : t.rule id with
      | none => rfl
      | some rule =>
        rw [hrule] at hnext
        simp at hnext
        omega
    rw [keysFrom, hrule]
    exact ih (by omega) _

theorem runWith_collectKeys {wallet : String} {payload : Bytes}
    (hwallet : strkeyDecode versionContract wallet = some payload) {n found : Nat}
    (hn : id + n ≤ maxContextRuleScan) (hfound : found + liveFrom t id = t.rules.length)
    (keys : List Bytes) (h : Log ReadRes) :
    ((collectKeys wallet t.rules.length n id found keys).runWith t.answers h).1 =
      .ok (keysFrom t n id keys) := by
  induction n generalizing id found keys h with
  | zero => rfl
  | succ n ih =>
    have h64 : maxContextRuleScan = 64 := rfl
    have hnext := liveFrom_eq (t := t) id
    have hid : (UInt32.ofNat id).toNat = id := by
      refine UInt32.toNat_ofNat_of_lt' (Nat.lt_of_lt_of_le (by omega : id < 64) ?_)
      decide
    unfold collectKeys
    split_ifs with hlt
    · simp only [simulateRead, hwallet, perform, call_bind, runWith, RuleTable.answers, hid, pure_eq,
        ok_bind]
      cases hrule : t.rule id with
      | none =>
        rw [hrule] at hnext
        simp only [keysFrom, hrule]
        exact ih (by omega) (by simpa [hnext] using hfound) _ _
      | some rule =>
        rw [hrule] at hnext
        simp only [keysFrom, hrule]
        refine ih (by omega) ?_ _ _
        simp only [Option.toList_some, length_singleton] at hnext
        omega
    · rw [keysFrom_of_liveFrom (by omega)]
      rfl

variable (t) in
def seen : List Bytes := keysFrom t (min (t.rules.length + 8) maxContextRuleScan) 0 []

theorem runWith_webAuthnSignerKeys {wallet : String} {payload : Bytes}
    (hwallet : strkeyDecode versionContract wallet = some payload) :
    ((webAuthnSignerKeys wallet).runWith t.answers []).1 =
      if seen t = [] then .error .noWebAuthnSigner else .ok (seen t) := by
  have hcount : (UInt32.ofNat t.rules.length).toNat = t.rules.length :=
    UInt32.toNat_ofNat_of_lt' (Nat.lt_of_le_of_lt t.length_le_next t.next_lt)
  unfold webAuthnSignerKeys
  simp only [simulateRead, hwallet, perform, call_bind, runWith, RuleTable.answers, pure_eq, ok_bind,
    hcount]
  by_cases hzero : t.rules.length = 0
  · have hseen : seen t = [] := keysFrom_of_liveFrom (by rw [liveFrom_zero, hzero]) _ _
    rw [if_pos hzero, if_pos hseen]
    rfl
  · rw [if_neg hzero, runWith_bind_ok (runWith_collectKeys hwallet (by omega)
      (by rw [liveFrom_zero, Nat.zero_add]) [] _)]
    change (runWith t.answers _ (if seen t = [] then _ else _)).1 = _
    split_ifs <;> rfl

theorem mem_seen : key ∈ seen t ↔
    PasskeyOf t (fun id => id < t.rules.length + 8 ∧ id < maxContextRuleScan) key := by
  rw [seen, mem_keysFrom]
  constructor
  · rintro (hmem | ⟨id, rule, hrule, hrange, hkey⟩)
    · cases hmem
    · exact ⟨id, rule, hrule, by omega, hkey⟩
  · rintro ⟨id, rule, hrule, hrange, hkey⟩
    exact .inr ⟨id, rule, hrule, by omega, hkey⟩

end Collect

section Contract

variable {t : RuleTable} {account : Hash}

theorem seesEvery_iff : SeesEvery t (contractText account) ↔
    ∀ key, PasskeyOf t (fun _ => True) key → key ∈ seen t := by
  have hkept : ∀ {key}, key ∈ seen t → PasskeyOf t (fun _ => True) key := by
    intro key hkey
    obtain ⟨id, rule, hrule, -, hkey⟩ := mem_seen.mp hkey
    exact ⟨id, rule, hrule, trivial, hkey⟩
  have hwallet : strkeyDecode versionContract (contractText account) = some account.val :=
    strkeyDecode_strkeyEncode _ _
  unfold SeesEvery
  rw [runWith_webAuthnSignerKeys hwallet]
  by_cases hseen : seen t = []
  · rw [if_pos hseen]
    constructor
    · rintro ⟨-, hnone⟩ key hkey
      exact absurd hkey (hnone key)
    intro hall
    refine ⟨rfl, fun key hkey => ?_⟩
    have hmem := hall key hkey
    rw [hseen] at hmem
    cases hmem
  · rw [if_neg hseen]
    constructor
    · rintro ⟨-, -, hexact⟩ key hkey
      exact (hexact key).mpr hkey
    · intro hall
      exact ⟨hseen, nodup_keysFrom _ _ nodup_nil, fun key => ⟨hkept, hall key⟩⟩

end Contract

/-- Where the live rules have ids below the bound, the sign-in sees every passkey of a wallet exactly if
each one that a rule lists more than seven ids beyond the number of rules is listed lower, too. -/
theorem webAuthnSignerKeys_exact_iff (events : List RuleEvent) (account : Hash)
    (hids : ∀ id rule, (id, rule) ∈ (RuleTable.after events).rules → id < 64) :
    SeesEvery (RuleTable.after events) (contractText account) ↔
      ∀ key, PasskeyOf (RuleTable.after events)
          (fun id => (RuleTable.after events).rules.length + 8 ≤ id) key →
        PasskeyOf (RuleTable.after events)
          (fun id => id < (RuleTable.after events).rules.length + 8) key := by
  rw [seesEvery_iff]
  constructor
  · rintro hall key ⟨id, rule, hrule, -, hkey⟩
    obtain ⟨id', rule', hrule', hlow, hkey'⟩ := mem_seen.mp (hall key ⟨id, rule, hrule, trivial, hkey⟩)
    exact ⟨id', rule', hrule', hlow.1, hkey'⟩
  · rintro hlower key ⟨id, rule, hrule, -, hkey⟩
    have hlisted : PasskeyOf (RuleTable.after events)
        (fun id => id < (RuleTable.after events).rules.length + 8) key := by
      by_cases hid : id < (RuleTable.after events).rules.length + 8
      · exact ⟨id, rule, hrule, hid, hkey⟩
      · exact hlower key ⟨id, rule, hrule, Nat.le_of_not_lt hid, hkey⟩
    obtain ⟨id', rule', hrule', hlow, hkey'⟩ := hlisted
    exact mem_seen.mpr ⟨id', rule', hrule', ⟨hlow, hids _ _ hrule'⟩, hkey'⟩

namespace Sample

def account : Hash := ⟨List.replicate 32 7, rfl⟩

def passkey (x : UInt8) : Bytes := 4 :: List.replicate 64 x

def passkeyRule (x : UInt8) : ScVal :=
  scMap [(scSymbol "signers", scVec
    [scVec [scSymbol "External", .address (.contract account), scBytes (passkey x ++ [1, 2])]])]

def replacedNineTimes : List RuleEvent :=
  List.replicate 9 (.add (scMap [])) ++ [.add (passkeyRule 1)] ++ (List.range 9).map .remove

theorem rules_replacedNineTimes : (RuleTable.after replacedNineTimes).rules = [(9, passkeyRule 1)] :=
  rfl

theorem hasPasskey_passkeyRule (x : UInt8) : HasPasskey (passkeyRule x) (passkey x) :=
  ⟨_, _, _, _, rfl, mem_singleton.mpr rfl, mem_singleton.mpr rfl, by simp [passkey],
    rfl, rfl⟩

theorem passkey_missed :
    (∀ id rule, (id, rule) ∈ (RuleTable.after replacedNineTimes).rules → id < 64) ∧
    ¬ SeesEvery (RuleTable.after replacedNineTimes) (contractText account) := by
  rw [seesEvery_iff]
  constructor
  · intro id rule hrule
    rw [rules_replacedNineTimes] at hrule
    obtain ⟨rfl, -⟩ := Prod.mk.inj (mem_singleton.mp hrule)
    decide
  · intro hall
    have hlisted : PasskeyOf (RuleTable.after replacedNineTimes) (fun _ => True) (passkey 1) :=
      ⟨9, passkeyRule 1, by simp [rules_replacedNineTimes], trivial, hasPasskey_passkeyRule 1⟩
    obtain ⟨id, rule, hrule, hlow, -⟩ := mem_seen.mp (hall _ hlisted)
    rw [rules_replacedNineTimes] at hrule hlow
    obtain ⟨rfl, -⟩ := Prod.mk.inj (mem_singleton.mp hrule)
    exact absurd hlow.1 (by decide)

def replacedOnce : List RuleEvent := [.add (passkeyRule 1), .add (passkeyRule 2), .remove 0]

theorem passkey_seen_after_replacement :
    (∀ id rule, (id, rule) ∈ (RuleTable.after replacedOnce).rules → id < 64) ∧
    SeesEvery (RuleTable.after replacedOnce) (contractText account) := by
  have hrules : (RuleTable.after replacedOnce).rules = [(1, passkeyRule 2)] := rfl
  have hids : ∀ id rule, (id, rule) ∈ (RuleTable.after replacedOnce).rules → id = 1 := by
    intro id rule hrule
    rw [hrules] at hrule
    exact (Prod.mk.inj (mem_singleton.mp hrule)).1
  have hbelow : ∀ id rule, (id, rule) ∈ (RuleTable.after replacedOnce).rules → id < 64 := by
    intro id rule hrule
    rw [hids id rule hrule]
    decide
  refine ⟨hbelow, ?_⟩
  rw [webAuthnSignerKeys_exact_iff replacedOnce account hbelow]
  rintro key ⟨id, rule, hrule, hhigh, -⟩
  rw [hids id rule hrule] at hhigh
  omega

end Sample

end LatchApi.SignIn
