import LatchApi.Rules.Scan

namespace LatchApi.Rules

open Lib Program Soroban Bundler List Option
open Multisig (ContextRuleDiscovery)

structure RuleTable where
  next : Nat
  rules : List (Nat × ScVal)
  next_lt : next < 4294967296
  ids_lt : ∀ r ∈ rules, r.1 < next
  ids_nodup : (rules.map Prod.fst).Nodup

inductive RuleEvent where
  | add (rule : ScVal)
  | remove (id : Nat)

variable {t : RuleTable}

namespace RuleTable

def empty : RuleTable := ⟨0, [], by decide, by simp, by simp⟩

def add (t : RuleTable) (rule : ScVal) : RuleTable :=
  if h : t.next + 1 < 4294967296 then {
    next := t.next + 1
    rules := t.rules ++ [(t.next, rule)]
    next_lt := h
    ids_lt := by
      intro r hr
      rcases List.mem_append.mp hr with hr | hr
      · exact Nat.lt_succ_of_lt (t.ids_lt r hr)
      · rw [List.mem_singleton.mp hr]
        exact Nat.lt_succ_self _
    ids_nodup := by
      rw [List.map_append, List.nodup_append]
      refine ⟨t.ids_nodup, by simp, fun id hid id' hid' => ?_⟩
      obtain ⟨r, hr, rfl⟩ := List.mem_map.mp hid
      obtain rfl := List.mem_singleton.mp hid'
      exact Nat.ne_of_lt (t.ids_lt r hr) }
  else t

def remove (t : RuleTable) (id : Nat) : RuleTable where
  next := t.next
  rules := t.rules.filter fun r => r.1 != id
  next_lt := t.next_lt
  ids_lt r hr := t.ids_lt r (List.mem_filter.mp hr).1
  ids_nodup := t.ids_nodup.sublist (List.filter_sublist.map _)

def step (t : RuleTable) : RuleEvent → RuleTable
  | .add rule => t.add rule
  | .remove id => t.remove id

def after (events : List RuleEvent) : RuleTable := events.foldl step empty

def rule (t : RuleTable) (id : Nat) : Option ScVal :=
  (t.rules.find? fun r => r.1 == id).map Prod.snd

def answers (t : RuleTable) (_ : Log ReadRes) : (call : ReadCall) → ReadRes call
  | .getContextRulesCount => .ok (some (.u32 (UInt32.ofNat t.rules.length)))
  | .getContextRule id => .ok (t.rule id.toNat)

def result {α : Type} (t : RuleTable) (p : RuleReader α) : Except RpcError α :=
  (p.runWith t.answers []).1

def Live (t : RuleTable) (P : ContextRuleSummary → Prop) (id : UInt32) : Prop :=
  ∃ rule, (id.toNat, rule) ∈ t.rules ∧ P (parseContextRuleSummary id rule)

def Has (t : RuleTable) (P : ContextRuleSummary → Prop) : Prop :=
  ∃ id, id < maxContextRuleScan ∧ t.Live P id

structure Prefers (t : RuleTable) (first second : ContextRuleSummary → Prop)
    (found : UInt32 → ContextRuleDiscovery → Prop) : Prop where
  preferred : t.Has first → ∃ id, found id .matched ∧ t.Live first id
  otherwise : ¬ t.Has first → t.Has second → ∃ id, found id .default ∧ t.Live second id

structure ScansComplete (t : RuleTable) : Prop where
  list : ∃ rules, t.result listContextRules = .ok rules ∧ ∀ (id : UInt32) (rule : ScVal),
    (id.toNat, rule) ∈ t.rules → id < maxContextRuleScan → parseContextRuleSummary id rule ∈ rules
  default : t.Has (fun r => r.isDefault = true) → ∃ id,
    t.result discoverDefaultContextRule = .ok (id, .default) ∧ t.Live (fun r => r.isDefault = true) id
  contract : ∀ target, t.Prefers (fun r => r.callContractAddress = target)
    (fun r => r.isDefault = true) fun id how => t.result (discoverContextRule target) = .ok (id, how)
  signer : ∀ verifier keyData target, t.Prefers
    (fun r => ruleHasExactExternalSigner r verifier keyData = true ∧ target ≠ "" ∧
      r.callContractAddress = target)
    (fun r => ruleHasExactExternalSigner r verifier keyData = true ∧ r.isDefault = true)
    fun id how => t.result (findRuleForSigner verifier keyData target) = .ok (some (id, how))

/-- No live rule has as many removed ones below it that its id is out of the count. -/
def Dense (t : RuleTable) : Prop :=
  ∀ id rule, (id, rule) ∈ t.rules → id < maxContextRuleScan.toNat → id < t.rules.length

def GapFree (t : RuleTable) : Prop := ∀ id rule, (id, rule) ∈ t.rules → id < t.rules.length

theorem GapFree.dense {t : RuleTable} (h : t.GapFree) : t.Dense :=
  fun id rule hrule _ => h id rule hrule

section Scan

variable {α β : Type}

def window (t : RuleTable) : Nat → UInt32 → List ContextRuleSummary
  | 0, _ => []
  | n + 1, id =>
    ((t.rule id.toNat).map (parseContextRuleSummary id)).toList ++ t.window n (id + 1)

def visitAll (visit : β → UInt32 → ContextRuleSummary → β ⊕ α) : β → List ContextRuleSummary → β ⊕ α
  | b, [] => .inl b
  | b, rule :: rules =>
    match visit b rule.id rule with
    | .inl b => visitAll visit b rules
    | .inr a => .inr a

variable (t : RuleTable) (visit : β → UInt32 → ContextRuleSummary → β ⊕ α)

theorem runWith_scan (n : Nat) (id : UInt32) (b : β) (h : Log ReadRes) :
    ((scan visit n id b).runWith t.answers h).1 = .ok (visitAll visit b (t.window n id)) := by
  induction n generalizing id b h with
  | zero => rfl
  | succ n ih =>
    unfold scan getRule window
    rw [runWith_bind]
    simp only [perform, call_bind, runWith, answers, Program.ofExcept, ok_bind, pure_eq]
    cases hrule : t.rule id.toNat with
    | none => exact ih _ _ _
    | some rule =>
      simp only [map_some, toList_some, singleton_append, visitAll]
      have hid : (parseContextRuleSummary id rule).id = id := rfl
      rw [hid]
      cases visit b id (parseContextRuleSummary id rule) with
      | inl b' => exact ih _ _ _
      | inr a => rfl

theorem length_le_next : t.rules.length ≤ t.next := by
  have hsub : ∀ id ∈ t.rules.map Prod.fst, id ∈ range t.next := by
    intro id hid
    obtain ⟨r, hr, rfl⟩ := mem_map.mp hid
    exact mem_range.mpr (t.ids_lt r hr)
  have hle := (t.ids_nodup.subperm hsub).length_le
  rwa [length_map, length_range] at hle

def limit : Nat := min t.rules.length maxContextRuleScan.toNat

def scanned : List ContextRuleSummary := t.window t.limit 0

theorem runWith_scanRules (b : β) (h : Log ReadRes) :
    ((scanRules visit b).runWith t.answers h).1 = .ok (visitAll visit b t.scanned) := by
  have hlimit : (min (UInt32.ofNat t.rules.length) maxContextRuleScan).toNat = t.limit := by
    have hlt : t.rules.length < 4294967296 := Nat.lt_of_le_of_lt t.length_le_next t.next_lt
    have hcount : (UInt32.ofNat t.rules.length).toNat = t.rules.length :=
      UInt32.toNat_ofNat_of_lt' hlt
    change (if UInt32.ofNat t.rules.length ≤ maxContextRuleScan then UInt32.ofNat t.rules.length
      else maxContextRuleScan).toNat = min t.rules.length maxContextRuleScan.toNat
    split_ifs with hle
    · rw [UInt32.le_iff_toNat_le, hcount] at hle
      rw [hcount, Nat.min_eq_left hle]
    · rw [UInt32.le_iff_toNat_le, hcount] at hle
      rw [Nat.min_eq_right (Nat.le_of_not_le hle)]
  unfold scanRules rulesCount
  simp only [perform, call_bind, runWith, answers, Program.ofExcept, ok_bind, pure_eq]
  rw [runWith_scan, hlimit]
  rfl

theorem result_scanRules_bind {visit : β → UInt32 → ContextRuleSummary → β ⊕ α} {b : β} {γ : Type}
    {f : β ⊕ α → RuleReader γ} {c : γ} (hf : f (visitAll visit b t.scanned) = .ok c) :
    t.result (scanRules visit b >>= f) = .ok c := by
  unfold result
  have hrun := t.runWith_scanRules visit b []
  rw [runWith_bind]
  generalize (scanRules visit b).runWith t.answers [] = out at hrun
  obtain ⟨out, h'⟩ := out
  obtain rfl := hrun
  simp only [hf, runWith]

end Scan

variable {r : ContextRuleSummary}

section Window

variable {P : ContextRuleSummary → Prop}

theorem rule_eq_some_iff {id : Nat} {rule : ScVal} :
    t.rule id = some rule ↔ (id, rule) ∈ t.rules := by
  unfold RuleTable.rule
  constructor
  · intro h
    obtain ⟨r, hfind, rfl⟩ := map_eq_some_iff.mp h
    have hmem := mem_of_find?_eq_some hfind
    have hid := find?_some hfind
    rw [beq_iff_eq] at hid
    exact hid ▸ hmem
  · intro h
    have hsome : (t.rules.find? fun r => r.1 == id).isSome = true :=
      find?_isSome.mpr ⟨(id, rule), h, beq_self_eq_true id⟩
    obtain ⟨r, hfind⟩ := isSome_iff_exists.mp hsome
    have hid := find?_some hfind
    rw [beq_iff_eq] at hid
    have hr : r = (id, rule) :=
      inj_on_of_nodup_map t.ids_nodup (mem_of_find?_eq_some hfind) h hid
    rw [hfind, hr]
    rfl

theorem toNat_succ_of_window {n : Nat} {id : UInt32}
    (hn : id.toNat + (n + 1) ≤ maxContextRuleScan.toNat) : (id + 1).toNat = id.toNat + 1 := by
  have h64 : maxContextRuleScan.toNat = 64 := rfl
  have h1 : (1 : UInt32).toNat = 1 := rfl
  rw [UInt32.toNat_add, h1]
  omega

theorem mem_window {n : Nat} {id : UInt32} (hn : id.toNat + n ≤ maxContextRuleScan.toNat) :
    r ∈ t.window n id ↔ (id.toNat ≤ r.id.toNat ∧ r.id.toNat < id.toNat + n) ∧
      t.Live (fun r' => r' = r) r.id := by
  induction n generalizing id with
  | zero =>
    simp only [window, not_mem_nil, false_iff, not_and]
    intro hrange
    omega
  | succ n ih =>
    have hnext := toNat_succ_of_window hn
    have hfirst : r ∈ ((t.rule id.toNat).map (parseContextRuleSummary id)).toList ↔
        r.id = id ∧ t.Live (fun r' => r' = r) r.id := by
      rw [mem_toList, map_eq_some_iff]
      constructor
      · rintro ⟨rule, hrule, rfl⟩
        exact ⟨rfl, rule, rule_eq_some_iff.mp hrule, rfl⟩
      · rintro ⟨rfl, rule, hrule, hr⟩
        exact ⟨rule, rule_eq_some_iff.mpr hrule, hr⟩
    unfold window
    rw [mem_append, ih (by omega), hnext, hfirst, ← UInt32.toNat_inj]
    constructor
    · rintro (⟨hid, hlive⟩ | ⟨hrange, hlive⟩)
      · exact ⟨by omega, hlive⟩
      · exact ⟨by omega, hlive⟩
    · rintro ⟨hrange, hlive⟩
      by_cases hid : r.id.toNat = id.toNat
      · exact .inl ⟨hid, hlive⟩
      · exact .inr ⟨by omega, hlive⟩

theorem limit_le (t : RuleTable) : (0 : UInt32).toNat + t.limit ≤ maxContextRuleScan.toNat := by
  have hzero : (0 : UInt32).toNat = 0 := rfl
  have hle : t.limit ≤ maxContextRuleScan.toNat := Nat.min_le_right _ _
  omega

theorem mem_scanned : r ∈ t.scanned ↔ r.id.toNat < t.limit ∧ t.Live (fun r' => r' = r) r.id := by
  have hzero : (0 : UInt32).toNat = 0 := rfl
  rw [scanned, mem_window (limit_le t), hzero]
  simp

theorem live_of_scanned (hr : r ∈ t.scanned)
    (hP : P r) : r.id < maxContextRuleScan ∧ t.Live P r.id := by
  obtain ⟨hlt, rule, hrule, hparse⟩ := mem_scanned.mp hr
  refine ⟨UInt32.lt_iff_toNat_lt.mpr (Nat.lt_of_lt_of_le hlt (Nat.min_le_right _ _)), rule, hrule, ?_⟩
  rw [hparse]
  exact hP

theorem exists_scanned_of_has (hdense : t.Dense) (h : t.Has P) : ∃ r ∈ t.scanned, P r := by
  obtain ⟨id, hid, rule, hrule, hP⟩ := h
  rw [UInt32.lt_iff_toNat_lt] at hid
  refine ⟨parseContextRuleSummary id rule, mem_scanned.mpr ⟨?_, rule, hrule, rfl⟩, hP⟩
  exact Nat.lt_min.mpr ⟨hdense _ _ hrule hid, hid⟩

end Window

section Find

theorem visitAll_first (m : ContextRuleSummary → Bool) (rules : List ContextRuleSummary) :
    visitAll (fun (_ : Unit) id rule => if m rule then .inr id else .inl ()) () rules =
      match rules.find? m with
      | some r => .inr r.id
      | none => .inl () := by
  induction rules with
  | nil => rfl
  | cons rule rules ih =>
    by_cases hm : m rule = true
    · simp [visitAll, hm]
    · simp [visitAll, hm, ih]

theorem visitAll_pick (m d : ContextRuleSummary → Bool)
    (visit : Option UInt32 → UInt32 → ContextRuleSummary → Option UInt32 ⊕ UInt32)
    (hvisit : ∀ b id rule, visit b id rule =
      if m rule then .inr id else .inl (b.or (if d rule then some id else none)))
    (b : Option UInt32) (rules : List ContextRuleSummary) :
    visitAll visit b rules =
      match rules.find? m with
      | some r => .inr r.id
      | none => .inl (b.or ((rules.find? d).map ContextRuleSummary.id)) := by
  induction rules generalizing b with
  | nil => simp [visitAll]
  | cons rule rules ih =>
    rw [visitAll, hvisit]
    by_cases hm : m rule = true
    · simp [hm]
    by_cases hd : d rule = true
    · simp only [hm, hd, Bool.false_eq_true, if_false, if_true, ih, find?_cons_of_neg,
        find?_cons_of_pos, not_false_eq_true]
      cases rules.find? m with
      | some r => rfl
      | none => cases b <;> simp
    · simp [hm, hd, ih]

theorem prefers_of_pick (hdense : t.Dense) (m d : ContextRuleSummary → Bool)
    (found : UInt32 → ContextRuleDiscovery → Prop)
    (hmatched : ∀ r, t.scanned.find? m = some r → found r.id .matched)
    (hdefault : ∀ r, t.scanned.find? m = none → t.scanned.find? d = some r → found r.id .default) :
    t.Prefers (fun r => m r = true) (fun r => d r = true) found where
  preferred h := by
    obtain ⟨r, hr, hm⟩ := exists_scanned_of_has hdense h
    obtain ⟨r', hfind⟩ := isSome_iff_exists.mp (find?_isSome.mpr ⟨r, hr, hm⟩)
    exact ⟨r'.id, hmatched r' hfind,
      (live_of_scanned (mem_of_find?_eq_some hfind) (find?_some hfind)).2⟩
  otherwise hnone h := by
    obtain ⟨r, hr, hd⟩ := exists_scanned_of_has hdense h
    obtain ⟨r', hfind⟩ := isSome_iff_exists.mp (find?_isSome.mpr ⟨r, hr, hd⟩)
    have hno : t.scanned.find? m = none := by
      refine find?_eq_none.mpr fun r'' hr'' hm => hnone ?_
      exact ⟨r''.id, live_of_scanned hr'' hm⟩
    exact ⟨r'.id, hdefault r' hno hfind,
      (live_of_scanned (mem_of_find?_eq_some hfind) (find?_some hfind)).2⟩

end Find

section Complete

theorem result_listContextRules (t : RuleTable) : t.result listContextRules = .ok t.scanned := by
  have hall : ∀ (rules acc : List ContextRuleSummary),
      visitAll (fun rules _ rule => (.inl (rules ++ [rule]) : List ContextRuleSummary ⊕ Empty)) acc
        rules = .inl (acc ++ rules) := by
    intro rules
    induction rules with
    | nil => simp [visitAll]
    | cons rule rules ih => simp [visitAll, ih]
  refine t.result_scanRules_bind ?_
  rw [hall]
  rfl

theorem result_discoverDefaultContextRule (h : t.scanned.find? (fun r => r.isDefault) = some r) :
    t.result discoverDefaultContextRule = .ok (r.id, .default) := by
  refine t.result_scanRules_bind ?_
  rw [visitAll_first, h]
  rfl

theorem visitAll_discover (target : String) (rules : List ContextRuleSummary) :
    visitAll (fun default id rule =>
        let default := if rule.isDefault ∧ default.isNone then some id else default
        if rule.callContractAddress = target then .inr id else .inl default) none rules =
      match rules.find? fun r => decide (r.callContractAddress = target) with
      | some r => .inr r.id
      | none => .inl ((rules.find? ContextRuleSummary.isDefault).map ContextRuleSummary.id) := by
  rw [visitAll_pick (fun r => decide (r.callContractAddress = target)) ContextRuleSummary.isDefault]
  · simp
  intro b id rule
  by_cases hm : rule.callContractAddress = target
  · simp [hm]
  · cases b <;> cases rule.isDefault <;> simp [hm]

theorem visitAll_signer (verifier keyData target : String) (rules : List ContextRuleSummary) :
    visitAll (fun default id rule =>
        if ruleHasExactExternalSigner rule verifier keyData then
          if target ≠ "" ∧ rule.callContractAddress = target then .inr id
          else .inl (if rule.isDefault ∧ default.isNone then some id else default)
        else .inl default) none rules =
      match rules.find? fun r => ruleHasExactExternalSigner r verifier keyData &&
          decide (target ≠ "" ∧ r.callContractAddress = target) with
      | some r => .inr r.id
      | none => .inl ((rules.find? fun r => ruleHasExactExternalSigner r verifier keyData &&
          r.isDefault).map ContextRuleSummary.id) := by
  rw [visitAll_pick (fun r => ruleHasExactExternalSigner r verifier keyData &&
    decide (target ≠ "" ∧ r.callContractAddress = target))
    (fun r => ruleHasExactExternalSigner r verifier keyData && r.isDefault)]
  · simp
  intro b id rule
  by_cases hs : ruleHasExactExternalSigner rule verifier keyData = true
  · by_cases hm : target ≠ "" ∧ rule.callContractAddress = target
    · simp [hs, hm]
    · cases b <;> cases rule.isDefault <;> simp [hs, hm]
  · simp [hs]

theorem complete_of_dense (hdense : t.Dense) : t.ScansComplete where
  list := by
    refine ⟨t.scanned, t.result_listContextRules, fun id rule hrule hid => ?_⟩
    rw [UInt32.lt_iff_toNat_lt] at hid
    exact mem_scanned.mpr ⟨Nat.lt_min.mpr ⟨hdense _ _ hrule hid, hid⟩, rule, hrule, rfl⟩
  default h := by
    obtain ⟨r, hr, hd⟩ := exists_scanned_of_has hdense h
    obtain ⟨r', hfind⟩ := isSome_iff_exists.mp (find?_isSome.mpr ⟨r, hr, hd⟩)
    exact ⟨r'.id, result_discoverDefaultContextRule hfind,
      (live_of_scanned (mem_of_find?_eq_some hfind) (find?_some hfind)).2⟩
  contract target := by
    have hprefers := prefers_of_pick hdense (fun r => decide (r.callContractAddress = target))
      ContextRuleSummary.isDefault
      (fun id how => t.result (discoverContextRule target) = .ok (id, how)) ?_ ?_
    · simpa only [decide_eq_true_eq] using hprefers
    · intro r hm
      refine t.result_scanRules_bind ?_
      rw [visitAll_discover, hm]
      rfl
    · intro r hm hd
      refine t.result_scanRules_bind ?_
      rw [visitAll_discover, hm, hd]
      rfl
  signer verifier keyData target := by
    have hprefers := prefers_of_pick hdense (fun r => ruleHasExactExternalSigner r verifier keyData &&
      decide (target ≠ "" ∧ r.callContractAddress = target))
      (fun r => ruleHasExactExternalSigner r verifier keyData && r.isDefault)
      (fun id how =>
        t.result (findRuleForSigner verifier keyData target) = .ok (some (id, how))) ?_ ?_
    · simpa only [Bool.and_eq_true, decide_eq_true_eq] using hprefers
    · intro r hm
      refine t.result_scanRules_bind ?_
      rw [visitAll_signer, hm]
      rfl
    · intro r hm hd
      refine t.result_scanRules_bind ?_
      rw [visitAll_signer, hm, hd]
      rfl

theorem dense_of_complete (h : t.ScansComplete) : t.Dense := by
  intro id rule hrule hid
  obtain ⟨rules, hrules, hall⟩ := h.list
  rw [result_listContextRules] at hrules
  cases hrules
  have hnat : (UInt32.ofNat id).toNat = id :=
    UInt32.toNat_ofNat_of_lt' (Nat.lt_trans (t.ids_lt _ hrule) t.next_lt)
  have hmem := hall (UInt32.ofNat id) rule (hnat.symm ▸ hrule)
    (UInt32.lt_iff_toNat_lt.mpr (hnat.symm ▸ hid))
  have hlt : (UInt32.ofNat id).toNat < t.limit := (mem_scanned.mp hmem).1
  rw [hnat] at hlt
  exact Nat.lt_of_lt_of_le hlt (Nat.min_le_left _ _)

end Complete

end RuleTable

/-- After every history the scans miss no live rule exactly if no live rule has an id beyond the
number of live rules. -/
theorem scans_complete_iff_dense (events : List RuleEvent) :
    (RuleTable.after events).ScansComplete ↔ (RuleTable.after events).Dense :=
  ⟨RuleTable.dense_of_complete, RuleTable.complete_of_dense⟩

namespace Sample

def defaultRule (name : String) : ScVal :=
  scMap [(scSymbol "context_type", scVec [scSymbol "Default"]), (scSymbol "name", .string name)]

def backupRemoved : List RuleEvent :=
  [.add (defaultRule "first"), .add (defaultRule "backup"), .add (defaultRule "later"), .remove 1]

theorem later_rule_missed : ¬ (RuleTable.after backupRemoved).ScansComplete := by
  intro hcomplete
  have hdense := RuleTable.dense_of_complete hcomplete 2 (defaultRule "later") (by
    simp [RuleTable.after, backupRemoved, RuleTable.step, RuleTable.add, RuleTable.remove,
      RuleTable.empty]) (by decide)
  exact absurd hdense (by decide)

end Sample

end LatchApi.Rules
