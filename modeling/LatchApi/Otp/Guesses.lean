import Mathlib.Data.Int.Interval
import LatchApi.Otp.Runs

namespace LatchApi.Otp

open Lib Program List Option Lib.System Lib.Thread

def Complete {address : String} (t : OtpThread address) : Prop :=
  t.history.any isSet = true → t.history.any isReset = true

instance {address : String} (t : OtpThread address) : Decidable (Complete t) := by
  unfold Complete; infer_instance

def Current (address : String) (r : Redis) (stored : Stored) : Prop :=
  (r.lookup (codeKey address)).map RedisEntry.stamp = some stored.stamp

instance (address : String) (r : Redis) (stored : Stored) : Decidable (Current address r stored) := by
  unfold Current; infer_instance

/-- An attempt is counted while the code it has read is still stored and every `Generate` is
complete; and a `Generate` deletes the counter only after it has stored its code. -/
def countsFairly (address : String) : OtpSchedule address := fun r others t op =>
  match op with
  | .incr _ =>
    (∀ stored ∈ reads t.history, Current address r stored) ∧ ∀ u ∈ others, Complete u
  | .del [_] => stamps t.history ≠ []
  | _ => True

instance (address : String) (r : Redis) (others : List (OtpThread address)) (t : OtpThread address)
    (op : Op) : Decidable (countsFairly address r others t op) := by
  unfold countsFairly
  split <;> infer_instance

def Outlives (address : String) (r : Redis) : Prop :=
  ∀ e x a, r.entries (codeKey address) = some e → e.expiresAt = some x →
    r.entries (attemptsKey address) = some a →
      (∃ m : Int, a.value = .integer m ∧ 1 ≤ m) ∧ ∀ y, a.expiresAt = some y → x ≤ y

def Reached (address : String) (r : Redis) (n : Int) : Prop :=
  ∃ a m, r.entries (attemptsKey address) = some a ∧ a.value = .integer m ∧ n ≤ m

structure Fair {address : String} (c : OtpConfig address) : Prop where
  stamped : Stamped c
  expiry : ∀ e, c.state.entries (codeKey address) = some e →
    ∃ x, e.expiresAt = some x ∧ x ≤ c.state.time + otpTTL
  outlives : (∀ t ∈ c.threads, Complete t) → Outlives address c.state
  counted : ∀ t ∈ c.threads, ∀ stored ∈ reads t.history, ∀ n ∈ counts t.history,
    ¬ Numbered address (· ≠ stored.stamp) c.state → Reached address c.state n
  resetting : ∀ u ∈ c.threads, stamps u.history ≠ [] → u.history.any isReset = false →
    ∀ t ∈ c.threads, counts t.history ≠ [] → ∀ stored ∈ reads t.history,
      Numbered address (· ≠ stored.stamp) c.state
  positive : ∀ t ∈ c.threads, ∀ n ∈ counts t.history, 1 ≤ n
  distinct : c.threads.Pairwise fun t u => ∀ stored ∈ reads t.history, ∀ stored' ∈ reads u.history,
    stored.stamp = stored'.stamp → ∀ n ∈ counts t.history, n ∉ counts u.history
  compared : ∀ t ∈ c.threads, ∀ stored code r, ⟨Op.compare stored code, r⟩ ∈ t.history →
    stored ∈ reads t.history ∧ ∃ n ∈ counts t.history, n ≤ otpMaxAttempts

variable {address : String} {r : Redis} {stored : Stored}

section State

variable {r' : Redis}

theorem Current.not_numbered (h : Current address r stored) :
    ¬ Numbered address (· ≠ stored.stamp) r := by
  obtain ⟨e, he, hstamp⟩ := map_eq_some_iff.mp h
  exact fun hn => hn e (Redis.lookup_eq_some.mp he).1 hstamp

theorem incr_spec {n : Int} (hout : Outlives address r)
    (hexp : ∀ e, r.entries (codeKey address) = some e → ∃ x, e.expiresAt = some x)
    (hcur : Current address r stored) (h : r.incr (attemptsKey address) = some (n, r')) :
    (∀ m, Reached address r m → m < n) ∧ 1 ≤ n ∧ Reached address r' n ∧ Outlives address r' := by
  obtain ⟨e, he, -⟩ := map_eq_some_iff.mp hcur
  obtain ⟨he, hlive⟩ := Redis.lookup_eq_some.mp he
  obtain ⟨x, hx⟩ := hexp e he
  have hcode := (incr_code h).1
  cases ha : r.entries (attemptsKey address) with
  | none =>
    have hnone : r.lookup (attemptsKey address) = none := by simp [Redis.lookup, ha]
    simp only [Redis.incr, hnone, some.injEq, Prod.mk.injEq] at h
    obtain ⟨rfl, rfl⟩ := h
    refine ⟨fun m hm => ?_, Int.le_refl 1, ⟨⟨.integer 1, r.stamps, none⟩, 1, ?_, rfl, Int.le_refl 1⟩,
      fun e' x' a he' hx' ha' => ?_⟩
    · obtain ⟨a, -, ha', -⟩ := hm
      rw [ha] at ha'
      cases ha'
    · simp [Redis.put]
    · simp only [Redis.put, Function.update_self, some.injEq] at ha'
      subst ha'
      exact ⟨⟨1, rfl, Int.le_refl 1⟩, by simp⟩
  | some a =>
    obtain ⟨⟨m, hm, hpos⟩, hy⟩ := hout e x a he hx ha
    -- the counter does not expire before the code
    have halive : a.live r.time = true := by
      cases hexpires : a.expiresAt with
      | none => simp [RedisEntry.live, hexpires]
      | some y =>
        have hle := hy y hexpires
        simp only [RedisEntry.live, hx, all_some, decide_eq_true_eq] at hlive
        simp only [RedisEntry.live, hexpires, all_some, decide_eq_true_eq]
        omega
    have hlookup := Redis.lookup_eq_some.mpr ⟨ha, halive⟩
    simp only [Redis.incr, hlookup, hm, RedisValue.toInteger] at h
    split at h
    · cases h
      refine ⟨fun m' hm' => ?_, by omega,
        ⟨{ a with value := .integer (m + 1) }, m + 1, by simp [Redis.put], rfl, Int.le_refl _⟩,
        fun e' x' a' he' hx' ha' => ?_⟩
      · obtain ⟨a', k, ha', hk, hle⟩ := hm'
        rw [ha] at ha'
        cases ha'
        rw [hm] at hk
        obtain rfl := RedisValue.integer.inj hk
        omega
      · simp only [Redis.put, Function.update_self, some.injEq] at ha'
        subst ha'
        refine ⟨⟨m + 1, rfl, by omega⟩, fun y hy' => ?_⟩
        rw [hcode, he] at he'
        cases he'
        rw [hx] at hx'
        cases hx'
        exact hy y hy'
    · cases h

theorem expire_attempts (address : String) (r : Redis) (ttl : Int) :
    (r.expire (attemptsKey address) ttl).entries (attemptsKey address) =
        r.entries (attemptsKey address) ∨
      ∃ a, r.entries (attemptsKey address) = some a ∧
        (r.expire (attemptsKey address) ttl).entries (attemptsKey address) =
          some { a with expiresAt := some (r.time + ttl) } := by
  unfold Redis.expire
  split
  · exact .inl rfl
  · rename_i a ha
    exact .inr ⟨a, (Redis.lookup_eq_some.mp ha).1, by simp [Redis.put]⟩

theorem Outlives.expire (hout : Outlives address r)
    (hexp : ∀ e, r.entries (codeKey address) = some e →
      ∃ x, e.expiresAt = some x ∧ x ≤ r.time + otpTTL) :
    Outlives address (r.expire (attemptsKey address) otpTTL) := by
  intro e x a he hx ha
  rw [(expire_code address r otpTTL).1] at he
  rcases expire_attempts address r otpTTL with heq | ⟨a', ha', heq⟩
  · exact hout e x a he hx (heq ▸ ha)
  rw [heq] at ha
  cases ha
  refine ⟨(hout e x a' he hx ha').1, fun y hy => ?_⟩
  obtain ⟨x', hx', hle⟩ := hexp e he
  rw [hx] at hx'
  cases hx'
  cases hy
  exact hle

theorem Reached.expire {n : Int} (h : Reached address r n) (ttl : Int) :
    Reached address (r.expire (attemptsKey address) ttl) n := by
  obtain ⟨a, m, ha, hm, hle⟩ := h
  rcases expire_attempts address r ttl with heq | ⟨a', ha', heq⟩
  · exact ⟨a, m, heq ▸ ha, hm, hle⟩
  rw [ha] at ha'
  cases ha'
  exact ⟨_, m, heq, hm, hle⟩

theorem outlives_remove : Outlives address (r.del [codeKey address, attemptsKey address]) := by
  intro e x a he
  rw [remove_code] at he
  cases he

theorem outlives_reset : Outlives address (r.del [attemptsKey address]) := by
  intro e x a _ _ ha
  simp [Redis.del] at ha

end State

section Step

variable {before after : List (OtpThread address)} {t : OtpThread address} {op : Op}
  {next : Res op → Program Op Res OtpError Answer} {ch : Choice} {n : Int}

theorem isSet_of_stamps {h : History} (hs : stamps h ≠ []) : h.any isSet = true := by
  obtain ⟨n, hn⟩ := exists_mem_of_ne_nil _ hs
  obtain ⟨⟨op, ans⟩, he, hstamp⟩ := mem_filterMap.mp hn
  refine any_eq_true.mpr ⟨_, he, ?_⟩
  cases op with
  | set k value ttl => rfl
  | _ => cases hstamp

section

variable (h : Fair ⟨r, before ++ t :: after⟩) (hg : guard address t.history op)

include h hg

theorem Fair.counting (hallow : countsFairly address r (before ++ after) t op)
    (hop : op = .incr (attemptsKey address)) {r' : Redis}
    (hincr : r.incr (attemptsKey address) = some (n, r')) :
    (∀ m, Reached address r m → m < n) ∧ 1 ≤ n ∧ Reached address r' n ∧ Outlives address r' := by
  subst hop
  obtain ⟨-, hset, -, stored, hread⟩ := hg
  obtain ⟨hcur, hothers⟩ := hallow
  have hcomplete : ∀ u ∈ before ++ t :: after, Complete u := by
    intro u hu
    rcases mem_advanced hu with rfl | hu
    · intro h
      rw [hset] at h
      cases h
    · exact hothers u hu
  refine incr_spec (h.outlives hcomplete) (fun e he => ?_)
    (hcur stored (by rw [hread]; exact mem_singleton_self _)) hincr
  obtain ⟨x, hx, -⟩ := h.expiry e he
  exact ⟨x, hx⟩

theorem Fair.expiry_act : ∀ e, (exec op r ch).2.entries (codeKey address) = some e →
      ∃ x, e.expiresAt = some x ∧ x ≤ (exec op r ch).2.time + otpTTL := by
  refine exec_keeps (P := fun r' => ∀ e, r'.entries (codeKey address) = some e →
    ∃ x, e.expiresAt = some x ∧ x ≤ r'.time + otpTTL) hg h.expiry ?_ ?_ ?_ ?_ ?_
  · intro value _ e he
    rw [set_code] at he
    cases he
    exact ⟨_, rfl, Int.le_refl _⟩
  · intro _ e he
    rw [remove_code] at he
    cases he
  · intro _ e he
    rw [reset_code] at he
    exact h.expiry e he
  · intro n r' _ hincr e he
    obtain ⟨hcode, htime, -⟩ := incr_code hincr
    rw [hcode] at he
    rw [htime]
    exact h.expiry e he
  · intro e he
    obtain ⟨hcode, htime, -⟩ := expire_code address r otpTTL
    rw [hcode] at he
    rw [htime]
    exact h.expiry e he

theorem Fair.outlives_act (hallow : countsFairly address r (before ++ after) t op)
    (hcomplete : ∀ u ∈ before ++ t.advance op (exec op r ch).1 next :: after, Complete u) :
    Outlives address (exec op r ch).2 := by
  by_cases hreset : isReset ⟨op, (exec op r ch).1⟩ = true
  · rw [exec_reset hg hreset]
    exact outlives_reset
  have hadvanced := hcomplete _ (mem_append_right _ mem_cons_self)
  simp only [Complete, advance_history, any_cons, hreset, Bool.false_or,
    Bool.or_eq_true] at hadvanced
  have hold : ∀ u ∈ before ++ t :: after, Complete u := by
    intro u hu
    rcases mem_advanced hu with rfl | hu
    · exact fun hset => hadvanced (.inr hset)
    · exact hcomplete u (mem_of_others hu)
  refine exec_keeps hg (h.outlives hold) ?_ (fun _ => outlives_remove) (fun _ => outlives_reset)
    (fun n r' hop hincr => (h.counting hg hallow hop hincr).2.2.2)
    ((h.outlives hold).expire h.expiry)
  -- a `Generate` that has just sent its code is not complete
  rintro value rfl
  have hdone := hadvanced (.inl rfl)
  rw [hg.2.2] at hdone
  cases hdone

theorem Fair.counted_act (hallow : countsFairly address r (before ++ after) t op) :
    ∀ u ∈ before ++ t :: after, ∀ stored ∈ reads u.history, ∀ n ∈ counts u.history,
      ¬ Numbered address (· ≠ stored.stamp) (exec op r ch).2 →
        Reached address (exec op r ch).2 n := by
  intro u hu stored hst n hn hcur
  have hcur' : ¬ Numbered address (· ≠ stored.stamp) r := fun hnum =>
    hcur ((exec_change hg).numbered hnum (Nat.ne_of_gt (h.stamped.read u hu stored hst)))
  have hreached := h.counted u hu stored hst n hn hcur'
  revert hcur
  refine exec_keeps (P := fun r' => ¬ Numbered address (· ≠ stored.stamp) r' →
    Reached address r' n) hg (fun _ => hreached) ?_ ?_ ?_ ?_ ?_
  · intro value _ _
    obtain ⟨a, m, ha, hm, hle⟩ := hreached
    exact ⟨a, m, by rw [set_attempts]; exact ha, hm, hle⟩
  · exact fun _ hcur => absurd numbered_remove hcur
  · -- the counter is not deleted while attempts at the stored code are counted
    rintro rfl
    rcases hg with hg | ⟨-, -, hreset⟩
    · exact absurd (congrArg length hg) (by simp)
    · exact absurd (h.resetting t (by simp) hallow hreset u hu (ne_nil_of_mem hn) stored hst)
        hcur'
  · intro m r' hop hincr _
    obtain ⟨hlt, -, ⟨a, k, ha, hk, hle⟩, -⟩ := h.counting hg hallow hop hincr
    exact ⟨a, k, ha, hk, Int.le_trans (Int.le_of_lt (hlt n hreached)) hle⟩
  · exact fun _ => hreached.expire otpTTL

end

theorem counts_advance (hg : guard address t.history op)
    (hn : n ∈ counts (t.advance op (exec op r ch).1 next).history) :
    n ∈ counts t.history ∨ op = .incr (attemptsKey address) ∧
      r.incr (attemptsKey address) = some (n, (exec op r ch).2) := by
  rcases mem_view_advance hn with hn | hnew
  · exact .inl hn
  · exact .inr (exec_count hg hnew)

section

variable (hg : guard address t.history op)
  (hst : stored ∈ reads (t.advance op (exec op r ch).1 next).history)

include hg hst

theorem reads_advance : stored ∈ reads t.history ∨ t.history = [] ∧ ∃ k, op = .get k := by
  rcases mem_view_advance hst with hst | hnew
  · exact .inl hst
  refine .inr ⟨(exec_read hg hnew).1, ?_⟩
  cases op with
  | get k => exact ⟨k, rfl⟩
  | _ => cases hnew

theorem reads_of_counts (hn : n ∈ counts (t.advance op (exec op r ch).1 next).history) :
    stored ∈ reads t.history := by
  rcases reads_advance hg hst with hst | ⟨hempty, k, rfl⟩
  · exact hst
  rcases counts_advance hg hn with hn | ⟨hop, -⟩
  · simp [hempty, counts] at hn
  · cases hop

end

theorem Fair.resetting_act (h : Fair ⟨r, before ++ t :: after⟩) (hg : guard address t.history op)
    (hallow : countsFairly address r (before ++ after) t op) :
    ∀ u ∈ before ++ t.advance op (exec op r ch).1 next :: after, stamps u.history ≠ [] →
      u.history.any isReset = false →
        ∀ v ∈ before ++ t.advance op (exec op r ch).1 next :: after, counts v.history ≠ [] →
          ∀ stored ∈ reads v.history, Numbered address (· ≠ stored.stamp) (exec op r ch).2 := by
  intro u hu hstamps hreset v hv hcounts stored hst
  have ht : t ∈ before ++ t :: after := by simp
  have hchange : Change address r (exec op r ch).2 := exec_change hg
  obtain ⟨n, hn⟩ := exists_mem_of_ne_nil _ hcounts
  -- the call that has counted, before this step
  have hold : ∃ w ∈ before ++ t :: after, stored ∈ reads w.history ∧
      (counts w.history ≠ [] ∨ op = .incr (attemptsKey address)) := by
    rcases mem_advanced hv with rfl | hv
    · refine ⟨t, ht, reads_of_counts hg hst hn, ?_⟩
      rcases counts_advance hg hn with hn | ⟨hop, -⟩
      · exact .inl (ne_nil_of_mem hn)
      · exact .inr hop
    · exact ⟨v, mem_of_others hv, hst, .inl hcounts⟩
  obtain ⟨w, hw, hst', hcounted⟩ := hold
  have hkeep : Numbered address (· ≠ stored.stamp) r →
      Numbered address (· ≠ stored.stamp) (exec op r ch).2 := fun hnum =>
    hchange.numbered hnum (Nat.ne_of_gt (h.stamped.read w hw stored hst'))
  rcases mem_advanced hu with rfl | hother
  · obtain ⟨stamp, hstamp⟩ := exists_mem_of_ne_nil _ hstamps
    simp only [advance_history, any_cons, Bool.or_eq_false_iff] at hreset
    rcases mem_view_advance hstamp with hstamp | hnew
    · have hset := isSet_of_stamps (ne_nil_of_mem hstamp)
      rcases hcounted with hcounted | rfl
      · exact hkeep (h.resetting t ht (ne_nil_of_mem hstamp) hreset.2 w hw hcounted stored hst')
      · rw [hg.2.1] at hset
        cases hset
    · obtain ⟨-, value, heq⟩ := exec_stamp hg hnew
      rw [heq]
      intro e he
      rw [set_code] at he
      cases he
      exact Nat.ne_of_gt (h.stamped.read w hw stored hst')
  · rcases hcounted with hcounted | rfl
    · exact hkeep (h.resetting u (mem_of_others hother) hstamps hreset w hw hcounted stored hst')
    have hdone := hallow.2 u hother (isSet_of_stamps hstamps)
    rw [hreset] at hdone
    cases hdone

theorem Fair.act (ch : Choice) (h : Fair ⟨r, before ++ t :: after⟩)
    (hg : guard address t.history op) (hallow : countsFairly address r (before ++ after) t op) :
    Fair ⟨(exec op r ch).2, before ++ t.advance op (exec op r ch).1 next :: after⟩ where
  stamped := h.stamped.act ch hg
  expiry := h.expiry_act hg
  outlives := h.outlives_act hg hallow
  resetting := h.resetting_act hg hallow
  counted := by
    refine forall_advanced (h.counted_act hg hallow) (fun _ h => h) ?_
    intro stored hst n hn hcur
    rcases counts_advance hg hn with hold | ⟨hop, hincr⟩
    · exact h.counted_act hg hallow t (by simp) stored (reads_of_counts hg hst hn) n hold hcur
    · exact (h.counting hg hallow hop hincr).2.2.1
  positive := by
    refine forall_advanced h.positive (fun _ h => h) ?_
    intro n hn
    rcases counts_advance hg hn with hold | ⟨hop, hincr⟩
    · exact h.positive t (by simp) n hold
    · exact (h.counting hg hallow hop hincr).2.1
  distinct := by
    refine pairwise_advanced ?_ h.distinct ?_
    · exact fun hR stored hst stored' hst' heq n hn hn' => hR stored' hst' stored hst heq.symm n hn' hn
    intro u hu hR stored hst stored' hst' heq n hn hn'
    have hread := reads_of_counts hg hst hn
    rcases counts_advance hg hn with hold | ⟨hop, hincr⟩
    · exact hR stored hread stored' hst' heq n hold hn'
    have hmem : u ∈ before ++ t :: after := mem_of_others hu
    have hlt := (h.counting hg hallow hop hincr).1
    subst hop
    have hcur := (hallow.1 stored hread).not_numbered
    rw [heq] at hcur
    exact Int.lt_irrefl n (hlt n (h.counted u hmem stored' hst' n hn' hcur))
  compared := by
    refine forall_advanced h.compared (fun _ h => h) ?_
    intro stored code ans hmem
    have hkeep : stored ∈ reads t.history ∧ ∃ n ∈ counts t.history, n ≤ otpMaxAttempts := by
      rcases Thread.mem_advance hmem with ⟨rfl, -⟩ | hmem
      · exact hg
      · exact h.compared t (by simp) stored code ans hmem
    obtain ⟨hread, n, hn, hle⟩ := hkeep
    have hsub : t.history ⊆ (t.advance op (exec op r ch).1 next).history :=
      subset_cons_self _ _
    exact ⟨filterMap_subset _ hsub hread, n, filterMap_subset _ hsub hn, hle⟩

end Step

section Runs

variable {ts : List (OtpThread address)}

theorem Fair.tick (h : Fair ⟨r, ts⟩) (d : Nat) : Fair ⟨r.tick d, ts⟩ where
  stamped := h.stamped.change (.tick d)
  expiry e he := by
    obtain ⟨x, hx, hle⟩ := h.expiry e he
    refine ⟨x, hx, Int.le_trans hle ?_⟩
    simp only [Redis.tick]
    omega
  outlives := h.outlives
  counted := h.counted
  resetting := h.resetting
  positive := h.positive
  distinct := h.distinct
  compared := h.compared

theorem Fair.arrive (h : Fair ⟨r, ts⟩) (req : Request address) :
    Fair ⟨r, ts ++ [⟨req, [], (otpSystem address).body req⟩]⟩ where
  stamped := h.stamped.arrive req
  expiry := h.expiry
  outlives hcomplete := h.outlives fun t ht => hcomplete t (mem_append_left _ ht)
  counted := forall_arrived h.counted (by simp [counts])
  resetting := by
    refine forall_arrived (fun u hu hs hr => ?_) (by simp [stamps])
    exact forall_arrived (h.resetting u hu hs hr) (by simp [counts])
  positive := forall_arrived h.positive (by simp [counts])
  distinct := by
    refine pairwise_arrived h.distinct fun t _ stored _ stored' hst' => ?_
    simp [reads] at hst'
  compared := forall_arrived h.compared (by simp)

variable {entries : String → Option RedisEntry} {time : Int} {n : Nat} {c : OtpConfig address}

theorem fair_of_reachable (hc : (otpSystem address).Reachable (countsFairly address)
    (start address entries time n) c) : Fair c := by
  refine Reachable.invariant (fun _ => discipline address) Fair
    (fun req => (obeys_body req).mono fun _ _ _ => trivial) exec_legal ?_ ?_ ?_ ?_ hc
  · refine ⟨stamped_start, ?_, ?_, ?_, ?_, ?_, .nil, ?_⟩ <;> simp [start, Outlives]
  · exact fun r ts req h => h.arrive req
  · intro r r' ts d hd h
    cases hd
    exact h.tick d
  · exact fun r before after t op next ch _ hallow hg h => h.act ch hg hallow

def comparedWith (stamp : Nat) (t : OtpThread address) : Bool :=
  t.history.any fun e =>
    match e with
    | ⟨.compare stored _, _⟩ => stored.stamp == stamp
    | _ => false

theorem exists_of_comparedWith {stamp : Nat} {t : OtpThread address}
    (h : comparedWith stamp t = true) :
    ∃ stored code ans, ⟨Op.compare stored code, ans⟩ ∈ t.history ∧ stored.stamp = stamp := by
  obtain ⟨⟨op, ans⟩, he, hmatch⟩ := any_eq_true.mp h
  cases op with
  | compare stored code => exact ⟨stored, code, ans, he, beq_iff_eq.mp hmatch⟩
  | _ => cases hmatch

theorem guesses_le_of_countsFairly (address : String) (entries : String → Option RedisEntry)
    (time : Int) (n : Nat) (c : OtpConfig address)
    (hc : (otpSystem address).Reachable (countsFairly address) (start address entries time n) c)
    (stamp : Nat) : (c.threads.filter (comparedWith stamp)).length ≤ 5 := by
  have hfair := fair_of_reachable hc
  -- the labels are the counts under which the calls have compared
  have hlabel : ∀ t ∈ c.threads.filter (comparedWith stamp), ∃ k ∈ Finset.Icc (1 : Int) 5,
      k ∈ counts t.history ∧ ∃ stored ∈ reads t.history, stored.stamp = stamp := by
    intro t ht
    obtain ⟨ht, hcompared⟩ := mem_filter.mp ht
    obtain ⟨stored, code, ans, hmem, hstamp⟩ := exists_of_comparedWith hcompared
    obtain ⟨hread, k, hk, hle⟩ := hfair.compared t ht stored code ans hmem
    exact ⟨k, Finset.mem_Icc.mpr ⟨hfair.positive t ht k hk, hle⟩, hk, stored, hread, hstamp⟩
  have hcard : (Finset.Icc (1 : Int) 5).card = 5 := rfl
  rw [← hcard]
  refine length_le_of_labels hlabel ?_
  refine (hfair.distinct.filter _).imp ?_
  rintro t u hR k ⟨hk, stored, hread, hstamp⟩ ⟨hk', stored', hread', hstamp'⟩
  exact hR stored hread stored' hread' (hstamp.trans hstamp'.symm) k hk hk'

end Runs

namespace Sample

def guess : System.Move (Request "a@b") Choice Nat := .arrive (.verify email "000000")

def sevenInFlight : Moves :=
  generated ++ List.replicate 7 guess ++ (List.range 7).flatMap (fun i => acts (i + 1) 1) ++
    (List.range 7).flatMap fun i => acts (i + 1) 3

theorem six_guesses :
    ∃ c, (otpSystem "a@b").Reachable System.anySchedule (start "a@b" (fun _ => none) 0 0) c ∧
      (c.threads.filter (comparedWith 0)).length = 6 := by
  refine exists_reachable sevenInFlight ?_
  decide +kernel

def sevenInTurn : Moves :=
  generated ++ List.replicate 7 guess ++ (List.range 6).flatMap (fun i => acts (i + 1) 4) ++ acts 7 1

theorem five_guesses_in_turn :
    ∃ c, (otpSystem "a@b").Reachable (countsFairly "a@b") (start "a@b" (fun _ => none) 0 0) c ∧
      5 ≤ (c.threads.filter (comparedWith 0)).length ∧
      (c.threads.filter (comparedWith 0)).length ≤ 5 := by
  refine exists_reachable_and sevenInTurn ?_ fun c hrun _ =>
    guesses_le_of_countsFairly "a@b" (fun _ => none) 0 0 c hrun 0
  decide +kernel

end Sample

end LatchApi.Otp
