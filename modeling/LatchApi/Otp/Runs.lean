import LatchApi.Otp.Service

namespace LatchApi.Otp

open Lib Program List Lib.System

abbrev History := Log Res

def readOf : Event Res → Option Stored
  | ⟨.get _, .ok (some stored)⟩ => some stored
  | _ => none

def countOf : Event Res → Option Int
  | ⟨.incr _, .ok n⟩ => some n
  | _ => none

def stampOf : Event Res → Option Nat
  | ⟨.set _ _ _, .ok n⟩ => some n
  | _ => none

def isSet : Event Res → Bool
  | ⟨.set _ _ _, _⟩ => true
  | _ => false

def isReset : Event Res → Bool
  | ⟨.del [_], .ok _⟩ => true
  | _ => false

def isRemoval : Event Res → Bool
  | ⟨.del [_, _], .ok _⟩ => true
  | _ => false

def reads (h : History) : List Stored := h.filterMap readOf

def counts (h : History) : List Int := h.filterMap countOf

def stamps (h : History) : List Nat := h.filterMap stampOf

def guard (address : String) (h : History) : Op → Prop
  | .randInt _ => h = []
  | .get k => k = codeKey address ∧ h = []
  | .set k _ ttl => k = codeKey address ∧ ttl = otpTTL ∧ h.any isReset = false
  | .del ks =>
    ks = [codeKey address, attemptsKey address] ∨
      ks = [attemptsKey address] ∧ h.any isSet = true ∧ h.any isReset = false
  | .incr k =>
    k = attemptsKey address ∧ h.any isSet = false ∧ counts h = [] ∧ ∃ stored, reads h = [stored]
  | .expire k ttl => k = attemptsKey address ∧ ttl = otpTTL
  | .compare stored _ => stored ∈ reads h ∧ ∃ n ∈ counts h, n ≤ otpMaxAttempts

def discipline (address : String) : Discipline Op Res where
  legal
    | .compare stored code, r => r = decide (stored.text = code)
    | _, _ => True
  guard := guard address

def Ends (address : String) : Request address → History → Answer → Prop
  | .generate _, h, .code _ => ∃ n, n ∈ stamps h
  | .generate _, _, .verified _ => False
  | .verify _ code, h, .verified true =>
    (∃ stored ∈ reads h, stored.text = code) ∧ h.any isRemoval = true
  | .verify _ _, _, _ => True

variable {address : String}

section Obeys

variable {h : History}

theorem obeys_generate (email : Spelling address) : Obeys (discipline address) [] (generate email)
      (onOk fun h' _ => ∃ n, n ∈ stamps h') := by
  unfold generate
  rw [otpKey_spelling, otpAttemptsKey_spelling, obeys_perform_then]
  refine ⟨rfl, fun r _ => ?_⟩
  cases r with
  | error e => exact .fail trivial
  | ok n =>
    refine (obeys_perform_then ..).mpr ⟨⟨rfl, rfl, rfl⟩, fun stored _ => ?_⟩
    refine (obeys_perform_then ..).mpr ⟨.inr ⟨rfl, rfl, rfl⟩, fun reset _ => ?_⟩
    cases stored with
    | error e => exact .fail trivial
    | ok stamp =>
      cases reset with
      | error e => exact .fail trivial
      | ok u => exact .ok ⟨stamp, mem_cons_self⟩

theorem obeys_invalidate (context : String) (email : Spelling address) (answer : Bool) :
    Obeys (discipline address) h (invalidate context email answer)
      (onOk fun h' b => b = answer ∧ reads h' = reads h ∧ h'.any isRemoval = true) := by
  unfold invalidate
  rw [otpKey_spelling, otpAttemptsKey_spelling, obeys_perform_then]
  refine ⟨.inl rfl, fun r _ => ?_⟩
  cases r with
  | error e => exact .fail trivial
  | ok u => exact .ok ⟨rfl, rfl, rfl⟩

theorem obeys_verify (email : Spelling address) (code : String) :
    Obeys (discipline address) [] (verify email code)
      (onOk fun h' b => b = true →
        (∃ stored ∈ reads h', stored.text = code) ∧ h'.any isRemoval = true) := by
  unfold verify
  rw [otpKey_spelling, obeys_perform_then]
  refine ⟨⟨rfl, rfl⟩, fun r _ => ?_⟩
  cases r with
  | error e => exact .fail trivial
  | ok found =>
    cases found with
    | none => exact .ok nofun
    | some stored =>
      simp only [verifyStored]
      rw [otpAttemptsKey_spelling, obeys_perform_then]
      refine ⟨⟨rfl, rfl, rfl, stored, rfl⟩, fun incremented _ => ?_⟩
      refine (obeys_perform_then ..).mpr ⟨⟨rfl, rfl⟩, fun expires _ => ?_⟩
      cases incremented with
      | error e => exact .fail trivial
      | ok attempts =>
        cases expires with
        | error e => exact .fail trivial
        | ok u =>
          by_cases hmax : attempts > otpMaxAttempts
          · simp only [if_pos hmax]
            refine (obeys_invalidate _ email false).mono_onOk fun h' b hb htrue => ?_
            rw [hb.1] at htrue
            cases htrue
          · simp only [if_neg hmax]
            refine (obeys_perform_then ..).mpr ⟨⟨mem_cons_self, attempts, mem_cons_self,
              Int.not_lt.mp hmax⟩, fun matching hlegal => ?_⟩
            cases matching with
            | false => exact .ok nofun
            | true =>
              refine (obeys_invalidate _ email true).mono_onOk fun h' b hb _ => ?_
              obtain ⟨-, hreads, hremoved⟩ := hb
              refine ⟨⟨stored, ?_, of_decide_eq_true hlegal.symm⟩, hremoved⟩
              rw [hreads]
              exact mem_cons_self

theorem obeys_body (req : Request address) :
    Obeys (discipline address) [] ((otpSystem address).body req) (onOk (Ends address req)) := by
  cases req with
  | generate email => exact (obeys_generate email).bind_onOk fun h' _ hend => .ok hend
  | verify email code =>
    refine (obeys_verify email code).bind_onOk fun h' b hend => .ok ?_
    cases b with
    | false => trivial
    | true => exact hend rfl

end Obeys

inductive Change (address : String) (r : Redis) : Redis → Prop
  | same : Change address r r
  | set (value : String) : Change address r (r.set (codeKey address) value otpTTL)
  | remove : Change address r (r.del [codeKey address, attemptsKey address])
  | reset : Change address r (r.del [attemptsKey address])
  | count (n : Int) (r' : Redis) (h : r.incr (attemptsKey address) = some (n, r')) :
      Change address r r'
  | expire : Change address r (r.expire (attemptsKey address) otpTTL)
  | tick (d : Nat) : Change address r (r.tick d)

variable {r : Redis}

section Exec

variable {h : History} {op : Op} {ch : Choice}

section

variable (hg : guard address h op)

include hg

theorem exec_keeps {P : Redis → Prop} (hsame : P r)
    (hset : ∀ value, op = .set (codeKey address) value otpTTL →
      P (r.set (codeKey address) value otpTTL))
    (hremove : op = .del [codeKey address, attemptsKey address] →
      P (r.del [codeKey address, attemptsKey address]))
    (hreset : op = .del [attemptsKey address] → P (r.del [attemptsKey address]))
    (hcount : ∀ n r', op = .incr (attemptsKey address) →
      r.incr (attemptsKey address) = some (n, r') → P r')
    (hexpire : P (r.expire (attemptsKey address) otpTTL)) : P (exec op r ch).2 := by
  cases op with
  | set k value ttl =>
    obtain ⟨rfl, rfl, -⟩ := hg
    exact replied_cases hsame (hset value rfl) _ _ _
  | del ks =>
    rcases hg with rfl | ⟨rfl, -, -⟩
    · exact replied_cases hsame (hremove rfl) _ _ _
    · exact replied_cases hsame (hreset rfl) _ _ _
  | incr k =>
    obtain ⟨rfl, -⟩ := hg
    simp only [exec]
    split
    · rename_i n r' hincr
      exact replied_cases hsame (hcount n r' rfl hincr) _ _ _
    · exact hsame
  | expire k ttl =>
    obtain ⟨rfl, rfl⟩ := hg
    exact replied_cases hsame hexpire _ _ _
  | compare stored code => exact hsame
  | _ => exact replied_cases hsame hsame _ _ _

theorem exec_change : Change address r (exec op r ch).2 :=
  exec_keeps hg .same (fun value _ => .set value) (fun _ => .remove) (fun _ => .reset)
    (fun n r' _ hincr => .count n r' hincr) .expire

theorem exec_read {stored : Stored} (hread : readOf ⟨op, (exec op r ch).1⟩ = some stored) :
    h = [] ∧ (exec op r ch).2 = r ∧
      ∃ e, r.lookup (codeKey address) = some e ∧ stored = ⟨e.value.toText, e.stamp⟩ := by
  cases op with
  | get k =>
    obtain ⟨rfl, rfl⟩ := hg
    cases hr : (exec (.get (codeKey address)) r ch).1 with
    | error e =>
      rw [hr] at hread
      cases hread
    | ok found =>
      rw [hr] at hread
      cases found with
      | none => cases hread
      | some st =>
        cases hread
        obtain ⟨hfound, hsame⟩ := replied_ok hr
        obtain ⟨e, he, hst⟩ := Option.map_eq_some_iff.mp hfound.symm
        exact ⟨rfl, hsame, e, he, hst.symm⟩
  | _ => cases hread

theorem exec_count {n : Int} (hcount : countOf ⟨op, (exec op r ch).1⟩ = some n) :
    op = .incr (attemptsKey address) ∧
      r.incr (attemptsKey address) = some (n, (exec op r ch).2) := by
  cases op with
  | incr k =>
    obtain ⟨rfl, -⟩ := hg
    refine ⟨rfl, ?_⟩
    simp only [exec] at hcount ⊢
    split at hcount
    · rename_i m r' hincr
      cases hr : (replied Fault.failed ch.reply m r r').1 with
      | error e =>
        rw [hr] at hcount
        cases hcount
      | ok m' =>
        rw [hr] at hcount
        cases hcount
        obtain ⟨rfl, hstate⟩ := replied_ok hr
        rw [hincr]
        simp only [hstate]
    · cases hcount
  | _ => cases hcount

theorem exec_stamp {n : Nat} (hstamp : stampOf ⟨op, (exec op r ch).1⟩ = some n) :
    n = r.stamps ∧ ∃ value, (exec op r ch).2 = r.set (codeKey address) value otpTTL := by
  cases op with
  | set k value ttl =>
    obtain ⟨rfl, rfl, -⟩ := hg
    cases hr : (exec (.set (codeKey address) value otpTTL) r ch).1 with
    | error e =>
      rw [hr] at hstamp
      cases hstamp
    | ok m =>
      rw [hr] at hstamp
      cases hstamp
      obtain ⟨hm, hstate⟩ := replied_ok hr
      exact ⟨hm, value, hstate⟩
  | _ => cases hstamp

theorem exec_removal (hremoval : isRemoval ⟨op, (exec op r ch).1⟩ = true) :
    (exec op r ch).2 = r.del [codeKey address, attemptsKey address] := by
  cases op with
  | del ks =>
    rcases hg with rfl | ⟨rfl, -, -⟩
    · cases hr : (exec (.del [codeKey address, attemptsKey address]) r ch).1 with
      | error e =>
        rw [hr] at hremoval
        cases hremoval
      | ok u => exact (replied_ok hr).2
    · cases hremoval
  | _ => cases hremoval

theorem exec_reset (hreset : isReset ⟨op, (exec op r ch).1⟩ = true) :
    (exec op r ch).2 = r.del [attemptsKey address] := by
  cases op with
  | del ks =>
    rcases hg with rfl | ⟨rfl, -, -⟩
    · cases hreset
    cases hr : (exec (.del [attemptsKey address]) r ch).1 with
    | error e =>
      rw [hr] at hreset
      cases hreset
    | ok u => exact (replied_ok hr).2
  | _ => cases hreset

end

end Exec

section Change

variable {r' : Redis}

@[simp] theorem set_code (value : String) (ttl : Int) :
    (r.set (codeKey address) value ttl).entries (codeKey address) =
      some ⟨.text value, r.stamps, some (r.time + ttl)⟩ := by
  simp [Redis.set, Redis.put]

@[simp] theorem set_attempts (value : String) (ttl : Int) :
    (r.set (codeKey address) value ttl).entries (attemptsKey address) =
      r.entries (attemptsKey address) := by
  simp [Redis.set, Redis.put, (codeKey_ne_attemptsKey address).symm]

@[simp] theorem reset_code :
    (r.del [attemptsKey address]).entries (codeKey address) = r.entries (codeKey address) := by
  simp [Redis.del, codeKey_ne_attemptsKey]

@[simp] theorem remove_code :
    (r.del [codeKey address, attemptsKey address]).entries (codeKey address) = none := by
  simp [Redis.del]

theorem incr_code {n : Int} (h : r.incr (attemptsKey address) = some (n, r')) :
    r'.entries (codeKey address) = r.entries (codeKey address) ∧ r'.time = r.time ∧
      r.stamps ≤ r'.stamps := by
  have hne := codeKey_ne_attemptsKey address
  unfold Redis.incr at h
  split at h
  · obtain ⟨-, rfl⟩ := Prod.mk.inj (Option.some.inj h)
    simp [Redis.put, hne]
  split at h
  · cases h
  split at h
  · obtain ⟨-, rfl⟩ := Prod.mk.inj (Option.some.inj h)
    simp [Redis.put, hne]
  · cases h

theorem expire_code (address : String) (r : Redis) (ttl : Int) :
    (r.expire (attemptsKey address) ttl).entries (codeKey address) = r.entries (codeKey address) ∧
      (r.expire (attemptsKey address) ttl).time = r.time ∧
      (r.expire (attemptsKey address) ttl).stamps = r.stamps := by
  have hne := codeKey_ne_attemptsKey address
  unfold Redis.expire
  split
  · simp
  · simp [Redis.put, hne]

theorem Change.code (h : Change address r r') :
    r'.entries (codeKey address) = r.entries (codeKey address) ∨
      r'.entries (codeKey address) = none ∨
      ∃ value, r' = r.set (codeKey address) value otpTTL := by
  cases h with
  | set value => exact .inr (.inr ⟨value, rfl⟩)
  | remove => exact .inr (.inl remove_code)
  | reset => exact .inl reset_code
  | count n r' h => exact .inl (incr_code h).1
  | expire => exact .inl (expire_code address r otpTTL).1
  | _ => exact .inl rfl

theorem Change.stamps_le (h : Change address r r') : r.stamps ≤ r'.stamps := by
  cases h with
  | set value => exact Nat.le_succ _
  | count n r' h => exact (incr_code h).2.2
  | expire => exact Nat.le_of_eq (expire_code address r otpTTL).2.2.symm
  | _ => exact Nat.le_refl _

def Numbered (address : String) (P : Nat → Prop) (r : Redis) : Prop :=
  ∀ e, r.entries (codeKey address) = some e → P e.stamp

theorem Change.numbered {P : Nat → Prop} (h : Change address r r') (hP : Numbered address P r)
    (hnew : P r.stamps) : Numbered address P r' := by
  intro e he
  rcases h.code with heq | hnone | ⟨value, rfl⟩
  · exact hP e (heq ▸ he)
  · rw [hnone] at he
    cases he
  rw [set_code] at he
  cases he
  exact hnew

theorem numbered_remove {P : Nat → Prop} :
    Numbered address P (r.del [codeKey address, attemptsKey address]) := by
  intro e he
  rw [remove_code] at he
  cases he

end Change

abbrev OtpThread (address : String) := Thread (Request address) Op Res OtpError Answer

abbrev OtpConfig (address : String) := Config (Request address) Op Res OtpError Answer Redis

abbrev OtpSchedule (address : String) :=
  System.Schedule (Request address) Op Res OtpError Answer Redis

structure Stamped {address : String} (c : OtpConfig address) : Prop where
  stored : Numbered address (· < c.state.stamps) c.state
  read : ∀ t ∈ c.threads, ∀ stored ∈ reads t.history, stored.stamp < c.state.stamps
  generated : ∀ t ∈ c.threads, ∀ n ∈ stamps t.history,
    n < c.state.stamps ∧ Numbered address (n ≤ ·) c.state
  removed : ∀ t ∈ c.threads, t.history.any isRemoval = true → ∀ stored ∈ reads t.history,
    Numbered address (· ≠ stored.stamp) c.state

section Runs

variable {t : OtpThread address} {ts : List (OtpThread address)}

theorem Stamped.change {r' : Redis} (h : Stamped ⟨r, ts⟩) (hchange : Change address r r') :
    Stamped ⟨r', ts⟩ where
  stored := by
    intro e he
    rcases hchange.code with heq | hnone | ⟨value, rfl⟩
    · exact Nat.lt_of_lt_of_le (h.stored e (heq ▸ he)) hchange.stamps_le
    · rw [hnone] at he
      cases he
    rw [set_code] at he
    cases he
    exact Nat.lt_succ_self _
  read t ht stored hst := Nat.lt_of_lt_of_le (h.read t ht stored hst) hchange.stamps_le
  generated t ht n hn := by
    obtain ⟨hlt, hfloor⟩ := h.generated t ht n hn
    exact ⟨Nat.lt_of_lt_of_le hlt hchange.stamps_le, hchange.numbered hfloor (Nat.le_of_lt hlt)⟩
  removed t ht hr stored hst :=
    hchange.numbered (h.removed t ht hr stored hst) (Nat.ne_of_gt (h.read t ht stored hst))

theorem Stamped.arrive (h : Stamped ⟨r, ts⟩) (req : Request address) :
    Stamped ⟨r, ts ++ [⟨req, [], (otpSystem address).body req⟩]⟩ where
  stored := h.stored
  read := forall_arrived h.read (by simp [reads])
  generated := forall_arrived h.generated (by simp [stamps])
  removed := forall_arrived h.removed (by simp)

theorem Stamped.act {before after : List (OtpThread address)} {op : Op}
    {next : Res op → Program Op Res OtpError Answer} (ch : Choice) (hg : guard address t.history op)
    (h : Stamped ⟨r, before ++ t :: after⟩) :
    Stamped ⟨(exec op r ch).2, before ++ t.advance op (exec op r ch).1 next :: after⟩ := by
  have ht : t ∈ before ++ t :: after := by simp
  have hchange : Change address r (exec op r ch).2 := exec_change hg
  have h' := h.change hchange
  refine ⟨h'.stored, forall_advanced h'.read (fun _ h => h) ?_,
    forall_advanced h'.generated (fun _ h => h) ?_,
    forall_advanced h'.removed (fun _ h => h) ?_⟩
  · intro stored hst
    rcases Thread.mem_view_advance hst with hst | hnew
    · exact h'.read t ht stored hst
    obtain ⟨-, hsame, e, he, rfl⟩ := exec_read hg hnew
    rw [hsame]
    exact h.stored e (Redis.lookup_eq_some.mp he).1
  · intro n hn
    rcases Thread.mem_view_advance hn with hn | hnew
    · exact h'.generated t ht n hn
    obtain ⟨rfl, value, hset⟩ := exec_stamp hg hnew
    rw [hset]
    refine ⟨Nat.lt_succ_self _, fun e he => ?_⟩
    rw [set_code] at he
    cases he
    exact Nat.le_refl _
  · intro hr stored hst
    simp only [Thread.advance_history, any_cons, Bool.or_eq_true] at hr
    rcases hr with hnew | hr
    · rw [exec_removal hg hnew]
      exact numbered_remove
    rcases Thread.mem_view_advance hst with hst | hnew
    · exact h'.removed t ht hr stored hst
    obtain ⟨hempty, -⟩ := exec_read hg hnew
    rw [hempty] at hr
    cases hr

def start (address : String) (entries : String → Option RedisEntry) (time : Int) (n : Nat) : Redis :=
  ⟨Function.update entries (codeKey address) none, time, n⟩

variable {entries : String → Option RedisEntry} {time : Int} {n : Nat}
  {c c' : OtpConfig address} {allow : OtpSchedule address}

theorem exec_legal (t : OtpThread address) (op : Op) (r : Redis) (ch : Choice) :
    (discipline address).legal op ((otpSystem address).exec t op r ch).1 := by
  cases op <;> trivial

theorem stamped_start : Stamped (⟨start address entries time n, []⟩ : OtpConfig address) := by
  constructor <;> simp [start, Numbered]

section

variable (hc : (otpSystem address).Reachable allow (start address entries time n) c)

include hc

theorem stamped_of_reachable : Stamped c := by
  refine Reachable.invariant (fun _ => discipline address) Stamped
    (fun req => (obeys_body req).mono fun _ _ _ => trivial) exec_legal ?_ ?_ ?_ ?_ hc
  · exact stamped_start
  · exact fun r ts req h => h.arrive req
  · intro r r' ts d hd h
    cases hd
    exact h.change (.tick d)
  · exact fun r before after t op next ch _ _ hg h => h.act ch hg

theorem guard_of_reachable (ht : t ∈ c.threads) {op : Op}
    {next : Res op → Program Op Res OtpError Answer} (hrest : t.rest = .call op next) :
    guard address t.history op :=
  hc.guard (fun _ => discipline address) obeys_body exec_legal ht hrest

theorem ends_of_reachable (ht : t ∈ c.threads) {a : Answer}
    (hrest : t.rest = .ok a) : Ends address t.request t.history a :=
  hc.ended (fun _ => discipline address) obeys_body exec_legal ht hrest

end

end Runs

namespace Sample

def email : Spelling "a@b" := ⟨"A@b", by decide⟩

abbrev Moves := List (System.Move (Request "a@b") Choice Nat)

def acts (i n : Nat) : Moves := List.replicate n (.act i ⟨.done, 123456⟩)

def generated : Moves := .arrive (.generate email) :: acts 0 3

end Sample

end LatchApi.Otp
