import LatchApi.Lib.Lower
import LatchApi.Lib.Runs
import LatchApi.RateLimit.Windows

namespace LatchApi.RateLimit

open Lib Program List

/-- What the key functions read of a request; a body without an email has the email `""`, a request
without a user or a session their empty text. -/
structure Request where
  clientIP : String
  email : String
  userID : String
  sessionUserID : String

def ipKey (c : Request) : String := "rl:ip:" ++ c.clientIP

def emailKey (c : Request) : String :=
  if c.email ≠ "" then "rl:email:" ++ toLower c.email else ipKey c

def subjectRateLimitKey (c : Request) : String :=
  if c.userID ≠ "" then "rl:sub:" ++ c.userID else ipKey c

def ipActionKey (action : String) (c : Request) : String :=
  "rl:ip-action:" ++ action ++ ":" ++ c.clientIP

def sessionActionRateLimitKey (action : String) (c : Request) : String :=
  if c.sessionUserID ≠ "" then "rl:sess-action:" ++ action ++ ":" ++ c.sessionUserID
  else ipActionKey action c

def subjectActionRateLimitKey (action : String) (c : Request) : String :=
  if c.userID ≠ "" then "rl:sub-action:" ++ action ++ ":" ++ c.userID else ipActionKey action c

inductive Limiter where
  | general | authed | fundingIntent | smartAccountDeploy | smartAccountChallenge
  | passkeyCredentialChallenge | passkeyCredentialLookup | transactionRelay | otp | recovery
  | onRampSession
deriving DecidableEq

def minute : Int := 60000

def hour : Int := 60 * minute

def Limiter.budget : Limiter → RateLimiter
  | .general => ⟨300, minute⟩
  | .authed => ⟨100, minute⟩
  | .fundingIntent => ⟨5, minute⟩
  | .smartAccountDeploy => ⟨10, minute⟩
  | .smartAccountChallenge => ⟨60, minute⟩
  | .passkeyCredentialChallenge => ⟨60, minute⟩
  | .passkeyCredentialLookup => ⟨30, minute⟩
  | .transactionRelay => ⟨30, minute⟩
  | .otp => ⟨3, hour⟩
  | .recovery => ⟨3, 24 * hour⟩
  | .onRampSession => ⟨20, hour⟩

def Limiter.keyFn : Limiter → Request → String
  | .general => ipKey
  | .authed => subjectRateLimitKey
  | .fundingIntent => subjectActionRateLimitKey "funding-intent"
  | .smartAccountDeploy => subjectActionRateLimitKey "smart-account-deploy"
  | .smartAccountChallenge => subjectActionRateLimitKey "smart-account-challenge"
  | .passkeyCredentialChallenge => subjectActionRateLimitKey "passkey-credential-challenge"
  | .passkeyCredentialLookup => subjectActionRateLimitKey "passkey-credential-lookup"
  | .transactionRelay => subjectActionRateLimitKey "transaction-relay"
  | .otp => emailKey
  | .recovery => emailKey
  | .onRampSession => sessionActionRateLimitKey "onramp_session"

structure Arrival where
  limiter : Limiter
  request : Request
  time : Int

def Arrival.key (a : Arrival) : String := a.limiter.keyFn a.request

/-- The middleware lets a request pass when the store does not answer. -/
def newRateLimiter (a : Arrival) (r : Redis) : Bool × Redis :=
  let out := drive exec (fun _ => Reply.done) 0 (check a.limiter.budget a.key)
    { r with time := a.time }
  (out.1.toOption.getD true, out.2)

def decisions (l : Limiter) : Redis → List Arrival → List Bool
  | _, [] => []
  | r, a :: as =>
    let rest := decisions l (newRateLimiter a r).2 as
    if a.limiter = l then (newRateLimiter a r).1 :: rest else rest

section Counters

variable {r r' : Redis} {k : String} {a : Arrival}

def counter (r : Redis) (k : String) : Option (RedisValue × Option Int) :=
  (r.entries k).map fun e => (e.value, e.expiresAt)

theorem drive_check (rl : RateLimiter) (k : String) (r : Redis) :
    drive exec (fun _ => Reply.done) 0 (check rl k) r = match r.incr k with
      | none => (.error .redis, r)
      | some (n, r') =>
        (.ok (decide (n ≤ rl.limit)), if n = 1 then r'.expire k rl.window else r') := by
  change drive exec _ 1 ((result (exec (.incr k) r .done).1).bind _) _ = _
  cases hn : r.incr k with
  | none =>
    simp only [exec, hn]
    rfl
  | some out =>
    simp only [exec, hn, Reply.fate]
    change drive exec _ 1 (if out.1 = 1 then _ else .ok _) _ = _
    split <;> rfl

theorem incr_entries {n : Int} (hn : r.incr k = some (n, r')) {k' : String} (hk : k' ≠ k) :
    r'.entries k' = r.entries k' := by
  unfold Redis.incr at hn
  split at hn
  · cases hn
    simp [Redis.put, hk]
  · split at hn
    · cases hn
    · split_ifs at hn
      cases hn
      simp [Redis.put, hk]

theorem expire_entries (ttl : Int) {k' : String} (hk : k' ≠ k) :
    (r.expire k ttl).entries k' = r.entries k' := by
  unfold Redis.expire
  split
  · rfl
  · simp [Redis.put, hk]

theorem newRateLimiter_elsewhere {k' : String} (hk : k' ≠ a.key) :
    counter (newRateLimiter a r).2 k' = counter r k' := by
  simp only [newRateLimiter, drive_check, counter]
  split
  · rfl
  · rename_i n r' hn
    have hincr := incr_entries hn hk
    split
    · rw [expire_entries _ hk, hincr]
    · rw [hincr]

theorem counter_cases (h : counter r k = counter r' k) :
    (r.entries k = none ∧ r'.entries k = none) ∨ ∃ value x stamp stamp',
      r.entries k = some ⟨value, stamp, x⟩ ∧ r'.entries k = some ⟨value, stamp', x⟩ := by
  unfold counter at h
  cases he : r.entries k with
  | none =>
    rw [he] at h
    exact .inl ⟨rfl, Option.map_eq_none_iff.mp h.symm⟩
  | some e =>
    rw [he] at h
    obtain ⟨e', he', heq⟩ := Option.map_eq_some_iff.mp h.symm
    obtain ⟨hvalue, hx⟩ := Prod.mk.inj heq
    exact .inr ⟨e.value, e.expiresAt, e.stamp, e'.stamp, rfl, by rw [he', ← hvalue, ← hx]⟩

theorem newRateLimiter_congr (h : counter r a.key = counter r' a.key) :
    (newRateLimiter a r).1 = (newRateLimiter a r').1 ∧
      counter (newRateLimiter a r).2 a.key = counter (newRateLimiter a r').2 a.key := by
  simp only [newRateLimiter, drive_check]
  generalize a.key = k at h ⊢
  rcases counter_cases h with ⟨he, he'⟩ | ⟨value, x, stamp, stamp', he, he'⟩
  · simp [Redis.incr, Redis.lookup, Redis.expire, Redis.put, RedisEntry.live, counter, he, he',
      Option.filter_some]
  · simp only [Redis.incr, Redis.lookup, he, he', RedisEntry.live, Option.filter_some]
    by_cases hlive : x.all (a.time < ·)
    · cases hvalue : value.toInteger with
      | none => simp [counter, he, he', hlive, hvalue]
      | some n =>
        simp only [hlive, hvalue, if_true]
        split_ifs
        · by_cases hone : n + 1 = 1
          · simp [Redis.expire, Redis.lookup, Redis.put, RedisEntry.live, counter, hlive, hone,
              Option.filter_some]
          · simp [Redis.put, counter, hone]
        · exact ⟨rfl, h⟩
    · simp [Redis.expire, Redis.lookup, Redis.put, RedisEntry.live, counter, hlive,
        Option.filter_some]

end Counters

section Runs

variable {l : Limiter} {r r' : Redis} {as bs : List Arrival}

/-- The requests that other limiters handle leave the keys of `l` alone. -/
def Apart (l : Limiter) (as : List Arrival) : Prop :=
  ∀ a ∈ as, ∀ b ∈ as, a.limiter = l → b.limiter ≠ l → a.key ≠ b.key

theorem decisions_filter (K : String → Prop) (hK : ∀ a ∈ as, K a.key ↔ a.limiter = l)
    (hr : ∀ k, K k → counter r k = counter r' k) :
    decisions l r as = decisions l r' (as.filter (·.limiter = l)) := by
  induction as generalizing r r' with
  | nil => rfl
  | cons a as ih =>
    obtain ⟨ha, has⟩ := forall_mem_cons.mp hK
    by_cases hl : a.limiter = l
    · have hkey := newRateLimiter_congr (hr a.key (ha.mpr hl))
      rw [filter_cons_of_pos (by simpa using hl), decisions, decisions, if_pos hl, if_pos hl,
        hkey.1]
      refine congrArg _ (ih has fun k hk => ?_)
      by_cases hk' : k = a.key
      · rw [hk', hkey.2]
      · rw [newRateLimiter_elsewhere hk', newRateLimiter_elsewhere hk', hr k hk]
    · rw [filter_cons_of_neg (by simpa using hl), decisions, if_neg hl]
      refine ih has fun k hk => ?_
      rw [newRateLimiter_elsewhere fun hk' => hl (ha.mp (hk' ▸ hk)), hr k hk]

theorem decisions_alone (h : Apart l as) :
    decisions l r as = decisions l r (as.filter (·.limiter = l)) := by
  refine decisions_filter (fun k => ∃ a ∈ as, a.limiter = l ∧ a.key = k) (fun b hb => ⟨?_, ?_⟩)
    fun _ _ => rfl
  · rintro ⟨a, ha, hl, hkey⟩
    by_contra hb'
    exact h a ha b hb hl hb' hkey
  · exact fun hl => ⟨b, hb, hl, rfl⟩

/-- Requests at other limiters do not change what a limiter decides, as long as they do not count
under one of its keys. -/
theorem decisions_eq_of_apart (l : Limiter) (r : Redis) (as bs : List Arrival)
    (hsame : as.filter (·.limiter = l) = bs.filter (·.limiter = l)) (has : Apart l as)
    (hbs : Apart l bs) : decisions l r as = decisions l r bs := by
  rw [decisions_alone has, decisions_alone hbs, hsame]

end Runs

namespace Sample

def mail (limiter : Limiter) (email : String) (time : Int) : Arrival :=
  ⟨limiter, ⟨"10.0.0.1", email, "", ""⟩, time⟩

def recovers : List Arrival := [mail .recovery "élodie@example.org" 3000]

theorem other_email_apart :
    decisions .recovery empty (mail .otp "bob@example.org" 1000 :: recovers) =
      decisions .recovery empty recovers := by
  refine decisions_eq_of_apart .recovery empty _ _ rfl ?_ ?_
  · simp [Apart, recovers, mail, Arrival.key, Limiter.keyFn, emailKey]
    decide +kernel
  · simp [Apart, recovers, mail]

theorem otp_exhausts_recovery :
    let signUps := List.replicate 3 (mail .otp "ÉLODIE@example.org" 1000)
    (signUps ++ recovers).filter (·.limiter = .recovery) = recovers ∧
      decisions .recovery empty recovers = [true] ∧
      decisions .recovery empty (signUps ++ recovers) = [false] :=
  ⟨rfl, by decide +kernel, by decide +kernel⟩

end Sample

end LatchApi.RateLimit
