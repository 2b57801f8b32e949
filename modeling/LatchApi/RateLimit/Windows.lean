import LatchApi.Lib.Interleaving
import LatchApi.Lib.Redis
import LatchApi.Lib.Reply

/-!
The counters of the rate limiters. A check counts its request and sets the expiry of the counter
if that request opened the window: two commands, either of which may be lost on its way.
-/

namespace LatchApi.RateLimit

open Lib Program List Lib.System

structure RateLimiter where
  limit : Int
  window : Int

inductive Op where
  | incr (key : String)
  | expire (key : String) (ttl : Int)

def Res : Op → Type
  | .incr _ => Fate Int
  | .expire _ _ => Fate Unit

inductive CheckError where
  | redis

def result {α : Type} : Fate α → Program Op Res CheckError α
  | .heard a => .ok a
  | _ => .fail .redis

def check (rl : RateLimiter) (key : String) : Program Op Res CheckError Bool := do
  let count ← result (← perform (Op.incr key))
  -- only the first count of a window sets its end
  if count = 1 then
    result (← perform (Op.expire key rl.window))
  return decide (count ≤ rl.limit)

def exec (op : Op) (r : Redis) (reply : Reply) : Res op × Redis :=
  match op with
  | .incr k =>
    match r.incr k with
    | some (n, r') => reply.fate n r r'
    | none => (.refused, r)
  | .expire k ttl => reply.fate () r (r.expire k ttl)

structure CheckCall where
  limiter : RateLimiter
  key : String

def limiterSystem : System CheckCall Op Res CheckError Bool Redis Reply Nat where
  body call := check call.limiter call.key
  exec _ op r reply := exec op r reply
  world d r := some (r.tick d)

abbrev History := Log Res

abbrev CheckThread := Thread CheckCall Op Res CheckError Bool

abbrev LimiterRun := Config CheckCall Op Res CheckError Bool Redis

def Windowed (r : Redis) : Prop := ∀ k e, r.lookup k = some e → e.expiresAt.isSome = true

def Counts (r : Redis) : Prop := ∀ k e, r.entries k = some e → ∃ n, 1 ≤ n ∧ e.value = .integer n

def opens : Event Res → Bool
  | ⟨.incr _, r⟩ => Fate.effect r == some 1
  | _ => false

def bounds : Event Res → Bool
  | ⟨.expire _ _, r⟩ => (Fate.effect r).isSome
  | _ => false

def guard (call : CheckCall) (h : History) : Op → Prop
  | .incr k => k = call.key ∧ h = []
  | .expire k _ => k = call.key ∧ h.any opens = true ∧ h.any bounds = false

def discipline (call : CheckCall) : Discipline Op Res := ⟨fun _ _ => True, guard call⟩

theorem obeys_check (call : CheckCall) :
    Obeys (discipline call) [] (check call.limiter call.key) fun _ _ => True := by
  refine .call ⟨rfl, rfl⟩ fun r _ => ?_
  cases r with
  | heard count =>
    change Obeys _ _ (if count = 1 then _ else .ok (decide (count ≤ call.limiter.limit))) _
    split
    · rename_i hone
      subst hone
      refine .call ⟨rfl, rfl, rfl⟩ fun r _ => ?_
      cases r with
      | heard u => exact .ok trivial
      | _ => exact .fail trivial
    · exact .ok trivial
  | _ => exact .fail trivial

/-- The check has opened its window and not bounded it. -/
def Leaves (t : CheckThread) : Prop := t.history.any opens = true ∧ t.history.any bounds = false

def lifetime (r : Redis) (k : String) : Option (Option Int) := (r.entries k).map (·.expiresAt)

structure Windows (c : LimiterRun) : Prop where
  counts : Counts c.state
  unbounded : ∀ t ∈ c.threads, Leaves t → lifetime c.state t.request.key = some none
  opened : ∀ k, lifetime c.state k = some none → ∃ t ∈ c.threads, t.request.key = k ∧ Leaves t
  apart : c.threads.Pairwise fun t u => Leaves t → Leaves u → t.request.key ≠ u.request.key

section Commands

variable {r : Redis} {k : String} (reply : Reply)

theorem lookup_of_lifetime (h : lifetime r k = some none) :
    ∃ e, r.entries k = some e ∧ r.lookup k = some e ∧ e.expiresAt = none := by
  obtain ⟨e, he, hnone⟩ := Option.map_eq_some_iff.mp h
  exact ⟨e, he, Redis.lookup_eq_some.mpr ⟨he, by simp [RedisEntry.live, hnone]⟩, hnone⟩

theorem windowed_iff : Windowed r ↔ ∀ k, lifetime r k ≠ some none := by
  constructor
  · intro h k hk
    obtain ⟨e, -, he, hnone⟩ := lookup_of_lifetime hk
    simpa [hnone] using h k e he
  · intro h k e he
    by_contra hnone
    rw [Option.not_isSome_iff_eq_none] at hnone
    exact h k (by simp [lifetime, (Redis.lookup_eq_some.mp he).1, hnone])

theorem counts_put {e : RedisEntry} {n : Int} (hr : Counts r) (hn : 1 ≤ n)
    (he : e.value = .integer n) : Counts (r.put k e) := by
  intro k' e' he'
  by_cases hk : k' = k
  · subst hk
    obtain rfl : e = e' := by simpa [Redis.put] using he'
    exact ⟨n, hn, he⟩
  · exact hr k' e' (by simpa [Redis.put, hk] using he')

theorem lifetime_put (e : RedisEntry) :
    lifetime (r.put k e) = Function.update (lifetime r) k (some e.expiresAt) := by
  funext k'
  by_cases hk : k' = k
  · subst hk
    simp [lifetime, Redis.put]
  · simp [lifetime, Redis.put, hk]

/-- A count of one comes from a key that did not exist: every other counter was positive. -/
theorem incr_eq_some {n : Int} {r' : Redis} (hr : Counts r) (h : r.incr k = some (n, r')) :
    Counts r' ∧ (n ≠ 1 ∧ lifetime r' = lifetime r ∨ n = 1 ∧ lifetime r k ≠ some none ∧
      lifetime r' = Function.update (lifetime r) k (some none)) := by
  unfold Redis.incr at h
  split at h
  · rename_i hk
    cases h
    refine ⟨counts_put (k := k) (e := ⟨.integer 1, r.stamps, none⟩) hr (Int.le_refl 1) rfl,
      .inr ⟨rfl, fun hopen => ?_, lifetime_put ⟨.integer 1, r.stamps, none⟩⟩⟩
    obtain ⟨e, -, he, -⟩ := lookup_of_lifetime hopen
    cases hk.symm.trans he
  · rename_i e hk
    have he := (Redis.lookup_eq_some.mp hk).1
    obtain ⟨m, hm, hvalue⟩ := hr k e he
    rw [hvalue] at h
    simp only [RedisValue.toInteger] at h
    split_ifs at h
    cases h
    refine ⟨counts_put (n := m + 1) hr (by omega) rfl, .inl ⟨by omega, ?_⟩⟩
    rw [lifetime_put, Function.update_eq_self_iff]
    simp [lifetime, he]

theorem exec_incr (hr : Counts r) : Counts (exec (.incr k) r reply).2 ∧
    (opens ⟨.incr k, (exec (.incr k) r reply).1⟩ = false ∧
        lifetime (exec (.incr k) r reply).2 = lifetime r ∨
      opens ⟨.incr k, (exec (.incr k) r reply).1⟩ = true ∧ lifetime r k ≠ some none ∧
        lifetime (exec (.incr k) r reply).2 = Function.update (lifetime r) k (some none)) := by
  cases hn : r.incr k with
  | none =>
    simp only [exec, hn]
    exact ⟨hr, .inl ⟨rfl, trivial⟩⟩
  | some out =>
    obtain ⟨n, r'⟩ := out
    obtain ⟨hcounts, hlife⟩ := incr_eq_some hr hn
    simp only [exec, hn]
    rcases reply.fate_cases n r r' with ⟨heffect, hstate⟩ | ⟨heffect, hstate⟩
    · rw [hstate]
      exact ⟨hr, .inl ⟨by simp [opens, heffect], rfl⟩⟩
    · rw [hstate]
      exact ⟨hcounts, by simpa [opens, heffect] using hlife⟩

theorem exec_expire (hr : Counts r) (hopen : lifetime r k = some none) (ttl : Int) :
    Counts (exec (.expire k ttl) r reply).2 ∧
    (bounds ⟨.expire k ttl, (exec (.expire k ttl) r reply).1⟩ = false ∧
        lifetime (exec (.expire k ttl) r reply).2 = lifetime r ∨
      bounds ⟨.expire k ttl, (exec (.expire k ttl) r reply).1⟩ = true ∧ ∃ x,
        lifetime (exec (.expire k ttl) r reply).2 =
          Function.update (lifetime r) k (some (some x))) := by
  obtain ⟨e, he, hlookup, -⟩ := lookup_of_lifetime hopen
  obtain ⟨n, hn, hvalue⟩ := hr k e he
  have hset : r.expire k ttl = r.put k { e with expiresAt := some (r.time + ttl) } := by
    simp [Redis.expire, hlookup]
  simp only [exec]
  rcases reply.fate_cases () r (r.expire k ttl) with ⟨heffect, hstate⟩ | ⟨heffect, hstate⟩
  · rw [hstate]
    exact ⟨hr, .inl ⟨by simp [bounds, heffect], rfl⟩⟩
  · rw [hstate]
    exact ⟨hset ▸ counts_put hr hn hvalue,
      .inr ⟨by simp [bounds, heffect], _, hset ▸ lifetime_put _⟩⟩

end Commands

section Steps

variable {s s' : Redis} {before after : List CheckThread} {t t' : CheckThread}

theorem Windows.same (h : Windows ⟨s, before ++ t :: after⟩) (hcounts : Counts s')
    (hlife : lifetime s' = lifetime s) (hkey : t'.request = t.request)
    (hleaves : Leaves t' ↔ Leaves t) : Windows ⟨s', before ++ t' :: after⟩ where
  counts := hcounts
  unbounded := by
    refine forall_advanced h.unbounded (fun u hu => hlife ▸ hu) fun ht => ?_
    rw [hlife, hkey]
    exact h.unbounded t (by simp) (hleaves.mp ht)
  opened k hk := by
    refine exists_advanced (h.opened k (hlife ▸ hk)) (fun u hu => hu) fun ht => ?_
    exact ⟨hkey ▸ ht.1, hleaves.mpr ht.2⟩
  apart := by
    refine pairwise_advanced (fun h hv hu => (h hu hv).symm) h.apart fun u hu ht ht' hleft => ?_
    rw [hkey]
    exact ht (hleaves.mp ht') hleft

theorem Windows.opening (h : Windows ⟨s, before ++ t :: after⟩) (hcounts : Counts s')
    (hkey : t'.request = t.request) (hclosed : lifetime s t.request.key ≠ some none)
    (hlife : lifetime s' = Function.update (lifetime s) t.request.key (some none))
    (hleaves : Leaves t') : Windows ⟨s', before ++ t' :: after⟩ where
  counts := hcounts
  unbounded := by
    refine forall_advanced h.unbounded (fun u hu hleft => ?_) fun _ => by simp [hlife, hkey]
    have hne : u.request.key ≠ t.request.key := fun heq => hclosed (heq ▸ hu hleft)
    rw [hlife, Function.update_of_ne hne]
    exact hu hleft
  opened k hk := by
    by_cases hkt : k = t.request.key
    · exact ⟨t', by simp, hkey ▸ hkt.symm, hleaves⟩
    rw [hlife, Function.update_of_ne hkt] at hk
    refine exists_advanced (h.opened k hk) (fun u hu => hu) fun ht => ?_
    exact absurd ht.1.symm hkt
  apart := by
    refine pairwise_advanced (fun h hv hu => (h hu hv).symm) h.apart fun u hu _ _ hleft heq => ?_
    rw [hkey] at heq
    exact hclosed (heq ▸ h.unbounded u (mem_of_others hu) hleft)

theorem Windows.bounding (h : Windows ⟨s, before ++ t :: after⟩) (hcounts : Counts s') {x : Int}
    (hlife : lifetime s' = Function.update (lifetime s) t.request.key (some (some x)))
    (hleft : Leaves t) (hleaves : ¬ Leaves t') : Windows ⟨s', before ++ t' :: after⟩ where
  counts := hcounts
  unbounded u hu hu' := by
    rcases mem_advanced hu with rfl | hu
    · exact absurd hu' hleaves
    have hne := of_pairwise (fun h hv hu => (h hu hv).symm) h.apart hu hleft hu'
    rw [hlife, Function.update_of_ne hne.symm]
    exact h.unbounded u (mem_of_others hu) hu'
  opened k hk := by
    have hkt : k ≠ t.request.key := by
      rintro rfl
      simp [hlife] at hk
    rw [hlife, Function.update_of_ne hkt] at hk
    refine exists_advanced (h.opened k hk) (fun u hu => hu) fun ht => ?_
    exact absurd ht.1.symm hkt
  apart := pairwise_advanced (fun h hv hu => (h hu hv).symm) h.apart fun _ _ _ ht =>
    absurd ht hleaves

theorem Windows.act (h : Windows ⟨s, before ++ t :: after⟩) {op : Op} (reply : Reply)
    (next : Res op → Program Op Res CheckError Bool) (hg : guard t.request t.history op) :
    Windows ⟨(exec op s reply).2, before ++ t.advance op (exec op s reply).1 next :: after⟩ := by
  cases op with
  | incr k =>
    obtain ⟨rfl, hnew⟩ := hg
    obtain ⟨hcounts, ⟨hopens, hlife⟩ | ⟨hopens, hclosed, hlife⟩⟩ := exec_incr reply h.counts
    · exact h.same hcounts hlife rfl (by simp [Leaves, hnew, hopens])
    · exact h.opening hcounts rfl hclosed hlife (by simp [Leaves, hnew, hopens, bounds])
  | expire k ttl =>
    obtain ⟨rfl, hleft⟩ := hg
    obtain ⟨hcounts, ⟨hbounds, hlife⟩ | ⟨hbounds, x, hlife⟩⟩ :=
      exec_expire reply h.counts (h.unbounded t (by simp) hleft) ttl
    · exact h.same hcounts hlife rfl (by simp [Leaves, opens, hbounds])
    · exact h.bounding hcounts hlife hleft (by simp [Leaves, hbounds])

theorem Reachable.windows {c : LimiterRun} (hs : Counts s) (hwindowed : Windowed s)
    (h : limiterSystem.Reachable anySchedule s c) : Windows c := by
  refine Reachable.invariant discipline Windows obeys_check (fun _ _ _ _ => trivial) ?_ ?_ ?_ ?_ h
  · exact ⟨hs, nofun, fun k hk => absurd hk (windowed_iff.mp hwindowed k), .nil⟩
  · intro s ts call hinv
    have hfresh : ¬ Leaves ⟨call, [], limiterSystem.body call⟩ := by simp [Leaves]
    refine ⟨hinv.counts, forall_arrived hinv.unbounded fun hleft => absurd hleft hfresh, fun k hk => ?_,
      pairwise_arrived hinv.apart fun _ _ _ hleft => absurd hleft hfresh⟩
    obtain ⟨t, ht, hopened⟩ := hinv.opened k hk
    exact ⟨t, mem_append_left _ ht, hopened⟩
  · rintro s s' ts e hworld hinv
    obtain rfl := Option.some.inj hworld
    exact ⟨hinv.counts, hinv.unbounded, hinv.opened, hinv.apart⟩
  · intro s before after t op next reply _ _ hg hinv
    exact hinv.act reply next hg

/-- In every run the windows all end exactly when every check that opened one has had its expiry
carried out. -/
theorem windowed_iff_bounded (s : Redis) (c : LimiterRun) (hs : Counts s) (hwindowed : Windowed s)
    (h : limiterSystem.Reachable anySchedule s c) :
    Windowed c.state ↔
      ∀ t ∈ c.threads, t.history.any opens = true → t.history.any bounds = true := by
  have hinv := Reachable.windows hs hwindowed h
  rw [windowed_iff]
  constructor
  · intro hall t ht hopens
    by_contra hbounds
    exact hall _ (hinv.unbounded t ht ⟨hopens, Bool.eq_false_of_not_eq_true hbounds⟩)
  · intro hall k hk
    obtain ⟨t, ht, -, hopens, hbounds⟩ := hinv.opened k hk
    rw [hall t ht hopens] at hbounds
    cases hbounds

end Steps

namespace Sample

def empty : Redis := ⟨fun _ => none, 0, 0⟩

def call : CheckCall := ⟨⟨5, 60000⟩, "rl:ip:10.0.0.1"⟩

theorem window_bounded : ∃ c, limiterSystem.Reachable anySchedule empty c ∧
    (∀ t ∈ c.threads, t.active = false ∧ t.history.any opens = true ∧ t.history.any bounds = true) ∧
    Windowed c.state := by
  refine exists_reachable_and [.arrive call, .act 0 .done, .act 0 .done] ?_
    fun c hrun hc => ?_
  · decide +kernel
  · exact (windowed_iff_bounded empty c nofun nofun hrun).mpr fun t ht _ => (hc t ht).2.2

theorem window_left_open : ∃ c, limiterSystem.Reachable anySchedule empty c ∧
    (∀ t ∈ c.threads, t.active = false) ∧ ¬ Windowed c.state := by
  have h : ∃ c, limiterSystem.Reachable anySchedule empty c ∧
      (∀ t ∈ c.threads, t.active = false) ∧ lifetime c.state call.key = some none := by
    refine exists_reachable [.arrive call, .act 0 .done, .act 0 .failed] ?_
    decide +kernel
  obtain ⟨c, hc, hidle, hopen⟩ := h
  exact ⟨c, hc, hidle, fun hwindowed => windowed_iff.mp hwindowed _ hopen⟩

end Sample

end LatchApi.RateLimit
