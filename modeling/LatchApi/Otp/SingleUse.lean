import LatchApi.Otp.Runs

/-!
How often one generated code is accepted. A verification reads the code, compares it and deletes
it with separate commands and does not look at whether its deletion found anything, so two that
have both read the code are both told that it is right.
-/

namespace LatchApi.Otp

open Lib Program Lib.System

def Request.submitted {address : String} : Request address → Option String
  | .generate _ => none
  | .verify _ code => some code

section Runs

variable {address : String}

def verified (t : OtpThread address) : Bool :=
  match t.rest with
  | .ok (.verified true) => true
  | _ => false

theorem rest_of_verified {t : OtpThread address} (h : verified t = true) :
    t.rest = .ok (.verified true) := by
  unfold verified at h
  split at h
  · assumption
  · cases h

def Right (stamp : Nat) (t : OtpThread address) : Prop :=
  ∃ stored ∈ reads t.history, stored.stamp = stamp ∧ t.request.submitted = some stored.text

instance (stamp : Nat) (t : OtpThread address) : Decidable (Right stamp t) := by
  unfold Right; infer_instance

/-- No call that was given the stored code reads it while another that was given it, and has read
it, is under way. -/
def verifiesAlone (address : String) : OtpSchedule address := fun r others t op =>
  match op, r.lookup (codeKey address) with
  | .get _, some e => t.request.submitted = some e.value.toText →
    ∀ u ∈ others, u.active = true → ¬ Right e.stamp u
  | _, _ => True

instance (address : String) (r : Redis) (others : List (OtpThread address)) (t : OtpThread address)
    (op : Op) : Decidable (verifiesAlone address r others t op) := by
  unfold verifiesAlone
  split <;> infer_instance

variable {entries : String → Option RedisEntry} {time : Int} {n : Nat}
  {c c' : OtpConfig address} {allow : OtpSchedule address}

theorem ends_of_verified
    (hc : (otpSystem address).Reachable allow (start address entries time n) c)
    {t : OtpThread address} (ht : t ∈ c.threads) (hv : verified t = true) :
    (∃ stored ∈ reads t.history, t.request.submitted = some stored.text) ∧
      t.history.any isRemoval = true := by
  have hend := ends_of_reachable hc ht (rest_of_verified hv)
  cases hreq : t.request with
  | generate email =>
    rw [hreq] at hend
    exact hend.elim
  | verify email code =>
    rw [hreq] at hend
    obtain ⟨⟨stored, hst, htext⟩, hremoved⟩ := hend
    exact ⟨⟨stored, hst, by rw [← htext]; rfl⟩, hremoved⟩

def Claims (stamp : Nat) (t : OtpThread address) : Prop :=
  Right stamp t ∧ (t.active = true ∨ verified t = true)

theorem claims_unique (hc : (otpSystem address).Reachable (verifiesAlone address)
    (start address entries time n) c) :
    c.threads.Pairwise fun t u => ∀ stamp, ¬ (Claims stamp t ∧ Claims stamp u) := by
  induction hc with
  | refl => exact .nil
  | tail run step ih =>
    have hstamped := stamped_of_reachable run
    cases step with
    | arrive s ts req =>
      refine pairwise_arrived ih fun t _ stamp => ?_
      simp [Claims, Right, reads]
    | world s s' ts e he => exact ih
    | act r before after t op next ch hrest hallow =>
      have hg := guard_of_reachable run (by simp) hrest
      refine pairwise_advanced (fun h stamp hut => h stamp hut.symm) ih ?_
      rintro u hu htu stamp ⟨⟨⟨stored, hst, hstamp, htext⟩, -⟩, ⟨hright, hgoing⟩⟩
      have hmem : u ∈ before ++ t :: after := mem_of_others hu
      rcases Thread.mem_view_advance hst with hst | hnew
      · exact htu stamp ⟨⟨⟨stored, hst, hstamp, htext⟩, .inl (Thread.active_of_rest hrest)⟩,
          hright, hgoing⟩
      -- the code is still there, so no call has been told that it is right
      obtain ⟨-, -, e, he, rfl⟩ := exec_read hg hnew
      rcases hgoing with hactive | hverified
      · cases op with
        | get k =>
          simp only [verifiesAlone, he] at hallow
          subst hstamp
          exact hallow htext u hu hactive hright
        | _ => cases hnew
      · obtain ⟨stored', hst', hstamp', -⟩ := hright
        have hgone := hstamped.removed u hmem (ends_of_verified run hmem hverified).2 stored' hst'
        exact hgone e (Redis.lookup_eq_some.mp he).1 (hstamp.trans hstamp'.symm)

def VerifiedWith (stamp : Nat) (t : OtpThread address) : Prop :=
  verified t = true ∧ Right stamp t

theorem later_reads (hc : (otpSystem address).Reachable allow (start address entries time n) c)
    {m : Nat} (hm : m < c.state.stamps ∧ Numbered address (m ≤ ·) c.state)
    (hrun : Relation.ReflTransGen ((otpSystem address).Step allow) c c') :
    ∀ i t, c.threads.length ≤ i → c'.threads[i]? = some t →
      ∀ stored ∈ reads t.history, m ≤ stored.stamp := by
  have hkeep : ∀ {r r' : Redis}, Change address r r' →
      m < r.stamps ∧ Numbered address (m ≤ ·) r → m < r'.stamps ∧ Numbered address (m ≤ ·) r' :=
    fun hchange h => ⟨Nat.lt_of_lt_of_le h.1 hchange.stamps_le,
      hchange.numbered h.2 (Nat.le_of_lt h.1)⟩
  refine (Reachable.later
    (fun r => m < r.stamps ∧ Numbered address (m ≤ ·) r)
    (fun t => ∀ stored ∈ reads t.history, m ≤ stored.stamp) ?_ ?_ ?_ hc hm hrun).2
  · simp [reads]
  · intro r r' d hd h
    cases hd
    exact hkeep (.tick d) h
  · intro r before after t op next ch hreach hrest h
    have hg := guard_of_reachable hreach (by simp) hrest
    refine ⟨hkeep (exec_change hg) h, fun hold stored hst => ?_⟩
    rcases Thread.mem_view_advance hst with hst | hnew
    · exact hold stored hst
    · obtain ⟨-, -, e, he, rfl⟩ := exec_read hg hnew
      exact h.2 e (Redis.lookup_eq_some.mp he).1

/-- In a run in which the verifications that were given one code do not overlap, one of them at
most returns true for it; and in every run, one that begins after a `Generate` has returned never
does so for a code stored before. -/
theorem verifies_once_of_verifiesAlone (address : String) (entries : String → Option RedisEntry)
    (time : Int) (n : Nat) (c : OtpConfig address)
    (hc : (otpSystem address).Reachable System.anySchedule (start address entries time n) c) :
    ((otpSystem address).Reachable (verifiesAlone address) (start address entries time n) c →
      ∀ stamp, c.threads.Pairwise fun t u => ¬ (VerifiedWith stamp t ∧ VerifiedWith stamp u)) ∧
    ∀ c', Relation.ReflTransGen ((otpSystem address).Step System.anySchedule) c c' →
      ∀ g ∈ c.threads, g.succeeded = true → ∀ m ∈ stamps g.history,
        ∀ i t, c.threads.length ≤ i → c'.threads[i]? = some t →
          ∀ stamp < m, ¬ VerifiedWith stamp t := by
  refine ⟨fun halone stamp => ?_, fun c' hrun g hg _ m hm i t hi ht stamp hlt hv => ?_⟩
  · refine (claims_unique halone).imp fun h hboth => ?_
    exact h stamp ⟨⟨hboth.1.2, .inr hboth.1.1⟩, ⟨hboth.2.2, .inr hboth.2.1⟩⟩
  have hfloor := (stamped_of_reachable hc).generated g hg m hm
  obtain ⟨stored, hst, hstamp, -⟩ := hv.2
  have hle := later_reads hc hfloor hrun i t hi ht stored hst
  omega

end Runs

namespace Sample

def right : System.Move (Request "a@b") Choice Nat := .arrive (.verify email "123456")

def bothRead : Moves := generated ++ [right, right] ++ acts 1 1 ++ acts 2 1 ++ acts 1 4 ++ acts 2 4

theorem both_verified :
    ∃ c, (otpSystem "a@b").Reachable System.anySchedule (start "a@b" (fun _ => none) 0 0) c ∧
      c.threads.map verified = [false, true, true] ∧ ∀ t ∈ c.threads.drop 1, Right 0 t := by
  refine exists_reachable bothRead ?_
  decide +kernel

def inTurn : Moves := generated ++ [right, right] ++ acts 1 5 ++ acts 2 1

theorem verified_once_in_turn :
    ∃ c, (otpSystem "a@b").Reachable (verifiesAlone "a@b") (start "a@b" (fun _ => none) 0 0) c ∧
      c.threads.map verified = [false, true, false] ∧
      ∀ stamp, c.threads.Pairwise fun t u => ¬ (VerifiedWith stamp t ∧ VerifiedWith stamp u) := by
  refine exists_reachable_and inTurn ?_ fun c hrun _ =>
    (verifies_once_of_verifiesAlone "a@b" (fun _ => none) 0 0 c
      (Reachable.mono (fun _ _ _ _ _ => trivial) hrun)).1 hrun
  decide +kernel

end Sample

end LatchApi.Otp
