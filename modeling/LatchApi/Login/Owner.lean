import LatchApi.Login.SignCount

/-!
Which user a login resolves to. An adoption mints a user and stores the credential, but a row that
is there by then keeps its owner, so of two logins that have both found the credential absent the
second returns a user who does not own it.
-/

namespace LatchApi.Login

open Lib Program Store WebAuthn Lib.System Lib.Thread

def storedUser (db : Db) (c : String) : Option Uuid :=
  (db.storedCredential c).map CredentialRow.userID

def Adopting (c : String) (t : LoginThread) : Prop :=
  assertedID t.request = c ∧ t.active = true ∧ t.history.any isAbsent = true ∧
    t.history.any isCommit = false

instance (c : String) (t : LoginThread) : Decidable (Adopting c t) := by
  unfold Adopting
  infer_instance

/-- No call looks up a credential that is not stored while another one is adopting it. -/
def adoptsAlone : LoginSchedule := fun s others _ op =>
  match op with
  | .read (.getWebauthnCredentialByCredentialID c) =>
    s.db.storedCredential c = none → ∀ u ∈ others, ¬ Adopting c u
  | _ => True

theorem adoptsAlone_lookup_iff (s : Shared) (others : List LoginThread) (t : LoginThread)
    (c : String) : ((s.db.storedCredential c).isSome = true ∨ ∀ u ∈ others, ¬ Adopting c u) ↔
      adoptsAlone s others t (.read (.getWebauthnCredentialByCredentialID c)) := by
  cases h : s.db.storedCredential c <;> simp [adoptsAlone, h]

instance (s : Shared) (others : List LoginThread) (t : LoginThread) (op : Op) :
    Decidable (adoptsAlone s others t op) := by
  cases op with
  | read q =>
    cases q with
    | getWebauthnCredentialByCredentialID c =>
      exact decidable_of_iff _ (adoptsAlone_lookup_iff s others t c)
    | _ => exact inferInstanceAs (Decidable True)
  | _ => exact inferInstanceAs (Decidable True)

structure Owned (cfg : LoginConfig) : Prop where
  seen : ∀ t ∈ cfg.threads, ∀ row ∈ found t.history,
    storedUser cfg.state.db (assertedID t.request) = some row.userID
  adopted : ∀ t ∈ cfg.threads, ∀ ws owner, committed ws ∈ t.history →
    Adoption (assertedID t.request) owner ws →
    storedUser cfg.state.db (assertedID t.request) = some owner
  absent : ∀ t ∈ cfg.threads, ∀ c, Adopting c t → cfg.state.db.storedCredential c = none
  apart : cfg.threads.Pairwise fun t u => ∀ c, ¬ (Adopting c t ∧ Adopting c u)

variable {s : Shared}

section Act

variable {L : Libraries} {before after : List LoginThread} {t : LoginThread} {op : Op}
  {next : Res op → Service AuthenticatedCredential} {ch : Choice} {c : String}

theorem exec_user {input : FinishAuthenticationInput} {h : History} {u : Uuid}
    (hg : guard L input h op) (hu : storedUser s.db c = some u) :
    storedUser (exec op s ch).2.db c = some u := by
  obtain ⟨r, hr, rfl⟩ := Option.map_eq_some_iff.mp hu
  rcases exec_stored hg s ch c with heq | ⟨-, ⟨n, -, heq⟩ | ⟨ws, owner, row, -, -, -, heq⟩⟩
  · rw [storedUser, heq, hr]
    rfl
  · rw [storedUser, heq, hr]
    rfl
  · rw [storedUser, heq, hr]
    rfl

theorem exec_commit_user {ws : List Write} {owner : Uuid} (hadoption : Adoption c owner ws)
    (hnone : s.db.storedCredential c = none) (h : (exec (.commit ws) s ch).1 = .ok ()) :
    storedUser (exec (.commit ws) s ch).2.db c = some owner := by
  have hstored := storedCredential_of_applyAll (settle_ok h) c
  obtain ⟨user, row, account, rfl, rfl, rfl⟩ := hadoption
  change storedUser (settle _ _ _).2.db _ = _
  rw [storedUser, hstored, hnone]
  simp [Write.onCredential]

theorem Adopting.of_advance (hrest : t.rest = .call op next) (hg : guard L t.request t.history op)
    (h : Adopting c (t.advance op (exec op s ch).1 next)) :
    Adopting c t ∨ op = .read (.getWebauthnCredentialByCredentialID c) ∧
      s.db.storedCredential c = none := by
  obtain ⟨rfl, -, habsent, hcommit⟩ := h
  rw [advance_history, List.any_cons] at habsent hcommit
  rw [Bool.or_eq_false_iff] at hcommit
  rcases Bool.or_eq_true_iff.mp habsent with hnew | hold
  · obtain ⟨c, rfl, hnone⟩ := exec_isAbsent hnew
    obtain rfl : c = assertedID t.request := hg
    exact .inr ⟨rfl, hnone⟩
  · exact .inl ⟨rfl, active_of_rest hrest, hold, hcommit.2⟩

theorem Owned.act (h : Owned ⟨s, before ++ t :: after⟩) (hrest : t.rest = .call op next)
    (hallow : adoptsAlone s (before ++ after) t op) (hg : guard L t.request t.history op) :
    Owned ⟨(exec op s ch).2, before ++ t.advance op (exec op s ch).1 next :: after⟩ := by
  have ht : t ∈ before ++ t :: after := by simp
  have hapart : ∀ u ∈ before ++ after, ∀ c, Adopting c t → ¬ Adopting c u := fun u hu c htc huc =>
    of_pairwise (fun h c => h c ∘ And.symm) h.apart hu c ⟨htc, huc⟩
  refine ⟨?_, ?_, ?_, ?_⟩
  · have hold : ∀ u ∈ before ++ t :: after, ∀ row ∈ found u.history,
        storedUser (exec op s ch).2.db (assertedID u.request) = some row.userID :=
      fun u hu row hrow => exec_user hg (h.seen u hu row hrow)
    refine forall_advanced hold (fun _ h => h) fun row hrow => ?_
    rcases found_advance hg hrow with hrow | ⟨rfl, hstored⟩
    · exact hold t ht row hrow
    · exact congrArg (Option.map CredentialRow.userID) hstored
  · have hold : ∀ u ∈ before ++ t :: after, ∀ ws owner, committed ws ∈ u.history →
        Adoption (assertedID u.request) owner ws →
        storedUser (exec op s ch).2.db (assertedID u.request) = some owner :=
      fun u hu ws owner hc hadoption => exec_user hg (h.adopted u hu ws owner hc hadoption)
    refine forall_advanced hold (fun _ h => h) fun ws owner hc hadoption => ?_
    rcases Thread.mem_advance hc with ⟨rfl, heq⟩ | hc
    · have hadopting : Adopting (assertedID t.request) t :=
        ⟨rfl, active_of_rest hrest, hg.1, hg.2.1⟩
      exact exec_commit_user hadoption (h.absent t ht _ hadopting) heq
    · exact hold t ht ws owner hc hadoption
  · intro u hu c hadopting
    rcases mem_advanced hu with rfl | hother
    · rcases hadopting.of_advance hrest hg with hold | ⟨rfl, hnone⟩
      · have hnone := h.absent t ht c hold
        rcases exec_stored hg s ch c with heq | ⟨-, ⟨n, -, heq⟩ | ⟨ws, owner, row, rfl, -⟩⟩
        · exact heq.trans hnone
        · rw [heq, hnone]
          rfl
        · cases hadopting.2.2.2
      · exact hnone
    · have hnone := h.absent u (mem_of_others hother) c hadopting
      rcases exec_stored hg s ch c with heq | ⟨hc, ⟨n, -, heq⟩ | ⟨ws, owner, row, rfl, -⟩⟩
      · exact heq.trans hnone
      · rw [heq, hnone]
        rfl
      · have ht' : Adopting c t := ⟨hc, active_of_rest hrest, hg.1, hg.2.1⟩
        exact absurd hadopting (hapart u hother c ht')
  · refine pairwise_advanced (fun h c => h c ∘ And.symm) h.apart fun u hu htu c hboth => ?_
    rcases hboth.1.of_advance hrest hg with hold | ⟨rfl, hnone⟩
    · exact htu c ⟨hold, hboth.2⟩
    · exact hallow hnone u hu hboth.2

end Act

section Runs

variable {L : Libraries} {shared : Shared} {cfg : LoginConfig}

theorem Owned.arrive {ts : List LoginThread} (h : Owned ⟨s, ts⟩) (input : FinishAuthenticationInput) :
    Owned ⟨s, ts ++ [⟨input, [], (loginSystem L).body input⟩]⟩ := by
  refine ⟨forall_arrived h.seen ?_, forall_arrived h.adopted ?_,
    forall_arrived h.absent ?_, pairwise_arrived h.apart fun t _ c => ?_⟩
  · simp [found]
  · simp
  · simp [Adopting]
  · simp [Adopting]

theorem Owned.elsewhere {e s' : Shared} {ts : List LoginThread} (h : Owned ⟨s, ts⟩)
    (he : elsewhere e s = some s') : Owned ⟨s', ts⟩ := by
  cases he
  exact ⟨h.seen, h.adopted, h.absent, h.apart⟩

theorem owned_of_reachable (hc : (loginSystem L).Reachable adoptsAlone shared cfg) : Owned cfg := by
  induction hc with
  | refl => exact ⟨by simp, by simp, by simp, .nil⟩
  | tail run step ih =>
    cases step with
    | arrive s ts input => exact ih.arrive input
    | world s s' ts e he => exact ih.elsewhere he
    | act s before after t op next ch hrest hallow =>
      exact ih.act hrest hallow (guard_of_reachable run (by simp) hrest)

def returned (t : LoginThread) : Option AuthenticatedCredential :=
  match t.rest with
  | .ok out => some out
  | _ => none

theorem rest_of_returned {t : LoginThread} {out : AuthenticatedCredential}
    (h : returned t = some out) : t.rest = .ok out := by
  unfold returned at h
  split at h
  · rename_i out' hrest
    rw [hrest, Option.some.inj h]
  · cases h

/-- What the call returns is the credential's stored owner, and the members it has linked are
linked to that user. -/
def ResolvesOwner (db : Db) (t : LoginThread) : Prop :=
  ∀ out, returned t = some out → out.credentialID = assertedID t.request ∧
    storedUser db out.credentialID = some out.userID ∧
    ∀ link ∈ links t.history, link = (out.userID, out.credentialID)

/-- In a run in which no login finds a credential absent while another one is adopting it, every
login that returns resolves to the stored owner. -/
theorem resolves_owner_of_adoptsAlone (L : Libraries) (shared : Shared) (cfg : LoginConfig)
    (hc : (loginSystem L).Reachable adoptsAlone shared cfg) :
    ∀ t ∈ cfg.threads, ResolvesOwner cfg.state.db t := by
  intro t ht out hout
  have howned := owned_of_reachable hc
  have hends := ends_of_reachable hc ht (rest_of_returned hout)
  refine ⟨hends.credential, ?_, fun link hlink => ?_⟩
  · rw [hends.credential]
    rcases hends.stored with ⟨row, hrow, huser, -⟩ | ⟨-, ws, hws, hadoption⟩
    · rw [howned.seen t ht row hrow, huser]
    · exact howned.adopted t ht ws out.userID hws hadoption
  · rw [hends.links] at hlink
    exact List.mem_singleton.mp hlink

end Runs

namespace Sample

open WebAuthn.Sample (credentialID)

def indexed : Shared where
  db := { database with
    passkeys := ⟨[⟨hexEncode credentialID, hexEncode (passkey ++ credentialID), "CACCOUNT", "", 0⟩],
      List.nodup_singleton _, List.nodup_singleton _⟩
    members := ⟨[⟨30, none, some storedID⟩], List.nodup_singleton _, List.nodup_singleton _⟩ }
  nonces := []

def adopts (i : Nat) (uuid : Uuid) : Moves :=
  acts i 5 uuid ++ acts i 2 (uuid + 1) ++ acts i 2 (uuid + 2) ++ acts i 3 0

def bothAbsent : Moves :=
  [.arrive (login first), .arrive (login second)] ++ acts 0 3 0 ++ acts 1 3 0 ++ adopts 0 40 ++
    adopts 1 50

theorem second_adopter_not_owner :
    ∃ cfg, (loginSystem libraries).Reachable System.anySchedule indexed cfg ∧
      cfg.threads.map Thread.succeeded = [true, true] ∧
      storedUser cfg.state.db storedID = some 40 ∧
      cfg.state.db.members.rows.map MemberLinkRow.userID = [some 50] ∧
      ¬ ∀ t ∈ cfg.threads, ResolvesOwner cfg.state.db t := by
  obtain ⟨cfg, hrun, hsucceeded, huser, hmembers, t, ht, out, hout, hne⟩ :
      ∃ cfg, (loginSystem libraries).Reachable anySchedule indexed cfg ∧
      cfg.threads.map succeeded = [true, true] ∧
      storedUser cfg.state.db storedID = some 40 ∧
      cfg.state.db.members.rows.map MemberLinkRow.userID = [some 50] ∧
      ∃ t ∈ cfg.threads, ∃ out ∈ returned t,
        storedUser cfg.state.db out.credentialID ≠ some out.userID :=
    exists_reachable bothAbsent (by decide +kernel)
  refine ⟨cfg, hrun, hsucceeded, huser, hmembers, fun hall => ?_⟩
  exact hne (hall t ht out hout).2.1

def afterAdoption : Moves :=
  [.arrive (login first), .arrive (login second)] ++ acts 0 3 0 ++ adopts 0 40 ++ acts 1 6 0

theorem second_login_resolves : ∃ cfg, (loginSystem libraries).Reachable adoptsAlone indexed cfg ∧
      cfg.threads.map Thread.succeeded = [true, true] ∧
      ∀ t ∈ cfg.threads, ResolvesOwner cfg.state.db t := by
  refine exists_reachable_and afterAdoption ?_ fun cfg hrun _ =>
    resolves_owner_of_adoptsAlone libraries indexed cfg hrun
  decide +kernel

end Sample

end LatchApi.Login
