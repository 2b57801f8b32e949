import LatchApi.Ceremony.Runs
import LatchApi.WebAuthn.Takeover

/-!
How many finish calls one challenge serves. A finish call reads the challenge, checks its input
against it and deletes it with separate statements, and does not look at whether its deletion found
the row, so two calls that have both read it can both succeed.
-/

namespace LatchApi.Ceremony

open Lib Program Store WebAuthn Lib.System Lib.Thread

structure Distinct (mint : Nat → Uuid) (c : CeremonyConfig) : Prop where
  traced : Traced c
  made : ∀ t ∈ c.threads, ∀ id ∈ minted t.history, ∃ i < c.state.minted, id = mint i
  apart : c.threads.Pairwise fun t u => ∀ id ∈ minted t.history, id ∉ minted u.history
  same : ∀ u ∈ c.threads, ∀ row ∈ reads u.history,
    ∀ row' ∈ c.state.shared.db.challenges.rows, row'.id = row.id → row' = row
  gone : ∀ u ∈ c.threads, ∀ id ∈ deletes u.history,
    ∀ row ∈ c.state.shared.db.challenges.rows, row.id ≠ id

variable {allow : CeremonySchedule}

section Runs

variable {L : Libraries} {mint : Nat → Uuid} {s : State} {before after : List CeremonyThread}
  {t : CeremonyThread} {op : Op} {next : Res op → Service Answer}

theorem Distinct.ne_of_issue (h : Distinct mint ⟨s, before ++ t :: after⟩)
    (hg : guard t.request t.history op) {row row' : ChallengeRow}
    (hnew : .insertWebauthnChallenge row ∈ op.effects)
    (hissued : ∃ u ∈ before ++ t :: after, Issued row' u) : row.id ≠ row'.id := by
  intro heq
  obtain ⟨hid, hnot, -⟩ := guard_issue hg hnew
  obtain ⟨u, hu, hissue⟩ := hissued
  have hid' := hissue.id
  rw [← heq] at hid'
  rcases mem_advanced hu with rfl | hu
  · rw [hissue.issue] at hnot
    cases hnot
  · have hR := of_pairwise (fun hR id hid hid' => hR id hid' hid) h.apart hu
    exact hR row.id hid hid'

theorem Distinct.act (ch : Choice) (hmint : Function.Injective mint)
    (hg : guard t.request t.history op) (h : Distinct mint ⟨s, before ++ t :: after⟩) :
    Distinct mint ⟨(exec mint op s ch).2,
      before ++ t.advance op (exec mint op s ch).1 next :: after⟩ := by
  have ht : t ∈ before ++ t :: after := by simp
  refine ⟨h.traced.act ch hg, ?_, ?_, ?_, ?_⟩
  · refine forall_advanced h.made (fun u hu id hid => ?_) (fun id hid => ?_)
    · obtain ⟨i, hi, rfl⟩ := hu id hid
      exact ⟨i, Nat.lt_of_lt_of_le hi minted_le_exec, rfl⟩
    rcases mem_view_advance hid with hid | hnew
    · obtain ⟨i, hi, rfl⟩ := h.made t ht id hid
      exact ⟨i, Nat.lt_of_lt_of_le hi minted_le_exec, rfl⟩
    · obtain ⟨rfl, hnext⟩ := exec_mint hnew
      exact ⟨s.minted, hnext ▸ Nat.lt_succ_self _, rfl⟩
  · refine pairwise_advanced (fun hR id hid hid' => hR id hid' hid) h.apart ?_
    intro u hu hR id hid hidu
    rcases mem_view_advance hid with hid | hnew
    · exact hR id hid hidu
    -- a new id differs from all earlier ones
    obtain ⟨rfl, -⟩ := exec_mint hnew
    obtain ⟨i, hi, heq⟩ := h.made u (mem_of_others hu) _ hidu
    exact absurd (hmint heq) (Nat.ne_of_gt hi)
  · have hold : ∀ u ∈ before ++ t :: after, ∀ row ∈ reads u.history,
        ∀ row' ∈ (exec mint op s ch).2.shared.db.challenges.rows, row'.id = row.id → row' = row := by
      intro u hu row hrow row' hrow' heq
      rcases mem_challenges_exec hrow' with hrow' | hnew
      · exact h.same u hu row hrow row' hrow' heq
      · exact absurd heq (h.ne_of_issue hg hnew (h.traced.read u hu row hrow))
    refine forall_advanced hold (fun _ h => h) fun row hrow row' hrow' heq => ?_
    rcases mem_view_advance hrow with hrow | hnew
    · exact hold t ht row hrow row' hrow' heq
    · obtain ⟨uid, purpose, rfl, hstored, -⟩ := exec_read hnew
      exact Table.eq_of_pk_eq hrow' hstored heq
  · have hold : ∀ u ∈ before ++ t :: after, ∀ id ∈ deletes u.history,
        ∀ row ∈ (exec mint op s ch).2.shared.db.challenges.rows, row.id ≠ id := by
      intro u hu id hid row hrow
      rcases mem_challenges_exec hrow with hrow | hnew
      · exact h.gone u hu id hid row hrow
      · obtain ⟨read, hread, rfl⟩ := h.traced.deleted u hu id hid
        exact h.ne_of_issue hg hnew (h.traced.read u hu read hread)
    refine forall_advanced hold (fun _ h => h) fun id hid => ?_
    rcases mem_view_advance hid with hid | hnew
    · exact hold t ht id hid
    · exact (exec_delete hnew).2

variable {shared : Shared} {c : CeremonyConfig}

theorem distinct_of_reachable (hmint : Function.Injective mint)
    (hc : (ceremonySystem L mint).Reachable allow (start shared) c) : Distinct mint c := by
  refine Reachable.invariant (fun req => guarded (guard req)) (Distinct mint)
    (fun req => (obeys_body L req).mono fun _ _ _ => trivial) ?_ ?_ ?_ ?_ ?_ hc
  · exact fun t op s ch => legal_exec
  · refine ⟨@traced_of_reachable L mint _ _ allow .refl, ?_, ?_, ?_, ?_⟩ <;> simp
  · intro s ts req h
    refine ⟨h.traced.arrive req, ?_, ?_, ?_, ?_⟩
    · exact forall_arrived h.made (by simp [minted])
    · exact pairwise_arrived h.apart fun t _ id _ => List.not_mem_nil
    · exact forall_arrived h.same (by simp [reads])
    · exact forall_arrived h.gone (by simp [deletes])
  · intro s s' ts e he h
    cases he
    exact ⟨h.traced.elsewhere e, h.made, h.apart, h.same, h.gone⟩
  · exact fun s before after t op next ch _ _ hg h => h.act ch hmint hg

def Reads (id : Uuid) (t : CeremonyThread) : Prop := ∃ row ∈ reads t.history, row.id = id

instance (id : Uuid) (t : CeremonyThread) : Decidable (Reads id t) := by
  unfold Reads; infer_instance

def SucceededWith (id : Uuid) (t : CeremonyThread) : Prop := t.succeeded = true ∧ Reads id t

/-- No call reads a challenge of a user and a purpose while another call is under way that has read
one of theirs which is still stored. -/
def readsAlone : CeremonySchedule := fun s others _ op =>
  match op with
  | .read (.getLatestWebauthnChallenge userID purpose) =>
    ∀ u ∈ others, u.active = true → ∀ row ∈ reads u.history,
      row ∈ s.shared.db.challenges.rows → ¬ (row.userID = some userID ∧ row.purpose = purpose)
  | _ => True

instance (s : State) (others : List CeremonyThread) (t : CeremonyThread) (op : Op) :
    Decidable (readsAlone s others t op) := by
  unfold readsAlone
  split <;> infer_instance

theorem deleted_of_succeeded (hc : (ceremonySystem L mint).Reachable allow (start shared) c)
    {u : CeremonyThread} (hu : u ∈ c.threads) {id : Uuid} (h : SucceededWith id u) :
    id ∈ deletes u.history := by
  obtain ⟨hs, row, hrow, rfl⟩ := h
  obtain ⟨hctx, honly⟩ := (traced_of_reachable hc).single u hu row hrow
  obtain ⟨row', ⟨hread, hdeleted⟩, -⟩ := ends_of_reachable hc hu hs hctx
  rw [honly] at hread
  obtain rfl := List.mem_singleton.mp hread
  exact hdeleted

def Claims (id : Uuid) (t : CeremonyThread) : Prop :=
  Reads id t ∧ (t.active = true ∨ t.succeeded = true)

theorem claims_unique (hmint : Function.Injective mint)
    (hc : (ceremonySystem L mint).Reachable readsAlone (start shared) c) :
    c.threads.Pairwise fun t u => ∀ id, ¬ (Claims id t ∧ Claims id u) := by
  induction hc with
  | refl => exact .nil
  | tail run step ih =>
    have hdistinct := distinct_of_reachable hmint run
    cases step with
    | arrive s ts req =>
      refine pairwise_arrived ih fun t _ id => ?_
      simp [Claims, Reads, reads]
    | world s s' ts e he => exact ih
    | act s before after t op next ch hrest hallow =>
      refine pairwise_advanced (fun h id hut => h id hut.symm) ih ?_
      rintro u hu htu id ⟨⟨⟨row, hrow, rfl⟩, -⟩, ⟨row', hrow', heq⟩, hgoing⟩
      have hmem : u ∈ before ++ t :: after := mem_of_others hu
      rcases mem_view_advance hrow with hrow | hnew
      · exact htu row.id ⟨⟨⟨row, hrow, rfl⟩, .inl (active_of_rest hrest)⟩,
          ⟨row', hrow', heq⟩, hgoing⟩
      -- the challenge is still stored, so no call has succeeded against it
      obtain ⟨uid, purpose, rfl, hstored, hcols⟩ := exec_read hnew
      rcases hgoing with hactive | hsucceeded
      · obtain rfl := hdistinct.same u hmem row' hrow' row hstored heq.symm
        exact hallow u hu hactive row hrow' hstored hcols
      · have hdeleted := deleted_of_succeeded run hmem ⟨hsucceeded, row', hrow', heq⟩
        exact hdistinct.gone u hmem row.id hdeleted row hstored rfl

/-- In a run in which the finish calls of a user and a purpose do not overlap between reading a
challenge and its deletion, one call at most succeeds against each challenge. -/
theorem finishes_once_of_readsAlone (L : Libraries) (mint : Nat → Uuid)
    (hmint : Function.Injective mint) (shared : Shared) (c : CeremonyConfig)
    (hc : (ceremonySystem L mint).Reachable readsAlone (start shared) c) (id : Uuid) :
    c.threads.Pairwise fun t u => ¬ (SucceededWith id t ∧ SucceededWith id u) := by
  refine (claims_unique hmint hc).imp fun h hboth => ?_
  exact h id ⟨⟨hboth.1.2, .inr hboth.1.1⟩, ⟨hboth.2.2, .inr hboth.2.1⟩⟩

end Runs

namespace Sample

open WebAuthn.Sample

def counting : Choice where
  bytes := (List.range 32).map UInt8.ofNat

abbrev Moves := List (System.Move Request Choice Shared)

def acts (thread steps : Nat) : Moves := List.replicate steps (.act thread counting)

def began : Moves :=
  .arrive (.beginRegistration (.of 2) "localhost" "http://localhost:3000") :: acts 0 6

def registers : System.Move Request Choice Shared :=
  .arrive (.finishRegistration (registration 2 ownerKey))

def bothRead : Moves := began ++ [registers, registers] ++ acts 1 1 ++ acts 2 1 ++ acts 1 5 ++ acts 2 5

theorem both_registered :
    ∃ c, (ceremonySystem libraries id).Reachable System.anySchedule (start ⟨Db.empty, []⟩) c ∧
      c.threads.map Thread.succeeded = [true, true, true] ∧
      ∀ t ∈ c.threads.drop 1, SucceededWith 0 t := by
  refine exists_reachable bothRead ?_
  simp only [SucceededWith]
  decide +kernel

def inTurn : Moves := began ++ [registers, registers] ++ acts 1 6 ++ acts 2 1

theorem registered_once_in_turn :
    ∃ c, (ceremonySystem libraries id).Reachable readsAlone (start ⟨Db.empty, []⟩) c ∧
      c.threads.map Thread.succeeded = [true, true, false] ∧
      ∀ challenge, c.threads.Pairwise fun t u =>
        ¬ (SucceededWith challenge t ∧ SucceededWith challenge u) := by
  refine exists_reachable_and inTurn ?_ fun c hrun _ =>
    finishes_once_of_readsAlone libraries id Function.injective_id ⟨Db.empty, []⟩ c hrun
  decide +kernel

end Sample

end LatchApi.Ceremony
