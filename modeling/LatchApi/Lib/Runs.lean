import LatchApi.Lib.Program

/-!
A program run alone against a shared state. The answer of an operation and the
next state are a function of the state and of a choice that stands for
everything the program does not control.
-/

namespace LatchApi.Lib.Program

variable {Op : Type} {Res : Op → Type} {ε α β σ χ : Type} (exec : (op : Op) → σ → χ → Res op × σ)

def Runs (p : Program Op Res ε α) (s : σ) (out : Except ε α) (s' : σ) : Prop :=
  match p with
  | .ok a => out = .ok a ∧ s' = s
  | .fail e => out = .error e ∧ s' = s
  | .call op next => ∃ c, Runs (next (exec op s c).1) (exec op s c).2 out s'

def play (p : Program Op Res ε α) (s : σ) (cs : List χ) : Option (Except ε α × σ) :=
  match p, cs with
  | .ok a, [] => some (.ok a, s)
  | .fail e, [] => some (.error e, s)
  | .call op next, c :: cs => play (next (exec op s c).1) (exec op s c).2 cs
  | _, _ => none

def drive (script : Nat → χ) (n : Nat) : Program Op Res ε α → σ → Except ε α × σ
  | .ok a, s => (.ok a, s)
  | .fail e, s => (.error e, s)
  | .call op next, s =>
    drive script (n + 1) (next (exec op s (script n)).1) (exec op s (script n)).2

variable {exec} {p : Program Op Res ε α} {h : Log Res} {out : Except ε α} {G : Op → Prop}
  {Q : Log Res → Except ε α → Prop}

@[simp] theorem runs_ok (a : α) (s s' : σ) (out : Except ε α) :
    Runs exec (.ok a : Program Op Res ε α) s out s' ↔ out = .ok a ∧ s' = s := Iff.rfl

@[simp] theorem runs_fail (e : ε) (s s' : σ) (out : Except ε α) :
    Runs exec (.fail e : Program Op Res ε α) s out s' ↔ out = .error e ∧ s' = s := Iff.rfl

theorem runs_call (op : Op) (next : Res op → Program Op Res ε α) (s s' : σ) (out : Except ε α) :
    Runs exec (.call op next) s out s' ↔
      ∃ c, Runs exec (next (exec op s c).1) (exec op s c).2 out s' := Iff.rfl

theorem runs_drive (p : Program Op Res ε α) (script : Nat → χ) (n : Nat) (s : σ) :
    Runs exec p s (drive exec script n p s).1 (drive exec script n p s).2 := by
  induction p generalizing n s with
  | ok a => exact ⟨rfl, rfl⟩
  | fail e => exact ⟨rfl, rfl⟩
  | call op next ih => exact ⟨script n, ih _ _ _⟩

theorem runs_perform (op : Op) (s s' : σ) (out : Except ε (Res op)) :
    Runs exec (perform op) s out s' ↔
      ∃ c, out = .ok (exec op s c).1 ∧ s' = (exec op s c).2 := Iff.rfl

@[simp] theorem runs_ofExcept (x : Except ε α) (s s' : σ) (out : Except ε α) :
    Runs exec (ofExcept x : Program Op Res ε α) s out s' ↔ out = x ∧ s' = s := by
  cases x <;> rfl

theorem runs_orFail {ε' : Type} {fail : ε' → ε} {x : Except ε' α} {a : α} {s s' : σ} :
    Runs exec (orFail fail x) s (.ok a) s' ↔ x = .ok a ∧ s' = s := by
  cases x <;> simp [orFail, eq_comm]

theorem runs_bind (p : Program Op Res ε α) (f : α → Program Op Res ε β) (s s' : σ)
    (out : Except ε β) :
    Runs exec (p >>= f) s out s' ↔
      (∃ a s₁, Runs exec p s (.ok a) s₁ ∧ Runs exec (f a) s₁ out s') ∨
        ∃ e, Runs exec p s (.error e) s' ∧ out = .error e := by
  induction p generalizing s with
  | ok a => simp [and_assoc]
  | fail e =>
    simp only [fail_bind, runs_fail, reduceCtorEq, false_and, exists_false, false_or,
      Except.error.injEq]
    constructor
    · rintro ⟨rfl, rfl⟩
      exact ⟨e, ⟨rfl, rfl⟩, rfl⟩
    · rintro ⟨e', ⟨rfl, rfl⟩, rfl⟩
      exact ⟨rfl, rfl⟩
  | call op next ih =>
    simp only [call_bind, runs_call, ih]
    constructor
    · rintro ⟨c, ⟨a, s₁, hp, hf⟩ | ⟨e, hp, rfl⟩⟩
      · exact .inl ⟨a, s₁, ⟨c, hp⟩, hf⟩
      · exact .inr ⟨e, ⟨c, hp⟩, rfl⟩
    · rintro (⟨a, s₁, ⟨c, hp⟩, hf⟩ | ⟨e, ⟨c, hp⟩, rfl⟩)
      · exact ⟨c, .inl ⟨a, s₁, hp, hf⟩⟩
      · exact ⟨c, .inr ⟨e, hp, rfl⟩⟩

theorem runs_bind_ok (p : Program Op Res ε α) (f : α → Program Op Res ε β) (s s' : σ) (b : β) :
    Runs exec (p >>= f) s (.ok b) s' ↔
      ∃ a s₁, Runs exec p s (.ok a) s₁ ∧ Runs exec (f a) s₁ (.ok b) s' := by
  simp [runs_bind]

theorem runs_attempt {ε' : Type} (p : Program Op Res ε α) (s s' : σ)
    (out : Except ε' (Except ε α)) :
    Runs exec (p.attempt : Program Op Res ε' _) s out s' ↔ ∃ o, out = .ok o ∧ Runs exec p s o s' := by
  induction p generalizing s with
  | ok a =>
    constructor
    · rintro ⟨rfl, rfl⟩
      exact ⟨_, rfl, rfl, rfl⟩
    · rintro ⟨_, rfl, rfl, rfl⟩
      exact ⟨rfl, rfl⟩
  | fail e =>
    constructor
    · rintro ⟨rfl, rfl⟩
      exact ⟨_, rfl, rfl, rfl⟩
    · rintro ⟨_, rfl, rfl, rfl⟩
      exact ⟨rfl, rfl⟩
  | call op next ih =>
    simp only [attempt, runs_call, ih]
    constructor
    · rintro ⟨c, o, ho, h⟩
      exact ⟨o, ho, c, h⟩
    · rintro ⟨o, ho, c, h⟩
      exact ⟨c, o, ho, h⟩

theorem Always.runs_proj {τ : Type} {s s' : σ} (f : σ → τ) (hp : Always G p)
    (hG : ∀ op s c, G op → f (exec op s c).2 = f s) (hrun : Runs exec p s out s') : f s' = f s := by
  induction p generalizing s with
  | ok a => rw [hrun.2]
  | fail e => rw [hrun.2]
  | call op next ih =>
    obtain ⟨c, hrun⟩ := hrun
    exact (ih _ (hp.2 _) hrun).trans (hG op s c hp.1)

theorem runs_embed {Op' : Type} {Res' : Op' → Type} {σ' χ' : Type}
    {exec' : (op : Op') → σ' → χ' → Res' op × σ'} {f : Op → Op'}
    {back : (op : Op) → Res' (f op) → Res op} (put : σ → σ') {choose : χ' → χ}
    (hchoose : Function.Surjective choose)
    (hexec : ∀ op s c, G op → back op (exec' (f op) (put s) c).1 = (exec op s (choose c)).1 ∧
      (exec' (f op) (put s) c).2 = put (exec op s (choose c)).2) (hp : Always G p) {s : σ}
    {t : σ'} :
    Runs exec' (p.embed f back) (put s) out t ↔ ∃ s', Runs exec p s out s' ∧ t = put s' := by
  induction p generalizing s with
  | ok a =>
    constructor
    · rintro ⟨rfl, rfl⟩
      exact ⟨s, ⟨rfl, rfl⟩, rfl⟩
    · rintro ⟨s', ⟨rfl, rfl⟩, rfl⟩
      exact ⟨rfl, rfl⟩
  | fail e =>
    constructor
    · rintro ⟨rfl, rfl⟩
      exact ⟨s, ⟨rfl, rfl⟩, rfl⟩
    · rintro ⟨s', ⟨rfl, rfl⟩, rfl⟩
      exact ⟨rfl, rfl⟩
  | call op next ih =>
    simp only [embed, runs_call]
    constructor
    · rintro ⟨c, h⟩
      rw [(hexec op s c hp.1).1, (hexec op s c hp.1).2, ih _ (hp.2 _)] at h
      obtain ⟨s', h, rfl⟩ := h
      exact ⟨s', ⟨choose c, h⟩, rfl⟩
    · rintro ⟨s', ⟨c, h⟩, rfl⟩
      obtain ⟨c, rfl⟩ := hchoose c
      refine ⟨c, ?_⟩
      rw [(hexec op s c hp.1).1, (hexec op s c hp.1).2, ih _ (hp.2 _)]
      exact ⟨s', h, rfl⟩

theorem Runs.outcome {D : Discipline Op Res} {s s' : σ} (hp : Obeys D h p Q)
    (hlegal : ∀ op s c, D.legal op (exec op s c).1)
    (hrun : Runs exec p s out s') : ∃ h', Q h' out := by
  induction p generalizing h s with
  | ok a =>
    obtain ⟨rfl, -⟩ := hrun
    exact ⟨h, (obeys_ok _ _).mp hp⟩
  | fail e =>
    obtain ⟨rfl, -⟩ := hrun
    exact ⟨h, (obeys_fail _ _).mp hp⟩
  | call op next ih =>
    obtain ⟨c, hrun⟩ := hrun
    exact ih _ (((obeys_call _ _ _).mp hp).2 _ (hlegal op s c)) hrun

theorem play_sound (p : Program Op Res ε α) (s s' : σ) (cs : List χ) (out : Except ε α)
    (h : play exec p s cs = some (out, s')) : Runs exec p s out s' := by
  induction p generalizing s cs with
  | ok a =>
    cases cs with
    | nil =>
      simp only [play, Option.some.injEq, Prod.mk.injEq] at h
      exact ⟨h.1.symm, h.2.symm⟩
    | cons c cs => simp [play] at h
  | fail e =>
    cases cs with
    | nil =>
      simp only [play, Option.some.injEq, Prod.mk.injEq] at h
      exact ⟨h.1.symm, h.2.symm⟩
    | cons c cs => simp [play] at h
  | call op next ih =>
    cases cs with
    | nil => simp [play] at h
    | cons c cs => exact ⟨c, ih _ _ _ h⟩

variable (exec) in
theorem exists_runs_of_play (p : Program Op Res ε α) (s : σ) (cs : List χ) (P : σ → Bool)
    (h : (play exec p s cs).any (fun x => x.1.toOption.isSome && P x.2) = true) :
    ∃ a s', Runs exec p s (.ok a) s' ∧ P s' = true := by
  obtain ⟨⟨out, s'⟩, hplay, hfacts⟩ := (Option.any_eq_true _ _).mp h
  obtain ⟨hok, hP⟩ := (Bool.and_eq_true _ _).mp hfacts
  cases out with
  | error e => cases hok
  | ok a => exact ⟨a, s', play_sound p s s' cs (.ok a) hplay, hP⟩

variable {script : Script Res}

section Script

/-- The run that takes its answers from `script`, with its calls, the latest first. -/
def runWith (script : Script Res) (h : Log Res) :
    Program Op Res ε α → Except ε α × Log Res
  | .ok a => (.ok a, h)
  | .fail e => (.error e, h)
  | .call op next => runWith script (⟨op, script h op⟩ :: h) (next (script h op))

theorem runWith_bind (script : Script Res) (h : Log Res) (p : Program Op Res ε α)
    (f : α → Program Op Res ε β) :
    (p >>= f).runWith script h =
      match p.runWith script h with
      | (.ok a, h') => (f a).runWith script h'
      | (.error e, h') => (.error e, h') := by
  induction p generalizing h with
  | ok a => rfl
  | fail e => rfl
  | call op next ih => exact ih _ _

theorem runWith_attempt {ε' : Type} (script : Script Res) (h : Log Res) (p : Program Op Res ε α) :
    (p.attempt : Program Op Res ε' _).runWith script h =
      (.ok (p.runWith script h).1, (p.runWith script h).2) := by
  induction p generalizing h with
  | ok a => rfl
  | fail e => rfl
  | call op next ih => exact ih _ _

theorem Always.runWith (hp : Always G p) (script : Script Res) (hh : ∀ e ∈ h, G e.1) : ∀ e ∈
    (p.runWith script h).2, G e.1 := by
  induction p generalizing h with
  | ok a => exact hh
  | fail e => exact hh
  | call op next ih => exact ih _ (hp.2 _) (List.forall_mem_cons.mpr ⟨hp.1, hh⟩)

theorem runWith_of_mem {e : Event Res} (he : e ∈ h) : e ∈ (p.runWith script h).2 := by
  induction p generalizing h with
  | ok a => exact he
  | fail e => exact he
  | call op next ih => exact ih _ (List.mem_cons_of_mem _ he)

theorem mem_runWith {e : Event Res} (he : e ∈ (p.runWith script h).2) :
    e ∈ h ∨ ∃ h', e.2 = script h' e.1 := by
  induction p generalizing h with
  | ok a => exact .inl he
  | fail e => exact .inl he
  | call op next ih =>
    rcases ih _ he with he | he
    · rcases List.mem_cons.mp he with rfl | he
      · exact .inr ⟨h, rfl⟩
      · exact .inl he
    · exact .inr he

theorem Obeys.runWith {D : Discipline Op Res} (hp : Obeys D h p Q)
    (hlegal : ∀ h op, D.legal op (script h op)) :
    Q (p.runWith script h).2 (p.runWith script h).1 := by
  induction hp with
  | ok hQ => exact hQ
  | fail hQ => exact hQ
  | call hg _ ih => exact ih _ (hlegal _ _)

theorem Obeys.guard_runWith {D : Discipline Op Res} (hp : Obeys D h p Q)
    (hlegal : ∀ h op, D.legal op (script h op))
    (hh : ∀ e earlier, e :: earlier <:+ h → D.guard earlier e.1) :
    ∀ e earlier, e :: earlier <:+ (p.runWith script h).2 → D.guard earlier e.1 := by
  induction hp with
  | ok _ => exact hh
  | fail _ => exact hh
  | call hg _ ih =>
    refine ih _ (hlegal _ _) fun e earlier he => ?_
    rcases List.suffix_cons_iff.mp he with heq | he
    · cases heq
      exact hg
    · exact hh e earlier he

end Script

end LatchApi.Lib.Program
