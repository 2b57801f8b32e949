import LatchApi.Lib.Outcome
import LatchApi.Lib.Runs

namespace LatchApi.Lib.Program

variable {Op : Type} {Res : Op → Type} {ε α β : Type} (answer : (op : Op) → Res op)

def eval : Program Op Res ε α → Except ε α
  | .ok a => .ok a
  | .fail e => .error e
  | .call op next => eval (next (answer op))

@[simp] theorem eval_ok (a : α) : eval answer (.ok a : Program Op Res ε α) = .ok a := rfl

@[simp] theorem eval_ofExcept (x : Except ε α) :
    eval answer (ofExcept x : Program Op Res ε α) = x := by
  cases x <;> rfl

theorem eval_perform_bind (op : Op) (f : Res op → Program Op Res ε α) :
    eval answer (perform op >>= f) = eval answer (f (answer op)) := rfl

theorem eval_bind (p : Program Op Res ε α) (f : α → Program Op Res ε β) :
    eval answer (p >>= f) = eval answer p >>= fun a => eval answer (f a) := by
  induction p with
  | ok a => rfl
  | fail e => rfl
  | call op next ih => exact ih _

theorem eval_attempt {ε' : Type} (p : Program Op Res ε α) :
    eval answer (p.attempt : Program Op Res ε' _) = .ok (eval answer p) := by
  induction p with
  | ok a => rfl
  | fail e => rfl
  | call op next ih => exact ih _

theorem eval_embed {Op' : Type} {Res' : Op' → Type} (answer' : (op : Op') → Res' op) (f : Op → Op')
    (back : (op : Op) → Res' (f op) → Res op) (p : Program Op Res ε α) :
    eval answer' (p.embed f back) = eval (fun op => back op (answer' (f op))) p := by
  induction p with
  | ok a => rfl
  | fail e => rfl
  | call op next ih => exact ih _

variable {answer}

variable {p : Program Op Res ε α} {script : Script Res}

theorem runWith_eq_eval {G : Op → Prop} (hp : Always G p)
    (hscript : ∀ h op, G op → script h op = answer op) (h : Log Res) :
    (p.runWith script h).1 = eval answer p := by
  induction p generalizing h with
  | ok a => rfl
  | fail e => rfl
  | call op next ih =>
    rw [runWith, hscript h op hp.1]
    exact ih _ (hp.2 _) _

variable {f : α → Program Op Res ε β}

section Yields

variable (answer) in
def Yields (p : Program Op Res ε α) (Q : α → Prop) : Prop := ∃ a, eval answer p = .ok a ∧ Q a

variable {P : α → Prop} {Q : β → Prop}

theorem yields_ok {a : α} (h : P a) : Yields answer (.ok a : Program Op Res ε α) P := ⟨a, rfl, h⟩

theorem Yields.mono {P' : α → Prop} (hp : Yields answer p P) (h : ∀ a, P a → P' a) :
    Yields answer p P' := by
  obtain ⟨a, ha, hP⟩ := hp
  exact ⟨a, ha, h a hP⟩

theorem Yields.bind (hp : Yields answer p P) (hf : ∀ a, P a → Yields answer (f a) Q) :
    Yields answer (p >>= f) Q := by
  obtain ⟨a, ha, hP⟩ := hp
  obtain ⟨b, hb, hQ⟩ := hf a hP
  refine ⟨b, ?_, hQ⟩
  rw [eval_bind, ha]
  exact hb

theorem yields_ofExcept_bind {x : Except ε α} {a : α} (hx : x = .ok a)
    (hf : Yields answer (f a) Q) : Yields answer (ofExcept x >>= f) Q := by
  subst hx
  exact hf

theorem Yields.runWith (hp : Yields answer p P) (h : Log Res) :
    ∃ a, (p.runWith (fun _ => answer) h).1 = .ok a ∧ P a := by
  obtain ⟨a, ha, hP⟩ := hp
  refine ⟨a, ?_, hP⟩
  rw [← ha]
  exact runWith_eq_eval (always_of_forall (G := fun _ => True) (fun _ => trivial) p)
    (fun _ _ _ => rfl) h

end Yields

section Sequenced

variable {h : Log Res}

theorem runWith_perform_bind (op : Op) (f : Res op → Program Op Res ε β) :
    (perform op >>= f).runWith script h =
      (f (script h op)).runWith script (⟨op, script h op⟩ :: h) := rfl

theorem runWith_bind_ok {a : α} (hp : (p.runWith script h).1 = .ok a) :
    (p >>= f).runWith script h = (f a).runWith script (p.runWith script h).2 := by
  rw [runWith_bind]
  generalize p.runWith script h = run at hp
  obtain ⟨out, h'⟩ := run
  obtain rfl := hp
  rfl

theorem runWith_bind_error {e : ε} (hp : (p.runWith script h).1 = .error e) :
    (p >>= f).runWith script h = (.error e, (p.runWith script h).2) := by
  rw [runWith_bind]
  generalize p.runWith script h = run at hp
  obtain ⟨out, h'⟩ := run
  obtain rfl := hp
  rfl

theorem exists_of_runWith_bind {b : β} (hrun : ((p >>= f).runWith script h).1 = .ok b) :
    ∃ a, (p.runWith script h).1 = .ok a ∧
      ((f a).runWith script (p.runWith script h).2).1 = .ok b := by
  cases hp : (p.runWith script h).1 with
  | ok a => exact ⟨a, rfl, by rwa [runWith_bind_ok hp] at hrun⟩
  | error e =>
    rw [runWith_bind_error hp] at hrun
    cases hrun

theorem exists_of_runWith_ofExcept {x : Except ε α} {b : β}
    (hrun : ((ofExcept x >>= f).runWith script h).1 = .ok b) :
    ∃ a, x = .ok a ∧ ((f a).runWith script h).1 = .ok b := by
  cases x with
  | ok a => exact ⟨a, rfl, hrun⟩
  | error e => cases hrun

end Sequenced

end LatchApi.Lib.Program
