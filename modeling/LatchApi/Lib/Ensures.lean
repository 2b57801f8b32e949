import LatchApi.Lib.Runs

/-!
Pre- and postconditions of a program that runs alone: what holds of its outcome and of the state
it leaves behind, whatever the choices.
-/

namespace LatchApi.Lib.Program

variable {Op : Type} {Res : Op → Type} {ε α β σ χ : Type} (exec : (op : Op) → σ → χ → Res op × σ)

def Ensures (Q : Except ε α → σ → Prop) : Program Op Res ε α → σ → Prop
  | .ok a, s => Q (.ok a) s
  | .fail e, s => Q (.error e) s
  | .call op next, s => ∀ c, Ensures Q (next (exec op s c).1) (exec op s c).2

def outcome (R : σ → Prop) (P : α → σ → Prop) : Except ε α → σ → Prop
  | .ok a, s => R s ∧ P a s
  | .error _, s => R s

variable {exec} {Q Q' : Except ε α → σ → Prop} {s s' : σ} {f : β → Program Op Res ε α}

@[simp] theorem ensures_ofExcept (x : Except ε α) :
    Ensures exec Q (ofExcept x : Program Op Res ε α) s ↔ Q x s := by
  cases x <;> rfl

theorem ensures_perform_bind (op : Op) (f : Res op → Program Op Res ε α) :
    Ensures exec Q (perform op >>= f) s ↔
      ∀ c, Ensures exec Q (f (exec op s c).1) (exec op s c).2 := Iff.rfl

theorem Ensures.mono {p : Program Op Res ε α} (hp : Ensures exec Q p s)
    (hQ : ∀ out s', Q out s' → Q' out s') : Ensures exec Q' p s := by
  induction p generalizing s with
  | ok a => exact hQ _ _ hp
  | fail e => exact hQ _ _ hp
  | call op next ih => exact fun c => ih _ (hp c)

variable {p : Program Op Res ε β}

theorem Ensures.bind {R : Except ε β → σ → Prop} (hp : Ensures exec R p s)
    (hok : ∀ b s', R (.ok b) s' → Ensures exec Q (f b) s')
    (herror : ∀ e s', R (.error e) s' → Q (.error e) s') : Ensures exec Q (p >>= f) s := by
  induction p generalizing s with
  | ok b => exact hok b s hp
  | fail e => exact herror e s hp
  | call op next ih => exact fun c => ih _ (hp c)

theorem ensures_ofExcept_bind {x : Except ε β} (hok : ∀ b, x = .ok b → Ensures exec Q (f b) s)
    (herror : ∀ e, x = .error e → Q (.error e) s) : Ensures exec Q (ofExcept x >>= f) s := by
  cases x with
  | ok b => exact hok b rfl
  | error e => exact herror e rfl

theorem ensures_iff {p : Program Op Res ε α} :
    Ensures exec Q p s ↔ ∀ out s', Runs exec p s out s' → Q out s' := by
  induction p generalizing s with
  | ok a =>
    constructor
    · rintro h _ _ ⟨rfl, rfl⟩
      exact h
    · exact fun h => h _ _ ⟨rfl, rfl⟩
  | fail e =>
    constructor
    · rintro h _ _ ⟨rfl, rfl⟩
      exact h
    · exact fun h => h _ _ ⟨rfl, rfl⟩
  | call op next ih =>
    constructor
    · rintro h out s' ⟨c, hrun⟩
      exact (ih _).mp (h c) out s' hrun
    · exact fun h c => (ih _).mpr fun out s' hrun => h out s' ⟨c, hrun⟩

variable {P' : α → σ → Prop}

theorem Ensures.bind_outcome {R : σ → Prop} {P : β → σ → Prop} (hp : Ensures exec (outcome R P) p s)
    (hf : ∀ b s', R s' → P b s' → Ensures exec (outcome R P') (f b) s') :
    Ensures exec (outcome R P') (p >>= f) s :=
  hp.bind (fun b s' h => hf b s' h.1 h.2) fun _ _ h => h

theorem Ensures.bind_read {R : σ → Prop} {P : β → Prop}
    (hp : Ensures exec (outcome (s = ·) fun b _ => P b) p s) (hs : R s)
    (hf : ∀ b, P b → Ensures exec (outcome R P') (f b) s) :
    Ensures exec (outcome R P') (p >>= f) s := by
  refine hp.bind ?_ ?_
  · rintro b _ ⟨rfl, hb⟩
    exact hf b hb
  · rintro e _ rfl
    exact hs

end LatchApi.Lib.Program
