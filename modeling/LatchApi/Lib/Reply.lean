import Mathlib.Logic.Basic

namespace LatchApi.Lib

inductive Reply where
  | done
  | failed
  | lost
deriving DecidableEq

variable {ε α σ : Type}

def replied (fault : ε) (reply : Reply) (a : α) (s s' : σ) : Except ε α × σ :=
  match reply with
  | .done => (.ok a, s')
  | .failed => (.error fault, s)
  | .lost => (.error fault, s')

theorem replied_ok {fault : ε} {reply : Reply} {a b : α} {s s' : σ}
    (h : (replied fault reply a s s').1 = .ok b) :
    b = a ∧ (replied fault reply a s s').2 = s' := by
  cases reply with
  | done => exact ⟨(Except.ok.inj h).symm, rfl⟩
  | _ => cases h

theorem replied_if_ok {p : Prop} [Decidable p] {fault : ε} {reply : Reply} {a b : α} {s s' r : σ}
    (h : (if p then replied fault reply a s s' else (.error fault, r)).1 = .ok b) :
    p ∧ (if p then replied fault reply a s s' else (.error fault, r)).2 = s' := by
  by_cases hp : p
  · rw [if_pos hp] at h ⊢
    exact ⟨hp, (replied_ok h).2⟩
  · rw [if_neg hp] at h
    cases h

theorem replied_cases {P : σ → Prop} {s s' : σ} (hs : P s) (hs' : P s') (fault : ε) (reply : Reply)
    (a : α) : P (replied fault reply a s s').2 := by
  cases reply
  · exact hs'
  · exact hs
  · exact hs'

/-- What became of a command, told apart also where the sender cannot: one that took effect goes
unheard when its answer is lost or the sender stops before it arrives. -/
inductive Fate (α : Type) where
  | heard (a : α)
  | unheard (a : α)
  | refused

def Fate.effect : Fate α → Option α
  | .heard a => some a
  | .unheard a => some a
  | .refused => none

def Reply.fate (reply : Reply) (a : α) (s s' : σ) : Fate α × σ :=
  match reply with
  | .done => (.heard a, s')
  | .failed => (.refused, s)
  | .lost => (.unheard a, s')

theorem Reply.fate_cases (reply : Reply) (a : α) (s s' : σ) :
    (reply.fate a s s').1.effect = none ∧ (reply.fate a s s').2 = s ∨
      (reply.fate a s s').1.effect = some a ∧ (reply.fate a s s').2 = s' := by
  cases reply with
  | failed => exact .inl ⟨rfl, rfl⟩
  | _ => exact .inr ⟨rfl, rfl⟩

end LatchApi.Lib
