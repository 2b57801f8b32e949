import LatchApi.Lib.Runs

/-!
Two programs that ask the same questions. Whatever the answers, they make the same calls one after
the other, and how they end is related.
-/

namespace LatchApi.Lib.Program

variable {Op : Type} {Res : Op → Type} {ε ε' α α' β β' : Type}

inductive InStep (R : Except ε α → Except ε' α' → Prop) :
    Program Op Res ε α → Program Op Res ε' α' → Prop where
  | ok {a : α} {b : α'} (h : R (.ok a) (.ok b)) : InStep R (.ok a) (.ok b)
  | fail {e : ε} {e' : ε'} (h : R (.error e) (.error e')) : InStep R (.fail e) (.fail e')
  | call {op : Op} {p : Res op → Program Op Res ε α} {q : Res op → Program Op Res ε' α'}
      (h : ∀ r, InStep R (p r) (q r)) : InStep R (.call op p) (.call op q)

variable {R : Except ε α → Except ε' α' → Prop} {p : Program Op Res ε α} {q : Program Op Res ε' α'}

theorem InStep.runWith (hpq : InStep R p q) (script : Script Res) (h : Log Res) :
    (p.runWith script h).2 = (q.runWith script h).2 ∧
      R (p.runWith script h).1 (q.runWith script h).1 := by
  induction hpq generalizing h with
  | ok hR => exact ⟨rfl, hR⟩
  | fail hR => exact ⟨rfl, hR⟩
  | call _ ih => exact ih _ _

theorem InStep.refl {R : Except ε α → Except ε α → Prop} (hR : ∀ x, R x x)
    (p : Program Op Res ε α) : InStep R p p := by
  induction p with
  | ok a => exact .ok (hR (.ok a))
  | fail e => exact .fail (hR (.error e))
  | call op next ih => exact .call ih

theorem InStep.bind {S : Except ε β → Except ε' β' → Prop} {f : α → Program Op Res ε β}
    {g : α' → Program Op Res ε' β'} (hpq : InStep R p q)
    (herror : ∀ e e', R (.error e) (.error e') → S (.error e) (.error e'))
    (hfg : ∀ a b, R (.ok a) (.ok b) → InStep S (f a) (g b)) : InStep S (p >>= f) (q >>= g) := by
  induction hpq with
  | ok hR => exact hfg _ _ hR
  | fail hR => exact .fail (herror _ _ hR)
  | call _ ih => exact .call ih

theorem InStep.after {R : Except ε α → Except ε α' → Prop} (hR : ∀ e, R (.error e) (.error e))
    (p : Program Op Res ε β) {f : β → Program Op Res ε α} {g : β → Program Op Res ε α'}
    (hfg : ∀ b, InStep R (f b) (g b)) : InStep R (p >>= f) (p >>= g) := by
  refine (InStep.refl (R := Eq) (fun _ => rfl) p).bind ?_ ?_
  · rintro e _ ⟨⟩
    exact hR e
  · rintro b _ ⟨⟩
    exact hfg b

theorem InStep.always_iff {G : Op → Prop} (hpq : InStep R p q) : Always G p ↔ Always G q := by
  induction hpq with
  | ok _ => exact Iff.rfl
  | fail _ => exact Iff.rfl
  | call _ ih => exact and_congr_right fun _ => forall_congr' ih

theorem InStep.obeys {D : Discipline Op Res} {h : Log Res} {Q : Log Res → Except ε α → Prop}
    {Q' : Log Res → Except ε' α' → Prop} (hpq : InStep R p q) (hp : Obeys D h p Q)
    (hQ : ∀ h x y, R x y → Q h x → Q' h y) :
    Obeys D h q Q' := by
  induction hpq generalizing h with
  | ok hR => exact .ok (hQ _ _ _ hR ((obeys_ok _ _).mp hp))
  | fail hR => exact .fail (hQ _ _ _ hR ((obeys_fail _ _).mp hp))
  | call _ ih =>
    rw [obeys_call] at hp
    exact .call hp.1 fun r hr => ih r (hp.2 r hr)

end LatchApi.Lib.Program
