import Mathlib.Logic.Basic

/-!
Request handlers as trees of calls. A program calls one operation of its
environment at a time and continues with the answer, so every statement of a
handler is a point where other handlers may run.
-/

namespace LatchApi.Lib

inductive Program (Op : Type) (Res : Op → Type) (ε α : Type) : Type where
  | ok (a : α)
  | fail (e : ε)
  | call (op : Op) (next : Res op → Program Op Res ε α)

abbrev Event {Op : Type} (Res : Op → Type) := (op : Op) × Res op

abbrev Log {Op : Type} (Res : Op → Type) := List (Event Res)

abbrev Script {Op : Type} (Res : Op → Type) := Log Res → (op : Op) → Res op

namespace Program

variable {Op : Type} {Res : Op → Type} {ε α β γ ε' : Type}

def bind : Program Op Res ε α → (α → Program Op Res ε β) → Program Op Res ε β
  | .ok a, f => f a
  | .fail e, _ => .fail e
  | .call op next, f => .call op (fun r => (next r).bind f)

instance : Monad (Program Op Res ε) where
  pure := .ok
  bind := bind

def perform (op : Op) : Program Op Res ε (Res op) := .call op .ok

def ofExcept : Except ε α → Program Op Res ε α
  | .ok a => .ok a
  | .error e => .fail e

def orFail (fail : ε' → ε) : Except ε' α → Program Op Res ε α
  | .ok a => .ok a
  | .error e => .fail (fail e)

def attempt {ε' : Type} : Program Op Res ε α → Program Op Res ε' (Except ε α)
  | .ok a => .ok (.ok a)
  | .fail e => .ok (.error e)
  | .call op next => .call op (fun r => (next r).attempt)

def embed {Op' : Type} {Res' : Op' → Type} (f : Op → Op') (back : (op : Op) → Res' (f op) → Res op) :
    Program Op Res ε α → Program Op' Res' ε α
  | .ok a => .ok a
  | .fail e => .fail e
  | .call op next => .call (f op) (fun r => (next (back op r)).embed f back)

@[simp] theorem pure_eq (a : α) : (pure a : Program Op Res ε α) = .ok a := rfl

@[simp] theorem ok_bind (a : α) (f : α → Program Op Res ε β) : (Program.ok a >>= f) = f a := rfl

@[simp] theorem fail_bind (e : ε) (f : α → Program Op Res ε β) :
    (Program.fail e >>= f) = .fail e := rfl

@[simp] theorem call_bind (op : Op) (next : Res op → Program Op Res ε α)
    (f : α → Program Op Res ε β) :
    (Program.call op next >>= f) = .call op (fun r => next r >>= f) := rfl

theorem bind_assoc (p : Program Op Res ε α) (f : α → Program Op Res ε β)
    (g : β → Program Op Res ε γ) : (p >>= f) >>= g = p >>= fun a => f a >>= g := by
  induction p with
  | ok a => rfl
  | fail e => rfl
  | call op next ih => simp only [call_bind, ih]

section Embed

variable {Op' : Type} {Res' : Op' → Type} (f : Op → Op') (back : (op : Op) → Res' (f op) → Res op)
  (p : Program Op Res ε α)

theorem embed_bind (g : α → Program Op Res ε β) :
    (p >>= g).embed f back = p.embed f back >>= fun a => (g a).embed f back := by
  induction p with
  | ok a => rfl
  | fail e => rfl
  | call op next ih => simp only [call_bind, embed, ih]

theorem embed_attempt :
    (p.attempt : Program Op Res ε' _).embed f back = (p.embed f back).attempt := by
  induction p with
  | ok a => rfl
  | fail e => rfl
  | call op next ih => simp only [attempt, embed, ih]

end Embed

/-- What the answers of a run may look like and what it may call after a history. -/
structure Discipline (Op : Type) (Res : Op → Type) where
  legal : (op : Op) → Res op → Prop
  guard : Log Res → Op → Prop

/-- On every run with legal answers that starts after history `h`, each call is
guarded and the run ends in `Q`. Histories list the latest event first. -/
inductive Obeys (D : Discipline Op Res) : Log Res → Program Op Res ε α →
    (Log Res → Except ε α → Prop) → Prop where
  | ok {h : Log Res} {a : α} {Q : Log Res → Except ε α → Prop}
      (hQ : Q h (.ok a)) : Obeys D h (.ok a) Q
  | fail {h : Log Res} {e : ε} {Q : Log Res → Except ε α → Prop}
      (hQ : Q h (.error e)) : Obeys D h (.fail e) Q
  | call {h : Log Res} {op : Op} {next : Res op → Program Op Res ε α}
      {Q : Log Res → Except ε α → Prop} (hg : D.guard h op)
      (hnext : ∀ r, D.legal op r → Obeys D (⟨op, r⟩ :: h) (next r) Q) :
      Obeys D h (.call op next) Q

variable {p : Program Op Res ε α} {Q : Log Res → Except ε α → Prop}
  {f : α → Program Op Res ε β}

section Obeys

variable {D : Discipline Op Res} {h : Log Res} {P : Log Res → α → Prop} (op : Op)
  {R : Log Res → β → Prop}

@[simp] theorem obeys_ok (a : α) (Q : Log Res → Except ε α → Prop) :
    Obeys D h (.ok a) Q ↔ Q h (.ok a) :=
  ⟨fun | .ok hQ => hQ, .ok⟩

@[simp] theorem obeys_fail (e : ε) (Q : Log Res → Except ε α → Prop) :
    Obeys D h (.fail e) Q ↔ Q h (.error e) :=
  ⟨fun | .fail hQ => hQ, .fail⟩

@[simp] theorem obeys_call (next : Res op → Program Op Res ε α) (Q : Log Res → Except ε α → Prop) :
    Obeys D h (.call op next) Q ↔
      D.guard h op ∧ ∀ r, D.legal op r → Obeys D (⟨op, r⟩ :: h) (next r) Q :=
  ⟨fun | .call hg hnext => ⟨hg, hnext⟩, fun h => .call h.1 h.2⟩

@[simp] theorem obeys_perform (Q : Log Res → Except ε (Res op) → Prop) :
    Obeys D h (perform op) Q ↔ D.guard h op ∧ ∀ r, D.legal op r → Q (⟨op, r⟩ :: h) (.ok r) := by
  simp [perform]

@[simp] theorem obeys_ofExcept (x : Except ε α) (Q : Log Res → Except ε α → Prop) :
    Obeys D h (ofExcept x) Q ↔ Q h x := by
  cases x <;> simp [ofExcept]

theorem obeys_bind (p : Program Op Res ε α) (f : α → Program Op Res ε β)
    (Q : Log Res → Except ε β → Prop) :
    Obeys D h (p >>= f) Q ↔ Obeys D h p (fun h' out =>
      match out with
      | .ok a => Obeys D h' (f a) Q
      | .error e => Q h' (.error e)) := by
  induction p generalizing h with
  | ok a => simp
  | fail e => simp
  | call op next ih => simp only [call_bind, obeys_call, ih]

theorem obeys_perform_then (f : Res op → Program Op Res ε β) (Q : Log Res → Except ε β → Prop) :
    Obeys D h (perform op >>= f) Q ↔
      D.guard h op ∧ ∀ r, D.legal op r → Obeys D (⟨op, r⟩ :: h) (f r) Q :=
  obeys_call op f Q

theorem obeys_attempt (p : Program Op Res ε α) (Q : Log Res → Except ε' (Except ε α) → Prop) :
    Obeys D h p.attempt Q ↔ Obeys D h p (fun h' out => Q h' (.ok out)) := by
  induction p generalizing h with
  | ok a => simp [attempt]
  | fail e => simp [attempt]
  | call op next ih => simp only [attempt, obeys_call, ih]

theorem Obeys.mono {Q' : Log Res → Except ε α → Prop} (hp : Obeys D h p Q)
    (hQ : ∀ h' out, Q h' out → Q' h' out) : Obeys D h p Q' := by
  induction p generalizing h with
  | ok a => exact (obeys_ok _ _).mpr (hQ _ _ ((obeys_ok _ _).mp hp))
  | fail e => exact (obeys_fail _ _).mpr (hQ _ _ ((obeys_fail _ _).mp hp))
  | call op next ih =>
    rw [obeys_call] at hp ⊢
    exact ⟨hp.1, fun r hr => ih r (hp.2 r hr)⟩

theorem Obeys.and_subset (hp : Obeys D h p Q) : Obeys D h p (fun h' out => h ⊆ h' ∧ Q h' out) := by
  induction hp with
  | ok hQ => exact .ok ⟨List.Subset.refl _, hQ⟩
  | fail hQ => exact .fail ⟨List.Subset.refl _, hQ⟩
  | call hg _ ih =>
    refine .call hg fun r hr => (ih r hr).mono fun h' out hout => ⟨fun e he => ?_, hout.2⟩
    exact hout.1 (List.mem_cons_of_mem _ he)

theorem Obeys.weaken {D' : Discipline Op Res} (hp : Obeys D' h p Q)
    (hguard : ∀ h op, D'.guard h op → D.guard h op)
    (hlegal : ∀ op r, D.legal op r → D'.legal op r) : Obeys D h p Q := by
  induction hp with
  | ok hQ => exact .ok hQ
  | fail hQ => exact .fail hQ
  | call hg _ ih => exact .call (hguard _ _ hg) fun r hr => ih r (hlegal _ r hr)

def onOk (P : Log Res → α → Prop) (h : Log Res) : Except ε α → Prop
  | .ok a => P h a
  | .error _ => True

@[simp] theorem onOk_ok (P : Log Res → α → Prop) (a : α) :
    onOk P h (.ok a : Except ε α) ↔ P h a := Iff.rfl

@[simp] theorem onOk_error (P : Log Res → α → Prop) (e : ε) :
    onOk P h (.error e : Except ε α) ↔ True := Iff.rfl

theorem Obeys.bind_onOk (hp : Obeys D h p (onOk P))
    (hf : ∀ h' a, P h' a → Obeys D h' (f a) (onOk R)) : Obeys D h (p >>= f) (onOk R) := by
  rw [obeys_bind]
  refine hp.mono fun h' out hout => ?_
  cases out with
  | ok a => exact hf h' a hout
  | error e => trivial

theorem obeys_ofExcept_bind {x : Except ε α}
    (hf : ∀ a, x = .ok a → Obeys D h (f a) (onOk R)) : Obeys D h (ofExcept x >>= f) (onOk R) := by
  cases x with
  | ok a => exact hf a rfl
  | error e => simp [ofExcept]

theorem obeys_orFail {fail : ε' → ε} {x : Except ε' α} (ha : ∀ a, x = .ok a → P h a) :
    Obeys D h (orFail fail x) (onOk P) := by
  cases x with
  | ok a => exact .ok (ha a rfl)
  | error e => exact .fail trivial

theorem obeys_orFail_bind {fail : ε' → ε} {x : Except ε' α}
    (hf : ∀ a, x = .ok a → Obeys D h (f a) (onOk R)) : Obeys D h (orFail fail x >>= f) (onOk R) :=
  (obeys_orFail (P := fun h' a => h' = h ∧ x = .ok a) fun _ ha => ⟨rfl, ha⟩).bind_onOk
    fun _ _ ⟨hh, ha⟩ => hh ▸ hf _ ha

theorem Obeys.subset_onOk
    (hp : Obeys D h p (onOk P)) : Obeys D h p (onOk fun h' a => h ⊆ h' ∧ P h' a) := by
  refine hp.and_subset.mono fun h' out hout => ?_
  cases out with
  | ok a => exact hout
  | error e => trivial

theorem Obeys.mono_onOk {R : Log Res → α → Prop} (hp : Obeys D h p (onOk P))
    (hPR : ∀ h' a, P h' a → R h' a) : Obeys D h p (onOk R) := by
  refine hp.mono fun h' out hout => ?_
  cases out with
  | ok a => exact hPR h' a hout
  | error e => trivial

end Obeys

/-- Whatever the answers, every call of a run satisfies `G`. -/
def Always (G : Op → Prop) : Program Op Res ε α → Prop
  | .ok _ => True
  | .fail _ => True
  | .call op next => G op ∧ ∀ r, Always G (next r)

section Always

variable {G : Op → Prop}

@[simp] theorem always_ok (a : α) : Always G (.ok a : Program Op Res ε α) ↔ True := Iff.rfl

@[simp] theorem always_fail (e : ε) : Always G (.fail e : Program Op Res ε α) ↔ True := Iff.rfl

@[simp] theorem always_perform_bind (op : Op) (f : Res op → Program Op Res ε β) :
    Always G (perform op >>= f) ↔ G op ∧ ∀ r, Always G (f r) := Iff.rfl

@[simp] theorem always_ofExcept_bind (x : Except ε α) (f : α → Program Op Res ε β) :
    Always G (ofExcept x >>= f) ↔ ∀ a, x = .ok a → Always G (f a) := by
  cases x <;> simp [ofExcept]

theorem always_orFail (fail : ε' → ε) (x : Except ε' α) :
    Always G (orFail fail x : Program Op Res ε α) := by
  cases x <;> trivial

theorem Always.bind (hp : Always G p) (hf : ∀ a, Always G (f a)) : Always G (p >>= f) := by
  induction p with
  | ok a => exact hf a
  | fail e => trivial
  | call op next ih => exact ⟨hp.1, fun r => ih r (hp.2 r)⟩

theorem Always.attempt (hp : Always G p) : Always G (p.attempt : Program Op Res ε' _) := by
  induction p with
  | ok a => trivial
  | fail e => trivial
  | call op next ih => exact ⟨hp.1, fun r => ih r (hp.2 r)⟩

theorem Always.mono {G' : Op → Prop} (hp : Always G p) (hG : ∀ op, G op → G' op) : Always G' p := by
  induction p with
  | ok a => trivial
  | fail e => trivial
  | call op next ih => exact ⟨hG op hp.1, fun r => ih r (hp.2 r)⟩

theorem always_of_forall (hG : ∀ op, G op) (p : Program Op Res ε α) : Always G p := by
  induction p with
  | ok a => trivial
  | fail e => trivial
  | call op next ih => exact ⟨hG op, ih⟩

theorem Always.obeys {D : Discipline Op Res} {h : Log Res} (hp : Always G p)
    (hG : ∀ h op, G op → D.guard h op) : Obeys D h p (onOk fun _ _ => True) := by
  induction p generalizing h with
  | ok a => exact .ok trivial
  | fail e => exact .fail trivial
  | call op next ih => exact .call (hG h op hp.1) fun r _ => ih r (hp.2 r)

theorem Always.embed {Op' : Type} {Res' : Op' → Type} {G' : Op' → Prop} {f : Op → Op'}
    {back : (op : Op) → Res' (f op) → Res op}
    (hp : Always (fun op => G' (f op)) p) : Always G' (p.embed f back) := by
  induction p with
  | ok a => trivial
  | fail e => trivial
  | call op next ih => exact ⟨hp.1, fun r => ih _ (hp.2 _)⟩

end Always

end Program

end LatchApi.Lib
