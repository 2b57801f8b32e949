import Mathlib.Data.List.Basic

/-!
Rows under transactions at READ COMMITTED. A statement sees the rows that are committed when it
runs and what its own transaction has written; what others have written and not committed locks
the row.
-/

namespace LatchApi.Lib

structure PendingWrite (κ ρ : Type) where
  tx : Nat
  key : κ
  value : Option ρ

/-- The committed rows, the uncommitted writes, latest first, and the transactions under way. -/
structure TxStore (κ ρ : Type) where
  committed : κ → Option ρ
  pending : List (PendingWrite κ ρ) := []
  opened : List Nat := []
  next : Nat := 0

namespace TxStore

variable {κ ρ : Type} [DecidableEq κ]

def begin (s : TxStore κ ρ) : TxStore κ ρ := { s with opened := s.next :: s.opened, next := s.next + 1 }

def view (s : TxStore κ ρ) (tx : Nat) (k : κ) : Option ρ :=
  match s.pending.find? (fun w => decide (w.tx = tx ∧ w.key = k)) with
  | some w => w.value
  | none => s.committed k

def write (s : TxStore κ ρ) (tx : Nat) (k : κ) (v : Option ρ) : TxStore κ ρ :=
  { s with pending := ⟨tx, k, v⟩ :: s.pending }

def remove (s : TxStore κ ρ) (tx : Nat) (ks : List κ) : TxStore κ ρ :=
  { s with pending := ks.map (fun k => ⟨tx, k, none⟩) ++ s.pending }

def autocommit (s : TxStore κ ρ) (k : κ) (v : Option ρ) : TxStore κ ρ :=
  { s with committed := Function.update s.committed k v }

def close (s : TxStore κ ρ) (tx : Nat) : TxStore κ ρ :=
  { s with
    pending := s.pending.filter fun w => decide (w.tx ≠ tx)
    opened := s.opened.filter fun u => decide (u ≠ tx) }

def commit (s : TxStore κ ρ) (tx : Nat) : TxStore κ ρ := { s.close tx with committed := s.view tx }

def Free (s : TxStore κ ρ) (tx : Option Nat) (k : κ) : Prop :=
  ∀ w ∈ s.pending, w.key = k → some w.tx = tx

instance (s : TxStore κ ρ) (tx : Option Nat) (k : κ) : Decidable (s.Free tx k) := by
  unfold Free; infer_instance

variable {s : TxStore κ ρ} {tx : Nat} {k : κ} {w : PendingWrite κ ρ}

theorem view_committed_or (s : TxStore κ ρ) (tx : Nat) (k : κ) : s.view tx k = s.committed k ∨
      ∃ w ∈ s.pending, w.tx = tx ∧ w.key = k ∧ s.view tx k = w.value := by
  unfold view
  cases h : s.pending.find? (fun w => decide (w.tx = tx ∧ w.key = k)) with
  | none => exact .inl rfl
  | some w =>
    have hw : w.tx = tx ∧ w.key = k := by simpa using List.find?_some h
    exact .inr ⟨w, List.mem_of_find?_eq_some h, hw.1, hw.2, rfl⟩

theorem view_of_pending (hw : w ∈ s.pending) (htx : w.tx = tx)
    (hk : w.key = k) : ∃ w' ∈ s.pending, w'.key = k ∧ s.view tx k = w'.value := by
  unfold view
  cases h : s.pending.find? (fun w => decide (w.tx = tx ∧ w.key = k)) with
  | none => exact absurd (decide_eq_true ⟨htx, hk⟩) (List.find?_eq_none.mp h w hw)
  | some w' =>
    have hw' : w'.tx = tx ∧ w'.key = k := by simpa using List.find?_some h
    exact ⟨w', List.mem_of_find?_eq_some h, hw'.2, rfl⟩

theorem view_induction {P : Option ρ → Prop} (hpending : ∀ w ∈ s.pending, w.key = k → P w.value)
    (hcommitted : P (s.committed k)) (tx : Nat) : P (s.view tx k) := by
  rcases view_committed_or s tx k with h | ⟨w, hw, -, hk, h⟩
  · rw [h]
    exact hcommitted
  · rw [h]
    exact hpending w hw hk

omit [DecidableEq κ] in
theorem mem_pending_close : w ∈ (s.close tx).pending ↔ w ∈ s.pending ∧ w.tx ≠ tx := by
  simp [close]

theorem mem_pending_commit : w ∈ (s.commit tx).pending ↔ w ∈ s.pending ∧ w.tx ≠ tx := by
  simp [commit, close]

variable {tx' : Nat} {k' : κ} {v : Option ρ}

theorem view_write_self : (s.write tx k v).view tx k = v := by
  simp [view, write]

theorem view_write_of_ne (h : tx' ≠ tx ∨ k' ≠ k) : (s.write tx' k' v).view tx k = s.view tx k := by
  have hw : ¬ (tx' = tx ∧ k' = k) := fun hboth => h.elim (· hboth.1) (· hboth.2)
  simp [view, write, hw]

theorem view_remove_of_ne {ks : List κ} (h : tx' ≠ tx) :
    (s.remove tx' ks).view tx k = s.view tx k := by
  induction ks with
  | nil => rfl
  | cons k' ks ih => exact (view_write_of_ne (.inl h)).trans ih

theorem view_remove {ks : List κ} :
    (s.remove tx ks).view tx k = if k ∈ ks then none else s.view tx k := by
  induction ks with
  | nil => rfl
  | cons k' ks ih =>
    change ((s.remove tx ks).write tx k' none).view tx k = _
    by_cases hk : k' = k
    · subst hk
      rw [view_write_self, if_pos List.mem_cons_self]
    · rw [view_write_of_ne (.inr hk), ih]
      simp [Ne.symm hk]

theorem find_filter_of_ne {ws : List (PendingWrite κ ρ)} (h : tx' ≠ tx) :
    (ws.filter fun w => decide (w.tx ≠ tx')).find? (fun w => decide (w.tx = tx ∧ w.key = k)) =
      ws.find? (fun w => decide (w.tx = tx ∧ w.key = k)) := by
  rw [List.find?_filter]
  congr 1
  funext w
  by_cases hw : w.tx = tx
  · simp [hw, Ne.symm h]
  · simp [hw]

theorem view_close_of_ne (h : tx' ≠ tx) : (s.close tx').view tx k = s.view tx k := by
  simp only [view, close, find_filter_of_ne h]

theorem view_commit_of_ne (h : tx' ≠ tx) : (s.commit tx').view tx k = s.view tx k ∨
    (s.commit tx').view tx k = s.view tx' k := by
  have hview : ∀ t : TxStore κ ρ, t.view tx k =
      match t.pending.find? (fun w => decide (w.tx = tx ∧ w.key = k)) with
      | some w => w.value
      | none => t.committed k := fun _ => rfl
  rw [hview, hview s]
  simp only [commit, close, find_filter_of_ne h]
  cases s.pending.find? (fun w => decide (w.tx = tx ∧ w.key = k)) with
  | some w => exact .inl rfl
  | none => exact .inr rfl

end TxStore

end LatchApi.Lib
