import Mathlib.Data.List.Sort

namespace LatchApi.Lib

variable {α : Type}

section Append

variable [LT α]

theorem append_lt_append_left_iff [Std.Irrefl (α := α) (· < ·)] (p : List α) {a b : List α} :
    p ++ a < p ++ b ↔ a < b := by
  induction p with
  | nil => exact Iff.rfl
  | cons x p ih =>
    rw [List.cons_append, List.cons_append, List.cons_lt_cons_iff, ih]
    constructor
    · rintro (hlt | ⟨-, h⟩)
      · exact absurd hlt (Std.Irrefl.irrefl x)
      · exact h
    · intro h
      exact .inr ⟨rfl, h⟩

theorem append_lt_append_iff {a b x y : List α} (h : a.length = b.length) :
    a ++ x < b ++ y ↔ a < b ∨ a = b ∧ x < y := by
  induction a generalizing b with
  | nil =>
    obtain rfl := List.length_eq_zero_iff.mp h.symm
    simp
  | cons c a ih =>
    obtain _ | ⟨d, b⟩ := b
    · cases h
    have hrest := @ih b (Nat.succ.inj h)
    rw [List.cons_append, List.cons_append, List.cons_lt_cons_iff, List.cons_lt_cons_iff, hrest,
      List.cons.injEq]
    tauto

end Append

theorem append_cons_inj_of_not_mem_left {c : α} {a b x y : List α} (ha : c ∉ a) (hb : c ∉ b)
    (h : a ++ c :: x = b ++ c :: y) : a = b ∧ x = y := by
  induction a generalizing b with
  | nil =>
    obtain _ | ⟨d, b⟩ := b
    · exact ⟨rfl, (List.cons.inj h).2⟩
    · obtain ⟨rfl, -⟩ := List.cons.inj h
      exact absurd List.mem_cons_self hb
  | cons d a ih =>
    obtain _ | ⟨d', b⟩ := b
    · obtain ⟨rfl, -⟩ := List.cons.inj h
      exact absurd List.mem_cons_self ha
    obtain ⟨rfl, hrest⟩ := List.cons.inj h
    obtain ⟨rfl, hxy⟩ := ih (fun hm => ha (List.mem_cons_of_mem _ hm))
      (fun hm => hb (List.mem_cons_of_mem _ hm)) hrest
    exact ⟨rfl, hxy⟩

section Pairwise

variable {R : α → α → Prop}

theorem rel_or_rel_of_pairwise {l : List α} (h : l.Pairwise R) {a b : α} (ha : a ∈ l) (hb : b ∈ l)
    (hne : a ≠ b) : R a b ∨ R b a := by
  induction h with
  | nil => cases ha
  | @cons c l hc hl ih =>
    rcases List.mem_cons.mp ha with rfl | ha'
    · rcases List.mem_cons.mp hb with rfl | hb'
      · exact absurd rfl hne
      · exact .inl (hc b hb')
    · rcases List.mem_cons.mp hb with rfl | hb'
      · exact .inr (hc a ha')
      · exact ih ha' hb'

end Pairwise

end LatchApi.Lib
