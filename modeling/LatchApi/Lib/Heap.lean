/-!
Memory whose cells are reached by reference. An allocated cell is a new one, so writing to it
leaves what was stored before as it was.
-/

namespace LatchApi.Lib

structure Heap (α : Type) where
  cells : List α

namespace Heap

variable {α : Type}

def read (h : Heap α) (p : Nat) : Option α := h.cells[p]?

def alloc (h : Heap α) (a : α) : Nat × Heap α := (h.cells.length, ⟨h.cells ++ [a]⟩)

def modify (h : Heap α) (p : Nat) (f : α → α) : Heap α := ⟨h.cells.modify p f⟩

def Keeps (h h' : Heap α) : Prop := ∀ p a, h.read p = some a → h'.read p = some a

theorem Keeps.refl (h : Heap α) : h.Keeps h := fun _ _ hp => hp

theorem Keeps.trans {h₁ h₂ h₃ : Heap α} (h₁₂ : h₁.Keeps h₂) (h₂₃ : h₂.Keeps h₃) : h₁.Keeps h₃ :=
  fun p a hp => h₂₃ p a (h₁₂ p a hp)

theorem lt_of_read {h : Heap α} {p : Nat} {a : α} (hp : h.read p = some a) : p < h.cells.length :=
  (List.getElem?_eq_some_iff.mp hp).1

theorem keeps_alloc (h : Heap α) (a : α) : h.Keeps (h.alloc a).2 := by
  intro p b hp
  rw [read, alloc, List.getElem?_append_left (lt_of_read hp)]
  exact hp

theorem read_alloc (h : Heap α) (a : α) : (h.alloc a).2.read (h.alloc a).1 = some a := by
  rw [read, alloc, List.getElem?_append_right (Nat.le_refl _), Nat.sub_self]
  rfl

theorem keeps_modify_alloc (h : Heap α) (a : α) (f : α → α) :
    h.Keeps ((h.alloc a).2.modify (h.alloc a).1 f) := by
  intro p b hp
  have hne : (h.alloc a).1 ≠ p := Nat.ne_of_gt (lt_of_read hp)
  rw [read, modify, List.getElem?_modify]
  simp only [if_neg hne]
  rw [show (h.alloc a).2.cells[p]? = some b from keeps_alloc h a p b hp]
  rfl

theorem read_modify_alloc (h : Heap α) (a : α) (f : α → α) :
    ((h.alloc a).2.modify (h.alloc a).1 f).read (h.alloc a).1 = some (f a) := by
  rw [read, modify, List.getElem?_modify]
  simp only [if_true]
  rw [show (h.alloc a).2.cells[(h.alloc a).1]? = some a from read_alloc h a]
  rfl

end Heap

end LatchApi.Lib
