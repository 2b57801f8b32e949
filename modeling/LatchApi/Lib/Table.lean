import Mathlib.Data.List.Nodup

/-!
SQL tables with a primary key and one further unique key. The rows carry the two
constraints, so a statement that would break one of them has no result.
-/

namespace LatchApi.Lib

structure Table (ρ κ ι : Type) (pk : ρ → κ) (uk : ρ → ι) where
  rows : List ρ
  pk_nodup : (rows.map pk).Nodup
  uk_nodup : (rows.map uk).Nodup

namespace Table

variable {ρ κ ι : Type} {pk : ρ → κ} {uk : ρ → ι}

def empty : Table ρ κ ι pk uk := ⟨[], .nil, .nil⟩

def find (t : Table ρ κ ι pk uk) (p : ρ → Bool) : Option ρ := t.rows.find? p

def insert [DecidableEq κ] [DecidableEq ι] (t : Table ρ κ ι pk uk) (row : ρ) :
    Option (Table ρ κ ι pk uk) :=
  if h : pk row ∉ t.rows.map pk ∧ uk row ∉ t.rows.map uk then
    some ⟨t.rows ++ [row],
      by simpa using List.Nodup.concat h.1 t.pk_nodup,
      by simpa using List.Nodup.concat h.2 t.uk_nodup⟩
  else none

theorem map_update_eq {β : Type} (rows : List ρ) (p : ρ → Bool) (set : ρ → ρ) (key : ρ → β)
    (hset : ∀ r, key (set r) = key r) :
    (rows.map fun r => if p r then set r else r).map key = rows.map key := by
  rw [List.map_map]
  refine List.map_congr_left fun r _ => ?_
  by_cases hp : p r = true <;> simp [hp, hset]

def update (t : Table ρ κ ι pk uk) (p : ρ → Bool) (set : ρ → ρ)
    (hset : ∀ r, pk (set r) = pk r ∧ uk (set r) = uk r) : Table ρ κ ι pk uk :=
  ⟨t.rows.map fun r => if p r then set r else r,
    by rw [map_update_eq _ _ _ _ fun r => (hset r).1]; exact t.pk_nodup,
    by rw [map_update_eq _ _ _ _ fun r => (hset r).2]; exact t.uk_nodup⟩

def delete (t : Table ρ κ ι pk uk) (p : ρ → Bool) : Table ρ κ ι pk uk :=
  ⟨t.rows.filter fun r => !p r, t.pk_nodup.sublist (List.filter_sublist.map _),
    t.uk_nodup.sublist (List.filter_sublist.map _)⟩

def upsert [DecidableEq κ] [DecidableEq ι] (t : Table ρ κ ι pk uk) (row : ρ) (set : ρ → ρ)
    (hset : ∀ r, pk (set r) = pk r ∧ uk (set r) = uk r) : Option (Table ρ κ ι pk uk) :=
  if uk row ∈ t.rows.map uk then some (t.update (fun r => decide (uk r = uk row)) set hset)
  else t.insert row

section Lemmas

variable {t t' : Table ρ κ ι pk uk} {p : ρ → Bool} {set : ρ → ρ} {row r r₁ r₂ : ρ}
variable {hset : ∀ r, pk (set r) = pk r ∧ uk (set r) = uk r}

theorem eq_of_uk_eq (h₁ : r₁ ∈ t.rows) (h₂ : r₂ ∈ t.rows) (h : uk r₁ = uk r₂) : r₁ = r₂ :=
  List.inj_on_of_nodup_map t.uk_nodup h₁ h₂ h

theorem eq_of_pk_eq (h₁ : r₁ ∈ t.rows) (h₂ : r₂ ∈ t.rows) (h : pk r₁ = pk r₂) : r₁ = r₂ :=
  List.inj_on_of_nodup_map t.pk_nodup h₁ h₂ h

theorem mem_of_find (h : t.find p = some r) : r ∈ t.rows ∧ p r = true :=
  ⟨List.mem_of_find?_eq_some h, List.find?_some h⟩

theorem find_none (h : t.find p = none) (hr : r ∈ t.rows) : p r = false := by
  simpa using List.find?_eq_none.mp h r hr

theorem mem_updated {rows : List ρ} : r ∈ rows.map (fun r => if p r then set r else r) ↔
    (r ∈ rows ∧ p r = false) ∨ ∃ r₀ ∈ rows, p r₀ = true ∧ r = set r₀ := by
  simp only [List.mem_map]
  constructor
  · rintro ⟨r₀, hr₀, rfl⟩
    by_cases hp : p r₀ = true
    · exact .inr ⟨r₀, hr₀, hp, by simp [hp]⟩
    · simp only [Bool.not_eq_true] at hp
      exact .inl (by simp [hp, hr₀])
  · rintro (⟨hr, hp⟩ | ⟨r₀, hr₀, hp, rfl⟩)
    · exact ⟨r, hr, by simp [hp]⟩
    · exact ⟨r₀, hr₀, by simp [hp]⟩

theorem find_none_iff [DecidableEq ι] {i : ι} :
    (t.find fun r => uk r == i) = none ↔ i ∉ t.rows.map uk := by
  simp [find]

theorem find_update [DecidableEq ι] (i : ι) : (t.update p set hset).find (fun r => uk r == i) =
    (t.find fun r => uk r == i).map fun r => if p r then set r else r := by
  have hkey : ∀ r, (uk (if p r then set r else r) == i) = (uk r == i) := by
    intro r
    by_cases hp : p r = true <;> simp [hp, (hset r).2]
  rw [find, update, List.find?_map]
  congr 2
  exact funext hkey

theorem mem_delete : r ∈ (t.delete p).rows ↔ r ∈ t.rows ∧ p r = false := by
  simp [delete]

variable [DecidableEq κ] [DecidableEq ι]

section

variable (h : t.insert row = some t')

include h

theorem rows_insert : t'.rows = t.rows ++ [row] := by
  unfold insert at h
  split at h
  · cases h
    rfl
  · cases h

theorem mem_insert : r ∈ t'.rows ↔ r ∈ t.rows ∨ r = row := by
  rw [rows_insert h, List.mem_append, List.mem_singleton]

theorem pk_ne_of_insert (hr : r ∈ t.rows) : pk r ≠ pk row := by
  unfold insert at h
  split at h
  · rename_i hfresh
    exact fun he => hfresh.1 (List.mem_map.mpr ⟨r, hr, he⟩)
  · cases h

theorem find_insert (i : ι) : (t'.find fun r => uk r == i) =
    if uk row = i then some row else t.find fun r => uk r == i := by
  rw [find, rows_insert h, List.find?_append]
  by_cases hi : uk row = i
  · have hnone : (t.find fun r => uk r == i) = none := by
      rw [find_none_iff, ← hi]
      unfold insert at h
      split at h
      · rename_i hfresh
        exact hfresh.2
      · cases h
    have hnone' : (t.rows.find? fun r => uk r == i) = none := hnone
    simp [hnone', hi]
  · simp [hi, find]

end

theorem find_upsert (h : t.upsert row set hset = some t') (i : ι) :
    (t'.find fun r => uk r == i) = if uk row = i then
      some ((t.find fun r => uk r == i).elim row set) else t.find fun r => uk r == i := by
  unfold upsert at h
  split at h
  · rename_i hmem
    cases h
    rw [find_update]
    cases hfind : t.find fun r => uk r == i with
    | none =>
      have hi : uk row ≠ i := fun he => find_none_iff.mp hfind (he ▸ hmem)
      simp [hi]
    | some r =>
      have hr : uk r = i := by simpa using (mem_of_find hfind).2
      by_cases hi : uk row = i
      · simp [hi, hr]
      · simp [hi, hr, Ne.symm hi]
  · rename_i hmem
    rw [find_insert h i]
    by_cases hi : uk row = i
    · have hnone : (t.find fun r => uk r == i) = none := find_none_iff.mpr (hi ▸ hmem)
      simp [hi, hnone]
    · simp [hi]

theorem mem_upsert (h : t.upsert row set hset = some t') : r ∈ t'.rows ↔
    (r ∈ t.rows ∧ uk r ≠ uk row) ∨ (∃ r₀ ∈ t.rows, uk r₀ = uk row ∧ r = set r₀) ∨
      (r = row ∧ ∀ r₀ ∈ t.rows, uk r₀ ≠ uk row) := by
  unfold upsert at h
  split at h
  · rename_i hmem
    obtain ⟨r₁, hr₁, hkey⟩ := List.mem_map.mp hmem
    cases h
    refine mem_updated.trans ?_
    simp only [decide_eq_false_iff_not, decide_eq_true_eq, ne_eq]
    constructor
    · rintro (h | h)
      · exact .inl h
      · exact .inr (.inl h)
    · rintro (h | h | ⟨-, h⟩)
      · exact .inl h
      · exact .inr h
      · exact absurd hkey (h r₁ hr₁)
  · rename_i hmem
    have hnone : ∀ r₀ ∈ t.rows, uk r₀ ≠ uk row := fun r₀ hr₀ he =>
      hmem (List.mem_map.mpr ⟨r₀, hr₀, he⟩)
    rw [mem_insert h]
    constructor
    · rintro (h | h)
      · exact .inl ⟨h, hnone r h⟩
      · exact .inr (.inr ⟨h, hnone⟩)
    · rintro (h | ⟨r₀, hr₀, he, -⟩ | h)
      · exact .inl h.1
      · exact absurd he (hnone r₀ hr₀)
      · exact .inr h.1

theorem exists_upsert (t : Table ρ κ κ pk pk) (row : ρ) (set : ρ → ρ)
    (hset : ∀ r, pk (set r) = pk r ∧ pk (set r) = pk r) : ∃ t', t.upsert row set hset = some t' := by
  unfold upsert
  split
  · exact ⟨_, rfl⟩
  · rename_i hfresh
    exact ⟨_, dif_pos ⟨hfresh, hfresh⟩⟩

end Lemmas

end Table

end LatchApi.Lib
