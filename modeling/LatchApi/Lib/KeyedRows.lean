import Mathlib.Data.Finset.Card
import Mathlib.Data.List.Dedup

/-!
Lists of rows that are told apart by keys. Items that are upserted in turn fall into groups, one
for each row, because an update leaves the keys of its row as they are.
-/

namespace LatchApi.Lib

structure Upserting (α β : Type) where
  names : β → α → Bool
  set : β → α → α
  new : β → α
  names_set : ∀ b b' a, names b (set b' a) = names b a

namespace Upserting

variable {α β : Type} (u : Upserting α β)

def upsert (b : β) : List α → List α
  | [] => [u.new b]
  | a :: as => if u.names b a then u.set b a :: as else a :: upsert b as

def upserts (as : List α) (bs : List β) : List α := bs.foldl (fun as b => u.upsert b as) as

def sets (a : α) (bs : List β) : α := bs.foldl (fun a b => u.set b a) a

def falling (a : α) (bs : List β) : List β := bs.filter fun b => u.names b a

def passing (a : α) (bs : List β) : List β := bs.filter fun b => !u.names b a

def groups : List α → List β → List (α × List β)
  | a :: as, bs => (a, u.falling a bs) :: groups as (u.passing a bs)
  | [], b :: bs => (u.new b, u.falling (u.new b) bs) :: groups [] (u.passing (u.new b) bs)
  | [], [] => []
termination_by as bs => as.length + bs.length
decreasing_by
  · have hle : (u.passing a bs).length ≤ bs.length := List.length_filter_le ..
    simp only [List.length_cons]
    omega
  · have hle : (u.passing (u.new b) bs).length ≤ bs.length := List.length_filter_le ..
    simp only [List.length_cons]
    omega

theorem upserts_cons (a : α) (as : List α) (bs : List β) :
    u.upserts (a :: as) bs = u.sets a (u.falling a bs) :: u.upserts as (u.passing a bs) := by
  unfold falling passing
  induction bs generalizing a as with
  | nil => rfl
  | cons b bs ih =>
    by_cases h : u.names b a = true
    · simp only [List.filter_cons, h, if_true, Bool.not_true, Bool.false_eq_true, if_false]
      rw [upserts, List.foldl_cons, upsert, if_pos h]
      have hrest := ih (u.set b a) as
      simp only [u.names_set] at hrest
      exact hrest
    · simp only [List.filter_cons, h, Bool.not_false, Bool.false_eq_true, if_false, if_true]
      rw [upserts, List.foldl_cons, upsert, if_neg h]
      exact ih a (u.upsert b as)

theorem upserts_eq_groups (as : List α) (bs : List β) :
    u.upserts as bs = (u.groups as bs).map fun g => u.sets g.1 g.2 := by
  induction as, bs using groups.induct u with
  | case1 a as bs ih => rw [upserts_cons, groups, List.map_cons, ih]
  | case2 b bs ih =>
    rw [groups, List.map_cons, ← ih]
    exact u.upserts_cons (u.new b) [] bs
  | case3 =>
    rw [groups]
    rfl

theorem names_of_mem_groups {as : List α} {bs : List β} {g : α × List β} (hg : g ∈ u.groups as bs)
    {b : β} (hb : b ∈ g.2) : u.names b g.1 = true := by
  induction as, bs using groups.induct u with
  | case1 a as bs ih =>
    rw [groups] at hg
    rcases List.mem_cons.mp hg with rfl | hg
    · exact (List.mem_filter.mp hb).2
    · exact ih hg
  | case2 b' bs ih =>
    rw [groups] at hg
    rcases List.mem_cons.mp hg with rfl | hg
    · exact (List.mem_filter.mp hb).2
    · exact ih hg
  | case3 =>
    rw [groups] at hg
    cases hg

end Upserting

section Distinct

variable {α κ : Type} [DecidableEq κ] {l : List α} {key : α → Option κ}

theorem exists_distinct_iff {n : Nat} : (∃ rows : List α, (∀ r ∈ rows, r ∈ l ∧ (key r).isSome) ∧
        rows.Pairwise (fun r r' => key r ≠ key r') ∧ n ≤ rows.length) ↔
      n ≤ (l.filterMap key).toFinset.card := by
  constructor
  · rintro ⟨rows, hrows, hdistinct, hn⟩
    have hnodup : (rows.map key).Nodup := List.pairwise_map.mpr hdistinct
    have hsubset : (rows.map key).toFinset ⊆ (l.filterMap key).toFinset.image some := by
      intro k hk
      obtain ⟨r, hr, rfl⟩ := List.mem_map.mp (List.mem_toFinset.mp hk)
      obtain ⟨hrl, hsome⟩ := hrows r hr
      obtain ⟨k, hkey⟩ := Option.isSome_iff_exists.mp hsome
      rw [hkey]
      exact Finset.mem_image_of_mem _ (List.mem_toFinset.mpr (List.mem_filterMap.mpr ⟨r, hrl, hkey⟩))
    calc n ≤ (rows.map key).toFinset.card := by
          rw [List.toFinset_card_of_nodup hnodup, List.length_map]
          exact hn
      _ ≤ ((l.filterMap key).toFinset.image some).card := Finset.card_le_card hsubset
      _ ≤ (l.filterMap key).toFinset.card := Finset.card_image_le
  · intro hn
    have hpick : ∀ k ∈ (l.filterMap key).dedup, ∃ r ∈ l, key r = some k := fun k hk =>
      List.mem_filterMap.mp (List.mem_dedup.mp hk)
    choose pick hmem hkey using hpick
    refine ⟨(l.filterMap key).dedup.attach.map fun k => pick k.1 k.2, ?_, ?_, ?_⟩
    · intro r hr
      obtain ⟨k, -, rfl⟩ := List.mem_map.mp hr
      exact ⟨hmem _ k.2, by rw [hkey _ k.2]; rfl⟩
    · rw [List.pairwise_map]
      refine (List.nodup_attach.mpr (List.nodup_dedup _)).imp fun {k k'} hne heq => hne ?_
      rw [hkey _ k.2, hkey _ k'.2] at heq
      exact Subtype.ext (Option.some.inj heq)
    · rw [List.length_map, List.length_attach, ← List.card_toFinset]
      exact hn

end Distinct

end LatchApi.Lib
