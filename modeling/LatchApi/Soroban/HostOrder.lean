import Mathlib.Algebra.Ring.Nat
import LatchApi.Lib.Lexicographic
import LatchApi.Soroban.Marshal

namespace LatchApi.Soroban

open Lib List

def ScVal.rank : ScVal → Nat × Nat
  | .bool _ => (0, 0)
  | .void => (1, 0)
  | .u32 _ => (3, 0)
  | .i32 _ => (4, 0)
  | .u64 _ => (5, 0)
  | .i64 _ => (6, 0)
  | .timepoint _ => (7, 0)
  | .duration _ => (8, 0)
  | .u128 .. => (9, 0)
  | .i128 .. => (10, 0)
  | .u256 .. => (11, 0)
  | .i256 .. => (12, 0)
  | .bytes _ => (13, 0)
  | .string _ => (14, 0)
  | .symbol _ => (15, 0)
  | .vec items => (16, if items.isSome then 1 else 0)
  | .map entries => (17, if entries.isSome then 1 else 0)
  | .address _ => (18, 0)
  | .other tag _ => (tag.toNat, 0)

def ScAddress.rank : ScAddress → Nat
  | .account _ => 0
  | .contract _ => 1
  | .muxedAccount .. => 2
  | .claimableBalance _ => 3
  | .liquidityPool _ => 4

def hostCompareAddress : ScAddress → ScAddress → Ordering
  | .account k, .account k' => compareOfLessAndEq k.val k'.val
  | .contract k, .contract k' => compareOfLessAndEq k.val k'.val
  | .muxedAccount i k, .muxedAccount i' k' =>
    (compareOfLessAndEq i i').then (compareOfLessAndEq k.val k'.val)
  | .claimableBalance k, .claimableBalance k' => compareOfLessAndEq k.val k'.val
  | .liquidityPool k, .liquidityPool k' => compareOfLessAndEq k.val k'.val
  | a, b => compareOfLessAndEq a.rank b.rank

mutual

def hostCompare : ScVal → ScVal → Ordering
  | .bool a, .bool b => compareOfLessAndEq a.toNat b.toNat
  | .u32 a, .u32 b => compareOfLessAndEq a b
  | .i32 a, .i32 b => compareOfLessAndEq a b
  | .u64 a, .u64 b => compareOfLessAndEq a b
  | .i64 a, .i64 b => compareOfLessAndEq a b
  | .timepoint a, .timepoint b => compareOfLessAndEq a b
  | .duration a, .duration b => compareOfLessAndEq a b
  | .u128 a b, .u128 a' b' => (compareOfLessAndEq a a').then (compareOfLessAndEq b b')
  | .i128 a b, .i128 a' b' => (compareOfLessAndEq a a').then (compareOfLessAndEq b b')
  | .u256 a b c d, .u256 a' b' c' d' =>
    (((compareOfLessAndEq a a').then (compareOfLessAndEq b b')).then
      (compareOfLessAndEq c c')).then (compareOfLessAndEq d d')
  | .i256 a b c d, .i256 a' b' c' d' =>
    (((compareOfLessAndEq a a').then (compareOfLessAndEq b b')).then
      (compareOfLessAndEq c c')).then (compareOfLessAndEq d d')
  | .bytes a, .bytes b => compareOfLessAndEq a b
  | .string s, .string t => compareOfLessAndEq (textBytes s) (textBytes t)
  | .symbol s, .symbol t => compareOfLessAndEq (textBytes s) (textBytes t)
  | .vec (some as), .vec (some bs) => hostCompareVec as bs
  | .map (some as), .map (some bs) => hostCompareMap as bs
  | .address a, .address b => hostCompareAddress a b
  | .other tag a, .other tag' b =>
    (compareOfLessAndEq tag tag').then (compareOfLessAndEq a b)
  | a, b => (compareOfLessAndEq a.rank.1 b.rank.1).then (compareOfLessAndEq a.rank.2 b.rank.2)

def hostCompareVec : List ScVal → List ScVal → Ordering
  | [], [] => .eq
  | [], _ :: _ => .lt
  | _ :: _, [] => .gt
  | a :: as, b :: bs => (hostCompare a b).then (hostCompareVec as bs)

def hostCompareMap : List (ScVal × ScVal) → List (ScVal × ScVal) → Ordering
  | [], [] => .eq
  | [], _ :: _ => .lt
  | _ :: _, [] => .gt
  | (k, v) :: as, (k', v') :: bs =>
    ((hostCompare k k').then (hostCompare v v')).then (hostCompareMap as bs)

end

def HostLt (a b : ScVal) : Prop := hostCompare a b = .lt

section Words

theorem xdrUInt32_eq (n : UInt32) : xdrUInt32 n = [UInt8.ofNat (n.toNat / 256 / 256 / 256),
    UInt8.ofNat (n.toNat / 256 / 256), UInt8.ofNat (n.toNat / 256), UInt8.ofNat n.toNat] := by
  simp [xdrUInt32, ← UInt8.toNat_inj, Nat.shiftRight_eq_div_pow, Nat.div_div_eq_div_mul]

variable {n m : UInt32}

theorem xdrUInt32_lt_iff : xdrUInt32 n < xdrUInt32 m ↔ n < m := by
  simp only [xdrUInt32_eq, cons_lt_cons_iff, not_lt_nil, and_false, or_false,
    UInt8.lt_iff_toNat_lt, ← UInt8.toNat_inj, UInt32.lt_iff_toNat_lt, UInt8.toNat_ofNat']
  have hn := n.toNat_lt
  have hm := m.toNat_lt
  omega

theorem xdrUInt32_inj : xdrUInt32 n = xdrUInt32 m ↔ n = m := by
  simp only [xdrUInt32_eq, cons.injEq, ← UInt8.toNat_inj, ← UInt32.toNat_inj,
    UInt8.toNat_ofNat', and_true]
  have hn := n.toNat_lt
  have hm := m.toNat_lt
  omega

theorem xdrUInt32_append_lt_iff {x y : Bytes} :
    xdrUInt32 n ++ x < xdrUInt32 m ++ y ↔ n < m ∨ n = m ∧ x < y := by
  have hlen : (xdrUInt32 n).length = (xdrUInt32 m).length := rfl
  rw [append_lt_append_iff hlen, xdrUInt32_lt_iff, xdrUInt32_inj]

theorem xdrOpaque_lt_iff {a b : Bytes} (ha : a.length < 2 ^ 32) (hb : b.length < 2 ^ 32) :
    xdrOpaque a < xdrOpaque b ↔ a.length < b.length ∨ a.length = b.length ∧ a < b := by
  have hlt : a.length.toUInt32 < b.length.toUInt32 ↔ a.length < b.length := by
    rw [UInt32.lt_iff_toNat_lt, UInt32.toNat_ofNat', UInt32.toNat_ofNat',
      Nat.mod_eq_of_lt ha, Nat.mod_eq_of_lt hb]
  have heq : a.length.toUInt32 = b.length.toUInt32 ↔ a.length = b.length := by
    rw [← UInt32.toNat_inj, UInt32.toNat_ofNat', UInt32.toNat_ofNat',
      Nat.mod_eq_of_lt ha, Nat.mod_eq_of_lt hb]
  rw [xdrOpaque, xdrOpaque, xdrLength, xdrLength, append_assoc, append_assoc,
    xdrUInt32_append_lt_iff, hlt, heq]
  apply or_congr Iff.rfl
  apply and_congr_right
  intro hlen
  rw [append_lt_append_iff hlen]
  constructor
  · rintro (hlt | ⟨rfl, hpad⟩)
    · exact hlt
    · exact absurd hpad (List.lt_irrefl _)
  · intro hlt
    exact .inl hlt

end Words

section Addresses

inductive ScAddress.IsPlain : ScAddress → Prop
  | account (key : Hash) : IsPlain (.account key)
  | contract (id : Hash) : IsPlain (.contract id)

theorem compareOfLessAndEq_eq_iff {α : Type} [LT α] [DecidableLT α] [DecidableEq α]
    [Std.Irrefl (α := α) (· < ·)] {a b : α} : compareOfLessAndEq a b = .eq ↔ a = b := by
  unfold compareOfLessAndEq
  split
  · rename_i hlt
    constructor
    · intro h
      cases h
    · rintro rfl
      exact absurd hlt (Std.Irrefl.irrefl a)
  · split <;> simp_all

variable {a b : ScAddress}

theorem hostCompareAddress_eq_iff (ha : a.IsPlain) (hb : b.IsPlain) :
    hostCompareAddress a b = .eq ↔ a = b := by
  cases ha with
  | account k =>
    cases hb with
    | account k' => simp [hostCompareAddress, compareOfLessAndEq_eq_iff, Subtype.ext_iff]
    | contract k' => simp [hostCompareAddress, ScAddress.rank, compareOfLessAndEq]
  | contract k =>
    cases hb with
    | account k' => simp [hostCompareAddress, ScAddress.rank, compareOfLessAndEq]
    | contract k' => simp [hostCompareAddress, compareOfLessAndEq_eq_iff, Subtype.ext_iff]

theorem compareOfLessAndEq_total {α : Type} [LT α] [DecidableLT α] [DecidableEq α]
    [Std.Trichotomous (α := α) (· < ·)] {a b : α} :
    compareOfLessAndEq a b = .lt ∨ a = b ∨ compareOfLessAndEq b a = .lt := by
  by_cases hlt : a < b
  · exact .inl (by simp [compareOfLessAndEq, hlt])
  by_cases hgt : b < a
  · exact .inr (.inr (by simp [compareOfLessAndEq, hgt]))
  · exact .inr (.inl (Std.Trichotomous.trichotomous a b hlt hgt))

theorem hostCompareAddress_total (ha : a.IsPlain) (hb : b.IsPlain) :
    hostCompareAddress a b = .lt ∨ a = b ∨ hostCompareAddress b a = .lt := by
  cases ha with
  | account k =>
    cases hb with
    | account k' =>
      simp only [hostCompareAddress, ScAddress.account.injEq, Subtype.ext_iff]
      exact compareOfLessAndEq_total
    | contract k' => exact .inl rfl
  | contract k =>
    cases hb with
    | account k' => exact .inr (.inr rfl)
    | contract k' =>
      simp only [hostCompareAddress, ScAddress.contract.injEq, Subtype.ext_iff]
      exact compareOfLessAndEq_total

theorem marshalAddress_append_lt_iff (ha : a.IsPlain) (hb : b.IsPlain) {x y : Bytes} :
    marshalAddress a ++ x < marshalAddress b ++ y ↔
      hostCompareAddress a b = .lt ∨ a = b ∧ x < y := by
  have hlen : ∀ k k' : Hash, k.val.length = k'.val.length :=
    fun k k' => k.property.trans k'.property.symm
  cases ha with
  | account k =>
    cases hb with
    | account k' =>
      simp only [marshalAddress, append_assoc, append_lt_append_left_iff,
        append_lt_append_iff (hlen k k'), hostCompareAddress, compareOfLessAndEq_eq_lt,
        ScAddress.account.injEq, Subtype.ext_iff]
    | contract k' =>
      simp only [marshalAddress, append_assoc, xdrUInt32_append_lt_iff]
      simp [hostCompareAddress, ScAddress.rank, compareOfLessAndEq]
  | contract k =>
    cases hb with
    | account k' =>
      simp only [marshalAddress, append_assoc, xdrUInt32_append_lt_iff]
      simp [hostCompareAddress, ScAddress.rank, compareOfLessAndEq]
    | contract k' =>
      simp only [marshalAddress, append_assoc, append_lt_append_left_iff,
        append_lt_append_iff (hlen k k'), hostCompareAddress, compareOfLessAndEq_eq_lt,
        ScAddress.contract.injEq, Subtype.ext_iff]

end Addresses

end LatchApi.Soroban
