import LatchApi.Soroban.Xdr

namespace LatchApi.Soroban

mutual
def ScVal.same : ScVal → ScVal → Bool
  | .u32 n, .u32 m => n == m
  | .bytes b, .bytes c => b == c
  | .symbol s, .symbol t => s == t
  | .address a, .address b => decide (a = b)
  | .vec (some xs), .vec (some ys) => ScVal.sameItems xs ys
  | .map (some xs), .map (some ys) => ScVal.sameEntries xs ys
  | _, _ => false

def ScVal.sameItems : List ScVal → List ScVal → Bool
  | [], [] => true
  | x :: xs, y :: ys => ScVal.same x y && ScVal.sameItems xs ys
  | _, _ => false

def ScVal.sameEntries : List (ScVal × ScVal) → List (ScVal × ScVal) → Bool
  | [], [] => true
  | (k, x) :: xs, (l, y) :: ys => ScVal.same k l && ScVal.same x y && ScVal.sameEntries xs ys
  | _, _ => false
end

mutual
theorem ScVal.eq_of_same : (v w : ScVal) → v.same w = true → v = w
  | .u32 n, w, h => by cases w <;> simp_all [ScVal.same]
  | .bytes b, w, h => by cases w <;> simp_all [ScVal.same]
  | .symbol s, w, h => by cases w <;> simp_all [ScVal.same]
  | .address a, w, h => by cases w <;> simp_all [ScVal.same]
  | .vec (some xs), .vec (some ys), h => by rw [ScVal.eq_of_sameItems xs ys h]
  | .map (some xs), .map (some ys), h => by rw [ScVal.eq_of_sameEntries xs ys h]

theorem ScVal.eq_of_sameItems : (xs ys : List ScVal) → ScVal.sameItems xs ys = true → xs = ys
  | [], [], _ => rfl
  | x :: xs, y :: ys, h => by
    rw [ScVal.sameItems, Bool.and_eq_true] at h
    rw [ScVal.eq_of_same x y h.1, ScVal.eq_of_sameItems xs ys h.2]

theorem ScVal.eq_of_sameEntries :
    (xs ys : List (ScVal × ScVal)) → ScVal.sameEntries xs ys = true → xs = ys
  | [], [], _ => rfl
  | (k, x) :: xs, (l, y) :: ys, h => by
    rw [ScVal.sameEntries, Bool.and_eq_true, Bool.and_eq_true] at h
    rw [ScVal.eq_of_same k l h.1.1, ScVal.eq_of_same x y h.1.2, ScVal.eq_of_sameEntries xs ys h.2]
end

end LatchApi.Soroban
