import Mathlib.Algebra.Ring.Nat
import LatchApi.Lib.Encoding

namespace LatchApi.Lib

def base32Digit (n : Nat) : Char :=
  if n < 26 then Char.ofNat (65 + n) else Char.ofNat (24 + n)

def base32Value (c : Char) : Option Nat :=
  if 'A' ≤ c ∧ c ≤ 'Z' then some (c.toNat - 65)
  else if '2' ≤ c ∧ c ≤ '7' then some (c.toNat - 24)
  else none

def base32Chars (acc n : Nat) : Bytes → List Char
  | [] => if n = 0 then [] else [base32Digit (acc * 2 ^ (5 - n))]
  | b :: bs =>
    let acc := acc * 256 + b.toNat
    if n < 2 then
      base32Digit (acc / 2 ^ (n + 3)) :: base32Chars (acc % 2 ^ (n + 3)) (n + 3) bs
    else
      base32Digit (acc / 2 ^ (n + 3)) :: base32Digit (acc / 2 ^ (n - 2) % 32) ::
        base32Chars (acc % 2 ^ (n - 2)) (n - 2) bs

def base32Bytes (acc n : Nat) : List Char → Option Bytes
  | [] => some []
  | c :: cs => do
    let v ← base32Value c
    let acc := acc * 32 + v
    if n < 3 then base32Bytes acc (n + 5) cs
    else
      let bs ← base32Bytes (acc % 2 ^ (n - 3)) (n - 3) cs
      return UInt8.ofNat (acc / 2 ^ (n - 3)) :: bs

def crc16Shift (crc : Nat) : Nat :=
  if crc < 0x8000 then crc * 2 else (crc * 2 ^^^ 0x1021) % 0x10000

def crc16 (bs : Bytes) : Nat :=
  bs.foldl (fun crc b => Nat.repeat crc16Shift 8 (crc ^^^ b.toNat * 256)) 0

def versionAccount : UInt8 := 48

def versionContract : UInt8 := 16

def strkeyEncode (version : UInt8) (payload : Bytes) : String :=
  let body := version :: payload
  let crc := crc16 body
  String.ofList (base32Chars 0 0 (body ++ [UInt8.ofNat crc, UInt8.ofNat (crc / 256)]))

def strkeyDecode (version : UInt8) (text : String) : Option Bytes := do
  let raw ← base32Bytes 0 0 text.toList
  let payload := (raw.drop 1).take (raw.length - 3)
  if strkeyEncode version payload = text then some payload else none

theorem strkeyEncode_of_decode {version : UInt8} {text : String} {payload : Bytes}
    (h : strkeyDecode version text = some payload) : strkeyEncode version payload = text := by
  obtain ⟨raw, -, h⟩ := Option.bind_eq_some_iff.mp h
  by_cases heq : strkeyEncode version ((raw.drop 1).take (raw.length - 3)) = text
  · rw [if_pos heq] at h
    exact Option.some.inj h ▸ heq
  · rw [if_neg heq] at h
    cases h

theorem base32Value_of_mem {acc n : Nat} {cs : List Char} {out : Bytes}
    (h : base32Bytes acc n cs = some out) : ∀ c ∈ cs, base32Value c ≠ none := by
  induction cs generalizing acc n out with
  | nil => simp
  | cons c cs ih =>
    simp only [base32Bytes, Option.pure_def, Option.bind_eq_bind, Option.bind_eq_some_iff] at h
    obtain ⟨v, hv, h⟩ := h
    rw [List.forall_mem_cons]
    refine ⟨by simp [hv], ?_⟩
    split at h
    · exact ih h
    · obtain ⟨bs, hbs, -⟩ := Option.bind_eq_some_iff.mp h
      exact ih hbs

theorem not_mem_of_strkeyDecode {version : UInt8} {text : String} {payload : Bytes}
    (h : strkeyDecode version text = some payload) {c : Char} (hc : base32Value c = none) :
    c ∉ text.toList := by
  obtain ⟨raw, hraw, -⟩ := Option.bind_eq_some_iff.mp h
  intro hmem
  exact base32Value_of_mem hraw c hmem hc

theorem base32Value_base32Digit {d : Nat} (hd : d < 32) : base32Value (base32Digit d) = some d := by
  have hall : ∀ d : Fin 32, base32Value (base32Digit d) = some d.val := by decide
  exact hall ⟨d, hd⟩

theorem base32Bytes_digit {acc n d : Nat} (hd : d < 32) (cs : List Char) :
    base32Bytes acc n (base32Digit d :: cs) =
      if n < 3 then base32Bytes (acc * 32 + d) (n + 5) cs
      else (base32Bytes ((acc * 32 + d) % 2 ^ (n - 3)) (n - 3) cs).map
        (UInt8.ofNat ((acc * 32 + d) / 2 ^ (n - 3)) :: ·) := by
  rw [base32Bytes, base32Value_base32Digit hd]
  simp only [Option.bind_eq_bind, Option.bind_some]
  split_ifs
  · rfl
  · cases base32Bytes ((acc * 32 + d) % 2 ^ (n - 3)) (n - 3) cs <;> rfl

theorem base32Bytes_base32Chars (bs : Bytes) : base32Bytes 0 0 (base32Chars 0 0 bs) = some bs ∧
    ∀ high low n, 1 ≤ n → n ≤ 4 → low < 2 ^ n → high < 2 ^ (8 - n) →
      base32Bytes high (8 - n) (base32Chars low n bs) =
        some (UInt8.ofNat (high * 2 ^ n + low) :: bs) := by
  induction bs with
  | nil =>
    refine ⟨rfl, fun high low n h1 h4 hlow hhigh => ?_⟩
    obtain rfl | rfl | rfl | rfl : n = 1 ∨ n = 2 ∨ n = 3 ∨ n = 4 := by omega
    all_goals
      simp only [base32Chars]
      rw [if_neg (by omega), base32Bytes_digit (by omega), if_neg (by omega)]
      simp only [base32Bytes, Option.map_some]
      congr 3
      omega
  | cons b bs ih =>
    have hb := b.toNat_lt
    obtain ⟨hwhole, hpart⟩ := ih
    -- the byte `b`, cut by a digit
    have hcut : ∀ high low n, 1 ≤ n → n ≤ 4 → low = b.toNat % 2 ^ n → high = b.toNat / 2 ^ n →
        base32Bytes high (8 - n) (base32Chars low n bs) = some (b :: bs) := by
      intro high low n h1 h4 hlow hhigh
      have hlt : b.toNat / 2 ^ n < 2 ^ (8 - n) := by
        rw [Nat.div_lt_iff_lt_mul (Nat.two_pow_pos n), ← Nat.pow_add, Nat.sub_add_cancel (by omega)]
        exact hb
      rw [hlow, hhigh, hpart _ _ n h1 h4 (Nat.mod_lt _ (Nat.two_pow_pos n)) hlt,
        Nat.div_add_mod', UInt8.ofNat_toNat]
    refine ⟨?_, fun high low n h1 h4 hlow hhigh => ?_⟩
    · simp only [base32Chars]
      rw [if_pos (by omega), base32Bytes_digit (by omega), if_pos (by omega)]
      exact hcut _ _ 3 (by omega) (by omega) (by omega) (by omega)
    · obtain rfl | rfl | rfl | rfl : n = 1 ∨ n = 2 ∨ n = 3 ∨ n = 4 := by omega
      · simp only [base32Chars]
        rw [if_pos (by omega), base32Bytes_digit (by omega), if_neg (by omega),
          hcut _ _ 4 (by omega) (by omega) (by omega) (by omega), Option.map_some]
        congr 3
        omega
      · simp only [base32Chars]
        rw [if_neg (by omega), base32Bytes_digit (by omega), if_neg (by omega),
          base32Bytes_digit (by omega), if_neg (by omega)]
        simp only [Nat.reduceSub, pow_zero, Nat.mod_one, Nat.div_one, hwhole, Option.map_some]
        congr 3
        · omega
        · refine Eq.trans (congrArg UInt8.ofNat ?_) UInt8.ofNat_toNat
          omega
      · simp only [base32Chars]
        rw [if_neg (by omega), base32Bytes_digit (by omega), if_neg (by omega),
          base32Bytes_digit (by omega), if_pos (by omega),
          hcut _ _ 1 (by omega) (by omega) (by omega) (by omega), Option.map_some]
        congr 3
        omega
      · simp only [base32Chars]
        rw [if_neg (by omega), base32Bytes_digit (by omega), if_neg (by omega),
          base32Bytes_digit (by omega), if_pos (by omega),
          hcut _ _ 2 (by omega) (by omega) (by omega) (by omega), Option.map_some]
        congr 3
        omega

theorem strkeyDecode_strkeyEncode (version : UInt8) (payload : Bytes) :
    strkeyDecode version (strkeyEncode version payload) = some payload := by
  have hraw : base32Bytes 0 0 (strkeyEncode version payload).toList = some
      ((version :: payload) ++ [UInt8.ofNat (crc16 (version :: payload)),
        UInt8.ofNat (crc16 (version :: payload) / 256)]) := by
    rw [strkeyEncode, String.toList_ofList]
    exact (base32Bytes_base32Chars _).1
  rw [strkeyDecode, hraw]
  simp

example : (strkeyDecode versionAccount
    "GA5WUJ54Z23KILLCUOUNAKTPBVZWKMQVO4O6EQ5GHLAERIMLLHNCSKYH").map List.length = some 32 := by
  decide +kernel

end LatchApi.Lib
