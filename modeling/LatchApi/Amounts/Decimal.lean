import Mathlib.Algebra.Order.Round
import Mathlib.Data.Int.Bitwise
import Mathlib.Data.Int.Log
import Mathlib.Data.List.DropRight
import Mathlib.Data.Rat.Floor
import Mathlib.Tactic.Linarith
import LatchApi.Build.Swap
import LatchApi.Multisig.Consistent

namespace LatchApi.Amounts

open Lib Bundler Multisig Build List

def value (digits : List Char) : Nat := Nat.ofDigitChars 10 digits 0

section Digits

variable {cs ds : List Char} {n m : Nat}

theorem value_append (cs ds : List Char) :
    value (cs ++ ds) = value cs * 10 ^ ds.length + value ds := by
  rw [value, Nat.ofDigitChars_append, Nat.ofDigitChars_eq_ofDigitChars_zero, Nat.mul_comm]
  rfl

theorem value_zeros (n : Nat) : value (replicate n '0') = 0 := by
  rw [value, Nat.ofDigitChars_replicate_zero, Nat.mul_zero]

theorem value_toDigits (n : Nat) : value (Nat.toDigits 10 n) = n :=
  Nat.ofDigitChars_ten_toDigits

theorem decimalOf_eq_some :
    decimalOf n cs = some m ↔ (∀ c ∈ cs, c.isDigit = true) ∧ Nat.ofDigitChars 10 cs n = m := by
  constructor
  · intro h
    have hdigits : ∀ c ∈ cs, c.isDigit = true := by
      induction cs generalizing n with
      | nil => nofun
      | cons c cs ih =>
        rw [decimalOf] at h
        split_ifs at h with hc
        refine forall_mem_cons.mpr ⟨?_, ih h⟩
        rw [Char.isDigit, Bool.and_eq_true, decide_eq_true_eq, decide_eq_true_eq]
        exact hc
    rw [decimalOf_eq_ofDigitChars hdigits] at h
    exact ⟨hdigits, Option.some.inj h⟩
  · rintro ⟨hdigits, rfl⟩
    exact decimalOf_eq_ofDigitChars hdigits n

theorem parseDecimal_eq_some (h : parseDecimal cs = some n) :
    ∃ sign digits, cs = sign ++ digits ∧ (sign = [] ∨ sign = ['+']) ∧
      (∀ c ∈ digits, c.isDigit = true) ∧ value digits = n := by
  unfold parseDecimal at h
  split at h
  · cases h
  · cases h
  · rename_i cs _
    exact ⟨['+'], cs, rfl, .inr rfl, decimalOf_eq_some.mp h⟩
  · exact ⟨[], cs, rfl, .inl rfl, decimalOf_eq_some.mp h⟩

end Digits

section Halves

def i128ToBigInt (hi : Int64) (lo : UInt64) : Int := Int.lor (hi.toInt <<< (64 : Nat)) lo.toNat

def i128LessThan (hi₁ : Int64) (lo₁ : UInt64) (hi₂ : Int64) (lo₂ : UInt64) : Bool :=
  decide (i128ToBigInt hi₁ lo₁ < i128ToBigInt hi₂ lo₂)

theorem ldiff_low (k : Nat) {n : Nat} (hn : n < 2 ^ 64) :
    Nat.ldiff (2 ^ 64 * k + (2 ^ 64 - 1)) n = 2 ^ 64 * k + (2 ^ 64 - (n + 1)) := by
  apply Nat.eq_of_testBit_eq
  intro i
  rw [Nat.testBit_ldiff, Nat.testBit_two_pow_mul_add _ (by omega),
    Nat.testBit_two_pow_mul_add _ (by omega), Nat.testBit_two_pow_sub_succ hn,
    Nat.testBit_two_pow_sub_one]
  by_cases hi : i < 64
  · simp [hi]
  · have hhigh : n.testBit i = false := Nat.testBit_lt_two_pow (hn.trans_le
      (Nat.pow_le_pow_right (by omega) (by omega)))
    simp [hi, hhigh]

theorem i128ToBigInt_eq (hi : Int64) (lo : UInt64) :
    i128ToBigInt hi lo = hi.toInt * 2 ^ 64 + lo.toNat := by
  have hlo : lo.toNat < 2 ^ 64 := lo.toNat_lt
  rw [i128ToBigInt, Int.shiftLeft_eq]
  cases hi.toInt with
  | ofNat k =>
    have hor := Nat.two_pow_add_eq_or_of_lt hlo k
    change ((k * 2 ^ 64 ||| lo.toNat : Nat) : Int) = k * 2 ^ 64 + lo.toNat
    rw [Nat.mul_comm k, ← hor]
    push_cast
    omega
  | negSucc k =>
    -- the lower half of a negative multiple of `2 ^ 64` is all ones in its complement
    have hneg : Int.negSucc k * 2 ^ 64 = Int.negSucc (2 ^ 64 * k + (2 ^ 64 - 1)) := by omega
    rw [hneg]
    change Int.negSucc (Nat.ldiff (2 ^ 64 * k + (2 ^ 64 - 1)) lo.toNat) = _
    rw [ldiff_low k hlo]
    omega

/-- The combined halves are the two's complement value, compared as such, and the halves of a
parsed amount combine to the number that was written. -/
theorem halves_exact : (∀ hi lo, i128ToBigInt hi lo = hi.toInt * 2 ^ 64 + lo.toNat) ∧
    (∀ hi₁ lo₁ hi₂ lo₂, i128LessThan hi₁ lo₁ hi₂ lo₂ = true ↔
      hi₁.toInt * 2 ^ 64 + lo₁.toNat < hi₂.toInt * 2 ^ 64 + lo₂.toNat) ∧
    ∀ raw fieldName v, parseU128Raw raw fieldName = .ok v →
      (∀ c ∈ raw.toList, c.isDigit = true) ∧
        (bigIntToU128 v).1.toNat * 2 ^ 64 + (bigIntToU128 v).2.toNat = value raw.toList := by
  refine ⟨i128ToBigInt_eq, fun hi₁ lo₁ hi₂ lo₂ => ?_, fun raw fieldName v h => ?_⟩
  · rw [i128LessThan, decide_eq_true_eq, i128ToBigInt_eq, i128ToBigInt_eq]
  · unfold parseU128Raw at h
    split at h
    · cases h
    rename_i c cs hraw
    split at h
    · cases h
    rename_i v' hv
    split_ifs at h with hlt
    cases h
    obtain ⟨hdigits, hvalue⟩ := decimalOf_eq_some.mp hv
    rw [hraw]
    refine ⟨hdigits, ?_⟩
    rw [value, hvalue, bigIntToU128, UInt64.toNat_ofNat', UInt64.toNat_ofNat']
    omega

end Halves

section Texts

variable {decimals : Nat} {text : List Char}

/-- A sign, digits and a point followed by digits, all but at most `decimals` of them before the
point, and what the text means in units of the last of these decimals. -/
def Reads (decimals : Nat) (text : List Char) (n : Int) : Prop :=
  ∃ sign whole point frac, text = sign ++ whole ++ point ++ frac ∧ (sign = [] ∨ sign = ['+']) ∧
    (point = [] ∧ frac = [] ∨ point = ['.']) ∧ (∀ c ∈ whole ++ frac, c.isDigit = true) ∧
    frac.length ≤ decimals ∧
    n = value whole * 10 ^ decimals + value frac * 10 ^ (decimals - frac.length)

def padded (decimals : Nat) (frac : List Char) : List Char :=
  frac ++ replicate (decimals - frac.length) '0'

theorem value_padded (whole : List Char) {frac : List Char} (h : frac.length ≤ decimals) :
    value (whole ++ padded decimals frac) =
      value whole * 10 ^ decimals + value frac * 10 ^ (decimals - frac.length) := by
  rw [value_append, padded, value_append, value_zeros, length_append, length_replicate,
    Nat.add_sub_cancel' h, Nat.add_zero]

theorem point_of_cut (text : List Char) :
    ∃ point, text = text.takeWhile (· ≠ '.') ++ point ++ (text.dropWhile (· ≠ '.')).drop 1 ∧
      (point = [] ∧ (text.dropWhile (· ≠ '.')).drop 1 = [] ∨ point = ['.']) := by
  have hsplit := (takeWhile_append_dropWhile (p := (· ≠ '.')) (l := text)).symm
  cases hrest : text.dropWhile (· ≠ '.') with
  | nil =>
    rw [hrest] at hsplit
    exact ⟨[], by simpa using hsplit, .inl ⟨rfl, rfl⟩⟩
  | cons c frac =>
    have hpoint := head?_dropWhile_not (· ≠ '.') text
    rw [hrest] at hpoint
    obtain rfl : c = '.' := by simpa using hpoint
    rw [hrest] at hsplit
    exact ⟨['.'], by simpa using hsplit, .inr rfl⟩

theorem whole_of_sign {whole rest sign digits : List Char} (hsign : sign = [] ∨ sign = ['+'])
    (h : (if whole.isEmpty then ['0'] else whole) ++ rest = sign ++ digits) :
    ∃ whole', whole = sign ++ whole' ∧
      (digits = whole' ++ rest ∨ whole' = [] ∧ digits = '0' :: rest) := by
  cases whole with
  | nil =>
    rcases hsign with rfl | rfl
    · exact ⟨[], rfl, .inr ⟨rfl, h.symm⟩⟩
    · cases h
  | cons c whole =>
    rcases hsign with rfl | rfl
    · exact ⟨c :: whole, rfl, .inl h.symm⟩
    · obtain ⟨rfl, htail⟩ := cons.inj h
      exact ⟨whole, rfl, .inl htail.symm⟩

theorem reads_of_parse {amount : String} {hi : Int64} {lo : UInt64}
    (h : parseAmountToI128 amount decimals = some (hi, lo)) :
    Reads decimals (trimSpace amount).toList (i128ToInt hi lo) ∧ i128ToInt hi lo < 2 ^ 127 := by
  unfold parseAmountToI128 at h
  dsimp only at h
  obtain ⟨point, htext, hpoint⟩ := point_of_cut (trimSpace amount).toList
  generalize (trimSpace amount).toList.takeWhile (· ≠ '.') = whole at h htext
  generalize ((trimSpace amount).toList.dropWhile (· ≠ '.')).drop 1 = frac at h htext hpoint
  split at h
  · cases h
  rename_i hbad
  simp only [not_or, Nat.not_lt] at hbad
  split at h
  · cases h
  rename_i raw hraw
  split_ifs at h with hlt
  obtain ⟨rfl, rfl⟩ := Prod.mk.inj (Option.some.inj h)
  rw [i128ToInt_raw hlt]
  refine ⟨?_, by omega⟩
  rw [append_assoc] at hraw
  obtain ⟨sign, digits, hcs, hsign, hdigits, rfl⟩ := parseDecimal_eq_some hraw
  obtain ⟨whole', rfl, hrest⟩ := whole_of_sign hsign hcs
  have hvalue : value digits = value (whole' ++ padded decimals frac) := by
    rcases hrest with rfl | ⟨rfl, rfl⟩
    · rfl
    · rw [← singleton_append, value_append]
      exact (congrArg (· + _) (Nat.zero_mul _)).trans (Nat.zero_add _)
  have hmem : ∀ c ∈ whole' ++ frac, c ∈ digits := by
    rcases hrest with rfl | ⟨rfl, rfl⟩ <;> simp +contextual [or_imp]
  refine ⟨sign, whole', point, frac, htext, hsign, hpoint, fun c hc => hdigits c (hmem c hc),
    hbad.2.2, ?_⟩
  rw [hvalue, value_padded _ hbad.2.2]
  push_cast
  rfl

def fractional (decimals f : Nat) : List Char :=
  (replicate (decimals - (Nat.toDigits 10 f).length) '0' ++ Nat.toDigits 10 f).rdropWhile (· == '0')

theorem isDigit_zeros_append (n f : Nat) :
    ∀ c ∈ replicate n '0' ++ Nat.toDigits 10 f, c.isDigit = true :=
  forall_mem_append.mpr ⟨fun _ hc => eq_of_mem_replicate hc ▸ rfl, isDigit_toDigits f⟩

theorem formatI128Amount_eq {v : Nat} (hv : v < 2 ^ 127) (decimals : Nat) :
    formatI128Amount (Int64.ofNat (v / 2 ^ 64)) (UInt64.ofNat v) decimals =
      String.ofList (Nat.toDigits 10 (v / 10 ^ decimals) ++
        if (fractional decimals (v % 10 ^ decimals)).isEmpty then []
        else '.' :: fractional decimals (v % 10 ^ decimals)) := by
  have htext : ∀ n : Nat, (toString (n : Int)).toList = Nat.toDigits 10 n := fun n => by
    rw [show toString (n : Int) = String.ofList (Nat.toDigits 10 n) from Nat.repr_eq_ofList_toDigits,
      String.toList_ofList]
  have hpow : ((10 : Int) ^ decimals) = ((10 ^ decimals : Nat) : Int) := by push_cast; rfl
  simp only [formatI128Amount, i128ToInt_raw hv, hpow, ← Int.ofNat_tmod, ← Int.ofNat_tdiv, htext]
  rfl

theorem padded_fractional {f : Nat} (hf : f < 10 ^ decimals) :
    (fractional decimals f).length ≤ decimals ∧
      (padded decimals (fractional decimals f)).length = decimals ∧
      value (padded decimals (fractional decimals f)) = f := by
  rcases Nat.eq_zero_or_pos decimals with rfl | hpos
  · obtain rfl : f = 0 := by simpa using hf
    decide +kernel
  have hlen : (Nat.toDigits 10 f).length ≤ decimals :=
    (Nat.length_toDigits_le_iff (by omega) hpos).mpr hf
  have hsplit := rdropWhile_append_rtakeWhile (p := (· == '0'))
    (l := replicate (decimals - (Nat.toDigits 10 f).length) '0' ++ Nat.toDigits 10 f)
  have hlength := congrArg length hsplit
  rw [length_append, length_append, length_replicate, Nat.sub_add_cancel hlen] at hlength
  have hpad : padded decimals (fractional decimals f) =
      replicate (decimals - (Nat.toDigits 10 f).length) '0' ++ Nat.toDigits 10 f := by
    rw [← hsplit, padded]
    congr 1
    refine (eq_replicate_iff.mpr ⟨?_, fun c hc => ?_⟩).symm
    · unfold fractional
      omega
    · simpa using mem_rtakeWhile_imp hc
  refine ⟨by unfold fractional; omega, ?_, ?_⟩
  · rw [hpad, length_append, length_replicate, Nat.sub_add_cancel hlen]
  · rw [hpad, value_append, value_zeros, value_toDigits, Nat.zero_mul, Nat.zero_add]

/-- Writing an amount and reading it back gives the amount, and whatever is read was written as
digits with at most the asset's decimals and means just that. -/
theorem amounts_round_trip (decimals : Nat) : (∀ v < 2 ^ 127,
      parseAmountToI128 (formatI128Amount (Int64.ofNat (v / 2 ^ 64)) (UInt64.ofNat v) decimals)
        decimals = some (Int64.ofNat (v / 2 ^ 64), UInt64.ofNat v)) ∧
    ∀ amount hi lo, parseAmountToI128 amount decimals = some (hi, lo) →
      Reads decimals (trimSpace amount).toList (i128ToInt hi lo) ∧ i128ToInt hi lo < 2 ^ 127 := by
  refine ⟨fun v hv => ?_, fun amount hi lo h => reads_of_parse h⟩
  have hpos : 0 < 10 ^ decimals := Nat.pow_pos (by omega)
  obtain ⟨hle, hlen, hvalue⟩ := padded_fractional (Nat.mod_lt v hpos)
  rw [formatI128Amount_eq hv]
  have hdigits : ∀ c ∈ fractional decimals (v % 10 ^ decimals), c.isDigit = true := fun c hc =>
    isDigit_zeros_append _ _ c (IsPrefix.subset ( rdropWhile_prefix _ _) hc)
  refine parseAmountToI128_digits _ _ (forall_mem_append.mpr ⟨isDigit_toDigits _, hdigits⟩)
    Nat.toDigits_ne_nil hle ?_ hv
  have hsum := value_append (Nat.toDigits 10 (v / 10 ^ decimals))
    (padded decimals (fractional decimals (v % 10 ^ decimals)))
  rw [hlen, hvalue, value_toDigits, Nat.div_add_mod'] at hsum
  rw [append_assoc]
  exact hsum

end Texts

section Formatters

theorem floatString_seven (u : Nat) : floatString (mkRat u 10000000) 7 =
    Nat.toDigits 10 (u / 10 ^ 7) ++ '.' ::
      (replicate (7 - (Nat.toDigits 10 (u % 10 ^ 7)).length) '0' ++ Nat.toDigits 10 (u % 10 ^ 7)) := by
  generalize hx : mkRat u 10000000 = x
  have hcross : (u : Int) * x.den = x.num * 10000000 := by
    rw [← x.mkRat_self, Rat.mkRat_eq_iff (by decide) x.den_nz] at hx
    exact hx
  have hnum : 0 ≤ x.num := by
    have hpos : 0 ≤ (u : Int) * x.den := Int.mul_nonneg (by omega) (by omega)
    omega
  have hcross' : x.num.natAbs * 10 ^ 7 = u * x.den := by
    omega
  have hq : x.num.natAbs / x.den = u / 10 ^ 7 := by
    rw [← Nat.mul_div_mul_right x.num.natAbs x.den (by omega : 0 < 10 ^ 7), hcross',
      Nat.mul_comm x.den, Nat.mul_div_mul_right _ _ x.den_pos]
  have hr : x.num.natAbs % x.den * 10 ^ 7 = u % 10 ^ 7 * x.den := by
    rw [← Nat.mul_mod_mul_right, hcross', Nat.mul_comm x.den, Nat.mul_mod_mul_right]
  have hup : ¬ x.den ≤ 2 * 0 := by have := x.den_pos; omega
  unfold floatString
  dsimp only
  rw [hr, Nat.mul_mod_left, Nat.mul_div_cancel _ x.den_pos, hq, if_neg (Int.not_lt.mpr hnum)]
  simp only [hup, if_false, false_and, nil_append, if_pos (by decide : 0 < 7)]
  split_ifs with hden
  · -- an integer has no remainder, and its digits after the point are all zeros
    rw [hden, Nat.div_one] at hq
    rw [hden, Nat.mod_one, Nat.mul_one, Nat.zero_mul] at hr
    rw [hq, ← hr]
    rfl
  · rfl

theorem trimZeros_append (ds cs : List Char) :
    trimZeros (ds ++ '.' :: cs) = ds.dropWhile (· == '0') ++ '.' :: cs := by
  induction ds with
  | nil => rfl
  | cons d ds ih =>
    by_cases hd : d = '0'
    · subst hd
      rw [dropWhile_cons_of_pos rfl, ← ih]
      cases ds <;> rfl
    · rw [dropWhile_cons_of_neg (by simpa using hd), cons_append, trimZeros]
      exact fun _ _ heq => absurd (cons.inj heq).1 hd

theorem dropPoint_trimZeros (whole frac : List Char) (hfrac : ∀ c ∈ frac, c.isDigit = true) :
    (dropPoint (trimZeros (whole ++ '.' :: frac).reverse)).reverse =
      whole ++ if (frac.rdropWhile (· == '0')).isEmpty then []
        else '.' :: frac.rdropWhile (· == '0') := by
  rw [reverse_append, reverse_cons, append_assoc, singleton_append, trimZeros_append, rdropWhile]
  cases hdrop : frac.reverse.dropWhile (· == '0') with
  | nil => simp [dropPoint]
  | cons d ds =>
    have hmem : d ∈ frac.reverse := (dropWhile_suffix _).subset (hdrop ▸ mem_cons_self)
    have hd : d ≠ '.' := ne_of_isDigit (hfrac d (mem_reverse.mp hmem)) rfl
    simp [dropPoint, hd]

/-- The two formatters write the same text. -/
theorem formatters_agree (u : Nat) (hu : u < 2 ^ 63) :
    formatSevenDecimals (Int64.ofNat u) = formatI128Amount 0 (UInt64.ofNat u) 7 := by
  have hhigh : (0 : Int64) = Int64.ofNat (u / 2 ^ 64) := by
    rw [Nat.div_eq_of_lt (by omega)]
    rfl
  rw [hhigh, formatI128Amount_eq (by omega), formatSevenDecimals, Int64.toInt_ofNat_of_lt hu,
    floatString_seven, dropPoint_trimZeros _ _ (isDigit_zeros_append _ _)]
  rfl

theorem fourteen_thousand_agrees : formatSevenDecimals 14000 = "0.0014" ∧
    formatSevenDecimals 14000 = formatI128Amount 0 14000 7 :=
  ⟨by decide +kernel, formatters_agree 14000 (by omega)⟩

end Formatters

section Events

/-- The nearest integer, of two the even one. -/
def roundEven (x : ℚ) : ℤ := if Int.fract x = 1 / 2 ∧ Even ⌊x⌋ then ⌊x⌋ else round x

/-- The nearest number of 53 binary digits; neither bound of the exponents is met by amounts. -/
def float64 (x : ℚ) : ℚ :=
  let ulp : ℚ := 2 ^ (Int.log 2 x - 52)
  roundEven (x / ulp) * ulp

def formatFloat (x : ℚ) : List Char := floatString (mkRat (roundEven (x * 10000000)) 10000000) 7

inductive EventValue where
  | i128 (hi : Int64) (lo : UInt64)
  | other

inductive DecodeError where
  | unmarshal
  | notI128

def decodeI128Amount : Option EventValue → Except DecodeError (List Char)
  | none => .error .unmarshal
  | some .other => .error .notI128
  | some (.i128 hi lo) => .ok <|
    if hi < 0 then ['0']
    else if hi = 0 then formatFloat (float64 (float64 lo.toNat / 10000000))
    else
      let digits := Nat.toDigits 10 lo.toNat
      Nat.toDigits 10 hi.toInt.toNat ++ replicate (19 - digits.length) '0' ++ digits

theorem abs_roundEven_sub (x : ℚ) : |roundEven x - x| ≤ 1 / 2 := by
  unfold roundEven
  split_ifs with h
  · rw [abs_sub_comm, Int.self_sub_floor, h.1]
    norm_num
  · rw [abs_sub_comm]
    exact abs_sub_round x

theorem abs_float64_sub {x : ℚ} (hx : 0 ≤ x) : |float64 x - x| ≤ x / 2 ^ 53 := by
  rcases hx.eq_or_lt with rfl | hx
  · simp [float64, roundEven]
  have hulp : (0 : ℚ) < 2 ^ (Int.log 2 x - 52) := zpow_pos two_pos _
  have hle : (2 : ℚ) ^ (Int.log 2 x - 52) * 2 ^ 52 ≤ x := by
    rw [← zpow_natCast, ← zpow_add₀ two_ne_zero]
    simpa using Int.zpow_log_le_self (b := 2) one_lt_two hx
  unfold float64
  generalize (2 : ℚ) ^ (Int.log 2 x - 52) = ulp at hulp hle ⊢
  have hround := abs_roundEven_sub (x / ulp)
  have heq : roundEven (x / ulp) * ulp - x = (roundEven (x / ulp) - x / ulp) * ulp := by
    field_simp
  dsimp only
  rw [heq, abs_mul, abs_of_pos hulp]
  nlinarith

theorem roundEven_eq {x : ℚ} {n : ℤ} (h : |x - n| < 1 / 2) : roundEven x = n := by
  have hround := abs_roundEven_sub x
  have hlt : |((roundEven x - n : ℤ) : ℚ)| < 1 := by
    push_cast
    calc |(roundEven x : ℚ) - n| ≤ |roundEven x - x| + |x - n| := abs_sub_le _ _ _
      _ < 1 := by linarith
  rw [← Int.cast_abs] at hlt
  have hzero := Int.abs_lt_one_iff.mp (by exact_mod_cast hlt : |roundEven x - n| < 1)
  omega

def encodeI128 (v : Nat) : EventValue := .i128 (Int64.ofNat (v / 2 ^ 64)) (UInt64.ofNat v)

theorem even_roundEven {x : ℚ} (h : |roundEven x - x| = 1 / 2) : Even (roundEven x) := by
  unfold roundEven at h ⊢
  split_ifs at h ⊢ with hx
  · exact hx.2
  · rw [abs_sub_comm, abs_sub_round_eq_min] at h
    have hfract : Int.fract x = 1 / 2 := by
      rcases min_choice (Int.fract x) (1 - Int.fract x) with hmin | hmin <;> linarith
    have hround : round x = ⌊x⌋ + 1 := by
      have hsplit := Int.floor_add_fract x
      rw [round_eq, Int.floor_eq_iff]
      push_cast
      constructor <;> linarith
    rw [hround, Int.even_add_one]
    exact fun heven => hx ⟨hfract, heven⟩

theorem roundEven_eq_iff {x : ℚ} {n : ℤ} :
    roundEven x = n ↔ |x - n| < 1 / 2 ∨ |x - n| = 1 / 2 ∧ Even n := by
  constructor
  · rintro rfl
    rcases (abs_roundEven_sub x).lt_or_eq with hlt | heq
    · exact .inl (by rwa [abs_sub_comm])
    · exact .inr ⟨by rwa [abs_sub_comm], even_roundEven heq⟩
  · rintro (hlt | ⟨heq, heven⟩)
    · exact roundEven_eq hlt
    -- two integers half a unit away from `x` are neighbours, and only one of them is even
    by_contra hne
    have hround := abs_roundEven_sub x
    have hone : 1 ≤ |(roundEven x : ℚ) - n| := by
      exact_mod_cast Int.one_le_abs (sub_ne_zero.mpr hne)
    have htri := abs_sub_le (roundEven x : ℚ) x n
    have hhalf : |(roundEven x : ℚ) - x| = 1 / 2 := by linarith
    have hdist : |roundEven x - n| = 1 := by
      have : |(roundEven x : ℚ) - n| = 1 := by linarith
      exact_mod_cast this
    have hparity := (even_roundEven hhalf).sub heven
    rcases abs_eq (by decide : (0 : ℤ) ≤ 1) |>.mp hdist with h | h <;> rw [h] at hparity <;>
      exact absurd hparity (by decide)

theorem float64_nonneg {x : ℚ} (hx : 0 ≤ x) : 0 ≤ float64 x := by
  have hlow := (abs_le.mp (abs_float64_sub hx)).1
  have hdiv : x / 2 ^ 53 ≤ x := div_le_self hx (by norm_num)
  linarith

/-- The quotient that is printed for a high half of zero. -/
def quotient (v : Nat) : ℚ := float64 (float64 v / 10000000)

theorem quotient_nonneg (v : Nat) : 0 ≤ quotient v :=
  float64_nonneg (div_nonneg (float64_nonneg (Nat.cast_nonneg v)) (by norm_num))

theorem quotient_close {v : Nat} (hv : v < 2 ^ 51) : |quotient v * 10000000 - v| < 1 / 2 := by
  have hv : (v : ℚ) + 1 ≤ 2 ^ 51 := by exact_mod_cast hv
  have hlo := abs_float64_sub (Nat.cast_nonneg v : (0 : ℚ) ≤ v)
  have hdiv := abs_float64_sub (div_nonneg (float64_nonneg (Nat.cast_nonneg v))
    (by norm_num : (0 : ℚ) ≤ 10000000))
  rw [abs_le] at hlo hdiv
  rw [abs_lt, quotient]
  constructor <;> linarith

theorem floatString_seven_injective {u v : Nat}
    (h : floatString (mkRat u 10000000) 7 = floatString (mkRat v 10000000) 7) : u = v := by
  have hread : ∀ n : Nat, value ((floatString (mkRat n 10000000) 7).filter (· ≠ '.')) = n := by
    intro n
    have hdigits := isDigit_zeros_append (7 - (Nat.toDigits 10 (n % 10 ^ 7)).length) (n % 10 ^ 7)
    have hkeep : ∀ cs : List Char, (∀ c ∈ cs, c.isDigit = true) → cs.filter (· ≠ '.') = cs :=
      fun cs hcs => filter_eq_self.mpr fun c hc => by simpa using ne_of_isDigit (hcs c hc) rfl
    have hlen : (Nat.toDigits 10 (n % 10 ^ 7)).length ≤ 7 :=
      (Nat.length_toDigits_le_iff (by omega) (by omega)).mpr (Nat.mod_lt _ (by omega))
    rw [floatString_seven, filter_append, filter_cons_of_neg (by decide), hkeep _ hdigits,
      hkeep _ (isDigit_toDigits _), value_append, value_append, value_zeros, value_toDigits,
      value_toDigits, length_append, length_replicate, Nat.sub_add_cancel hlen, Nat.zero_mul,
      Nat.zero_add, Nat.div_add_mod']
  rw [← hread u, h, hread v]

theorem decodeI128Amount_low {v : Nat} (hv : v < 2 ^ 64) :
    decodeI128Amount (some (encodeI128 v)) = .ok (formatFloat (quotient v)) := by
  have hhi : Int64.ofNat (v / 2 ^ 64) = 0 := by
    rw [Nat.div_eq_of_lt hv]
    rfl
  rw [encodeI128, decodeI128Amount, hhi, if_neg (by decide), if_pos rfl, UInt64.toNat_ofNat',
    Nat.mod_eq_of_lt hv, quotient]

theorem decodeI128Amount_high {v : Nat} (hlow : 2 ^ 64 ≤ v) (hv : v < 2 ^ 127) :
    ∃ digits, decodeI128Amount (some (encodeI128 v)) = .ok digits ∧ ∀ c ∈ digits, c.isDigit = true := by
  have hint : (Int64.ofNat (v / 2 ^ 64)).toInt = (v / 2 ^ 64 : Nat) :=
    Int64.toInt_ofNat_of_lt (by omega)
  have hneg : ¬ Int64.ofNat (v / 2 ^ 64) < 0 := by
    rw [Int64.lt_iff_toInt_lt, hint]
    exact Int.not_lt.mpr (Int.natCast_nonneg _)
  have hzero : Int64.ofNat (v / 2 ^ 64) ≠ 0 := fun h => by
    rw [h, Int64.toInt_zero] at hint
    omega
  rw [encodeI128, decodeI128Amount, if_neg hneg, if_neg hzero]
  refine ⟨_, rfl, ?_⟩
  rw [append_assoc]
  exact forall_mem_append.mpr ⟨isDigit_toDigits _, isDigit_zeros_append _ _⟩

/-- The amount is printed exactly just when its high half is zero and the binary quotient is no
further from it than half of the last decimal, where a half has to round to it. -/
theorem decodeI128Amount_exact_iff (v : Nat) (hv : v < 2 ^ 127) :
    decodeI128Amount (some (encodeI128 v)) = .ok (floatString (mkRat v 10000000) 7) ↔
      v < 2 ^ 64 ∧ (|quotient v * 10000000 - v| < 1 / 2 ∨
        |quotient v * 10000000 - v| = 1 / 2 ∧ Even v) := by
  rcases Nat.lt_or_ge v (2 ^ 64) with hlow | hhigh
  · have hnonneg : 0 ≤ roundEven (quotient v * 10000000) := by
      have hround := (abs_le.mp (abs_roundEven_sub (quotient v * 10000000))).1
      have hquotient := quotient_nonneg v
      have : (-1 : ℚ) < roundEven (quotient v * 10000000) := by linarith
      have : -1 < roundEven (quotient v * 10000000) := by exact_mod_cast this
      omega
    obtain ⟨u, hu⟩ := Int.eq_ofNat_of_zero_le hnonneg
    have hiff := roundEven_eq_iff (x := quotient v * 10000000) (n := v)
    rw [hu, Int.cast_natCast, Int.natCast_inj, Int.even_coe_nat] at hiff
    rw [decodeI128Amount_low hlow, formatFloat, hu, Except.ok.injEq, ← hiff, and_iff_right hlow]
    exact ⟨floatString_seven_injective, fun h => h ▸ rfl⟩
  · refine iff_of_false (fun h => ?_) fun h => absurd h.1 (by omega)
    obtain ⟨digits, hdecode, hdigits⟩ := decodeI128Amount_high hhigh hv
    rw [hdecode, Except.ok.injEq] at h
    have hpoint : '.' ∈ digits := by
      rw [h, floatString_seven]
      exact mem_append_right _ mem_cons_self
    exact absurd (hdigits _ hpoint) (by decide)

theorem three_halves_exact : decodeI128Amount (some (encodeI128 15000000)) = .ok "1.5000000".toList := by
  have hexact := (decodeI128Amount_exact_iff 15000000 (by omega)).mpr
    ⟨by omega, .inl (quotient_close (by omega))⟩
  exact hexact.trans (congrArg _ (by decide +kernel))

theorem two_words_not_exact : (2 : Nat) ^ 64 < 2 ^ 127 ∧
    decodeI128Amount (some (encodeI128 (2 ^ 64))) = .ok "10000000000000000000".toList ∧
    floatString (mkRat (2 ^ 64) 10000000) 7 = "1844674407370.9551616".toList := by
  refine ⟨by omega, ?_, ?_⟩
  · rfl
  · decide +kernel

end Events

end LatchApi.Amounts
