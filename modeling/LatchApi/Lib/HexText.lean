import Mathlib.Data.List.Forall2
import LatchApi.Lib.Encoding
import LatchApi.Lib.Lower

namespace LatchApi.Lib

theorem textBytes_ofList (cs : List Char) :
    textBytes (String.ofList cs) = cs.flatMap String.utf8EncodeChar := by
  rw [textBytes, String.toUTF8_eq_toByteArray, String.toByteArray_ofList, List.utf8Encode,
    List.toList_data_toByteArray]

variable {s : String} {c : Char}

theorem textBytes_injective {t : String} (h : textBytes s = textBytes t) : s = t := by
  have hdata : s.toByteArray.data = t.toByteArray.data := Array.toList_inj.mp h
  exact String.toByteArray_inj.mp (ByteArray.ext hdata)

variable {b : UInt8}

theorem toNat_of_mem_utf8EncodeChar (hb : b ∈ String.utf8EncodeChar c) (hascii : b.toNat < 128) :
    b.toNat = c.toNat := by
  have hnot : ∀ n, n < 256 → 128 ≤ n → b ≠ UInt8.ofNat n := by
    rintro n hn hlarge rfl
    rw [UInt8.toNat_ofNat'] at hascii
    omega
  unfold String.utf8EncodeChar at hb
  by_cases h₁ : c.val.toNat ≤ 127
  · rw [if_pos h₁] at hb
    obtain rfl := List.mem_singleton.mp hb
    rw [UInt8.toNat_ofNat']
    change c.val.toNat % 2 ^ 8 = c.val.toNat
    omega
  · rw [if_neg h₁] at hb
    exfalso
    split at hb
    · simp only [List.mem_cons, List.not_mem_nil, or_false] at hb
      rcases hb with hb | hb
      · exact hnot _ (by omega) (by omega) hb
      · exact hnot _ (by omega) (by omega) hb
    · split at hb
      · simp only [List.mem_cons, List.not_mem_nil, or_false] at hb
        rcases hb with hb | hb | hb
        · exact hnot _ (by omega) (by omega) hb
        · exact hnot _ (by omega) (by omega) hb
        · exact hnot _ (by omega) (by omega) hb
      · simp only [List.mem_cons, List.not_mem_nil, or_false] at hb
        rcases hb with hb | hb | hb | hb
        · exact hnot _ (by omega) (by omega) hb
        · exact hnot _ (by omega) (by omega) hb
        · exact hnot _ (by omega) (by omega) hb
        · exact hnot _ (by omega) (by omega) hb

def isUpperByte (b : UInt8) : Prop := 65 ≤ b.toNat ∧ b.toNat ≤ 90

theorem not_upper_of_mem_toLower (s : String) : ∀ b ∈ textBytes (toLower s), ¬ isUpperByte b := by
  intro b hb hupper
  rw [toLower, textBytes_ofList] at hb
  obtain ⟨c, hc, hmem⟩ := List.mem_flatMap.mp hb
  obtain ⟨c', -, rfl⟩ := List.mem_map.mp hc
  have hnat := toNat_of_mem_utf8EncodeChar hmem (Nat.lt_of_le_of_lt hupper.2 (by omega))
  apply lowerChar_not_upper c'
  rw [← hnat]
  exact hupper

theorem hexValue_injective {a : UInt8} {n : Nat} (ha : ¬ isUpperByte a) (hb : ¬ isUpperByte b)
    (hn : hexValue a = some n) (hm : hexValue b = some n) : a = b := by
  unfold isUpperByte at ha hb
  simp only [hexValue] at hn hm
  apply UInt8.toNat_inj.mp
  split_ifs at hn hm <;> simp only [Option.some.injEq] at hn hm <;> omega

theorem ascii_of_hexValue (h : hexValue b ≠ none) : b.toNat < 128 := by
  by_contra hlarge
  apply h
  simp only [hexValue]
  split_ifs <;> first | rfl | omega

variable {out : Bytes} (bs : Bytes)

theorem hexBytes_injective {as bs : Bytes} (ha : ∀ b ∈ as, ¬ isUpperByte b)
    (hb : ∀ b ∈ bs, ¬ isUpperByte b) (has : hexBytes as = some out) (hbs : hexBytes bs = some out) :
    as = bs := by
  induction as using hexBytes.induct generalizing bs out with
  | case1 =>
    cases has
    match bs, hbs with
    | [], _ => rfl
    | _ :: _ :: _, hbs => simp [hexBytes, Option.bind_eq_some_iff] at hbs
  | case2 => cases has
  | case3 x y digits ih =>
    simp only [hexBytes, Option.pure_def, Option.bind_eq_bind, Option.bind_eq_some_iff] at has
    obtain ⟨n, hn, m, hm, rest, hrest, hout⟩ := has
    cases hout
    match bs, hbs with
    | x' :: y' :: digits', hbs =>
      simp only [hexBytes, Option.pure_def, Option.bind_eq_bind, Option.bind_eq_some_iff] at hbs
      obtain ⟨n', hn', m', hm', rest', hrest', hout⟩ := hbs
      obtain ⟨hbyte, rfl⟩ := List.cons.inj (Option.some.inj hout)
      have hsmall : ∀ {b : UInt8} {k : Nat}, hexValue b = some k → k < 16 := by
        intro b k hk
        simp only [hexValue] at hk
        split_ifs at hk <;> simp only [Option.some.injEq] at hk <;> omega
      have hn₁ := hsmall hn
      have hm₁ := hsmall hm
      have hn₂ := hsmall hn'
      have hm₂ := hsmall hm'
      have hnat := congrArg UInt8.toNat hbyte
      rw [UInt8.toNat_ofNat', UInt8.toNat_ofNat'] at hnat
      obtain rfl : n = n' := by omega
      obtain rfl : m = m' := by omega
      simp only [List.forall_mem_cons] at ha hb
      rw [hexValue_injective ha.1 hb.1 hn hn', hexValue_injective ha.2.1 hb.2.1 hm hm',
        ih ha.2.2 hb.2.2 hrest hrest']

theorem hexValue_of_mem {digits : Bytes} (h : hexBytes digits = some out) :
    ∀ b ∈ digits, hexValue b ≠ none := by
  induction digits using hexBytes.induct generalizing out with
  | case1 => simp
  | case2 => cases h
  | case3 x y digits ih =>
    simp only [hexBytes, Option.pure_def, Option.bind_eq_bind, Option.bind_eq_some_iff] at h
    obtain ⟨n, hn, m, hm, rest, hrest, -⟩ := h
    simp only [List.forall_mem_cons]
    refine ⟨?_, ?_, ih hrest⟩
    · simp [hn]
    · simp [hm]

theorem not_mem_of_hexDecode (h : hexDecode s = some out) (hb : b ∈ String.utf8EncodeChar c)
    (hnone : hexValue b = none) : c ∉ s.toList := by
  intro hmem
  have hbyte : b ∈ textBytes s := by
    rw [← String.ofList_toList (s := s), textBytes_ofList]
    exact List.mem_flatMap.mpr ⟨c, hmem, hb⟩
  exact hexValue_of_mem h b hbyte hnone

theorem hexDigit_facts : ∀ n < 16, lowerChar (hexDigit n) = hexDigit n ∧ hexDigit n ≠ 'x' ∧
    String.utf8EncodeChar (hexDigit n) = [UInt8.ofNat (hexDigit n).toNat] ∧
    hexValue (UInt8.ofNat (hexDigit n).toNat) = some n := by
  decide

theorem hexDecode_hexEncode : hexDecode (hexEncode bs) = some bs := by
  rw [hexDecode, hexEncode, textBytes_ofList]
  induction bs with
  | nil => rfl
  | cons b bs ih =>
    have hb := b.toNat_lt
    obtain ⟨-, -, hutf, hvalue⟩ := hexDigit_facts (b.toNat / 16) (by omega)
    obtain ⟨-, -, hutf', hvalue'⟩ := hexDigit_facts (b.toNat % 16) (by omega)
    have hbyte : UInt8.ofNat (16 * (b.toNat / 16) + b.toNat % 16) = b := by
      rw [Nat.div_add_mod, UInt8.ofNat_toNat]
    simp only [hexChars, List.flatMap_cons, hutf, hutf', List.singleton_append, hexBytes, hvalue,
      hvalue', ih, hbyte, Option.bind_eq_bind, Option.bind_some, Option.pure_def]

theorem utf8ByteSize_hexEncode : (hexEncode bs).utf8ByteSize = 2 * bs.length := by
  have hsize : ∀ s : String, s.utf8ByteSize = (textBytes s).length := fun s => rfl
  rw [hsize, hexEncode, textBytes_ofList]
  induction bs with
  | nil => rfl
  | cons b bs ih =>
    have hb := b.toNat_lt
    obtain ⟨-, -, hutf, -⟩ := hexDigit_facts (b.toNat / 16) (by omega)
    obtain ⟨-, -, hutf', -⟩ := hexDigit_facts (b.toNat % 16) (by omega)
    simp only [hexChars, List.flatMap_cons, hutf, hutf', List.singleton_append, List.length_cons, ih]
    omega

theorem hexEncode_injective {bs cs : Bytes} (h : hexEncode bs = hexEncode cs) : bs = cs :=
  Option.some.inj ((hexDecode_hexEncode bs).symm.trans (h ▸ hexDecode_hexEncode cs))

theorem hexChars_lower : (hexChars bs).map lowerChar = hexChars bs ∧ 'x' ∉ hexChars bs := by
  induction bs with
  | nil => simp [hexChars]
  | cons b bs ih =>
    have hb := b.toNat_lt
    obtain ⟨hlower, hx, -⟩ := hexDigit_facts (b.toNat / 16) (by omega)
    obtain ⟨hlower', hx', -⟩ := hexDigit_facts (b.toNat % 16) (by omega)
    simp only [hexChars, List.map_cons, hlower, hlower', ih.1, List.mem_cons, not_or]
    exact ⟨trivial, hx.symm, hx'.symm, ih.2⟩

theorem hexDecode_toLower_injective {t : String} (hs : hexDecode (toLower s) = some out)
    (ht : hexDecode (toLower t) = some out) : toLower s = toLower t :=
  textBytes_injective (hexBytes_injective (not_upper_of_mem_toLower s) (not_upper_of_mem_toLower t)
    hs ht)

theorem hexBytes_congr {as bs : Bytes}
    (h : List.Forall₂ (fun a b => hexValue a = hexValue b) as bs) : hexBytes as = hexBytes bs := by
  induction as using hexBytes.induct generalizing bs with
  | case1 =>
    obtain rfl := List.forall₂_nil_left_iff.mp h
    rfl
  | case2 x =>
    obtain ⟨y, _, -, hrest, rfl⟩ := List.forall₂_cons_left_iff.mp h
    obtain rfl := List.forall₂_nil_left_iff.mp hrest
    rfl
  | case3 x y digits ih =>
    obtain ⟨x', _, hx, hrest, rfl⟩ := List.forall₂_cons_left_iff.mp h
    obtain ⟨y', _, hy, hdigits, rfl⟩ := List.forall₂_cons_left_iff.mp hrest
    simp only [hexBytes, hx, hy, ih hdigits]

theorem lowerChar_hexDigit : ∀ n < 128, hexValue (UInt8.ofNat n) ≠ none →
    List.Forall₂ (fun a b => hexValue a = hexValue b) (String.utf8EncodeChar (Char.ofNat n))
      (String.utf8EncodeChar (lowerChar (Char.ofNat n))) := by
  decide

theorem hexDecode_toLower_eq (hchar : ∀ c ∈ s.toList,
      List.Forall₂ (fun a b => hexValue a = hexValue b) (String.utf8EncodeChar c)
        (String.utf8EncodeChar (lowerChar c))) : hexDecode (toLower s) = hexDecode s := by
  nth_rewrite 2 [← String.ofList_toList (s := s)]
  rw [hexDecode, hexDecode, toLower, textBytes_ofList, textBytes_ofList, List.flatMap_map]
  refine (hexBytes_congr ?_).symm
  generalize s.toList = cs at hchar ⊢
  induction cs with
  | nil => exact .nil
  | cons c cs ih =>
    simp only [List.forall_mem_cons] at hchar
    exact List.rel_append hchar.1 (ih hchar.2)

theorem hexDecode_toLower (h : hexDecode s = some out) : hexDecode (toLower s) = some out := by
  rw [hexDecode_toLower_eq, h]
  intro c hc
  obtain ⟨b, bs, hb⟩ := List.exists_cons_of_ne_nil (String.utf8EncodeChar_ne_nil (c := c))
  have hmem : b ∈ String.utf8EncodeChar c := hb ▸ List.mem_cons_self
  have hvalue : hexValue b ≠ none := fun hnone => not_mem_of_hexDecode h hmem hnone hc
  have hascii := ascii_of_hexValue hvalue
  have hnat := toNat_of_mem_utf8EncodeChar hmem hascii
  have hfacts := lowerChar_hexDigit c.toNat (hnat ▸ hascii) (by rwa [← hnat, UInt8.ofNat_toNat])
  rwa [Char.ofNat_toNat] at hfacts

theorem of_lowerChar_hexDigit : ∀ n < 128,
    (∀ b ∈ String.utf8EncodeChar (lowerChar (Char.ofNat n)), hexValue b ≠ none) →
    List.Forall₂ (fun a b => hexValue a = hexValue b) (String.utf8EncodeChar (Char.ofNat n))
      (String.utf8EncodeChar (lowerChar (Char.ofNat n))) := by
  decide +kernel

theorem hexDecode_of_toLower (h : hexDecode (toLower s) = some out) : hexDecode s = some out := by
  rw [← h]
  refine (hexDecode_toLower_eq fun c hc => ?_).symm
  have hvalues : ∀ b ∈ String.utf8EncodeChar (lowerChar c), hexValue b ≠ none := by
    intro b hb hnone
    refine not_mem_of_hexDecode h hb hnone ?_
    rw [toLower, String.toList_ofList]
    exact List.mem_map_of_mem hc
  by_cases hascii : c.toNat < 128
  · have hfacts := of_lowerChar_hexDigit c.toNat hascii
    rw [Char.ofNat_toNat] at hfacts
    exact hfacts hvalues
  · obtain ⟨b, bs, hb⟩ := List.exists_cons_of_ne_nil (String.utf8EncodeChar_ne_nil (c := lowerChar c))
    have hmem : b ∈ String.utf8EncodeChar (lowerChar c) := hb ▸ List.mem_cons_self
    have hsmall := ascii_of_hexValue (hvalues b hmem)
    have hnat := toNat_of_mem_utf8EncodeChar hmem hsmall
    exfalso
    rcases lowerChar_large (Nat.le_of_not_lt hascii) with h | h | h
    · omega
    · obtain rfl : b = 105 := UInt8.toNat_inj.mp (hnat.trans h)
      exact hvalues _ hmem rfl
    · obtain rfl : b = 107 := UInt8.toNat_inj.mp (hnat.trans h)
      exact hvalues _ hmem rfl

theorem hexDecode_lower (s : String) : hexDecode (toLower s) = hexDecode s :=
  Option.ext fun _ => ⟨hexDecode_of_toLower, hexDecode_toLower⟩

theorem toLower_hexEncode : toLower (hexEncode bs) = hexEncode bs := by
  rw [toLower, hexEncode, String.toList_ofList, (hexChars_lower bs).1]

theorem toLower_hexEncode_iff {key : Bytes} {keyHex : String} :
    toLower (hexEncode key) = toLower keyHex ↔ hexDecode keyHex = some key := by
  have hkey := hexDecode_toLower (hexDecode_hexEncode key)
  constructor
  · intro h
    exact hexDecode_of_toLower (h ▸ hkey)
  · intro h
    exact hexDecode_toLower_injective hkey (hexDecode_toLower h)

theorem hexBytes_drop {digits : Bytes} (h : hexBytes digits = some out) (n : Nat) :
    hexBytes (digits.drop (2 * n)) = some (out.drop n) := by
  induction n generalizing digits out with
  | zero => exact h
  | succ n ih =>
    match digits, h with
    | [], h =>
      cases h
      rfl
    | x :: y :: digits, h =>
      simp only [hexBytes, Option.pure_def, Option.bind_eq_bind, Option.bind_eq_some_iff] at h
      obtain ⟨_, _, _, _, rest, hrest, hout⟩ := h
      cases hout
      exact ih hrest

theorem textBytes_asciiText {bs : Bytes} (h : ∀ b ∈ bs, b.toNat < 128) :
    textBytes (asciiText bs) = bs := by
  have hascii : ∀ n < 128, String.utf8EncodeChar (Char.ofNat n) = [UInt8.ofNat n] := by
    decide +kernel
  rw [asciiText, textBytes_ofList]
  induction bs with
  | nil => rfl
  | cons b bs ih =>
    simp only [List.forall_mem_cons] at h
    rw [List.map_cons, List.flatMap_cons, hascii b.toNat h.1, ih h.2, UInt8.ofNat_toNat,
      List.singleton_append]

theorem hexDecode_drop (h : hexDecode s = some out) (n : Nat) :
    hexDecode (asciiText ((textBytes s).drop (2 * n))) = some (out.drop n) := by
  rw [hexDecode, textBytes_asciiText, hexBytes_drop h]
  intro b hb
  exact ascii_of_hexValue (hexValue_of_mem h b (List.mem_of_mem_drop hb))

end LatchApi.Lib
