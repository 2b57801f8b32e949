import Mathlib.Algebra.Group.Nat.Defs
import LatchApi.WebAuthn.AuthData

namespace LatchApi.WebAuthn

open Lib List

/-- The expression `bs[lo:hi]` of the source, which panics out of range. -/
def slice (bs : Bytes) (lo hi : Nat) : Option Bytes :=
  if lo ≤ hi ∧ hi ≤ bs.length then some ((bs.take hi).drop lo) else none

theorem slice_from {bs : Bytes} {lo : Nat} (h : lo ≤ bs.length) :
    slice bs lo bs.length = some (bs.drop lo) := by
  simp [slice, h]

theorem slice_to {bs : Bytes} {hi : Nat} (h : hi ≤ bs.length) :
    slice bs 0 hi = some (bs.take hi) := by
  simp [slice, h]

section Parse

variable (L : Libraries)

def sliceAttestedCredential (ad : AuthenticatorData) (rest : Bytes) :
    Option (Except String AuthenticatorData) :=
  if rest.length < 18 then some (.error "attested credential data truncated")
  else do
    let rest ← slice rest 16 rest.length
    let credIDLen := bigEndian (← slice rest 0 2)
    let rest ← slice rest 2 rest.length
    if rest.length < credIDLen then some (.error "credential id truncated")
    else
      let credentialID ← slice rest 0 credIDLen
      let rest ← slice rest credIDLen rest.length
      match L.unmarshalFirst rest with
      | none => some (.error "decode credential public key")
      | some pubKeyRaw =>
        some (.ok { ad with credentialID := credentialID, credentialPublicKeyRaw := pubKeyRaw })

def sliceAuthenticatorData (data : Bytes) : Option (Except String AuthenticatorData) :=
  if data.length < 37 then
    some (.error ("authenticator data too short: " ++ toString data.length ++ " bytes"))
  else do
    let rpIDHash ← slice data 0 32
    let flags ← data[32]?
    let signCount := bigEndian (← slice data 33 37)
    let ad : AuthenticatorData := ⟨rpIDHash, flags, signCount, [], []⟩
    if ad.attested then sliceAttestedCredential L ad (← slice data 37 data.length)
    else some (.ok ad)

theorem sliceAttestedCredential_eq (ad : AuthenticatorData) (rest : Bytes) :
    sliceAttestedCredential L ad rest = some (parseAttestedCredential L ad rest) := by
  unfold sliceAttestedCredential parseAttestedCredential
  by_cases hlen : rest.length < 18
  · simp [hlen]
  have h16 : slice rest 16 rest.length = some (rest.drop 16) := slice_from (by omega)
  have h2 : slice (rest.drop 16) 0 2 = some ((rest.drop 16).take 2) :=
    slice_to (by rw [length_drop]; omega)
  have h18 : slice (rest.drop 16) 2 (rest.drop 16).length = some (rest.drop 18) := by
    rw [slice_from (by rw [length_drop]; omega), drop_drop]
  simp only [hlen, if_false, h16, h2, h18, Option.bind_eq_bind, Option.bind_some]
  by_cases hid : (rest.drop 18).length < bigEndian ((rest.drop 16).take 2)
  · simp only [hid, if_true]
  simp only [hid, if_false, slice_to (Nat.le_of_not_lt hid), Option.bind_some,
    slice_from (Nat.le_of_not_lt hid)]
  cases L.unmarshalFirst ((rest.drop 18).drop (bigEndian ((rest.drop 16).take 2))) <;> rfl

theorem sliceAuthenticatorData_eq (data : Bytes) :
    sliceAuthenticatorData L data = some (parseAuthenticatorData L data) := by
  unfold sliceAuthenticatorData parseAuthenticatorData
  by_cases hlen : data.length < 37
  · simp [hlen]
  have h32 : data[32]? = some (data.getD 32 0) := by
    simp [getElem?_eq_getElem (by omega : 32 < data.length)]
  have h33 : slice data 33 37 = some ((data.drop 33).take 4) := by
    simp [slice, drop_take, (by omega : 37 ≤ data.length)]
  simp only [hlen, if_false, slice_to (by omega : 32 ≤ data.length), h32, h33,
    slice_from (by omega : 37 ≤ data.length), Option.bind_eq_bind, Option.bind_some,
    sliceAttestedCredential_eq]
  split <;> rfl

theorem parseAttestedCredential_ok_iff (ad : AuthenticatorData) (rest : Bytes) :
    (∃ ad', parseAttestedCredential L ad rest = .ok ad') ↔
      18 + bigEndian ((rest.drop 16).take 2) ≤ rest.length ∧
        (L.unmarshalFirst (rest.drop (18 + bigEndian ((rest.drop 16).take 2)))).isSome := by
  unfold parseAttestedCredential
  simp only [length_drop, drop_drop]
  split_ifs with h18 hid
  · simp
    omega
  · simp
    omega
  · have hlen : 18 + bigEndian ((rest.drop 16).take 2) ≤ rest.length := by omega
    cases L.unmarshalFirst (rest.drop (18 + bigEndian ((rest.drop 16).take 2))) <;> simp [hlen]

def announced (data : Bytes) : Nat := bigEndian ((data.drop 53).take 2)

theorem parseAuthenticatorData_ok_iff (data : Bytes) :
    (∃ ad, parseAuthenticatorData L data = .ok ad) ↔ 37 ≤ data.length ∧
      (data.getD 32 0 &&& flagAttestedData ≠ 0 → 55 + announced data ≤ data.length ∧
        (L.unmarshalFirst (data.drop (55 + announced data))).isSome) := by
  unfold parseAuthenticatorData
  by_cases hlen : data.length < 37
  · simp [hlen, Nat.not_le.mpr hlen]
  simp only [hlen, if_false, AuthenticatorData.attested, bne_iff_ne, Nat.le_of_not_lt hlen, true_and]
  by_cases hflag : data.getD 32 0 &&& flagAttestedData = 0
  · simp only [hflag, ne_eq, not_true_eq_false, if_false, false_imp_iff, iff_true]
    exact ⟨_, rfl⟩
  have hdrop : 37 + (18 + announced data) = 55 + announced data := by omega
  simp only [ne_eq, hflag, not_false_eq_true, if_true, true_imp_iff,
    parseAttestedCredential_ok_iff, drop_drop, length_drop, Nat.reduceAdd]
  rw [← announced, hdrop, Nat.le_sub_iff_add_le' (Nat.le_of_not_lt hlen), hdrop]

end Parse

def bigEndianBytes : Nat → Nat → Bytes
  | 0, _ => []
  | w + 1, n => bigEndianBytes w (n / 256) ++ [UInt8.ofNat n]

@[simp] theorem length_bigEndianBytes (w n : Nat) : (bigEndianBytes w n).length = w := by
  induction w generalizing n with
  | zero => rfl
  | succ w ih => simp [bigEndianBytes, ih]

theorem bigEndian_bigEndianBytes {w n : Nat} (h : n < 256 ^ w) :
    bigEndian (bigEndianBytes w n) = n := by
  induction w generalizing n with
  | zero => simp at h; simp [h, bigEndianBytes, bigEndian]
  | succ w ih =>
    have hdiv : n / 256 < 256 ^ w := by
      rw [Nat.div_lt_iff_lt_mul (by decide), ← Nat.pow_succ]
      exact h
    have hsplit : bigEndian (bigEndianBytes (w + 1) n) = bigEndian (bigEndianBytes w (n / 256)) * 256 + n % 256 := by
      simp [bigEndian, bigEndianBytes]
    rw [hsplit, ih hdiv]
    omega

structure Attested where
  rpIDHash : Bytes
  flags : UInt8
  signCount : UInt32
  aaguid : Bytes
  credentialID : Bytes
  key : Bytes
  hash_length : rpIDHash.length = 32
  attested : flags &&& flagAttestedData ≠ 0
  aaguid_length : aaguid.length = 16
  id_length : credentialID.length ≤ 65535

def Attested.bytes (a : Attested) : Bytes :=
  a.rpIDHash ++ a.flags :: bigEndianBytes 4 a.signCount.toNat ++ a.aaguid ++
    bigEndianBytes 2 a.credentialID.length ++ a.credentialID ++ a.key

theorem parseAuthenticatorData_bytes (L : Libraries) (a : Attested) (tail : Bytes)
    (hkey : L.unmarshalFirst (a.key ++ tail) = some a.key) :
    parseAuthenticatorData L (a.bytes ++ tail) =
      .ok ⟨a.rpIDHash, a.flags, a.signCount.toNat, a.credentialID, a.key⟩ := by
  obtain ⟨hash, flags, count, aaguid, id, key, hhash, hflags, haaguid, hid⟩ := a
  have hcount : bigEndian (bigEndianBytes 4 count.toNat) = count.toNat :=
    bigEndian_bigEndianBytes count.toNat_lt
  have hlen : bigEndian (bigEndianBytes 2 id.length) = id.length :=
    bigEndian_bigEndianBytes (Nat.lt_succ_of_le hid)
  simp only at hkey hflags
  have hrest : ∀ ad : AuthenticatorData, parseAttestedCredential L ad
      (aaguid ++ (bigEndianBytes 2 id.length ++ (id ++ (key ++ tail)))) =
        .ok { ad with credentialID := id, credentialPublicKeyRaw := key } := by
    intro ad
    have hshort : ¬ 16 + (2 + (id.length + (key.length + tail.length))) < 18 := by omega
    simp [parseAttestedCredential, drop_append, haaguid, hlen, hkey, drop_eq_nil_of_le, hshort]
  have hshort : 37 ≤ 32 + (4 + (16 + (2 + (id.length + (key.length + tail.length)))) + 1) := by omega
  simp [parseAuthenticatorData, AuthenticatorData.attested, Attested.bytes, drop_append, hhash,
    haaguid, hcount, hflags, hrest, drop_eq_nil_of_le, hshort]

/-- With any first-item decoder, no slice of the parser is out of range, it accepts exactly the byte
strings that hold all they announce, and it reads every attestation back, whatever follows it. -/
theorem authenticatorData_exact (L : Libraries) :
    (∀ data, sliceAuthenticatorData L data = some (parseAuthenticatorData L data)) ∧
    (∀ data, (∃ ad, parseAuthenticatorData L data = .ok ad) ↔ 37 ≤ data.length ∧
      (data.getD 32 0 &&& flagAttestedData ≠ 0 → 55 + announced data ≤ data.length ∧
        (L.unmarshalFirst (data.drop (55 + announced data))).isSome)) ∧
    ∀ (a : Attested) (tail : Bytes), L.unmarshalFirst (a.key ++ tail) = some a.key →
      parseAuthenticatorData L (a.bytes ++ tail) =
        .ok ⟨a.rpIDHash, a.flags, a.signCount.toNat, a.credentialID, a.key⟩ :=
  ⟨sliceAuthenticatorData_eq L, parseAuthenticatorData_ok_iff L, parseAuthenticatorData_bytes L⟩

namespace Sample

def oneByteItems : Libraries :=
  ⟨fun _ => none, fun _ => none, fun _ => none, fun _ => [], fun bs => bs.head?.map ([·]),
    fun _ => none, fun _ => false, fun _ _ _ => false⟩

def attestation : Attested :=
  ⟨replicate 32 1, 0x45, 258, replicate 16 2, [3, 4, 5], [6], rfl, by decide, rfl, by decide⟩

theorem attestation_read_back : parseAuthenticatorData oneByteItems (attestation.bytes ++ [7, 8]) =
      .ok ⟨replicate 32 1, 0x45, 258, [3, 4, 5], [6]⟩ :=
  (authenticatorData_exact oneByteItems).2.2 attestation [7, 8] rfl

end Sample

end LatchApi.WebAuthn
