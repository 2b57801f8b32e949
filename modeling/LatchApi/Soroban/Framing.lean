import LatchApi.Lib.HexText
import LatchApi.Soroban.HostOrder

/-!
Reading a value off its encoding. The kind and the lengths come first, so an encoding says where it
ends, and two values with one encoding are the same value.
-/

namespace LatchApi.Soroban

open Lib List

section Values

def otherTags : List UInt32 := [2, 19, 20, 21]

mutual

/-- A value as a decoded envelope can hold it: its lengths fit their field, and a body is kept
encoded for the kinds that nothing looks into only. -/
def ScVal.OnWire : ScVal → Prop
  | .bytes b => b.length < 4294967296
  | .string s => (textBytes s).length < 4294967296
  | .symbol s => (textBytes s).length < 4294967296
  | .vec (some items) => items.length < 4294967296 ∧ ScVal.OnWireItems items
  | .map (some entries) => entries.length < 4294967296 ∧ ScVal.OnWireEntries entries
  | .other tag _ => tag ∈ otherTags
  | _ => True

def ScVal.OnWireItems : List ScVal → Prop
  | [] => True
  | v :: vs => v.OnWire ∧ ScVal.OnWireItems vs

def ScVal.OnWireEntries : List (ScVal × ScVal) → Prop
  | [] => True
  | (k, v) :: es => k.OnWire ∧ v.OnWire ∧ ScVal.OnWireEntries es

end

mutual

def ScVal.Framed : ScVal → Prop
  | .void => True
  | .u32 _ => True
  | .bytes b => b.length < 4294967296
  | .string s => (textBytes s).length < 4294967296
  | .symbol s => (textBytes s).length < 4294967296
  | .vec (some items) => items.length < 4294967296 ∧ ScVal.FramedItems items
  | .map (some entries) => entries.length < 4294967296 ∧ ScVal.FramedEntries entries
  | .address _ => True
  | _ => False

def ScVal.FramedItems : List ScVal → Prop
  | [] => True
  | v :: vs => v.Framed ∧ ScVal.FramedItems vs

def ScVal.FramedEntries : List (ScVal × ScVal) → Prop
  | [] => True
  | (k, v) :: es => k.Framed ∧ v.Framed ∧ ScVal.FramedEntries es

end

def ScVal.tag : ScVal → UInt32
  | .bool _ => 0
  | .void => 1
  | .u32 _ => 3
  | .i32 _ => 4
  | .u64 _ => 5
  | .i64 _ => 6
  | .timepoint _ => 7
  | .duration _ => 8
  | .u128 .. => 9
  | .i128 .. => 10
  | .u256 .. => 11
  | .i256 .. => 12
  | .bytes _ => 13
  | .string _ => 14
  | .symbol _ => 15
  | .vec _ => 16
  | .map _ => 17
  | .address _ => 18
  | .other tag _ => tag

end Values

section Words

variable {x y : Bytes}

variable {n m : UInt32}

theorem xdrUInt32_append_inj (h : xdrUInt32 n ++ x = xdrUInt32 m ++ y) : n = m ∧ x = y := by
  obtain ⟨hword, hrest⟩ := append_inj h rfl
  exact ⟨xdrUInt32_inj.mp hword, hrest⟩

theorem length_eq_of_toUInt32 {k l : Nat} (hk : k < 4294967296) (hl : l < 4294967296)
    (h : k.toUInt32 = l.toUInt32) : k = l := by
  have hnat := congrArg UInt32.toNat h
  simp only [Nat.toUInt32_eq, UInt32.toNat_ofNat'] at hnat
  omega

theorem xdrOpaque_append_inj {b c : Bytes} (hb : b.length < 4294967296)
    (hc : c.length < 4294967296) (h : xdrOpaque b ++ x = xdrOpaque c ++ y) : b = c ∧ x = y := by
  unfold xdrOpaque xdrLength at h
  simp only [append_assoc] at h
  obtain ⟨hlength, hrest⟩ := xdrUInt32_append_inj h
  have hlen := length_eq_of_toUInt32 hb hc hlength
  obtain ⟨rfl, hrest⟩ := append_inj hrest hlen
  exact ⟨rfl, append_cancel_left hrest⟩

theorem xdrOpaque_inj {b c : Bytes} (h : xdrOpaque b = xdrOpaque c) : b = c := by
  have htotal := congrArg length h
  unfold xdrOpaque xdrLength at h htotal
  simp only [append_assoc, length_append, length_replicate] at h htotal
  obtain ⟨hlength, hrest⟩ := xdrUInt32_append_inj h
  have hnat := congrArg UInt32.toNat hlength
  simp only [Nat.toUInt32_eq, UInt32.toNat_ofNat'] at hnat
  have hword : (xdrUInt32 b.length.toUInt32).length = (xdrUInt32 c.length.toUInt32).length := rfl
  have hlen : b.length = c.length := by omega
  exact (append_inj hrest hlen).1

theorem xdrUInt64_append_inj {i j : UInt64} (h : xdrUInt64 i ++ x = xdrUInt64 j ++ y) :
    i = j ∧ x = y := by
  unfold xdrUInt64 at h
  simp only [append_assoc] at h
  obtain ⟨hhigh, h⟩ := xdrUInt32_append_inj h
  obtain ⟨hlow, hrest⟩ := xdrUInt32_append_inj h
  have hhigh := congrArg UInt32.toNat hhigh
  have hlow := congrArg UInt32.toNat hlow
  have hi := i.toNat_lt
  have hj := j.toNat_lt
  simp only [UInt64.toNat_toUInt32, UInt64.toNat_shiftRight, Nat.shiftRight_eq_div_pow,
    UInt64.reduceToNat, Nat.reduceMod, Nat.reducePow] at hhigh hlow
  refine ⟨UInt64.toNat_inj.mp ?_, hrest⟩
  omega

theorem hash_append_inj {k l : Hash} (h : k.val ++ x = l.val ++ y) : k = l ∧ x = y := by
  obtain ⟨hval, hrest⟩ := append_inj h (k.property.trans l.property.symm)
  exact ⟨Subtype.ext hval, hrest⟩

theorem marshalAddress_append_inj {a b : ScAddress} (h : marshalAddress a ++ x = marshalAddress b ++ y) :
    a = b ∧ x = y := by
  cases a <;> cases b <;> simp only [marshalAddress, append_assoc] at h <;>
    replace h := xdrUInt32_append_inj h <;> obtain ⟨htag, h⟩ := h <;>
    try exact absurd htag (by decide)
  case account.account k l =>
    obtain ⟨rfl, hrest⟩ := hash_append_inj (append_cancel_left h)
    exact ⟨rfl, hrest⟩
  case contract.contract k l =>
    obtain ⟨rfl, hrest⟩ := hash_append_inj h
    exact ⟨rfl, hrest⟩
  case muxedAccount.muxedAccount i k j l =>
    obtain ⟨rfl, hkey⟩ := xdrUInt64_append_inj h
    obtain ⟨rfl, hrest⟩ := hash_append_inj hkey
    exact ⟨rfl, hrest⟩
  case claimableBalance.claimableBalance k l =>
    obtain ⟨rfl, hrest⟩ := hash_append_inj (append_cancel_left h)
    exact ⟨rfl, hrest⟩
  case liquidityPool.liquidityPool k l =>
    obtain ⟨rfl, hrest⟩ := hash_append_inj h
    exact ⟨rfl, hrest⟩

end Words

section Kinds

variable {v : ScVal}

def ScVal.body : ScVal → Bytes
  | .bool b => xdrUInt32 (if b then 1 else 0)
  | .void => []
  | .u32 n => xdrUInt32 n
  | .i32 n => xdrUInt32 n.toUInt32
  | .u64 n => xdrUInt64 n
  | .i64 n => xdrUInt64 n.toUInt64
  | .timepoint n => xdrUInt64 n
  | .duration n => xdrUInt64 n
  | .u128 hi lo => xdrUInt64 hi ++ xdrUInt64 lo
  | .i128 hi lo => xdrUInt64 hi.toUInt64 ++ xdrUInt64 lo
  | .u256 a b c d => xdrUInt64 a ++ xdrUInt64 b ++ xdrUInt64 c ++ xdrUInt64 d
  | .i256 a b c d => xdrUInt64 a.toUInt64 ++ xdrUInt64 b ++ xdrUInt64 c ++ xdrUInt64 d
  | .bytes b => xdrOpaque b
  | .string s => xdrOpaque (textBytes s)
  | .symbol s => xdrOpaque (textBytes s)
  | .vec none => xdrUInt32 0
  | .vec (some items) => xdrUInt32 1 ++ xdrLength items ++ marshalScVals items
  | .map none => xdrUInt32 0
  | .map (some entries) => xdrUInt32 1 ++ xdrLength entries ++ marshalScMap entries
  | .address a => marshalAddress a
  | .other _ body => body

theorem marshalScVal_eq (v : ScVal) : marshalScVal v = xdrUInt32 v.tag ++ v.body := by
  cases v with
  | vec items => cases items <;> simp [marshalScVal, ScVal.tag, ScVal.body]
  | map entries => cases entries <;> simp [marshalScVal, ScVal.tag, ScVal.body]
  | _ => simp [marshalScVal, ScVal.tag, ScVal.body]

theorem tag_body_of_append {w : ScVal} (h : marshalScVal v ++ x = marshalScVal w ++ y) :
    v.tag = w.tag ∧ v.body ++ x = w.body ++ y := by
  rw [marshalScVal_eq, marshalScVal_eq, append_assoc, append_assoc] at h
  exact xdrUInt32_append_inj h

theorem tag_ne_of_other {tag n : UInt32} {body : Bytes} (h : (ScVal.other tag body).OnWire)
    (hn : n ∉ otherTags) : tag ≠ n := by
  rintro rfl
  exact hn h

inductive SameKind : ScVal → ScVal → Prop
  | void : SameKind .void .void
  | u32 (n m : UInt32) : SameKind (.u32 n) (.u32 m)
  | bytes (b c : Bytes) : SameKind (.bytes b) (.bytes c)
  | string (s t : String) : SameKind (.string s) (.string t)
  | symbol (s t : String) : SameKind (.symbol s) (.symbol t)
  | vec (items : Option (List ScVal)) (items' : List ScVal) :
      SameKind (.vec items) (.vec (some items'))
  | map (entries : Option (List (ScVal × ScVal))) (entries' : List (ScVal × ScVal)) :
      SameKind (.map entries) (.map (some entries'))
  | address (a b : ScAddress) : SameKind (.address a) (.address b)

theorem sameKind_of_tag {w : ScVal} (hv : v.OnWire) (hw : w.Framed) (h : v.tag = w.tag) :
    SameKind v w := by
  cases w with
  | vec items => cases items with
    | none => exact hw.elim
    | some items => cases v with
      | vec items' => exact .vec items' items
      | other tag body => exact absurd h (tag_ne_of_other hv (by simp [ScVal.tag, otherTags]))
      | _ => simp [ScVal.tag] at h
  | map entries => cases entries with
    | none => exact hw.elim
    | some entries => cases v with
      | map entries' => exact .map entries' entries
      | other tag body => exact absurd h (tag_ne_of_other hv (by simp [ScVal.tag, otherTags]))
      | _ => simp [ScVal.tag] at h
  | void | u32 | bytes | string | symbol | address =>
    cases v with
    | other tag body => exact absurd h (tag_ne_of_other hv (by simp [ScVal.tag, otherTags]))
    | _ => first | constructor | simp [ScVal.tag] at h
  | _ => exact hw.elim

end Kinds

section Reading

theorem xdrText_append_inj {s t : String} (hs : (textBytes s).length < 4294967296)
    (ht : (textBytes t).length < 4294967296)
    (h : xdrOpaque (textBytes s) ++ x = xdrOpaque (textBytes t) ++ y) : s = t ∧ x = y := by
  obtain ⟨htext, hrest⟩ := xdrOpaque_append_inj hs ht h
  exact ⟨textBytes_injective htext, hrest⟩

theorem length_append_inj {α : Type} {xs ys : List α} (hx : xs.length < 4294967296)
    (hy : ys.length < 4294967296)
    (h : xdrUInt32 1 ++ xdrLength xs ++ x = xdrUInt32 1 ++ xdrLength ys ++ y) :
    xs.length = ys.length ∧ x = y := by
  simp only [append_assoc] at h
  obtain ⟨hlength, hrest⟩ := xdrUInt32_append_inj (append_cancel_left h)
  exact ⟨length_eq_of_toUInt32 hx hy hlength, hrest⟩

mutual

-- The induction is on the value read back. Its kind decides the kind of the other one, and what is
-- left after each part is carried along as the rest.
theorem marshalScVal_append_inj (w v : ScVal) (hv : v.OnWire) (hw : w.Framed) (x y : Bytes)
    (h : marshalScVal v ++ x = marshalScVal w ++ y) : v = w ∧ x = y := by
  obtain ⟨htag, hbody⟩ := tag_body_of_append h
  cases sameKind_of_tag hv hw htag with
  | void => exact ⟨rfl, hbody⟩
  | u32 n m => exact (xdrUInt32_append_inj hbody).imp_left (congrArg _)
  | bytes b c => exact (xdrOpaque_append_inj hv hw hbody).imp_left (congrArg _)
  | string s t => exact (xdrText_append_inj hv hw hbody).imp_left (congrArg _)
  | symbol s t => exact (xdrText_append_inj hv hw hbody).imp_left (congrArg _)
  | address a b => exact (marshalAddress_append_inj hbody).imp_left (congrArg _)
  | vec items' items => cases items' with
    | none =>
      have hword := (xdrUInt32_append_inj ((append_assoc ..).symm ▸ hbody)).1
      exact absurd hword (by decide)
    | some items' =>
      simp only [ScVal.body, append_assoc] at hbody
      obtain ⟨hlength, hitems⟩ := length_append_inj hv.1 hw.1 hbody
      obtain ⟨rfl, hrest⟩ := marshalScVals_append_inj items items' hv.2 hw.2 hlength x y hitems
      exact ⟨rfl, hrest⟩
  | map entries' entries => cases entries' with
    | none =>
      have hword := (xdrUInt32_append_inj ((append_assoc ..).symm ▸ hbody)).1
      exact absurd hword (by decide)
    | some entries' =>
      simp only [ScVal.body, append_assoc] at hbody
      obtain ⟨hlength, hitems⟩ := length_append_inj hv.1 hw.1 hbody
      obtain ⟨rfl, hrest⟩ := marshalScMap_append_inj entries entries' hv.2 hw.2 hlength x y hitems
      exact ⟨rfl, hrest⟩
termination_by sizeOf w

theorem marshalScVals_append_inj : (ws vs : List ScVal) → ScVal.OnWireItems vs →
    ScVal.FramedItems ws → vs.length = ws.length → (x y : Bytes) →
    marshalScVals vs ++ x = marshalScVals ws ++ y → vs = ws ∧ x = y
  | [], [], _, _, _, x, y, h => ⟨rfl, h⟩
  | w :: ws, v :: vs, hv, hw, hlength, x, y, h => by
    simp only [marshalScVals, append_assoc] at h
    obtain ⟨rfl, htail⟩ := marshalScVal_append_inj w v hv.1 hw.1 _ _ h
    obtain ⟨rfl, hrest⟩ :=
      marshalScVals_append_inj ws vs hv.2 hw.2 (Nat.succ.inj hlength) x y htail
    exact ⟨rfl, hrest⟩
termination_by ws => sizeOf ws

theorem marshalScMap_append_inj : (ws vs : List (ScVal × ScVal)) → ScVal.OnWireEntries vs →
    ScVal.FramedEntries ws → vs.length = ws.length → (x y : Bytes) →
    marshalScMap vs ++ x = marshalScMap ws ++ y → vs = ws ∧ x = y
  | [], [], _, _, _, x, y, h => ⟨rfl, h⟩
  | (k, w) :: ws, (l, v) :: vs, hv, hw, hlength, x, y, h => by
    simp only [marshalScMap, append_assoc] at h
    obtain ⟨rfl, hvalue⟩ := marshalScVal_append_inj k l hv.1 hw.1 _ _ h
    obtain ⟨rfl, htail⟩ := marshalScVal_append_inj w v hv.2.1 hw.2.1 _ _ hvalue
    obtain ⟨rfl, hrest⟩ :=
      marshalScMap_append_inj ws vs hv.2.2 hw.2.2 (Nat.succ.inj hlength) x y htail
    exact ⟨rfl, hrest⟩
termination_by ws => sizeOf ws

end

end Reading

section Exact

variable {v w : ScVal}

def ScVal.Exact (w : ScVal) : Prop := ∀ v : ScVal, v.OnWire → marshalScVal v = marshalScVal w → v = w

theorem ScVal.Framed.exact (hw : w.Framed) : w.Exact := fun v hv h =>
  (marshalScVal_append_inj w v hv hw [] [] (by rw [h])).1

theorem exact_bytes (b : Bytes) : (ScVal.bytes b).Exact := by
  intro v hv h
  rw [marshalScVal_eq, marshalScVal_eq] at h
  obtain ⟨htag, hbody⟩ := xdrUInt32_append_inj h
  have hnil : (ScVal.bytes []).Framed := Nat.zero_lt_succ _
  cases sameKind_of_tag hv hnil htag
  rw [xdrOpaque_inj hbody]

theorem eq_of_marshalScVals {init vs : List ScVal} {last : ScVal}
    (hinit : ScVal.FramedItems init) (hlast : last.Exact) (hvs : ScVal.OnWireItems vs)
    (hlength : vs.length = init.length + 1)
    (h : marshalScVals vs = marshalScVals (init ++ [last])) : vs = init ++ [last] := by
  induction init generalizing vs with
  | nil =>
    obtain ⟨v, rfl⟩ := length_eq_one_iff.mp hlength
    simp only [nil_append, marshalScVals, append_nil] at h
    rw [hlast v hvs.1 h, nil_append]
  | cons w ws ih =>
    obtain ⟨v, vs, rfl⟩ := exists_cons_of_length_eq_add_one hlength
    simp only [cons_append, marshalScVals] at h
    obtain ⟨rfl, htail⟩ := marshalScVal_append_inj w v hvs.1 hinit.1 _ _ h
    rw [ih hinit.2 hvs.2 (Nat.succ.inj hlength) htail, cons_append]

theorem exact_vec (init : List ScVal) {last : ScVal} (hinit : ScVal.FramedItems init)
    (hlast : last.Exact) (hlength : init.length + 1 < 4294967296) :
    (ScVal.vec (some (init ++ [last]))).Exact := by
  intro v hv h
  rw [marshalScVal_eq, marshalScVal_eq] at h
  obtain ⟨htag, hbody⟩ := xdrUInt32_append_inj h
  have hnil : (ScVal.vec (some [])).Framed := ⟨by decide, trivial⟩
  cases sameKind_of_tag hv hnil htag with
  | vec items _ => cases items with
    | none =>
      exact absurd (xdrUInt32_append_inj hbody).1 (by decide)
    | some items =>
      have hitems : (init ++ [last]).length < 4294967296 := by simpa using hlength
      obtain ⟨hlen, hbody⟩ := length_append_inj hv.1 hitems hbody
      rw [length_append, length_singleton] at hlen
      rw [eq_of_marshalScVals hinit hlast hv.2 hlen hbody]

end Exact

end LatchApi.Soroban
