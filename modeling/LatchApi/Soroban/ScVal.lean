import LatchApi.Lib.HexText
import LatchApi.Lib.StrKey
import LatchApi.Soroban.Xdr

namespace LatchApi.Soroban

open Lib Option

def scSymbol (s : String) : ScVal := .symbol s

def scBytes (b : Bytes) : ScVal := .bytes b

def scVec (vals : List ScVal) : ScVal := .vec (some vals)

def scMap (entries : List (ScVal × ScVal)) : ScVal := .map (some entries)

def scMapEntry (key : String) (val : ScVal) : ScVal × ScVal := (scSymbol key, val)

def scU32 (n : UInt32) : ScVal := .u32 n

def scVoid : ScVal := .void

def scString (s : String) : ScVal := .string s

def scI128 (hi : Int64) (lo : UInt64) : ScVal := .i128 hi lo

def hashOf (b : Bytes) : Option Hash := if h : b.length = 32 then some ⟨b, h⟩ else none

variable {key : Hash}

theorem val_of_hashOf {b : Bytes} (h : hashOf b = some key) : key.val = b := by
  unfold hashOf at h
  split at h
  · exact (some.inj h) ▸ rfl
  · cases h

theorem hashOf_val (key : Hash) : hashOf key.val = some key := dif_pos key.property

def accountText (key : Hash) : String := strkeyEncode versionAccount key.val

def contractText (id : Hash) : String := strkeyEncode versionContract id.val

def ScAddress.text : ScAddress → String
  | .account key => accountText key
  | .contract id => contractText id
  | .muxedAccount id key => strkeyEncode 96 (key.val ++ (List.range 8).reverse.map fun i =>
      (id >>> (8 * i).toUInt64).toUInt8)
  | .claimableBalance id => strkeyEncode 8 (0 :: id.val)
  | .liquidityPool id => strkeyEncode 88 id.val

def addressString : ScAddress → Option String
  | .account key => some (accountText key)
  | .contract id => some (contractText id)
  | _ => none

def scValToAddressString : ScVal → Option String
  | .address a => addressString a
  | _ => none

def contractIDFromAddress (address : String) : Option Hash :=
  (strkeyDecode versionContract address).bind hashOf

def accountIDFromAddress (address : String) : Option Hash :=
  (strkeyDecode versionAccount address).bind hashOf

def scAddressFromString (address : String) : Option ScAddress :=
  match (textBytes address).head? with
  | some 71 => (accountIDFromAddress address).map .account
  | some 67 => (contractIDFromAddress address).map .contract
  | _ => none

def scAddress (address : String) : Option ScVal := (scAddressFromString address).map .address

variable {address : String}

theorem text_of_strkey {version : UInt8} (h : (strkeyDecode version address).bind hashOf = some key) :
    strkeyEncode version key.val = address := by
  obtain ⟨payload, hdecode, hhash⟩ := bind_eq_some_iff.mp h
  rw [val_of_hashOf hhash]
  exact strkeyEncode_of_decode hdecode

theorem addressString_of_text {a : ScAddress}
    (h : scAddressFromString address = some a) : addressString a = some address := by
  unfold scAddressFromString at h
  split at h
  · obtain ⟨key, hkey, rfl⟩ := map_eq_some_iff.mp h
    exact congrArg some (text_of_strkey hkey)
  · obtain ⟨id, hid, rfl⟩ := map_eq_some_iff.mp h
    exact congrArg some (text_of_strkey hid)
  · cases h

theorem head_of_strkeyDecode {payload : Bytes}
    (h : strkeyDecode versionAccount address = some payload) :
    (textBytes address).head? = some 71 := by
  rw [← strkeyEncode_of_decode h]
  simp only [strkeyEncode, versionAccount, List.cons_append, base32Chars]
  rw [if_pos (by decide), textBytes_ofList]
  rfl

theorem scAddressFromString_of_account (h : accountIDFromAddress address = some key) :
    scAddressFromString address = some (.account key) := by
  obtain ⟨payload, hpayload, -⟩ := bind_eq_some_iff.mp h
  rw [scAddressFromString, head_of_strkeyDecode hpayload]
  exact congrArg (Option.map _) h

theorem scAddressFromString_accountText (key : Hash) :
    scAddressFromString (accountText key) = some (.account key) := by
  apply scAddressFromString_of_account
  rw [accountIDFromAddress, accountText, strkeyDecode_strkeyEncode]
  exact hashOf_val key

theorem contractIDFromAddress_contractText (id : Hash) :
    contractIDFromAddress (contractText id) = some id := by
  rw [contractIDFromAddress, contractText, strkeyDecode_strkeyEncode]
  exact hashOf_val id

theorem contractText_injective {id id' : Hash} (h : contractText id = contractText id') : id = id' :=
  some.inj ((contractIDFromAddress_contractText id).symm.trans
    (h ▸ contractIDFromAddress_contractText id'))

theorem scAddressFromString_contractText (id : Hash) :
    scAddressFromString (contractText id) = some (.contract id) := by
  have hhead : (textBytes (contractText id)).head? = some 67 := by
    simp only [contractText, strkeyEncode, versionContract, List.cons_append, base32Chars]
    rw [if_pos (by decide), textBytes_ofList]
    rfl
  rw [scAddressFromString, hhead]
  exact congrArg (Option.map _) (contractIDFromAddress_contractText id)

theorem scAddressFromString_of_addressString {address : ScAddress} {text : String}
    (h : addressString address = some text) : scAddressFromString text = some address := by
  cases address with
  | account key =>
    cases h
    exact scAddressFromString_accountText key
  | contract id =>
    cases h
    exact scAddressFromString_contractText id
  | _ => cases h

theorem colon_not_mem_of_address {a : ScAddress}
    (h : scAddressFromString address = some a) : ':' ∉ address.toList := by
  unfold scAddressFromString at h
  split at h
  · obtain ⟨key, hkey, -⟩ := map_eq_some_iff.mp h
    obtain ⟨payload, hpayload, -⟩ := bind_eq_some_iff.mp hkey
    exact not_mem_of_strkeyDecode hpayload (by decide)
  · obtain ⟨id, hid, -⟩ := map_eq_some_iff.mp h
    obtain ⟨payload, hpayload, -⟩ := bind_eq_some_iff.mp hid
    exact not_mem_of_strkeyDecode hpayload (by decide)
  · cases h

end LatchApi.Soroban
