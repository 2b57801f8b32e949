import Mathlib.Data.List.Basic
import Mathlib.Logic.Function.Basic

namespace LatchApi.Lib

inductive RedisValue where
  | text (s : String)
  | integer (n : Int)
deriving DecidableEq

def RedisValue.toText : RedisValue → String
  | .text s => s
  | .integer n => toString n

def RedisValue.toInteger : RedisValue → Option Int
  | .text s => s.toInt?
  | .integer n => some n

structure RedisEntry where
  value : RedisValue
  stamp : Nat
  expiresAt : Option Int

structure Redis where
  entries : String → Option RedisEntry
  time : Int
  stamps : Nat

def RedisEntry.live (e : RedisEntry) (now : Int) : Bool := e.expiresAt.all fun x => now < x

namespace Redis

def lookup (r : Redis) (k : String) : Option RedisEntry := (r.entries k).filter (·.live r.time)

def put (r : Redis) (k : String) (e : RedisEntry) : Redis :=
  { r with entries := Function.update r.entries k (some e) }

def set (r : Redis) (k value : String) (ttl : Int) : Redis :=
  { r.put k ⟨.text value, r.stamps, some (r.time + ttl)⟩ with stamps := r.stamps + 1 }

def del (r : Redis) (ks : List String) : Redis :=
  { r with entries := fun k => if k ∈ ks then none else r.entries k }

def maxInt64 : Int := 9223372036854775807

def incr (r : Redis) (k : String) : Option (Int × Redis) :=
  match r.lookup k with
  | none => some (1, { r.put k ⟨.integer 1, r.stamps, none⟩ with stamps := r.stamps + 1 })
  | some e =>
    match e.value.toInteger with
    | none => none
    | some n =>
      if n < maxInt64 then some (n + 1, r.put k { e with value := .integer (n + 1) }) else none

def expire (r : Redis) (k : String) (ttl : Int) : Redis :=
  match r.lookup k with
  | none => r
  | some e => r.put k { e with expiresAt := some (r.time + ttl) }

def tick (r : Redis) (d : Nat) : Redis := { r with time := r.time + d }

variable {r : Redis} {k : String} {e : RedisEntry}

theorem lookup_eq_some : r.lookup k = some e ↔ r.entries k = some e ∧ e.live r.time = true := by
  simp [lookup, Option.filter_eq_some_iff]

end Redis

end LatchApi.Lib
