import Mathlib.Algebra.Ring.Nat
import LatchApi.Lib.Interleaving
import LatchApi.Lib.Lower
import LatchApi.Lib.Redis
import LatchApi.Lib.Reply

namespace LatchApi.Otp

open Lib Program

def otpTTL : Int := 600000

def otpMaxAttempts : Int := 5

def otpLength : Nat := 6

structure Stored where
  text : String
  stamp : Nat
deriving DecidableEq

inductive Op where
  | randInt (max : Nat)
  | get (key : String)
  | set (key value : String) (ttl : Int)
  | del (keys : List String)
  | incr (key : String)
  | expire (key : String) (ttl : Int)
  | compare (stored : Stored) (code : String)

inductive Fault where
  | failed

-- The numbers in the answers of `get` and `set` are for the proofs; no program looks at them.
@[reducible] def Res : Op → Type
  | .randInt _ => Except Fault Nat
  | .get _ => Except Fault (Option Stored)
  | .set _ _ _ => Except Fault Nat
  | .del _ => Except Fault Unit
  | .incr _ => Except Fault Int
  | .expire _ _ => Except Fault Unit
  | .compare _ _ => Bool

structure OtpError where
  context : String
deriving DecidableEq

abbrev OtpProgram (α : Type) := Program Op Res OtpError α

def normalizeEmail (email : String) : String := toLower email

def otpKey (email : String) : String := "otp:" ++ normalizeEmail email

def otpAttemptsKey (email : String) : String := "otp:attempts:" ++ normalizeEmail email

def numericOTP (length n : Nat) : String :=
  let digits := Nat.toDigits 10 n
  String.ofList (List.replicate (length - digits.length) '0' ++ digits)

def generate (email : String) : OtpProgram String := do
  match ← perform (Op.randInt (10 ^ otpLength)) with
  | .error _ => .fail ⟨"generate OTP"⟩
  | .ok n =>
    let code := numericOTP otpLength n
    let stored ← perform (Op.set (otpKey email) code otpTTL)
    let reset ← perform (Op.del [otpAttemptsKey email])
    match stored, reset with
    | .ok _, .ok () => return code
    | _, _ => .fail ⟨"store OTP"⟩

def invalidate (context email : String) (answer : Bool) : OtpProgram Bool := do
  match ← perform (Op.del [otpKey email, otpAttemptsKey email]) with
  | .ok () => return answer
  | .error _ => .fail ⟨context⟩

def verifyStored (email code : String) (stored : Stored) : OtpProgram Bool := do
  let incremented ← perform (Op.incr (otpAttemptsKey email))
  let expires ← perform (Op.expire (otpAttemptsKey email) otpTTL)
  match incremented, expires with
  | .ok attempts, .ok () =>
    if attempts > otpMaxAttempts then invalidate "invalidate OTP" email false
    else if ← perform (Op.compare stored code) then
      invalidate "delete OTP after verify" email true
    else return false
  | _, _ => .fail ⟨"increment attempts"⟩

def verify (email code : String) : OtpProgram Bool := do
  match ← perform (Op.get (otpKey email)) with
  | .error _ => .fail ⟨"get OTP"⟩
  | .ok none => return false
  | .ok (some stored) => verifyStored email code stored

structure Choice where
  reply : Reply := .done
  draw : Nat := 0

def exec (op : Op) (r : Redis) (ch : Choice) : Res op × Redis :=
  match op with
  | .randInt max => replied .failed ch.reply (ch.draw % max) r r
  | .get k => replied .failed ch.reply ((r.lookup k).map fun e => ⟨e.value.toText, e.stamp⟩) r r
  | .set k value ttl => replied .failed ch.reply r.stamps r (r.set k value ttl)
  | .del ks => replied .failed ch.reply () r (r.del ks)
  | .incr k =>
    match r.incr k with
    | some (n, r') => replied .failed ch.reply n r r'
    | none => (.error .failed, r)
  | .expire k ttl => replied .failed ch.reply () r (r.expire k ttl)
  | .compare stored code => (decide (stored.text = code), r)

abbrev Spelling (address : String) := { email : String // normalizeEmail email = address }

inductive Request (address : String) where
  | generate (email : Spelling address)
  | verify (email : Spelling address) (code : String)

inductive Answer where
  | code (text : String)
  | verified (ok : Bool)
deriving DecidableEq

def otpSystem (address : String) :
    System (Request address) Op Res OtpError Answer Redis Choice Nat where
  body
    | .generate email => do return .code (← generate email)
    | .verify email code => do return .verified (← verify email code)
  exec _ op r ch := exec op r ch
  world d r := some (r.tick d)

def codeKey (address : String) : String := "otp:" ++ address

def attemptsKey (address : String) : String := "otp:attempts:" ++ address

theorem otpKey_spelling {address : String} (email : Spelling address) :
    otpKey email = codeKey address := by
  rw [otpKey, codeKey, email.2]

theorem otpAttemptsKey_spelling {address : String} (email : Spelling address) :
    otpAttemptsKey email = attemptsKey address := by
  rw [otpAttemptsKey, attemptsKey, email.2]

theorem codeKey_ne_attemptsKey (address : String) : codeKey address ≠ attemptsKey address := by
  intro h
  have hlen := congrArg String.length h
  simp [codeKey, attemptsKey, String.length_append] at hlen
  have h4 : "otp:".length = 4 := rfl
  have h13 : "otp:attempts:".length = 13 := rfl
  omega

end LatchApi.Otp
