import LatchApi.Lib.Encoding

namespace LatchApi.Auth

open Lib

inductive SigningMethod where
  | hs256
  | hs384
  | hs512
  | other (alg : String)
deriving DecidableEq

def SigningMethod.isHMAC : SigningMethod → Bool
  | .other _ => false
  | _ => true

inductive ClaimValue where
  | str (s : String)
  | num (n : Int)
  | other
deriving DecidableEq

abbrev MapClaims := List (String × ClaimValue)

def MapClaims.text (claims : MapClaims) (key : String) : String :=
  match claims.lookup key with
  | some (.str s) => s
  | _ => ""

def MapClaims.numericDate (claims : MapClaims) (key : String) : Option (Option Int) :=
  match claims.lookup key with
  | none => some none
  | some (.num n) => some (if n = 0 then none else some n)
  | some _ => none

structure Jwt where
  method : SigningMethod
  claims : MapClaims
  signature : Bytes

inductive AuthHeader where
  | bearer (token : Encoded Jwt)
  | other (text : String)

abbrev Mac := SigningMethod → String → MapClaims → Bytes

def unix (t : Int) : Int := t / 1000000000

def scopeWallet : String := "wallet"

section Issuers

variable (mac : Mac) (jwtSecret : String)

def signedString (claims : MapClaims) : Jwt :=
  ⟨.hs256, claims, mac .hs256 jwtSecret claims⟩

-- Each issuer reads the clock twice, for `exp` and then for `iat`.
def issueRecoveryToken (userID : String) (ttl t u : Int) : Jwt :=
  signedString mac jwtSecret
    [("sub", .str userID), ("scope", .str "recovery"), ("exp", .num (unix (t + ttl))),
      ("iat", .num (unix u))]

def issueAccessToken (accessTTL : Int) (userID : String) (t u : Int) : Jwt :=
  signedString mac jwtSecret
    [("sub", .str userID), ("exp", .num (unix (t + accessTTL))), ("iat", .num (unix u))]

def issueWalletAccessToken (accessTTL : Int) (wallet keyType : String) (t u : Int) : Jwt :=
  signedString mac jwtSecret
    [("sub", .str wallet), ("scope", .str scopeWallet), ("kty", .str keyType),
      ("exp", .num (unix (t + accessTTL))), ("iat", .num (unix u))]

end Issuers

section Validators

variable (mac : Mac) (jwtSecret : String)

def validTimes (claims : MapClaims) (now : Int) : Bool :=
  match claims.numericDate "exp", claims.numericDate "nbf" with
  | some exp, some nbf =>
    exp.all (fun e => now < e * 1000000000) && nbf.all (fun n => n * 1000000000 ≤ now)
  | _, _ => false

def parseWithClaims (token : Encoded Jwt) (now : Int) : Option MapClaims :=
  match token with
  | .malformed _ => none
  | .of t =>
    if t.method.isHMAC ∧ t.signature = mac t.method jwtSecret t.claims ∧ validTimes t.claims now then
      some t.claims
    else none

structure Identity where
  userID : String
  scope : String
deriving DecidableEq

def requireAuth (header : AuthHeader) (now : Int) : Except String Identity :=
  match header with
  | .other _ => .error "missing or invalid authorization header"
  | .bearer token =>
    match parseWithClaims mac jwtSecret token now with
    | none => .error "invalid or expired token"
    | some claims =>
      if claims.text "sub" = "" then .error "invalid token claims"
      else .ok ⟨claims.text "sub", claims.text "scope"⟩

inductive RecoveryTokenError where
  | malformed
  | invalidClaims
deriving DecidableEq

def validateRecoveryToken (header : AuthHeader) (now : Int) : Except RecoveryTokenError String :=
  match header with
  | .other _ => .error .malformed
  | .bearer token =>
    match parseWithClaims mac jwtSecret token now with
    | none => .error .invalidClaims
    | some claims =>
      if claims.text "scope" ≠ "recovery" then .error .invalidClaims
      else if claims.text "sub" = "" then .error .invalidClaims
      else .ok (claims.text "sub")

/-- A token expires with the second it names, unless that is the zero date. -/
def Expired (exp now : Int) : Prop := unix exp ≠ 0 ∧ unix exp * 1000000000 ≤ now

instance (exp now : Int) : Decidable (Expired exp now) := by unfold Expired; infer_instance

theorem parse_signedString (claims : MapClaims) (now : Int) :
    parseWithClaims mac jwtSecret (.of (signedString mac jwtSecret claims)) now =
      if validTimes claims now then some claims else none := by
  simp [parseWithClaims, signedString, SigningMethod.isHMAC]

theorem validTimes_of_exp {claims : MapClaims} {exp : Int}
    (he : claims.lookup "exp" = some (.num (unix exp))) (hn : claims.lookup "nbf" = none)
    (now : Int) : validTimes claims now = true ↔ ¬ Expired exp now := by
  have hexp : claims.numericDate "exp" =
      some (if unix exp = 0 then none else some (unix exp)) := by
    simp [MapClaims.numericDate, he]
  have hnbf : claims.numericDate "nbf" = some none := by
    simp [MapClaims.numericDate, hn]
  unfold validTimes Expired
  rw [hexp, hnbf]
  by_cases h : unix exp = 0
  · simp [h]
  · simp [h]

theorem requireAuth_recovery (userID : String) (ttl t u now : Int) :
    requireAuth mac jwtSecret (.bearer (.of (issueRecoveryToken mac jwtSecret userID ttl t u))) now =
      if Expired (t + ttl) now then .error "invalid or expired token"
      else if userID = "" then .error "invalid token claims"
      else .ok ⟨userID, "recovery"⟩ := by
  have ht : validTimes [("sub", .str userID), ("scope", .str "recovery"),
      ("exp", .num (unix (t + ttl))), ("iat", .num (unix u))] now = true ↔ ¬ Expired (t + ttl) now :=
    validTimes_of_exp rfl rfl now
  simp only [requireAuth, issueRecoveryToken, parse_signedString]
  by_cases h : Expired (t + ttl) now
  · have hf := mt ht.mp (not_not.mpr h)
    simp only [hf, h, if_true, Bool.false_eq_true, if_false]
  · simp only [ht.mpr h, h, if_true, if_false]
    rfl

theorem validateRecoveryToken_of_scope {claims : MapClaims}
    (h : claims.text "scope" ≠ "recovery") (now : Int) :
    validateRecoveryToken mac jwtSecret (.bearer (.of (signedString mac jwtSecret claims))) now =
      .error .invalidClaims := by
  simp only [validateRecoveryToken, parse_signedString]
  by_cases ht : validTimes claims now = true
  · simp [ht, h]
  · simp [ht]

theorem validateRecoveryToken_access (accessTTL : Int) (userID : String) (t u now : Int) :
    validateRecoveryToken mac jwtSecret
      (.bearer (.of (issueAccessToken mac jwtSecret accessTTL userID t u))) now =
        .error .invalidClaims := by
  apply validateRecoveryToken_of_scope
  simp [MapClaims.text, List.lookup_cons]

theorem validateRecoveryToken_wallet (accessTTL : Int) (wallet keyType : String) (t u now : Int) :
    validateRecoveryToken mac jwtSecret
      (.bearer (.of (issueWalletAccessToken mac jwtSecret accessTTL wallet keyType t u))) now =
        .error .invalidClaims := by
  apply validateRecoveryToken_of_scope
  simp [MapClaims.text, List.lookup_cons, scopeWallet]

end Validators

end LatchApi.Auth
