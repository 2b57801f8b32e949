import LatchApi.Auth.Tokens

namespace LatchApi.Auth

open Lib

inductive Method where
  | get
  | post
  | put
  | delete
deriving DecidableEq

inductive Guard where
  | requireAuth
  | recoveryToken
  | none
deriving DecidableEq

structure Route where
  method : Method
  path : String
  guard : Guard
deriving DecidableEq

structure Services where
  transaction : Bool
  smartAccount : Bool
deriving DecidableEq

def group (path : String) (guard : Guard) (routes : List (Method × String)) : List Route :=
  routes.map fun r => ⟨r.1, "/v1" ++ path ++ r.2, guard⟩

def transactionRoutes : List Route :=
  group "/transaction" .requireAuth
    [(.get, "/bundler"), (.post, "/submit"), (.post, "/build-send"), (.post, "/build-swap")] ++
  group "/smart-account/backup-signer" .requireAuth
    [(.post, "/confirm-add"), (.post, "/confirm-remove")]

def smartAccountRoutes : List Route :=
  group "/smart-account" .none
    [(.post, "/challenge"), (.post, "/ed25519"), (.post, "/webauthn"), (.post, "/g-address"),
      (.post, "/multisig")] ++
  group "/passkey-credentials" .none [(.post, "/challenge"), (.post, "/lookup")]

def v1Routes (services : Services) : List Route :=
  group "/auth" .none
    [(.post, "/register"), (.post, "/verify"), (.post, "/challenge"), (.post, "/sign-in"),
      (.post, "/refresh")] ++
  group "/auth" .requireAuth [(.post, "/logout")] ++
  group "/backup" .requireAuth [(.post, ""), (.put, ""), (.get, "")] ++
  group "/recovery" .none [(.post, "/initiate"), (.post, "/verify")] ++
  group "/recovery" .recoveryToken [(.get, "/blob")] ++
  group "" .none [(.get, "/prices"), (.post, "/prices/lookup")] ++
  group "" .requireAuth [(.get, "/history")] ++
  group "/cosign/requests" .requireAuth
    [(.post, ""), (.get, ""), (.get, "/:id"), (.post, "/:id/signatures"),
      (.post, "/:id/submission"), (.delete, "/:id")] ++
  group "/wck-bundles" .requireAuth [(.put, "/:pickup_key"), (.get, "/:pickup_key")] ++
  group "/push-tokens" .requireAuth [(.post, ""), (.delete, "/:token")] ++
  group "/devices" .requireAuth [(.post, ""), (.delete, "/:token")] ++
  group "/notifications" .requireAuth
    [(.get, ""), (.get, "/unread-count"), (.post, "/read-all"), (.post, "/:id/read")] ++
  group "/memberships" .requireAuth [(.post, ""), (.get, "")] ++
  group "/accounts" .requireAuth
    [(.post, "/register"), (.get, ""), (.post, "/deposit-intent"),
      (.get, "/deposit/status/:memo_id")] ++
  (if services.transaction then transactionRoutes else []) ++
  (if services.smartAccount then smartAccountRoutes else [])

/-- The subject a request is taken to come from once it is past the route's authentication. A route
that asks for none gives no subject. -/
def authenticate (mac : Mac) (jwtSecret : String) (route : Route) (header : AuthHeader) (now : Int) :
    Option String :=
  match route.guard with
  | .requireAuth => (requireAuth mac jwtSecret header now).toOption.map Identity.userID
  | .recoveryToken => (validateRecoveryToken mac jwtSecret header now).toOption
  | .none => none

def Route.IsRecoveryBlob (route : Route) : Prop :=
  route.method = .get ∧ route.path = "/v1/recovery/blob"

instance (route : Route) : Decidable route.IsRecoveryBlob := by
  unfold Route.IsRecoveryBlob; infer_instance

theorem guard_recoveryToken_iff (services : Services) :
    ∀ route ∈ v1Routes services, route.guard = .recoveryToken ↔ route.IsRecoveryBlob := by
  rcases services with ⟨transaction, smartAccount⟩
  cases transaction <;> cases smartAccount <;> decide +kernel

/-- The recovery scope keeps other tokens away from the blob, and nothing keeps a live recovery
token away from the routes behind `RequireAuth`. -/
theorem recovery_confined_iff (mac : Mac) (jwtSecret : String) (accessTTL : Int)
    (services : Services) (route : Route) (hr : route ∈ v1Routes services) (userID : String)
    (ttl t u now : Int) :
    (((authenticate mac jwtSecret route
          (.bearer (.of (issueRecoveryToken mac jwtSecret userID ttl t u))) now).isSome →
        route.IsRecoveryBlob) ∧
      (∀ id t' u' now', validateRecoveryToken mac jwtSecret
        (.bearer (.of (issueAccessToken mac jwtSecret accessTTL id t' u'))) now' =
          .error .invalidClaims) ∧
      ∀ wallet keyType t' u' now', validateRecoveryToken mac jwtSecret
        (.bearer (.of (issueWalletAccessToken mac jwtSecret accessTTL wallet keyType t' u'))) now' =
          .error .invalidClaims) ↔
      route.guard ≠ .requireAuth ∨ userID = "" ∨ Expired (t + ttl) now := by
  have hblob := guard_recoveryToken_iff services route hr
  constructor
  · rintro ⟨hconfined, -, -⟩
    by_contra hlive
    push Not at hlive
    obtain ⟨hguard, hid, hexp⟩ := hlive
    have hpass : (authenticate mac jwtSecret route
        (.bearer (.of (issueRecoveryToken mac jwtSecret userID ttl t u))) now).isSome := by
      simp [authenticate, hguard, requireAuth_recovery, hexp, hid, Except.toOption]
    have hrec := hblob.mpr (hconfined hpass)
    rw [hguard] at hrec
    cases hrec
  · intro h
    refine ⟨?_, validateRecoveryToken_access mac jwtSecret accessTTL,
      validateRecoveryToken_wallet mac jwtSecret accessTTL⟩
    intro hpass
    cases hg : route.guard with
    | recoveryToken => exact hblob.mp hg
    | none => simp [authenticate, hg] at hpass
    | requireAuth =>
      simp only [authenticate, hg, requireAuth_recovery] at hpass
      rcases h with h | h | h
      · exact absurd hg h
      · by_cases he : Expired (t + ttl) now <;> simp [h, he, Except.toOption] at hpass
      · simp [h, Except.toOption] at hpass

namespace Sample

def recoveryToken : Jwt :=
  issueRecoveryToken (fun _ _ _ => [7]) "secret" "user-42" 900000000000 1700000000000000000
    1700000000000000000

def storeBackup : Route := ⟨.put, "/v1/backup", .requireAuth⟩

theorem recovery_token_stores_backup : storeBackup ∈ v1Routes ⟨false, false⟩ ∧
      authenticate (fun _ _ _ => [7]) "secret" storeBackup (.bearer (.of recoveryToken))
        1700000001000000000 = some "user-42" ∧
      ¬ storeBackup.IsRecoveryBlob := by
  decide +kernel

theorem expired_recovery_token_confined :
    (authenticate (fun _ _ _ => [7]) "secret" storeBackup (.bearer (.of recoveryToken))
      1700000900000000000).isSome = false ∨ storeBackup.IsRecoveryBlob := by
  have hconfined := ((recovery_confined_iff (fun _ _ _ => [7]) "secret" 0 ⟨false, false⟩ storeBackup
    (by decide +kernel) "user-42" 900000000000 1700000000000000000 1700000000000000000
    1700000900000000000).mpr (.inr (.inr (by decide)))).1
  cases hauth : (authenticate (fun _ _ _ => [7]) "secret" storeBackup
      (.bearer (.of recoveryToken)) 1700000900000000000).isSome with
  | false => exact .inl rfl
  | true => exact .inr (hconfined hauth)

end Sample

end LatchApi.Auth
