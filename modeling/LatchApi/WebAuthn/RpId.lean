import LatchApi.WebAuthn.AuthData
import Mathlib.Data.List.Infix

namespace LatchApi.WebAuthn

open Lib

structure WebAuthnConfig where
  rpID : String
  origin : String
  allowedExtensionIDs : List String
  isDevelopment : Bool
  devTrustRequestHost : Bool
  allowedDevOrigins : List String
deriving DecidableEq

inductive RpIdError where
  | extensionIDConflict
  | extensionIDNotAllowed
  | clientDataOriginMismatch
deriving DecidableEq

def RpIdError.message : RpIdError → String
  | .extensionIDConflict => "conflicting chrome extension id sources"
  | .extensionIDNotAllowed => "chrome extension id not allowlisted"
  | .clientDataOriginMismatch => "clientData origin does not match challenge origin"

def isValidChromeExtensionID (s : String) : Bool :=
  s.length == 32 && s.toList.all fun c => decide ('a' ≤ c ∧ c ≤ 'p')

def parseChromeExtensionIDFromURL (L : Libraries) (rawURL : String) : Option String :=
  if rawURL = "" then none
  else
    match L.parseUrl rawURL with
    | none => none
    | some u =>
      if u.scheme = "chrome-extension" ∧ isValidChromeExtensionID u.host then some u.host else none

def chromeExtensionRPIDCandidates (bareID : String) : List String :=
  [bareID, "chrome-extension://" ++ bareID]

def resolveExtensionIDFrom (found : Option String) : List String → Except RpIdError (Option String)
  | [] => .ok found
  | c :: cs =>
    if c = "" ∨ !isValidChromeExtensionID c then resolveExtensionIDFrom found cs
    else
      match found with
      | none => resolveExtensionIDFrom (some c) cs
      | some f =>
        if f ≠ c then .error .extensionIDConflict else resolveExtensionIDFrom found cs

def resolveExtensionID (candidatesInPriorityOrder : List String) :
    Except RpIdError (Option String) :=
  resolveExtensionIDFrom none candidatesInPriorityOrder

def addCandidate (out : List String) (c : String) : List String :=
  if c = "" ∨ c ∈ out then out else out ++ [c]

def dedupe (L : Libraries) (candidates : List String) : List String :=
  candidates.foldl (fun out c =>
    match parseChromeExtensionIDFromURL L c with
    | some id => (chromeExtensionRPIDCandidates id).foldl addCandidate out
    | none => addCandidate out c) []

structure CeremonyBeginInput where
  chromeExtensionIDFromBody : String
  extensionIDHeader : String
  originHeader : String
  refererHeader : String
  requestHost : String

def stripPort (hostport : String) : String :=
  String.ofList (hostport.toList.takeWhile (· ≠ ':'))

def isLocalOrigin (origin : String) : Bool :=
  decide ("localhost".toList <:+: origin.toList) || decide ("127.0.0.1".toList <:+: origin.toList)

def isLocalHost (host : String) : Bool :=
  stripPort host == "localhost" || stripPort host == "127.0.0.1"

def containsHost (allowed : List String) (host : String) : Bool :=
  allowed.any fun a => stripPort a == stripPort host || a == host

def resolveWebRPIDAndOrigin (cfg : WebAuthnConfig) (requestHost : String) : String × String :=
  if requestHost ≠ "" ∧ cfg.isDevelopment ∧ isLocalOrigin cfg.origin ∧ !isLocalHost requestHost ∧
      (cfg.devTrustRequestHost ∨ containsHost cfg.allowedDevOrigins requestHost) then
    (stripPort requestHost, "http://" ++ requestHost)
  else (cfg.rpID, cfg.origin)

def resolveCeremonyContext (L : Libraries) (input : CeremonyBeginInput) (cfg : WebAuthnConfig) :
    Except RpIdError (String × String) := do
  let refererExtID := (parseChromeExtensionIDFromURL L input.refererHeader).getD ""
  let originExtID := (parseChromeExtensionIDFromURL L input.originHeader).getD ""
  match ← resolveExtensionID
      [input.chromeExtensionIDFromBody, input.extensionIDHeader, originExtID, refererExtID] with
  | some extID => return (cfg.rpID, "chrome-extension://" ++ extID)
  | none => return resolveWebRPIDAndOrigin cfg input.requestHost

structure CeremonyFinishInput where
  chromeExtensionIDFromBody : String
  extensionIDHeader : String
  clientDataOrigin : String

structure StoredChallengeContext where
  rpID : String
  origin : String

structure FinishVerification where
  expectedOrigin : String
  expectedRPIDs : List String

def resolveFinishVerification (L : Libraries) (input : CeremonyFinishInput)
    (challenge : StoredChallengeContext) (cfg : WebAuthnConfig) :
    Except RpIdError FinishVerification := do
  let clientDataExtID := parseChromeExtensionIDFromURL L input.clientDataOrigin
  match ← resolveExtensionID
      [input.chromeExtensionIDFromBody, input.extensionIDHeader, clientDataExtID.getD ""] with
  | some extID =>
    if extID ∉ cfg.allowedExtensionIDs then throw .extensionIDNotAllowed
    return ⟨"chrome-extension://" ++ extID, dedupe L [cfg.rpID]⟩
  | none =>
    match clientDataExtID with
    | some id =>
      if id ∉ cfg.allowedExtensionIDs then throw .extensionIDNotAllowed
      return ⟨"chrome-extension://" ++ id, dedupe L [cfg.rpID]⟩
    | none =>
      if input.clientDataOrigin ≠ challenge.origin then throw .clientDataOriginMismatch
      return ⟨challenge.origin, dedupe L [challenge.rpID, challenge.origin]⟩

end LatchApi.WebAuthn
