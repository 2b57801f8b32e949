import LatchApi.Nonce.Purpose

/-!
A nonce serves once, and only what it was issued for. The three flows bind their nonces to texts
that tell the flow and all its values apart, and taking a nonce removes it in the same command.
-/

namespace LatchApi.Nonce

open Lib Program Store Passkey WebAuthn
  Deploy
open List Lib.System Lib.Thread

abbrev History := Log FlowRes

def drawOf : Event FlowRes → Option Bytes
  | ⟨.store (.random _), bytes⟩ => some bytes
  | _ => none

def takeOf : Event FlowRes → Option (String × String)
  | ⟨.store (.takeNonce key), .ok value⟩ => some (key, value)
  | _ => none

def isIssue : Event FlowRes → Bool
  | ⟨.store (.setNonce _ _), _⟩ => true
  | _ => false

def drawn (h : History) : List Bytes := h.filterMap drawOf

def takes (h : History) : List (String × String) := h.filterMap takeOf

section Requests

variable (cfg : DeployConfig)

def Request.issues : Request → Option Purpose
  | .walletChallenge wallet keyType network =>
    (resolveNetwork cfg network).toOption.map (.signIn wallet keyType)
  | .deployChallenge keyRef keyType network => some (.deploy keyRef keyType network)
  | .lookupChallenge => some .lookup
  | _ => none

def Request.uses : Request → Option Purpose
  | .signIn input =>
    (resolveNetwork cfg input.network).toOption.map (.signIn input.wallet input.keyType)
  | .deployVerify input => some (.deploy input.keyRef input.keyType input.network)
  | .lookup _ => some .lookup
  | _ => none

def Request.nonceHex : Request → Option String
  | .signIn input => input.nonceB64URL.decode.map hexEncode
  | .deployVerify input => some input.nonceHex
  | .lookup input => some input.nonceHex
  | _ => none

def Request.nonce (req : Request) : Option Bytes := req.nonceHex.bind hexDecode

def discipline (req : Request) : Discipline FlowOp FlowRes where
  legal _ _ := True
  guard h
    | .store (.random _) => drawn h = []
    | .store (.setNonce key value) =>
      (∃ b ∈ drawn h, key = walletNoncePrefix ++ hexEncode b) ∧
        (∃ p, req.issues cfg = some p ∧ p.Valid ∧ value = p.binding) ∧ h.any isIssue = false
    | _ => True

def Ends (req : Request) (h : History) : Prop :=
  req.uses cfg = none ∧ req.nonceHex = none ∨ ∃ p text, req.uses cfg = some p ∧ p.Valid ∧ req.nonceHex = some text ∧
    (walletNoncePrefix ++ text, p.binding) ∈ takes h

end Requests

section Obeys

variable {cfg : DeployConfig} {req : Request} {h : History} {α : Type}

theorem ofProof_bind {β : Type} (p : ProofService α) (f : α → ProofService β) :
    ofProof (p >>= f) = ofProof p >>= fun a => ofProof (f a) := by
  induction p with
  | ok a => rfl
  | fail e => rfl
  | call op next ih => simp only [call_bind, ofProof, ih]

theorem ofProof_ofExcept (x : Except ProofError α) : ofProof (ofExcept x) = orProofError x := by
  cases x <;> rfl

theorem obeys_issueNonce {p : Purpose} (hissues : req.issues cfg = some p) (hvalid : p.Valid) :
    Obeys (discipline cfg req) [] (ofProof (issueNonce p.wallet p.keyType p.scope))
      (onOk fun _ _ => True) := by
  refine (obeys_call ..).mpr ⟨rfl, fun raw _ => (obeys_call ..).mpr ⟨⟨?_, ?_, rfl⟩, fun r _ => ?_⟩⟩
  · exact ⟨raw, mem_cons_self, rfl⟩
  · exact ⟨p, hissues, hvalid, rfl⟩
  cases r with
  | error e => exact .fail trivial
  | ok u => exact .ok trivial

theorem obeys_consumeNonce (text : String) (p : Purpose) :
    Obeys (discipline cfg req) h (ofProof (consumeNonce text p.wallet p.keyType p.scope))
      (onOk fun h' _ => (walletNoncePrefix ++ text, p.binding) ∈ takes h') := by
  refine (obeys_call ..).mpr ⟨trivial, fun r _ => ?_⟩
  rcases r with (_ | _) | stored
  · exact .fail trivial
  · exact .fail trivial
  change Obeys _ _ (ofProof (ofExcept (boundTo (bindNonce p.wallet p.keyType p.scope) stored))) _
  rw [ofProof_ofExcept]
  unfold boundTo
  split
  · rename_i heq
    subst heq
    exact .ok mem_cons_self
  · exact .fail trivial

theorem checkWallet_ok {wallet network : String} {keyType : WalletKeyType} {resolved : Network}
    (h : checkWallet cfg wallet keyType network = .ok resolved) :
    validWalletShape wallet keyType = true ∧
      (resolveNetwork cfg network).toOption = some resolved := by
  unfold checkWallet at h
  split_ifs at h with hshape
  refine ⟨by simpa using hshape, ?_⟩
  split at h
  · cases h
  rename_i network' hres
  rw [hres, Except.ok.inj h]
  rfl

variable {L : Libraries} {E : Ed25519Verify} (input : WalletSignInInput)

theorem obeys_walletChallenge (wallet : String) (keyType : WalletKeyType) (network : String) :
    Obeys (discipline cfg (.walletChallenge wallet keyType network)) []
      (walletChallenge cfg wallet keyType network) (onOk fun _ _ => True) := by
  refine obeys_ofExcept_bind fun resolved hcheck => ?_
  obtain ⟨hshape, hnet⟩ := checkWallet_ok hcheck
  have hissues : (Request.walletChallenge wallet keyType network).issues cfg =
      some (.signIn wallet keyType resolved) := by
    simp [Request.issues, hnet]
  refine (obeys_issueNonce hissues hshape).bind_onOk fun h' nonceHex _ => ?_
  cases hexDecode nonceHex with
  | none => exact .fail trivial
  | some nonce => exact .ok trivial

theorem obeys_verifyWallet (nonce : Bytes) :
    Obeys (discipline cfg req) h (verifyWallet L E cfg input nonce) (onOk fun h' _ => h ⊆ h') := by
  have hproof : ∀ {h' : History} (x : Except ProofError Unit), h ⊆ h' →
      Obeys (discipline cfg req) h' (orProofError x) (onOk fun h' _ => h ⊆ h') := by
    intro h' x hsub
    cases x with
    | ok a => exact .ok hsub
    | error e => exact .fail trivial
  unfold verifyWallet
  cases input.keyType with
  | ed25519 => exact hproof _ (Subset.refl _)
  | passkey =>
    refine (obeys_perform_then ..).mpr ⟨trivial, fun r _ => ?_⟩
    rcases r with (_ | _) | keys
    · exact .fail trivial
    · exact .fail trivial
    · exact hproof _ (subset_cons_self _ _)
  | other name => exact .fail trivial

theorem obeys_signIn : Obeys (discipline cfg (.signIn input)) [] (signIn L E cfg input)
      (onOk fun h' _ => Ends cfg (.signIn input) h') := by
  refine obeys_ofExcept_bind fun resolved hcheck => ?_
  obtain ⟨hshape, hnet⟩ := checkWallet_ok hcheck
  refine obeys_ofExcept_bind fun nonce hnonce => ?_
  have htext : (Request.signIn input).nonceHex = some (hexEncode nonce) := by
    unfold signInNonce at hnonce
    split at hnonce
    · cases hnonce
    rename_i nonce' hdecode
    split_ifs at hnonce
    rw [Request.nonceHex, hdecode, Except.ok.inj hnonce]
    rfl
  refine (obeys_consumeNonce (hexEncode nonce)
    (.signIn input.wallet input.keyType resolved)).bind_onOk fun h₁ _ htake => ?_
  refine (obeys_verifyWallet input nonce).bind_onOk fun h₂ _ hsub => ?_
  refine (obeys_perform_then ..).mpr ⟨trivial, fun r _ => ?_⟩
  cases r with
  | error e => exact .fail trivial
  | ok u =>
    refine .ok (.inr ⟨.signIn input.wallet input.keyType resolved, hexEncode nonce, ?_, hshape,
      htext, ?_⟩)
    · simp [Request.uses, hnet]
    · exact filterMap_subset _ (fun e he => mem_cons_of_mem _ (hsub he)) htake

theorem obeys_deployChallenge (keyRef : String) (keyType : KeyType) (network : Network) :
    Obeys (discipline cfg (.deployChallenge keyRef keyType network)) []
      (ofProof (proofChallenge keyRef keyType network)) (onOk fun _ _ => True) := by
  unfold proofChallenge
  rw [ofProof_bind, ofProof_ofExcept]
  refine obeys_orFail_bind fun _ hvalid => ?_
  rw [ofProof_bind]
  exact (@obeys_issueNonce cfg _ (.deploy keyRef keyType network) rfl hvalid).bind_onOk
    fun _ _ _ => .ok trivial

theorem obeys_deployVerify (input : DeployProofInput) :
    Obeys (discipline cfg (.deployVerify input)) [] (ofProof (proofVerify L E cfg input))
      (onOk fun h' _ => Ends cfg (.deployVerify input) h') := by
  unfold proofVerify
  rw [ofProof_bind, ofProof_ofExcept]
  refine obeys_orFail_bind fun _ hvalid => ?_
  rw [ofProof_bind]
  refine (obeys_consumeNonce input.nonceHex
    (.deploy input.keyRef input.keyType input.network)).bind_onOk fun h₁ _ htake => ?_
  rw [ofProof_bind, ofProof_ofExcept]
  refine obeys_orFail_bind fun nonce _ => ?_
  rw [ofProof_ofExcept]
  cases verifySignature L E cfg input nonce with
  | error e => exact .fail trivial
  | ok u => exact .ok (.inr ⟨_, input.nonceHex, rfl, hvalid, rfl, htake⟩)

theorem obeys_lookupChallenge :
    Obeys (discipline cfg .lookupChallenge) [] lookupChallenge (onOk fun _ _ => True) :=
  (@obeys_issueNonce cfg .lookupChallenge .lookup rfl trivial).bind_onOk fun _ _ _ => .ok trivial

theorem obeys_lookup (input : PasskeyLookup) :
    Obeys (discipline cfg (.lookup input)) [] (lookup L cfg input)
      (onOk fun h' _ => Ends cfg (.lookup input) h') := by
  unfold lookup
  rw [obeys_bind, obeys_attempt]
  refine (obeys_consumeNonce input.nonceHex .lookup).mono fun h₁ out hout => ?_
  cases out with
  | error e => exact .fail trivial
  | ok u =>
    refine (obeys_perform_then ..).mpr ⟨trivial, fun r _ => ?_⟩
    rcases r with (_ | _) | row
    · exact .fail trivial
    · exact .fail trivial
    · refine obeys_ofExcept_bind fun _ _ => .ok (.inr ⟨.lookup, input.nonceHex, rfl, trivial, rfl, ?_⟩)
      exact filterMap_subset _ (subset_cons_self _ _) hout

theorem obeys_body (L : Libraries) (E : Ed25519Verify) (cfg : DeployConfig) (req : Request) :
    Obeys (discipline cfg req) [] (body L E cfg req) (onOk fun h' _ => Ends cfg req h') := by
  cases req with
  | walletChallenge wallet keyType network =>
    exact (obeys_walletChallenge wallet keyType network).bind_onOk fun _ _ _ => .ok (.inl ⟨rfl, rfl⟩)
  | signIn input => exact (obeys_signIn input).bind_onOk fun _ _ hend => .ok hend
  | deployChallenge keyRef keyType network =>
    exact (obeys_deployChallenge keyRef keyType network).bind_onOk fun _ _ _ => .ok (.inl ⟨rfl, rfl⟩)
  | deployVerify input => exact (obeys_deployVerify input).bind_onOk fun _ _ hend => .ok hend
  | lookupChallenge =>
    exact obeys_lookupChallenge.bind_onOk fun _ _ _ => .ok (.inl ⟨rfl, rfl⟩)
  | lookup input => exact (obeys_lookup input).bind_onOk fun _ _ hend => .ok hend

end Obeys

variable {op : FlowOp}

section Exec

variable {draw : Nat → Bytes} {s : State} {ch : Choice}

theorem settle_nonces (s : Shared) (fault : Fault) (db : Option Db) :
    (settle s fault db).2.nonces = s.nonces := by
  unfold settle
  split <;> rfl

variable {e : String × String}

theorem mem_nonces_exec (h : e ∈ (exec draw op s ch).2.shared.nonces) :
    e ∈ s.shared.nonces ∨ op = .store (.setNonce e.1 e.2) := by
  cases op with
  | store op =>
    cases op with
    | write w =>
      simp only [exec, Store.exec, settle_nonces] at h
      exact .inl h
    | commit ws =>
      simp only [exec, Store.exec, settle_nonces] at h
      exact .inl h
    | setNonce key value =>
      simp only [exec, Store.exec] at h
      split at h
      · exact .inl h
      rcases mem_cons.mp h with rfl | h
      · exact .inr rfl
      · exact .inl h
    | takeNonce key =>
      simp only [exec, Store.exec] at h
      split at h
      · exact .inl (mem_filter.mp h).1
      split at h
      · exact .inl h
      · exact .inl (mem_filter.mp h).1
    | _ => exact .inl h
  | _ => exact .inl h

theorem mem_of_lookup {l : List (String × String)} {k v : String} (h : l.lookup k = some v) :
    (k, v) ∈ l := by
  obtain ⟨l₁, l₂, rfl, -⟩ := lookup_eq_some_iff.mp h
  exact mem_append_right _ mem_cons_self

theorem exec_take (h : takeOf ⟨op, (exec draw op s ch).1⟩ = some e) :
    e ∈ s.shared.nonces ∧ ∀ e' ∈ (exec draw op s ch).2.shared.nonces, e'.1 ≠ e.1 := by
  cases op with
  | store op =>
    cases op with
    | takeNonce key =>
      simp only [exec, Store.exec] at h ⊢
      split at h
      · rename_i hfault
        rw [if_pos hfault]
        cases hl : s.shared.nonces.lookup key with
        | none =>
          rw [hl] at h
          cases h
        | some value =>
          rw [hl] at h
          cases h
          refine ⟨mem_of_lookup hl, fun e' he' => ?_⟩
          simpa using (mem_filter.mp he').2
      · cases h
    | _ => cases h
  | _ => cases h

theorem exec_draw {b : Bytes} (h : drawOf ⟨op, (exec draw op s ch).1⟩ = some b) :
    (∃ n, op = .store (.random n)) ∧ b = draw s.drawn ∧ (exec draw op s ch).2.drawn = s.drawn + 1 := by
  cases op with
  | store op =>
    cases op with
    | random n => exact ⟨⟨n, rfl⟩, (Option.some.inj h).symm, rfl⟩
    | _ => cases h
  | _ => cases h

theorem drawn_le_exec : s.drawn ≤ (exec draw op s ch).2.drawn := by
  cases op with
  | store op =>
    cases op with
    | random n => exact Nat.le_succ _
    | _ => exact Nat.le_refl _
  | _ => exact Nat.le_refl _

end Exec

abbrev NonceThread := Thread Request FlowOp FlowRes FlowError Answer

abbrev NonceConfig := Config Request FlowOp FlowRes FlowError Answer State

def Issued (cfg : DeployConfig) (e : String × String) (t : NonceThread) : Prop :=
  t.history.any isIssue = true ∧ (∃ b ∈ drawn t.history, e.1 = walletNoncePrefix ++ hexEncode b) ∧
    ∃ p, t.request.issues cfg = some p ∧ p.Valid ∧ e.2 = p.binding

structure Sound (cfg : DeployConfig) (draw : Nat → Bytes) (c : NonceConfig) : Prop where
  drawn : ∀ t ∈ c.threads, ∀ b ∈ drawn t.history, ∃ i < c.state.drawn, b = draw i
  apart : c.threads.Pairwise fun t u => ∀ b ∈ Nonce.drawn t.history, b ∉ Nonce.drawn u.history
  issued : ∀ e ∈ c.state.shared.nonces, ∃ t ∈ c.threads, Issued cfg e t
  taken : ∀ u ∈ c.threads, ∀ e ∈ takes u.history,
    (∃ t ∈ c.threads, Issued cfg e t) ∧ ∀ e' ∈ c.state.shared.nonces, e'.1 ≠ e.1
  once : c.threads.Pairwise fun t u => ∀ e ∈ takes t.history, ∀ e' ∈ takes u.history, e.1 ≠ e'.1

variable {t : NonceThread} {next : FlowRes op → Program FlowOp FlowRes FlowError Answer}

section Runs

variable {cfg : DeployConfig} {draw : Nat → Bytes}

theorem Issued.advance {e : String × String} {r : FlowRes op} (h : Issued cfg e t) :
    Issued cfg e (t.advance op r next) := by
  obtain ⟨hissue, ⟨b, hb, hkey⟩, hp⟩ := h
  refine ⟨?_, ⟨b, filterMap_subset _ (subset_cons_self _ _) hb, hkey⟩, hp⟩
  rw [advance_history, any_cons, hissue, Bool.or_true]

theorem nonceKey_inj {text text' : String}
    (h : walletNoncePrefix ++ text = walletNoncePrefix ++ text') : text = text' := by
  have hlist := congrArg String.toList h
  rw [String.toList_append, String.toList_append, append_cancel_left_eq] at hlist
  exact String.toList_inj.mp hlist

theorem Sound.act {s : State} {before after : List NonceThread} (ch : Choice)
    (hdraw : Function.Injective draw) (hg : (discipline cfg t.request).guard t.history op)
    (h : Sound cfg draw ⟨s, before ++ t :: after⟩) :
    Sound cfg draw ⟨(exec draw op s ch).2,
      before ++ t.advance op (exec draw op s ch).1 next :: after⟩ := by
  have ht : t ∈ before ++ t :: after := by simp
  have hkeep : ∀ {e : String × String}, (∃ u ∈ before ++ t :: after, Issued cfg e u) →
      ∃ u ∈ before ++ t.advance op (exec draw op s ch).1 next :: after, Issued cfg e u := by
    intro e he
    exact exists_advanced he (fun _ h => h) Issued.advance
  -- an entry that is being issued was not issued before: its nonce is the request's own
  have hfresh : ∀ {e : String × String}, op = .store (.setNonce e.1 e.2) →
      ∀ e', (∃ u ∈ before ++ t :: after, Issued cfg e' u) → e.1 ≠ e'.1 := by
    rintro e rfl e' ⟨u, hu, hissue, ⟨b, hb, hkey⟩, -⟩ heq
    obtain ⟨⟨b', hb', hkey'⟩, -, hnot⟩ := hg
    rw [hkey, hkey'] at heq
    obtain rfl := hexEncode_injective (nonceKey_inj heq)
    rcases mem_advanced hu with rfl | hu
    · rw [hissue] at hnot
      cases hnot
    · refine of_pairwise ?_ h.apart hu b' hb' hb
      exact fun hR b hb hb' => hR b hb' hb
  refine ⟨?_, ?_, ?_, ?_, ?_⟩
  · refine forall_advanced h.drawn (fun u hu b hb => ?_) (fun b hb => ?_)
    · obtain ⟨i, hi, rfl⟩ := hu b hb
      exact ⟨i, Nat.lt_of_lt_of_le hi drawn_le_exec, rfl⟩
    rcases mem_view_advance hb with hb | hnew
    · obtain ⟨i, hi, rfl⟩ := h.drawn t ht b hb
      exact ⟨i, Nat.lt_of_lt_of_le hi drawn_le_exec, rfl⟩
    · obtain ⟨-, rfl, hnext⟩ := exec_draw hnew
      exact ⟨s.drawn, hnext ▸ Nat.lt_succ_self _, rfl⟩
  · refine pairwise_advanced (fun hR b hb hb' => hR b hb' hb) h.apart ?_
    intro u hu hR b hb hbu
    rcases mem_view_advance hb with hb | hnew
    · exact hR b hb hbu
    -- a new draw differs from all earlier ones
    obtain ⟨-, rfl, -⟩ := exec_draw hnew
    obtain ⟨i, hi, heq⟩ := h.drawn u (mem_of_others hu) _ hbu
    exact absurd (hdraw heq) (Nat.ne_of_gt hi)
  · intro e he
    rcases mem_nonces_exec he with he | rfl
    · exact hkeep (h.issued e he)
    obtain ⟨⟨b, hb, hkey⟩, hp, -⟩ := hg
    refine ⟨_, mem_append_right _ mem_cons_self, ?_, ⟨b, ?_, hkey⟩, hp⟩
    · rfl
    · exact filterMap_subset _ (subset_cons_self _ _) hb
  · have hold : ∀ u ∈ before ++ t :: after, ∀ e ∈ takes u.history,
        (∃ w ∈ before ++ t.advance op (exec draw op s ch).1 next :: after, Issued cfg e w) ∧
          ∀ e' ∈ (exec draw op s ch).2.shared.nonces, e'.1 ≠ e.1 := by
      intro u hu e he
      obtain ⟨hissued, hgone⟩ := h.taken u hu e he
      refine ⟨hkeep hissued, fun e' he' => ?_⟩
      rcases mem_nonces_exec he' with he' | hset
      · exact hgone e' he'
      · exact hfresh hset e hissued
    refine forall_advanced hold (fun _ h => h) fun e he => ?_
    rcases mem_view_advance he with he | hnew
    · exact hold t ht e he
    · obtain ⟨hthere, hgone⟩ := exec_take hnew
      exact ⟨hkeep (h.issued e hthere), hgone⟩
  · refine pairwise_advanced (fun hR e he e' he' heq => hR e' he' e he heq.symm) h.once ?_
    intro u hu hR e he e' he' heq
    rcases mem_view_advance he with he | hnew
    · exact hR e he e' he' heq
    · obtain ⟨hthere, -⟩ := exec_take hnew
      exact (h.taken u (mem_of_others hu) e' he').2 e hthere heq

variable {L : Libraries} {E : Ed25519Verify} {db : Db} {c : NonceConfig}
  {allow : System.Schedule Request FlowOp FlowRes FlowError Answer State}

theorem sound_of_reachable (hdraw : Function.Injective draw)
    (hc : (nonceSystem L E cfg draw).Reachable allow ⟨⟨db, []⟩, 0⟩ c) : Sound cfg draw c := by
  refine Reachable.invariant (discipline cfg) (Sound cfg draw)
    (fun req => (obeys_body L E cfg req).mono fun _ _ _ => trivial) (fun _ _ _ _ => trivial)
    ?_ ?_ ?_ ?_ hc
  · constructor <;> simp
  · intro s ts req h
    have hkeep : ∀ {e : String × String}, (∃ t ∈ ts, Issued cfg e t) →
        ∃ t ∈ ts ++ [⟨req, [], body L E cfg req⟩], Issued cfg e t :=
      fun ⟨t, ht, h⟩ => ⟨t, mem_append_left _ ht, h⟩
    refine ⟨forall_arrived h.drawn (by simp [drawn]), ?_, fun e he => hkeep (h.issued e he),
      forall_arrived (fun u hu e he => ?_) (by simp [takes]), ?_⟩
    · exact pairwise_arrived h.apart fun t _ b _ => not_mem_nil
    · exact ⟨hkeep (h.taken u hu e he).1, (h.taken u hu e he).2⟩
    · refine pairwise_arrived h.once fun t _ e _ e' he' => ?_
      cases he'
  · intro s s' ts key he h
    cases he
    refine ⟨h.drawn, h.apart, fun e he => h.issued e (mem_filter.mp he).1,
      fun u hu e he => ⟨(h.taken u hu e he).1, fun e' he' => ?_⟩, h.once⟩
    exact (h.taken u hu e he).2 e' (mem_filter.mp he').1
  · exact fun s before after t op next ch _ _ hg h => h.act ch hdraw hg

def SucceededWith (nonce : Bytes) (t : NonceThread) : Prop :=
  t.succeeded = true ∧ t.request.nonce = some nonce

theorem ends_of_reachable (hc : (nonceSystem L E cfg draw).Reachable allow ⟨⟨db, []⟩, 0⟩ c)
    (ht : t ∈ c.threads) (hs : t.succeeded = true) :
    Ends cfg t.request t.history := by
  obtain ⟨a, ha⟩ := exists_of_succeeded hs
  exact hc.ended (discipline cfg) (obeys_body L E cfg) (fun _ _ _ _ => trivial) ht ha

theorem issued_of_succeeded (hdraw : Function.Injective draw)
    (hc : (nonceSystem L E cfg draw).Reachable allow ⟨⟨db, []⟩, 0⟩ c) (ht : t ∈ c.threads)
    (hs : t.succeeded = true) {p : Purpose} (huses : t.request.uses cfg = some p) :
    ∃ nonce, t.request.nonce = some nonce ∧
      (walletNoncePrefix ++ hexEncode nonce, p.binding) ∈ takes t.history ∧
      ∃ u ∈ c.threads, u.request.issues cfg = some p ∧ nonce ∈ drawn u.history := by
  rcases ends_of_reachable hc ht hs with ⟨hnone, -⟩ | ⟨p', text, huses', hvalid, htext, htake⟩
  · rw [huses] at hnone
    cases hnone
  rw [huses] at huses'
  cases huses'
  obtain ⟨⟨u, hu, -, ⟨b, hb, hkey⟩, q, hq, hqvalid, hbinding⟩, -⟩ :=
    (sound_of_reachable hdraw hc).taken t ht _ htake
  obtain rfl := nonceKey_inj hkey
  obtain rfl := Purpose.binding_inj hvalid hqvalid hbinding
  refine ⟨b, ?_, htake, u, hu, hq, hb⟩
  rw [Request.nonce, htext, Option.bind_some, hexDecode_hexEncode]

theorem uses_of_nonce {nonce : Bytes}
    (hc : (nonceSystem L E cfg draw).Reachable allow ⟨⟨db, []⟩, 0⟩ c) (ht : t ∈ c.threads)
    (hs : SucceededWith nonce t) : ∃ p, t.request.uses cfg = some p := by
  rcases ends_of_reachable hc ht hs.1 with ⟨-, hnone⟩ | ⟨p, -, huses, -⟩
  · have hnonce := hs.2
    rw [Request.nonce, hnone] at hnonce
    cases hnonce
  · exact ⟨p, huses⟩

/-- In every run, of all verifications of the three flows one at most succeeds with a nonce, and one
that succeeds does so with a nonce that a challenge of the same flow issued for the same values. -/
theorem nonce_serves_its_purpose_once (L : Libraries) (E : Ed25519Verify) (cfg : DeployConfig)
    (draw : Nat → Bytes) (hdraw : Function.Injective draw) (db : Db) (c : NonceConfig)
    (hc : (nonceSystem L E cfg draw).Reachable System.anySchedule ⟨⟨db, []⟩, 0⟩ c) :
    (∀ nonce, c.threads.Pairwise fun t u => ¬ (SucceededWith nonce t ∧ SucceededWith nonce u)) ∧
      ∀ t ∈ c.threads, t.succeeded = true → ∀ p, t.request.uses cfg = some p →
        ∃ nonce, t.request.nonce = some nonce ∧
          ∃ u ∈ c.threads, u.request.issues cfg = some p ∧ nonce ∈ drawn u.history := by
  constructor
  · intro nonce
    have htake : ∀ t ∈ c.threads, SucceededWith nonce t →
        ∃ v, (walletNoncePrefix ++ hexEncode nonce, v) ∈ takes t.history := by
      intro t ht hs
      obtain ⟨p, huses⟩ := uses_of_nonce hc ht hs
      obtain ⟨nonce', hnonce, htaken, -⟩ := issued_of_succeeded hdraw hc ht hs.1 huses
      rw [hs.2] at hnonce
      cases hnonce
      exact ⟨_, htaken⟩
    refine (sound_of_reachable hdraw hc).once.imp_of_mem fun ht hu hR hboth => ?_
    obtain ⟨v, hv⟩ := htake _ ht hboth.1
    obtain ⟨v', hv'⟩ := htake _ hu hboth.2
    exact hR _ hv _ hv' rfl
  · intro t ht hs p huses
    obtain ⟨nonce, hnonce, -, hissued⟩ := issued_of_succeeded hdraw hc ht hs huses
    exact ⟨nonce, hnonce, hissued⟩

end Runs

namespace Sample

def config : DeployConfig := ⟨some .testnet, []⟩

def draw (i : Nat) : Bytes := List.replicate (i + 32) 0

theorem draw_injective : Function.Injective draw := by
  intro i j h
  have hlen := congrArg length h
  simpa [draw] using hlen

def publicKey : Bytes := List.replicate 32 1

def gAddress : String := strkeyEncode versionAccount publicKey

def proof : DeployProofInput :=
  ⟨gAddress, .delegated, .testnet, hexEncode (draw 0), ⟨[], [], publicKey ++ draw 0⟩⟩

def challengedAndProved : List (System.Move Request Choice String) :=
  [.arrive (.deployChallenge gAddress .delegated .testnet), .act 0 {}, .act 0 {},
    .arrive (.deployVerify proof), .arrive (.deployVerify proof), .act 1 {}, .act 2 {}]

theorem proved_once :
    ∃ c, (nonceSystem noLibraries Deploy.Sample.keyed config draw).Reachable System.anySchedule
        ⟨⟨Db.empty, []⟩, 0⟩ c ∧
      c.threads.map Thread.succeeded = [true, true, false] ∧
      (∀ nonce, c.threads.Pairwise fun t u => ¬ (SucceededWith nonce t ∧ SucceededWith nonce u)) ∧
      ∀ t ∈ c.threads, t.succeeded = true → ∀ p, t.request.uses config = some p →
        ∃ nonce, t.request.nonce = some nonce ∧
          ∃ u ∈ c.threads, u.request.issues config = some p ∧ nonce ∈ drawn u.history := by
  refine exists_reachable_and challengedAndProved ?_ fun c hrun _ =>
    nonce_serves_its_purpose_once noLibraries Deploy.Sample.keyed config draw draw_injective Db.empty c hrun
  decide +kernel

end Sample

end LatchApi.Nonce
