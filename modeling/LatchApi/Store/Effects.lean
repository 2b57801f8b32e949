import LatchApi.Store.Ops

namespace LatchApi.Store

open Lib Option Lib.Table

variable {db db' : Db} {w : Write} {ws : List Write} {c : String}

def Db.StoresKey (db : Db) (credentialID : String) (key : Bytes) : Prop :=
  ∃ r ∈ db.credentials.rows, r.credentialID = credentialID ∧ r.p256RawPublicKey = key

def Db.HasProved (db : Db) (sessionID : Uuid) (credentialID : String) : Prop :=
  ∃ r ∈ db.proved.rows, r.sessionID = sessionID ∧ r.credentialID = credentialID

def Db.storedCredential (db : Db) (c : String) : Option CredentialRow :=
  db.credentials.find fun r => r.credentialID == c

def Write.onCredential (c : String) (v : Option CredentialRow) : Write → Option CredentialRow
  | .upsertWebauthnCredential row => if row.credentialID = c then some (v.elim row row.overwrite) else v
  | .updateWebauthnCredentialSignCount c' n =>
    v.map fun r => if c' = c then { r with signCount := n } else r
  | _ => v

theorem storedCredential_of_apply (h : w.apply db = some db') (c : String) :
    db'.storedCredential c = w.onCredential c (db.storedCredential c) := by
  cases w with
  | upsertWebauthnCredential row =>
    obtain ⟨t, ht, rfl⟩ := map_eq_some_iff.mp h
    exact find_upsert ht c
  | updateWebauthnCredentialSignCount credentialID n =>
    cases h
    simp only [Db.storedCredential, Write.onCredential]
    rw [find_update]
    refine map_congr fun r hr => ?_
    have hc : r.credentialID = c := by simpa using (mem_of_find hr).2
    simp only [hc, beq_iff_eq, eq_comm (a := credentialID)]
  | insertWebappUser | insertWebappSession | insertWebauthnChallenge | upsertSmartAccount
  | insertSessionProvedCredential | upsertPasskeyCredential =>
    obtain ⟨t, -, rfl⟩ := map_eq_some_iff.mp h
    rfl
  | deleteWebauthnChallenge | relinkMultisigMembersByCredential
  | deleteSessionProvedCredentialsExcept | deleteSessionProvedCredentials =>
    cases h
    rfl

variable {key : Bytes}

theorem storesKey_iff : db.StoresKey c key ↔
    ∃ r, db.storedCredential c = some r ∧ r.p256RawPublicKey = key := by
  constructor
  · rintro ⟨r, hr, hc, hk⟩
    cases hfind : db.storedCredential c with
    | none => exact absurd hc (fun hc => find_none_iff.mp hfind (List.mem_map.mpr ⟨r, hr, hc⟩))
    | some r' =>
      obtain ⟨hr', hc'⟩ := mem_of_find hfind
      obtain rfl := eq_of_uk_eq hr' hr ((beq_iff_eq.mp hc').trans hc.symm)
      exact ⟨r', rfl, hk⟩
  · rintro ⟨r, hfind, hk⟩
    obtain ⟨hr, hc⟩ := mem_of_find hfind
    exact ⟨r, hr, beq_iff_eq.mp hc, hk⟩

theorem storesKey_of_apply (h : w.apply db = some db') (hs : db'.StoresKey c key) :
    db.StoresKey c key ∨ ∃ row, w = .upsertWebauthnCredential row ∧ row.credentialID = c ∧
      row.p256RawPublicKey = key := by
  obtain ⟨r, hr, hk⟩ := storesKey_iff.mp hs
  rw [storedCredential_of_apply h] at hr
  cases w with
  | upsertWebauthnCredential row =>
    by_cases hc : row.credentialID = c
    · refine .inr ⟨row, rfl, hc, ?_⟩
      rw [Write.onCredential, if_pos hc] at hr
      cases hv : db.storedCredential c <;> (rw [hv] at hr; cases hr; exact hk)
    · rw [Write.onCredential, if_neg hc] at hr
      exact .inl (storesKey_iff.mpr ⟨r, hr, hk⟩)
  | updateWebauthnCredentialSignCount credentialID n =>
    obtain ⟨r₀, hr₀, rfl⟩ := map_eq_some_iff.mp hr
    refine .inl (storesKey_iff.mpr ⟨r₀, hr₀, ?_⟩)
    split at hk <;> exact hk
  | _ => exact .inl (storesKey_iff.mpr ⟨r, hr, hk⟩)

theorem applyAll_origin {P : Db → Prop} {E : Write → Prop}
    (hstep : ∀ db db' w, w.apply db = some db' → P db' → P db ∨ E w)
    (h : applyAll db ws = some db') (hP : P db') : P db ∨ ∃ w ∈ ws, E w := by
  induction ws generalizing db with
  | nil =>
    cases h
    exact .inl hP
  | cons w ws ih =>
    obtain ⟨db₁, hw, hws⟩ := bind_eq_some_iff.mp h
    rcases ih hws with h₁ | ⟨w', hw', hE⟩
    · rcases hstep db db₁ w hw h₁ with h₀ | hE
      · exact .inl h₀
      · exact .inr ⟨w, List.mem_cons_self, hE⟩
    · exact .inr ⟨w', List.mem_cons_of_mem _ hw', hE⟩

theorem storesKey_of_applyAll (h : applyAll db ws = some db') (hs : db'.StoresKey c key) :
    db.StoresKey c key ∨ ∃ row, .upsertWebauthnCredential row ∈ ws ∧ row.credentialID = c ∧
      row.p256RawPublicKey = key := by
  rcases applyAll_origin (fun _ _ _ hw hs => storesKey_of_apply hw hs) h hs with hs | ⟨w, hw, row, rfl, hrow⟩
  · exact .inl hs
  · exact .inr ⟨row, hw, hrow⟩

theorem hasProved_of_apply {session : Uuid} (h : w.apply db = some db')
    (hs : db'.HasProved session c) :
    db.HasProved session c ∨ ∃ row, w = .insertSessionProvedCredential row ∧
      row.sessionID = session ∧ row.credentialID = c := by
  obtain ⟨r', hr', hsess, hc⟩ := hs
  cases w with
  | insertSessionProvedCredential row =>
    obtain ⟨t, ht, rfl⟩ := map_eq_some_iff.mp h
    rcases (mem_upsert ht).mp hr' with ⟨hr, -⟩ | ⟨r, hr, -, rfl⟩ | ⟨rfl, -⟩
    · exact .inl ⟨r', hr, hsess, hc⟩
    · exact .inl ⟨r, hr, hsess, hc⟩
    · exact .inr ⟨r', rfl, hsess, hc⟩
  | deleteSessionProvedCredentialsExcept | deleteSessionProvedCredentials =>
    cases h
    exact .inl ⟨r', (mem_delete.mp hr').1, hsess, hc⟩
  | insertWebappUser | insertWebappSession | insertWebauthnChallenge | upsertSmartAccount
  | upsertWebauthnCredential | upsertPasskeyCredential =>
    obtain ⟨t, -, rfl⟩ := map_eq_some_iff.mp h
    exact .inl ⟨r', hr', hsess, hc⟩
  | deleteWebauthnChallenge | relinkMultisigMembersByCredential
  | updateWebauthnCredentialSignCount =>
    cases h
    exact .inl ⟨r', hr', hsess, hc⟩

theorem hasProved_of_applyAll {session : Uuid} (h : applyAll db ws = some db')
    (hs : db'.HasProved session c) :
    db.HasProved session c ∨ ∃ row, .insertSessionProvedCredential row ∈ ws ∧
      row.sessionID = session ∧ row.credentialID = c := by
  rcases applyAll_origin (fun _ _ _ hw hs => hasProved_of_apply hw hs) h hs with hs | ⟨w, hw, row, rfl, hrow⟩
  · exact .inl hs
  · exact .inr ⟨row, hw, hrow⟩

theorem stored_of_apply (h : w.apply db = some db') (hs : (∃ key, db.StoresKey c key) ∨
      ∃ row, w = .upsertWebauthnCredential row ∧ row.credentialID = c) :
    ∃ key, db'.StoresKey c key := by
  have hstored : ∀ db : Db, (∃ key, db.StoresKey c key) ↔ (db.storedCredential c).isSome := by
    simp [storesKey_iff, isSome_iff_exists]
  rw [hstored] at hs ⊢
  rw [storedCredential_of_apply h]
  cases w with
  | upsertWebauthnCredential row =>
    by_cases hc : row.credentialID = c
    · rw [Write.onCredential, if_pos hc]
      rfl
    · rw [Write.onCredential, if_neg hc]
      refine hs.resolve_right ?_
      rintro ⟨_, ⟨⟩, hc'⟩
      exact hc hc'
  | updateWebauthnCredentialSignCount credentialID n =>
    rw [Write.onCredential, isSome_map]
    exact hs.resolve_right fun ⟨_, he, _⟩ => nomatch he
  | _ => exact hs.resolve_right fun ⟨_, he, _⟩ => nomatch he

theorem stored_of_applyAll (h : applyAll db ws = some db') (hs : (∃ key, db.StoresKey c key) ∨
      ∃ row, .upsertWebauthnCredential row ∈ ws ∧ row.credentialID = c) :
    ∃ key, db'.StoresKey c key := by
  induction ws generalizing db with
  | nil =>
    cases h
    rcases hs with hs | ⟨row, hrow, -⟩
    · exact hs
    · cases hrow
  | cons w ws ih =>
    obtain ⟨db₁, hw, hws⟩ := bind_eq_some_iff.mp h
    rcases hs with hs | ⟨row, hrow, hc⟩
    · exact ih hws (.inl (stored_of_apply hw (.inl hs)))
    rcases List.mem_cons.mp hrow with he | hrow
    · exact ih hws (.inl (stored_of_apply hw (.inr ⟨row, he.symm, hc⟩)))
    · exact ih hws (.inr ⟨row, hrow, hc⟩)

theorem storedCredential_of_applyAll (h : applyAll db ws = some db') (c : String) :
    db'.storedCredential c = ws.foldl (fun v w => w.onCredential c v) (db.storedCredential c) := by
  induction ws generalizing db with
  | nil =>
    cases h
    rfl
  | cons w ws ih =>
    obtain ⟨db₁, hw, hws⟩ := bind_eq_some_iff.mp h
    rw [ih hws, storedCredential_of_apply hw, List.foldl_cons]

theorem storedCredential_of_exec (op : Op) (s : Shared) (ch : Choice) (c : String) :
    (exec op s ch).2.db.storedCredential c = s.db.storedCredential c ∨
      (exec op s ch).2.db.storedCredential c =
        op.effects.foldl (fun v w => w.onCredential c v) (s.db.storedCredential c) := by
  rcases exec_db op s ch with heq | happly
  · exact .inl (by rw [heq])
  · exact .inr (storedCredential_of_applyAll happly c)

theorem settle_ok {s : Shared} {fault : Fault} {result : Option Db}
    (h : (settle s fault result).1 = .ok ()) : result = some (settle s fault result).2.db := by
  unfold settle at h ⊢
  split at h
  · cases h
  · cases h
  · rfl
  · cases h

end LatchApi.Store
