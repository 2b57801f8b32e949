import LatchApi.Build.Built

namespace LatchApi.Build

open Lib Program Soroban Bundler

def BuildsOnly (T : Transaction → Prop) : BuildOp → Prop
  | .buildTransaction tx => T tx
  | _ => True

section Always

variable {α β : Type} {G : BuildOp → Prop}

theorem always_ofExcept (x : Except BuildError α) : Always G (Program.ofExcept x : Builder α) := by
  cases x <;> trivial

theorem always_call_orRpc {context : String} {op : BuildOp} {f : BuildRes op → Except RpcError α}
    {k : α → Builder β} (hop : G op) (hk : ∀ a, Always G (k a)) :
    Always G (perform op >>= fun r => orRpc context (f r) >>= k) :=
  ⟨hop, fun _ => (always_orFail _ _).bind hk⟩

end Always

variable {h : Log BuildRes}

section Core

variable {T : Transaction → Prop} {cfg : BuildConfig} {input : AuthTransactionCoreInput}
  {st : Synthesis} {ready : Signable} (exp : UInt32) (r : BuildAuthTransactionResult)

variable (smart g : String) (digest : Bytes)

theorem always_buildUnsigned (exp : UInt32) :
    Always (BuildsOnly T) (buildUnsignedDelegatedGCheckAuthEntry smart g digest exp) := by
  refine (always_ofExcept _).bind fun a => (always_ofExcept _).bind fun b => ?_
  exact ⟨trivial, fun r => (always_orFail _ _).bind fun _ => trivial⟩

theorem always_synthesizeDelegatedGEntry (exp : UInt32) :
    Always (BuildsOnly T) (synthesizeDelegatedGEntry smart g digest exp st) := by
  unfold synthesizeDelegatedGEntry
  split
  · trivial
  · exact (always_buildUnsigned smart g digest exp).bind fun _ => trivial

theorem always_synthesizeIf (needed : Prop) [Decidable needed] (g : String) :
    Always (BuildsOnly T) (synthesizeEntries.synthesizeIf input exp ready needed g st) := by
  unfold synthesizeEntries.synthesizeIf
  split
  · exact always_synthesizeDelegatedGEntry _ _ _ _
  · trivial

theorem always_buildTemplates (exp : UInt32) :
    Always (BuildsOnly T) (buildDelegatedSigningTemplates cfg smart g digest exp) := by
  exact (always_buildUnsigned smart g digest exp).bind fun _ =>
    (always_ofExcept _).bind fun _ => trivial

theorem always_chooseSigning : Always (BuildsOnly T) (chooseSigning cfg input exp ready st r) := by
  unfold chooseSigning
  split
  · split
    · trivial
    refine (always_ofExcept _).bind fun entries => ?_
    refine (always_synthesizeDelegatedGEntry _ _ _ _).bind fun st' => ?_
    split
    · trivial
    · exact (always_buildTemplates _ _ _ _).bind fun _ => trivial
  · split
    · refine (always_ofExcept _).bind fun entries => ?_
      exact (always_buildTemplates _ _ _ _).bind fun _ => trivial
    · split <;> trivial

theorem always_buildAuthTransactionCore {buildTx : AuthEntries → Option Bytes → Transaction}
    (hT : ∀ auth data, T (buildTx auth data)) :
    Always (BuildsOnly T) (buildAuthTransactionCore cfg input buildTx) := by
  refine always_call_orRpc (hT _ _) fun _ => always_call_orRpc trivial fun sim => ?_
  refine (always_ofExcept _).bind fun simulated => ?_
  dsimp only
  split
  · trivial
  refine (always_ofExcept _).bind fun found => (always_ofExcept _).bind fun ready => ?_
  refine ((always_synthesizeIf _ _ _).bind fun st => always_synthesizeIf _ _ _).bind fun st => ?_
  refine (always_ofExcept _).bind fun payloads => (always_ofExcept _).bind fun data => ?_
  exact always_call_orRpc (hT _ _) fun _ => always_chooseSigning _ _

theorem shape_chooseSigning : Obeys anyRun h (chooseSigning cfg input exp ready st r)
      (onOk fun _ r' => r'.txXdr = r.txXdr ∧ r'.contextRuleID = r.contextRuleID) := by
  unfold chooseSigning
  split
  · split
    · exact .fail trivial
    refine obeys_ofExcept_bind fun entries _ => ?_
    refine (obeys_any _).bind_onOk fun _ st' _ => ?_
    split
    · exact .ok ⟨rfl, rfl⟩
    · exact (obeys_any _).bind_onOk fun _ _ _ => .ok ⟨rfl, rfl⟩
  · split
    · refine obeys_ofExcept_bind fun entries _ => ?_
      exact (obeys_any _).bind_onOk fun _ _ _ => .ok ⟨rfl, rfl⟩
    · split <;> exact .ok ⟨rfl, rfl⟩

theorem shape_buildAuthTransactionCore (buildTx : AuthEntries → Option Bytes → Transaction) :
    Obeys anyRun h (buildAuthTransactionCore cfg input buildTx)
      (onOk fun _ r => (∃ auth data, r.txXdr = .of (envelopeOf (buildTx auth (some data)))) ∧
        r.contextRuleID = input.contextRuleID) := by
  refine obeys_call_then fun _ => obeys_orFail_bind fun _ _ => ?_
  refine obeys_call_then fun _ => obeys_orFail_bind fun sim _ => ?_
  refine obeys_ofExcept_bind fun simulated _ => ?_
  dsimp only
  split
  · exact .fail trivial
  refine obeys_ofExcept_bind fun found _ => obeys_ofExcept_bind fun ready _ => ?_
  refine (obeys_any _).bind_onOk fun _ st _ => ?_
  refine obeys_ofExcept_bind fun payloads _ => obeys_ofExcept_bind fun data _ => ?_
  refine obeys_call_then fun _ => obeys_orFail_bind fun _ _ => ?_
  exact (shape_chooseSigning _ _).mono_onOk fun _ r hr => ⟨⟨st.entries, data, hr.1⟩, hr.2⟩

end Core

end LatchApi.Build
