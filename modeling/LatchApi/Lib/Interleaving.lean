import Mathlib.Data.Finset.Card
import Mathlib.Logic.Relation
import LatchApi.Lib.Program

/-!
Requests served concurrently. Every request is a thread that runs its program;
a step lets one thread perform its next operation on the shared state, lets a
new request arrive, or lets the outside world change the state.
-/

namespace LatchApi.Lib

open Program List

structure Thread (Req Op : Type) (Res : Op → Type) (ε α : Type) where
  request : Req
  history : Log Res
  rest : Program Op Res ε α

structure Config (Req Op : Type) (Res : Op → Type) (ε α σ : Type) where
  state : σ
  threads : List (Thread Req Op Res ε α)

/-- The programs of the requests, the operations and the events of the outside
world. The state may record who performs an operation; an event that cannot
happen in a state answers `none`. -/
structure System (Req Op : Type) (Res : Op → Type) (ε α σ χ ξ : Type) where
  body : Req → Program Op Res ε α
  exec : Thread Req Op Res ε α → (op : Op) → σ → χ → Res op × σ
  world : ξ → σ → Option σ

variable {Req Op : Type} {Res : Op → Type} {ε α σ χ ξ β : Type}

variable {t : Thread Req Op Res ε α} {op : Op} {r : Res op} {view : Event Res → Option β}

namespace Thread

variable {next : Res op → Program Op Res ε α}

def active (t : Thread Req Op Res ε α) : Bool :=
  match t.rest with
  | .call _ _ => true
  | _ => false

def succeeded (t : Thread Req Op Res ε α) : Bool :=
  match t.rest with
  | .ok _ => true
  | _ => false

theorem exists_of_succeeded (h : t.succeeded = true) : ∃ a, t.rest = .ok a := by
  unfold succeeded at h
  split at h
  · exact ⟨_, by assumption⟩
  · cases h

theorem active_of_rest (h : t.rest = .call op next) : t.active = true := by
  simp [active, h]

def advance (t : Thread Req Op Res ε α) (op : Op) (r : Res op)
    (next : Res op → Program Op Res ε α) : Thread Req Op Res ε α :=
  ⟨t.request, ⟨op, r⟩ :: t.history, next r⟩

@[simp] theorem advance_request : (t.advance op r next).request = t.request := rfl

@[simp] theorem advance_history : (t.advance op r next).history = ⟨op, r⟩ :: t.history := rfl

theorem mem_advance {op' : Op} {r' : Res op'} (h : ⟨op', r'⟩ ∈ (t.advance op r next).history) :
    (∃ hop : op' = op, r = hop ▸ r') ∨ ⟨op', r'⟩ ∈ t.history := by
  rcases mem_cons.mp h with heq | h
  · obtain ⟨rfl, heq⟩ := Sigma.mk.inj heq
    exact .inl ⟨rfl, (eq_of_heq heq).symm⟩
  · exact .inr h

theorem mem_view_advance {b : β} (h : b ∈ (t.advance op r next).history.filterMap view) :
    b ∈ t.history.filterMap view ∨ view ⟨op, r⟩ = some b := by
  rw [advance_history, filterMap_cons] at h
  cases he : view ⟨op, r⟩ with
  | none =>
    rw [he] at h
    exact .inl h
  | some b' =>
    rw [he] at h
    rcases mem_cons.mp h with rfl | h
    · exact .inr rfl
    · exact .inl h

end Thread

namespace System

variable (sys : System Req Op Res ε α σ χ ξ)

abbrev Schedule (Req Op : Type) (Res : Op → Type) (ε α σ : Type) :=
  σ → List (Thread Req Op Res ε α) → Thread Req Op Res ε α → Op → Prop

inductive Step (allow : Schedule Req Op Res ε α σ) :
    Config Req Op Res ε α σ → Config Req Op Res ε α σ → Prop
  | arrive (s : σ) (ts : List (Thread Req Op Res ε α)) (req : Req) :
      Step allow ⟨s, ts⟩ ⟨s, ts ++ [⟨req, [], sys.body req⟩]⟩
  | world (s s' : σ) (ts : List (Thread Req Op Res ε α)) (e : ξ) (h : sys.world e s = some s') :
      Step allow ⟨s, ts⟩ ⟨s', ts⟩
  | act (s : σ) (before after : List (Thread Req Op Res ε α)) (t : Thread Req Op Res ε α) (op : Op)
      (next : Res op → Program Op Res ε α) (c : χ) (hrest : t.rest = .call op next)
      (hallow : allow s (before ++ after) t op) :
      Step allow ⟨s, before ++ t :: after⟩
        ⟨(sys.exec t op s c).2, before ++ t.advance op (sys.exec t op s c).1 next :: after⟩

def anySchedule : Schedule Req Op Res ε α σ := fun _ _ _ _ => True

instance (s : σ) (others : List (Thread Req Op Res ε α)) (t : Thread Req Op Res ε α) (op : Op) :
    Decidable (anySchedule s others t op) := inferInstanceAs (Decidable True)

def Reachable (allow : Schedule Req Op Res ε α σ) (s : σ) (c : Config Req Op Res ε α σ) : Prop :=
  Relation.ReflTransGen (sys.Step allow) ⟨s, []⟩ c

variable {sys} {allow : Schedule Req Op Res ε α σ} {s : σ} {c : Config Req Op Res ε α σ}
  {ts before after : List (Thread Req Op Res ε α)} {t' u : Thread Req Op Res ε α}
  {P Q : Thread Req Op Res ε α → Prop} {R : Thread Req Op Res ε α → Thread Req Op Res ε α → Prop}
  (D : Req → Discipline Op Res)

theorem mem_advanced (h : u ∈ before ++ t' :: after) : u = t' ∨ u ∈ before ++ after := by
  rcases mem_append.mp h with h | h
  · exact .inr (mem_append_left _ h)
  rcases mem_cons.mp h with h | h
  · exact .inl h
  · exact .inr (mem_append_right _ h)

theorem mem_of_others (h : u ∈ before ++ after) : u ∈ before ++ t :: after := by
  rcases mem_append.mp h with h | h
  · exact mem_append_left _ h
  · exact mem_append_right _ (mem_cons_of_mem _ h)

theorem forall_arrived (h : ∀ u ∈ ts, P u) (ht : P t) : ∀ u ∈ ts ++ [t], P u :=
  forall_mem_append.mpr ⟨h, forall_mem_singleton.mpr ht⟩

theorem pairwise_arrived (h : ts.Pairwise R) (ht : ∀ u ∈ ts, R u t) : (ts ++ [t]).Pairwise R := by
  refine pairwise_append.mpr ⟨h, pairwise_singleton _ _, fun u hu t' ht' => ?_⟩
  obtain rfl := mem_singleton.mp ht'
  exact ht u hu

theorem forall_advanced (h : ∀ u ∈ before ++ t :: after, P u) (hPQ : ∀ u, P u → Q u) (ht : Q t') :
    ∀ u ∈ before ++ t' :: after, Q u := by
  intro u hu
  rcases mem_advanced hu with rfl | hu
  · exact ht
  · exact hPQ u (h u (mem_of_others hu))

theorem forall_view_advanced {next : Res op → Program Op Res ε α} {P P' : β → Prop}
    (h : ∀ u ∈ before ++ t :: after, Q u → ∀ b ∈ u.history.filterMap view, P b)
    (ht : Q (t.advance op r next) → Q t)
    (hother : ∀ u ∈ before ++ after, Q u → ∀ b ∈ u.history.filterMap view, P b → P' b)
    (hown : Q (t.advance op r next) → ∀ b ∈ t.history.filterMap view, P b → P' b)
    (hnew : ∀ b, view ⟨op, r⟩ = some b → P' b) :
    ∀ u ∈ before ++ t.advance op r next :: after, Q u → ∀ b ∈ u.history.filterMap view, P' b := by
  intro u hu hQ b hb
  rcases mem_advanced hu with rfl | hu
  · rcases Thread.mem_view_advance hb with hb | hb
    · exact hown hQ b hb (h t (by simp) (ht hQ) b hb)
    · exact hnew b hb
  · exact hother u hu hQ b hb (h u (mem_of_others hu) hQ b hb)

theorem forall₂_advanced (hR : ∀ {u v}, R u v → R v u) (hrefl : R t' t')
    (h : ∀ u ∈ before ++ after, ∀ v ∈ before ++ after, R u v)
    (ht : ∀ u ∈ before ++ after, R t' u) :
    ∀ u ∈ before ++ t' :: after, ∀ v ∈ before ++ t' :: after, R u v := by
  have hall : ∀ u ∈ before ++ t' :: after, R t' u := by
    intro u hu
    rcases mem_advanced hu with rfl | hu
    · exact hrefl
    · exact ht u hu
  intro u hu v hv
  rcases mem_advanced hu with rfl | hu'
  · exact hall v hv
  rcases mem_advanced hv with rfl | hv
  · exact hR (ht u hu')
  · exact h u hu' v hv

theorem pairwise_advanced (hR : ∀ {u v}, R u v → R v u) (h : (before ++ t :: after).Pairwise R)
    (ht : ∀ u ∈ before ++ after, R t u → R t' u) : (before ++ t' :: after).Pairwise R := by
  rw [pairwise_middle hR, pairwise_cons] at h ⊢
  exact ⟨fun u hu => ht u hu (h.1 u hu), h.2⟩

theorem length_le_of_labels {γ : Type} [DecidableEq γ] {L : List β} {labels : Finset γ}
    {Label : β → γ → Prop} (hlabel : ∀ b ∈ L, ∃ l ∈ labels, Label b l)
    (hdistinct : L.Pairwise fun b b' => ∀ l, Label b l → ¬ Label b' l) :
    L.length ≤ labels.card := by
  induction L generalizing labels with
  | nil => exact Nat.zero_le _
  | cons b L ih =>
    obtain ⟨hb, hL⟩ := pairwise_cons.mp hdistinct
    obtain ⟨l, hl, hbl⟩ := hlabel b mem_cons_self
    have hrest : ∀ b' ∈ L, ∃ l' ∈ labels.erase l, Label b' l' := by
      intro b' hb'
      obtain ⟨l', hl', hlab⟩ := hlabel b' (mem_cons_of_mem _ hb')
      refine ⟨l', Finset.mem_erase.mpr ⟨?_, hl'⟩, hlab⟩
      rintro rfl
      exact hb b' hb' l' hbl hlab
    have hlen := ih hrest hL
    rw [Finset.card_erase_of_mem hl] at hlen
    have hpos := Finset.card_pos.mpr ⟨l, hl⟩
    simp only [length_cons]
    omega

theorem of_pairwise (hR : ∀ {u v}, R u v → R v u) (h : (before ++ t :: after).Pairwise R)
    (hu : u ∈ before ++ after) : R t u := by
  rw [pairwise_middle hR, pairwise_cons] at h
  exact h.1 u hu

theorem exists_advanced (h : ∃ u ∈ before ++ t :: after, P u) (hPQ : ∀ u, P u → Q u)
    (ht : P t → Q t') : ∃ u ∈ before ++ t' :: after, Q u := by
  obtain ⟨u, hu, hPu⟩ := h
  rcases mem_append.mp hu with hu | hu
  · exact ⟨u, mem_append_left _ hu, hPQ u hPu⟩
  rcases mem_cons.mp hu with rfl | hu
  · exact ⟨t', mem_append_right _ mem_cons_self, ht hPu⟩
  · exact ⟨u, mem_append_right _ (mem_cons_of_mem _ hu), hPQ u hPu⟩

theorem Reachable.obeys {Q : Req → Log Res → Except ε α → Prop}
    (hbody : ∀ req, Obeys (D req) [] (sys.body req) (Q req))
    (hlegal : ∀ t op s c, (D t.request).legal op (sys.exec t op s c).1)
    (h : sys.Reachable allow s c) :
    ∀ t ∈ c.threads, Obeys (D t.request) t.history t.rest (Q t.request) := by
  induction h with
  | refl => simp
  | tail _ step ih =>
    cases step with
    | arrive s ts req => exact forall_arrived ih (hbody req)
    | world s s' ts e h => exact ih
    | act s before after t op next c hrest hallow =>
      have ht := ih t (by simp)
      rw [hrest, obeys_call] at ht
      exact forall_advanced ih (fun _ hu => hu) (ht.2 _ (hlegal _ _ _ _))

theorem Reachable.guard (h : sys.Reachable allow s c) (D : Req → Discipline Op Res)
    {Q : Req → Log Res → Except ε α → Prop} (hbody : ∀ req, Obeys (D req) [] (sys.body req) (Q req))
    (hlegal : ∀ t op s c, (D t.request).legal op (sys.exec t op s c).1) (ht : t ∈ c.threads)
    {next : Res op → Program Op Res ε α} (hrest : t.rest = .call op next) :
    (D t.request).guard t.history op := by
  have hobeys := Reachable.obeys D hbody hlegal h t ht
  rw [hrest, obeys_call] at hobeys
  exact hobeys.1

theorem Reachable.ended (h : sys.Reachable allow s c) (D : Req → Discipline Op Res)
    {Q : Req → Log Res → Except ε α → Prop} (hbody : ∀ req, Obeys (D req) [] (sys.body req) (Q req))
    (hlegal : ∀ t op s c, (D t.request).legal op (sys.exec t op s c).1) (ht : t ∈ c.threads) {a : α}
    (hrest : t.rest = .ok a) : Q t.request t.history (.ok a) := by
  have hobeys := Reachable.obeys D hbody hlegal h t ht
  rwa [hrest, obeys_ok] at hobeys

theorem Reachable.invariant (Inv : Config Req Op Res ε α σ → Prop)
    (hbody : ∀ req, Obeys (D req) [] (sys.body req) fun _ _ => True)
    (hlegal : ∀ t op s c, (D t.request).legal op (sys.exec t op s c).1) (hinit : Inv ⟨s, []⟩)
    (harrive : ∀ s ts req, Inv ⟨s, ts⟩ → Inv ⟨s, ts ++ [⟨req, [], sys.body req⟩]⟩)
    (hworld : ∀ s s' ts e, sys.world e s = some s' → Inv ⟨s, ts⟩ → Inv ⟨s', ts⟩)
    (hact : ∀ s before after t op next c, t.rest = .call op next →
      allow s (before ++ after) t op → (D t.request).guard t.history op →
      Inv ⟨s, before ++ t :: after⟩ →
      Inv ⟨(sys.exec t op s c).2, before ++ t.advance op (sys.exec t op s c).1 next :: after⟩)
    (h : sys.Reachable allow s c) : Inv c := by
  induction h with
  | refl => exact hinit
  | tail run step ih =>
    cases step with
    | arrive s ts req => exact harrive s ts req ih
    | world s s' ts e h => exact hworld s s' ts e h ih
    | act s before after t op next c hrest hallow =>
      exact hact s before after t op next c hrest hallow
        (Reachable.guard run D hbody hlegal (by simp) hrest) ih

structure Performed (sys : System Req Op Res ε α σ χ ξ) (allow : Schedule Req Op Res ε α σ)
    (c₀ c : Config Req Op Res ε α σ) (i : Nat) (req : Req) (n : Nat) (op : Op) : Prop where
  run : Relation.ReflTransGen (sys.Step allow) c₀ c
  thread : ∃ t next, c₀.threads[i]? = some t ∧ t.request = req ∧ t.history.length < n ∧
    t.rest = .call op next

theorem Performed.step {c₀ c₁ c₂ : Config Req Op Res ε α σ} {i n m : Nat} {req : Req}
    (h : Performed sys allow c₀ c₁ i req n op) (hstep : sys.Step allow c₁ c₂) (hnm : n ≤ m) :
    Performed sys allow c₀ c₂ i req m op := by
  obtain ⟨hrun, t, next, ht, hreq, hlt, hrest⟩ := h
  exact ⟨hrun.tail hstep, t, next, ht, hreq, Nat.lt_of_lt_of_le hlt hnm, hrest⟩

theorem getElem?_middle_of_ne {before after : List β} {a b : β} {i : Nat}
    (h : i ≠ before.length) : (before ++ a :: after)[i]? = (before ++ b :: after)[i]? := by
  rcases Nat.lt_or_gt_of_ne h with hlt | hgt
  · rw [getElem?_append_left hlt, getElem?_append_left hlt]
  obtain ⟨k, rfl⟩ := Nat.exists_eq_add_of_lt hgt
  rw [getElem?_append_right (by omega), getElem?_append_right (by omega)]
  simp [Nat.add_assoc]

theorem Reachable.answered (h : sys.Reachable allow s c) {i : Nat} (ht : c.threads[i]? = some t)
    (he : ⟨op, r⟩ ∈ t.history) :
    ∃ c₀ u ch, Performed sys allow c₀ c i t.request t.history.length op ∧
      r = (sys.exec u op c₀.state ch).1 := by
  induction h generalizing t with
  | refl => simp at ht
  | tail run step ih =>
    cases step with
    | arrive s ts req =>
      rcases Nat.lt_or_ge i ts.length with hlt | hge
      · rw [getElem?_append_left hlt] at ht
        obtain ⟨c₀, u, ch, hperformed, hr⟩ := ih ht he
        exact ⟨c₀, u, ch, hperformed.step (.arrive s ts req) (Nat.le_refl _), hr⟩
      · rw [getElem?_append_right hge] at ht
        obtain rfl := mem_singleton.mp (mem_of_getElem? ht)
        cases he
    | world s s' ts e h =>
      obtain ⟨c₀, u, ch, hperformed, hr⟩ := ih ht he
      exact ⟨c₀, u, ch, hperformed.step (.world s s' ts e h) (Nat.le_refl _), hr⟩
    | act s before after u op' next ch hrest hallow =>
      have hact := @Step.act _ _ _ _ _ _ _ _ sys allow s before after u op' next ch hrest hallow
      by_cases hi : i = before.length
      · subst hi
        have hold : (before ++ u :: after)[before.length]? = some u := by simp
        rw [getElem?_append_right (Nat.le_refl _), Nat.sub_self] at ht
        cases ht
        rcases mem_cons.mp he with heq | he
        · cases heq
          exact ⟨_, u, ch, ⟨.single hact, u, next, hold, rfl, Nat.lt_succ_self _, hrest⟩, rfl⟩
        · obtain ⟨c₀, v, ch', hperformed, hr⟩ := ih hold he
          exact ⟨c₀, v, ch', hperformed.step hact (Nat.le_succ _), hr⟩
      · rw [getElem?_middle_of_ne hi] at ht
        obtain ⟨c₀, v, ch', hperformed, hr⟩ := ih ht he
        exact ⟨c₀, v, ch', hperformed.step hact (Nat.le_refl _), hr⟩

theorem Reachable.later (Inv : σ → Prop) (P : Thread Req Op Res ε α → Prop)
    {c' : Config Req Op Res ε α σ} (hnew : ∀ req, P ⟨req, [], sys.body req⟩)
    (hworld : ∀ s s' e, sys.world e s = some s' → Inv s → Inv s')
    (hact : ∀ s' before after t op next ch,
      sys.Reachable allow s ⟨s', before ++ t :: after⟩ → t.rest = .call op next → Inv s' →
        Inv (sys.exec t op s' ch).2 ∧ (P t → P (t.advance op (sys.exec t op s' ch).1 next)))
    (hc : sys.Reachable allow s c) (hinv : Inv c.state)
    (hrun : Relation.ReflTransGen (sys.Step allow) c c') :
    Inv c'.state ∧ ∀ i t, c.threads.length ≤ i → c'.threads[i]? = some t → P t := by
  induction hrun with
  | refl =>
    refine ⟨hinv, fun i t hi ht => ?_⟩
    rw [getElem?_eq_none hi] at ht
    cases ht
  | tail run step ih =>
    have hreach := Relation.ReflTransGen.trans hc run
    obtain ⟨hstate, hlater⟩ := ih
    cases step with
    | arrive s ts req =>
      refine ⟨hstate, fun i t hi ht => ?_⟩
      rcases Nat.lt_or_ge i ts.length with hlt | hge
      · rw [getElem?_append_left hlt] at ht
        exact hlater i t hi ht
      rw [getElem?_append_right hge] at ht
      obtain rfl := mem_singleton.mp (mem_of_getElem? ht)
      exact hnew req
    | world s s' ts e he => exact ⟨hworld s s' e he hstate, hlater⟩
    | act s before after t op next ch hrest hallow =>
      obtain ⟨hstate', hP⟩ := hact s before after t op next ch hreach hrest hstate
      refine ⟨hstate', fun i u hi hu => ?_⟩
      by_cases hlen : i = before.length
      · subst hlen
        rw [getElem?_append_right (Nat.le_refl _), Nat.sub_self] at hu
        cases hu
        exact hP (hlater before.length t hi (by simp))
      · rw [getElem?_middle_of_ne hlen] at hu
        exact hlater i u hi hu

theorem Reachable.mono {allow' : Schedule Req Op Res ε α σ}
    (hallow : ∀ s others t op, allow s others t op → allow' s others t op)
    (h : sys.Reachable allow s c) : sys.Reachable allow' s c := by
  refine Relation.ReflTransGen.mono (fun c c' step => ?_) _ _ h
  cases step with
  | arrive s ts req => exact .arrive s ts req
  | world s s' ts e h => exact .world s s' ts e h
  | act s before after t op next c hrest h =>
    exact .act s before after t op next c hrest (hallow _ _ _ _ h)

inductive Move (Req χ ξ : Type) where
  | arrive (req : Req)
  | world (e : ξ)
  | act (i : Nat) (c : χ)

section Schedule

variable (sys) (allow) [∀ s others t op, Decidable (allow s others t op)]

def move (c : Config Req Op Res ε α σ) : Move Req χ ξ → Option (Config Req Op Res ε α σ)
  | .arrive req => some ⟨c.state, c.threads ++ [⟨req, [], sys.body req⟩]⟩
  | .world e => (sys.world e c.state).map fun s => ⟨s, c.threads⟩
  | .act i ch =>
    match c.threads[i]? with
    | none => none
    | some t =>
      match t.rest with
      | .call op next =>
        let before := c.threads.take i
        let after := c.threads.drop (i + 1)
        if allow c.state (before ++ after) t op then
          let r := sys.exec t op c.state ch
          some ⟨r.2, before ++ t.advance op r.1 next :: after⟩
        else none
      | _ => none

def schedule (c : Config Req Op Res ε α σ) : List (Move Req χ ξ) → Option (Config Req Op Res ε α σ)
  | [] => some c
  | m :: ms => (sys.move allow c m).bind fun c' => schedule c' ms

variable {sys} {allow}

omit [∀ s others t op, Decidable (allow s others t op)] in
theorem act_at {next : Res op → Program Op Res ε α} (i : Nat) (ch : χ) (ht : ts[i]? = some t)
    (hrest : t.rest = .call op next) (hallow : allow s (ts.take i ++ ts.drop (i + 1)) t op) :
    sys.Step allow ⟨s, ts⟩ ⟨(sys.exec t op s ch).2,
      ts.take i ++ t.advance op (sys.exec t op s ch).1 next :: ts.drop (i + 1)⟩ := by
  obtain ⟨hi, rfl⟩ := List.getElem?_eq_some_iff.mp ht
  have hts : ts = ts.take i ++ ts[i] :: ts.drop (i + 1) := by
    rw [getElem_cons_drop, take_append_drop]
  have hstep := @Step.act _ _ _ _ _ _ _ _ sys allow s (ts.take i) (ts.drop (i + 1))
    ts[i] op next ch hrest hallow
  rw [← hts] at hstep
  exact hstep

theorem move_sound (c c' : Config Req Op Res ε α σ) (m : Move Req χ ξ)
    (h : sys.move allow c m = some c') : sys.Step allow c c' := by
  obtain ⟨s, ts⟩ := c
  cases m with
  | arrive req =>
    cases h
    exact .arrive s ts req
  | world e =>
    obtain ⟨s', hs, rfl⟩ := Option.map_eq_some_iff.mp h
    exact .world s s' ts e hs
  | act i ch =>
    simp only [move] at h
    split at h
    · cases h
    rename_i t ht
    split at h
    · rename_i op next hrest
      by_cases hallow : allow s (ts.take i ++ ts.drop (i + 1)) t op
      · rw [if_pos hallow] at h
        cases h
        exact act_at i ch ht hrest hallow
      · rw [if_neg hallow] at h
        cases h
    · cases h

theorem schedule_sound (c c' : Config Req Op Res ε α σ) (ms : List (Move Req χ ξ))
    (h : sys.schedule allow c ms = some c') : Relation.ReflTransGen (sys.Step allow) c c' := by
  induction ms generalizing c with
  | nil =>
    cases h
    exact .refl
  | cons m ms ih =>
    obtain ⟨c₁, hm, hms⟩ := Option.bind_eq_some_iff.mp h
    exact .head (move_sound c c₁ m hm) (ih c₁ hms)

variable (ms : List (Move Req χ ξ))

theorem exists_reachable {P : Config Req Op Res ε α σ → Prop}
    (h : ∃ c ∈ sys.schedule allow ⟨s, []⟩ ms, P c) : ∃ c, sys.Reachable allow s c ∧ P c := by
  obtain ⟨c, hc, hP⟩ := h
  exact ⟨c, schedule_sound _ _ _ hc, hP⟩

theorem exists_reachable_and {P Q : Config Req Op Res ε α σ → Prop}
    (h : ∃ c ∈ sys.schedule allow ⟨s, []⟩ ms, P c) (hQ : ∀ c, sys.Reachable allow s c → P c → Q c) :
    ∃ c, sys.Reachable allow s c ∧ P c ∧ Q c := by
  obtain ⟨c, hc, hP⟩ := exists_reachable ms h
  exact ⟨c, hc, hP, hQ c hc hP⟩

theorem exists_continued (ms' : List (Move Req χ ξ))
    {P : Config Req Op Res ε α σ → Config Req Op Res ε α σ → Prop}
    (h : ∃ c ∈ sys.schedule allow ⟨s, []⟩ ms, ∃ c' ∈ sys.schedule allow c ms', P c c') :
    ∃ c c', sys.Reachable allow s c ∧ Relation.ReflTransGen (sys.Step allow) c c' ∧ P c c' := by
  obtain ⟨c, hc, c', hc', hP⟩ := h
  exact ⟨c, c', schedule_sound _ _ _ hc, schedule_sound _ _ _ hc', hP⟩

end Schedule

end System

end LatchApi.Lib
