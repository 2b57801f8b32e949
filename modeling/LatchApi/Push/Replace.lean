import LatchApi.Lib.Reply
import LatchApi.Lib.Runs
import Mathlib.Data.Finset.Insert
import Mathlib.Data.Finset.Filter

namespace LatchApi.Push

open Lib Program List

structure PushRegistration where
  queueIndex : String
  blindSignerID : String
deriving DecidableEq

/-- A row of `cosign_push_tokens`; all its columns make up the primary key. -/
structure PushTokenRow extends PushRegistration where
  pushToken : String
deriving DecidableEq

abbrev Db := Finset PushTokenRow

inductive PushOp where
  | replacePushTokenRegistrations (pushToken : String)
  | insertPushTokenRegistration (row : PushTokenRow)

@[reducible] def PushRes : PushOp → Type
  | _ => Except Unit Unit

inductive PushError where
  | validation
  | failed (context : String)
deriving DecidableEq

def PushOp.apply (s : Db) : PushOp → Db
  | .replacePushTokenRegistrations pushToken => s.filter (·.pushToken ≠ pushToken)
  | .insertPushTokenRegistration row => insert row s

def exec (op : PushOp) (s : Db) (reply : Reply) : PushRes op × Db :=
  replied () reply () s (op.apply s)

def isBlindID (s : String) : Bool :=
  s.length == 64 && s.toList.all fun c => c.isDigit || decide ('a' ≤ c ∧ c ≤ 'f')

abbrev PushTokenService := Program PushOp PushRes PushError

def statement (context : String) (op : PushOp) : PushTokenService Unit := do
  let out ← perform op
  ofExcept (out.mapError fun _ => .failed context)

def PushRegistration.valid (reg : PushRegistration) : Bool :=
  isBlindID reg.queueIndex && isBlindID reg.blindSignerID

def insertAll (token : String) : List PushRegistration → PushTokenService Unit
  | [] => return
  | reg :: regs =>
    if reg.valid then do
      statement "insert push token registration" (.insertPushTokenRegistration ⟨reg, token⟩)
      insertAll token regs
    else .fail .validation

def replace (token : String) (regs : List PushRegistration) : PushTokenService Unit :=
  if token = "" ∨ 512 < token.utf8ByteSize then .fail .validation
  else if 100 < regs.length then .fail .validation
  else do
    statement "replace push token registrations" (.replacePushTokenRegistrations token)
    insertAll token regs

def Registered (s : Db) (token : String) (reg : PushRegistration) : Prop := ⟨reg, token⟩ ∈ s

def AllOrNothing (token : String) (regs : List PushRegistration) (s : Db)
    (out : Except PushError Unit) (s' : Db) : Prop :=
  match out with
  | .ok _ => ∀ reg, Registered s' token reg ↔ reg ∈ regs
  | .error _ => ∀ reg, Registered s' token reg ↔ Registered s token reg

section Replies

variable (reply : Nat → Reply)

/-- The elements whose insert takes effect when the first insert is statement `n`: those in front of
the first malformed element or failing insert, and the latter's own if only its answer is lost. -/
def inserted (n : Nat) : List PushRegistration → List PushRegistration
  | [] => []
  | reg :: regs =>
    if reg.valid then
      match reply n with
      | .done => reg :: inserted (n + 1) regs
      | .failed => []
      | .lost => [reg]
    else []

def Finishes (n : Nat) (regs : List PushRegistration) : Prop :=
  ∀ i reg, regs[i]? = some reg → reg.valid = true ∧ reply (n + i) = .done

variable {reply} {n : Nat} {s : Db} {token : String}

theorem finishes_cons {reg : PushRegistration} {regs : List PushRegistration} :
    Finishes reply n (reg :: regs) ↔
      (reg.valid = true ∧ reply n = .done) ∧ Finishes reply (n + 1) regs := by
  constructor
  · intro h
    refine ⟨h 0 reg rfl, fun i reg' hreg => ?_⟩
    rw [Nat.add_right_comm]
    exact h (i + 1) reg' hreg
  · rintro ⟨hfirst, hrest⟩ i reg' hreg
    cases i with
    | zero =>
      cases hreg
      exact hfirst
    | succ i =>
      rw [← Nat.add_assoc, Nat.add_right_comm]
      exact hrest i reg' hreg

theorem inserted_of_finishes {regs : List PushRegistration} (h : Finishes reply n regs) :
    inserted reply n regs = regs := by
  induction regs generalizing n with
  | nil => rfl
  | cons reg regs ih =>
    obtain ⟨⟨hvalid, hdone⟩, hrest⟩ := finishes_cons.mp h
    rw [inserted, if_pos hvalid, hdone]
    exact congrArg (reg :: ·) (ih hrest)

theorem drive_statement (context : String) (op : PushOp) (next : PushTokenService Unit) :
    drive exec reply n (do statement context op; next) s =
      match reply n with
      | .done => drive exec reply (n + 1) next (op.apply s)
      | .failed => (.error (.failed context), s)
      | .lost => (.error (.failed context), op.apply s) := by
  change drive exec reply (n + 1) (ofExcept ((exec op s (reply n)).1.mapError _) >>= fun _ => next)
    (exec op s (reply n)).2 = _
  cases reply n <;> rfl

theorem drive_insertAll (token : String) (reply : Nat → Reply) (n : Nat) (s : Db)
    (regs : List PushRegistration) :
    ((drive exec reply n (insertAll token regs) s).1 = .ok () ↔ Finishes reply n regs) ∧
      ∀ reg, Registered (drive exec reply n (insertAll token regs) s).2 token reg ↔
        Registered s token reg ∨ reg ∈ inserted reply n regs := by
  have hinsert : ∀ (s : Db) (reg reg' : PushRegistration),
      Registered (PushOp.apply s (.insertPushTokenRegistration ⟨reg, token⟩)) token reg' ↔
        reg' = reg ∨ Registered s token reg' := by
    simp [Registered, PushOp.apply]
  induction regs generalizing n s with
  | nil => simp [insertAll, drive, inserted, Finishes]
  | cons reg regs ih =>
    rw [finishes_cons, insertAll, inserted]
    by_cases hvalid : reg.valid = true
    · rw [if_pos hvalid, if_pos hvalid, drive_statement]
      cases reply n with
      | done =>
        obtain ⟨hok, hregs⟩ :=
          ih (n + 1) (PushOp.apply s (.insertPushTokenRegistration ⟨reg, token⟩))
        refine ⟨hok.trans (by simp [hvalid]), fun reg' => (hregs reg').trans ?_⟩
        rw [hinsert, mem_cons, or_right_comm, or_comm]
      | failed => simp
      | lost => simp [hinsert, or_comm]
    · simp [hvalid, drive]

end Replies

/-- Replacing is all-or-nothing just when the call is refused for its token or its number of
elements, the delete has no effect, all elements are well formed and all statements succeed, or the
token's registrations were those whose inserts take effect all along. -/
theorem replaced_whole_iff (token : String) (regs : List PushRegistration) (s : Db)
    (reply : Nat → Reply) :
    AllOrNothing token regs s (drive exec reply 0 (replace token regs) s).1
        (drive exec reply 0 (replace token regs) s).2 ↔
      (token = "" ∨ 512 < token.utf8ByteSize) ∨ 100 < regs.length ∨ reply 0 = .failed ∨
        (reply 0 = .done ∧ Finishes reply 1 regs) ∨
        ∀ reg, Registered s token reg ↔ reply 0 = .done ∧ reg ∈ inserted reply 1 regs := by
  have hdeleted : ∀ reg,
      ¬ Registered (PushOp.apply s (.replacePushTokenRegistrations token)) token reg := by
    simp [Registered, PushOp.apply]
  unfold replace
  split_ifs with htoken hregs
  · simp [AllOrNothing, drive, htoken]
  · simp [AllOrNothing, drive, hregs]
  rw [drive_statement]
  cases reply 0 with
  | failed => simp [AllOrNothing]
  | lost => simp [AllOrNothing, hdeleted, htoken, hregs]
  | done =>
    obtain ⟨hok, hleft⟩ := drive_insertAll token reply 1
      (PushOp.apply s (.replacePushTokenRegistrations token)) regs
    simp only [hdeleted, false_or] at hleft
    simp only [htoken, hregs, reduceCtorEq, true_and, false_or]
    by_cases hfin : Finishes reply 1 regs
    · simp [AllOrNothing, hok.mpr hfin, hleft, hfin, inserted_of_finishes hfin]
    · cases hout : (drive exec reply 1 (insertAll token regs)
          (PushOp.apply s (.replacePushTokenRegistrations token))).1 with
      | ok _ => exact absurd (hok.mp hout) hfin
      | error e => simp [AllOrNothing, hleft, hfin, iff_comm]

namespace Sample

def id (c : Char) : String := String.ofList (replicate 64 c)

def row : PushTokenRow := ⟨⟨id 'a', id 'b'⟩, "token"⟩

def next : PushRegistration := ⟨id 'c', id 'd'⟩

/-- A malformed id behind a good one: the old registration is gone and half of the new ones stay. -/
theorem registrations_half_replaced :
    drive exec (fun _ => .done) 0 (replace "token" [next, ⟨"", ""⟩]) {row} =
        (.error .validation, {⟨next, "token"⟩}) ∧
      ¬ AllOrNothing "token" [next, ⟨"", ""⟩] {row} (.error .validation) {⟨next, "token"⟩} := by
  refine ⟨by decide +kernel, fun h => ?_⟩
  exact absurd ((h next).mp (Finset.mem_singleton_self _)) (by unfold Registered; decide +kernel)

end Sample

end LatchApi.Push
