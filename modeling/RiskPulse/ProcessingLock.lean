import Mathlib.Algebra.Order.Field.Rat
import RiskPulse.Library.Runs

namespace RiskPulse

-- A command that raises RedisError may have been executed by the server all the same.
inductive LockOutcome where
  | answered
  | raised (executed : Bool)
  deriving DecidableEq

def LockOutcome.executed : LockOutcome → Bool
  | .answered => true
  | .raised executed => executed

-- What the workers do about the lock of one transaction, and time going by.
inductive LockAction (Worker : Type) where
  | acquire (worker : Worker) (lockTtl : Int) (outcome : LockOutcome)
  | release (worker : Worker) (outcome : LockOutcome)
  | elapse (time : {q : Rat // 0 ≤ q})

-- The key of the lock, which has a value "1" until it expires; and for each worker when
-- the lock it got and has not released itself runs out.
structure LockState (Worker : Type) where
  now : Rat
  key : Option Rat
  errors : Nat
  held : Worker → Option Rat

namespace ProcessingLock
variable {Worker : Type}

def present (s : LockState Worker) : Bool :=
  match s.key with
  | some deadline => decide (s.now < deadline)
  | none => false

-- SET key "1" NX EX ttl: whether it is set. A time to live that is not positive is refused.
def setNx (ttl : Int) (s : LockState Worker) : Option Rat :=
  if ttl ≤ 0 ∨ present s = true then none else some (s.now + ttl)

def recordError (s : LockState Worker) : LockState Worker := {s with errors := s.errors + 1}

def acquireProcessingLock [DecidableEq Worker] (worker : Worker) (lockTtl : Int) (outcome : LockOutcome) (s : LockState Worker) : Bool × LockState Worker :=
  let key := if outcome.executed then (setNx lockTtl s).or s.key else s.key
  match outcome with
  | .answered =>
    if lockTtl ≤ 0 then (false,recordError s)
    else
      match setNx lockTtl s with
      | some deadline => (true,{s with key := key, held := Function.update s.held worker (some deadline)})
      | none => (false,s)
  | .raised _ => (false,recordError {s with key := key})

-- The key is deleted, whoever has set it.
def releaseProcessingLock [DecidableEq Worker] (worker : Worker) (outcome : LockOutcome) (s : LockState Worker) : Bool × LockState Worker :=
  let left := {s with
    key := if outcome.executed then none else s.key
    held := Function.update s.held worker none}
  match outcome with
  | .answered => (true,left)
  | .raised _ => (false,recordError left)

def step [DecidableEq Worker] (s : LockState Worker) : LockAction Worker → LockState Worker
  | .acquire worker lockTtl outcome => (acquireProcessingLock worker lockTtl outcome s).2
  | .release worker outcome => (releaseProcessingLock worker outcome s).2
  | .elapse time => {s with now := s.now + time.val}

def start : LockState Worker := ⟨0,none,0,fun _ => none⟩

-- The worker has a lock that it has not released and that has not run out.
def Holds (s : LockState Worker) (worker : Worker) : Prop := ∃ deadline, s.held worker = some deadline ∧ s.now < deadline

def Exclusive (s : LockState Worker) : Prop := ∀ a b, Holds s a → Holds s b → a = b

-- After the step one worker at most holds the lock, and a release has freed no other's.
def Safe [DecidableEq Worker] (s : LockState Worker) (action : LockAction Worker) : Prop :=
  Exclusive (step s action) ∧ ∀ worker outcome other, action = .release worker outcome → other ≠ worker → Holds s other →
    present (step s action) = true

-- No worker has the key deleted while another one holds the lock.
def Rightful (s : LockState Worker) : LockAction Worker → Prop
  | .release worker outcome => outcome.executed = true → ∀ other, other ≠ worker → ¬Holds s other
  | _ => True

structure Guarded (s : LockState Worker) : Prop where
  exclusive : Exclusive s
  kept : ∀ worker deadline, s.held worker = some deadline → s.now < deadline → s.key = some deadline

theorem start_guarded : Guarded (start : LockState Worker) :=
  ⟨fun _ _ ⟨_,held,_⟩ => (Option.some_ne_none _ held.symm).elim,fun _ _ held => (Option.some_ne_none _ held.symm).elim⟩

theorem Guarded.present (guarded : Guarded s) (holds : Holds s worker) : present s = true := by
  obtain ⟨deadline,held,running⟩ := holds
  rw [ProcessingLock.present,guarded.kept worker deadline held running]
  exact decide_eq_true running

theorem Guarded.free (guarded : Guarded s) (absent : ProcessingLock.present s = false) (worker : Worker) : ¬Holds s worker :=
  fun holds => Bool.false_ne_true (absent.symm.trans (guarded.present holds))

theorem setNx_some (set : setNx ttl s = some deadline) : ProcessingLock.present (s : LockState Worker) = false ∧ 0 < ttl := by
  unfold setNx at set
  split at set
  · cases set
  · rename_i free
    obtain ⟨positive,absent⟩ := not_or.mp free
    exact ⟨Bool.eq_false_of_not_eq_true absent,not_le.mp positive⟩

-- A key that nobody holds may change.
theorem guarded_free (guarded : Guarded s) (free : ∀ worker, ¬Holds s worker) (key : Option Rat) : Guarded {s with key := key} where
  exclusive := guarded.exclusive
  kept worker deadline held running := absurd ⟨deadline,held,running⟩ (free worker)

theorem Guarded.recordError (guarded : Guarded s) : Guarded (recordError (s : LockState Worker)) := ⟨guarded.exclusive,guarded.kept⟩

theorem guarded_set (guarded : Guarded s) (ttl : Int) : Guarded {s with key := (setNx ttl s).or (s : LockState Worker).key} := by
  cases set : setNx ttl s with
  | none => exact guarded
  | some deadline => exact guarded_free guarded (guarded.free (setNx_some set).1) _

theorem elapse_guarded (guarded : Guarded s) (time : {q : Rat // 0 ≤ q}) :
    Guarded {s with now := (s : LockState Worker).now + time.val} := by
  have forward : s.now ≤ s.now + time.val := le_add_of_nonneg_right time.property
  constructor
  · rintro a b ⟨first,heldA,runningA⟩ ⟨second,heldB,runningB⟩
    exact guarded.exclusive a b ⟨first,heldA,lt_of_le_of_lt forward runningA⟩ ⟨second,heldB,lt_of_le_of_lt forward runningB⟩
  · intro worker deadline held running
    exact guarded.kept worker deadline held (lt_of_le_of_lt forward running)

variable [DecidableEq Worker]

theorem guarded_acquired (guarded : Guarded s) (worker : Worker) (set : setNx ttl s = some deadline) :
    Guarded {s with key := some deadline, held := Function.update s.held worker (some deadline)} := by
  have free := guarded.free (setNx_some set).1
  have only : ∀ other until', Function.update s.held worker (some deadline) other = some until' → s.now < until' →
      other = worker ∧ until' = deadline := by
    intro other until' held running
    by_cases same : other = worker
    · subst same
      rw [Function.update_self] at held
      exact ⟨rfl,(Option.some.inj held).symm⟩
    · rw [Function.update_of_ne same] at held
      exact absurd ⟨until',held,running⟩ (free other)
  constructor
  · rintro a b ⟨first,heldA,runningA⟩ ⟨second,heldB,runningB⟩
    exact (only a first heldA runningA).1.trans (only b second heldB runningB).1.symm
  · intro other until' held running
    rw [(only other until' held running).2]

theorem released_other {held : Worker → Option Rat} (left : Function.update held worker none other = some deadline) :
    other ≠ worker ∧ held other = some deadline := by
  by_cases same : other = worker
  · subst same
    rw [Function.update_self] at left
    cases left
  · rw [Function.update_of_ne same] at left
    exact ⟨same,left⟩

theorem guarded_released (guarded : Guarded s) (worker : Worker) : Guarded {s with held := Function.update s.held worker none} := by
  have before : ∀ other deadline, Function.update s.held worker none other = some deadline → s.held other = some deadline :=
    fun _ _ held => (released_other held).2
  constructor
  · rintro a b ⟨first,heldA,runningA⟩ ⟨second,heldB,runningB⟩
    exact guarded.exclusive a b ⟨first,before a first heldA,runningA⟩ ⟨second,before b second heldB,runningB⟩
  · intro other deadline held running
    exact guarded.kept other deadline (before other deadline held) running

theorem step_guarded (guarded : Guarded s) (action : LockAction Worker) (rightful : Rightful s action) : Guarded (step s action) := by
  cases action with
  | acquire worker lockTtl outcome =>
    cases outcome with
    | answered =>
      simp only [step,acquireProcessingLock]
      split
      · exact guarded.recordError
      · cases set : setNx lockTtl s with
        | none => exact guarded
        | some deadline => exact guarded_acquired guarded worker set
    | raised executed =>
      cases executed with
      | true => exact (guarded_set guarded lockTtl).recordError
      | false => exact guarded.recordError
  | release worker outcome =>
    have freed : outcome.executed = true → Guarded {s with key := none, held := Function.update s.held worker none} := by
      intro executed
      refine guarded_free (guarded_released guarded worker) ?_ none
      rintro other ⟨deadline,held,running⟩
      obtain ⟨different,before⟩ := released_other held
      exact rightful executed other different ⟨deadline,before,running⟩
    cases outcome with
    | answered => exact freed rfl
    | raised executed =>
      cases executed with
      | true => exact (freed rfl).recordError
      | false => exact (guarded_released guarded worker).recordError
  | elapse time => exact elapse_guarded guarded time

theorem release_absent (s : LockState Worker) (worker : Worker) (executed : outcome.executed = true) :
    present (step s (.release worker outcome)) = false := by
  cases outcome with
  | answered => rfl
  | raised ran =>
    cases ran with
    | true => rfl
    | false => cases executed

theorem rightful_safe (guarded : Guarded s) (action : LockAction Worker) (rightful : Rightful s action) : Safe s action := by
  have after := step_guarded guarded action rightful
  refine ⟨after.exclusive,?_⟩
  rintro worker outcome other rfl different holds
  obtain ⟨deadline,held,running⟩ := holds
  have kept : outcome.executed = false := by
    cases ran : outcome.executed with
    | false => rfl
    | true => exact absurd ⟨deadline,held,running⟩ (rightful ran other different)
  cases outcome with
  | answered => cases kept
  | raised executed => exact after.present ⟨deadline,(Function.update_of_ne different _ _).trans held,running⟩

-- A release deletes the key, so none of a worker's that another has the lock is safe.
theorem safe_rightful (s : LockState Worker) (action : LockAction Worker) (safe : Safe s action) : Rightful s action := by
  cases action with
  | acquire worker lockTtl outcome => trivial
  | elapse time => trivial
  | release worker outcome =>
    intro executed other different holds
    have freed := release_absent s worker executed
    rw [safe.2 worker outcome other rfl different holds] at freed
    cases freed

theorem lock_exclusive (actions : List (LockAction Worker)) :
    Runs.Along step Safe (start : LockState Worker) actions ↔ Runs.Along step Rightful start actions := by
  constructor
  · intro safe
    exact Runs.along_gives (fun s action guarded safe => step_guarded guarded action (safe_rightful s action safe))
      (fun s action _ => safe_rightful s action) start_guarded safe
  · intro rightful
    exact Runs.along_gives (fun _ action guarded => step_guarded guarded action)
      (fun _ action guarded => rightful_safe guarded action) start_guarded rightful

-- The lock of worker 1 has run out, and its release frees the one of worker 2, so that
-- worker 3 gets the lock too.
theorem stale_release_frees : ¬Runs.Along step Safe start [.acquire 1 30 .answered,.elapse ⟨31,by decide⟩,
    .acquire 2 30 .answered,.release 1 .answered,.acquire (3 : Nat) 30 .answered] := by
  intro given
  obtain ⟨_,_,_,_,⟨exclusive,_⟩,_⟩ := given
  have same := exclusive 2 3 ⟨61,by decide +kernel,by decide +kernel⟩ ⟨61,by decide +kernel,by decide +kernel⟩
  exact absurd same (by decide)

end ProcessingLock
end RiskPulse
