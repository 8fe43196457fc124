import Mathlib.Algebra.Order.Ring.Rat
import RiskPulse.StorageSteps

namespace RiskPulse.StorageOrchestrator
open Interleaved Runs

def handles (c : StorageOrchestrator) : StorageBackend → Bool
  | .redis => c.cache
  | .postgres => c.postgres
  | .s3 => c.s3
  | .snowflake => c.snowflake

-- The step makes a backend unavailable exactly when it takes the consecutive
-- failures of that backend up to the configured threshold.
def OpensAtThreshold (c : StorageOrchestrator) (p q : StoragePool) : Prop :=
  ∀ b, ((p.shared.health b).state ≠ .unavailable ∧ (q.shared.health b).state = .unavailable) ↔
    ((p.shared.health b).consecutiveFailures < c.cbThreshold ∧
      c.cbThreshold ≤ (q.shared.health b).consecutiveFailures)

-- The backend whose breaker a write attempt passes first.
def attempts : Task → Option StorageBackend
  | .writeToCache _ _ => some .redis
  | .beginPostgres _ _ => some .postgres
  | .guardBatch b _ => some b.backend
  | _ => none

-- A write to an unavailable backend of the orchestrator, attempted the configured
-- time after the last failure or later, reaches it, and succeeding there makes it
-- healthy.
def Recovers (c : StorageOrchestrator) (p : StoragePool) : Prop :=
  ∀ b, c.handles b = true → (p.shared.health b).state = .unavailable → ∀ now, p.shared.now ≤ now →
    (p.shared.health b).lastFailure + c.cbTimeout ≤ now → ∀ task, attempts task = some b → ∀ o,
    (c.exec task o {p.shared with now := now}).1.contacted = p.shared.contacted ++ [b] ∧
      ∀ latency, ((p.shared.health b).recordSuccess now latency).state = .healthy

def BreakerCorrect (c : StorageOrchestrator) (actions : List StorageAction) : Prop :=
  Recovers c ⟨.start,[]⟩ ∧
    Along c.system.step (fun p action => OpensAtThreshold c p (c.system.step p action) ∧ Recovers c (c.system.step p action))
      ⟨.start,[]⟩ actions

-- The backend a write fails at, when the task is a write and comes back so.
def failsOn (o : Outcome) (s : Storage) : Task → Option StorageBackend
  | .writeToCache _ _ =>
    if s.open? .redis then none else match o.answer with | .returned _ => none | _ => some .redis
  | .awaitPostgres _ _ => match o.answer with | .failed => some .postgres | _ => none
  | .upload b _ => match o.answer with | .returned _ => none | _ => some b.backend
  | _ => none

-- The condition on a step: it is no failure of a write that is the fifth in a row
-- of its backend, or that makes the configured number, and no health check that
-- finds its backend down.
def KeepsClosed (c : StorageOrchestrator) (p : StoragePool) : StorageAction → Prop
  | .outside _ => True
  | .run n o => ∀ task rest, p.calls[n]? = some (task :: rest) →
    (∀ b, failsOn o p.shared task = some b → (p.shared.health b).consecutiveFailures + 1 < 5 ∧
      ((p.shared.health b).consecutiveFailures : Int) + 1 ≠ c.cbThreshold) ∧
    ¬∃ b, task = .checkBackend b ∧ o.answer = .failed

inductive HealthStep (task : Task) (o : Outcome) (s : Storage) (b : StorageBackend) : BackendHealth → Prop where
  | untouched : HealthStep task o s b (s.health b)
  | failed : failsOn o s task = some b → HealthStep task o s b ((s.health b).recordFailure s.now)
  | succeeded : HealthStep task o s b ((s.health b).recordSuccess s.now latency)
  | checkedDown : task = .checkBackend b → o.answer = .failed →
      HealthStep task o s b {s.health b with state := .unavailable}
  | checkedUp : HealthStep task o s b {s.health b with state := .healthy}

theorem healthStep_failure {s t : Storage} {target : StorageBackend} (b : StorageBackend)
    (fails : failsOn o s task = some target) (same : t.health = s.health) (clock : t.now = s.now) :
    HealthStep task o s b ((t.recordFailure target).health b) := by
  rw [Storage.recordFailure,setHealth_health,same,clock]
  split
  · rename_i equal
    subst equal
    exact .failed fails
  · exact .untouched

theorem healthStep_success {s t : Storage} {target : StorageBackend} (b : StorageBackend) (same : t.health = s.health)
    (clock : t.now = s.now) (latency : Rat) : HealthStep task o s b ((t.recordSuccess target latency).health b) := by
  rw [Storage.recordSuccess,setHealth_health,same,clock]
  split
  · rename_i equal
    subst equal
    exact .succeeded
  · exact .untouched

theorem bad_fails (o : Outcome) (bad : o.Bad) (b : StorageBackend) :
    (match o.answer with | .returned _ => none | _ => some b) = some b := by
  cases answer : o.answer with
  | returned latency => exact absurd answer (bad latency)
  | failed | aborted => rfl

theorem failsOn_cache (s : Storage) (available : s.open? .redis = false) (bad : o.Bad) (named : Value) (record : Record) :
    failsOn o s (.writeToCache named record) = some .redis := by
  simp only [failsOn,available]
  exact bad_fails o bad .redis

theorem did_health (did : Did c o s task t next) (b : StorageBackend) : HealthStep task o s b (t.health b) := by
  cases did with
  | cacheOpen | postgresOpen | postgresBegun | postgresAborted | buffered | checked | nothingTaken | taken | turnedBack
  | uploading | restored | checkAborted => exact .untouched
  | cacheWritten | postgresReturned | uploaded => exact healthStep_success b rfl rfl _
  | cacheFailed available bad either =>
    rcases either with rfl | rfl
    · exact healthStep_failure b (failsOn_cache _ available bad _ _) rfl rfl
    · exact healthStep_failure b (failsOn_cache _ available bad _ _) rfl rfl
  | postgresFailed failed =>
    apply healthStep_failure b _ rfl rfl
    simp only [failsOn,failed]
  | uploadFailed bad => exact healthStep_failure b (bad_fails o bad _) rfl rfl
  | confirmed either =>
    rcases either with rfl | rfl
    · exact .untouched
    · exact .untouched
  | checkedUp =>
    rw [setHealth_health]
    split
    · rename_i equal
      subst equal
      exact .checkedUp
    · exact .untouched
  | checkedDown down =>
    rw [setHealth_health]
    split
    · rename_i equal
      subst equal
      exact .checkedDown rfl down
    · exact .untouched

theorem event_health (c : StorageOrchestrator) (e : Event) (s : Storage) : (c.event e s).1.health = s.health := by
  cases e <;> rfl

-- Breakers that never opened: every backend is available and under five failures.
def Closed (p : StoragePool) : Prop :=
  ∀ b, (p.shared.health b).state ≠ .unavailable ∧ (p.shared.health b).consecutiveFailures < 5

theorem start_closed : Closed ⟨.start,[]⟩ := fun _ => ⟨by simp [Storage.start,BackendHealth.start],Nat.zero_lt_succ 4⟩

theorem step_closed (c : StorageOrchestrator) (p : StoragePool) (action : StorageAction) (closed : Closed p)
    (keeps : KeepsClosed c p action) :
    Closed (c.system.step p action) ∧ OpensAtThreshold c p (c.system.step p action) := by
  -- a step that changes no health satisfies both, and so does every other one
  have quiet : ∀ q : StoragePool, q.shared.health = p.shared.health → Closed q ∧ OpensAtThreshold c p q := by
    intro q same
    refine ⟨by unfold Closed; rw [same]; exact closed,fun b => ?_⟩
    rw [same]
    constructor
    · intro given
      obtain ⟨before,after⟩ := given
      exact absurd after before
    · intro given
      obtain ⟨below,above⟩ := given
      omega
  rcases c.system.step_cases p action with ⟨e,rfl,stepped⟩ | ⟨n,o,task,rest,before,after,rfl,found,split,stepped⟩ |
    ⟨same,_⟩
  · rw [stepped]
    exact quiet _ (event_health c e p.shared)
  · rw [stepped]
    have each : ∀ b, ((c.exec task o p.shared).1.health b).state ≠ .unavailable ∧
        ((c.exec task o p.shared).1.health b).consecutiveFailures < 5 ∧
        ¬(((p.shared.health b).consecutiveFailures : Int) < c.cbThreshold ∧
          c.cbThreshold ≤ ((c.exec task o p.shared).1.health b).consecutiveFailures) := by
      intro b
      obtain ⟨available,few⟩ := closed b
      obtain ⟨fails,check⟩ := keeps task rest found
      have changed := did_health (exec_did c task o p.shared) b
      generalize (c.exec task o p.shared).1.health b = health at changed
      cases changed with
      | untouched => exact ⟨available,few,by omega⟩
      | failed here =>
        obtain ⟨bound,other⟩ := fails b here
        refine ⟨?_,bound,?_⟩
        · unfold BackendHealth.recordFailure
          dsimp only
          rw [if_neg (by omega)]
          split
          · simp
          · exact available
        · simp only [BackendHealth.recordFailure]
          push_cast
          omega
      | succeeded =>
        refine ⟨by simp [BackendHealth.recordSuccess],Nat.zero_lt_succ 4,?_⟩
        simp only [BackendHealth.recordSuccess]
        omega
      | checkedDown isCheck down => exact absurd ⟨b,isCheck,down⟩ check
      | checkedUp => exact ⟨by simp,few,by simp only; omega⟩
    refine ⟨fun b => ⟨(each b).1,(each b).2.1⟩,fun b => ?_⟩
    constructor
    · intro given
      obtain ⟨_,opened⟩ := given
      exact absurd opened (each b).1
    · intro crossed
      exact absurd crossed (each b).2.2
  · rw [same]
    exact quiet p rfl

theorem closed_recovers (c : StorageOrchestrator) (p : StoragePool) (closed : Closed p) : Recovers c p :=
  fun b _ opened => absurd opened (closed b).1

-- The other direction. The tasks of calls belong to backends the orchestrator has.
def Handled (c : StorageOrchestrator) (_ : Storage) : Task → Prop
  | .writeToCache _ _ => c.cache = true
  | .beginPostgres _ _ | .awaitPostgres _ _ => c.postgres = true
  | .upload b _ => c.handles b.backend = true
  | .checkBackend b => c.handles b = true
  | _ => True

theorem did_handled (did : Did c o s task t next) (handled : Handled c s task) (tasks : List Task)
    (continues : next = some tasks) : ∀ later ∈ tasks, Handled c t later := by
  intro later member
  cases did_follows did tasks continues later member with
  | begun => exact handled
  | @uploading b _ has => cases b <;> exact has
  | returned | checked | taken | turnedBack | uploadFailed => trivial

theorem event_handled (c : StorageOrchestrator) (e : Event) (s t : Storage) :
    ∀ task ∈ (c.event e s).2, Handled c t task := by
  intro task started
  cases event_starts c e s started with
  | cache ahead => exact (Bool.and_eq_true_iff.mp ahead).1
  | postgres has | health has | healthPostgres has => exact has
  | buffer | check | take => trivial

theorem start_handled (c : StorageOrchestrator) : AllTasks (Handled c) ⟨.start,[]⟩ := by
  intro call member
  cases member

theorem step_handled (c : StorageOrchestrator) (p : StoragePool) (action : StorageAction)
    (holds : AllTasks (Handled c) p) : AllTasks (Handled c) (c.system.step p action) := by
  rcases c.system.step_cases p action with ⟨e,rfl,stepped⟩ | ⟨n,o,task,rest,before,after,rfl,found,split,stepped⟩ |
    ⟨same,_⟩
  · rw [stepped]
    refine allTasks_outside holds (fun task handled => ?_) (event_handled c e _ _)
    cases task <;> exact handled
  · rw [stepped]
    have own := holds (task :: rest) (by rw [split]; simp) task List.mem_cons_self
    refine allTasks_run holds split (fun other handled => ?_) (did_handled (exec_did c task o p.shared) own)
    cases other <;> exact handled
  · rw [same]
    exact holds

theorem recordFailure_health (s : Storage) (b : StorageBackend) :
    (s.recordFailure b).health b = (s.health b).recordFailure s.now := by
  rw [Storage.recordFailure,setHealth_health,if_pos rfl]

theorem did_failure (did : Did c o s task t next) (fails : failsOn o s task = some b) :
    t.health b = (s.health b).recordFailure s.now := by
  cases did with
  | cacheOpen isOpen => simp [failsOn,isOpen] at fails
  | cacheWritten available returned => simp [failsOn,available,returned] at fails
  | cacheFailed available bad either =>
    obtain rfl : StorageBackend.redis = b := Option.some.inj ((failsOn_cache s available bad _ _).symm.trans fails)
    rcases either with rfl | rfl
    · exact recordFailure_health _ .redis
    · exact recordFailure_health _ .redis
  | postgresReturned returned | postgresAborted returned => simp [failsOn,returned] at fails
  | postgresFailed failed =>
    simp only [failsOn,failed] at fails
    cases fails
    exact recordFailure_health s .postgres
  | uploaded returned => simp [failsOn,returned] at fails
  | uploadFailed bad =>
    obtain rfl := Option.some.inj ((bad_fails o bad _).symm.trans fails)
    exact recordFailure_health s _
  | postgresOpen | postgresBegun | confirmed | buffered | checked | nothingTaken | taken | turnedBack | uploading
  | restored | checkedUp | checkedDown | checkAborted => cases fails

theorem failsOn_handled (c : StorageOrchestrator) (o : Outcome) (s : Storage) (own : Handled c t task)
    (fails : failsOn o s task = some b) : c.handles b = true := by
  obtain ⟨answer,took⟩ := o
  cases task with
  | writeToCache id record =>
    simp only [failsOn] at fails
    split at fails
    · cases fails
    · cases answer <;> cases fails <;> exact own
  | awaitPostgres id record => cases answer <;> cases fails; exact own
  | upload other batch => cases answer <;> cases fails <;> exact own
  | _ => cases fails

theorem recovers_available (c : StorageOrchestrator) (p : StoragePool) (recovers : Recovers c p)
    (handled : c.handles b = true) : (p.shared.health b).state ≠ .unavailable := by
  intro opened
  have late := recovers b handled opened (max p.shared.now ((p.shared.health b).lastFailure + c.cbTimeout))
    (le_max_left _ _) (le_max_right _ _)
  have blocked : ∃ task, attempts task = some b ∧ ∀ s : Storage, s.health = p.shared.health →
      (c.exec task ⟨.failed,false⟩ s).1.contacted = s.contacted := by
    cases b with
    | redis =>
      refine ⟨.writeToCache .none .empty,rfl,fun s same => ?_⟩
      have isOpen : s.open? .redis = true := by simp [Storage.open?,same,opened]
      simp only [exec,isOpen,if_true]
    | postgres =>
      refine ⟨.beginPostgres .none .empty,rfl,fun s same => ?_⟩
      have isOpen : s.open? .postgres = true := by simp [Storage.open?,same,opened]
      simp only [exec,isOpen,if_true]
    | s3 =>
      refine ⟨.guardBatch .s3 [],rfl,fun s same => ?_⟩
      have isOpen : s.open? .s3 = true := by simp [Storage.open?,same,opened]
      simp only [exec,BatchBackend.backend,isOpen,if_true]
    | snowflake =>
      refine ⟨.guardBatch .snowflake [],rfl,fun s same => ?_⟩
      have isOpen : s.open? .snowflake = true := by simp [Storage.open?,same,opened]
      simp only [exec,BatchBackend.backend,isOpen,if_true]
  obtain ⟨task,attempt,unchanged⟩ := blocked
  have contacted := (late task attempt ⟨.failed,false⟩).1
  have longer := congrArg List.length (Eq.trans (unchanged _ (by rfl)).symm contacted)
  simp at longer

theorem recovers_keeps (c : StorageOrchestrator) (p : StoragePool) (action : StorageAction)
    (handled : AllTasks (Handled c) p) (opens : OpensAtThreshold c p (c.system.step p action))
    (recovers : Recovers c (c.system.step p action)) : KeepsClosed c p action := by
  cases action with
  | outside e => trivial
  | run n o =>
    intro task rest found
    have stepped := (c.system.step_own p n o found).1
    have own := handled (task :: rest) (List.mem_of_getElem? found) task List.mem_cons_self
    constructor
    · intro b fails
      have failure := did_failure (exec_did c task o p.shared) fails
      have available := recovers_available c _ recovers (failsOn_handled c o p.shared own fails)
      rw [stepped,show c.system.exec = c.exec from rfl,failure] at available
      constructor
      · by_contra many
        apply available
        simp only [BackendHealth.recordFailure]
        rw [if_pos (by omega)]
      · intro reaches
        have opened := (opens b).mpr
        rw [stepped,show c.system.exec = c.exec from rfl,failure] at opened
        refine available (opened ⟨by omega,?_⟩).2
        simp only [BackendHealth.recordFailure]
        push_cast
        omega
    · intro given
      obtain ⟨b,rfl,down⟩ := given
      apply recovers_available c _ recovers own
      rw [stepped]
      obtain ⟨answer,took⟩ := o
      cases down
      simp [system,exec,Storage.setHealth]

-- The breakers are right in exactly the runs that never open or trip one.
theorem circuit_breaker_exact (c : StorageOrchestrator) (actions : List StorageAction) :
    BreakerCorrect c actions ↔ Along c.system.step (KeepsClosed c) ⟨.start,[]⟩ actions := by
  constructor
  · intro given
    obtain ⟨_,along⟩ := given
    refine along_gives (fun p action handled _ => step_handled c p action handled) ?_ (start_handled c) along
    rintro p action handled ⟨opens,recovers⟩
    exact recovers_keeps c p action handled opens recovers
  · intro along
    refine ⟨closed_recovers c _ start_closed,?_⟩
    refine along_gives (fun p action closed keeps => (step_closed c p action closed keeps).1) ?_
      start_closed along
    intro p action closed keeps
    obtain ⟨later,opens⟩ := step_closed c p action closed keeps
    exact ⟨opens,closed_recovers c _ later⟩

section Failing

def onlyS3 (cbThreshold : Int) : StorageOrchestrator :=
  ⟨false,false,true,false,1,1000,true,cbThreshold,30,fun _ => ""⟩

-- One record is stored, and every upload of it fails: the store's own and those of
-- the flushes after it. Each flush takes, guards, uploads and restores the batch;
-- the runs below end with an upload.
def failedStore : List StorageAction :=
  .outside (.storeTransaction .empty "u") :: List.replicate 6 (.run 0 ⟨.failed,false⟩)

def failedFlush (n : Nat) : List StorageAction := .outside .flushS3Buffer :: List.replicate 4 (.run n ⟨.failed,false⟩)

def threeFailures : List StorageAction :=
  failedStore ++ failedFlush 1 ++ .outside .flushS3Buffer :: List.replicate 2 (.run 2 ⟨.failed,false⟩)

def fiveFailures : List StorageAction :=
  failedStore ++ failedFlush 1 ++ failedFlush 2 ++ failedFlush 3 ++
    .outside .flushS3Buffer :: List.replicate 2 (.run 4 ⟨.failed,false⟩)

-- With a threshold of three the third failure opens nothing, and with the default
-- of five the fifth opens a breaker that no later write gets past.
theorem breaker_ignores_settings :
    ¬BreakerCorrect (onlyS3 3) (threeFailures ++ [.run 2 ⟨.failed,false⟩]) ∧
      ¬BreakerCorrect (onlyS3 5) (fiveFailures ++ [.run 4 ⟨.failed,false⟩]) := by
  constructor
  · intro given
    obtain ⟨_,along⟩ := given
    obtain ⟨opens,_⟩ := along_at along
    have opened := (opens .s3).mpr ⟨by decide +kernel,by decide +kernel⟩
    exact absurd opened.2 (by decide +kernel)
  · intro given
    obtain ⟨_,along⟩ := given
    obtain ⟨_,recovers⟩ := along_at along
    exact recovers_available (onlyS3 5) _ recovers (b:=.s3) rfl (by decide +kernel)

end Failing

end RiskPulse.StorageOrchestrator
