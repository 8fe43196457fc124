import RiskPulse.AlertSteps
import RiskPulse.Library.Interleaving

namespace RiskPulse

-- The locked sections of the calls that are still to be run. What a section reads of
-- the clock, and whether the producer takes the message, is the outcome.
inductive AlertTask where
  | checkSuppression (request : Request) (assessed : Assessed)
  | checkDuplicate (request : Request) (assessed : Assessed)
  | checkThrottle (request : Request) (assessed : Assessed) (checked : Rat)
  | createAlert (request : Request) (assessed : Assessed) (checked : Rat)
  | recordGenerated (severity : AlertSeverity) (alertType : AlertType)
  | publishAlert
  | recordSuppressed
  | recordDeduplicated
  | transition (alertId : String) (newStatus : AlertStatus) (assignedTo resolutionNotes : Option String)
  | recordStatusChange (oldStatus newStatus : AlertStatus)

structure SectionOutcome where
  clock : Rat
  produced : Bool

inductive AlertEvent where
  | generate (request : Request)
  | transition (alertId : String) (newStatus : AlertStatus) (assignedTo resolutionNotes : Option String)

namespace AlertManager
open Interleaved Runs

-- A section that raises ends its call.
def afterwards (run : Except String α × AlertState) (next : α → List AlertTask) :
    AlertState × Option (List AlertTask) :=
  match run with
  | (.ok a,s) => (s,some (next a))
  | (.error _,s) => (s,none)

def exec (m : AlertManager) (task : AlertTask) (o : SectionOutcome) (s : AlertState) :
    AlertState × Option (List AlertTask) :=
  match task with
  | .checkSuppression r a => afterwards (checkSuppression m a.accountId o.clock s) fun suppressed =>
    if suppressed then [.recordSuppressed] else [.checkDuplicate r a]
  | .checkDuplicate r a => afterwards (checkDuplicate m a o.clock s) fun duplicate =>
    if duplicate then [.recordDeduplicated] else [.checkThrottle r a o.clock]
  | .checkThrottle r a checked => afterwards (checkThrottle m a o.clock s) fun throttled =>
    if throttled.1 then [.recordSuppressed] else [.createAlert r a checked]
  | .createAlert r a checked => afterwards (createAlert m r a checked o.clock s) fun alert =>
    [.recordGenerated alert.severity alert.alertType,.publishAlert]
  | .recordGenerated severity alertType =>
    afterwards (changeStatistics (fun stats => stats.recordGenerated severity alertType) s) fun _ => []
  | .publishAlert => afterwards (publishAlert m o.produced s) fun _ => []
  | .recordSuppressed => afterwards (changeStatistics AlertStatistics.recordSuppressed s) fun _ => []
  | .recordDeduplicated => afterwards (changeStatistics AlertStatistics.recordDeduplicated s) fun _ => []
  | .transition alertId newStatus assignedTo resolutionNotes =>
    afterwards (applyTransition m alertId newStatus assignedTo resolutionNotes o.clock s) fun
      | none => []
      | some (oldStatus,_) => [.recordStatusChange oldStatus newStatus]
  | .recordStatusChange oldStatus newStatus =>
    afterwards (changeStatistics (fun stats => stats.recordStatusChange oldStatus newStatus) s) fun _ => []

-- The arguments of a call are read before its first section.
def starts : AlertEvent → List AlertTask
  | .generate r =>
    match assess r.scoringResult r.transaction with
    | .ok a => [.checkSuppression r a]
    | .error _ => []
  | .transition alertId newStatus assignedTo resolutionNotes =>
    [.transition alertId newStatus assignedTo resolutionNotes]

def system (m : AlertManager) : Interleaved AlertState AlertTask SectionOutcome AlertEvent :=
  ⟨exec m,fun e s => (s,starts e)⟩

abbrev AlertPool := Pool AlertState AlertTask

abbrev AlertStep := Interleaved.Action SectionOutcome AlertEvent

def AlertPool.start : AlertPool := ⟨.start,[]⟩

def storedWith (s : AlertState) (status : AlertStatus) : Int := s.alerts.count fun alert => decide (alert.status = status)

def storedAlerts (s : AlertState) : Int := s.alerts.count fun _ => true

-- What the tasks still to be run will add to the counters.
def dueStatus (status : AlertStatus) : AlertTask → Int
  | .recordGenerated _ _ => if AlertStatus.open = status then 1 else 0
  | .recordStatusChange oldStatus newStatus =>
    (if newStatus = status then 1 else 0) - if oldStatus = status then 1 else 0
  | _ => 0

def dueTotal : AlertTask → Int
  | .recordGenerated _ _ => 1
  | _ => 0

-- What the counter of a status has too many of, once those are added.
def excess (status : AlertStatus) (p : AlertPool) : Int :=
  p.shared.statistics.byStatus status + weight (dueStatus status) p - storedWith p.shared status

-- The task records a move from a status whose counter is at zero.
def clamps (s : AlertState) (status : AlertStatus) : AlertTask → Int
  | .recordStatusChange oldStatus _ => if oldStatus = status ∧ s.statistics.byStatus status ≤ 0 then 1 else 0
  | _ => 0

def clamped (p : AlertPool) (status : AlertStatus) : AlertStep → Int
  | .outside _ => 0
  | .run n _ =>
    match p.calls[n]? with
    | some (task :: _) => clamps p.shared status task
    | _ => 0

-- Whenever a move is recorded, the status it leaves is counted at least once.
def Counted (p : AlertPool) : AlertStep → Prop
  | .outside _ => True
  | .run n _ => ∀ oldStatus newStatus rest, p.calls[n]? = some (.recordStatusChange oldStatus newStatus :: rest) →
    0 < p.shared.statistics.byStatus oldStatus

-- The tasks that neither count an alert nor record a move.
def Idle : AlertTask → Prop
  | .recordGenerated _ _ => False
  | .recordStatusChange _ _ => False
  | _ => True

theorem idle_status (idle : Idle task) (status : AlertStatus) : dueStatus status task = 0 := by
  cases task with
  | recordGenerated => cases idle
  | recordStatusChange => cases idle
  | _ => rfl

theorem idle_total (idle : Idle task) : dueTotal task = 0 := by
  cases task with
  | recordGenerated => cases idle
  | _ => rfl

theorem idle_clamps (idle : Idle task) (s : AlertState) (status : AlertStatus) : clamps s status task = 0 := by
  cases task with
  | recordStatusChange => cases idle
  | _ => rfl

theorem idle_sum {due : AlertTask → Int} (zero : ∀ task, Idle task → due task = 0) {tasks : List AlertTask}
    (idle : ∀ task ∈ tasks, Idle task) : (tasks.map due).sum = 0 := by
  induction tasks with
  | nil => rfl
  | cons task rest ih =>
    rw [List.map_cons,List.sum_cons,zero task (idle task List.mem_cons_self),
      ih fun other member => idle other (List.mem_cons_of_mem _ member),add_zero]

-- Everything a section can do to the store and to the counters of statuses.
inductive Did (m : AlertManager) (s : AlertState) : AlertTask → AlertState → Option (List AlertTask) → Prop where
  | idle {task : AlertTask} {t : AlertState} {next : Option (List AlertTask)} (idle : Idle task)
      (byStatus : t.statistics.byStatus = s.statistics.byStatus)
      (total : t.statistics.totalGenerated = s.statistics.totalGenerated) (alerts : t.alerts = s.alerts)
      (issued : t.issued = s.issued) (after : ∀ tasks, next = some tasks → ∀ later ∈ tasks, Idle later) :
      Did m s task t next
  | created {r : Request} {a : Assessed} {checked : Rat} {t : AlertState} (alert : Alert)
      (alertId : alert.alertId = m.uuid4 s.issued) (status : alert.status = .open)
      (alerts : t.alerts = s.alerts.set alert.alertId alert) (issued : t.issued = s.issued + 1)
      (statistics : t.statistics = s.statistics) :
      Did m s (.createAlert r a checked) t (some [.recordGenerated alert.severity alert.alertType,.publishAlert])
  | counted {severity : AlertSeverity} {alertType : AlertType} {t : AlertState}
      (statistics : t.statistics = s.statistics.recordGenerated severity alertType) (alerts : t.alerts = s.alerts)
      (issued : t.issued = s.issued) : Did m s (.recordGenerated severity alertType) t (some [])
  | moved {alertId : String} {newStatus : AlertStatus} {assignedTo resolutionNotes : Option String} {t : AlertState}
      (alert updated : Alert) (found : s.alerts.get? alertId = some alert) (status : updated.status = newStatus)
      (alerts : t.alerts = s.alerts.set alertId updated) (issued : t.issued = s.issued)
      (statistics : t.statistics = s.statistics) :
      Did m s (.transition alertId newStatus assignedTo resolutionNotes) t (some [.recordStatusChange alert.status newStatus])
  | changed {oldStatus newStatus : AlertStatus} {t : AlertState}
      (statistics : t.statistics = s.statistics.recordStatusChange oldStatus newStatus) (alerts : t.alerts = s.alerts)
      (issued : t.issued = s.issued) : Did m s (.recordStatusChange oldStatus newStatus) t (some [])

theorem did_idle {run : Except String α × AlertState} {next : α → List AlertTask} (idle : Idle task)
    (byStatus : run.2.statistics.byStatus = s.statistics.byStatus)
    (total : run.2.statistics.totalGenerated = s.statistics.totalGenerated) (alerts : run.2.alerts = s.alerts)
    (issued : run.2.issued = s.issued) (after : ∀ a, ∀ later ∈ next a, Idle later) :
    Did m s task (afterwards run next).1 (afterwards run next).2 := by
  rcases run with ⟨answer,t⟩
  cases answer with
  | error e =>
    refine .idle idle byStatus total alerts issued fun tasks same => ?_
    cases same
  | ok a =>
    refine .idle idle byStatus total alerts issued fun tasks same => ?_
    cases same
    exact after a

theorem idle_one (idle : Idle task) : ∀ later ∈ [task], Idle later := by
  intro later member
  rw [List.mem_singleton.mp member]
  exact idle

theorem createAlert_cases (m : AlertManager) (r : Request) (a : Assessed) (checked created : Rat) (s : AlertState) :
    (∃ e, createAlert m r a checked created s = (.error e,s)) ∨
    ∃ alert t, createAlert m r a checked created s = (.ok alert,t) ∧ alert.alertId = m.uuid4 s.issued ∧
      alert.status = .open ∧ t.alerts = s.alerts.set alert.alertId alert ∧ t.issued = s.issued + 1 ∧
      t.statistics = s.statistics := by
  unfold createAlert
  cases buildDescription m a r.transaction with
  | error e => exact .inl ⟨e,rfl⟩
  | ok description => exact .inr ⟨_,_,rfl,rfl,rfl,rfl,rfl,rfl⟩

theorem applyTransition_cases (m : AlertManager) (alertId : String) (newStatus : AlertStatus)
    (assignedTo resolutionNotes : Option String) (now : Rat) (s : AlertState) :
    applyTransition m alertId newStatus assignedTo resolutionNotes now s = (.ok none,s) ∨
    ∃ alert updated t, applyTransition m alertId newStatus assignedTo resolutionNotes now s =
        (.ok (some (alert.status,updated)),t) ∧ s.alerts.get? alertId = some alert ∧ updated.status = newStatus ∧
      t.alerts = s.alerts.set alertId updated ∧ t.issued = s.issued ∧ t.statistics = s.statistics := by
  unfold applyTransition
  cases s.alerts.get? alertId with
  | none => exact .inl rfl
  | some alert =>
    by_cases invalid : isValidTransition m alert.status newStatus = false
    · exact .inl (if_pos invalid)
    · simp only [if_neg invalid]
      cases suppressionReason alertId newStatus with
      | none => exact .inr ⟨alert,_,_,rfl,rfl,rfl,rfl,rfl,rfl⟩
      | some reason => exact .inr ⟨alert,_,_,rfl,rfl,rfl,rfl,rfl,rfl⟩

theorem exec_did (m : AlertManager) (task : AlertTask) (o : SectionOutcome) (s : AlertState) :
    Did m s task (exec m task o s).1 (exec m task o s).2 := by
  cases task with
  | checkSuppression r a =>
    have same : ∀ account now, (checkSuppression m account now s).2.statistics = s.statistics ∧
        (checkSuppression m account now s).2.alerts = s.alerts ∧
        (checkSuppression m account now s).2.issued = s.issued := by
      intro account now
      unfold checkSuppression
      split
      · exact ⟨rfl,rfl,rfl⟩
      · exact ⟨rfl,rfl,rfl⟩
    obtain ⟨statistics,alerts,issued⟩ := same a.accountId o.clock
    refine did_idle trivial (by rw [statistics]) (by rw [statistics]) alerts issued fun suppressed => ?_
    cases suppressed with
    | false => exact idle_one trivial
    | true => exact idle_one trivial
  | checkDuplicate r a =>
    refine did_idle trivial rfl rfl rfl rfl fun duplicate => ?_
    cases duplicate with
    | false => exact idle_one trivial
    | true => exact idle_one trivial
  | checkThrottle r a checked =>
    refine did_idle trivial rfl rfl rfl rfl fun answer => ?_
    obtain ⟨throttled,reason⟩ := answer
    cases throttled with
    | false => exact idle_one trivial
    | true => exact idle_one trivial
  | createAlert r a checked =>
    simp only [exec]
    rcases createAlert_cases m r a checked o.clock s with ⟨e,raised⟩ | ⟨alert,t,ran,alertId,status,alerts,issued,statistics⟩
    · rw [raised]
      refine .idle trivial rfl rfl rfl rfl fun tasks same => ?_
      cases same
    · rw [ran]
      exact .created alert alertId status alerts issued statistics
  | recordGenerated severity alertType => exact .counted rfl rfl rfl
  | publishAlert =>
    have same : (publishAlert m o.produced s).2.statistics.byStatus = s.statistics.byStatus ∧
        (publishAlert m o.produced s).2.statistics.totalGenerated = s.statistics.totalGenerated ∧
        (publishAlert m o.produced s).2.alerts = s.alerts ∧ (publishAlert m o.produced s).2.issued = s.issued := by
      unfold publishAlert
      split
      · exact ⟨rfl,rfl,rfl,rfl⟩
      · exact ⟨rfl,rfl,rfl,rfl⟩
    obtain ⟨byStatus,total,alerts,issued⟩ := same
    exact did_idle trivial byStatus total alerts issued fun _ _ member => (List.not_mem_nil member).elim
  | recordSuppressed => exact did_idle trivial rfl rfl rfl rfl fun _ _ member => (List.not_mem_nil member).elim
  | recordDeduplicated => exact did_idle trivial rfl rfl rfl rfl fun _ _ member => (List.not_mem_nil member).elim
  | transition alertId newStatus assignedTo resolutionNotes =>
    simp only [exec]
    rcases applyTransition_cases m alertId newStatus assignedTo resolutionNotes o.clock s with
      refused | ⟨alert,updated,t,ran,found,status,alerts,issued,statistics⟩
    · rw [refused]
      refine .idle trivial rfl rfl rfl rfl fun tasks same => ?_
      cases same
      exact fun _ member => (List.not_mem_nil member).elim
    · rw [ran]
      exact .moved alert updated found status alerts issued statistics
  | recordStatusChange oldStatus newStatus => exact .changed rfl rfl rfl

-- Every stored alert has an id that was drawn; so the next one is of none of them.
def KnownIds (m : AlertManager) (s : AlertState) : Prop := ∀ key ∈ s.alerts.keys, ∃ i < s.issued, key = m.uuid4 i

theorem next_id_fresh (ids : KnownIds m s) : m.uuid4 s.issued ∉ s.alerts.keys := by
  intro taken
  obtain ⟨i,before,same⟩ := ids _ taken
  exact absurd (m.distinct same) (Nat.ne_of_gt before)

section Sections
variable {m : AlertManager} {s t : AlertState}

theorem did_ids (did : Did m s task t next) (ids : KnownIds m s) : KnownIds m t := by
  cases did with
  | idle _ _ _ alerts issued | counted _ alerts issued | changed _ alerts issued =>
    unfold KnownIds
    rw [alerts,issued]
    exact ids
  | created alert alertId status alerts issued statistics =>
    unfold KnownIds
    rw [alerts,issued]
    intro key member
    rcases (OrderedDict.mem_keys_set _ _ _ _).mp member with rfl | old
    · exact ⟨s.issued,Nat.lt_succ_self _,alertId⟩
    · obtain ⟨i,before,same⟩ := ids key old
      exact ⟨i,Nat.lt_succ_of_lt before,same⟩
  | @moved alertId _ _ _ _ alert updated found status alerts issued statistics =>
    unfold KnownIds
    rw [alerts,issued]
    intro key member
    rcases (OrderedDict.mem_keys_set _ _ _ _).mp member with rfl | old
    · exact ids key ((OrderedDict.mem_keys _ _).mpr ⟨alert,found⟩)
    · exact ids key old

theorem did_waiting (did : Did m s task t (some tasks)) : ∀ later ∈ tasks.tail, Idle later := by
  cases did with
  | idle _ _ _ _ _ after => exact fun later member => after tasks rfl later (List.mem_of_mem_tail member)
  | created => exact idle_one trivial
  | counted | changed | moved => exact fun _ member => (List.not_mem_nil member).elim

theorem did_ends (did : Did m s task t none) : Idle task ∧ t.statistics.byStatus = s.statistics.byStatus ∧
    t.statistics.totalGenerated = s.statistics.totalGenerated ∧ t.alerts = s.alerts := by
  cases did with
  | idle idle byStatus total alerts => exact ⟨idle,byStatus,total,alerts⟩

theorem did_nonneg (did : Did m s task t next) (nonneg : ∀ status, 0 ≤ s.statistics.byStatus status)
    (status : AlertStatus) : 0 ≤ t.statistics.byStatus status := by
  cases did with
  | idle _ byStatus =>
    rw [byStatus]
    exact nonneg status
  | created _ _ _ _ _ statistics | moved _ _ _ _ _ _ statistics =>
    rw [statistics]
    exact nonneg status
  | counted statistics =>
    have before := nonneg .open
    rw [statistics,AlertStatistics.recordGenerated]
    simp only
    rw [Function.update_apply]
    split
    · omega
    · exact nonneg status
  | @changed oldStatus newStatus t statistics =>
    have lowered : ∀ status, 0 ≤ Function.update s.statistics.byStatus oldStatus
        (max 0 (s.statistics.byStatus oldStatus - 1)) status := by
      intro status
      rw [Function.update_apply]
      split
      · exact le_max_left _ _
      · exact nonneg status
    have raised := lowered newStatus
    rw [statistics,AlertStatistics.recordStatusChange]
    simp only
    rw [Function.update_apply]
    split
    · omega
    · exact lowered status

-- What one section does to the books of a status: what it leaves to be added goes
-- with what it stores, and only a clamp adds to the counter out of nothing.
theorem did_status (did : Did m s task t (some tasks)) (ids : KnownIds m s)
    (nonneg : ∀ status, 0 ≤ s.statistics.byStatus status) (status : AlertStatus) :
    t.statistics.byStatus status + (tasks.map (dueStatus status)).sum - storedWith t status =
      s.statistics.byStatus status + dueStatus status task - storedWith s status + clamps s status task := by
  cases did with
  | idle idle byStatus total alerts issued after =>
    rw [byStatus,storedWith,alerts,idle_sum (fun task idle => idle_status idle status) (after tasks rfl),
      idle_status idle,idle_clamps idle,add_zero,add_zero]
    rfl
  | created alert alertId opened alerts issued statistics =>
    have fresh := next_id_fresh ids
    rw [← alertId] at fresh
    have counted := OrderedDict.count_set_fresh (fun alert => decide (alert.status = status)) s.alerts fresh alert
    rw [statistics,storedWith,storedWith,alerts,counted,opened]
    simp only [List.map_cons,List.map_nil,List.sum_cons,List.sum_nil,dueStatus,clamps,decide_eq_true_eq]
    split <;> push_cast <;> omega
  | counted statistics alerts issued =>
    rw [statistics,storedWith,alerts,AlertStatistics.recordGenerated]
    simp only [List.map_nil,List.sum_nil,dueStatus,clamps,Function.update_apply,storedWith]
    by_cases opened : status = .open
    · rw [if_pos opened,if_pos opened.symm,opened]
      omega
    · rw [if_neg opened,if_neg (Ne.symm opened)]
      omega
  | @moved alertId newStatus _ _ t alert updated found changed alerts issued statistics =>
    have counted := OrderedDict.count_set (fun alert => decide (alert.status = status)) s.alerts found updated
    simp only [changed,decide_eq_true_eq] at counted
    rw [statistics,storedWith,storedWith,alerts]
    simp only [List.map_cons,List.map_nil,List.sum_cons,List.sum_nil,dueStatus,clamps]
    split_ifs at counted ⊢ <;> omega
  | @changed oldStatus newStatus t statistics alerts issued =>
    have before := nonneg oldStatus
    rw [statistics,storedWith,alerts,AlertStatistics.recordStatusChange]
    simp only [List.map_nil,List.sum_nil,dueStatus,clamps,Function.update_apply,storedWith]
    by_cases left : oldStatus = status
    · subst left
      by_cases stays : newStatus = oldStatus
      · subst stays
        simp only [if_true,true_and]
        split_ifs <;> omega
      · have other : ¬oldStatus = newStatus := fun same => stays same.symm
        simp only [if_neg stays,if_neg other,if_true,true_and]
        split_ifs <;> omega
    · have other : ¬status = oldStatus := fun same => left same.symm
      simp only [if_neg other,left,false_and,if_false]
      by_cases entered : status = newStatus
      · subst entered
        simp only [if_true,if_neg other]
        omega
      · have different : ¬newStatus = status := fun same => entered same.symm
        simp only [if_neg entered,if_neg different]
        omega

theorem did_total (did : Did m s task t (some tasks)) (ids : KnownIds m s) :
    t.statistics.totalGenerated + (tasks.map dueTotal).sum - storedAlerts t =
      s.statistics.totalGenerated + dueTotal task - storedAlerts s := by
  cases did with
  | idle idle byStatus total alerts issued after =>
    rw [total,storedAlerts,alerts,idle_sum (fun task idle => idle_total idle) (after tasks rfl),idle_total idle]
    rfl
  | created alert alertId opened alerts issued statistics =>
    have fresh := next_id_fresh ids
    rw [← alertId] at fresh
    have counted := OrderedDict.count_set_fresh (fun _ => true) s.alerts fresh alert
    rw [statistics,storedAlerts,storedAlerts,alerts,counted]
    simp only [List.map_cons,List.map_nil,List.sum_cons,List.sum_nil,dueTotal,if_true]
    push_cast
    omega
  | counted statistics alerts issued =>
    rw [statistics,storedAlerts,alerts,AlertStatistics.recordGenerated]
    simp only [List.map_nil,List.sum_nil,dueTotal,storedAlerts]
    omega
  | moved alert updated found changed alerts issued statistics =>
    have counted := OrderedDict.count_set (fun _ => true) s.alerts found updated
    rw [statistics,storedAlerts,storedAlerts,alerts]
    simp only [List.map_cons,List.map_nil,List.sum_cons,List.sum_nil,dueTotal]
    omega
  | changed statistics alerts issued =>
    rw [statistics,storedAlerts,alerts]
    simp only [List.map_nil,List.sum_nil,dueTotal,storedAlerts,AlertStatistics.recordStatusChange]

end Sections

structure Tracked (m : AlertManager) (p : AlertPool) : Prop where
  ids : KnownIds m p.shared
  nonneg : ∀ status, 0 ≤ p.shared.statistics.byStatus status
  waiting : AllTails Idle p
  total : p.shared.statistics.totalGenerated + weight dueTotal p = storedAlerts p.shared

theorem starts_idle (e : AlertEvent) : ∀ task ∈ starts e, Idle task := by
  cases e with
  | generate r =>
    simp only [starts]
    cases assess r.scoringResult r.transaction with
    | ok a => exact idle_one trivial
    | error e => exact fun _ member => (List.not_mem_nil member).elim
  | transition => exact idle_one trivial

-- The tasks behind one that raises weigh nothing.
theorem behind_idle {p : AlertPool} (tracked : Tracked m p) (split : p.calls = before ++ (task :: rest) :: after) :
    ∀ later ∈ rest, Idle later :=
  fun later member => tracked.waiting (task :: rest) (by rw [split]; simp) later member

theorem step_tracked (m : AlertManager) (p : AlertPool) (action : AlertStep) (tracked : Tracked m p) :
    Tracked m (m.system.step p action) := by
  rcases m.system.step_cases p action with ⟨e,rfl,stepped⟩ | ⟨n,o,task,rest,before,after,rfl,found,split,stepped⟩ |
    ⟨same,_⟩
  · rw [stepped]
    have idle : ∀ task ∈ (m.system.event e p.shared).2, Idle task := starts_idle e
    refine ⟨tracked.ids,tracked.nonneg,allTails_outside tracked.waiting fun task member =>
      idle task (List.mem_of_mem_tail member),?_⟩
    rw [weight_outside,idle_sum (fun task idle => idle_total idle) idle,add_zero]
    exact tracked.total
  · have did : Did m p.shared task (m.system.exec task o p.shared).1 (m.system.exec task o p.shared).2 :=
      exec_did m task o p.shared
    rw [stepped]
    generalize (m.system.exec task o p.shared).1 = t at did ⊢
    generalize (m.system.exec task o p.shared).2 = next at did ⊢
    refine ⟨did_ids did tracked.ids,did_nonneg did tracked.nonneg,allTails_run tracked.waiting split
      fun tasks same => did_waiting (same ▸ did),?_⟩
    have balance := tracked.total
    cases next with
    | none =>
      obtain ⟨idle,byStatus,total,alerts⟩ := did_ends did
      have weighed := weight_end dueTotal p t split
      rw [idle_total idle,idle_sum (fun task idle => idle_total idle) (behind_idle tracked split),add_zero,add_zero] at weighed
      simp only [storedAlerts,total,alerts,weighed]
      exact balance
    | some tasks =>
      have moved := did_total did tracked.ids
      have weighed := weight_run dueTotal p t split tasks
      simp only
      omega
  · rw [same]
    exact tracked

theorem step_excess (m : AlertManager) (p : AlertPool) (action : AlertStep) (tracked : Tracked m p)
    (status : AlertStatus) : excess status (m.system.step p action) = excess status p + clamped p status action := by
  rcases m.system.step_cases p action with ⟨e,rfl,stepped⟩ | ⟨n,o,task,rest,before,after,rfl,found,split,stepped⟩ |
    ⟨same,n,o,rfl,ended⟩
  · rw [stepped]
    have idle : ∀ task ∈ (m.system.event e p.shared).2, Idle task := starts_idle e
    unfold excess
    rw [weight_outside,idle_sum (fun task idle => idle_status idle status) idle,add_zero,clamped,add_zero]
    rfl
  · have did : Did m p.shared task (m.system.exec task o p.shared).1 (m.system.exec task o p.shared).2 :=
      exec_did m task o p.shared
    rw [stepped]
    generalize (m.system.exec task o p.shared).1 = t at did ⊢
    generalize (m.system.exec task o p.shared).2 = next at did ⊢
    simp only [clamped,found]
    unfold excess
    cases next with
    | none =>
      obtain ⟨idle,byStatus,total,alerts⟩ := did_ends did
      have weighed := weight_end (dueStatus status) p t split
      rw [idle_status idle,idle_sum (fun task idle => idle_status idle status) (behind_idle tracked split),add_zero,
        add_zero] at weighed
      simp only [storedWith,byStatus,alerts,weighed,idle_clamps idle,add_zero]
    | some tasks =>
      have moved := did_status did tracked.ids tracked.nonneg status
      have weighed := weight_run (dueStatus status) p t split tasks
      simp only
      omega
  · rw [same]
    have nothing : clamped p status (.run n o) = 0 := by
      rcases found : p.calls[n]? with _ | _ | ⟨task,rest⟩
      · simp only [clamped,found]
      · simp only [clamped,found]
      · exact (ended task rest found).elim
    rw [nothing,add_zero]

theorem clamped_nonneg (p : AlertPool) (status : AlertStatus) (action : AlertStep) : 0 ≤ clamped p status action := by
  cases action with
  | outside => exact le_rfl
  | run n o =>
    simp only [clamped]
    split
    · rename_i task rest found
      cases task with
      | recordStatusChange =>
        simp only [clamps]
        split
        · exact Int.one_nonneg
        · exact le_rfl
      | _ => exact le_rfl
    · exact le_rfl

theorem counted_exact (p : AlertPool) (action : AlertStep) :
    Counted p action ↔ ∀ status, clamped p status action = 0 := by
  cases action with
  | outside => exact iff_of_true trivial fun _ => rfl
  | run n o =>
    constructor
    · intro counted status
      simp only [clamped]
      split
      · rename_i task rest found
        cases task with
        | recordStatusChange oldStatus newStatus =>
          have positive := counted oldStatus newStatus rest found
          refine if_neg fun both => ?_
          obtain ⟨rfl,empty⟩ := both
          omega
        | _ => rfl
      · rfl
    · intro zero oldStatus newStatus rest found
      have nothing := zero oldStatus
      simp only [clamped,found,clamps,true_and] at nothing
      by_contra empty
      rw [if_pos (not_lt.mp empty)] at nothing
      cases nothing

-- The excess only grows, and stays what it is in the runs that clamp nothing.
theorem run_excess (m : AlertManager) (actions : List AlertStep) (p : AlertPool) (tracked : Tracked m p) :
    (∀ status, excess status p ≤ excess status (run m.system.step p actions)) ∧
      ((∀ status, excess status (run m.system.step p actions) = excess status p) ↔ Along m.system.step Counted p actions) := by
  induction actions generalizing p with
  | nil => exact ⟨fun _ => le_rfl,iff_of_true (fun _ => rfl) trivial⟩
  | cons action rest ih =>
    obtain ⟨grows,same⟩ := ih _ (step_tracked m p action tracked)
    have stepped := step_excess m p action tracked
    have added := fun status => clamped_nonneg p status action
    have unfolded : run m.system.step p (action :: rest) = run m.system.step (m.system.step p action) rest := rfl
    rw [unfolded]
    constructor
    · intro status
      have first := stepped status
      have more := added status
      have later := grows status
      omega
    · rw [Along,← same,counted_exact]
      constructor
      · intro kept
        have zero : ∀ status, clamped p status action = 0 := by
          intro status
          have first := stepped status
          have more := added status
          have later := grows status
          have whole := kept status
          omega
        refine ⟨zero,fun status => ?_⟩
        rw [kept status,stepped status,zero status,add_zero]
      · intro both status
        rw [both.2 status,stepped status,both.1 status,add_zero]

theorem tracked_start (m : AlertManager) : Tracked m AlertPool.start := by
  refine ⟨fun key member => (List.not_mem_nil member).elim,fun _ => le_rfl,fun call member => ?_,rfl⟩
  cases member

theorem run_tracked (m : AlertManager) (actions : List AlertStep) :
    Tracked m (run m.system.step AlertPool.start actions) :=
  run_keeps m.system.step (step_tracked m) (tracked_start m) actions

theorem quiet_weight {due : AlertTask → Int} {p : AlertPool} (quiet : ∀ call ∈ p.calls, call = []) : weight due p = 0 := by
  unfold weight
  have nothing : ∀ call ∈ p.calls, (call.map due).sum = 0 := by
    intro call member
    rw [quiet call member]
    rfl
  rw [List.map_congr_left nothing]
  simp

-- Once no call is in progress, the total is that of the store; and the counters of
-- the statuses are, if and only if no recorded move found its status at zero.
theorem statistics_exact (m : AlertManager) (actions : List AlertStep)
    (quiet : ∀ call ∈ (run m.system.step AlertPool.start actions).calls, call = []) :
    (run m.system.step AlertPool.start actions).shared.statistics.totalGenerated =
        storedAlerts (run m.system.step AlertPool.start actions).shared ∧
      ((∀ status, (run m.system.step AlertPool.start actions).shared.statistics.byStatus status =
          storedWith (run m.system.step AlertPool.start actions).shared status) ↔
        Along m.system.step Counted AlertPool.start actions) := by
  have tracked := run_tracked m actions
  have exact_run := (run_excess m actions AlertPool.start (tracked_start m)).2
  generalize run m.system.step AlertPool.start actions = p at quiet tracked exact_run ⊢
  constructor
  · have balance := tracked.total
    rw [quiet_weight quiet,add_zero] at balance
    exact balance
  · rw [← exact_run]
    refine forall_congr' fun status => ?_
    have start : excess status AlertPool.start = 0 := rfl
    rw [start,excess,quiet_weight quiet]
    omega

def quickOutcome : SectionOutcome := ⟨0,false⟩

-- One call to the end, and then a move of its alert to the end.
def oneByOne : List AlertStep :=
  [.outside (.generate (plainRequest "a-1" [] atOnce)),.run 0 quickOutcome,.run 0 quickOutcome,.run 0 quickOutcome,
    .run 0 quickOutcome,.run 0 quickOutcome,.run 0 quickOutcome,
    .outside (.transition (shipped.uuid4 0) .investigating none none),.run 1 quickOutcome,.run 1 quickOutcome]

-- The move comes when the alert is stored and not counted yet.
def betweenSections : List AlertStep :=
  [.outside (.generate (plainRequest "a-1" [] atOnce)),.run 0 quickOutcome,.run 0 quickOutcome,.run 0 quickOutcome,
    .run 0 quickOutcome,.outside (.transition (shipped.uuid4 0) .investigating none none),.run 1 quickOutcome,
    .run 1 quickOutcome,.run 0 quickOutcome,.run 0 quickOutcome]

theorem oneByOne_total : (run shipped.system.step AlertPool.start oneByOne).shared.statistics.totalGenerated =
    storedAlerts (run shipped.system.step AlertPool.start oneByOne).shared := by
  refine (statistics_exact shipped oneByOne ?_).1
  have quiet : (run shipped.system.step AlertPool.start oneByOne).calls.all List.isEmpty = true := by decide +kernel
  exact fun call member => List.isEmpty_iff.mp (List.all_eq_true.mp quiet call member)

theorem betweenSections_counts_open :
    (∀ call ∈ (run shipped.system.step AlertPool.start betweenSections).calls, call = []) ∧
      (run shipped.system.step AlertPool.start betweenSections).shared.statistics.byStatus .open = 1 ∧
      storedWith (run shipped.system.step AlertPool.start betweenSections).shared .open = 0 := by
  have quiet : (run shipped.system.step AlertPool.start betweenSections).calls.all List.isEmpty = true := by decide +kernel
  exact ⟨fun call member => List.isEmpty_iff.mp (List.all_eq_true.mp quiet call member),by decide +kernel,by decide +kernel⟩

end AlertManager
end RiskPulse
