import RiskPulse.AlertManager
import RiskPulse.Library.Runs

namespace RiskPulse.AlertManager
open Effect

-- The readings of the clock one call takes, and the state its checks leave.
def suppressionTime (r : Request) (s : AlertState) : Rat := s.now + r.toSuppression.1

def checkedTime (r : Request) (s : AlertState) : Rat := suppressionTime r s + r.toDeduplication.1

def throttleTime (r : Request) (s : AlertState) : Rat := checkedTime r s + r.toThrottle.1

def creationTime (r : Request) (s : AlertState) : Rat := throttleTime r s + r.toCreation.1

def suppressed (m : AlertManager) (r : Request) (a : Assessed) (s : AlertState) : Bool × SuppressedAccounts :=
  m.suppression.isSuppressed a.accountId (suppressionTime r s) s.suppressedAccounts

def duplicate (m : AlertManager) (r : Request) (a : Assessed) (s : AlertState) : Bool × Seen :=
  m.deduplication.isDuplicate a.accountId a.ruleId a.alertType (checkedTime r s) s.seen

def throttled (m : AlertManager) (r : Request) (a : Assessed) (s : AlertState) :
    Except String (Bool × String) × ThrottleState :=
  m.throttle.shouldThrottle a.accountId a.ruleId (throttleTime r s) s.throttle

def afterSuppression (m : AlertManager) (r : Request) (a : Assessed) (s : AlertState) : AlertState :=
  {s with now := suppressionTime r s,suppressedAccounts := (suppressed m r a s).2}

def afterDuplicate (m : AlertManager) (r : Request) (a : Assessed) (s : AlertState) : AlertState :=
  {afterSuppression m r a s with now := checkedTime r s,seen := (duplicate m r a s).2}

def afterThrottle (m : AlertManager) (r : Request) (a : Assessed) (s : AlertState) : AlertState :=
  {afterDuplicate m r a s with now := throttleTime r s,throttle := (throttled m r a s).2}

-- Two states that differ in nothing but the statistics.
structure SameButStatistics (s t : AlertState) : Prop where
  now : t.now = s.now
  seen : t.seen = s.seen
  suppressedAccounts : t.suppressedAccounts = s.suppressedAccounts
  throttle : t.throttle = s.throttle
  alerts : t.alerts = s.alerts
  issued : t.issued = s.issued
  generated : t.generated = s.generated
  moved : t.moved = s.moved

theorem same_statistics (s : AlertState) (statistics : AlertStatistics) :
    SameButStatistics s {s with statistics := statistics} := ⟨rfl,rfl,rfl,rfl,rfl,rfl,rfl,rfl⟩

theorem same_self (s : AlertState) : SameButStatistics s s := ⟨rfl,rfl,rfl,rfl,rfl,rfl,rfl,rfl⟩

-- The checks a call passes before it is recorded as generated.
structure Passes (m : AlertManager) (r : Request) (a : Assessed) (s : AlertState) : Prop where
  hashable : a.accountId.hashable = true
  unsuppressed : (suppressed m r a s).1 = false
  fresh : (duplicate m r a s).1 = false

-- The throttle lets the call through and its description can be written.
def Completes (m : AlertManager) (r : Request) (a : Assessed) (s : AlertState) : Prop :=
  (∃ reason, (throttled m r a s).1 = .ok (false,reason)) ∧ ∃ description, buildDescription m a r.transaction = .ok description

-- What a stored alert leaves.
structure Stored (m : AlertManager) (r : Request) (a : Assessed) (s : AlertState) (alert : Alert) (t : AlertState) :
    Prop where
  now : t.now = creationTime r s
  seen : t.seen = (duplicate m r a s).2
  suppressedAccounts : t.suppressedAccounts = (suppressed m r a s).2
  throttle : t.throttle = (throttled m r a s).2
  alerts : t.alerts = s.alerts.set alert.alertId alert
  issued : t.issued = s.issued + 1
  generated : t.generated = s.generated ++ [⟨a.accountId,a.ruleId,a.alertType,checkedTime r s⟩]
  moved : t.moved = s.moved
  alertId : alert.alertId = m.uuid4 s.issued
  account : alert.accountId = a.accountId
  status : alert.status = .open

-- Everything a generate_alert call can do.
inductive Generates (m : AlertManager) (r : Request) (s : AlertState) : Except String Generation → AlertState → Prop where
  | unread {e : String} (raised : assess r.scoringResult r.transaction = .error e) : Generates m r s (.error e) s
  | unhashable {a : Assessed} {e : String} (read : assess r.scoringResult r.transaction = .ok a)
      (unhashable : a.accountId.hashable = false) : Generates m r s (.error e) {s with now := suppressionTime r s}
  | suppressed {a : Assessed} {t : AlertState} (read : assess r.scoringResult r.transaction = .ok a)
      (hashable : a.accountId.hashable = true) (held : (suppressed m r a s).1 = true)
      (same : SameButStatistics (afterSuppression m r a s) t) : Generates m r s (.ok .suppressed) t
  | deduplicated {a : Assessed} {t : AlertState} (read : assess r.scoringResult r.transaction = .ok a)
      (hashable : a.accountId.hashable = true) (free : (AlertManager.suppressed m r a s).1 = false)
      (known : (duplicate m r a s).1 = true) (same : SameButStatistics (afterDuplicate m r a s) t) :
      Generates m r s (.ok .deduplicated) t
  | throttled {a : Assessed} {reason : String} {t : AlertState}
      (read : assess r.scoringResult r.transaction = .ok a) (passes : Passes m r a s)
      (limited : (throttled m r a s).1 = .ok (true,reason)) (same : SameButStatistics (afterThrottle m r a s) t) :
      Generates m r s (.ok (.throttled reason)) t
  | raised {a : Assessed} {e : String} (read : assess r.scoringResult r.transaction = .ok a) (passes : Passes m r a s)
      (fails : (AlertManager.throttled m r a s).1 = .error e) : Generates m r s (.error e) (afterThrottle m r a s)
  | undescribed {a : Assessed} {reason e : String} (read : assess r.scoringResult r.transaction = .ok a)
      (passes : Passes m r a s) (admitted : (AlertManager.throttled m r a s).1 = .ok (false,reason))
      (fails : buildDescription m a r.transaction = .error e) :
      Generates m r s (.error e) {afterThrottle m r a s with now := creationTime r s}
  | generated {a : Assessed} {reason description : String} {alert : Alert} {t : AlertState}
      (read : assess r.scoringResult r.transaction = .ok a) (passes : Passes m r a s)
      (admitted : (AlertManager.throttled m r a s).1 = .ok (false,reason))
      (described : buildDescription m a r.transaction = .ok description) (stored : Stored m r a s alert t) :
      Generates m r s (.ok (.generated alert)) t

theorem Generates.ran {run : Except String Generation × AlertState} (ran : run = (outcome,t))
    (generates : Generates m r s outcome t) : Generates m r s run.1 run.2 := by
  rw [ran]
  exact generates

section Binds
variable {f : α → Effect AlertState β} {s : AlertState}

theorem tick_bind (elapsed : Elapsed) (f : Rat → Effect AlertState β) :
    (tick elapsed >>= f) s = f (s.now + elapsed.1) {s with now := s.now + elapsed.1} := rfl

theorem suppression_bind (m : AlertManager) (hashable : accountId.hashable = true) (now : Rat)
    (f : Bool → Effect AlertState β) : (checkSuppression m accountId now >>= f) s =
      f (m.suppression.isSuppressed accountId now s.suppressedAccounts).1
        {s with suppressedAccounts := (m.suppression.isSuppressed accountId now s.suppressedAccounts).2} := by
  rw [bind_run,checkSuppression,if_neg (by simp [hashable])]

theorem suppression_raises (m : AlertManager) (unhashable : accountId.hashable = false) (now : Rat)
    (f : Bool → Effect AlertState β) : (checkSuppression m accountId now >>= f) s = (.error "unhashable type",s) := by
  rw [bind_run,checkSuppression,if_pos unhashable]

theorem duplicate_bind (m : AlertManager) (a : Assessed) (now : Rat) (f : Bool → Effect AlertState β) :
    (checkDuplicate m a now >>= f) s =
      f (m.deduplication.isDuplicate a.accountId a.ruleId a.alertType now s.seen).1
        {s with seen := (m.deduplication.isDuplicate a.accountId a.ruleId a.alertType now s.seen).2} := rfl

theorem throttle_bind (m : AlertManager) (a : Assessed) (now : Rat) (f : Bool × String → Effect AlertState β)
    (answered : (m.throttle.shouldThrottle a.accountId a.ruleId now s.throttle).1 = .ok answer) :
    (checkThrottle m a now >>= f) s =
      f answer {s with throttle := (m.throttle.shouldThrottle a.accountId a.ruleId now s.throttle).2} := by
  exact bind_ok f (Prod.ext answered rfl)

theorem throttle_raises (m : AlertManager) (a : Assessed) (now : Rat) (f : Bool × String → Effect AlertState β)
    (raised : (m.throttle.shouldThrottle a.accountId a.ruleId now s.throttle).1 = .error e) :
    (checkThrottle m a now >>= f) s =
      (.error e,{s with throttle := (m.throttle.shouldThrottle a.accountId a.ruleId now s.throttle).2}) := by
  exact bind_error f (Prod.ext raised rfl)

theorem creation_raises (m : AlertManager) (r : Request) (a : Assessed) (checked created : Rat)
    (f : Alert → Effect AlertState β) (fails : buildDescription m a r.transaction = .error e) :
    (createAlert m r a checked created >>= f) s = (.error e,s) := by
  apply bind_error
  rw [createAlert,fails]

theorem creation_bind (m : AlertManager) (r : Request) (a : Assessed) (checked created : Rat)
    (f : Alert → Effect AlertState β) (described : buildDescription m a r.transaction = .ok description) :
    (createAlert m r a checked created >>= f) s = f (newAlert m r a description created s.issued)
      {s with
        alerts := s.alerts.set (m.uuid4 s.issued) (newAlert m r a description created s.issued)
        issued := s.issued + 1
        generated := s.generated ++ [⟨a.accountId,a.ruleId,a.alertType,checked⟩]} := by
  apply bind_ok
  rw [createAlert,described]
  rfl

-- The statistics and the publication come last and change nothing else.
theorem recorded_run (m : AlertManager) (change : AlertStatistics → AlertStatistics) (produced : Bool) (b : β)
    (s : AlertState) : ∃ t, (changeStatistics change >>= fun _ => publishAlert m produced >>= fun _ => pure b) s =
      (.ok b,t) ∧ SameButStatistics s t := by
  unfold publishAlert
  split
  · exact ⟨_,rfl,same_statistics _ _⟩
  · exact ⟨_,rfl,same_statistics _ _⟩

end Binds

-- What is left of a call after each check.
def storing (m : AlertManager) (r : Request) (a : Assessed) (checked : Rat) : Effect AlertState Generation := do
  let created ← tick r.toCreation
  let alert ← createAlert m r a checked created
  changeStatistics fun stats => stats.recordGenerated a.severity a.alertType
  publishAlert m r.produced
  pure (.generated alert)

def throttling (m : AlertManager) (r : Request) (a : Assessed) (checked : Rat) : Effect AlertState Generation := do
  let now ← tick r.toThrottle
  let (throttled,reason) ← checkThrottle m a now
  if throttled then do
    changeStatistics AlertStatistics.recordSuppressed
    pure (.throttled reason)
  else storing m r a checked

theorem storing_generates (m : AlertManager) (r : Request) (s : AlertState)
    (read : assess r.scoringResult r.transaction = .ok a) (passes : Passes m r a s)
    (admitted : (throttled m r a s).1 = .ok (false,reason)) :
    Generates m r s (storing m r a (checkedTime r s) (afterThrottle m r a s)).1
      (storing m r a (checkedTime r s) (afterThrottle m r a s)).2 := by
  unfold storing
  rw [tick_bind]
  rcases described : buildDescription m a r.transaction with e | description
  · rw [creation_raises m r a _ _ _ described]
    exact .undescribed read passes admitted described
  · rw [creation_bind m r a _ _ _ described]
    obtain ⟨t,ran,same⟩ := recorded_run m (fun stats => stats.recordGenerated a.severity a.alertType) r.produced
      (Generation.generated (newAlert m r a description (creationTime r s) s.issued))
      {afterThrottle m r a s with
        now := creationTime r s
        alerts := s.alerts.set (m.uuid4 s.issued) (newAlert m r a description (creationTime r s) s.issued)
        issued := s.issued + 1
        generated := s.generated ++ [⟨a.accountId,a.ruleId,a.alertType,checkedTime r s⟩]}
    exact .ran ran (.generated read passes admitted described ⟨same.now,same.seen,same.suppressedAccounts,
      same.throttle,same.alerts,same.issued,same.generated,same.moved,rfl,rfl,rfl⟩)

theorem throttling_generates (m : AlertManager) (r : Request) (s : AlertState)
    (read : assess r.scoringResult r.transaction = .ok a) (passes : Passes m r a s) :
    Generates m r s (throttling m r a (checkedTime r s) (afterDuplicate m r a s)).1
      (throttling m r a (checkedTime r s) (afterDuplicate m r a s)).2 := by
  unfold throttling
  rw [tick_bind]
  rcases answered : (throttled m r a s).1 with e | answer
  · exact .ran (throttle_raises m a _ _ answered) (.raised read passes answered)
  · obtain ⟨limited,reason⟩ := answer
    have ran := throttle_bind (s:={afterDuplicate m r a s with now := throttleTime r s}) m a _
      (fun answer => if answer.1 then do
        changeStatistics AlertStatistics.recordSuppressed
        pure (.throttled answer.2)
      else storing m r a (checkedTime r s)) answered
    cases limited with
    | true => exact .ran ran (.throttled read passes answered (same_statistics _ _))
    | false =>
      have rest := storing_generates m r s read passes answered
      exact (congrArg (fun run => Generates m r s run.1 run.2) ran).mpr rest

theorem generateAlert_generates (m : AlertManager) (r : Request) (s : AlertState) :
    Generates m r s (generateAlert m r s).1 (generateAlert m r s).2 := by
  unfold generateAlert
  rcases read : assess r.scoringResult r.transaction with e | a
  · rw [ofExcept_failed _ _ rfl]
    exact .unread read
  rw [ofExcept_bind _ _ rfl,tick_bind]
  by_cases unhashable : a.accountId.hashable = false
  · rw [suppression_raises m unhashable]
    exact .unhashable read unhashable
  have hashable : a.accountId.hashable = true := by simpa using unhashable
  rw [suppression_bind m hashable]
  rcases held : (suppressed m r a s).1 with _ | _
  · rw [show (m.suppression.isSuppressed a.accountId (s.now + r.toSuppression.1) s.suppressedAccounts).1 = false from held,
      if_neg (by decide),tick_bind]
    let next (known : Bool) : Effect AlertState Generation :=
      if known then do
        changeStatistics AlertStatistics.recordDeduplicated
        pure .deduplicated
      else throttling m r a (checkedTime r s)
    have ran : (checkDuplicate m a (checkedTime r s) >>= next) {afterSuppression m r a s with now := checkedTime r s} =
        next (duplicate m r a s).1 (afterDuplicate m r a s) := duplicate_bind m a _ _
    rcases known : (duplicate m r a s).1 with _ | _
    · rw [known] at ran
      have rest := throttling_generates m r s read ⟨hashable,held,known⟩
      exact (congrArg (fun run => Generates m r s run.1 run.2) ran).mpr rest
    · rw [known] at ran
      exact .ran ran (.deduplicated read hashable held known (same_statistics _ _))
  · rw [show (m.suppression.isSuppressed a.accountId (s.now + r.toSuppression.1) s.suppressedAccounts).1 = true from held]
    exact .suppressed read hashable held (same_statistics _ _)

-- Which calls end as suppressed and which as an alert.
theorem generateAlert_suppressed (read : assess r.scoringResult r.transaction = .ok a) :
    (generateAlert m r s).1 = .ok .suppressed ↔ a.accountId.hashable = true ∧ (suppressed m r a s).1 = true := by
  have generates := generateAlert_generates m r s
  generalize (generateAlert m r s).1 = outcome at generates ⊢
  generalize (generateAlert m r s).2 = t at generates
  cases generates with
  | unread raised =>
    rw [read] at raised
    cases raised
  | unhashable read' unhashable =>
    cases read.symm.trans read'
    simp [unhashable]
  | suppressed read' hashable held =>
    cases read.symm.trans read'
    simp [hashable,held]
  | deduplicated read' hashable free =>
    cases read.symm.trans read'
    simp [free]
  | throttled read' passes | raised read' passes | undescribed read' passes | generated read' passes =>
    cases read.symm.trans read'
    simp [passes.unsuppressed]

theorem generateAlert_generated (read : assess r.scoringResult r.transaction = .ok a) :
    (∃ alert, (generateAlert m r s).1 = .ok (.generated alert)) ↔ Passes m r a s ∧ Completes m r a s := by
  have generates := generateAlert_generates m r s
  generalize (generateAlert m r s).1 = outcome at generates ⊢
  generalize (generateAlert m r s).2 = t at generates
  cases generates with
  | unread raised =>
    rw [read] at raised
    cases raised
  | unhashable read' unhashable =>
    cases read.symm.trans read'
    refine iff_of_false (by simp) fun both => ?_
    rw [both.1.hashable] at unhashable
    cases unhashable
  | suppressed read' hashable held =>
    cases read.symm.trans read'
    refine iff_of_false (by simp) fun both => ?_
    rw [both.1.unsuppressed] at held
    cases held
  | deduplicated read' hashable free known =>
    cases read.symm.trans read'
    refine iff_of_false (by simp) fun both => ?_
    rw [both.1.fresh] at known
    cases known
  | throttled read' passes limited =>
    cases read.symm.trans read'
    refine iff_of_false (by simp) fun both => ?_
    obtain ⟨reason,admitted⟩ := both.2.1
    rw [limited] at admitted
    cases admitted
  | raised read' passes fails =>
    cases read.symm.trans read'
    refine iff_of_false (by simp) fun both => ?_
    obtain ⟨reason,admitted⟩ := both.2.1
    rw [fails] at admitted
    cases admitted
  | undescribed read' passes admitted fails =>
    cases read.symm.trans read'
    refine iff_of_false (by simp) fun both => ?_
    obtain ⟨description,written⟩ := both.2.2
    rw [fails] at written
    cases written
  | @generated a' reason description alert t read' passes admitted described stored =>
    cases read.symm.trans read'
    exact iff_of_true ⟨alert,rfl⟩ ⟨passes,⟨reason,admitted⟩,description,described⟩

-- What a transition that is carried out leaves.
structure Transitioned (alertId : String) (newStatus : AlertStatus) (stamp : Rat) (s : AlertState) (alert updated : Alert)
    (t : AlertState) : Prop where
  now : t.now = stamp
  seen : t.seen = s.seen
  throttle : t.throttle = s.throttle
  alerts : t.alerts = s.alerts.set alertId updated
  issued : t.issued = s.issued
  generated : t.generated = s.generated
  account : updated.accountId = alert.accountId
  status : updated.status = newStatus
  suppressedAccounts : t.suppressedAccounts = match suppressionReason alertId newStatus with
    | none => s.suppressedAccounts
    | some reason => SuppressionEngine.addSuppression alert.accountId reason stamp s.suppressedAccounts
  moved : t.moved = match suppressionReason alertId newStatus with
    | none => s.moved
    | some _ => s.moved ++ [⟨alert.accountId,newStatus,stamp⟩]

-- Everything a transition_alert call can do.
inductive Transits (m : AlertManager) (alertId : String) (newStatus : AlertStatus) (now : Rat) (s t : AlertState) : Prop where
  | refused (same : SameButStatistics {s with now := now} t)
  | applied {alert updated : Alert} (found : s.alerts.get? alertId = some alert)
      (valid : isValidTransition m alert.status newStatus = true)
      (left : Transitioned alertId newStatus now s alert updated t)

theorem transitionAlert_transits (m : AlertManager) (alertId : String) (newStatus : AlertStatus)
    (assignedTo resolutionNotes : Option String) (elapsed : Elapsed) (s : AlertState) :
    Transits m alertId newStatus (s.now + elapsed.1) s
      (transitionAlert m alertId newStatus assignedTo resolutionNotes elapsed s).2 := by
  unfold transitionAlert
  rw [tick_bind,bind_run]
  unfold applyTransition
  rcases found : s.alerts.get? alertId with _ | alert
  · simp only
    exact .refused (same_self _)
  simp only
  by_cases invalid : isValidTransition m alert.status newStatus = false
  · rw [if_pos invalid]
    exact .refused (same_self _)
  rw [if_neg invalid]
  have valid : isValidTransition m alert.status newStatus = true := by simpa using invalid
  rcases reason : suppressionReason alertId newStatus with _ | text
  · exact .applied found valid ⟨rfl,rfl,rfl,rfl,rfl,rfl,rfl,rfl,by simp only [reason]; rfl,by simp only [reason]; rfl⟩
  · exact .applied found valid ⟨rfl,rfl,rfl,rfl,rfl,rfl,rfl,rfl,by simp only [reason]; rfl,by simp only [reason]; rfl⟩

-- One call of a sequence.
inductive AlertAction where
  | generate (request : Request)
  | transition (alertId : String) (newStatus : AlertStatus) (assignedTo resolutionNotes : Option String)
      (elapsed : Elapsed)

def step (m : AlertManager) (s : AlertState) : AlertAction → AlertState
  | .generate r => (generateAlert m r s).2
  | .transition alertId newStatus assignedTo resolutionNotes elapsed =>
    (transitionAlert m alertId newStatus assignedTo resolutionNotes elapsed s).2

theorem times_ordered (r : Request) (s : AlertState) : s.now ≤ suppressionTime r s ∧
    suppressionTime r s ≤ checkedTime r s ∧ checkedTime r s ≤ throttleTime r s ∧ throttleTime r s ≤ creationTime r s :=
  ⟨le_add_of_nonneg_right r.toSuppression.2,le_add_of_nonneg_right r.toDeduplication.2,
    le_add_of_nonneg_right r.toThrottle.2,le_add_of_nonneg_right r.toCreation.2⟩

theorem checked_later (r : Request) (s : AlertState) : s.now ≤ checkedTime r s :=
  (times_ordered r s).1.trans (times_ordered r s).2.1

-- The values of the shipped configuration, for the examples of what goes wrong.
def shipped : AlertManager where
  deduplication := ⟨3600,100,fun v => match v with | .str text => text | _ => "None",id,Function.injective_id⟩
  suppression := ⟨7200⟩
  throttle := ⟨5,50,100,200,fun v => match v with | .str text => text | _ => "None"⟩
  routing := fun severity => some (match severity with
    | .low => ["email"]
    | .medium => ["email","dashboard"]
    | .high => ["email","dashboard","sms"]
    | .critical => ["email","dashboard","sms","webhook"])
  transitions := .ofList [
    ("open",["investigating","resolved","false_positive"]),
    ("investigating",["resolved","false_positive","open"]),
    ("resolved",[]),
    ("false_positive",[])]
  producer := false
  fixed := fun places _ => .ok (if places = 4 then "0.0000" else "0.00")
  str := fun v => match v with | .str text => text | _ => "None"
  uuid4 := fun n => String.ofList (List.replicate n 'a')
  distinct := fun n k same => by simpa using congrArg String.toList same

def atOnce : Elapsed := ⟨0,le_rfl⟩

-- A call for an account with nothing else in it, some time after the one before.
def plainRequest (accountId : String) (methodScores : List Value) (elapsed : Elapsed) : Request where
  scoringResult := .ofList [("method_scores",.list methodScores)]
  transaction := .ofList [("account_id",.str accountId)]
  enrichmentContext := none
  toSuppression := elapsed
  toDeduplication := atOnce
  toThrottle := atOnce
  toCreation := atOnce
  produced := false

end RiskPulse.AlertManager
