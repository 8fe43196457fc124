import Mathlib.Algebra.Order.Field.Rat
import Mathlib.Data.List.Sort
import Mathlib.Data.Rat.Floor
import RiskPulse.Alerts
import RiskPulse.Library.Effect
import RiskPulse.Library.Interleaving

namespace RiskPulse

inductive EscalationLevel where
  | l1
  | l2
  | l3
  | l4
  deriving DecidableEq

def EscalationLevel.value : EscalationLevel → Int
  | .l1 => 1
  | .l2 => 2
  | .l3 => 3
  | .l4 => 4

inductive EscalationStatus where
  | pending
  | escalated
  | acknowledged
  | resolved
  | timedOut
  deriving DecidableEq

structure EscalationLevelConfig where
  level : EscalationLevel
  timeoutMinutes : Int
  recipients : List String

structure EscalationPolicy where
  policyId : String
  levels : List EscalationLevelConfig
  appliesToSeverities : List AlertSeverity
  enabled : Bool

namespace EscalationPolicy

def getLevelConfig (policy : EscalationPolicy) (level : EscalationLevel) : Option EscalationLevelConfig :=
  policy.levels.find? fun lc => lc.level = level

-- The level that stands after the first entry with the current one; the last entry
-- of the list has none after it.
def following (current : EscalationLevel) : List EscalationLevelConfig → Option EscalationLevel
  | lc :: next :: rest => if lc.level = current then some next.level else following current (next :: rest)
  | _ => none

def sortedLevels (policy : EscalationPolicy) : List EscalationLevelConfig :=
  policy.levels.insertionSort fun a b => a.level.value ≤ b.level.value

def getNextLevel (policy : EscalationPolicy) (current : EscalationLevel) : Option EscalationLevel :=
  following current policy.sortedLevels

end EscalationPolicy

-- Datetimes are seconds.
structure OnCallRotation where
  members : List String
  rotationIntervalHours : Int
  startTime : Rat
  endTime : Option Rat

namespace OnCallRotation

def isActive (rotation : OnCallRotation) (now : Rat) : Bool :=
  if now < rotation.startTime then false
  else
    match rotation.endTime with
    | some last => decide (now ≤ last)
    | none => true

-- int() of a number drops its fraction.
def truncate (q : Rat) : Int := if 0 ≤ q then ⌊q⌋ else ⌈q⌉

def getOncallPerson (rotation : OnCallRotation) (now : Rat) : Except String String :=
  if rotation.members = [] then .ok ""
  else if rotation.rotationIntervalHours = 0 then .error "division by zero"
  else
    let elapsedHours := (now - rotation.startTime) / 3600
    let index := truncate (elapsedHours / rotation.rotationIntervalHours) % rotation.members.length
    .ok (rotation.members.getD index.toNat "")

end OnCallRotation

structure OnCallSchedule where
  schedules : List OnCallRotation

def OnCallSchedule.getCurrentOncall (schedule : OnCallSchedule) (now : Rat) : Except String (Option String) :=
  match schedule.schedules.find? fun rotation => rotation.isActive now with
  | some rotation => (rotation.getOncallPerson now).map some
  | none => .ok none

inductive HistoryEntry where
  | escalationStarted (timestamp : Rat) (level : Int) (recipients : List String) (policy : String)
  | escalated (timestamp : Rat) (fromLevel toLevel : Int) (recipients : List String) (timeoutMinutes : Int)
  | maxLevelReached (timestamp : Rat) (level : Int)
  | acknowledged (timestamp : Rat) (acknowledgedBy : String) (levelAtAck : Int)
  | resolved (timestamp : Rat)
  deriving DecidableEq

structure EscalationRecord where
  escalationId : String
  alertId : String
  policyId : String
  currentLevel : EscalationLevel
  status : EscalationStatus
  escalatedTo : List String
  escalatedAt : Rat
  acknowledgedAt : Option Rat
  acknowledgedBy : Option String
  resolvedAt : Option Rat
  nextEscalationAt : Option Rat
  history : List HistoryEntry
  deriving DecidableEq

inductive EscalationAudit where
  | escalationStarted (alertId escalationId : String) (level : Int) (recipients : List String)
  | escalationAcknowledged (alertId escalationId acknowledgedBy : String)
  | escalationResolved (alertId escalationId : String)
  | escalationMaxLevel (alertId escalationId : String) (level : Int)
  | escalationLevelUp (alertId escalationId : String) (fromLevel toLevel : Int) (recipients : List String)

-- The records are objects that the calls change in place; the dict holds the state
-- of each one. The callback's calls are kept in the order they were made.
structure EscalationState where
  activeEscalations : OrderedDict String EscalationRecord
  escalationByAlert : OrderedDict String String
  activeAlerts : OrderedDict String Alert
  auditLog : List (Rat × EscalationAudit)
  notified : List (EscalationRecord × Alert)
  issued : Nat

def EscalationState.start : EscalationState := ⟨.empty,.empty,.empty,[],[],0⟩

namespace EscalationState

def put (s : EscalationState) (record : EscalationRecord) : EscalationState :=
  {s with activeEscalations := s.activeEscalations.set record.escalationId record}

def recordAudit (s : EscalationState) (now : Rat) (entry : EscalationAudit) : EscalationState :=
  {s with auditLog := s.auditLog ++ [(now,entry)]}

def records (s : EscalationState) : List EscalationRecord := s.activeEscalations.entries.map Prod.snd

end EscalationState

-- The policies are stored under their own ids. The n-th uuid4 drawn is never drawn
-- again.
structure EscalationEngine where
  policies : OrderedDict String EscalationPolicy
  keyed : ∀ key policy, policies.get? key = some policy → policy.policyId = key
  oncallSchedules : OrderedDict String OnCallSchedule
  onEscalate : Bool
  uuid4 : Nat → String
  distinct : Function.Injective uuid4
  named : ∀ n, uuid4 n ≠ ""

namespace EscalationEngine

-- The policy that is there when no configuration is found.
def defaultPolicy : EscalationPolicy where
  policyId := "default"
  levels := [⟨.l1,15,["fraud-analysts"]⟩,⟨.l2,30,["fraud-team-lead"]⟩,⟨.l3,60,["fraud-manager"]⟩]
  appliesToSeverities := [.high,.critical]
  enabled := true

def getPolicyForAlert (e : EscalationEngine) (alert : Alert) : Option EscalationPolicy :=
  (e.policies.entries.map Prod.snd).find? fun policy =>
    policy.enabled && decide (alert.severity ∈ policy.appliesToSeverities)

-- The first member of the first rotation that has any.
def firstMember (schedule : OnCallSchedule) : List String :=
  match schedule.schedules.find? fun rotation => rotation.members ≠ [] with
  | some rotation => rotation.members.take 1
  | none => []

def resolveRecipient (e : EscalationEngine) (now : Rat) (ref : String) : Except String (List String) :=
  match e.oncallSchedules.get? ref with
  | none => .ok [ref]
  | some schedule => do
    match ← schedule.getCurrentOncall now with
    | some oncall => if oncall = "" then pure (firstMember schedule) else pure [oncall]
    | none => pure (firstMember schedule)

-- The schedules that one call looks up are read at one moment.
def resolveRecipients (e : EscalationEngine) (now : Rat) (refs : List String) : Except String (List String) := do
  let resolved ← refs.mapM (resolveRecipient e now)
  pure resolved.flatten

def deadline (now : Rat) (timeoutMinutes : Int) : Rat := now + 60 * timeoutMinutes

def choosePolicy (e : EscalationEngine) (alert : Alert) (policyId : Option String) : Option EscalationPolicy :=
  match policyId with
  | some key => if key = "" then getPolicyForAlert e alert else e.policies.get? key
  | none => getPolicyForAlert e alert

def newRecord (e : EscalationEngine) (alert : Alert) (policy : EscalationPolicy) (firstLevel : EscalationLevelConfig)
    (recipients : List String) (now : Rat) (issued : Nat) : EscalationRecord where
  escalationId := e.uuid4 issued
  alertId := alert.alertId
  policyId := policy.policyId
  currentLevel := firstLevel.level
  status := .pending
  escalatedTo := recipients
  escalatedAt := now
  acknowledgedAt := none
  acknowledgedBy := none
  resolvedAt := none
  nextEscalationAt := some (deadline now firstLevel.timeoutMinutes)
  history := [.escalationStarted now firstLevel.level.value recipients policy.policyId]

-- What start_escalation finds before it builds a record.
inductive Check where
  | noPolicy
  | existing (record : Option EscalationRecord)
  | starts (policy : EscalationPolicy) (firstLevel : EscalationLevelConfig)

def checkStart (e : EscalationEngine) (alert : Alert) (policyId : Option String) (s : EscalationState) : Check :=
  match choosePolicy e alert policyId with
  | none => .noPolicy
  | some policy =>
    match policy.levels with
    | [] => .noPolicy
    | firstLevel :: _ =>
      match s.escalationByAlert.get? alert.alertId with
      | some existingId => .existing (s.activeEscalations.get? existingId)
      | none => .starts policy firstLevel

def registered (e : EscalationEngine) (alert : Alert) (policy : EscalationPolicy) (firstLevel : EscalationLevelConfig)
    (recipients : List String) (now : Rat) (s : EscalationState) : EscalationState :=
  let record := newRecord e alert policy firstLevel recipients now s.issued
  {s.put record with
    escalationByAlert := s.escalationByAlert.set alert.alertId record.escalationId
    activeAlerts := s.activeAlerts.set alert.alertId alert
    issued := s.issued + 1}

-- The rest of the call up to the end of its second locked section.
def register (e : EscalationEngine) (alert : Alert) (policy : EscalationPolicy) (firstLevel : EscalationLevelConfig)
    (now oncall : Rat) : Effect EscalationState EscalationRecord := fun s =>
  match resolveRecipients e oncall firstLevel.recipients with
  | .error x => (.error x,s)
  | .ok recipients =>
    (.ok (newRecord e alert policy firstLevel recipients now s.issued),registered e alert policy firstLevel recipients now s)

-- The record that acknowledge and resolve work on.
def indexed (s : EscalationState) (alertId : String) : Option EscalationRecord :=
  match s.escalationByAlert.get? alertId with
  | none => none
  | some escalationId => if escalationId = "" then none else s.activeEscalations.get? escalationId

def acknowledged (record : EscalationRecord) (acknowledgedBy : String) (now : Rat) : EscalationRecord :=
  {record with
    status := .acknowledged
    acknowledgedAt := some now
    acknowledgedBy := some acknowledgedBy
    nextEscalationAt := none
    history := record.history ++ [.acknowledged now acknowledgedBy record.currentLevel.value]}

def acknowledge (alertId acknowledgedBy : String) (now : Rat) (s : EscalationState) :
    Option EscalationRecord × EscalationState :=
  match indexed s alertId with
  | none => (none,s)
  | some record =>
    let record := acknowledged record acknowledgedBy now
    (some record,s.put record)

def resolved (record : EscalationRecord) (now : Rat) : EscalationRecord :=
  {record with
    status := .resolved
    resolvedAt := some now
    nextEscalationAt := none
    history := record.history ++ [.resolved now]}

def closed (record : EscalationRecord) (alertId : String) (now : Rat) (s : EscalationState) : EscalationState :=
  {s.put (resolved record now) with
    escalationByAlert := s.escalationByAlert.erase alertId
    activeAlerts := s.activeAlerts.erase alertId}

def resolve (alertId : String) (now : Rat) (s : EscalationState) : Option EscalationRecord × EscalationState :=
  match indexed s alertId with
  | none => (none,s)
  | some record => (some (resolved record now),closed record alertId now s)

def maxLevel (record : EscalationRecord) (now : Rat) : EscalationRecord :=
  {record with
    status := .timedOut
    nextEscalationAt := none
    history := record.history ++ [.maxLevelReached now record.currentLevel.value]}

def levelUp (record : EscalationRecord) (nextLevel : EscalationLevel) (nextConfig : EscalationLevelConfig)
    (recipients : List String) (now : Rat) : EscalationRecord :=
  {record with
    currentLevel := nextLevel
    status := .escalated
    escalatedTo := recipients
    nextEscalationAt := some (deadline now nextConfig.timeoutMinutes)
    history := record.history ++
      [.escalated now (nextLevel.value - 1) nextLevel.value recipients nextConfig.timeoutMinutes]}

-- What an exception of the callback says is logged only.
def callOnEscalate (e : EscalationEngine) (record : EscalationRecord) (s : EscalationState) : EscalationState :=
  if e.onEscalate then
    match s.activeAlerts.get? record.alertId with
    | some alert => {s with notified := s.notified ++ [(record,alert)]}
    | none => s
  else s

-- What a time-out comes to: no policy or no configuration, so nothing; the last level
-- of the policy; or its next one.
inductive TimeOut where
  | nothing
  | maxLevel
  | levelUp (nextLevel : EscalationLevel) (nextConfig : EscalationLevelConfig) (recipients : List String)

def timeOut (e : EscalationEngine) (oncall : Rat) (record : EscalationRecord) : Except String TimeOut :=
  match e.policies.get? record.policyId with
  | none => .ok .nothing
  | some policy =>
    match policy.getNextLevel record.currentLevel with
    | none => .ok .maxLevel
    | some nextLevel =>
      match policy.getLevelConfig nextLevel with
      | none => .ok .nothing
      | some nextConfig => (resolveRecipients e oncall nextConfig.recipients).map (TimeOut.levelUp nextLevel nextConfig)

-- Nothing is written before the recipients are known. The moment of a later reading of
-- the clock is that of the on-call schedules.
def escalateToNextLevel (e : EscalationEngine) (record : EscalationRecord) (now oncall : Rat) :
    Effect EscalationState Bool := fun s =>
  match timeOut e oncall record with
  | .error x => (.error x,s)
  | .ok .nothing => (.ok false,s)
  | .ok .maxLevel =>
    (.ok false,(s.put (maxLevel record now)).recordAudit oncall
      (.escalationMaxLevel record.alertId record.escalationId record.currentLevel.value))
  | .ok (.levelUp nextLevel nextConfig recipients) =>
    let raised := levelUp record nextLevel nextConfig recipients now
    (.ok true,callOnEscalate e raised ((s.put raised).recordAudit oncall
      (.escalationLevelUp record.alertId record.escalationId (nextLevel.value - 1) nextLevel.value recipients)))

def live (status : EscalationStatus) : Bool := decide (status = .pending ∨ status = .escalated)

-- Whether check_timeouts escalates the record.
def due (now : Rat) (record : EscalationRecord) : Bool :=
  live record.status &&
    match record.nextEscalationAt with
    | some time => decide (time ≤ now)
    | none => false

-- The ids of the records escalated so far are carried along.
def checkRecord (e : EscalationEngine) (now oncall : Rat) (escalated : List String) (record : EscalationRecord) :
    Effect EscalationState (List String) := do
  if due now record then do
    let upgraded ← escalateToNextLevel e record now oncall
    pure (if upgraded then escalated ++ [record.escalationId] else escalated)
  else pure escalated

def checkTimeouts (e : EscalationEngine) (now oncall : Rat) : Effect EscalationState (List String) := fun s =>
  s.records.foldlM (checkRecord e now oncall) [] s

end EscalationEngine
end RiskPulse
