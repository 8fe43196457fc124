import RiskPulse.AlertEngines
import RiskPulse.Library.Effect

namespace RiskPulse

def PyFloat.atLeast : PyFloat → Rat → Bool
  | .finite a,bound => decide (bound ≤ a)
  | .infinity negative,_ => !negative
  | .nan,_ => false

namespace Value

def number : Value → Option PyFloat
  | .bool b => some (.finite (if b then 1 else 0))
  | .int n => some (.finite n)
  | .float x => some x
  | .decimal coefficient exponent =>
    some (.finite (if 0 ≤ exponent then coefficient * 10 ^ exponent.toNat else coefficient / 10 ^ (-exponent).toNat))
  | _ => Option.none

-- What a for loop goes over.
def iterate : Value → Except String (List Value)
  | .list items => .ok items
  | .dict entries => .ok (entries.map fun entry => .str entry.1)
  | .str text => .ok (text.toList.map fun c => .str (String.singleton c))
  | .bytes content => .ok (content.map fun b => .int b.toNat)
  | _ => .error "object is not iterable"

-- item.get(key, default)
def attributeGet (item : Value) (key : String) (default : Value) : Except String Value :=
  match item with
  | .dict entries => .ok ((OrderedDict.lookupEntry key entries).getD default)
  | _ => .error "object has no attribute get"

-- items[0]
def first (items : Value) : Except String Value :=
  match items with
  | .list (item :: _) => .ok item
  | .str text =>
    match text.toList with
    | c :: _ => .ok (.str (String.singleton c))
    | [] => .error "string index out of range"
  | .bytes (b :: _) => .ok (.int b.toNat)
  | .list [] | .bytes [] => .error "index out of range"
  | .dict _ => .error "0"
  | _ => .error "object is not subscriptable"

end Value

abbrev Elapsed := {q : Rat // 0 ≤ q}

-- One generate_alert call: its arguments, the time that goes by before each reading
-- of the clock, and whether the producer takes the message.
structure Request where
  scoringResult : Record
  transaction : Record
  enrichmentContext : Option Record
  toSuppression : Elapsed
  toDeduplication : Elapsed
  toThrottle : Elapsed
  toCreation : Elapsed
  produced : Bool

-- What generate_alert reads off its arguments before any check.
structure Assessed where
  accountId : Value
  transactionId : Value
  riskScore : Value
  alertType : AlertType
  severity : AlertSeverity
  ruleId : Value

-- How a call comes out; every filter returns None and logs its own reason.
inductive Generation where
  | generated (alert : Alert)
  | suppressed
  | deduplicated
  | throttled (reason : String)

-- For the proofs only: the alerts generated, with the time their call read for the
-- deduplication check, and the moves of alerts that suppress their account.
structure Generated where
  accountId : Value
  ruleId : Value
  alertType : AlertType
  time : Rat

structure Moved where
  accountId : Value
  status : AlertStatus
  time : Rat

structure AlertState where
  now : Rat
  seen : Seen
  suppressedAccounts : SuppressedAccounts
  throttle : ThrottleState
  alerts : OrderedDict String Alert
  statistics : AlertStatistics
  issued : Nat
  generated : List Generated
  moved : List Moved

def AlertState.start : AlertState := ⟨0,.empty,fun _ => none,.start,.empty,.start,0,[],[]⟩

-- The engines and the configuration. Fixed-point formatting and the text of a value
-- come from Python's library; the n-th uuid4 drawn is never drawn again.
structure AlertManager where
  deduplication : DeduplicationEngine
  suppression : SuppressionEngine
  throttle : ThrottleEngine
  routing : AlertSeverity → Option (List String)
  transitions : OrderedDict String (List String)
  producer : Bool
  fixed : Nat → Value → Except String String
  str : Value → String
  uuid4 : Nat → String
  distinct : Function.Injective uuid4

namespace AlertManager

def contribution (best : PyFloat × Value) (ms : Value) : Except String (PyFloat × Value) := do
  let success ← ms.attributeGet "success" .none
  if success.truthy then do
    let weighted ← ms.attributeGet "weighted_score" (.int 0)
    match weighted.number with
    | none => .error "not supported between instances"
    | some score =>
      if score.greater best.1 then do
        let method ← ms.attributeGet "method" (.str "ensemble")
        pure (score,method)
      else pure best
  else pure best

def methodMap (dominant : Value) : AlertType :=
  if dominant = .str "rule_engine" then .ruleBased
  else if dominant = .str "anomaly_detection" then .anomaly
  else if dominant = .str "ml_model" then .mlScore
  else .ensemble

-- Determine alert type from scoring method results: the highest-contributing method.
def determineAlertType (scoringResult : Record) : Except String AlertType :=
  let methodScores := scoringResult.getD "method_scores" (.list [])
  if methodScores.truthy = false then .ok .ensemble
  else do
    let items ← methodScores.iterate
    let best ← items.foldlM contribution (.finite 0,.str "ensemble")
    if best.2.hashable then pure (methodMap best.2) else .error "unhashable type"

def classifySeverity (riskScore riskClassification : Value) : Except String AlertSeverity :=
  if riskClassification.hashable = false then .error "unhashable type"
  else if riskClassification = .str "critical" then .ok .critical
  else if riskClassification = .str "high" then .ok .high
  else if riskClassification = .str "medium" then .ok .medium
  else if riskClassification = .str "low" then .ok .low
  else
    match riskScore.number with
    | none => .error "not supported between instances"
    | some score =>
      if score.atLeast (95/100) then .ok .critical
      else if score.atLeast (8/10) then .ok .high
      else if score.atLeast (5/10) then .ok .medium
      else .ok .low

-- The first rule-engine result that triggered rules gives the id of its first rule.
def ruleIdOf : List Value → Except String Value
  | [] => .ok .none
  | ms :: rest => do
    let method ← ms.attributeGet "method" .none
    if method = .str "rule_engine" then do
      let success ← ms.attributeGet "success" .none
      if success.truthy then do
        let details ← ms.attributeGet "details" (.dict [])
        let triggered ← details.attributeGet "triggered_rules" (.list [])
        if triggered.truthy then do
          let rule ← triggered.first
          rule.attributeGet "rule_id" .none
        else ruleIdOf rest
      else ruleIdOf rest
    else ruleIdOf rest

def extractRuleId (scoringResult : Record) : Except String Value := do
  let items ← (scoringResult.getD "method_scores" (.list [])).iterate
  ruleIdOf items

def assess (scoringResult transaction : Record) : Except String Assessed := do
  let external := Record.value transaction "external_transaction_id"
  let riskScore := scoringResult.getD "final_score" (.float (.finite 0))
  let alertType ← determineAlertType scoringResult
  let severity ← classifySeverity riskScore (scoringResult.getD "risk_classification" (.str "low"))
  let ruleId ← extractRuleId scoringResult
  pure {
    accountId := transaction.getD "account_id" (.str "unknown")
    transactionId := if external.truthy then external else transaction.getD "transaction_id" (.str "unknown")
    riskScore := riskScore
    alertType := alertType
    severity := severity
    ruleId := ruleId}

def resolveChannels (m : AlertManager) (severity : AlertSeverity) : List String :=
  (m.routing severity).getD ["dashboard"]

def typeDescription : AlertType → String
  | .ruleBased => "Rule-based detection"
  | .anomaly => "Anomaly detection"
  | .mlScore => "ML model prediction"
  | .ensemble => "Ensemble scoring"

def buildDescription (m : AlertManager) (a : Assessed) (transaction : Record) : Except String String := do
  let score ← m.fixed 4 a.riskScore
  let amount ← m.fixed 2 (transaction.getD "transaction_amount" (.float (.finite 0)))
  pure (typeDescription a.alertType ++ " triggered [" ++ a.severity.value.toUpper ++ "] - " ++
    "Risk score: " ++ score ++ " | " ++
    "Amount: " ++ amount ++ " " ++ m.str (transaction.getD "transaction_currency" (.str "USD")) ++ " | " ++
    "Merchant: " ++ m.str (transaction.getD "merchant_name" (.str "Unknown")) ++
    " | Channel: " ++ m.str (transaction.getD "channel" (.str "unknown")))

def buildDetails (scoringResult transaction : Record) : Value :=
  .dict [
    ("scoring",.dict [
      ("final_score",Record.value scoringResult "final_score"),
      ("risk_classification",Record.value scoringResult "risk_classification"),
      ("methods_succeeded",Record.value scoringResult "methods_succeeded"),
      ("scoring_version",Record.value scoringResult "scoring_version"),
      ("method_scores",scoringResult.getD "method_scores" (.list []))]),
    ("transaction",.dict [
      ("amount",Record.value transaction "transaction_amount"),
      ("currency",Record.value transaction "transaction_currency"),
      ("type",Record.value transaction "transaction_type"),
      ("channel",Record.value transaction "channel"),
      ("merchant",Record.value transaction "merchant_name"),
      ("merchant_category",Record.value transaction "merchant_category_code"),
      ("country",Record.value transaction "geo_country"),
      ("is_international",Record.value transaction "is_international"),
      ("timestamp",Record.value transaction "transaction_timestamp")])]

-- Default transitions if config is missing.
def defaultTransitions : AlertStatus → List String
  | .open => ["investigating","resolved","false_positive"]
  | .investigating => ["resolved","false_positive","open"]
  | .resolved => []
  | .falsePositive => []

def isValidTransition (m : AlertManager) (current target : AlertStatus) : Bool :=
  let allowed := m.transitions.getD current.value []
  if allowed = [] then target.value ∈ defaultTransitions current else target.value ∈ allowed

-- The sections of the calls, one for each lock they take.
def checkSuppression (m : AlertManager) (accountId : Value) (now : Rat) : Effect AlertState Bool := fun s =>
  if accountId.hashable = false then (.error "unhashable type",s)
  else
    let (suppressed,accounts) := m.suppression.isSuppressed accountId now s.suppressedAccounts
    (.ok suppressed,{s with suppressedAccounts := accounts})

def checkDuplicate (m : AlertManager) (a : Assessed) (now : Rat) : Effect AlertState Bool := fun s =>
  let (duplicate,seen) := m.deduplication.isDuplicate a.accountId a.ruleId a.alertType now s.seen
  (.ok duplicate,{s with seen := seen})

def checkThrottle (m : AlertManager) (a : Assessed) (now : Rat) : Effect AlertState (Bool × String) := fun s =>
  let (verdict,throttle) := m.throttle.shouldThrottle a.accountId a.ruleId now s.throttle
  (verdict,{s with throttle := throttle})

def newAlert (m : AlertManager) (r : Request) (a : Assessed) (description : String) (created : Rat) (issued : Nat) :
    Alert where
  alertId := m.uuid4 issued
  transactionId := a.transactionId
  accountId := a.accountId
  alertType := a.alertType
  severity := a.severity
  status := .open
  riskScore := a.riskScore
  ruleId := a.ruleId
  description := description
  details := buildDetails r.scoringResult r.transaction
  enrichment := r.enrichmentContext.getD .empty
  channels := resolveChannels m a.severity
  assignedTo := none
  resolvedAt := none
  resolutionNotes := none
  createdAt := created
  updatedAt := created

-- The alert is built, which may raise, and then stored.
def createAlert (m : AlertManager) (r : Request) (a : Assessed) (checked created : Rat) : Effect AlertState Alert :=
  fun s =>
    match buildDescription m a r.transaction with
    | .error e => (.error e,s)
    | .ok description =>
      let alert := newAlert m r a description created s.issued
      (.ok alert,{s with
        alerts := s.alerts.set alert.alertId alert
        issued := s.issued + 1
        generated := s.generated ++ [⟨a.accountId,a.ruleId,a.alertType,checked⟩]})

def changeStatistics (change : AlertStatistics → AlertStatistics) : Effect AlertState Unit :=
  Effect.modify fun s => {s with statistics := change s.statistics}

-- An exception of the producer is logged and goes no further.
def publishAlert (m : AlertManager) (produced : Bool) : Effect AlertState Unit :=
  if m.producer = true ∧ produced = true then changeStatistics AlertStatistics.recordPublished else pure ()

def tick (elapsed : Elapsed) : Effect AlertState Rat := fun s =>
  (.ok (s.now + elapsed.1),{s with now := s.now + elapsed.1})

def generateAlert (m : AlertManager) (r : Request) : Effect AlertState Generation := do
  let a ← Effect.ofExcept (assess r.scoringResult r.transaction)
  let now ← tick r.toSuppression
  if ← checkSuppression m a.accountId now then do
    changeStatistics AlertStatistics.recordSuppressed
    pure .suppressed
  else do
    let checked ← tick r.toDeduplication
    if ← checkDuplicate m a checked then do
      changeStatistics AlertStatistics.recordDeduplicated
      pure .deduplicated
    else do
      let now ← tick r.toThrottle
      let (throttled,reason) ← checkThrottle m a now
      if throttled then do
        changeStatistics AlertStatistics.recordSuppressed
        pure (.throttled reason)
      else do
        let created ← tick r.toCreation
        let alert ← createAlert m r a checked created
        changeStatistics fun stats => stats.recordGenerated a.severity a.alertType
        publishAlert m r.produced
        pure (.generated alert)

def closes (status : AlertStatus) : Bool := decide (status = .resolved ∨ status = .falsePositive)

def transitioned (alert : Alert) (newStatus : AlertStatus) (assignedTo resolutionNotes : Option String) (now : Rat) :
    Alert :=
  {alert with
    status := newStatus
    updatedAt := now
    assignedTo := match assignedTo with
      | some name => if name = "" then alert.assignedTo else some name
      | none => alert.assignedTo
    resolvedAt := if closes newStatus then some now else alert.resolvedAt
    resolutionNotes := if closes newStatus then resolutionNotes else alert.resolutionNotes}

-- The reason the account is suppressed for, when the new status suppresses it.
def suppressionReason (alertId : String) (newStatus : AlertStatus) : Option String :=
  if closes newStatus then some ("Alert " ++ alertId ++ " " ++ newStatus.value)
  else if newStatus = .investigating then some ("Alert " ++ alertId ++ " under investigation")
  else none

def applyTransition (m : AlertManager) (alertId : String) (newStatus : AlertStatus)
    (assignedTo resolutionNotes : Option String) (now : Rat) : Effect AlertState (Option (AlertStatus × Alert)) :=
  fun s =>
    match s.alerts.get? alertId with
    | none => (.ok none,s)
    | some alert =>
      if isValidTransition m alert.status newStatus = false then (.ok none,s)
      else
        let updated := transitioned alert newStatus assignedTo resolutionNotes now
        let s := {s with alerts := s.alerts.set alertId updated}
        match suppressionReason alertId newStatus with
        | none => (.ok (some (alert.status,updated)),s)
        | some reason =>
          (.ok (some (alert.status,updated)),{s with
            suppressedAccounts := SuppressionEngine.addSuppression alert.accountId reason now s.suppressedAccounts
            moved := s.moved ++ [⟨alert.accountId,newStatus,now⟩]})

def transitionAlert (m : AlertManager) (alertId : String) (newStatus : AlertStatus)
    (assignedTo resolutionNotes : Option String) (elapsed : Elapsed) : Effect AlertState (Option Alert) := do
  let now ← tick elapsed
  match ← applyTransition m alertId newStatus assignedTo resolutionNotes now with
  | none => pure none
  | some (oldStatus,alert) => do
    changeStatistics fun stats => stats.recordStatusChange oldStatus newStatus
    pure (some alert)

end AlertManager
end RiskPulse
