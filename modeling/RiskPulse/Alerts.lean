import RiskPulse.Record

namespace RiskPulse

inductive AlertType where
  | ruleBased
  | anomaly
  | mlScore
  | ensemble
  deriving DecidableEq

def AlertType.value : AlertType → String
  | .ruleBased => "rule_based"
  | .anomaly => "anomaly"
  | .mlScore => "ml_score"
  | .ensemble => "ensemble"

inductive AlertSeverity where
  | low
  | medium
  | high
  | critical
  deriving DecidableEq

def AlertSeverity.value : AlertSeverity → String
  | .low => "low"
  | .medium => "medium"
  | .high => "high"
  | .critical => "critical"

inductive AlertStatus where
  | «open»
  | investigating
  | resolved
  | falsePositive
  deriving DecidableEq

def AlertStatus.value : AlertStatus → String
  | .open => "open"
  | .investigating => "investigating"
  | .resolved => "resolved"
  | .falsePositive => "false_positive"

structure Alert where
  alertId : String
  transactionId : Value
  accountId : Value
  alertType : AlertType
  severity : AlertSeverity
  status : AlertStatus
  riskScore : Value
  ruleId : Value
  description : String
  details : Value
  enrichment : Record
  channels : List String
  assignedTo : Option String
  resolvedAt : Option Rat
  resolutionNotes : Option String
  createdAt : Rat
  updatedAt : Rat

structure AlertStatistics where
  totalGenerated : Int
  totalSuppressed : Int
  totalDeduplicated : Int
  totalPublished : Int
  bySeverity : AlertSeverity → Int
  byStatus : AlertStatus → Int
  byType : AlertType → Int

namespace AlertStatistics

def start : AlertStatistics := ⟨0,0,0,0,fun _ => 0,fun _ => 0,fun _ => 0⟩

def recordGenerated (stats : AlertStatistics) (severity : AlertSeverity) (alertType : AlertType) : AlertStatistics :=
  {stats with
    totalGenerated := stats.totalGenerated + 1
    bySeverity := Function.update stats.bySeverity severity (stats.bySeverity severity + 1)
    byType := Function.update stats.byType alertType (stats.byType alertType + 1)
    byStatus := Function.update stats.byStatus .open (stats.byStatus .open + 1)}

def recordSuppressed (stats : AlertStatistics) : AlertStatistics :=
  {stats with totalSuppressed := stats.totalSuppressed + 1}

def recordDeduplicated (stats : AlertStatistics) : AlertStatistics :=
  {stats with totalDeduplicated := stats.totalDeduplicated + 1}

def recordPublished (stats : AlertStatistics) : AlertStatistics :=
  {stats with totalPublished := stats.totalPublished + 1}

-- The old status is counted down first, never below zero; the new one is then
-- counted up from what that left.
def recordStatusChange (stats : AlertStatistics) (oldStatus newStatus : AlertStatus) : AlertStatistics :=
  let lowered := Function.update stats.byStatus oldStatus (max 0 (stats.byStatus oldStatus - 1))
  {stats with byStatus := Function.update lowered newStatus (lowered newStatus + 1)}

end AlertStatistics
end RiskPulse
