import RiskPulse.Record

namespace RiskPulse

inductive RuleAction where
  | block
  | flag
  | allow
  deriving DecidableEq

def RuleAction.value : RuleAction → String
  | .block => "block"
  | .flag => "flag"
  | .allow => "allow"

inductive RuleSeverity where
  | low
  | medium
  | high
  | critical
  deriving DecidableEq

def RuleSeverity.value : RuleSeverity → String
  | .low => "low"
  | .medium => "medium"
  | .high => "high"
  | .critical => "critical"

inductive EvaluationOutcome where
  | triggered
  | passed
  | skipped
  | error
  deriving DecidableEq

def EvaluationOutcome.value : EvaluationOutcome → String
  | .triggered => "triggered"
  | .passed => "passed"
  | .skipped => "skipped"
  | .error => "error"

theorem EvaluationOutcome.value_injective : Function.Injective EvaluationOutcome.value := by
  intro a b same
  cases a <;> cases b <;> first | rfl | exact absurd same (by decide)

-- A field whose value the loader does not check is whatever the configuration holds.
structure RuleDefinition where
  id : Value
  name : Value
  description : Value
  version : Value
  priority : Value
  enabled : Value
  severity : RuleSeverity
  category : Value
  condition : Value
  action : RuleAction
  schedule : Value
  tags : Value

structure RuleEvaluationRecord (ι : Type) where
  ruleId : ι
  ruleName : Value
  ruleVersion : Value
  outcome : EvaluationOutcome
  action : Option RuleAction
  severity : Option RuleSeverity
  transactionId : ι
  accountId : Value
  details : Record

namespace RulesEngine

structure RuleEngineResult where
  transactionId : Value
  overallAction : RuleAction
  triggeredRules : List (RuleEvaluationRecord Value)
  allEvaluations : List (RuleEvaluationRecord Value)
  totalRulesEvaluated : Nat
  totalRulesTriggered : Nat
  highestSeverity : Option RuleSeverity
  shortCircuited : Bool

end RulesEngine
end RiskPulse
