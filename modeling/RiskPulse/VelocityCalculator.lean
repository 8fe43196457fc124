import RiskPulse.VelocityProfile

namespace RiskPulse

abbrev VelocityThresholds := OrderedDict String (OrderedDict String PyFloat)

-- A customer is what a dict tells apart, none where customer_id is missing; parse is float()
-- of the amount and _parse_unix_timestamp, which may raise, as a customer without a hash
-- does; use is add_transaction and compute_metrics on the profile of a customer.
structure VelocityCalculator (κ σ τ : Type) where
  customer : Record → Option κ
  parse : Record → Except String τ
  fresh : σ
  use : τ → σ → σ × Except String VelocityMetrics
  float : FloatOperations
  thresholds : VelocityThresholds
  maxProfiles : Int

-- A transaction for a profile: its amount, merchant, timestamp, and the time of the clock.
structure ProfiledTransaction where
  amount : PyFloat
  merchantId : String
  timestamp : Rat
  clock : Rat

namespace VelocityCalculator

def levels (warning critical : Rat) : OrderedDict String PyFloat :=
  .ofList [("warning",.finite warning),("critical",.finite critical)]

def defaultThresholds : VelocityThresholds := .ofList [
  ("transaction_count_1min",levels 3 5),
  ("transaction_count_5min",levels 8 15),
  ("transaction_count_1hour",levels 20 50),
  ("transaction_count_24hour",levels 100 200),
  ("amount_sum_1min",levels 1000 5000),
  ("amount_sum_5min",levels 3000 10000),
  ("amount_sum_1hour",levels 10000 50000),
  ("amount_sum_24hour",levels 50000 100000),
  ("unique_merchants_1hour",levels 5 10),
  ("unique_merchants_24hour",levels 15 30)]

-- thresholds or _DEFAULT_THRESHOLDS
def configured (thresholds : Option VelocityThresholds) : VelocityThresholds :=
  match thresholds with
  | some given => if given.entries.isEmpty then defaultThresholds else given
  | none => defaultThresholds

-- The calculator over the profiles of CustomerVelocityProfile.
def ofProfiles (f : FloatOperations) (customer : Record → Option κ) (parse : Record → Except String ProfiledTransaction)
    (thresholds : Option VelocityThresholds) (maxProfiles : Int) :
    VelocityCalculator κ CustomerVelocityProfile.ProfileState ProfiledTransaction where
  customer
  parse
  fresh := CustomerVelocityProfile.start
  use t s :=
    let added := CustomerVelocityProfile.addTransaction t.amount t.merchantId t.timestamp t.clock s
    let (metrics,s) := CustomerVelocityProfile.computeMetrics f.toFloatArithmetic t.timestamp t.clock added
    (s,.ok metrics)
  float := f
  thresholds := configured thresholds
  maxProfiles

def metricsMap (m : VelocityMetrics) : List (String × PyFloat) := [
  ("transaction_count_1min",.finite m.transactionCount1min),
  ("transaction_count_5min",.finite m.transactionCount5min),
  ("transaction_count_1hour",.finite m.transactionCount1hour),
  ("transaction_count_24hour",.finite m.transactionCount24hour),
  ("amount_sum_1min",m.amountSum1min),
  ("amount_sum_5min",m.amountSum5min),
  ("amount_sum_1hour",m.amountSum1hour),
  ("amount_sum_24hour",m.amountSum24hour),
  ("unique_merchants_1hour",.finite m.uniqueMerchants1hour),
  ("unique_merchants_24hour",.finite m.uniqueMerchants24hour)]

-- The breach of one metric, the critical threshold first.
def checkMetric (thresholds : VelocityThresholds) (metric : String × PyFloat) : Option ThresholdBreach :=
  match thresholds.get? metric.1 with
  | none => none
  | some config =>
    let reaches (threshold : Option PyFloat) : Option PyFloat := threshold.filter fun t => metric.2.ge t
    match reaches (config.get? "critical"),reaches (config.get? "warning") with
    | some critical,_ => some ⟨metric.1,metric.2,critical,"critical"⟩
    | none,some warning => some ⟨metric.1,metric.2,warning,"warning"⟩
    | none,none => none

def checkThresholds (thresholds : VelocityThresholds) (metrics : VelocityMetrics) : List ThresholdBreach :=
  (metricsMap metrics).filterMap (checkMetric thresholds)

def severityCount (severity : String) (breaches : List ThresholdBreach) : Nat :=
  breaches.countP fun b => decide (b.severity = severity)

def computeRiskScore (f : FloatOperations) (breaches : List ThresholdBreach) : PyFloat :=
  if breaches.isEmpty then .finite 0
  else
    let score := f.plus (f.times (.finite (severityCount "critical" breaches)) (.finite (3 / 10)))
      (f.times (.finite (severityCount "warning" breaches)) (.finite (1 / 10)))
    PyFloat.min (.finite 1) score

section Evaluate
variable {κ σ τ : Type} [DecidableEq κ] (c : VelocityCalculator κ σ τ)

-- At capacity the profile that was made first goes.
def getOrCreateProfile (customerId : κ) (profiles : OrderedDict κ σ) : Except String (σ × OrderedDict κ σ) :=
  match profiles.get? customerId with
  | some profile => .ok (profile,profiles)
  | none =>
    if c.maxProfiles ≤ profiles.entries.length then
      match profiles.entries with
      | [] => .error ""
      | _ => .ok (c.fresh,profiles.popFirst.set customerId c.fresh)
    else .ok (c.fresh,profiles.set customerId c.fresh)

def noMetrics : VelocityMetrics := ⟨0,0,0,0,.finite 0,.finite 0,.finite 0,.finite 0,0,0,.finite 0,.finite 0⟩

def failed (error : String) : VelocityResult := ⟨noMetrics,[],.finite 0,false,false,some error⟩

def scored (metrics : VelocityMetrics) : VelocityResult :=
  let breaches := checkThresholds c.thresholds metrics
  ⟨metrics,breaches,computeRiskScore c.float breaches,breaches.any fun b => decide (b.severity = "warning"),
    breaches.any fun b => decide (b.severity = "critical"),none⟩

def evaluate (transaction : Record) (profiles : OrderedDict κ σ) : VelocityResult × OrderedDict κ σ :=
  match c.customer transaction with
  | none => (failed "Missing customer_id",profiles)
  | some customerId =>
    match c.parse transaction with
    | .error e => (failed e,profiles)
    | .ok parsed =>
      match c.getOrCreateProfile customerId profiles with
      | .error e => (failed e,profiles)
      | .ok (profile,held) =>
        let (used,outcome) := c.use parsed profile
        match outcome with
        | .error e => (failed e,held.set customerId used)
        | .ok metrics => (c.scored metrics,held.set customerId used)

end Evaluate
end VelocityCalculator
end RiskPulse
