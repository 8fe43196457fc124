import RiskPulse.FraudScores
import RiskPulse.ImpossibleTravel
import RiskPulse.Library.Runs

namespace RiskPulse

-- The entries of a rule's parameters that the rules over amounts, places, devices, habits and
-- hours read.
structure FurtherParameters where
  multiplier : Option PyFloat
  minHistoryCount : Option Int
  fallbackAverage : Option PyFloat
  threshold : Option PyFloat
  lowerBound : Option PyFloat
  minAmount : Option PyFloat
  modulo : Option PyFloat
  minDomesticTransactions : Option Int
  highRiskCountries : Option (List String)
  amountThreshold : Option PyFloat
  deviceAgeDays : Option PyFloat
  maxCategoryPct : Option PyFloat
  maxAccounts : Option Int
  startHour : Option Int
  endHour : Option Int
  dormantDays : Option PyFloat

structure EngineRule extends TravelRule where
  priority : Int
  enabled : Bool
  further : FurtherParameters

-- Further int(), % of floats and the arithmetic of the scores.
structure EngineHost extends TravelHost where
  int : Value → Except FloatError Int
  modulo : PyFloat → PyFloat → PyFloat
  operations : FloatOperations

structure EvaluationContext where
  entries : Record
  recentTransactions : List Record
  lastTransaction : Option Record
  customerMccDistribution : OrderedDict String PyFloat
  customerChannels : List String

def EvaluationContext.empty : EvaluationContext := ⟨.empty,[],none,.empty,[]⟩

namespace FraudRuleEngine
variable (h : EngineHost)

def safeInt (value : Value) : Except String Int :=
  match h.int value with
  | .ok n => .ok n
  | .error .refused => .ok 0
  | .error .overflow => .error "cannot convert float infinity to integer"

def matchedIf (condition : Bool) (rule : EngineRule) (parameters : List (String × Value)) : Option RuleMatch :=
  if condition = true then matched rule.toFraudRule parameters else none

def historyCount (ctx : EvaluationContext) : Except String Int := safeInt h (ctx.entries.getD "customer_history_count" (.int 0))

def evalHighAmountVsAvg (rule : EngineRule) (txn : Record) (ctx : EvaluationContext) : Except String (Option RuleMatch) := do
  let amount ← amountOf h.toFraudRuleHost txn
  let multiplier := rule.further.multiplier.getD (.finite 3)
  let minHistory := rule.further.minHistoryCount.getD 5
  let fallback := rule.further.fallbackAverage.getD (.finite 500)
  let count ← historyCount h ctx
  let avg ← safeFloat h.toFraudRuleHost (ctx.entries.getD "customer_avg_amount" (.float fallback))
  let average := if count < minHistory then fallback else avg
  let threshold := h.times average multiplier
  pure (matchedIf (amount.greater threshold) rule [("amount",.float amount),("average",.float average),("multiplier",.float multiplier)])

def evalAmountBelowThreshold (rule : EngineRule) (txn : Record) : Except String (Option RuleMatch) := do
  let amount ← amountOf h.toFraudRuleHost txn
  let upper := rule.further.threshold.getD (.finite 10000)
  let lower := rule.further.lowerBound.getD (.finite 9000)
  pure (matchedIf (amount.ge lower && upper.greater amount) rule [("amount",.float amount),("threshold",.float upper)])

def evalRoundAmount (rule : EngineRule) (txn : Record) : Except String (Option RuleMatch) := do
  let amount ← amountOf h.toFraudRuleHost txn
  let minAmount := rule.further.minAmount.getD (.finite 5000)
  let modulo := rule.further.modulo.getD (.finite 1000)
  if amount.ge minAmount = true then
    if modulo = .finite 0 then throw "float modulo"
    else pure (matchedIf (decide (h.modulo amount modulo = .finite 0)) rule [("amount",.float amount),("modulo",.float modulo)])
  else pure none

def evalInternationalDomesticOnly (rule : EngineRule) (txn : Record) (ctx : EvaluationContext) : Except String (Option RuleMatch) :=
  if (txn.getD "is_international" (.bool false)).truthy = false then pure none
  else do
    let isDomesticOnly := (ctx.entries.getD "is_domestic_only" (.bool false)).truthy
    let minDomestic := rule.further.minDomesticTransactions.getD 10
    let count ← historyCount h ctx
    pure (matchedIf (isDomesticOnly && decide (minDomestic ≤ count)) rule
      [("country",txn.getD "geo_country" (.str "unknown")),("history_count",.int count)])

def evalHighRiskCountry (rule : EngineRule) (txn : Record) : Except String (Option RuleMatch) :=
  let country := txn.getD "geo_country" (.str "")
  pure (matchedIf (decide (country ∈ (rule.further.highRiskCountries.getD []).map Value.str)) rule [("country",country)])

def evalNewDeviceHighAmount (rule : EngineRule) (txn : Record) (ctx : EvaluationContext) : Except String (Option RuleMatch) := do
  let amount ← amountOf h.toFraudRuleHost txn
  let amountThreshold := rule.further.amountThreshold.getD (.finite 1000)
  let maxDeviceAge := rule.further.deviceAgeDays.getD (.finite 1)
  let isNew := (ctx.entries.getD "is_new_device" (.bool false)).truthy
  let deviceAge ← safeFloat h.toFraudRuleHost (ctx.entries.getD "device_age_days" (.int 999))
  pure (matchedIf ((isNew || maxDeviceAge.ge deviceAge) && amount.ge amountThreshold) rule
    [("amount",.float amount),("device_age_days",.float deviceAge)])

def evalMerchantCategoryMismatch (rule : EngineRule) (txn : Record) (ctx : EvaluationContext) : Except String (Option RuleMatch) := do
  let mcc := txn.getD "merchant_category_code" (.str "")
  let minHistory := rule.further.minHistoryCount.getD 10
  let maxPct := rule.further.maxCategoryPct.getD (.finite (1 / 20))
  let count ← historyCount h ctx
  if count < minHistory ∨ ctx.customerMccDistribution.entries = [] then pure none
  else if mcc.hashable = false then throw "unhashable type"
  else
    let pct := match mcc with
      | .str code => ctx.customerMccDistribution.getD code (.finite 0)
      | _ => .finite 0
    pure (matchedIf (maxPct.ge pct) rule [("mcc",mcc),("pct",.float pct)])

def evalMultiAccountDevice (rule : EngineRule) (txn : Record) (ctx : EvaluationContext) : Except String (Option RuleMatch) := do
  let maxAccounts := rule.further.maxAccounts.getD 2
  let accountsOnDevice ← safeInt h (ctx.entries.getD "accounts_on_device" (.int 1))
  pure (matchedIf (decide (maxAccounts < accountsOnDevice)) rule
    [("accounts_on_device",.int accountsOnDevice),("device_id",txn.getD "device_id" (.str "unknown"))])

def evalChannelAnomaly (rule : EngineRule) (txn : Record) (ctx : EvaluationContext) : Except String (Option RuleMatch) := do
  let minHistory := rule.further.minHistoryCount.getD 10
  let count ← historyCount h ctx
  let channel := txn.getD "channel" (.str "")
  if count < minHistory ∨ ctx.customerChannels = [] then pure none
  else if channel.hashable = false then throw "unhashable type"
  else pure (matchedIf (decide (channel ∉ ctx.customerChannels.map Value.str)) rule
    [("channel",channel),("known_channels",.list ((ctx.customerChannels.mergeSort fun a b => decide (a ≤ b)).map .str))])

-- ts.hour
def hourOf (ts : AwareTime) : Int := ts.wall / 3600000000 % 24

def evalLateNightHighValue (rule : EngineRule) (txn : Record) : Except String (Option RuleMatch) := do
  let startHour := rule.further.startHour.getD 0
  let endHour := rule.further.endHour.getD 5
  let amountThreshold := rule.further.amountThreshold.getD (.finite 2000)
  let amount ← amountOf h.toFraudRuleHost txn
  match timestampOf h.toFraudRuleHost txn with
  | none => pure none
  | some ts =>
    if amountThreshold.greater amount = true then pure none
    else pure (matchedIf (decide (startHour ≤ hourOf ts ∧ hourOf ts < endHour)) rule [("amount",.float amount),("hour",.int (hourOf ts))])

def evalDormantAccount (rule : EngineRule) (ctx : EvaluationContext) : Except String (Option RuleMatch) := do
  let dormantDays := rule.further.dormantDays.getD (.finite 90)
  let daysSince ← safeFloat h.toFraudRuleHost (ctx.entries.getD "days_since_last_transaction" (.int 0))
  pure (matchedIf (daysSince.ge dormantDays) rule [("days_since_last",.float daysSince),("dormant_days",.float dormantDays)])

-- The evaluator that is registered for the rule's id, where there is one.
def evaluateRule (rule : EngineRule) (txn : Record) (ctx : EvaluationContext) : Except String (Option RuleMatch) :=
  match rule.id with
  | "FRAUD-AMT-001" => evalHighAmountVsAvg h rule txn ctx
  | "FRAUD-AMT-002" => evalAmountBelowThreshold h rule txn
  | "FRAUD-AMT-003" => evalRoundAmount h rule txn
  | "FRAUD-VEL-001" => evalRapidTransactions h.toFraudRuleHost rule.toFraudRule txn ctx.recentTransactions
  | "FRAUD-VEL-002" => evalDeclinedThenApproved h.toFraudRuleHost rule.toFraudRule txn ctx.recentTransactions
  | "FRAUD-VEL-003" => evalEscalatingAmounts h.toFraudRuleHost rule.toFraudRule txn ctx.recentTransactions
  | "FRAUD-GEO-001" => evalImpossibleTravel h.toTravelHost rule.toTravelRule txn ctx.lastTransaction
  | "FRAUD-GEO-002" => evalInternationalDomesticOnly h rule txn ctx
  | "FRAUD-GEO-003" => evalHighRiskCountry rule txn
  | "FRAUD-PAT-001" => evalNewDeviceHighAmount h rule txn ctx
  | "FRAUD-PAT-002" => evalMerchantCategoryMismatch h rule txn ctx
  | "FRAUD-PAT-003" => evalCardTesting h.toFraudRuleHost rule.toFraudRule txn ctx.recentTransactions
  | "FRAUD-PAT-004" => evalMultiAccountDevice h rule txn ctx
  | "FRAUD-PAT-005" => evalChannelAnomaly h rule txn ctx
  | "FRAUD-TMP-001" => evalLateNightHighValue h rule txn
  | "FRAUD-TMP-002" => evalDormantAccount h rule ctx
  | "FRAUD-TMP-003" => evalBurstAfterSilence h.toFraudRuleHost rule.toFraudRule txn ctx.entries ctx.recentTransactions
  | _ => .ok none

structure RuleEvaluationResult where
  transactionId : Value
  triggeredRules : List RuleMatch
  combinedSeverity : String
  combinedConfidence : PyFloat
  ruleScore : PyFloat
  evaluationTimeMs : PyFloat
  totalRulesEvaluated : Nat

def RuleEvaluationResult.triggeredIds (result : RuleEvaluationResult) : List String := result.triggeredRules.map RuleMatch.ruleId

-- The loop over the rules: the matches and how many were evaluated.
def evaluateRules (txn : Record) (ctx : EvaluationContext) : List EngineRule → List RuleMatch → Nat → Except String (List RuleMatch × Nat)
  | [],found,evaluated => .ok (found,evaluated)
  | rule :: rest,found,evaluated =>
    if rule.enabled = false then evaluateRules txn ctx rest found evaluated
    else (evaluateRule h rule txn ctx).bind fun hit => evaluateRules txn ctx rest (found ++ hit.toList) (evaluated + 1)

def evaluation (rules : List EngineRule) (escalation : SeverityEscalation) (txn : Record) (ctx : EvaluationContext) (elapsedMs : PyFloat) :
    Except String RuleEvaluationResult :=
  (evaluateRules h txn ctx rules [] 0).bind fun (found,evaluated) =>
    (computeCombinedSeverity escalation found).map fun severity =>
      ⟨txn.getD "external_transaction_id" (.str "unknown"),found,severity,computeCombinedConfidence h.operations found,
        computeRuleScore h.operations found,h.operations.round elapsedMs 3,evaluated⟩

end FraudRuleEngine

structure RulePerformanceMetrics where
  ruleId : String
  truePositives : Nat
  falsePositives : Nat
  trueNegatives : Nat
  falseNegatives : Nat
  deriving DecidableEq

def RulePerformanceMetrics.start (ruleId : String) : RulePerformanceMetrics := ⟨ruleId,0,0,0,0⟩

def RulePerformanceMetrics.totalEvaluated (p : RulePerformanceMetrics) : Nat :=
  p.truePositives + p.falsePositives + p.trueNegatives + p.falseNegatives

structure EngineMetrics where
  transactionsEvaluated : Nat
  totalRuleMatches : Nat
  totalEvaluationTimeMs : PyFloat

-- The file of the rules as it is read: its escalation, and of its rules each one or the key
-- that it lacks.
structure RulesDocument where
  severityEscalation : SeverityEscalation
  rules : List (Except String EngineRule)

structure FraudEngine where
  rules : List EngineRule
  severityEscalation : SeverityEscalation
  metrics : EngineMetrics
  ruleMetrics : OrderedDict String RulePerformanceMetrics

-- A transaction to backtest with, whether it was fraud, its context and the time it takes.
structure Labelled where
  transaction : Record
  label : Bool
  context : EvaluationContext
  elapsedMs : PyFloat

namespace FraudEngine
open FraudRuleEngine
variable (h : EngineHost)

def start : FraudEngine := ⟨[],⟨false,none⟩,⟨0,0,.finite 0⟩,.empty⟩

def byPriority (a b : EngineRule) : Bool := decide (a.priority ≤ b.priority)

def withMetrics (rules : List EngineRule) (ruleMetrics : OrderedDict String RulePerformanceMetrics) : OrderedDict String RulePerformanceMetrics :=
  rules.foldl (fun held rule => if rule.id ∈ held.keys then held else held.set rule.id (.start rule.id)) ruleMetrics

-- What can not be opened or read is an error; the escalation is taken over before the rules.
def loadRules (file : Except String RulesDocument) (e : FraudEngine) : Except String Unit × FraudEngine :=
  match file with
  | .error error => (.error error,e)
  | .ok document =>
    let configured := { e with severityEscalation := document.severityEscalation }
    match document.rules.mapM id with
    | .error error => (.error error,configured)
    | .ok rules =>
      let sorted := rules.mergeSort byPriority
      (.ok (),{ configured with rules := sorted, ruleMetrics := withMetrics sorted e.ruleMetrics })

def record (result : FraudRuleEngine.RuleEvaluationResult) (m : EngineMetrics) : EngineMetrics where
  transactionsEvaluated := m.transactionsEvaluated + 1
  totalRuleMatches := m.totalRuleMatches + result.triggeredRules.length
  totalEvaluationTimeMs := h.operations.plus m.totalEvaluationTimeMs result.evaluationTimeMs

def evaluate (txn : Record) (ctx : EvaluationContext) (elapsedMs : PyFloat) (e : FraudEngine) :
    Except String FraudRuleEngine.RuleEvaluationResult × FraudEngine :=
  match evaluation h e.rules e.severityEscalation txn ctx elapsedMs with
  | .error error => (.error error,e)
  | .ok result => (.ok result,{ e with metrics := record h result e.metrics })

def tally (fired label : Bool) (p : RulePerformanceMetrics) : RulePerformanceMetrics :=
  if fired = true ∧ label = true then { p with truePositives := p.truePositives + 1 }
  else if fired = true ∧ label = false then { p with falsePositives := p.falsePositives + 1 }
  else if fired = false ∧ label = true then { p with falseNegatives := p.falseNegatives + 1 }
  else { p with trueNegatives := p.trueNegatives + 1 }

def tallyAll (triggeredIds : List String) (label : Bool) (metrics : OrderedDict String RulePerformanceMetrics) : OrderedDict String RulePerformanceMetrics where
  entries := metrics.entries.map fun (ruleId,perf) => (ruleId,tally (decide (ruleId ∈ triggeredIds)) label perf)
  unique := by simpa [Function.comp_def] using metrics.unique

def freshMetrics (rules : List EngineRule) : OrderedDict String RulePerformanceMetrics :=
  .ofList ((rules.filter EngineRule.enabled).map fun rule => (rule.id,.start rule.id))

-- The loop of a backtest; one that fails leaves what it has evaluated counted in the engine's metrics.
def backtestLoop : List Labelled → OrderedDict String RulePerformanceMetrics → FraudEngine →
    Except String (OrderedDict String RulePerformanceMetrics) × FraudEngine
  | [],metrics,e => (.ok metrics,e)
  | item :: rest,metrics,e =>
    match evaluate h item.transaction item.context item.elapsedMs e with
    | (.error error,after) => (.error error,after)
    | (.ok result,after) => backtestLoop rest (tallyAll result.triggeredIds item.label metrics) after

def backtest (data : List Labelled) (e : FraudEngine) : Except String (OrderedDict String RulePerformanceMetrics) × FraudEngine :=
  match backtestLoop h data (freshMetrics e.rules) e with
  | (.error error,after) => (.error error,after)
  | (.ok metrics,after) => (.ok metrics,{ after with ruleMetrics := after.ruleMetrics.update metrics })

-- The transactions with their labels and contexts, as far as all three go; without contexts
-- there is an empty one for each.
def labelled (transactions : List Record) (labels : List Bool) (contexts : Option (List (Option EvaluationContext))) (elapsedMs : PyFloat) :
    List Labelled :=
  let given := contexts.getD []
  let ctxs := if given = [] then List.replicate transactions.length none else given
  ((transactions.zip labels).zip ctxs).map fun ((txn,label),ctx) => ⟨txn,label,ctx.getD .empty,elapsedMs⟩

def getBacktestSummary (e : FraudEngine) : List (String × RulePerformanceMetrics) :=
  e.ruleMetrics.entries.filter fun entry => decide (0 < entry.2.totalEvaluated)

end FraudEngine

namespace FraudRuleEngine
variable (h : EngineHost)

-- The match of a rule carries what the rule says of itself.
structure RuleMatch.Of (m : RuleMatch) (rule : FraudRule) : Prop where
  id : m.ruleId = rule.id
  name : m.ruleName = rule.name
  category : m.category = rule.category
  severity : m.severity = rule.severity
  confidence : m.confidence = rule.confidence

def Own (rule : FraudRule) (outcome : Except String (Option RuleMatch)) : Prop := ∀ m, outcome = .ok (some m) → m.Of rule

section Own
variable {rule : FraudRule}

theorem own_nothing : Own rule (.ok none) := by
  intro m came
  cases came

theorem own_error (message : String) : Own rule (.error message) := by
  intro m came
  cases came

theorem own_matched (parameters : List (String × Value)) : Own rule (.ok (matched rule parameters)) := by
  intro m came
  cases came
  exact ⟨rfl,rfl,rfl,rfl,rfl⟩

theorem own_bind {first : Except String α} {next : α → Except String (Option RuleMatch)} (own : ∀ a, Own rule (next a)) : Own rule (first >>= next) := by
  intro m came
  obtain ⟨a,_,later⟩ := Fallible.bind_ok.mp came
  exact own a m later

theorem own_ite {condition : Prop} [Decidable condition] {yes no : Except String (Option RuleMatch)} (one : Own rule yes) (other : Own rule no) :
    Own rule (if condition then yes else no) := by
  split
  · exact one
  · exact other

theorem own_matchedIf (condition : Bool) (rule : EngineRule) (parameters : List (String × Value)) :
    Own rule.toFraudRule (pure (matchedIf condition rule parameters)) := by
  unfold matchedIf
  split
  · exact own_matched parameters
  · exact own_nothing

theorem evalRapidTransactions_own (g : FraudRuleHost) (txn : Record) (recent : List Record) : Own rule (evalRapidTransactions g rule txn recent) := by
  unfold evalRapidTransactions
  dsimp only
  split
  · exact own_nothing
  · exact own_ite own_nothing (own_ite (own_matched _) own_nothing)

theorem evalDeclinedThenApproved_own (g : FraudRuleHost) (txn : Record) (recent : List Record) :
    Own rule (evalDeclinedThenApproved g rule txn recent) := by
  unfold evalDeclinedThenApproved
  dsimp only
  apply own_ite own_nothing
  split
  · exact own_nothing
  · exact own_ite (own_matched _) own_nothing

theorem escalatingMatch_own (g : FraudRuleHost) (amounts : List PyFloat) : Own rule (escalatingMatch g rule amounts) := by
  unfold escalatingMatch
  dsimp only
  apply own_ite own_nothing
  apply own_ite
  · split
    · exact own_error _
    · exact own_ite (own_matched _) own_nothing
  · exact own_nothing

theorem evalEscalatingAmounts_own (g : FraudRuleHost) (txn : Record) (recent : List Record) :
    Own rule (evalEscalatingAmounts g rule txn recent) := by
  unfold evalEscalatingAmounts
  split
  · exact own_nothing
  · exact own_ite own_nothing (own_bind fun _ => own_bind fun _ => escalatingMatch_own g _)

theorem evalCardTesting_own (g : FraudRuleHost) (txn : Record) (recent : List Record) : Own rule (evalCardTesting g rule txn recent) := by
  unfold evalCardTesting
  refine own_bind fun _ => own_ite own_nothing ?_
  split
  · exact own_nothing
  · exact own_bind fun _ => own_ite (own_matched _) own_nothing

theorem evalBurstAfterSilence_own (g : FraudRuleHost) (txn ctx : Record) (recent : List Record) :
    Own rule (evalBurstAfterSilence g rule txn ctx recent) := by
  unfold evalBurstAfterSilence
  dsimp only
  split
  · exact own_nothing
  · exact own_ite own_nothing (own_ite own_nothing (own_ite own_nothing (own_bind fun _ => own_ite (own_matched _) own_nothing)))

theorem evalImpossibleTravel_own (g : TravelHost) (rule : TravelRule) (txn : Record) (lastTransaction : Option Record) :
    Own rule.toFraudRule (evalImpossibleTravel g rule txn lastTransaction) := by
  unfold evalImpossibleTravel
  dsimp only
  split
  · exact own_nothing
  · refine own_ite own_nothing (own_bind fun _ => own_bind fun _ => own_bind fun _ => own_bind fun _ => own_ite own_nothing ?_)
    refine own_bind fun _ => own_ite own_nothing ?_
    split
    · exact own_ite own_nothing (own_ite (own_matched _) own_nothing)
    · exact own_nothing

-- Every registered evaluator answers with a match of its own rule.
theorem evaluateRule_own (rule : EngineRule) (txn : Record) (ctx : EvaluationContext) : Own rule.toFraudRule (evaluateRule h rule txn ctx) := by
  unfold evaluateRule
  split
  · exact own_bind fun _ => own_bind fun _ => own_bind fun _ => own_matchedIf _ _ _
  · exact own_bind fun _ => own_matchedIf _ _ _
  · exact own_bind fun _ => own_ite (own_ite (own_error _) (own_matchedIf _ _ _)) own_nothing
  · exact evalRapidTransactions_own _ _ _
  · exact evalDeclinedThenApproved_own _ _ _
  · exact evalEscalatingAmounts_own _ _ _
  · exact evalImpossibleTravel_own _ _ _ _
  · exact own_ite own_nothing (own_bind fun _ => own_matchedIf _ _ _)
  · exact own_matchedIf _ _ _
  · exact own_bind fun _ => own_bind fun _ => own_matchedIf _ _ _
  · exact own_bind fun _ => own_ite own_nothing (own_ite (own_error _) (own_matchedIf _ _ _))
  · exact evalCardTesting_own _ _ _
  · exact own_bind fun _ => own_matchedIf _ _ _
  · exact own_bind fun _ => own_ite own_nothing (own_ite (own_error _) (own_matchedIf _ _ _))
  · refine own_bind fun _ => ?_
    split
    · exact own_nothing
    · exact own_ite own_nothing (own_matchedIf _ _ _)
  · exact own_bind fun _ => own_matchedIf _ _ _
  · exact evalBurstAfterSilence_own _ _ _ _
  · exact own_nothing

end Own

end FraudRuleEngine

namespace FraudRuleEngine
variable (h : EngineHost)

-- What a rule answers to a transaction, and whether it fires.
def hitOf (txn : Record) (ctx : EvaluationContext) (rule : EngineRule) : Option RuleMatch :=
  match evaluateRule h rule txn ctx with
  | .ok hit => hit
  | .error _ => none

def Fires (txn : Record) (ctx : EvaluationContext) (rule : EngineRule) : Prop := ∃ m, evaluateRule h rule txn ctx = .ok (some m)

theorem hitOf_of (fired : hitOf h txn ctx rule = some m) : evaluateRule h rule txn ctx = .ok (some m) := by
  unfold hitOf at fired
  split at fired
  · rename_i hit came
    rw [came,fired]
  · cases fired

-- The evaluation goes through when that of each enabled rule does.
theorem evaluateRules_ok (txn : Record) (ctx : EvaluationContext) (rules : List EngineRule) (found : List RuleMatch) (n : Nat) :
    evaluateRules h txn ctx rules found n = .ok (ms,k) ↔ (∀ rule ∈ rules, rule.enabled = true → ∃ hit, evaluateRule h rule txn ctx = .ok hit) ∧
      ms = found ++ (rules.filter EngineRule.enabled).filterMap (hitOf h txn ctx) ∧ k = n + (rules.filter EngineRule.enabled).length := by
  induction rules generalizing found n with
  | nil =>
    rw [evaluateRules,Except.ok.injEq,Prod.mk.injEq,List.filter_nil,List.filterMap_nil,List.append_nil]
    constructor
    · rintro ⟨rfl,rfl⟩
      exact ⟨List.forall_mem_nil _,rfl,rfl⟩
    · rintro ⟨_,rfl,rfl⟩
      exact ⟨rfl,rfl⟩
  | cons rule rest ih =>
    rw [evaluateRules,List.forall_mem_cons]
    by_cases enabled : rule.enabled = true
    · rw [if_neg (by simp [enabled]),List.filter_cons_of_pos enabled,List.length_cons]
      cases came : evaluateRule h rule txn ctx with
      | error e =>
        constructor
        · intro ran
          cases ran
        · rintro ⟨⟨here,_⟩,_⟩
          obtain ⟨hit,went⟩ := here enabled
          cases went
      | ok hit =>
        have own : hitOf h txn ctx rule = hit := by simp [hitOf,came]
        change evaluateRules h txn ctx rest (found ++ hit.toList) (n + 1) = .ok (ms,k) ↔ _
        rw [ih]
        have joined : found ++ hit.toList ++ (rest.filter EngineRule.enabled).filterMap (hitOf h txn ctx) =
            found ++ (rule :: rest.filter EngineRule.enabled).filterMap (hitOf h txn ctx) := by
          rw [List.append_assoc]
          cases hit <;> simp [own]
        rw [joined,Nat.add_assoc,Nat.add_comm 1]
        simp [enabled]
    · have off : rule.enabled = false := Bool.eq_false_iff.mpr enabled
      rw [if_pos off,ih,List.filter_cons_of_neg enabled]
      simp [off]

theorem hits_own (txn : Record) (ctx : EvaluationContext) (rules : List EngineRule) :
    List.Forall₂ (fun m rule => RuleMatch.Of m rule.toFraudRule) (rules.filterMap (hitOf h txn ctx))
      (rules.filter fun rule => (hitOf h txn ctx rule).isSome) := by
  induction rules with
  | nil => exact .nil
  | cons rule rest ih =>
    cases hit : hitOf h txn ctx rule with
    | none => simpa [hit] using ih
    | some m =>
      have own := evaluateRule_own h rule txn ctx m (hitOf_of h hit)
      simpa [hit] using ⟨own,ih⟩

theorem fires_iff (txn : Record) (ctx : EvaluationContext) (rule : EngineRule) :
    (hitOf h txn ctx rule).isSome = true ↔ Fires h txn ctx rule := by
  rw [Option.isSome_iff_exists]
  constructor
  · rintro ⟨m,fired⟩
    exact ⟨m,hitOf_of h fired⟩
  · rintro ⟨m,came⟩
    exact ⟨m,by rw [hitOf,came]⟩

theorem evaluation_ok (rules : List EngineRule) (escalation : SeverityEscalation) (txn : Record) (ctx : EvaluationContext) (elapsedMs : PyFloat)
    (came : evaluation h rules escalation txn ctx elapsedMs = .ok result) :
    (∀ rule ∈ rules, rule.enabled = true → ∃ hit, evaluateRule h rule txn ctx = .ok hit) ∧
      result.triggeredRules = (rules.filter EngineRule.enabled).filterMap (hitOf h txn ctx) ∧
      result.totalRulesEvaluated = (rules.filter EngineRule.enabled).length := by
  obtain ⟨⟨ms,k⟩,ran,later⟩ := Fallible.bind_ok.mp came
  obtain ⟨severity,_,rfl⟩ := Fallible.map_ok.mp later
  obtain ⟨each,found,count⟩ := (evaluateRules_ok h txn ctx rules [] 0).mp ran
  exact ⟨each,found,count.trans (Nat.zero_add _)⟩

theorem evaluation_scores (rules : List EngineRule) (escalation : SeverityEscalation) (txn : Record) (ctx : EvaluationContext)
    (elapsedMs : PyFloat) (came : evaluation h rules escalation txn ctx elapsedMs = .ok result) :
    computeCombinedSeverity escalation result.triggeredRules = .ok result.combinedSeverity ∧
      result.combinedConfidence = computeCombinedConfidence h.operations result.triggeredRules ∧
      result.ruleScore = computeRuleScore h.operations result.triggeredRules := by
  obtain ⟨⟨ms,k⟩,_,later⟩ := Fallible.bind_ok.mp came
  obtain ⟨severity,combined,rfl⟩ := Fallible.map_ok.mp later
  exact ⟨combined,rfl,rfl⟩

end FraudRuleEngine

namespace FraudEngine
open FraudRuleEngine
variable (h : EngineHost)

def outcome (e : FraudEngine) (item : Labelled) : Except String FraudRuleEngine.RuleEvaluationResult :=
  evaluation h e.rules e.severityEscalation item.transaction item.context item.elapsedMs

def fires (e : FraudEngine) (ruleId : String) (item : Labelled) : Bool :=
  match outcome h e item with
  | .ok result => decide (ruleId ∈ result.triggeredIds)
  | .error _ => false

-- The confusion matrix of a rule.
def matrix (e : FraudEngine) (data : List Labelled) (ruleId : String) : RulePerformanceMetrics where
  ruleId := ruleId
  truePositives := data.countP fun item => fires h e ruleId item && item.label
  falsePositives := data.countP fun item => fires h e ruleId item && !item.label
  trueNegatives := data.countP fun item => !fires h e ruleId item && !item.label
  falseNegatives := data.countP fun item => !fires h e ruleId item && item.label

def plus (p q : RulePerformanceMetrics) : RulePerformanceMetrics where
  ruleId := p.ruleId
  truePositives := p.truePositives + q.truePositives
  falsePositives := p.falsePositives + q.falsePositives
  trueNegatives := p.trueNegatives + q.trueNegatives
  falseNegatives := p.falseNegatives + q.falseNegatives

theorem tally_plus (e : FraudEngine) (item : Labelled) (rest : List Labelled) (ruleId : String) (p : RulePerformanceMetrics) :
    plus (tally (fires h e ruleId item) item.label p) (matrix h e rest ruleId) = plus p (matrix h e (item :: rest) ruleId) := by
  simp only [plus,matrix,tally,List.countP_cons]
  cases fires h e ruleId item <;> cases item.label <;> simp [Nat.add_assoc,Nat.add_comm 1]

-- Each item is in one of the four counts.
theorem matrix_total (e : FraudEngine) (data : List Labelled) (ruleId : String) : (matrix h e data ruleId).totalEvaluated = data.length := by
  induction data with
  | nil => rfl
  | cons item rest ih =>
    simp only [RulePerformanceMetrics.totalEvaluated,matrix,List.countP_cons,List.length_cons] at ih ⊢
    cases fires h e ruleId item <;> cases item.label <;> simp <;> omega

theorem matrix_perm (e : FraudEngine) (same : others.Perm data) (ruleId : String) : matrix h e others ruleId = matrix h e data ruleId := by
  simp only [matrix,same.countP_eq]

-- What an evaluation leaves as it is.
structure Kept (before after : FraudEngine) (evaluated : Nat) : Prop where
  rules : after.rules = before.rules
  escalation : after.severityEscalation = before.severityEscalation
  ruleMetrics : after.ruleMetrics = before.ruleMetrics
  counted : after.metrics.transactionsEvaluated = before.metrics.transactionsEvaluated + evaluated

theorem Kept.fires (kept : Kept e after n) : FraudEngine.fires h after = FraudEngine.fires h e := by
  funext ruleId item
  rw [FraudEngine.fires,FraudEngine.fires,outcome,outcome,kept.rules,kept.escalation]

theorem backtestLoop_ok (data : List Labelled) (start : OrderedDict String RulePerformanceMetrics) (e : FraudEngine)
    (each : ∀ item ∈ data, ∃ result, outcome h e item = .ok result) :
    ∃ metrics after, backtestLoop h data start e = (.ok metrics,after) ∧ Kept e after data.length ∧
      metrics.entries = start.entries.map fun (ruleId,perf) => (ruleId,plus perf (matrix h e data ruleId)) := by
  induction data generalizing start e with
  | nil => exact ⟨start,e,rfl,⟨rfl,rfl,rfl,rfl⟩,by simp [plus,matrix]⟩
  | cons item rest ih =>
    obtain ⟨⟨result,came⟩,later⟩ := List.forall_mem_cons.mp each
    have went : evaluate h item.transaction item.context item.elapsedMs e = (.ok result,{ e with metrics := record h result e.metrics }) := by
      rw [outcome] at came
      rw [evaluate,came]
    obtain ⟨metrics,after,looped,kept,entries⟩ := ih (tallyAll result.triggeredIds item.label start) { e with metrics := record h result e.metrics } later
    refine ⟨metrics,after,?_,⟨kept.rules,kept.escalation,kept.ruleMetrics,?_⟩,?_⟩
    · rw [backtestLoop,went]
      exact looped
    · rw [kept.counted,List.length_cons,Nat.add_comm rest.length,← Nat.add_assoc]
      rfl
    · have own : ∀ ruleId, decide (ruleId ∈ result.triggeredIds) = fires h e ruleId item := by
        intro ruleId
        rw [fires,came]
      have same : ∀ ruleId, matrix h { e with metrics := record h result e.metrics } rest ruleId = matrix h e rest ruleId := fun _ => rfl
      rw [entries,tallyAll,List.map_map]
      apply List.map_congr_left
      rintro ⟨ruleId,perf⟩ _
      simp only [Function.comp_apply,own,same,tally_plus]

theorem backtestLoop_each (data : List Labelled) (start : OrderedDict String RulePerformanceMetrics) (e : FraudEngine)
    (ran : (backtestLoop h data start e).1 = .ok counts) : ∀ item ∈ data, ∃ result, outcome h e item = .ok result := by
  induction data generalizing start e with
  | nil => exact List.forall_mem_nil _
  | cons item rest ih =>
    rw [backtestLoop,evaluate] at ran
    cases came : outcome h e item with
    | error error =>
      rw [outcome] at came
      rw [came] at ran
      cases ran
    | ok result =>
      rw [outcome] at came
      rw [came] at ran
      exact List.forall_mem_cons.mpr ⟨⟨result,by assumption⟩,ih _ { e with metrics := record h result e.metrics } ran⟩

theorem freshMetrics_get? (rules : List EngineRule) (ruleId : String) : (freshMetrics rules).get? ruleId =
    if ruleId ∈ (rules.filter EngineRule.enabled).map fun rule => rule.id then some (.start ruleId) else none := by
  have keyed : ∀ key, key ∈ (freshMetrics rules).keys ↔ key ∈ (rules.filter EngineRule.enabled).map fun rule => rule.id := by
    intro key
    rw [freshMetrics,OrderedDict.mem_keys_ofList,List.map_map]
    rfl
  split
  · rename_i member
    obtain ⟨perf,found⟩ := (OrderedDict.mem_keys _ _).mp ((keyed ruleId).mpr member)
    have entry := (OrderedDict.ofList_perm _).subset ((OrderedDict.get?_entry _ _ _).mpr found)
    obtain ⟨rule,_,made⟩ := List.mem_map.mp ((OrderedDict.lastWrites_sublist _).subset entry)
    rw [found,← (Prod.mk.inj made).1,(Prod.mk.inj made).2]
  · rename_i absent
    exact (OrderedDict.get?_eq_none _ _).mpr fun member => absent ((keyed ruleId).mp member)

theorem entries_get? (d : OrderedDict String RulePerformanceMetrics) (f : String → RulePerformanceMetrics → RulePerformanceMetrics)
    (mapped : OrderedDict String RulePerformanceMetrics) (entries : mapped.entries = d.entries.map fun (ruleId,perf) => (ruleId,f ruleId perf))
    (ruleId : String) : mapped.get? ruleId = (d.get? ruleId).map (f ruleId) := by
  rw [OrderedDict.get?,OrderedDict.get?,entries]
  induction d.entries with
  | nil => rfl
  | cons entry rest ih =>
    obtain ⟨key,perf⟩ := entry
    rw [List.map_cons,OrderedDict.lookupEntry,OrderedDict.lookupEntry]
    split
    · rename_i same
      rw [same]
      rfl
    · exact ih

-- A backtest gives every enabled rule its confusion matrix over the data, whose counts are as
-- many as the data, whatever order these come in, and leaves what other rules have.
theorem backtest_exact (ran : backtest h data e = (.ok counts,after)) :
    (∀ item ∈ data, ∃ result, outcome h e item = .ok result) ∧
      (∀ ruleId, counts.get? ruleId =
        if ruleId ∈ (e.rules.filter EngineRule.enabled).map (fun rule => rule.id) then some (matrix h e data ruleId) else none) ∧
      (∀ ruleId, (matrix h e data ruleId).totalEvaluated = data.length) ∧
      (∀ ruleId, after.ruleMetrics.get? ruleId = (counts.get? ruleId).or (e.ruleMetrics.get? ruleId)) ∧
      after.metrics.transactionsEvaluated = e.metrics.transactionsEvaluated + data.length ∧
      ∀ others, others.Perm data → ∃ last, backtest h others e = (.ok counts,last) := by
  have each : ∀ item ∈ data, ∃ result, outcome h e item = .ok result := by
    cases looped : backtestLoop h data (freshMetrics e.rules) e with
    | mk first rest =>
      cases first with
      | error error =>
        rw [backtest,looped] at ran
        cases ran
      | ok found => exact backtestLoop_each h data (freshMetrics e.rules) e (congrArg Prod.fst looped)
  obtain ⟨found,last,looped,kept,entries⟩ := backtestLoop_ok h data (freshMetrics e.rules) e each
  rw [backtest,looped] at ran
  cases ran
  refine ⟨each,?_,matrix_total h e data,?_,kept.counted,?_⟩
  · intro ruleId
    rw [entries_get? (freshMetrics e.rules) (fun ruleId perf => plus perf (matrix h e data ruleId)) counts entries,freshMetrics_get?]
    split
    · simp [plus,RulePerformanceMetrics.start,matrix]
    · rfl
  · intro ruleId
    rw [OrderedDict.get?_update,kept.ruleMetrics]
  · intro others same
    obtain ⟨again,final,ended,_,listed⟩ := backtestLoop_ok h others (freshMetrics e.rules) e fun item member => each item (same.subset member)
    have equal : again = counts := by
      apply OrderedDict.entries_injective
      rw [listed,entries]
      simp only [matrix_perm h e same]
    rw [equal] at ended
    exact ⟨_,by rw [backtest,ended]⟩

-- One rule over countries.
def plainEngineHost : EngineHost where
  toTravelHost := exampleTravelHost
  int v := match v with
    | .int n => .ok n
    | _ => .error .refused
  modulo _ _ := .finite 0
  operations := .exact

def countryRule : EngineRule where
  toTravelRule := { impossibleTravelRule with id := "FRAUD-GEO-003", name := "High-Risk Country", severity := "high" }
  priority := 10
  enabled := true
  further := ⟨none,none,none,none,none,none,none,none,some ["PRK"],none,none,none,none,none,none,none⟩

def abroad : Record := .ofList [("geo_country",.str "PRK")]

def countryEngine : FraudEngine := { start with rules := [countryRule] }

def abroadTwice : List Labelled := [⟨abroad,true,.empty,.finite 0⟩,⟨.empty,false,.empty,.finite 0⟩,⟨abroad,false,.empty,.finite 0⟩]

theorem country_rule_counts : ∃ counts after, backtest plainEngineHost abroadTwice countryEngine = (.ok counts,after) ∧
    counts.get? "FRAUD-GEO-003" = some ⟨"FRAUD-GEO-003",1,1,1,0⟩ := by
  obtain ⟨counts,after,ran⟩ : ∃ counts after, backtest plainEngineHost abroadTwice countryEngine = (.ok counts,after) := ⟨_,_,rfl⟩
  have counted := (backtest_exact plainEngineHost ran).2.1 "FRAUD-GEO-003"
  exact ⟨counts,after,ran,counted.trans (by decide)⟩

end FraudEngine

-- What is called on an engine.
inductive EngineCall where
  | evaluate (transaction : Record) (context : EvaluationContext) (elapsedMs : PyFloat)
  | backtest (data : List Labelled)
  | reload (file : Except String RulesDocument)

-- The rules and the escalation that an engine is to use.
structure EngineConfiguration where
  rules : List EngineRule
  severityEscalation : SeverityEscalation

-- Only a reload changes them: the rules when all of them are read, the escalation already
-- when the file is.
def EngineConfiguration.next (c : EngineConfiguration) : EngineCall → EngineConfiguration
  | .reload (.ok document) =>
    match document.rules.mapM id with
    | .ok rules => ⟨rules.mergeSort FraudEngine.byPriority,document.severityEscalation⟩
    | .error _ => ⟨c.rules,document.severityEscalation⟩
  | _ => c

namespace FraudEngine
open FraudRuleEngine
variable (h : EngineHost)

def perform (e : FraudEngine) : EngineCall → FraudEngine
  | .evaluate transaction context elapsedMs => (evaluate h transaction context elapsedMs e).2
  | .backtest data => (backtest h data e).2
  | .reload file => (loadRules file e).2

def configuration (e : FraudEngine) : EngineConfiguration := ⟨e.rules,e.severityEscalation⟩

theorem evaluate_configuration (transaction : Record) (context : EvaluationContext) (elapsedMs : PyFloat) (e : FraudEngine) :
    (evaluate h transaction context elapsedMs e).2.configuration = e.configuration := by
  unfold evaluate
  split <;> rfl

theorem backtestLoop_configuration (data : List Labelled) (start : OrderedDict String RulePerformanceMetrics) (e : FraudEngine) :
    (backtestLoop h data start e).2.configuration = e.configuration := by
  induction data generalizing start e with
  | nil => rfl
  | cons item rest ih =>
    have own := evaluate_configuration h item.transaction item.context item.elapsedMs e
    rw [backtestLoop]
    split
    · rename_i went
      rw [went] at own
      exact own
    · rename_i went
      rw [went] at own
      rw [ih]
      exact own

theorem perform_configuration (e : FraudEngine) (call : EngineCall) : (perform h e call).configuration = e.configuration.next call := by
  cases call with
  | evaluate transaction context elapsedMs => exact evaluate_configuration h transaction context elapsedMs e
  | backtest data =>
    have looped := backtestLoop_configuration h data (freshMetrics e.rules) e
    rw [perform,backtest]
    split
    · rename_i went
      rw [went] at looped
      exact looped
    · rename_i went
      rw [went] at looped
      exact looped
  | reload file =>
    cases file with
    | error error => rfl
    | ok document =>
      rw [perform,loadRules,EngineConfiguration.next]
      cases document.rules.mapM id <;> rfl

theorem run_configuration (calls : List EngineCall) (e : FraudEngine) :
    (Runs.run (perform h) e calls).configuration = calls.foldl EngineConfiguration.next e.configuration := by
  induction calls generalizing e with
  | nil => rfl
  | cons call rest ih =>
    rw [List.foldl_cons,← perform_configuration h]
    exact ih (perform h e call)

def Ordered (rules : List EngineRule) : Prop := rules.Pairwise fun a b => a.priority ≤ b.priority

theorem next_ordered (c : EngineConfiguration) (ordered : Ordered c.rules) (call : EngineCall) : Ordered (c.next call).rules := by
  unfold EngineConfiguration.next
  split
  · split
    · rename_i rules _
      have sorted := @List.pairwise_mergeSort _ byPriority (fun a b d => by simpa [byPriority] using Int.le_trans)
        (fun a b => by simpa [byPriority] using Int.le_total a.priority b.priority) rules
      exact sorted.imp fun less => of_decide_eq_true less
    · exact ordered
  · exact ordered

theorem configured_ordered (calls : List EngineCall) (c : EngineConfiguration) (ordered : Ordered c.rules) :
    Ordered (calls.foldl EngineConfiguration.next c).rules := by
  induction calls generalizing c with
  | nil => exact ordered
  | cons call rest ih => exact ih _ (next_ordered c ordered call)

-- Whatever was called before, an evaluation answers with the rules as they were last read: one
-- match of its own for each enabled rule that fires, by priority, and the scores of these.
theorem evaluated_in_order (calls : List EngineCall) (txn : Record) (ctx : EvaluationContext) (elapsedMs : PyFloat)
    (came : (evaluate h txn ctx elapsedMs (Runs.run (perform h) start calls)).1 = .ok result) :
    let c := calls.foldl EngineConfiguration.next start.configuration
    ∃ fired : List EngineRule, fired.Sublist c.rules ∧ Ordered fired ∧
      (∀ rule ∈ c.rules, rule ∈ fired ↔ rule.enabled = true ∧ Fires h txn ctx rule) ∧
      List.Forall₂ (fun m rule => RuleMatch.Of m rule.toFraudRule) result.triggeredRules fired ∧
      result.totalRulesEvaluated = c.rules.countP EngineRule.enabled ∧
      computeCombinedSeverity c.severityEscalation result.triggeredRules = .ok result.combinedSeverity ∧
      result.combinedConfidence = computeCombinedConfidence h.operations result.triggeredRules ∧
      result.ruleScore = computeRuleScore h.operations result.triggeredRules := by
  have configured := run_configuration h calls start
  generalize Runs.run (perform h) start calls = e at came configured
  generalize held : calls.foldl EngineConfiguration.next start.configuration = c at configured
  have ordered : Ordered c.rules := held ▸ configured_ordered calls start.configuration .nil
  subst configured
  have evaluated : evaluation h e.rules e.severityEscalation txn ctx elapsedMs = .ok result := by
    rw [evaluate] at came
    split at came
    · cases came
    · rename_i found
      cases came
      exact found
  obtain ⟨_,found,count⟩ := evaluation_ok h e.rules e.severityEscalation txn ctx elapsedMs evaluated
  have kept : (e.rules.filter fun rule => rule.enabled && (hitOf h txn ctx rule).isSome) =
      (e.rules.filter EngineRule.enabled).filter fun rule => (hitOf h txn ctx rule).isSome := by
    rw [List.filter_filter]
    exact List.filter_congr fun rule _ => Bool.and_comm _ _
  have scores := evaluation_scores h e.rules e.severityEscalation txn ctx elapsedMs evaluated
  refine ⟨e.rules.filter fun rule => rule.enabled && (hitOf h txn ctx rule).isSome,List.filter_sublist,ordered.filter _,?_,?_,?_,scores⟩
  · intro rule member
    rw [List.mem_filter,Bool.and_eq_true,fires_iff]
    exact and_iff_right member
  · rw [found,kept]
    exact hits_own h txn ctx _
  · rw [count,List.countP_eq_length_filter]
    rfl

def countryFile : List EngineCall := [.reload (.ok ⟨⟨true,some 2⟩,[.ok countryRule]⟩)]

theorem country_rule_evaluated : ∃ result fired, (evaluate plainEngineHost abroad .empty (.finite 0)
      (Runs.run (perform plainEngineHost) start countryFile)).1 = .ok result ∧
    fired.Sublist (countryFile.foldl EngineConfiguration.next start.configuration).rules ∧
    List.Forall₂ (fun m rule => RuleMatch.Of m rule.toFraudRule) result.triggeredRules fired := by
  have loaded : Runs.run (perform plainEngineHost) start countryFile =
      { start with rules := [countryRule], severityEscalation := ⟨true,some 2⟩, ruleMetrics := withMetrics [countryRule] .empty } := by
    simp [countryFile,Runs.run,perform,loadRules,start]
  obtain ⟨result,came⟩ : ∃ result, (evaluate plainEngineHost abroad .empty (.finite 0)
      (Runs.run (perform plainEngineHost) start countryFile)).1 = .ok result := by
    rw [loaded]
    exact ⟨_,rfl⟩
  obtain ⟨fired,part,_,_,own,_⟩ := evaluated_in_order plainEngineHost countryFile abroad .empty (.finite 0) came
  exact ⟨result,fired,came,part,own⟩

end FraudEngine
end RiskPulse
