import Mathlib.Data.Rat.Cast.Order
import RiskPulse.AlertManager
import RiskPulse.Library.Batches
import RiskPulse.Library.Runs

namespace RiskPulse

inductive RiskClassification where
  | low
  | medium
  | high
  | critical
  deriving DecidableEq

def RiskClassification.value : RiskClassification → String
  | .low => "low"
  | .medium => "medium"
  | .high => "high"
  | .critical => "critical"

namespace PyFloat

def ge (a b : PyFloat) : Bool := a.greater b || decide (a = b ∧ a ≠ .nan)

theorem ge_finite (a b : Rat) : (finite a).ge (finite b) = true ↔ b ≤ a := by
  unfold ge greater
  rw [Bool.or_eq_true,decide_eq_true_iff,decide_eq_true_iff,le_iff_lt_or_eq]
  simp [eq_comm]

theorem greater_trans (ab : greater a b = true) (bc : greater b c = true) : greater a c = true := by
  cases a <;> cases b <;> cases c <;> simp_all [greater]
  exact lt_trans bc ab

theorem ge_trans (bc : ge b c = true) (ab : ge a b = true) : ge a c = true := by
  simp only [ge,Bool.or_eq_true,decide_eq_true_eq] at bc ab ⊢
  rcases ab with above | ⟨rfl,number⟩
  · rcases bc with further | ⟨rfl,_⟩
    · exact .inl (greater_trans above further)
    · exact .inl above
  · exact bc

-- max and min keep their first argument unless the second is greater, or less.
def max (a b : PyFloat) : PyFloat := if b.greater a then b else a

def min (a b : PyFloat) : PyFloat := if a.greater b then b else a

theorem min_finite (a b : Rat) : min (.finite a) (.finite b) = .finite (Min.min a b) := by
  unfold min greater
  by_cases less : b < a
  · rw [if_pos (decide_eq_true less),min_eq_right (le_of_lt less)]
  · rw [if_neg (by simpa using less),min_eq_left (not_lt.mp less)]

def abs : PyFloat → PyFloat
  | .finite q => .finite |q|
  | .nan => .nan
  | .infinity _ => .infinity false

def exactly (operation : Rat → Rat → Rat) : PyFloat → PyFloat → PyFloat
  | .finite a,.finite b => .finite (operation a b)
  | _,_ => .nan

end PyFloat

-- The arithmetic of the machine's floats; rounding to digits keeps their order.
structure FloatArithmetic where
  sum : List PyFloat → PyFloat
  minus : PyFloat → PyFloat → PyFloat
  times : PyFloat → PyFloat → PyFloat
  divide : PyFloat → PyFloat → PyFloat
  round : PyFloat → Nat → PyFloat
  ordered : ∀ a b digits, (round a digits).greater (round b digits) = true → a.greater b = true
  zero : ∀ digits, round (.finite 0) digits = .finite 0

-- Arithmetic that rounds nothing: the machine's on numbers it holds exactly.
def FloatArithmetic.exact : FloatArithmetic where
  sum terms := terms.foldl (PyFloat.exactly fun a b => a + b) (.finite 0)
  minus := PyFloat.exactly fun a b => a - b
  times := PyFloat.exactly fun a b => a * b
  divide := PyFloat.exactly fun a b => a / b
  round a _ := a
  ordered _ _ _ up := up
  zero _ := rfl

-- With the sum of two floats.
structure FloatOperations extends FloatArithmetic where
  plus : PyFloat → PyFloat → PyFloat

def FloatOperations.exact : FloatOperations where
  toFloatArithmetic := .exact
  plus := PyFloat.exactly fun a b => a + b

structure ScoringMethodResult where
  method : String
  rawScore : PyFloat
  normalizedScore : PyFloat
  weight : PyFloat
  weightedScore : PyFloat
  latencyMs : PyFloat
  success : Bool
  error : Option String
  details : Record

structure UnifiedScore where
  transactionId : Value
  finalScore : PyFloat
  riskClassification : RiskClassification
  methodScores : List ScoringMethodResult
  ensembleWeightsUsed : OrderedDict String PyFloat
  totalLatencyMs : PyFloat
  methodsSucceeded : Nat
  methodsFailed : Nat
  alertRecommended : Bool
  autoBlockRecommended : Bool
  cached : Bool
  scoringVersion : String

-- What the pipeline reads of the results of its three components.
structure RuleMatch where
  ruleId : String

structure RuleEvaluationResult where
  triggeredRules : List RuleMatch
  combinedSeverity : String
  ruleScore : PyFloat
  totalRulesEvaluated : Nat

structure AnomalyResult where
  anomalyScore : PyFloat
  isAnomaly : Bool
  confidence : PyFloat
  modelVersion : String

structure RiskScore where
  riskScore : PyFloat
  rawScore : PyFloat
  riskLevel : String
  confidence : PyFloat
  modelVersion : String
  topFeatures : List Value

-- A component that was not given, one whose call raises, and one that returns.
inductive MethodOutcome (α : Type) where
  | missing
  | raised (message : String)
  | returned (result : α)

def MethodOutcome.succeeds : MethodOutcome α → Bool
  | .returned _ => true
  | _ => false

-- What the components do in one evaluation, and how long it takes.
structure Evaluation where
  rules : MethodOutcome RuleEvaluationResult
  anomaly : MethodOutcome AnomalyResult
  ml : MethodOutcome RiskScore
  ruleLatencyMs : PyFloat
  anomalyLatencyMs : PyFloat
  mlLatencyMs : PyFloat
  totalLatencyMs : PyFloat

inductive ScoringError where
  | keyError (key : String)
  | valueError (message : String)
  | cancelled
  deriving DecidableEq

structure CacheSettings where
  maxEntries : Int
  ttlSeconds : Rat

-- The thresholds and settings. The text of a value and the digest of a key come from
-- Python's library.
structure ScoringPipeline where
  float : FloatArithmetic
  medium : PyFloat
  high : PyFloat
  critical : PyFloat
  alertThreshold : PyFloat
  autoBlockThreshold : PyFloat
  fallbackOnTimeout : Bool
  minMethodsRequired : Int
  scoreInversion : Bool
  minConfidence : PyFloat
  confidencePenalty : PyFloat
  cache : Option CacheSettings
  maxBatchSize : Nat
  chunkSize : Int
  str : Value → String
  digest : String → String

abbrev Weights := OrderedDict String PyFloat

namespace ScoringMethodResult

def toDict (f : FloatArithmetic) (ms : ScoringMethodResult) : Value := .dict [
  ("method",.str ms.method),
  ("raw_score",.float (f.round ms.rawScore 6)),
  ("normalized_score",.float (f.round ms.normalizedScore 6)),
  ("weight",.float ms.weight),
  ("weighted_score",.float (f.round ms.weightedScore 6)),
  ("latency_ms",.float (f.round ms.latencyMs 3)),
  ("success",.bool ms.success),
  ("error",(ms.error.map Value.str).getD .none)]

end ScoringMethodResult

namespace UnifiedScore

def toDict (f : FloatArithmetic) (u : UnifiedScore) : Record where
  entries := [
    ("transaction_id",u.transactionId),
    ("final_score",.float (f.round u.finalScore 6)),
    ("risk_classification",.str u.riskClassification.value),
    ("method_scores",.list (u.methodScores.map (ScoringMethodResult.toDict f))),
    ("ensemble_weights_used",.dict (u.ensembleWeightsUsed.entries.map fun entry => (entry.1,.float entry.2))),
    ("total_latency_ms",.float (f.round u.totalLatencyMs 3)),
    ("methods_succeeded",.int u.methodsSucceeded),
    ("methods_failed",.int u.methodsFailed),
    ("alert_recommended",.bool u.alertRecommended),
    ("auto_block_recommended",.bool u.autoBlockRecommended),
    ("cached",.bool u.cached),
    ("scoring_version",.str u.scoringVersion)]
  unique := by
    have names : ["transaction_id","final_score","risk_classification","method_scores","ensemble_weights_used",
      "total_latency_ms","methods_succeeded","methods_failed","alert_recommended","auto_block_recommended","cached",
      "scoring_version"].Nodup := by decide
    exact names

end UnifiedScore

namespace ScoringPipeline

def validateWeights (p : ScoringPipeline) (weights : Weights) : Except ScoringError Unit :=
  let total := p.float.sum (weights.entries.map Prod.snd)
  if (PyFloat.abs (p.float.minus total (.finite 1))).greater (.finite (1 / 1000000)) then
    .error (.valueError "Ensemble weights must sum to 1.0")
  else
    match weights.entries.find? fun entry => (PyFloat.finite 0).greater entry.2 || entry.2.greater (.finite 1) with
    | some (name,_) => .error (.valueError s!"Weight '{name}' must be between 0 and 1")
    | none => .ok ()

-- self._weights[key]; a key that is missing is read again when the failure is reported.
def weightOf (weights : Weights) (key : String) : Except ScoringError PyFloat :=
  match weights.get? key with
  | some weight => .ok weight
  | none => .error (.keyError key)

def failure (method : String) (weight latencyMs : PyFloat) (error : String) : ScoringMethodResult :=
  ⟨method,.finite 0,.finite 0,weight,.finite 0,latencyMs,false,some error,.empty⟩

-- Execute one scoring method; scored is what it makes of a result and its weight.
def scoreMethod (method weightKey absent : String) (weights : Weights) (outcome : MethodOutcome α) (latencyMs : PyFloat)
    (scored : PyFloat → α → ScoringMethodResult) : Except ScoringError ScoringMethodResult := do
  let weight ← weightOf weights weightKey
  match outcome with
  | .missing => pure (failure method weight (.finite 0) absent)
  | .raised message => pure (failure method weight latencyMs message)
  | .returned result => pure (scored weight result)

def scoreRules (p : ScoringPipeline) (weights : Weights) (e : Evaluation) : Except ScoringError ScoringMethodResult :=
  scoreMethod "rule_engine" "rule_score" "Rule engine not initialized" weights e.rules e.ruleLatencyMs fun weight result =>
    let normalized := PyFloat.min (.finite 1) (PyFloat.max (.finite 0) result.ruleScore)
    { method := "rule_engine"
      rawScore := result.ruleScore
      normalizedScore := normalized
      weight := weight
      weightedScore := p.float.times normalized weight
      latencyMs := e.ruleLatencyMs
      success := true
      error := none
      details := .ofList [("triggered_rules",.int result.triggeredRules.length),("combined_severity",.str result.combinedSeverity),
        ("rules_evaluated",.int result.totalRulesEvaluated)] }

def scoreAnomaly (p : ScoringPipeline) (weights : Weights) (e : Evaluation) : Except ScoringError ScoringMethodResult :=
  scoreMethod "anomaly_detector" "anomaly_score" "Anomaly detector not initialized" weights e.anomaly e.anomalyLatencyMs
    fun weight result =>
      let raw := result.anomalyScore
      let inverted := if p.scoreInversion then p.float.divide (p.float.minus (.finite 1) raw) (.finite 2) else raw
      let normalized := PyFloat.max (.finite 0) (PyFloat.min (.finite 1) inverted)
      { method := "anomaly_detector"
        rawScore := raw
        normalizedScore := normalized
        weight := weight
        weightedScore := p.float.times normalized weight
        latencyMs := e.anomalyLatencyMs
        success := true
        error := none
        details := .ofList [("is_anomaly",.bool result.isAnomaly),("confidence",.float result.confidence),
          ("model_version",.str result.modelVersion)] }

def scoreMl (p : ScoringPipeline) (weights : Weights) (e : Evaluation) : Except ScoringError ScoringMethodResult :=
  scoreMethod "ml_model" "ml_score" "ML risk scorer not initialized" weights e.ml e.mlLatencyMs fun weight result =>
    let normalized := PyFloat.max (.finite 0) (PyFloat.min (.finite 1) result.riskScore)
    let weight := if p.minConfidence.greater result.confidence then p.float.times weight p.confidencePenalty else weight
    { method := "ml_model"
      rawScore := result.rawScore
      normalizedScore := normalized
      weight := weight
      weightedScore := p.float.times normalized weight
      latencyMs := e.mlLatencyMs
      success := true
      error := none
      details := .ofList [("risk_level",.str result.riskLevel),("confidence",.float result.confidence),
        ("model_version",.str result.modelVersion),("top_features",.list (result.topFeatures.take 3))] }

-- The weights are normalised again over the methods that succeeded.
def computeEnsembleScore (p : ScoringPipeline) (results : List ScoringMethodResult) : PyFloat :=
  let successful := results.filter ScoringMethodResult.success
  if successful.isEmpty then .finite 0
  else
    let total := p.float.sum (successful.map ScoringMethodResult.weight)
    if (PyFloat.finite 0).ge total then .finite 0
    else
      let ensemble := p.float.sum (successful.map fun r => p.float.times r.normalizedScore (p.float.divide r.weight total))
      PyFloat.max (.finite 0) (PyFloat.min (.finite 1) ensemble)

def classifyRisk (p : ScoringPipeline) (score : PyFloat) : RiskClassification :=
  if score.ge p.critical then .critical
  else if score.ge p.high then .high
  else if score.ge p.medium then .medium
  else .low

def generateCacheKey (p : ScoringPipeline) (transaction : Record) : String :=
  let external := transaction.getD "external_transaction_id" .none
  let txnId := if external.truthy then external else transaction.getD "transaction_id" (.str "")
  let amount := p.str (transaction.getD "transaction_amount" (.str ""))
  let ts := p.str (transaction.getD "transaction_timestamp" (.str ""))
  p.digest (p.str txnId ++ ":" ++ amount ++ ":" ++ ts)

def transactionId (transaction : Record) : Value :=
  let external := transaction.getD "external_transaction_id" .none
  if external.truthy then external else transaction.getD "transaction_id" (.str "unknown")

def unify (p : ScoringPipeline) (weights : Weights) (transaction : Record) (results : List ScoringMethodResult)
    (totalLatencyMs : PyFloat) : UnifiedScore :=
  let finalScore := p.computeEnsembleScore results
  { transactionId := transactionId transaction
    finalScore
    riskClassification := p.classifyRisk finalScore
    methodScores := results
    ensembleWeightsUsed := weights
    totalLatencyMs
    methodsSucceeded := results.countP ScoringMethodResult.success
    methodsFailed := results.countP fun r => !r.success
    alertRecommended := finalScore.ge p.alertThreshold
    autoBlockRecommended := finalScore.ge p.autoBlockThreshold
    cached := false
    scoringVersion := "1.0.0" }

-- The evaluation of score_transaction_sync. Too few methods are logged only.
def evaluateSync (p : ScoringPipeline) (weights : Weights) (transaction : Record) (e : Evaluation) : Except ScoringError UnifiedScore := do
  let rule ← p.scoreRules weights e
  let anomaly ← p.scoreAnomaly weights e
  let ml ← p.scoreMl weights e
  pure (p.unify weights transaction [rule,anomaly,ml] e.totalLatencyMs)

-- The methods that have finished when the timeout fires.
structure Progress where
  rules : Bool
  anomaly : Bool
  ml : Bool
  deriving DecidableEq

-- Every future is done then, as those that had not finished are cancelled; the result
-- of a cancelled one raises.
def taskResult (finished : Bool) (result : Except ScoringError ScoringMethodResult) : Except ScoringError ScoringMethodResult :=
  if finished then result else .error .cancelled

-- Without a timeout an exception of a method is logged, and its result left out.
def gathered (p : ScoringPipeline) (weights : Weights) (e : Evaluation) (timeout : Option Progress) :
    Except ScoringError (List ScoringMethodResult) :=
  match timeout with
  | none => .ok ([p.scoreRules weights e,p.scoreAnomaly weights e,p.scoreMl weights e].filterMap Except.toOption)
  | some progress => do
    let rule ← taskResult progress.rules (p.scoreRules weights e)
    let anomaly ← taskResult progress.anomaly (p.scoreAnomaly weights e)
    let ml ← taskResult progress.ml (p.scoreMl weights e)
    pure [rule,anomaly,ml]

def markMissing (weights : Weights) (results : List ScoringMethodResult) (missing : String × String) :
    Except ScoringError (List ScoringMethodResult) :=
  if missing.1 ∈ results.map ScoringMethodResult.method then pure results
  else do
    let weight ← weightOf weights missing.2
    pure (results ++ [failure missing.1 weight (.finite 0) "Timed out"])

def methodKeys : List (String × String) :=
  [("rule_engine","rule_score"),("anomaly_detector","anomaly_score"),("ml_model","ml_score")]

-- The evaluation of score_transaction.
def evaluateAsync (p : ScoringPipeline) (weights : Weights) (transaction : Record) (e : Evaluation) (timeout : Option Progress) :
    Except ScoringError UnifiedScore := do
  let results ← p.gathered weights e timeout
  let all ← methodKeys.foldlM (markMissing weights) results
  pure (p.unify weights transaction all e.totalLatencyMs)

-- What one call of score_transaction in a batch meets: what the cache gives it, the
-- weights, its evaluation, and whether its result can be put.
structure BatchCall where
  found : Option UnifiedScore
  weights : Weights
  e : Evaluation
  timeout : Option Progress
  puts : Bool

def scoreTransaction (p : ScoringPipeline) (transaction : Record) (call : BatchCall) : Except ScoringError UnifiedScore :=
  match call.found with
  | some unified => .ok unified
  | none => do
    let unified ← p.evaluateAsync call.weights transaction call.e call.timeout
    if call.puts then pure unified else .error (.keyError "dictionary is empty")

-- range(0, n, chunk_size)
def chunkStarts (n : Nat) (chunkSize : Int) : List Nat :=
  if chunkSize < 0 then [] else Batches.starts chunkSize.toNat n

-- The call for the n-th transaction meets calls n. What a call raises is logged, or
-- passed over when it is a cancellation.
def scoreBatch (p : ScoringPipeline) (transactions : List Record) (contexts : Option (List (Option Record))) (calls : Nat → BatchCall) :
    Except ScoringError (List UnifiedScore) :=
  if transactions.isEmpty then .ok []
  else if p.maxBatchSize < transactions.length then .error (.valueError "Batch size exceeds maximum")
  else if p.chunkSize = 0 then .error (.valueError "range() arg 3 must not be zero")
  else
    let contexts := contexts.getD (List.replicate transactions.length none)
    .ok ((chunkStarts transactions.length p.chunkSize).flatMap fun start =>
      let chunk := ((transactions.zipIdx.drop start).take p.chunkSize.toNat).zip ((contexts.drop start).take p.chunkSize.toNat)
      chunk.filterMap fun call => (p.scoreTransaction call.1.1 (calls call.1.2)).toOption)

end ScoringPipeline

-- The scores are objects that the cache and the callers share; a cache entry has the time
-- it was put and the number of its object.
structure ScoringState where
  weights : Weights
  cache : OrderedDict String (Rat × Nat)
  scores : List UnifiedScore

namespace ScoringPipeline

def cacheGet (settings : CacheSettings) (key : String) (now : Rat) (s : ScoringState) : Option Nat × ScoringState :=
  match s.cache.get? key with
  | none => (none,s)
  | some (timestamp,index) =>
    if settings.ttlSeconds < now - timestamp then (none,{s with cache := s.cache.erase key})
    else
      (some index,{s with
        cache := s.cache.moveToEnd key
        scores := s.scores.modify index fun score => {score with cached := true}})

def cachePut (settings : CacheSettings) (key : String) (now : Rat) (index : Nat) (cache : OrderedDict String (Rat × Nat)) :
    Except ScoringError (OrderedDict String (Rat × Nat)) :=
  if key ∈ cache.keys then .ok ((cache.moveToEnd key).set key (now,index))
  else if settings.maxEntries ≤ cache.entries.length then
    if cache.entries.isEmpty then .error (.keyError "dictionary is empty") else .ok (cache.popFirst.set key (now,index))
  else .ok (cache.set key (now,index))

structure ScoringRequest where
  transaction : Record
  context : Option Record
  useCache : Bool

def lookUp (p : ScoringPipeline) (r : ScoringRequest) (now : Rat) (s : ScoringState) : Option Nat × ScoringState :=
  match r.useCache,p.cache with
  | true,some settings => cacheGet settings (p.generateCacheKey r.transaction) now s
  | _,_ => (none,s)

-- A new score is an object of its own.
def store (p : ScoringPipeline) (r : ScoringRequest) (now : Rat) (unified : UnifiedScore) (s : ScoringState) :
    Except ScoringError Nat × ScoringState :=
  let made := {s with scores := s.scores ++ [unified]}
  match r.useCache,p.cache with
  | true,some settings =>
    match cachePut settings (p.generateCacheKey r.transaction) now s.scores.length s.cache with
    | .ok cache => (.ok s.scores.length,{made with cache})
    | .error e => (.error e,made)
  | _,_ => (.ok s.scores.length,made)

def finishScore (p : ScoringPipeline) (r : ScoringRequest) (now : Rat) (evaluated : Except ScoringError UnifiedScore) (s : ScoringState) :
    Except ScoringError Nat × ScoringState :=
  match evaluated with
  | .ok unified => p.store r now unified s
  | .error e => (.error e,s)

-- The times are those at which the cache is read and written.
def scoreTransactionSync (p : ScoringPipeline) (r : ScoringRequest) (e : Evaluation) (looked stored : Rat) (s : ScoringState) :
    Except ScoringError Nat × ScoringState :=
  match p.lookUp r looked s with
  | (some index,t) => (.ok index,t)
  | (none,t) => p.finishScore r stored (p.evaluateSync t.weights r.transaction e) t

-- The new weights are there before they are validated.
def updateWeights (p : ScoringPipeline) (weights : Weights) (s : ScoringState) : Except ScoringError Unit × ScoringState :=
  (p.validateWeights weights,{s with weights})

def invalidateCache (p : ScoringPipeline) (transactionId : Option String) (s : ScoringState) : ScoringState :=
  match p.cache with
  | none => s
  | some _ =>
    match transactionId.filter fun text => decide (text ≠ "") with
    | some text => {s with cache := s.cache.erase text}
    | none => {s with cache := .empty}

-- A call of score_transaction_sync is one action; one of score_transaction reads the
-- cache, and finishes any time later if nothing was found.
inductive ScoringAction where
  | scoreSync (r : ScoringRequest) (e : Evaluation) (looked stored : Rat)
  | beginAsync (r : ScoringRequest) (e : Evaluation) (looked : Rat)
  | finishAsync (r : ScoringRequest) (e : Evaluation) (timeout : Option Progress) (stored : Rat)
  | updateWeights (weights : Weights)
  | invalidateCache (transactionId : Option String)

-- The score an action returns, if it returns one.
def perform (p : ScoringPipeline) (s : ScoringState) : ScoringAction → Except ScoringError (Option Nat) × ScoringState
  | .scoreSync r e looked stored =>
    let (result,t) := p.scoreTransactionSync r e looked stored s
    (result.map some,t)
  | .beginAsync r _ looked =>
    let (found,t) := p.lookUp r looked s
    (.ok found,t)
  | .finishAsync r e timeout stored =>
    let (result,t) := p.finishScore r stored (p.evaluateAsync s.weights r.transaction e timeout) s
    (result.map some,t)
  | .updateWeights weights =>
    let (result,t) := p.updateWeights weights s
    (result.map fun _ => none,t)
  | .invalidateCache transactionId => (.ok none,p.invalidateCache transactionId s)

def step (p : ScoringPipeline) (s : ScoringState) (action : ScoringAction) : ScoringState := (p.perform s action).2

def started (weights : Weights) : ScoringState := ⟨weights,.empty,[]⟩

def reached (p : ScoringPipeline) (weights : Weights) (actions : List ScoringAction) : ScoringState :=
  Runs.run p.step (started weights) actions

end ScoringPipeline
end RiskPulse
