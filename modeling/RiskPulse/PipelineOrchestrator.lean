import RiskPulse.Enrichers
import RiskPulse.Library.Effect
import RiskPulse.RulesEngine

namespace RiskPulse

inductive StageErrorPolicy where
  | skip
  | halt
  deriving DecidableEq

inductive PipelineStage where
  | validation
  | cleaning
  | normalization
  | featureEngineering
  | enrichment
  deriving DecidableEq

def PipelineStage.value : PipelineStage → String
  | .validation => "validation"
  | .cleaning => "cleaning"
  | .normalization => "normalization"
  | .featureEngineering => "feature_engineering"
  | .enrichment => "enrichment"

def PipelineStage.all : List PipelineStage :=
  [.validation,.cleaning,.normalization,.featureEngineering,.enrichment]

-- Python's round(x, digits) on an exact number: half to even.
def roundTo (digits : Nat) (q : Rat) : Rat :=
  let scaled := q * 10 ^ digits
  let low := scaled.floor
  let rest := scaled - low
  let rounded := if rest < 1/2 then low else if 1/2 < rest then low + 1 else if low % 2 = 0 then low else low + 1
  rounded / 10 ^ digits

-- The minimum latency starts at infinity, here none.
structure StageMetrics where
  stage : String
  recordsProcessed : Nat
  recordsFailed : Nat
  recordsSkipped : Nat
  totalLatencyMs : Rat
  minLatencyMs : Option Rat
  maxLatencyMs : Rat

namespace StageMetrics

def start (stage : String) : StageMetrics := ⟨stage,0,0,0,0,none,0⟩

def recordSuccess (m : StageMetrics) (latencyMs : Rat) : StageMetrics :=
  {m with
    recordsProcessed := m.recordsProcessed + 1
    totalLatencyMs := m.totalLatencyMs + latencyMs
    minLatencyMs := match m.minLatencyMs with
      | none => some latencyMs
      | some least => if latencyMs < least then some latencyMs else some least
    maxLatencyMs := if latencyMs > m.maxLatencyMs then latencyMs else m.maxLatencyMs}

def recordFailure (m : StageMetrics) : StageMetrics := {m with recordsFailed := m.recordsFailed + 1}

def recordSkip (m : StageMetrics) : StageMetrics := {m with recordsSkipped := m.recordsSkipped + 1}

end StageMetrics

structure PipelineMetrics where
  totalIngested : Nat
  totalCompleted : Nat
  totalFailed : Nat
  totalDlq : Nat
  pipelineStartTime : Rat
  pipelineEndTime : Rat
  stageMetrics : OrderedDict String StageMetrics

def PipelineMetrics.start : PipelineMetrics := ⟨0,0,0,0,0,0,.empty⟩

structure PipelineResult where
  transactionId : Value
  success : Bool
  record : Record
  stageFailed : Option String
  error : Option String
  dlq : Bool
  latencyMs : Rat

structure BatchResult where
  batchId : String
  total : Nat
  succeeded : Nat
  failed : Nat
  dlqCount : Nat
  results : List PipelineResult
  metrics : PipelineMetrics
  latencyMs : Rat

structure DlqEntry where
  dlqId : String
  originalRecord : Record
  failedStage : String
  failureReason : String
  timestamp : Rat

inductive ValidationSeverity where
  | error
  | warning
  deriving DecidableEq

structure ValidationError where
  field : String
  rule : String
  message : String
  severity : ValidationSeverity
  value : Value

structure ValidationResult where
  isValid : Bool
  errors : List ValidationError
  warnings : List ValidationError

-- Of a rule evaluation the pipeline reads the rule's id only.
structure RuleEngineResult where
  overallAction : RuleAction
  triggeredRules : List String
  totalRulesTriggered : Nat

structure CleaningResult where
  record : Record
  isDuplicate : Bool
  changes : List String

structure NormalizationResult where
  record : Record

structure FeatureResult where
  features : Record
  error : Option String

def FeatureResult.isSuccess (result : FeatureResult) : Bool := result.error.isNone

-- A stage component: it may return any value of its type or raise, and it may
-- change the world it shares with the other components.
abbrev Component (W α β : Type) := α → W → Except String β × W

-- What the orchestrator was built from. Clock and identifiers are read off the
-- world; every component call may have moved it on.
structure PipelineOrchestrator (W : Type) where
  validator : Component W Record ValidationResult
  quarantine : Component W (Record × ValidationResult) Unit
  rulesEngine : Component W Record RuleEngineResult
  cleaner : Component W Record CleaningResult
  normalizer : Component W Record NormalizationResult
  featureEngineer : Component W Record FeatureResult
  geoEnricher : Component W Record GeoEnrichmentResult
  deviceEnricher : Component W Record DeviceEnrichmentResult
  merchantEnricher : Component W Record MerchantEnrichmentResult
  velocityCalculator : Component W Record VelocityResult
  errorPolicy : OrderedDict String StageErrorPolicy
  onDlq : Option (Component W (Record × String × String) Unit)
  perfCounter : W → Rat
  time : W → Rat
  uuid4Hex : W → String

-- Which component was called on what, and what it gave back.
inductive Observation where
  | validated (record : Record) (outcome : Except String ValidationResult)
  | quarantined (record : Record) (outcome : Except String Unit)
  | evaluated (record : Record) (outcome : Except String RuleEngineResult)
  | cleaned (record : Record) (outcome : Except String CleaningResult)
  | normalized (record : Record) (outcome : Except String NormalizationResult)
  | featured (record : Record) (outcome : Except String FeatureResult)
  | geoEnriched (record : Record) (outcome : Except String GeoEnrichmentResult)
  | deviceEnriched (record : Record) (outcome : Except String DeviceEnrichmentResult)
  | merchantEnriched (record : Record) (outcome : Except String MerchantEnrichmentResult)
  | velocityEvaluated (record : Record) (outcome : Except String VelocityResult)

-- The world, the orchestrator's own state and, for the proofs only, the
-- component calls made so far; no branch of the code reads the last field.
structure PipelineState (W : Type) where
  world : W
  metrics : PipelineMetrics
  dlq : List DlqEntry
  seen : List Observation

def PipelineState.start (world : W) : PipelineState W := ⟨world,.start,[],[]⟩

abbrev Pipeline (W α : Type) := Effect (PipelineState W) α

namespace PipelineOrchestrator
variable {W : Type}

-- The default policy of every stage is skip; the caller's entries go on top.
def errorPolicies (overrides : OrderedDict String StageErrorPolicy) : OrderedDict String StageErrorPolicy :=
  (OrderedDict.ofList (PipelineStage.all.map fun stage => (stage.value,StageErrorPolicy.skip))).update overrides

def callComponent (component : Component W α β) (argument : α) (observe : Except String β → Observation) :
    Pipeline W β := fun s =>
  let (outcome,world) := component argument s.world
  (outcome,{s with world := world,seen := s.seen ++ [observe outcome]})

def changeStageMetrics (stage : String) (change : StageMetrics → StageMetrics) : Pipeline W Unit :=
  Effect.modify fun s =>
    match s.metrics.stageMetrics.get? stage with
    | none => s
    | some m => {s with metrics := {s.metrics with stageMetrics := s.metrics.stageMetrics.set stage (change m)}}

def recordStageSuccess (stage : String) (latencyMs : Rat) : Pipeline W Unit :=
  changeStageMetrics stage (StageMetrics.recordSuccess · latencyMs)

def recordStageFailure (stage : String) : Pipeline W Unit := changeStageMetrics stage StageMetrics.recordFailure

def recordStageSkip (stage : String) : Pipeline W Unit := changeStageMetrics stage StageMetrics.recordSkip

def clock (p : PipelineOrchestrator W) : Pipeline W Rat := Effect.read fun s => p.perfCounter s.world

-- Route a failed record to the dead-letter queue. An exception of the callback
-- is logged and goes no further.
def routeToDlq (p : PipelineOrchestrator W) (record : Record) (stage reason : String) : Pipeline W Unit := do
  Effect.modify fun s =>
    {s with dlq := s.dlq ++ [⟨p.uuid4Hex s.world,record,stage,reason,p.time s.world⟩]}
  match p.onDlq with
  | none => pure ()
  | some callback => fun s => (.ok (),{s with world := (callback (record,stage,reason) s.world).2})

def handleStageError (p : PipelineOrchestrator W) (stage : String) (record : Record) (error : String) :
    Pipeline W (Option Record) :=
  if p.errorPolicy.getD stage .skip = .halt then do
    routeToDlq p record stage error
    pure none
  else
    pure (some (record.set ("_" ++ stage ++ "_error") (.str error)))

def runValidation (p : PipelineOrchestrator W) (record : Record) : Pipeline W (Option Record) := do
  let stage := PipelineStage.validation.value
  let start ← clock p
  Effect.attempt
    (do
      let result ← callComponent p.validator record (.validated record)
      let now ← clock p
      if result.isValid = false then do
        callComponent p.quarantine (record,result) (.quarantined record)
        recordStageFailure stage
        routeToDlq p record stage ("Validation errors: " ++ toString result.errors.length)
        pure none
      else do
        recordStageSuccess stage ((now - start) * 1000)
        pure (some (record.set "_validation_warnings" (.int result.warnings.length))))
    (fun e => handleStageError p stage record e)

-- repr of a string: single quotes unless it holds some and no double quote.
def reprText (text : String) : String :=
  let single := Char.ofNat 39
  let double := Char.ofNat 34
  let backslash := Char.ofNat 92
  let quote := if single ∈ text.toList ∧ double ∉ text.toList then double else single
  let escape (c : Char) : List Char :=
    if c = backslash ∨ c = quote then [backslash,c]
    else if c.toNat = 10 then [backslash,'n']
    else if c.toNat = 13 then [backslash,'r']
    else if c.toNat = 9 then [backslash,'t']
    else if c.toNat < 32 ∨ c.toNat = 127 then
      [backslash,'x',Nat.digitChar (c.toNat / 16),Nat.digitChar (c.toNat % 16)]
    else [c]
  String.ofList ([quote] ++ text.toList.flatMap escape ++ [quote])

-- The rule ids as the f-string prints their list.
def reprIds (ids : List String) : String := "[" ++ ", ".intercalate (ids.map reprText) ++ "]"

-- The rules engine shares the validation stage's name, metrics and policy.
def runRulesEngine (p : PipelineOrchestrator W) (record : Record) : Pipeline W (Option Record) := do
  let stage := PipelineStage.validation.value
  let start ← clock p
  Effect.attempt
    (do
      let result ← callComponent p.rulesEngine record (.evaluated record)
      let now ← clock p
      if result.overallAction = .block then do
        recordStageFailure stage
        routeToDlq p record "rules_engine_block" ("Blocked by rules: " ++ reprIds result.triggeredRules)
        pure none
      else do
        recordStageSuccess stage ((now - start) * 1000)
        pure (some ((record.set "_rules_triggered" (.int result.totalRulesTriggered)).set
          "_rules_action" (.str result.overallAction.value))))
    (fun e => handleStageError p stage record e)

def runCleaning (p : PipelineOrchestrator W) (record : Record) : Pipeline W (Option Record) := do
  let stage := PipelineStage.cleaning.value
  let start ← clock p
  Effect.attempt
    (do
      let result ← callComponent p.cleaner record (.cleaned record)
      let now ← clock p
      if result.isDuplicate then do
        recordStageSkip stage
        routeToDlq p record stage "Duplicate record detected"
        pure none
      else do
        recordStageSuccess stage ((now - start) * 1000)
        pure (some result.record))
    (fun e => handleStageError p stage record e)

def runNormalization (p : PipelineOrchestrator W) (record : Record) : Pipeline W (Option Record) := do
  let stage := PipelineStage.normalization.value
  let start ← clock p
  Effect.attempt
    (do
      let result ← callComponent p.normalizer record (.normalized record)
      let now ← clock p
      recordStageSuccess stage ((now - start) * 1000)
      pure (some result.record))
    (fun e => handleStageError p stage record e)

-- result.error or a default text: an empty message counts as none.
def featureError (result : FeatureResult) : String :=
  match result.error with
  | some text => if text = "" then "Feature computation failed" else text
  | none => "Feature computation failed"

def runFeatureEngineering (p : PipelineOrchestrator W) (record : Record) : Pipeline W (Option Record) := do
  let stage := PipelineStage.featureEngineering.value
  let start ← clock p
  Effect.attempt
    (do
      let result ← callComponent p.featureEngineer record (.featured record)
      let now ← clock p
      if result.isSuccess = false then do
        recordStageFailure stage
        handleStageError p stage record (featureError result)
      else do
        recordStageSuccess stage ((now - start) * 1000)
        pure (some ((record.update result.features).set "_feature_count" (.int result.features.entries.length))))
    (fun e => handleStageError p stage record e)

-- One enricher's part of the enrichment stage: its report, if it succeeded.
def geoReport (p : PipelineOrchestrator W) (record : Record) : Pipeline W (Option Record) := do
  let result ← callComponent p.geoEnricher record (.geoEnriched record)
  pure (if result.isSuccess then some result.toDict else none)

def deviceReport (p : PipelineOrchestrator W) (record : Record) : Pipeline W (Option Record) := do
  let result ← callComponent p.deviceEnricher record (.deviceEnriched record)
  pure (if result.isSuccess then some result.toDict else none)

def merchantReport (p : PipelineOrchestrator W) (record : Record) : Pipeline W (Option Record) := do
  let result ← callComponent p.merchantEnricher record (.merchantEnriched record)
  pure (if result.isSuccess then some result.toDict else none)

def velocityReport (p : PipelineOrchestrator W) (record : Record) : Pipeline W (Option Record) := do
  let result ← callComponent p.velocityCalculator record (.velocityEvaluated record)
  pure (if result.isSuccess then some result.toDict else none)

def merge (record : Record) (report : Option Record) : Record :=
  match report with
  | some changes => record.update changes
  | none => record

-- The record is updated in place, report by report: when an enricher raises,
-- what the earlier ones wrote stays in it.
def mergeReports : List (Record → Pipeline W (Option Record)) → Record → PipelineState W →
    (Record × Option String) × PipelineState W
  | [],record,s => ((record,none),s)
  | enricher :: rest,record,s =>
    match enricher record s with
    | (.error e,t) => ((record,some e),t)
    | (.ok report,t) => mergeReports rest (merge record report) t

def enrichers (p : PipelineOrchestrator W) : List (Record → Pipeline W (Option Record)) :=
  [geoReport p,deviceReport p,merchantReport p,velocityReport p]

def runEnrichment (p : PipelineOrchestrator W) (record : Record) : Pipeline W (Option Record) := do
  let stage := PipelineStage.enrichment.value
  let start ← clock p
  let (record,raised) ← fun s => let (merged,t) := mergeReports (enrichers p) record s; (.ok merged,t)
  match raised with
  | some e => handleStageError p stage record e
  | none => do
    let now ← clock p
    let latency := (now - start) * 1000
    recordStageSuccess stage latency
    pure (some (record.set "_enrichment_latency_ms" (.float (.finite (roundTo 4 latency)))))

def makeFailure (p : PipelineOrchestrator W) (txnId : Value) (stage : PipelineStage) (error : String)
    (start : Rat) : Pipeline W PipelineResult := do
  let now ← clock p
  pure ⟨txnId,false,.empty,some stage.value,some error,true,(now - start) * 1000⟩

-- One stage of process_record: a None ends the run with a failure of that
-- stage, anything else is the record the next stage gets.
def orFail (p : PipelineOrchestrator W) (txnId : Value) (stage : PipelineStage) (error : String) (start : Rat)
    (ran : Pipeline W (Option Record)) (next : Record → Pipeline W PipelineResult) : Pipeline W PipelineResult := do
  match ← ran with
  | none => makeFailure p txnId stage error start
  | some record => next record

def processStages (p : PipelineOrchestrator W) (txnId : Value) (start : Rat) (record : Record) :
    Pipeline W PipelineResult :=
  orFail p txnId .validation "Schema validation failed" start (runValidation p record) fun record =>
  orFail p txnId .validation "Blocked by rules engine" start (runRulesEngine p record) fun record =>
  orFail p txnId .cleaning "Cleaning failed" start (runCleaning p record) fun record =>
  orFail p txnId .normalization "Normalization failed" start (runNormalization p record) fun record =>
  orFail p txnId .featureEngineering "Feature engineering failed" start (runFeatureEngineering p record) fun record =>
  orFail p txnId .enrichment "Enrichment failed" start (runEnrichment p record) fun record => do
    let stamp ← Effect.read fun s => p.time s.world
    let record := (record.set "_pipeline_processed" (.bool true)).set
      "_pipeline_timestamp" (.float (.finite stamp))
    let now ← clock p
    pure ⟨txnId,true,record,none,none,false,(now - start) * 1000⟩

def transactionId (p : PipelineOrchestrator W) (record : Record) (w : W) : Value :=
  record.getD "external_transaction_id"
    (record.getD "transaction_id" (.str ("unknown-" ++ String.ofList ((p.uuid4Hex w).toList.take 8))))

def processRecord (p : PipelineOrchestrator W) (record : Record) : Pipeline W PipelineResult := do
  let start ← clock p
  let txnId ← Effect.read fun s => transactionId p record s.world
  Effect.attempt
    (processStages p txnId start record)
    (fun e => do
      let now ← clock p
      routeToDlq p record "pipeline_exception" e
      pure ⟨txnId,false,.empty,none,some e,true,(now - start) * 1000⟩)

structure BatchCounts where
  results : List PipelineResult
  succeeded : Nat
  failed : Nat
  dlqCount : Nat

def BatchCounts.add (counts : BatchCounts) (result : PipelineResult) : BatchCounts :=
  let results := counts.results ++ [result]
  if result.success then {counts with results := results,succeeded := counts.succeeded + 1}
  else {counts with
    results := results
    failed := counts.failed + 1
    dlqCount := if result.dlq then counts.dlqCount + 1 else counts.dlqCount}

def processRecords (p : PipelineOrchestrator W) : List Record → BatchCounts → Pipeline W BatchCounts
  | [],counts => pure counts
  | record :: rest,counts => do
    let result ← processRecord p record
    processRecords p rest (counts.add result)

def processBatch (p : PipelineOrchestrator W) (records : List Record) : Pipeline W BatchResult := do
  let batchId ← Effect.read fun s => String.ofList ((p.uuid4Hex s.world).toList.take 12)
  let batchStart ← clock p
  Effect.modify fun s => {s with metrics := {s.metrics with
    pipelineStartTime := batchStart
    totalIngested := records.length
    stageMetrics := PipelineStage.all.foldl
      (fun built stage => built.set stage.value (.start stage.value)) s.metrics.stageMetrics}}
  let counts ← processRecords p records ⟨[],0,0,0⟩
  let batchEnd ← clock p
  Effect.modify fun s => {s with metrics := {s.metrics with
    pipelineEndTime := batchEnd
    totalCompleted := counts.succeeded
    totalFailed := counts.failed
    totalDlq := counts.dlqCount}}
  let metrics ← Effect.read fun s => s.metrics
  pure ⟨batchId,records.length,counts.succeeded,counts.failed,counts.dlqCount,counts.results,metrics,
    (batchEnd - batchStart) * 1000⟩

def answer (b : β) : Component W α β := fun _ w => (.ok b,w)

def raising (message : String) : Component W α β := fun _ w => (.error message,w)

-- The pipeline whose components accept every record and add nothing to it.
def accepting : PipelineOrchestrator W where
  validator := answer ⟨true,[],[]⟩
  quarantine := answer ()
  rulesEngine := answer ⟨.allow,[],0⟩
  cleaner := fun record w => (.ok ⟨record,false,[]⟩,w)
  normalizer := fun record w => (.ok ⟨record⟩,w)
  featureEngineer := answer ⟨.empty,none⟩
  geoEnricher := answer ⟨none,none,.finite 0,false,none,false,some "disabled"⟩
  deviceEnricher := answer ⟨none,false,none,true,.finite 0,0,false,0,.finite 0,some "disabled"⟩
  merchantEnricher := answer ⟨none,.finite 0,.finite 0,false,true,none,.finite 0,some "disabled"⟩
  velocityCalculator := answer ⟨⟨0,0,0,0,.finite 0,.finite 0,.finite 0,.finite 0,0,0,.finite 0,.finite 0⟩,[],
    .finite 0,false,false,some "disabled"⟩
  errorPolicy := errorPolicies .empty
  onDlq := none
  perfCounter := fun _ => 0
  time := fun _ => 0
  uuid4Hex := fun _ => "00000000000000000000000000000000"

end PipelineOrchestrator
end RiskPulse
