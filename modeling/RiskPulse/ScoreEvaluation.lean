import RiskPulse.ScoringPipeline
import RiskPulse.Library.Fallible

namespace RiskPulse
namespace ScoringPipeline
open Fallible

theorem weightOf_ok : weightOf weights key = .ok weight ↔ weights.get? key = some weight := by
  unfold weightOf
  cases weights.get? key with
  | none => simp
  | some other => simp

theorem weightOf_mem : (∃ weight, weightOf weights key = .ok weight) ↔ key ∈ weights.keys := by
  rw [OrderedDict.mem_keys]
  exact exists_congr fun _ => weightOf_ok

section Method
variable {outcome : MethodOutcome α} {scored : PyFloat → α → ScoringMethodResult}

-- The result is the method's own, and a success when the component returned.
theorem scoreMethod_ok (own : ∀ weight result, (scored weight result).method = method ∧ (scored weight result).success = true)
    (made : scoreMethod method weightKey absent weights outcome latencyMs scored = .ok r) :
    r.method = method ∧ r.success = outcome.succeeds := by
  obtain ⟨weight,-,made⟩ := bind_ok.mp made
  cases outcome with
  | missing => cases made; exact ⟨rfl,rfl⟩
  | raised message => cases made; exact ⟨rfl,rfl⟩
  | returned result => cases made; exact own weight result

theorem scoreMethod_made :
    (∃ r, scoreMethod method weightKey absent weights outcome latencyMs scored = .ok r) ↔ weightKey ∈ weights.keys := by
  rw [← weightOf_mem]
  constructor
  · intro given
    obtain ⟨r,made⟩ := given
    obtain ⟨weight,found,-⟩ := bind_ok.mp made
    exact ⟨weight,found⟩
  · intro given
    obtain ⟨weight,found⟩ := given
    unfold scoreMethod
    rw [found]
    cases outcome with
    | missing => exact ⟨_,rfl⟩
    | raised message => exact ⟨_,rfl⟩
    | returned result => exact ⟨_,rfl⟩

end Method

section Methods
variable (p : ScoringPipeline) (weights : Weights) (e : Evaluation)

theorem scoreRules_ok (made : p.scoreRules weights e = .ok r) : r.method = "rule_engine" ∧ r.success = e.rules.succeeds :=
  scoreMethod_ok (fun _ _ => ⟨rfl,rfl⟩) made

theorem scoreAnomaly_ok (made : p.scoreAnomaly weights e = .ok r) :
    r.method = "anomaly_detector" ∧ r.success = e.anomaly.succeeds :=
  scoreMethod_ok (fun _ _ => ⟨rfl,rfl⟩) made

theorem scoreMl_ok (made : p.scoreMl weights e = .ok r) : r.method = "ml_model" ∧ r.success = e.ml.succeeds :=
  scoreMethod_ok (fun _ _ => ⟨rfl,rfl⟩) made

-- The weights have the key of every method.
def Weighted (weights : Weights) : Prop := ∀ keys ∈ methodKeys, keys.2 ∈ weights.keys

instance : Decidable (Weighted weights) := inferInstanceAs (Decidable (∀ keys ∈ methodKeys, keys.2 ∈ weights.keys))

structure Scored (rule anomaly ml : ScoringMethodResult) : Prop where
  rule : p.scoreRules weights e = .ok rule
  anomaly : p.scoreAnomaly weights e = .ok anomaly
  ml : p.scoreMl weights e = .ok ml

theorem scored_weighted : (∃ rule anomaly ml, Scored p weights e rule anomaly ml) ↔ Weighted weights := by
  constructor
  · rintro ⟨rule,anomaly,ml,scored⟩ keys member
    rcases List.mem_cons.mp member with rfl | member
    · exact scoreMethod_made.mp ⟨rule,scored.rule⟩
    · rcases List.mem_cons.mp member with rfl | member
      · exact scoreMethod_made.mp ⟨anomaly,scored.anomaly⟩
      · cases List.mem_singleton.mp member
        exact scoreMethod_made.mp ⟨ml,scored.ml⟩
  · intro weighted
    obtain ⟨rule,ruled⟩ := scoreMethod_made.mpr (weighted ("rule_engine","rule_score") (by decide))
    obtain ⟨anomaly,detected⟩ := scoreMethod_made.mpr (weighted ("anomaly_detector","anomaly_score") (by decide))
    obtain ⟨ml,predicted⟩ := scoreMethod_made.mpr (weighted ("ml_model","ml_score") (by decide))
    exact ⟨rule,anomaly,ml,ruled,detected,predicted⟩

variable {p weights e}

theorem scored_methods (scored : Scored p weights e rule anomaly ml) :
    [rule,anomaly,ml].map ScoringMethodResult.method = methodKeys.map Prod.fst := by
  have ruled := (scoreRules_ok p weights e scored.rule).1
  have detected := (scoreAnomaly_ok p weights e scored.anomaly).1
  have predicted := (scoreMl_ok p weights e scored.ml).1
  simp [ruled,detected,predicted,methodKeys]

theorem scored_successes (scored : Scored p weights e rule anomaly ml) :
    [rule,anomaly,ml].map ScoringMethodResult.success = [e.rules.succeeds,e.anomaly.succeeds,e.ml.succeeds] := by
  have ruled := (scoreRules_ok p weights e scored.rule).2
  have detected := (scoreAnomaly_ok p weights e scored.anomaly).2
  have predicted := (scoreMl_ok p weights e scored.ml).2
  simp [ruled,detected,predicted]

theorem evaluateSync_ok : p.evaluateSync weights transaction e = .ok u ↔
    ∃ rule anomaly ml, Scored p weights e rule anomaly ml ∧ u = p.unify weights transaction [rule,anomaly,ml] e.totalLatencyMs := by
  constructor
  · intro made
    obtain ⟨rule,ruled,made⟩ := bind_ok.mp made
    obtain ⟨anomaly,detected,made⟩ := bind_ok.mp made
    obtain ⟨ml,predicted,made⟩ := bind_ok.mp made
    cases made
    exact ⟨rule,anomaly,ml,⟨ruled,detected,predicted⟩,rfl⟩
  · intro given
    obtain ⟨rule,anomaly,ml,scored,rfl⟩ := given
    unfold evaluateSync
    rw [scored.rule,scored.anomaly,scored.ml]
    rfl

end Methods

section Timeout
variable {p : ScoringPipeline} {weights : Weights} {e : Evaluation}

-- No timeout fired, or one that found every method finished.
def Finished (timeout : Option Progress) : Prop := ∀ progress, timeout = some progress → progress = ⟨true,true,true⟩

instance (timeout : Option Progress) : Decidable (Finished timeout) :=
  match timeout with
  | none => isTrue fun _ fired => by cases fired
  | some progress => decidable_of_iff (progress = ⟨true,true,true⟩)
      ⟨fun all _ fired => by cases fired; exact all,fun finished => finished progress rfl⟩

theorem taskResult_ok : taskResult finished result = .ok r ↔ finished = true ∧ result = .ok r := by
  cases finished with
  | true => simp [taskResult]
  | false => simp [taskResult]

theorem gathered_scored (scored : Scored p weights e rule anomaly ml) (finished : Finished timeout) :
    p.gathered weights e timeout = .ok [rule,anomaly,ml] := by
  cases timeout with
  | none =>
    unfold gathered
    simp only [scored.rule,scored.anomaly,scored.ml]
    rfl
  | some progress =>
    cases finished progress rfl
    unfold gathered
    simp only [scored.rule,scored.anomaly,scored.ml]
    rfl

theorem gathered_finished (came : p.gathered weights e (some progress) = .ok results) :
    Finished (some progress) ∧ ∃ rule anomaly ml, Scored p weights e rule anomaly ml := by
  obtain ⟨rule,ruled,came⟩ := bind_ok.mp came
  obtain ⟨anomaly,detected,came⟩ := bind_ok.mp came
  obtain ⟨ml,predicted,came⟩ := bind_ok.mp came
  obtain ⟨first,ruled⟩ := taskResult_ok.mp ruled
  obtain ⟨second,detected⟩ := taskResult_ok.mp detected
  obtain ⟨third,predicted⟩ := taskResult_ok.mp predicted
  refine ⟨?_,rule,anomaly,ml,ruled,detected,predicted⟩
  intro other fired
  cases fired
  cases progress
  simp_all

theorem markMissing_present (weights : Weights) (present : missing.1 ∈ results.map ScoringMethodResult.method) :
    markMissing weights results missing = .ok results := by
  rw [markMissing,if_pos present]
  rfl

theorem marked (methods : results.map ScoringMethodResult.method = methodKeys.map Prod.fst) :
    methodKeys.foldlM (markMissing weights) results = .ok results := by
  have present : ∀ missing ∈ methodKeys, missing.1 ∈ results.map ScoringMethodResult.method := by
    intro missing member
    rw [methods]
    exact List.mem_map_of_mem member
  have stays : ∀ keys : List (String × String), (∀ missing ∈ keys, missing ∈ methodKeys) →
      keys.foldlM (markMissing weights) results = .ok results := by
    intro keys sub
    induction keys with
    | nil => rfl
    | cons missing rest ih =>
      have here := markMissing_present weights (present missing (sub missing List.mem_cons_self))
      exact (fold_cons missing rest).mpr ⟨results,here,ih fun other member => sub other (List.mem_cons_of_mem _ member)⟩
  exact stays methodKeys fun _ member => member

-- The methods of the results there are have their weights.
def Keyed (weights : Weights) (results : List ScoringMethodResult) : Prop :=
  ∀ r ∈ results, ∀ keys ∈ methodKeys, r.method = keys.1 → keys.2 ∈ weights.keys

theorem methodKeys_same : ∀ one ∈ methodKeys, ∀ other ∈ methodKeys, one.1 = other.1 → one = other := by decide

theorem markMissing_keyed (known : missing ∈ methodKeys) (keyed : Keyed weights results)
    (marked : markMissing weights results missing = .ok all) : missing.2 ∈ weights.keys ∧ Keyed weights all := by
  unfold markMissing at marked
  split at marked
  next present =>
    cases marked
    obtain ⟨r,member,method⟩ := List.mem_map.mp present
    exact ⟨keyed r member missing known method,keyed⟩
  next absent =>
    obtain ⟨weight,found,marked⟩ := bind_ok.mp marked
    cases marked
    have here := weightOf_mem.mp ⟨weight,found⟩
    refine ⟨here,?_⟩
    intro r member keys other method
    rcases List.mem_append.mp member with old | new
    · exact keyed r old keys other method
    · cases List.mem_singleton.mp new
      cases methodKeys_same missing known keys other method
      exact here

theorem markMissing_weighted {keys : List (String × String)} (known : ∀ missing ∈ keys, missing ∈ methodKeys) (keyed : Keyed weights results)
    (marked : keys.foldlM (markMissing weights) results = .ok all) : ∀ missing ∈ keys, missing.2 ∈ weights.keys := by
  induction keys generalizing results with
  | nil => simp
  | cons missing rest ih =>
    obtain ⟨next,first,later⟩ := (fold_cons missing rest).mp marked
    obtain ⟨here,keyed⟩ := markMissing_keyed (known missing List.mem_cons_self) keyed first
    intro other member
    rcases List.mem_cons.mp member with rfl | member
    · exact here
    · exact ih (fun other member => known other (List.mem_cons_of_mem _ member)) keyed later other member

theorem gathered_keyed (came : p.gathered weights e none = .ok results) : Keyed weights results := by
  cases came
  intro r member keys known method
  obtain ⟨result,made,found⟩ := List.mem_filterMap.mp member
  have ok : result = .ok r := by
    cases result with
    | error e => cases found
    | ok other => cases found; rfl
  subst ok
  have own : ∀ one ∈ methodKeys, r.method = one.1 → one.2 ∈ weights.keys → keys.2 ∈ weights.keys := by
    intro one other same here
    cases methodKeys_same one other keys known (same.symm.trans method)
    exact here
  rcases List.mem_cons.mp made with rule | made
  · exact own ("rule_engine","rule_score") (by decide) (scoreRules_ok p weights e rule.symm).1 (scoreMethod_made.mp ⟨r,rule.symm⟩)
  · rcases List.mem_cons.mp made with anomaly | made
    · exact own ("anomaly_detector","anomaly_score") (by decide) (scoreAnomaly_ok p weights e anomaly.symm).1
        (scoreMethod_made.mp ⟨r,anomaly.symm⟩)
    · have ml := List.mem_singleton.mp made
      exact own ("ml_model","ml_score") (by decide) (scoreMl_ok p weights e ml.symm).1 (scoreMethod_made.mp ⟨r,ml.symm⟩)

theorem gathered_some (came : p.gathered weights e timeout = .ok results)
    (marked : methodKeys.foldlM (markMissing weights) results = .ok all) :
    Finished timeout ∧ ∃ rule anomaly ml, Scored p weights e rule anomaly ml := by
  cases timeout with
  | none =>
    refine ⟨by simp [Finished],(scored_weighted p weights e).mpr ?_⟩
    exact markMissing_weighted (fun _ member => member) (gathered_keyed came) marked
  | some progress => exact gathered_finished came

-- The two ways to evaluate agree where the second returns: nothing was cancelled.
theorem evaluateAsync_ok : p.evaluateAsync weights transaction e timeout = .ok u ↔
    Finished timeout ∧ p.evaluateSync weights transaction e = .ok u := by
  have made : ∀ rule anomaly ml, Scored p weights e rule anomaly ml → Finished timeout →
      p.evaluateAsync weights transaction e timeout =
        .ok (p.unify weights transaction [rule,anomaly,ml] e.totalLatencyMs) := by
    intro rule anomaly ml scored finished
    unfold evaluateAsync
    rw [gathered_scored scored finished]
    simp only [bind,Except.bind]
    rw [marked (scored_methods scored)]
    rfl
  constructor
  · intro came
    obtain ⟨results,gathered,rest⟩ := bind_ok.mp came
    obtain ⟨all,marked,-⟩ := bind_ok.mp rest
    obtain ⟨finished,rule,anomaly,ml,scored⟩ := gathered_some gathered marked
    rw [made rule anomaly ml scored finished] at came
    cases came
    exact ⟨finished,evaluateSync_ok.mpr ⟨rule,anomaly,ml,scored,rfl⟩⟩
  · intro given
    obtain ⟨finished,came⟩ := given
    obtain ⟨rule,anomaly,ml,scored,rfl⟩ := evaluateSync_ok.mp came
    exact made rule anomaly ml scored finished

theorem evaluateSync_returns (transaction : Record) (e : Evaluation) : (∃ u, p.evaluateSync weights transaction e = .ok u) ↔ Weighted weights := by
  rw [← scored_weighted p weights e]
  constructor
  · intro given
    obtain ⟨u,came⟩ := given
    obtain ⟨rule,anomaly,ml,scored,-⟩ := evaluateSync_ok.mp came
    exact ⟨rule,anomaly,ml,scored⟩
  · intro given
    obtain ⟨rule,anomaly,ml,scored⟩ := given
    exact ⟨_,evaluateSync_ok.mpr ⟨rule,anomaly,ml,scored,rfl⟩⟩

theorem evaluateAsync_returns (transaction : Record) (e : Evaluation) (timeout : Option Progress) :
    (∃ u, p.evaluateAsync weights transaction e timeout = .ok u) ↔ Finished timeout ∧ Weighted weights := by
  rw [← evaluateSync_returns (p := p) transaction e]
  constructor
  · intro given
    obtain ⟨u,came⟩ := given
    obtain ⟨finished,came⟩ := evaluateAsync_ok.mp came
    exact ⟨finished,u,came⟩
  · intro given
    obtain ⟨finished,u,came⟩ := given
    exact ⟨u,evaluateAsync_ok.mpr ⟨finished,came⟩⟩

end Timeout

-- The default settings, and a transaction with an id only.
def plainPipeline : ScoringPipeline where
  float := .exact
  medium := .finite (3 / 10)
  high := .finite (6 / 10)
  critical := .finite (85 / 100)
  alertThreshold := .finite (6 / 10)
  autoBlockThreshold := .finite (9 / 10)
  fallbackOnTimeout := true
  minMethodsRequired := 2
  scoreInversion := true
  minConfidence := .finite (1 / 2)
  confidencePenalty := .finite (1 / 2)
  cache := some ⟨100000,300⟩
  maxBatchSize := 1000
  chunkSize := 100
  str := fun value => match value with
    | .str text => text
    | _ => ""
  digest := fun raw => if raw = "T1::" then "b8aa911d9cda8a32a847a4ac8b05725d" else raw

def plainWeights : Weights :=
  .ofList [("rule_score",.finite (1 / 4)),("anomaly_score",.finite (1 / 4)),("ml_score",.finite (1 / 2))]

def plainTransaction : Record := .ofList [("transaction_id",.str "T1")]

def predictedMl : ScoringMethodResult :=
  ⟨"ml_model",.finite (1 / 4),.finite (1 / 4),.finite (1 / 2),.finite (1 / 8),.finite 1,true,none,
    .ofList [("risk_level",.str "low"),("confidence",.float (.finite 1)),("model_version",.str "1.0"),("top_features",.list [])]⟩

def detectedAnomaly : ScoringMethodResult :=
  ⟨"anomaly_detector",.finite (-1),.finite 1,.finite (1 / 4),.finite (1 / 4),.finite 1,true,none,
    .ofList [("is_anomaly",.bool true),("confidence",.float (.finite 1)),("model_version",.str "1.0")]⟩

-- The detector leads with 0.25, and a rule is triggered.
def detected : Evaluation where
  rules := .returned ⟨[⟨"R1"⟩],"low",.finite 0,40⟩
  anomaly := .returned ⟨.finite (-1),true,.finite 1,"1.0"⟩
  ml := .returned ⟨.finite (1 / 4),.finite (1 / 4),"low",.finite 1,"1.0",[]⟩
  ruleLatencyMs := .finite 1
  anomalyLatencyMs := .finite 1
  mlLatencyMs := .finite 1
  totalLatencyMs := .finite 3

def detectedScore : UnifiedScore where
  transactionId := .str "T1"
  finalScore := .finite (3 / 8)
  riskClassification := .medium
  methodScores := [
    ⟨"rule_engine",.finite 0,.finite 0,.finite (1 / 4),.finite 0,.finite 1,true,none,
      .ofList [("triggered_rules",.int 1),("combined_severity",.str "low"),("rules_evaluated",.int 40)]⟩,
    detectedAnomaly,predictedMl]
  ensembleWeightsUsed := plainWeights
  totalLatencyMs := .finite 3
  methodsSucceeded := 3
  methodsFailed := 0
  alertRecommended := false
  autoBlockRecommended := false
  cached := false
  scoringVersion := "1.0.0"

theorem detected_scored : plainPipeline.evaluateSync plainWeights plainTransaction detected = .ok detectedScore := by
  with_unfolding_all rfl

-- No component is there.
def unscored : Evaluation :=
  ⟨.missing,.missing,.missing,.finite 0,.finite 0,.finite 0,.finite 1⟩

def unscoredRequest : ScoringRequest := ⟨plainTransaction,none,true⟩

def unscoredScore : UnifiedScore where
  transactionId := .str "T1"
  finalScore := .finite 0
  riskClassification := .low
  methodScores := [failure "rule_engine" (.finite (1 / 4)) (.finite 0) "Rule engine not initialized",
    failure "anomaly_detector" (.finite (1 / 4)) (.finite 0) "Anomaly detector not initialized",
    failure "ml_model" (.finite (1 / 2)) (.finite 0) "ML risk scorer not initialized"]
  ensembleWeightsUsed := plainWeights
  totalLatencyMs := .finite 1
  methodsSucceeded := 0
  methodsFailed := 3
  alertRecommended := false
  autoBlockRecommended := false
  cached := false
  scoringVersion := "1.0.0"

end ScoringPipeline
end RiskPulse
