import RiskPulse.ScoreEvaluation
import RiskPulse.Library.FirstMaximum

namespace RiskPulse

namespace PyFloat

theorem greater_irrefl (a : PyFloat) : a.greater a = false := by
  cases a with
  | finite q => simp [greater]
  | nan => rfl
  | infinity negative => cases negative <;> rfl

instance : IsStrictOrder PyFloat fun a b => a.greater b = true where
  irrefl a up := by
    rw [greater_irrefl] at up
    cases up
  trans _ _ _ := greater_trans

theorem rat_compared (x y : Rat) : y < x ∨ x = y ∨ x < y := by
  rcases lt_trichotomy x y with less | same | more
  · exact .inr (.inr less)
  · exact .inr (.inl same)
  · exact .inl more

-- Two numbers that are greater than one can be compared.
theorem greater_compared (a b c : PyFloat) (ac : a.greater c = true) (bc : b.greater c = true) :
    a.greater b = true ∨ a = b ∨ b.greater a = true := by
  cases a <;> cases b <;> cases c <;> simp_all [greater]
  all_goals exact rat_compared _ _

end PyFloat

namespace ScoringPipeline
open AlertManager

-- The type an alert of the method is to have.
def contractType (method : String) : AlertType :=
  if method = "rule_engine" then .ruleBased
  else if method = "anomaly_detector" then .anomaly
  else if method = "ml_model" then .mlScore
  else .ensemble

def Positive (w : PyFloat) : Prop := w.greater (.finite 0) = true

instance : Decidable (Positive w) := inferInstanceAs (Decidable (w.greater (.finite 0) = true))

-- A successful method with a positive weighted score that no other exceeds.
def Leading (u : UnifiedScore) (r : ScoringMethodResult) : Prop :=
  r ∈ u.methodScores ∧ r.success = true ∧ Positive r.weightedScore ∧
    ∀ other ∈ u.methodScores, other.success = true → other.weightedScore.greater r.weightedScore = false

def NonePositive (u : UnifiedScore) : Prop := ∀ r ∈ u.methodScores, r.success = true → ¬Positive r.weightedScore

-- What the alert manager is to make of a score: the type of a leading method, or
-- ENSEMBLE when there is none; and the id of a triggered rule when there is one.
structure Contract (f : FloatArithmetic) (rules : MethodOutcome RuleEvaluationResult) (u : UnifiedScore) : Prop where
  typed : ∃ alertType, determineAlertType (u.toDict f) = .ok alertType ∧
    ((∃ r, Leading u r ∧ alertType = contractType r.method) ∨ (NonePositive u ∧ alertType = .ensemble))
  ruled : ∀ result, rules = .returned result → result.triggeredRules ≠ [] →
    ∃ rule ∈ result.triggeredRules, extractRuleId (u.toDict f) = .ok (.str rule.ruleId)

-- The method's score is positive when rounded, and no successful method before it has
-- the same rounded score.
def RoundedLeader (f : FloatArithmetic) (u : UnifiedScore) (r : ScoringMethodResult) : Prop :=
  Positive (f.round r.weightedScore 6) ∧ ∃ front back, u.methodScores = front ++ r :: back ∧
    ∀ other ∈ front, other.success = true → f.round other.weightedScore 6 ≠ f.round r.weightedScore 6

-- The condition: the rule engine failed or triggered no rule; and no method has a
-- positive weighted score, or the rule engine or the ML model leads, rounded too.
structure Agreeing (f : FloatArithmetic) (rules : MethodOutcome RuleEvaluationResult) (u : UnifiedScore) : Prop where
  untriggered : ∀ result, rules = .returned result → result.triggeredRules = []
  led : NonePositive u ∨ ∃ r, Leading u r ∧ (r.method = "rule_engine" ∨ r.method = "ml_model") ∧ RoundedLeader f u r

-- The three methods, each once.
structure Assembled (u : UnifiedScore) : Prop where
  apart : (u.methodScores.map ScoringMethodResult.method).Nodup
  known : ∀ r ∈ u.methodScores, r.method ∈ ["rule_engine","anomaly_detector","ml_model"]
  filled : u.methodScores ≠ []

section Dominant
variable (f : FloatArithmetic)

def rounded (r : ScoringMethodResult) : PyFloat := f.round r.weightedScore 6

-- The step of _determine_alert_type on the score itself.
def dominate (best : PyFloat × String) (r : ScoringMethodResult) : PyFloat × String :=
  if r.success = true ∧ (rounded f r).greater best.1 = true then (rounded f r,r.method) else best

theorem contribution_toDict (best : PyFloat × String) (r : ScoringMethodResult) :
    contribution (best.1,.str best.2) (r.toDict f) = .ok ((dominate f best r).1,.str (dominate f best r).2) := by
  have success : Value.attributeGet (r.toDict f) "success" .none = .ok (.bool r.success) := rfl
  have weighted : Value.attributeGet (r.toDict f) "weighted_score" (.int 0) = .ok (.float (rounded f r)) := rfl
  have method : Value.attributeGet (r.toDict f) "method" (.str "ensemble") = .ok (.str r.method) := rfl
  unfold contribution dominate
  rw [success,weighted,method]
  cases r.success with
  | false => rfl
  | true => cases above : (rounded f r).greater best.1 <;> simp [bind,Except.bind,Value.truthy,Value.number,above,pure,Except.pure]

theorem contributions_toDict (results : List ScoringMethodResult) (best : PyFloat × String) :
    (results.map (ScoringMethodResult.toDict f)).foldlM contribution (best.1,.str best.2) =
      .ok ((results.foldl (dominate f) best).1,.str (results.foldl (dominate f) best).2) := by
  induction results generalizing best with
  | nil => rfl
  | cons r rest ih =>
    rw [List.map_cons,List.foldlM_cons,contribution_toDict,List.foldl_cons]
    exact ih _

def dominant (u : UnifiedScore) : Option ScoringMethodResult :=
  FirstMaximum.first (fun a b => PyFloat.greater a b = true) ScoringMethodResult.success (rounded f) (.finite 0) u.methodScores

def dominantMethod (chosen : Option ScoringMethodResult) : PyFloat × String :=
  chosen.elim (.finite 0,"ensemble") fun r => (rounded f r,r.method)

theorem dominates (results : List ScoringMethodResult) (chosen : Option ScoringMethodResult) :
    results.foldl (dominate f) (dominantMethod f chosen) = dominantMethod f (results.foldl
      (FirstMaximum.better (fun a b => PyFloat.greater a b = true) ScoringMethodResult.success (rounded f) (.finite 0)) chosen) := by
  induction results generalizing chosen with
  | nil => rfl
  | cons r rest ih =>
    rw [List.foldl_cons,List.foldl_cons,← ih]
    congr 1
    have best : (dominantMethod f chosen).1 = chosen.elim (.finite 0) (rounded f) := by cases chosen <;> rfl
    unfold dominate FirstMaximum.better
    rw [best]
    split
    next up => rfl
    next down => rfl

theorem determineAlertType_toDict (u : UnifiedScore) (assembled : Assembled u) :
    determineAlertType (u.toDict f) = .ok (methodMap (.str (dominantMethod f (dominant f u)).2)) := by
  have found : OrderedDict.getD (u.toDict f) "method_scores" (.list []) =
      .list (u.methodScores.map (ScoringMethodResult.toDict f)) := rfl
  have filled : Value.truthy (.list (u.methodScores.map (ScoringMethodResult.toDict f))) = true := by
    cases split : u.methodScores with
    | nil => exact absurd split assembled.filled
    | cons r rest => rfl
  have folded := contributions_toDict f u.methodScores (.finite 0,"ensemble")
  have chosen := dominates f u.methodScores none
  unfold determineAlertType
  simp only [found,filled,Bool.true_eq_false,if_false,Value.iterate,bind,Except.bind]
  simp only at folded
  rw [folded]
  exact congrArg (fun best => Except.ok (methodMap (.str (Prod.snd best)))) chosen

-- No details are serialised, so no rule id is ever found.
theorem extractRuleId_toDict (u : UnifiedScore) : extractRuleId (u.toDict f) = .ok .none := by
  have found : OrderedDict.getD (u.toDict f) "method_scores" (.list []) =
      .list (u.methodScores.map (ScoringMethodResult.toDict f)) := rfl
  have none : ∀ results : List ScoringMethodResult, ruleIdOf (results.map (ScoringMethodResult.toDict f)) = .ok .none := by
    intro results
    induction results with
    | nil => rfl
    | cons r rest ih =>
      have method : Value.attributeGet (r.toDict f) "method" .none = .ok (.str r.method) := rfl
      have success : Value.attributeGet (r.toDict f) "success" .none = .ok (.bool r.success) := rfl
      have details : Value.attributeGet (r.toDict f) "details" (.dict []) = .ok (.dict []) := rfl
      rw [List.map_cons,ruleIdOf,method,success,details]
      simp only [bind,Except.bind]
      split
      · split
        · exact ih
        · exact ih
      · exact ih
  unfold extractRuleId
  rw [found]
  exact none u.methodScores

end Dominant

section Agreement
variable {f : FloatArithmetic} {u : UnifiedScore} {r : ScoringMethodResult}

abbrev RoundedLeads (f : FloatArithmetic) (u : UnifiedScore) (r : ScoringMethodResult) : Prop :=
  FirstMaximum.Leads (fun a b => PyFloat.greater a b = true) ScoringMethodResult.success (rounded f) (.finite 0) u.methodScores r

theorem dominant_some : dominant f u = some r ↔ RoundedLeads f u r :=
  FirstMaximum.first_some fun a b => PyFloat.greater_compared a b (.finite 0)

theorem positive_rounded (positive : Positive (rounded f r)) : Positive r.weightedScore := by
  apply f.ordered r.weightedScore (.finite 0) 6
  rw [f.zero]
  exact positive

theorem dominant_nonePositive (low : NonePositive u) : dominant f u = none := by
  apply FirstMaximum.first_none.mpr
  intro r member success positive
  exact low r member success (positive_rounded positive)

theorem leads_rounded (leading : Leading u r) (leader : RoundedLeader f u r) : RoundedLeads f u r := by
  obtain ⟨member,success,-,highest⟩ := leading
  obtain ⟨positive,front,back,split,distinct⟩ := leader
  have bound : ∀ other ∈ u.methodScores, other.success = true → ¬(rounded f other).greater (rounded f r) = true := by
    intro other inside counted up
    have higher := f.ordered _ _ 6 up
    rw [highest other inside counted] at higher
    cases higher
  refine ⟨success,positive,front,back,split,?_,?_⟩
  · intro other early counted
    exact ⟨bound other (by simp [split,early]) counted,distinct other early counted⟩
  · intro other late counted
    exact bound other (by simp [split,late]) counted

theorem leader_rounded (leads : RoundedLeads f u r) : RoundedLeader f u r := by
  obtain ⟨front,back,split,before,-⟩ := leads.split
  exact ⟨leads.high,front,back,split,fun other early counted => (before other early counted).2⟩

-- The map has the rule engine and the ML model under their names, but not the detector.
theorem methodMap_contract (one : method ∈ ["rule_engine","anomaly_detector","ml_model"])
    (other : method' ∈ ["rule_engine","anomaly_detector","ml_model"]) :
    methodMap (.str method) = contractType method' ↔ method = method' ∧ (method = "rule_engine" ∨ method = "ml_model") := by
  simp only [List.mem_cons,List.not_mem_nil,or_false] at one other
  rcases one with rfl | rfl | rfl <;> rcases other with rfl | rfl | rfl <;> decide

theorem contractType_known (known : method ∈ ["rule_engine","anomaly_detector","ml_model"]) : contractType method ≠ .ensemble := by
  simp only [List.mem_cons,List.not_mem_nil,or_false] at known
  rcases known with rfl | rfl | rfl <;> decide

theorem same_method (assembled : Assembled u) (one : r ∈ u.methodScores) (other : r' ∈ u.methodScores)
    (same : r.method = r'.method) : r = r' :=
  List.inj_on_of_nodup_map assembled.apart one other same

theorem typed_leading (assembled : Assembled u) (leading : Leading u r)
    (typed : methodMap (.str (dominantMethod f (dominant f u)).2) = contractType r.method) :
    (r.method = "rule_engine" ∨ r.method = "ml_model") ∧ RoundedLeader f u r := by
  cases chosen : dominant f u with
  | none =>
    rw [chosen] at typed
    exact absurd typed.symm (contractType_known (assembled.known r leading.1))
  | some r' =>
    rw [chosen] at typed
    have leads := dominant_some.mp chosen
    obtain ⟨same,mapped⟩ := (methodMap_contract (assembled.known r' leads.mem) (assembled.known r leading.1)).mp typed
    cases same_method assembled leads.mem leading.1 same
    exact ⟨mapped,leader_rounded leads⟩

-- What the alert manager makes of an assembled score is right on the condition only.
theorem contract_agreeing (assembled : Assembled u) (rules : MethodOutcome RuleEvaluationResult) :
    Contract f rules u ↔ Agreeing f rules u := by
  constructor
  · intro contract
    constructor
    · intro result returned
      by_contra triggered
      obtain ⟨rule,-,extracted⟩ := contract.ruled result returned triggered
      rw [extractRuleId_toDict] at extracted
      cases extracted
    · obtain ⟨alertType,determined,leading | low⟩ := contract.typed
      · obtain ⟨r,leading,rfl⟩ := leading
        rw [determineAlertType_toDict f u assembled] at determined
        exact .inr ⟨r,leading,typed_leading assembled leading (Except.ok.inj determined)⟩
      · exact .inl low.1
  · intro agreeing
    constructor
    · refine ⟨_,determineAlertType_toDict f u assembled,?_⟩
      rcases agreeing.led with low | ⟨r,leading,mapped,leader⟩
      · rw [dominant_nonePositive low]
        exact .inr ⟨low,rfl⟩
      · rw [dominant_some.mpr (leads_rounded leading leader)]
        have known := assembled.known r leading.1
        exact .inl ⟨r,leading,(methodMap_contract known known).mpr ⟨rfl,mapped⟩⟩
    · intro result returned triggered
      exact absurd (agreeing.untriggered result returned) triggered

end Agreement

section Produced
variable {p : ScoringPipeline}

-- The scores that the pipeline produces, with the evaluation they come from: one that
-- the cache returns is marked.
inductive Produced (p : ScoringPipeline) : Evaluation → UnifiedScore → Prop where
  | sync (made : p.evaluateSync weights transaction e = .ok u) : Produced p e u
  | async (made : p.evaluateAsync weights transaction e timeout = .ok u) : Produced p e u
  | cached (made : Produced p e u) : Produced p e {u with cached := true}

theorem evaluateSync_assembled (made : p.evaluateSync weights transaction e = .ok u) : Assembled u := by
  obtain ⟨rule,anomaly,ml,scored,rfl⟩ := evaluateSync_ok.mp made
  have methods : [rule,anomaly,ml].map ScoringMethodResult.method = methodKeys.map Prod.fst := scored_methods scored
  constructor
  · show ([rule,anomaly,ml].map ScoringMethodResult.method).Nodup
    rw [methods]
    decide
  · intro r member
    have named : r.method ∈ [rule,anomaly,ml].map ScoringMethodResult.method := List.mem_map_of_mem member
    rw [methods] at named
    exact named
  · exact List.cons_ne_nil _ _

theorem produced_assembled (produced : Produced p e u) : Assembled u := by
  induction produced with
  | sync made => exact evaluateSync_assembled made
  | async made => exact evaluateSync_assembled (evaluateAsync_ok.mp made).2
  | cached made ih => exact ⟨ih.apart,ih.known,ih.filled⟩

theorem alert_contract (p : ScoringPipeline) (e : Evaluation) (u : UnifiedScore) (produced : Produced p e u) :
    Contract p.float e.rules u ↔ Agreeing p.float e.rules u :=
  contract_agreeing (produced_assembled produced) e.rules

end Produced

-- The ML model alone returns.
def predicted : Evaluation where
  rules := .missing
  anomaly := .missing
  ml := .returned ⟨.finite (1 / 4),.finite (1 / 4),"low",.finite 1,"1.0",[]⟩
  ruleLatencyMs := .finite 0
  anomalyLatencyMs := .finite 0
  mlLatencyMs := .finite 1
  totalLatencyMs := .finite 3

def predictedScore : UnifiedScore where
  transactionId := .str "T1"
  finalScore := .finite (1 / 4)
  riskClassification := .low
  methodScores := [failure "rule_engine" (.finite (1 / 4)) (.finite 0) "Rule engine not initialized",
    failure "anomaly_detector" (.finite (1 / 4)) (.finite 0) "Anomaly detector not initialized",predictedMl]
  ensembleWeightsUsed := plainWeights
  totalLatencyMs := .finite 3
  methodsSucceeded := 1
  methodsFailed := 2
  alertRecommended := false
  autoBlockRecommended := false
  cached := false
  scoringVersion := "1.0.0"

theorem predicted_scored : plainPipeline.evaluateSync plainWeights plainTransaction predicted = .ok predictedScore := by
  with_unfolding_all rfl

theorem predicted_agreeing : Agreeing .exact predicted.rules predictedScore := by
  refine ⟨fun _ returned => (by cases returned),.inr ⟨predictedMl,?_,.inr rfl,?_⟩⟩
  · exact ⟨by simp [predictedScore],rfl,by decide +kernel,by decide +kernel⟩
  · refine ⟨by decide +kernel,predictedScore.methodScores.take 2,[],rfl,?_⟩
    intro other early success
    simp only [predictedScore,List.take_succ_cons,List.take_zero,List.mem_cons,List.not_mem_nil,or_false] at early
    rcases early with rfl | rfl <;> cases success

theorem predicted_contract : Contract .exact predicted.rules predictedScore :=
  (alert_contract plainPipeline predicted predictedScore (.sync predicted_scored)).mpr predicted_agreeing

theorem detector_alert_untyped :
    Produced plainPipeline detected detectedScore ∧ Leading detectedScore detectedAnomaly ∧
    determineAlertType (detectedScore.toDict .exact) = .ok .ensemble ∧ extractRuleId (detectedScore.toDict .exact) = .ok .none ∧
    ¬Contract .exact detected.rules detectedScore := by
  have produced : Produced plainPipeline detected detectedScore := .sync detected_scored
  have assembled := produced_assembled produced
  refine ⟨produced,⟨by simp [detectedScore],rfl,by decide +kernel,by decide +kernel⟩,?_,extractRuleId_toDict .exact _,?_⟩
  · rw [determineAlertType_toDict .exact _ assembled]
    decide +kernel
  · intro contract
    have untriggered := ((contract_agreeing assembled detected.rules).mp contract).untriggered _ rfl
    cases untriggered

end ScoringPipeline
end RiskPulse
