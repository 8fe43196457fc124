import RiskPulse.ScoreCache
import RiskPulse.ScoreContract
import RiskPulse.Library.Combination

namespace RiskPulse

-- The number a float is.
def PyFloat.rational : PyFloat → Rat
  | .finite q => q
  | _ => 0

namespace ScoringPipeline
open WeightedMean

-- A result whose score is a number in [0, 1] and whose weight is one not below 0.
structure Normal (r : ScoringMethodResult) : Prop where
  score : ∃ q, r.normalizedScore = .finite q ∧ 0 ≤ q ∧ q ≤ 1
  weight : ∃ q, r.weight = .finite q ∧ 0 ≤ q

def successful (results : List ScoringMethodResult) : List ScoringMethodResult := results.filter ScoringMethodResult.success

def weighed (r : ScoringMethodResult) : Rat × Rat := (r.normalizedScore.rational,r.weight.rational)

def weighedScores (results : List ScoringMethodResult) : List (Rat × Rat) := (successful results).map weighed

structure Scorable (results : List ScoringMethodResult) : Prop where
  normal : ∀ r ∈ results, Normal r
  positive : 0 < total (weighedScores results)

theorem Normal.finite_score (normal : Normal r) : r.normalizedScore = .finite (weighed r).1 := by
  obtain ⟨q,found,_⟩ := normal.score
  rw [found,weighed,found]
  rfl

theorem Normal.finite_weight (normal : Normal r) : r.weight = .finite (weighed r).2 := by
  obtain ⟨q,found,_⟩ := normal.weight
  rw [found,weighed,found]
  rfl

theorem Normal.within (normal : Normal r) : 0 ≤ (weighed r).1 ∧ (weighed r).1 ≤ 1 := by
  obtain ⟨q,found,within⟩ := normal.score
  rw [weighed,found]
  exact within

theorem Scorable.successful_normal (scorable : Scorable results) : ∀ r ∈ successful results, Normal r :=
  fun r member => scorable.normal r (List.mem_of_mem_filter member)

theorem Scorable.weights (scorable : Scorable results) : NonNegative (weighedScores results) := by
  intro item member
  obtain ⟨r,inside,rfl⟩ := List.mem_map.mp member
  obtain ⟨q,found,positive⟩ := (scorable.successful_normal r inside).weight
  rw [weighed,found]
  exact positive

theorem Scorable.scores (scorable : Scorable results) : ∀ item ∈ weighedScores results, 0 ≤ item.1 ∧ item.1 ≤ 1 := by
  intro item member
  obtain ⟨r,inside,rfl⟩ := List.mem_map.mp member
  exact (scorable.successful_normal r inside).within

theorem Scorable.filled (scorable : Scorable results) : successful results ≠ [] := by
  intro nothing
  have positive := scorable.positive
  rw [weighedScores,nothing] at positive
  exact lt_irrefl 0 positive

-- A sum of exact numbers is their exact sum.
theorem exact_sum (terms : List Rat) (f : α → PyFloat) (items : List α) (same : items.map f = terms.map .finite) :
    FloatArithmetic.exact.sum (items.map f) = .finite terms.sum := by
  have adds : ∀ start : Rat, (terms.map PyFloat.finite).foldl (PyFloat.exactly fun a b => a + b) (.finite start) =
      .finite (start + terms.sum) := by
    intro start
    induction terms generalizing items start with
    | nil => simp
    | cons term rest ih =>
      rw [List.map_cons,List.foldl_cons,List.sum_cons,← add_assoc]
      cases items with
      | nil => cases same
      | cons item others => exact ih others (List.cons.inj same).2 (start + term)
  rw [same]
  have summed := adds 0
  rwa [zero_add] at summed

theorem clipped (least : 0 ≤ q) (most : q ≤ 1) :
    PyFloat.max (.finite 0) (PyFloat.min (.finite 1) (.finite q)) = .finite q := by
  have below : PyFloat.min (.finite 1) (.finite q) = .finite q := by
    rcases lt_or_eq_of_le most with less | rfl
    · exact if_pos (decide_eq_true less)
    · exact if_neg (by simp [PyFloat.greater])
  rw [below]
  rcases lt_or_eq_of_le least with more | rfl
  · exact if_pos (decide_eq_true more)
  · exact if_neg (by simp [PyFloat.greater])

section Laws
variable {p : ScoringPipeline}

-- Where the arithmetic is exact the score is the weighted mean of the scores.
theorem computeEnsembleScore_mean (exact : p.float = .exact) (scorable : Scorable results) :
    p.computeEnsembleScore results = .finite (mean (weighedScores results)) := by
  have normal := scorable.successful_normal
  have weights : FloatArithmetic.exact.sum ((successful results).map ScoringMethodResult.weight) =
      .finite (total (weighedScores results)) := by
    apply exact_sum
    rw [weighedScores,List.map_map,List.map_map]
    apply List.map_congr_left
    intro r member
    exact (normal r member).finite_weight
  have scores : FloatArithmetic.exact.sum ((successful results).map fun r => FloatArithmetic.exact.times r.normalizedScore
      (FloatArithmetic.exact.divide r.weight (.finite (total (weighedScores results))))) = .finite (mean (weighedScores results)) := by
    apply exact_sum
    rw [weighedScores,List.map_map,List.map_map]
    apply List.map_congr_left
    intro r member
    rw [(normal r member).finite_score,(normal r member).finite_weight]
    rfl
  have filled : (results.filter ScoringMethodResult.success).isEmpty = false := by
    rw [List.isEmpty_eq_false_iff]
    exact scorable.filled
  have above : (PyFloat.finite 0).ge (.finite (total (weighedScores results))) = false := by
    simp [PyFloat.ge,PyFloat.greater,not_lt.mpr scorable.positive.le,scorable.positive.ne]
  have least : 0 ≤ mean (weighedScores results) := le_mean scorable.weights scorable.positive fun item member => (scorable.scores item member).1
  have most : mean (weighedScores results) ≤ 1 := mean_le scorable.weights scorable.positive fun item member => (scorable.scores item member).2
  unfold computeEnsembleScore
  simp only [successful] at weights scores
  simp only [exact,filled,weights,scores,above]
  exact clipped least most

-- The other result is the same method's, with a score that is at least as high.
structure Raised (r other : ScoringMethodResult) : Prop where
  success : r.success = other.success
  weight : r.weight = other.weight
  score : other.normalizedScore.ge r.normalizedScore = true

theorem raised_successful (raised : List.Forall₂ Raised results others) :
    List.Forall₂ Raised (successful results) (successful others) := by
  induction raised with
  | nil => exact .nil
  | @cons r other _ _ here _ ih =>
    cases success : other.success with
    | true =>
      rw [successful,successful,List.filter_cons_of_pos (here.success.trans success),List.filter_cons_of_pos success]
      exact .cons here ih
    | false =>
      rw [successful,successful,List.filter_cons_of_neg (by simp [here.success,success]),List.filter_cons_of_neg (by simp [success])]
      exact ih

theorem raised_weighed (normal : ∀ r ∈ results, Normal r) (other : ∀ r ∈ others, Normal r) (raised : List.Forall₂ Raised results others) :
    WeightedMean.Raised (results.map weighed) (others.map weighed) := by
  induction raised with
  | nil => exact .nil
  | cons up _ ih =>
    refine .cons ⟨congrArg PyFloat.rational up.weight,?_⟩ ?_
    · have higher := up.score
      rw [(normal _ List.mem_cons_self).finite_score,(other _ List.mem_cons_self).finite_score] at higher
      exact (PyFloat.ge_finite _ _).mp higher
    · apply ih
      · exact fun r member => normal r (List.mem_cons_of_mem _ member)
      · exact fun r member => other r (List.mem_cons_of_mem _ member)

def rank : RiskClassification → Nat
  | .low => 0
  | .medium => 1
  | .high => 2
  | .critical => 3

theorem classifyRisk_mono (p : ScoringPipeline) (higher : b.ge a = true) : rank (p.classifyRisk a) ≤ rank (p.classifyRisk b) := by
  have reaches : ∀ threshold : PyFloat, a.ge threshold = true → b.ge threshold = true := fun _ reached => PyFloat.ge_trans reached higher
  unfold classifyRisk
  split
  next critical =>
    rw [if_pos (reaches _ critical)]
  next =>
    split
    next high =>
      rw [if_pos (reaches _ high)]
      split
      · exact Nat.le_succ 2
      · exact le_refl 2
    next =>
      split
      next medium =>
        rw [if_pos (reaches _ medium)]
        split
        · decide
        · split <;> decide
      next => exact Nat.zero_le _

end Laws

-- Components whose results are given by what they are called with, and how long each of
-- them takes in one call.
structure Methods where
  rules : Record → Option Record → MethodOutcome RuleEvaluationResult
  anomaly : Record → MethodOutcome AnomalyResult
  ml : Record → MethodOutcome RiskScore

structure Latencies where
  rules : PyFloat
  anomaly : PyFloat
  ml : PyFloat
  total : PyFloat

def Methods.evaluation (m : Methods) (r : ScoringRequest) (l : Latencies) : Evaluation where
  rules := m.rules r.transaction r.context
  anomaly := m.anomaly r.transaction
  ml := m.ml r.transaction
  ruleLatencyMs := l.rules
  anomalyLatencyMs := l.anomaly
  mlLatencyMs := l.ml
  totalLatencyMs := l.total

-- The whole of score_transaction, with no other call in between.
def scoreTransactionAwaited (p : ScoringPipeline) (r : ScoringRequest) (e : Evaluation) (timeout : Option Progress) (looked stored : Rat)
    (s : ScoringState) : Except ScoringError Nat × ScoringState :=
  match p.lookUp r looked s with
  | (some index,t) => (.ok index,t)
  | (none,t) => p.finishScore r stored (p.evaluateAsync t.weights r.transaction e timeout) t

structure Verdict where
  finalScore : PyFloat
  riskClassification : RiskClassification
  alertRecommended : Bool
  autoBlockRecommended : Bool

def verdict (u : UnifiedScore) : Verdict := ⟨u.finalScore,u.riskClassification,u.alertRecommended,u.autoBlockRecommended⟩

-- The verdict of the score a call returns, if it returns one.
def returnedVerdict (done : Except ScoringError Nat × ScoringState) : Option Verdict :=
  done.1.toOption.bind fun index => done.2.scores[index]?.map verdict

section Agreement
variable {p : ScoringPipeline} {weights : Weights}

-- Two results that differ in their latency only.
def SameScore (r other : ScoringMethodResult) : Prop := ∃ latencyMs, other = {r with latencyMs}

theorem scoreMethod_same {scored other : PyFloat → α → ScoringMethodResult} (same : ∀ weight result, SameScore (scored weight result) (other weight result))
    (made : scoreMethod method weightKey absent weights outcome latencyMs scored = .ok r)
    (again : scoreMethod method weightKey absent weights outcome otherMs other = .ok q) : SameScore r q := by
  obtain ⟨weight,found,made⟩ := Fallible.bind_ok.mp made
  obtain ⟨weight',found',again⟩ := Fallible.bind_ok.mp again
  rw [found] at found'
  cases found'
  cases outcome with
  | missing => cases made; cases again; exact ⟨_,rfl⟩
  | raised message => cases made; cases again; exact ⟨_,rfl⟩
  | returned result => cases made; cases again; exact same weight result

theorem computeEnsembleScore_same (same : List.Forall₂ SameScore results others) :
    p.computeEnsembleScore results = p.computeEnsembleScore others := by
  have kept : (successful results).map (fun r => (r.normalizedScore,r.weight)) = (successful others).map fun r => (r.normalizedScore,r.weight) := by
    induction same with
    | nil => rfl
    | @cons r other _ _ here _ ih =>
      obtain ⟨latencyMs,rfl⟩ := here
      cases success : r.success with
      | true => simpa [successful,success] using ih
      | false => simpa [successful,success] using ih
  have mapped : ∀ {β : Type} (f : PyFloat × PyFloat → β), (successful results).map (fun r => f (r.normalizedScore,r.weight)) =
      (successful others).map fun r => f (r.normalizedScore,r.weight) := by
    intro β f
    have both := congrArg (List.map f) kept
    rwa [List.map_map,List.map_map] at both
  have empty : (successful results).isEmpty = (successful others).isEmpty := by
    rw [← List.isEmpty_map (f := fun r => (r.normalizedScore,r.weight)),kept,List.isEmpty_map]
  unfold computeEnsembleScore
  have weights := mapped Prod.snd
  have products := mapped fun pair => p.float.times pair.1 (p.float.divide pair.2 (p.float.sum ((successful others).map ScoringMethodResult.weight)))
  simp only [successful] at empty weights products
  simp only [empty,weights,products]

theorem unify_same (transaction : Record) (l l' : PyFloat) (same : List.Forall₂ SameScore results others) :
    verdict (p.unify weights transaction results l) = verdict (p.unify weights transaction others l') := by
  have score := computeEnsembleScore_same (p := p) same
  simp only [verdict,unify,score]

theorem evaluateSync_same (m : Methods) (r : ScoringRequest) (l l' : Latencies) (made : p.evaluateSync weights r.transaction (m.evaluation r l) = .ok u)
    (again : p.evaluateSync weights r.transaction (m.evaluation r l') = .ok v) : verdict u = verdict v := by
  obtain ⟨rule,anomaly,ml,scored,rfl⟩ := evaluateSync_ok.mp made
  obtain ⟨rule',anomaly',ml',scored',rfl⟩ := evaluateSync_ok.mp again
  apply unify_same
  refine .cons ?_ (.cons ?_ (.cons ?_ .nil))
  · apply scoreMethod_same ?_ scored.rule scored'.rule
    exact fun _ _ => ⟨l'.rules,rfl⟩
  · apply scoreMethod_same ?_ scored.anomaly scored'.anomaly
    exact fun _ _ => ⟨l'.anomaly,rfl⟩
  · apply scoreMethod_same ?_ scored.ml scored'.ml
    exact fun _ _ => ⟨l'.ml,rfl⟩

theorem finishScore_same (r : ScoringRequest) (now later : Rat) (s : ScoringState) (first second : Except ScoringError UnifiedScore)
    (same : first.toOption.map verdict = second.toOption.map verdict) :
    returnedVerdict (p.finishScore r now first s) = returnedVerdict (p.finishScore r later second s) := by
  cases first with
  | error e =>
    cases second with
    | error e' => rfl
    | ok v => cases same
  | ok u =>
    cases second with
    | error e' => cases same
    | ok v =>
      by_cases room : Storable p r s.cache
      · obtain ⟨cache,stored,_⟩ := store_kept (p := p) u now room
        obtain ⟨cache',stored',_⟩ := store_kept (p := p) v later room
        simp only [finishScore,stored,stored',returnedVerdict]
        simpa [Except.toOption] using same
      · obtain ⟨e,refused⟩ := store_refused (p := p) u now room
        obtain ⟨e',refused'⟩ := store_refused (p := p) v later room
        simp only [finishScore,refused,refused',returnedVerdict]
        rfl

-- With pure methods and no timeout the two entry points have one verdict.
theorem awaited_same (m : Methods) (r : ScoringRequest) (l l' : Latencies) (finished : Finished timeout) (looked stored stored' : Rat)
    (s : ScoringState) : returnedVerdict (p.scoreTransactionSync r (m.evaluation r l) looked stored s) =
      returnedVerdict (p.scoreTransactionAwaited r (m.evaluation r l') timeout looked stored' s) := by
  unfold scoreTransactionSync scoreTransactionAwaited
  rcases p.lookUp r looked s with ⟨found,t⟩
  cases found with
  | some index => rfl
  | none =>
    apply finishScore_same
    by_cases weighted : Weighted t.weights
    · obtain ⟨u,made⟩ := (evaluateSync_returns (p := p) r.transaction (m.evaluation r l)).mpr weighted
      obtain ⟨v,again⟩ := (evaluateSync_returns (p := p) r.transaction (m.evaluation r l')).mpr weighted
      rw [made,evaluateAsync_ok.mpr ⟨finished,again⟩]
      exact congrArg some (evaluateSync_same m r l l' made again)
    · have raised := mt (evaluateSync_returns (p := p) r.transaction (m.evaluation r l)).mp weighted
      have raised' := mt (evaluateAsync_returns (p := p) r.transaction (m.evaluation r l') timeout).mp (fun both => weighted both.2)
      rcases first : p.evaluateSync t.weights r.transaction (m.evaluation r l) with e | u
      · rcases second : p.evaluateAsync t.weights r.transaction (m.evaluation r l') timeout with e' | v
        · rfl
        · exact absurd ⟨v,second⟩ raised'
      · exact absurd ⟨u,first⟩ raised

end Agreement

-- In exact arithmetic the ensemble score is a weighted average of the successful scores;
-- its classification goes up with it, and both entry points give it.
structure EnsembleLaws (p : ScoringPipeline) : Prop where
  bounded : p.float = .exact → ∀ results, Scorable results → ∃ q, p.computeEnsembleScore results = .finite q ∧
    (∃ r ∈ successful results, (PyFloat.finite q).ge r.normalizedScore = true) ∧
    ∃ r ∈ successful results, r.normalizedScore.ge (.finite q) = true
  monotone : p.float = .exact → ∀ results others, Scorable results → Scorable others → List.Forall₂ Raised results others →
    (p.computeEnsembleScore others).ge (p.computeEnsembleScore results) = true
  independent : p.float = .exact → ∀ results others, Scorable results → (∀ r ∈ others, Normal r) →
    (successful results).Perm (successful others) → p.computeEnsembleScore results = p.computeEnsembleScore others
  classified : ∀ a b : PyFloat, b.ge a = true → rank (p.classifyRisk a) ≤ rank (p.classifyRisk b)
  agreeing : ∀ (m : Methods) r l l' timeout looked stored stored' s, Finished timeout →
    returnedVerdict (p.scoreTransactionSync r (m.evaluation r l) looked stored s) =
      returnedVerdict (p.scoreTransactionAwaited r (m.evaluation r l') timeout looked stored' s)

theorem bounded_score {p : ScoringPipeline} (exact : p.float = .exact) (scorable : Scorable results) :
    ∃ q, p.computeEnsembleScore results = .finite q ∧ (∃ r ∈ successful results, (PyFloat.finite q).ge r.normalizedScore = true) ∧
      ∃ r ∈ successful results, r.normalizedScore.ge (.finite q) = true := by
  have read : ∀ item ∈ weighedScores results, ∃ r ∈ successful results, r.normalizedScore = .finite item.1 := by
    intro item member
    obtain ⟨r,inside,rfl⟩ := List.mem_map.mp member
    exact ⟨r,inside,(scorable.successful_normal r inside).finite_score⟩
  refine ⟨_,computeEnsembleScore_mean exact scorable,?_,?_⟩
  · obtain ⟨item,member,below⟩ := exists_le_mean scorable.weights scorable.positive
    obtain ⟨r,inside,score⟩ := read item member
    exact ⟨r,inside,by rw [score]; exact (PyFloat.ge_finite _ _).mpr below⟩
  · obtain ⟨item,member,above⟩ := exists_mean_le scorable.weights scorable.positive
    obtain ⟨r,inside,score⟩ := read item member
    exact ⟨r,inside,by rw [score]; exact (PyFloat.ge_finite _ _).mpr above⟩

theorem ensemble_laws (p : ScoringPipeline) : EnsembleLaws p where
  bounded exact _ scorable := bounded_score exact scorable
  monotone exact results others scorable other raised := by
    rw [computeEnsembleScore_mean exact scorable,computeEnsembleScore_mean exact other]
    apply (PyFloat.ge_finite _ _).mpr
    apply mean_mono scorable.weights
    exact raised_weighed scorable.successful_normal other.successful_normal (raised_successful raised)
  independent exact results others scorable normal same := by
    have weights : (weighedScores results).Perm (weighedScores others) := same.map weighed
    have positive : 0 < total (weighedScores others) := by
      have sums : total (weighedScores results) = total (weighedScores others) := (weights.map Prod.snd).sum_eq
      rw [← sums]
      exact scorable.positive
    rw [computeEnsembleScore_mean exact scorable,computeEnsembleScore_mean exact ⟨normal,positive⟩,mean_perm weights]
  classified _ _ higher := classifyRisk_mono p higher
  agreeing m r l l' _ looked stored stored' s finished := awaited_same m r l l' finished looked stored stored' s

-- The failed method has no part in the score: it is 1 * 1/3 + 1/4 * 2/3.
example : plainPipeline.computeEnsembleScore
    [failure "rule_engine" (.finite (1 / 4)) (.finite 0) "Timed out",detectedAnomaly,predictedMl] = .finite (1 / 2) := by
  decide +kernel

end ScoringPipeline
end RiskPulse
