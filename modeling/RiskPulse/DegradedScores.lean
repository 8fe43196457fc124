import RiskPulse.ScoreCache

namespace RiskPulse

def Evaluation.successes (e : Evaluation) : Nat := [e.rules.succeeds,e.anomaly.succeeds,e.ml.succeeds].countP id

namespace ScoringPipeline
variable {p : ScoringPipeline}

-- Enough methods succeeded, and the score does not clear a transaction none scored.
def Usable (p : ScoringPipeline) (u : UnifiedScore) : Prop :=
  p.minMethodsRequired ≤ u.methodsSucceeded ∧
    ¬(u.methodsSucceeded = 0 ∧ u.riskClassification = .low ∧ u.alertRecommended = false)

-- The score an action returns and those in the cache after it are usable.
structure FailSafe (p : ScoringPipeline) (s : ScoringState) (action : ScoringAction) : Prop where
  returned : ∀ index u, (p.perform s action).1 = .ok (some index) → (p.step s action).scores[index]? = some u → Usable p u
  cached : ∀ key entry u, (p.step s action).cache.get? key = some entry →
    (p.step s action).scores[entry.2]? = some u → Usable p u

-- Enough components return; and if none does, a score of 0 is not low or has an alert.
def Sufficient (p : ScoringPipeline) (e : Evaluation) : Prop :=
  p.minMethodsRequired ≤ e.successes ∧
    (e.successes = 0 → p.classifyRisk (.finite 0) = .low → (PyFloat.finite 0).ge p.alertThreshold = true)

-- The condition: a call that evaluates has enough components that return, or it raises,
-- as a weight is missing, the timeout fired too soon, or the cache takes no entry.
def Guarded (p : ScoringPipeline) (s : ScoringState) : ScoringAction → Prop
  | .scoreSync r e looked _ =>
    (∃ index, Live p r looked s index) ∨ ¬Weighted s.weights ∨ ¬Roomy p r ∨ Sufficient p e
  | .finishAsync r e timeout _ => ¬Finished timeout ∨ ¬Weighted s.weights ∨ ¬Roomy p r ∨ Sufficient p e
  | _ => True

theorem guarded_evaluates : Guarded p s action ↔ ∀ r e u, Evaluates p s action r e u → Roomy p r → Sufficient p e := by
  constructor
  · intro guarded r e u evaluates roomy
    cases evaluates with
    | sync missed made =>
      have weighted := (evaluateSync_returns r.transaction e).mp ⟨u,made⟩
      rcases guarded with ⟨index,live⟩ | unweighted | full | enough
      · exact absurd live (missed index)
      · exact absurd weighted unweighted
      · exact absurd roomy full
      · exact enough
    | async made =>
      obtain ⟨finished,weighted⟩ := (evaluateAsync_returns r.transaction e _).mp ⟨u,made⟩
      rcases guarded with unfinished | unweighted | full | enough
      · exact absurd finished unfinished
      · exact absurd weighted unweighted
      · exact absurd roomy full
      · exact enough
  · intro enough
    cases action with
    | scoreSync r e looked stored =>
      unfold Guarded
      by_contra unguarded
      simp only [not_or,not_not,not_exists] at unguarded
      obtain ⟨missed,weighted,roomy,few⟩ := unguarded
      obtain ⟨u,made⟩ := (evaluateSync_returns (p := p) r.transaction e).mpr weighted
      exact few (enough r e u (.sync missed made) roomy)
    | finishAsync r e timeout stored =>
      unfold Guarded
      by_contra unguarded
      simp only [not_or,not_not] at unguarded
      obtain ⟨finished,weighted,roomy,few⟩ := unguarded
      obtain ⟨u,made⟩ := (evaluateAsync_returns (p := p) r.transaction e timeout).mpr ⟨finished,weighted⟩
      exact few (enough r e u (.async made) roomy)
    | beginAsync r e looked => trivial
    | updateWeights weights => trivial
    | invalidateCache transactionId => trivial

theorem computeEnsembleScore_none (failed : results.countP ScoringMethodResult.success = 0) :
    p.computeEnsembleScore results = .finite 0 := by
  have none : results.filter ScoringMethodResult.success = [] := by
    rw [← List.length_eq_zero_iff,← List.countP_eq_length_filter]
    exact failed
  simp only [computeEnsembleScore,none,List.isEmpty_nil,if_true]

theorem evaluateSync_successes (made : p.evaluateSync weights transaction e = .ok u) : u.methodsSucceeded = e.successes := by
  obtain ⟨rule,anomaly,ml,scored,rfl⟩ := evaluateSync_ok.mp made
  have counted := List.countP_map (p := id) (f := ScoringMethodResult.success) (l := [rule,anomaly,ml])
  rw [scored_successes scored] at counted
  exact counted.symm

theorem evaluateSync_usable (made : p.evaluateSync weights transaction e = .ok u) : Usable p u ↔ Sufficient p e := by
  have counted := evaluateSync_successes made
  obtain ⟨rule,anomaly,ml,scored,rfl⟩ := evaluateSync_ok.mp made
  unfold Usable Sufficient
  rw [counted]
  apply and_congr_right
  intro enough
  constructor
  · intro usable none low
    have zero := computeEnsembleScore_none (p := p) (counted.trans none)
    by_contra quiet
    apply usable
    simp only [unify,zero]
    exact ⟨none,low,Bool.not_eq_true _ ▸ quiet⟩
  · rintro alerting ⟨none,low,quiet⟩
    have zero := computeEnsembleScore_none (p := p) (counted.trans none)
    simp only [unify,zero] at low quiet
    rw [alerting none low] at quiet
    cases quiet

theorem evaluates_usable (evaluates : Evaluates p s action r e u) : Usable p u ↔ Sufficient p e := by
  cases evaluates with
  | sync missed made => exact evaluateSync_usable made
  | async made => exact evaluateSync_usable (evaluateAsync_ok.mp made).2

-- The cached objects are there and usable.
structure Sound (p : ScoringPipeline) (s : ScoringState) : Prop where
  bounded : Bounded p s
  usable : ∀ key entry, s.cache.get? key = some entry → ∃ u, s.scores[entry.2]? = some u ∧ Usable p u

theorem started_sound (p : ScoringPipeline) (weights : Weights) : Sound p (started weights) :=
  ⟨started_bounded p weights,fun _ _ found => (by cases found)⟩

-- Marking a score as cached leaves what is asked of it.
theorem served_usable (r : ScoringRequest) (index : Nat) {place : Nat} (found : s.scores[place]? = some u) (usable : Usable p u) :
    ∃ v, (served p r index s).scores[place]? = some v ∧ Usable p v := by
  simp only [served,List.getElem?_modify,found]
  split
  next => exact ⟨_,rfl,usable⟩
  next => exact ⟨_,rfl,usable⟩

-- The scores that are in the cache after a step, and the one it returns.
structure Safely (p : ScoringPipeline) (s : ScoringState) (action : ScoringAction) : Prop where
  returned : ∀ index, (p.perform s action).1 = .ok (some index) → ∃ u, (p.step s action).scores[index]? = some u ∧ Usable p u
  cached : ∀ key entry, (p.step s action).cache.get? key = some entry →
    ∃ u, (p.step s action).scores[entry.2]? = some u ∧ Usable p u

theorem Safely.failSafe (safely : Safely p s action) : FailSafe p s action := by
  constructor
  · intro index u came found
    obtain ⟨v,same,usable⟩ := safely.returned index came
    cases found.symm.trans same
    exact usable
  · intro key entry u kept found
    obtain ⟨v,same,usable⟩ := safely.cached key entry kept
    cases found.symm.trans same
    exact usable

theorem hit_safely (sound : Sound p s) (looking : looks action = some (r,looked)) (live : Live p r looked s index) :
    Safely p s action := by
  have done := perform_hit looking live
  constructor
  · intro other came
    rw [done] at came
    cases came
    obtain ⟨_,settings,_,timestamp,found,_⟩ := live
    obtain ⟨u,there,usable⟩ := sound.usable _ _ found
    rw [step,done]
    exact served_usable r index there usable
  · rw [step,done]
    intro key entry kept
    obtain ⟨u,there,usable⟩ := sound.usable key entry (served_within r index s key entry kept)
    exact served_usable r index there usable

theorem stored_safely (sound : Sound p s) (stored : Stored s u (p.perform s action)) (usable : Usable p u) :
    Safely p s action := by
  have made : (p.step s action).scores[s.scores.length]? = some u := by
    rw [step,stored.scores]
    exact List.getElem?_concat_length
  constructor
  · intro index came
    rw [stored.returned] at came
    cases came
    exact ⟨u,made,usable⟩
  · intro key entry kept
    rcases stored.cached key entry kept with same | old
    · rw [same]
      exact ⟨u,made,usable⟩
    · obtain ⟨v,there,usable⟩ := sound.usable key entry old
      exact ⟨v,kept_score (.inr ⟨u,stored.scores⟩) there,usable⟩

theorem quiet_safely (sound : Sound p s) (quiet : Quiet s (p.perform s action)) : Safely p s action := by
  constructor
  · intro index came
    exact absurd came (quiet.returned index)
  · intro key entry kept
    obtain ⟨u,there,usable⟩ := sound.usable key entry (quiet.cached key entry kept)
    exact ⟨u,kept_score quiet.scores there,usable⟩

theorem guarded_safely (sound : Sound p s) (guarded : Guarded p s action) : Safely p s action := by
  rcases perform_cases sound.bounded action with ⟨r,looked,index,looking,live⟩ | ⟨r,e,u,evaluates,roomy,stored⟩ | quiet
  · exact hit_safely sound looking live
  · exact stored_safely sound stored ((evaluates_usable evaluates).mpr (guarded_evaluates.mp guarded r e u evaluates roomy))
  · exact quiet_safely sound quiet

theorem guarded_sound (sound : Sound p s) (guarded : Guarded p s action) : Sound p (p.step s action) :=
  ⟨step_bounded sound.bounded action,(guarded_safely sound guarded).cached⟩

theorem failSafe_guarded (bounded : Bounded p s) (failSafe : FailSafe p s action) : Guarded p s action := by
  apply guarded_evaluates.mpr
  intro r e u evaluates roomy
  have stored := perform_stored bounded evaluates roomy
  have made : (p.step s action).scores[s.scores.length]? = some u := by
    rw [step,stored.scores]
    exact List.getElem?_concat_length
  exact (evaluates_usable evaluates).mp (failSafe.returned _ u stored.returned made)

-- A run fails safe if and only if it is guarded.
theorem degraded_scores (p : ScoringPipeline) (weights : Weights) (actions : List ScoringAction) :
    Runs.Along p.step (FailSafe p) (started weights) actions ↔ Runs.Along p.step (Guarded p) (started weights) actions := by
  constructor
  · have keeps : ∀ s action, Bounded p s → FailSafe p s action → Bounded p (p.step s action) :=
      fun _ action bounded _ => step_bounded bounded action
    exact Runs.along_gives keeps (fun _ _ bounded failSafe => failSafe_guarded bounded failSafe) (started_bounded p weights)
  · exact Runs.along_gives (fun _ _ sound guarded => guarded_sound sound guarded)
      (fun _ _ sound guarded => (guarded_safely sound guarded).failSafe) (started_sound p weights)

def strictPipeline : ScoringPipeline := {plainPipeline with fallbackOnTimeout := false}

def unscoredCall : ScoringAction := .scoreSync unscoredRequest unscored 0 0

theorem unscored_performed : strictPipeline.perform (started plainWeights) unscoredCall =
    (.ok (some 0),⟨plainWeights,.ofList [("b8aa911d9cda8a32a847a4ac8b05725d",(0,0))],[unscoredScore]⟩) := by
  with_unfolding_all rfl

theorem unscored_clears : strictPipeline.fallbackOnTimeout = false ∧
    (strictPipeline.perform (started plainWeights) unscoredCall).1 = .ok (some 0) ∧
    (strictPipeline.step (started plainWeights) unscoredCall).scores = [unscoredScore] ∧
    (strictPipeline.step (started plainWeights) unscoredCall).cache.get? "b8aa911d9cda8a32a847a4ac8b05725d" = some (0,0) ∧
    ¬Runs.Along strictPipeline.step (FailSafe strictPipeline) (started plainWeights) [unscoredCall] := by
  have stepped : strictPipeline.step (started plainWeights) unscoredCall = _ := congrArg Prod.snd unscored_performed
  refine ⟨rfl,congrArg Prod.fst unscored_performed,?_,?_,?_⟩
  · rw [stepped]
  · rw [stepped]
    rfl
  · intro along
    have usable := along.1.returned 0 unscoredScore (congrArg Prod.fst unscored_performed) (by rw [stepped]; rfl)
    exact usable.2 ⟨rfl,rfl,rfl⟩

end ScoringPipeline
end RiskPulse
