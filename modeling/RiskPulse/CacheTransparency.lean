import Mathlib.Data.List.Induction
import RiskPulse.ScoreCache

namespace RiskPulse
namespace ScoringPipeline
variable {p : ScoringPipeline} {weights : Weights}

-- The calls that look for a score, with what the components would return to them.
inductive Asks : ScoringAction → ScoringRequest → Evaluation → Rat → Prop where
  | sync (r : ScoringRequest) (e : Evaluation) (looked stored : Rat) : Asks (.scoreSync r e looked stored) r e looked
  | async (r : ScoringRequest) (e : Evaluation) (looked : Rat) : Asks (.beginAsync r e looked) r e looked

-- A score but for the times taken, and whether it was cached.
def timeless (u : UnifiedScore) : UnifiedScore :=
  {u with
    methodScores := u.methodScores.map fun r => {r with latencyMs := .finite 0}
    totalLatencyMs := .finite 0
    cached := false}

-- What a score that is found is equal to what an evaluation with the weights of that
-- time makes; after an entry is invalidated the next call for its transaction finds
-- none; and a score that was returned stays as it is.
structure Transparent (p : ScoringPipeline) (weights : Weights) (actions : List ScoringAction) : Prop where
  fresh : ∀ earlier action later r e looked index u, actions = earlier ++ action :: later → Asks action r e looked →
    Live p r looked (reached p weights earlier) index → (reached p weights (earlier ++ [action])).scores[index]? = some u →
    ∃ v, p.evaluateSync (reached p weights earlier).weights r.transaction e = .ok v ∧ timeless u = timeless v
  invalidated : ∀ earlier t middle action later r e looked index,
    actions = earlier ++ .invalidateCache (some t) :: middle ++ action :: later → Asks action r e looked →
    transactionId r.transaction = .str t →
    (∀ other ∈ middle, ∀ r e looked, Asks other r e looked → transactionId r.transaction ≠ .str t) →
    ¬Live p r looked (reached p weights (earlier ++ .invalidateCache (some t) :: middle)) index
  kept : ∀ earlier action middle later index u, actions = earlier ++ action :: middle ++ later →
    (p.perform (reached p weights earlier) action).1 = .ok (some index) →
    (reached p weights (earlier ++ [action])).scores[index]? = some u →
    (reached p weights (earlier ++ action :: middle)).scores[index]? = some u

-- The condition: the call finds no live entry.
def Unserved (p : ScoringPipeline) (s : ScoringState) (action : ScoringAction) : Prop :=
  ∀ r e looked index, Asks action r e looked → ¬Live p r looked s index

theorem looks_asks (looking : looks action = some (r,looked)) : ∃ e, Asks action r e looked := by
  cases action with
  | scoreSync request e time stored => cases looking; exact ⟨e,.sync _ _ _ _⟩
  | beginAsync request e time => cases looking; exact ⟨e,.async _ _ _⟩
  | finishAsync request e timeout stored => cases looking
  | updateWeights weights => cases looking
  | invalidateCache transactionId => cases looking

theorem asks_looks (asks : Asks action r e looked) : looks action = some (r,looked) := by
  cases asks with
  | sync => rfl
  | async => rfl

-- A step that finds nothing makes a score and returns it, or returns none.
theorem unserved_cases (bounded : Bounded p s) (unserved : Unserved p s action) :
    (∃ r e u, Evaluates p s action r e u ∧ Stored s u (p.perform s action)) ∨ Quiet s (p.perform s action) := by
  rcases perform_cases bounded action with ⟨r,looked,index,looking,live⟩ | ⟨r,e,u,evaluates,-,stored⟩ | quiet
  · obtain ⟨e,asks⟩ := looks_asks looking
    exact absurd live (unserved r e looked index asks)
  · exact .inl ⟨r,e,u,evaluates,stored⟩
  · exact .inr quiet

theorem unserved_keeps {index : Nat} (bounded : Bounded p s) (unserved : Unserved p s action) (found : s.scores[index]? = some u) :
    (p.step s action).scores[index]? = some u := by
  rcases unserved_cases bounded unserved with ⟨r,e,v,-,stored⟩ | quiet
  · exact kept_score (.inr ⟨v,stored.scores⟩) found
  · exact kept_score quiet.scores found

theorem run_keeps {index : Nat} (bounded : Bounded p s) (along : Runs.Along p.step (Unserved p) s actions)
    (found : s.scores[index]? = some u) : (Runs.run p.step s actions).scores[index]? = some u := by
  have keeps : ∀ s action, Bounded p s ∧ s.scores[index]? = some u → Unserved p s action →
      Bounded p (p.step s action) ∧ (p.step s action).scores[index]? = some u :=
    fun _ action holds unserved => ⟨step_bounded holds.1 action,unserved_keeps holds.1 unserved holds.2⟩
  exact (Runs.along_keeps keeps ⟨bounded,found⟩ along).2

theorem reached_bounded (p : ScoringPipeline) (weights : Weights) (actions : List ScoringAction) :
    Bounded p (reached p weights actions) := by
  have keeps : ∀ s action, Bounded p s → Bounded p (p.step s action) := fun _ action bounded => step_bounded bounded action
  exact Runs.run_keeps p.step keeps (started_bounded p weights) actions

theorem reached_append (earlier later : List ScoringAction) :
    reached p weights (earlier ++ later) = Runs.run p.step (reached p weights earlier) later :=
  Runs.run_append p.step _ earlier later

theorem unserved_transparent (along : Runs.Along p.step (Unserved p) (started weights) actions) : Transparent p weights actions := by
  constructor
  · rintro earlier action later r e looked index u rfl asks live
    exact absurd live (Runs.along_at along r e looked index asks)
  · rintro earlier t middle action later r e looked index rfl asks -
    intro _ live
    exact Runs.along_at along r e looked index asks live
  · rintro earlier action middle later index u rfl - found
    rw [List.append_assoc] at along
    have rest := Runs.along_earlier (Runs.along_later along)
    have more := Runs.along_later (show Runs.Along p.step (Unserved p) _ ([action] ++ middle) from rest)
    have split : earlier ++ action :: middle = (earlier ++ [action]) ++ middle := by simp
    rw [split,reached_append]
    exact run_keeps (reached_bounded p weights (earlier ++ [action])) (reached_append earlier [action] ▸ more) found

-- An earlier action returned the object, and it was not marked as cached.
def Handed (p : ScoringPipeline) (weights : Weights) (actions : List ScoringAction) (index : Nat) : Prop :=
  ∃ before action after u, actions = before ++ action :: after ∧
    (p.perform (reached p weights before) action).1 = .ok (some index) ∧
    (reached p weights (before ++ [action])).scores[index]? = some u ∧ u.cached = false

theorem Handed.more (handed : Handed p weights actions index) (action : ScoringAction) : Handed p weights (actions ++ [action]) index := by
  obtain ⟨before,first,after,u,rfl,returned,found,unmarked⟩ := handed
  exact ⟨before,first,after ++ [action],u,by simp,returned,found,unmarked⟩

theorem evaluates_unmarked (evaluates : Evaluates p s action r e u) : u.cached = false := by
  have made : ∃ weights transaction, p.evaluateSync weights transaction e = .ok u := by
    cases evaluates with
    | sync missed made => exact ⟨_,_,made⟩
    | async made => exact ⟨_,_,(evaluateAsync_ok.mp made).2⟩
  obtain ⟨weights,transaction,made⟩ := made
  obtain ⟨rule,anomaly,ml,scored,rfl⟩ := evaluateSync_ok.mp made
  rfl

theorem reached_snoc (actions : List ScoringAction) (action : ScoringAction) :
    reached p weights (actions ++ [action]) = p.step (reached p weights actions) action := reached_append actions [action]

theorem stored_handed (evaluates : Evaluates p (reached p weights actions) action r e u)
    (stored : Stored (reached p weights actions) u (p.perform (reached p weights actions) action)) :
    Handed p weights (actions ++ [action]) (reached p weights actions).scores.length := by
  refine ⟨actions,action,[],u,rfl,stored.returned,?_,evaluates_unmarked evaluates⟩
  rw [reached_snoc,step,stored.scores]
  exact List.getElem?_concat_length

-- While nothing is found in it, the cache has objects that were returned.
theorem cached_handed (along : Runs.Along p.step (Unserved p) (started weights) actions) :
    ∀ key entry, (reached p weights actions).cache.get? key = some entry → Handed p weights actions entry.2 := by
  induction actions using List.reverseRecOn with
  | nil =>
    intro key entry found
    cases found
  | append_singleton actions action ih =>
    have earlier := ih (Runs.along_earlier along)
    have unserved : Unserved p (reached p weights actions) action := Runs.along_at along
    intro key entry found
    rw [reached_snoc] at found
    rcases unserved_cases (reached_bounded p weights actions) unserved with ⟨r,e,u,evaluates,stored⟩ | quiet
    · rcases stored.cached key entry found with same | old
      · rw [same]
        exact stored_handed evaluates stored
      · exact (earlier key entry old).more action
    · exact (earlier key entry (quiet.cached key entry found)).more action

-- The first call that finds a score changes one that was returned.
theorem transparent_unserved (transparent : Transparent p weights actions) :
    Runs.Along p.step (Unserved p) (started weights) actions := by
  by_contra broken
  obtain ⟨earlier,action,later,rfl,along,wrong⟩ := Runs.along_fails broken
  have hit : ∃ r e looked index, Asks action r e looked ∧ Live p r looked (reached p weights earlier) index := by
    by_contra none
    apply wrong
    intro r e looked index asks live
    exact none ⟨r,e,looked,index,asks,live⟩
  obtain ⟨r,e,looked,index,asks,live⟩ := hit
  have done := perform_hit (asks_looks asks) live
  obtain ⟨_,settings,_,timestamp,found,_⟩ := live
  obtain ⟨before,first,after,u,rfl,returned,there,unmarked⟩ := cached_handed along _ _ found
  have whole : before ++ first :: after ++ action :: later = before ++ first :: (after ++ [action]) ++ later := by simp
  have still := transparent.kept before first (after ++ [action]) later index u whole returned there
  have split : before ++ first :: (after ++ [action]) = (before ++ first :: after) ++ [action] := by simp
  rw [split,reached_snoc,step,done,served,List.getElem?_modify_eq] at still
  obtain ⟨w,-,marked⟩ := Option.map_eq_some_iff.mp still
  rw [← marked] at unmarked
  cases unmarked

theorem cache_transparent (p : ScoringPipeline) (weights : Weights) (actions : List ScoringAction) :
    Transparent p weights actions ↔ Runs.Along p.step (Unserved p) (started weights) actions :=
  ⟨transparent_unserved,unserved_transparent⟩

-- One transaction is scored, the weights are changed, the entry is invalidated by the
-- transaction's id, and the transaction is scored again.
def otherWeights : Weights :=
  .ofList [("rule_score",.finite (1 / 2)),("anomaly_score",.finite (1 / 4)),("ml_score",.finite (1 / 4))]

def scoring (time : Rat) : ScoringAction := .scoreSync unscoredRequest detected time time

def staleRun : List ScoringAction := [scoring 0,.updateWeights otherWeights,.invalidateCache (some "T1")]

theorem staleRun_reached : reached plainPipeline plainWeights staleRun =
    ⟨otherWeights,.ofList [("b8aa911d9cda8a32a847a4ac8b05725d",(0,0))],[detectedScore]⟩ := by
  with_unfolding_all rfl

theorem stale_score_served :
    (plainPipeline.perform (reached plainPipeline plainWeights staleRun) (scoring 10)).1 = .ok (some 0) ∧
    (reached plainPipeline plainWeights staleRun).scores = [detectedScore] ∧
    (reached plainPipeline plainWeights (staleRun ++ [scoring 10])).scores = [{detectedScore with cached := true}] ∧
    (∃ v, plainPipeline.evaluateSync otherWeights plainTransaction detected = .ok v ∧ v.finalScore = .finite (5 / 16)) ∧
    ¬Transparent plainPipeline plainWeights (staleRun ++ [scoring 10]) := by
  have live : Live plainPipeline unscoredRequest 10 (reached plainPipeline plainWeights staleRun) 0 := by
    rw [staleRun_reached]
    exact ⟨rfl,⟨100000,300⟩,rfl,0,rfl,by decide +kernel⟩
  have looking : looks (scoring 10) = some (unscoredRequest,10) := rfl
  have done := perform_hit looking live
  refine ⟨congrArg Prod.fst done,by rw [staleRun_reached],?_,?_,?_⟩
  · rw [reached_snoc,step,done,staleRun_reached]
    rfl
  · refine ⟨_,rfl,?_⟩
    with_unfolding_all rfl
  · intro transparent
    exact transparent.invalidated [scoring 0,.updateWeights otherWeights] "T1" [] (scoring 10) [] unscoredRequest detected 10 0 rfl
      (.sync _ _ _ _) rfl (by simp) live

end ScoringPipeline
end RiskPulse
