import RiskPulse.ScoreCache

namespace RiskPulse
namespace ScoringPipeline
variable {p : ScoringPipeline}

-- The three calls in the executor: the method, whether it has finished, and its result.
def tasks (p : ScoringPipeline) (weights : Weights) (e : Evaluation) (progress : Progress) :
    List (String × Bool × Except ScoringError ScoringMethodResult) :=
  [("rule_engine",progress.rules,p.scoreRules weights e),("anomaly_detector",progress.anomaly,p.scoreAnomaly weights e),
    ("ml_model",progress.ml,p.scoreMl weights e)]

-- The methods that finished have their results in the score, the others are failed, and
-- the final score is that of the finished ones.
structure Degraded (p : ScoringPipeline) (weights : Weights) (e : Evaluation) (progress : Progress) (u : UnifiedScore) : Prop where
  real : ∀ task ∈ tasks p weights e progress, task.2.1 = true → ∃ r ∈ u.methodScores, task.2.2 = .ok r
  failed : ∀ task ∈ tasks p weights e progress, task.2.1 = false → ∃ r ∈ u.methodScores, r.method = task.1 ∧ r.success = false
  ensemble : u.finalScore = p.computeEnsembleScore
    (((tasks p weights e progress).filter fun task => task.2.1).filterMap fun task => task.2.2.toOption)

-- A call of score_transaction whose timeout fires returns such a score.
def Degrades (p : ScoringPipeline) (s : ScoringState) (r : ScoringRequest) (e : Evaluation) (progress : Progress) (stored : Rat) : Prop :=
  ∃ index u, (p.perform s (.finishAsync r e (some progress) stored)).1 = .ok (some index) ∧
    (p.step s (.finishAsync r e (some progress) stored)).scores[index]? = some u ∧ Degraded p s.weights e progress u

theorem evaluateSync_degraded (made : p.evaluateSync weights transaction e = .ok u) : Degraded p weights e ⟨true,true,true⟩ u := by
  obtain ⟨rule,anomaly,ml,scored,rfl⟩ := evaluateSync_ok.mp made
  constructor
  · intro task member _
    rcases List.mem_cons.mp member with rfl | member
    · exact ⟨rule,List.mem_cons_self,scored.rule⟩
    · rcases List.mem_cons.mp member with rfl | member
      · exact ⟨anomaly,List.mem_cons_of_mem _ List.mem_cons_self,scored.anomaly⟩
      · cases List.mem_singleton.mp member
        exact ⟨ml,List.mem_cons_of_mem _ (List.mem_cons_of_mem _ List.mem_cons_self),scored.ml⟩
  · intro task member unfinished
    simp only [tasks,List.mem_cons,List.not_mem_nil,or_false] at member
    rcases member with rfl | rfl | rfl <;> cases unfinished
  · simp only [tasks,scored.rule,scored.anomaly,scored.ml]
    rfl

theorem degrades_exact (s : ScoringState) (r : ScoringRequest) (e : Evaluation) (progress : Progress) (stored : Rat) :
    Degrades p s r e progress stored ↔ progress = ⟨true,true,true⟩ ∧ Weighted s.weights ∧ Storable p r s.cache := by
  constructor
  · intro given
    obtain ⟨index,u,returned,-,-⟩ := given
    rw [perform_finishAsync] at returned
    cases made : p.evaluateAsync s.weights r.transaction e (some progress) with
    | error error =>
      rw [made] at returned
      cases returned
    | ok unified =>
      obtain ⟨finished,weighted⟩ := (evaluateAsync_returns r.transaction e _).mp ⟨unified,made⟩
      refine ⟨finished progress rfl,weighted,?_⟩
      by_contra full
      rw [made] at returned
      exact (store_quiet (u := unified) stored full (within_self s.cache)).returned index returned
  · intro given
    obtain ⟨rfl,weighted,storable⟩ := given
    have finished : Finished (some ⟨true,true,true⟩) := by simp [Finished]
    obtain ⟨u,made⟩ := (evaluateAsync_returns (p := p) r.transaction e _).mpr ⟨finished,weighted⟩
    have kept := store_stored (s := s) (p := p) (r := r) (u := u) stored storable (within_self s.cache)
    refine ⟨s.scores.length,u,?_,?_,evaluateSync_degraded (evaluateAsync_ok.mp made).2⟩
    · rw [perform_finishAsync,made]
      exact kept.returned
    · rw [step,perform_finishAsync,made]
      exact (congrArg (fun scores => scores[s.scores.length]?) kept.scores).trans List.getElem?_concat_length

-- A batch call returns: the cache has its score, or it evaluates with nothing cancelled.
def Completes (call : BatchCall) : Prop :=
  call.found ≠ none ∨ (Finished call.timeout ∧ Weighted call.weights ∧ call.puts = true)

theorem scoreTransaction_returns (transaction : Record) (call : BatchCall) :
    (∃ u, p.scoreTransaction transaction call = .ok u) ↔ Completes call := by
  unfold scoreTransaction Completes
  cases found : call.found with
  | some unified => simp
  | none =>
    simp only [ne_eq,not_true_eq_false,false_or]
    constructor
    · intro given
      obtain ⟨u,came⟩ := given
      obtain ⟨unified,made,rest⟩ := Fallible.bind_ok.mp came
      obtain ⟨finished,weighted⟩ := (evaluateAsync_returns transaction call.e call.timeout).mp ⟨unified,made⟩
      cases puts : call.puts with
      | true => exact ⟨finished,weighted,rfl⟩
      | false =>
        rw [puts] at rest
        cases rest
    · intro given
      obtain ⟨finished,weighted,puts⟩ := given
      obtain ⟨u,made⟩ := (evaluateAsync_returns (p := p) transaction call.e call.timeout).mpr ⟨finished,weighted⟩
      refine ⟨u,?_⟩
      rw [made,puts]
      rfl

-- One result a transaction, in order.
def Answers (p : ScoringPipeline) (transactions : List Record) (contexts : Option (List (Option Record))) (calls : Nat → BatchCall) : Prop :=
  ∃ results, p.scoreBatch transactions contexts calls = .ok results ∧
    List.Forall₂ (fun call u => p.scoreTransaction call.1 (calls call.2) = .ok u) transactions.zipIdx results

-- The condition: there is nothing to score, or the chunks cover the batch, no context is
-- missing, and every call completes.
def Answerable (p : ScoringPipeline) (transactions : List Record) (contexts : Option (List (Option Record)))
    (calls : Nat → BatchCall) : Prop :=
  transactions = [] ∨ (0 < p.chunkSize ∧ (∀ given, contexts = some given → transactions.length ≤ given.length) ∧
    ∀ call ∈ transactions.zipIdx, Completes (calls call.2))

theorem forall_found {f : α → Option β} (each : List.Forall₂ (fun item got => f item = some got) items results) :
    ∀ item ∈ items, ∃ got, f item = some got := by
  induction each with
  | nil => simp
  | cons here _ ih =>
    intro item member
    rcases List.mem_cons.mp member with rfl | member
    · exact ⟨_,here⟩
    · exact ih item member

theorem zip_fst (items : List α) (others : List β) : (items.zip others).map Prod.fst = items.take others.length := by
  induction items generalizing others with
  | nil => simp
  | cons item rest ih =>
    cases others with
    | nil => rfl
    | cons other others => exact congrArg (List.cons item) (ih others)

-- The results of the calls that return, of the first items only.
theorem forall_filterMap (f : α → Option β) (items : List α) (k : Nat) :
    List.Forall₂ (fun item got => f item = some got) items ((items.take k).filterMap f) ↔
      items.length ≤ k ∧ ∀ item ∈ items, ∃ got, f item = some got := by
  constructor
  · intro each
    constructor
    · have same := each.length_eq
      have most := List.length_filterMap_le f (items.take k)
      rw [List.length_take] at most
      omega
    · exact forall_found each
  · intro given
    obtain ⟨whole,found⟩ := given
    rw [List.take_of_length_le whole]
    clear whole
    induction items with
    | nil => exact .nil
    | cons item rest ih =>
      obtain ⟨got,here⟩ := found item List.mem_cons_self
      rw [List.filterMap_cons_some here]
      exact .cons here (ih fun other member => found other (List.mem_cons_of_mem _ member))

theorem scoreBatch_chunks (contexts : Option (List (Option Record))) (calls : Nat → BatchCall) (filled : transactions ≠ []) (within : transactions.length ≤ p.maxBatchSize) (positive : 0 < p.chunkSize) :
    p.scoreBatch transactions contexts calls = .ok ((transactions.zipIdx.take
      (contexts.getD (List.replicate transactions.length none)).length).filterMap fun call =>
        (p.scoreTransaction call.1 (calls call.2)).toOption) := by
  unfold scoreBatch
  have some : transactions.isEmpty = false := by simp [filled]
  have size : 0 < p.chunkSize.toNat := by omega
  rw [some,if_neg (by simp),if_neg (Nat.not_lt.mpr within),if_neg (by omega)]
  have whole := Batches.batches_zip size transactions.zipIdx (contexts.getD (List.replicate transactions.length none))
  rw [List.length_zipIdx] at whole
  rw [chunkStarts,if_neg (by omega)]
  rw [← zip_fst,List.filterMap_map,← whole,List.filterMap_flatten,List.map_map]
  simp only [List.flatMap_def]
  rfl

theorem scoreBatch_stopped (filled : transactions ≠ []) (stuck : p.chunkSize ≤ 0) : ¬Answers p transactions contexts calls := by
  intro given
  obtain ⟨results,came,each⟩ := given
  have some : transactions.isEmpty = false := by simp [filled]
  unfold scoreBatch at came
  rw [some,if_neg (by simp)] at came
  split at came
  · cases came
  · split at came
    · cases came
    · rw [chunkStarts,if_pos (by omega)] at came
      cases came
      have same := each.length_eq
      rw [List.length_zipIdx] at same
      exact filled (List.length_eq_zero_iff.mp same)

theorem toOption_some {result : Except ε α} : result.toOption = some a ↔ result = .ok a := by
  cases result <;> simp [Except.toOption]

theorem answers_chunks (filled : transactions ≠ []) (within : transactions.length ≤ p.maxBatchSize) (positive : 0 < p.chunkSize) :
    Answers p transactions contexts calls ↔
      transactions.length ≤ (contexts.getD (List.replicate transactions.length none)).length ∧
      ∀ call ∈ transactions.zipIdx, Completes (calls call.2) := by
  have chunks := scoreBatch_chunks contexts calls filled within positive
  have each := forall_filterMap (fun call : Record × Nat => (p.scoreTransaction call.1 (calls call.2)).toOption)
    transactions.zipIdx (contexts.getD (List.replicate transactions.length none)).length
  simp only [toOption_some,scoreTransaction_returns,List.length_zipIdx] at each
  rw [← each]
  constructor
  · intro given
    obtain ⟨results,came,answered⟩ := given
    cases chunks.symm.trans came
    exact answered
  · intro answered
    exact ⟨_,chunks,answered⟩

theorem contexts_cover {transactions : List Record} {contexts : Option (List (Option Record))} :
    transactions.length ≤ (contexts.getD (List.replicate transactions.length none)).length ↔
      ∀ given, contexts = some given → transactions.length ≤ given.length := by
  cases contexts <;> simp

theorem answers_exact (within : transactions.length ≤ p.maxBatchSize) :
    Answers p transactions contexts calls ↔ Answerable p transactions contexts calls := by
  by_cases filled : transactions = []
  · subst filled
    exact ⟨fun _ => .inl rfl,fun _ => ⟨[],rfl,.nil⟩⟩
  · by_cases positive : 0 < p.chunkSize
    · rw [answers_chunks filled within positive,contexts_cover]
      constructor
      · intro ready
        exact .inr ⟨positive,ready⟩
      · intro given
        rcases given with bare | ⟨-,ready⟩
        · exact absurd bare filled
        · exact ready
    · constructor
      · intro answers
        exact absurd answers (scoreBatch_stopped filled (Int.not_lt.mp positive))
      · intro given
        rcases given with bare | ⟨more,-⟩
        · exact absurd bare filled
        · exact absurd more positive

theorem timeout_degradation (p : ScoringPipeline) :
    (∀ s r e progress stored, Degrades p s r e progress stored ↔
      progress = ⟨true,true,true⟩ ∧ Weighted s.weights ∧ Storable p r s.cache) ∧
    ∀ transactions contexts calls, transactions.length ≤ p.maxBatchSize →
      (Answers p transactions contexts calls ↔ Answerable p transactions contexts calls) :=
  ⟨degrades_exact,fun _ _ _ within => answers_exact within⟩

def plainBatchCall (timeout : Option Progress) : BatchCall := ⟨none,plainWeights,unscored,timeout,true⟩

theorem plain_degradation : Degrades plainPipeline (started plainWeights) unscoredRequest unscored ⟨true,true,true⟩ 0 ∧
    Answers plainPipeline [plainTransaction] none fun _ => plainBatchCall none := by
  have bounds := timeout_degradation plainPipeline
  refine ⟨(bounds.1 _ _ _ _ _).mpr ⟨rfl,by decide,?_⟩,(bounds.2 _ _ _ (by decide)).mpr (.inr ⟨by decide,by simp,?_⟩)⟩
  · intro settings _ enabled _
    cases enabled
    decide
  · intro call _
    exact .inr ⟨by simp [Finished,plainBatchCall],by show Weighted plainWeights; decide,rfl⟩

-- The ML model has not finished, in the batch for the first transaction; or the second
-- transaction has no context.
theorem unfinished_raises :
    (plainPipeline.perform (started plainWeights) (.finishAsync unscoredRequest unscored (some ⟨true,true,false⟩) 0)).1 =
      .error .cancelled ∧
    ¬Degrades plainPipeline (started plainWeights) unscoredRequest unscored ⟨true,true,false⟩ 0 ∧
    ¬Answers plainPipeline [plainTransaction,plainTransaction] none
      (fun n => plainBatchCall (if n = 0 then some ⟨true,true,false⟩ else none)) ∧
    ¬Answers plainPipeline [plainTransaction,plainTransaction] (some [none]) fun _ => plainBatchCall none := by
  refine ⟨by with_unfolding_all rfl,?_,?_,?_⟩
  · intro degrades
    cases ((degrades_exact _ _ _ _ _).mp degrades).1
  · intro answers
    rcases (answers_exact (by decide)).mp answers with bare | ⟨-,-,each⟩
    · cases bare
    · rcases each (plainTransaction,0) List.mem_cons_self with found | ⟨finished,-⟩
      · exact found rfl
      · cases finished ⟨true,true,false⟩ rfl
  · intro answers
    rcases (answers_exact (by decide)).mp answers with bare | ⟨-,covered,-⟩
    · cases bare
    · have short := covered [none] rfl
      exact absurd short (by decide)

end ScoringPipeline
end RiskPulse
