import RiskPulse.DataCleaner
import RiskPulse.PipelineStages

namespace RiskPulse

-- The stage whose error path the observed outcome takes, if it takes one.
def Observation.failedStage : Observation → Option PipelineStage
  | .cleaned _ (.error _) => some .cleaning
  | .normalized _ (.error _) => some .normalization
  | .featured _ (.error _) => some .featureEngineering
  | .featured _ (.ok result) => if result.isSuccess then none else some .featureEngineering
  | .geoEnriched _ (.error _) | .deviceEnriched _ (.error _) | .merchantEnriched _ (.error _)
  | .velocityEvaluated _ (.error _) => some .enrichment
  | _ => none

namespace PipelineOrchestrator
open Effect
variable {V : Type}

-- A component that neither reads nor changes the cleaner's cache.
def alongside (component : Component V α β) : Component (LRUDedup × V) α β := fun argument w =>
  ((component argument w.2).1,(w.1,(component argument w.2).2))

-- The orchestrator with a data cleaner in the cleaning stage. The cache belongs
-- to the cleaner; the other components share the rest of the world.
def withCleaner (base : PipelineOrchestrator V) (cleaner : DataCleaner) : PipelineOrchestrator (LRUDedup × V) where
  validator := alongside base.validator
  quarantine := alongside base.quarantine
  rulesEngine := alongside base.rulesEngine
  cleaner := fun record w =>
    ((cleaner.clean (base.time w.2) record w.1).1,((cleaner.clean (base.time w.2) record w.1).2,w.2))
  normalizer := alongside base.normalizer
  featureEngineer := alongside base.featureEngineer
  geoEnricher := alongside base.geoEnricher
  deviceEnricher := alongside base.deviceEnricher
  merchantEnricher := alongside base.merchantEnricher
  velocityCalculator := alongside base.velocityCalculator
  errorPolicy := base.errorPolicy
  onDlq := base.onDlq.map alongside
  perfCounter := fun w => base.perfCounter w.2
  time := fun w => base.time w.2
  uuid4Hex := fun w => base.uuid4Hex w.2

-- One process_record call: its input, its result and the component calls made.
structure Call where
  record : Record
  result : PipelineResult
  seen : List Observation

-- A sequence of calls. Between two calls everything but the cleaner's cache may
-- change; the cache goes from one call to the next.
inductive Calls (p : PipelineOrchestrator (LRUDedup × V)) : LRUDedup → List Call → LRUDedup → Prop where
  | nil : Calls p dedup [] dedup
  | call : Calls p start calls s.world.1 → processRecord p record s = (.ok result,t) → t.seen = s.seen ++ seen →
      Calls p start (calls ++ [⟨record,result,seen⟩]) t.world.1

def Call.Cleaned (cleaner : DataCleaner) (key : String) (call : Call) : Prop :=
  ∃ r out, .cleaned r out ∈ call.seen ∧ cleaner.computeDedupKey r = key

-- Only a record whose key completed before is called a duplicate.
def DuplicatesCompleted (cleaner : DataCleaner) (calls : List Call) : Prop :=
  ∀ earlier call later, calls = earlier ++ call :: later → ∀ r result, .cleaned r (.ok result) ∈ call.seen →
    result.isDuplicate = true →
    ∃ prior ∈ earlier, prior.result.success = true ∧ prior.Cleaned cleaner (cleaner.computeDedupKey r)

-- The outcome ends the run: its stage failed and the policy of that stage is halt.
def Halts (p : PipelineOrchestrator W) (seen : Observation) : Prop :=
  ∃ stage, seen.failedStage = some stage ∧ p.errorPolicy.getD stage.value .skip = .halt

instance (p : PipelineOrchestrator W) (seen : Observation) : Decidable (Halts p seen) :=
  match failed : seen.failedStage with
  | none => .isFalse (by rintro ⟨stage,same,_⟩; rw [failed] at same; cases same)
  | some stage => decidable_of_iff (p.errorPolicy.getD stage.value .skip = .halt)
      ⟨fun halts => ⟨stage,failed,halts⟩,fun ⟨_,same,halts⟩ => by rw [failed] at same; cases same; exact halts⟩

def cleanerCache (s : PipelineState (LRUDedup × V)) : LRUDedup := s.world.1

section Frames
variable (base : PipelineOrchestrator V) (cleaner : DataCleaner)

theorem alongside_cache (component : Component V α β) (argument : α) (observe : Except String β → Observation) :
    Frames cleanerCache (callComponent (alongside component) argument observe) := fun _ => rfl

theorem routeToDlq_cache (record : Record) (stage reason : String) :
    Frames cleanerCache (routeToDlq (withCleaner base cleaner) record stage reason) := by
  intro s
  unfold routeToDlq
  cases called : base.onDlq with
  | none => simp [withCleaner,called]; rfl
  | some callback => simp [withCleaner,called]; rfl

theorem handleStageError_cache (stage : String) (record : Record) (error : String) :
    Frames cleanerCache (handleStageError (withCleaner base cleaner) stage record error) := by
  unfold handleStageError
  split
  · exact (routeToDlq_cache _ _ _ _ _).bind fun _ => frames_pure _
  · exact frames_pure _

theorem stageMetrics_cache (stage : String) (change : StageMetrics → StageMetrics) :
    Frames cleanerCache (changeStageMetrics (W:=LRUDedup × V) stage change) :=
  changeStageMetrics_frames (fun _ _ => rfl) stage change

theorem runValidation_cache (record : Record) :
    Frames cleanerCache (runValidation (withCleaner base cleaner) record) := by
  refine (clock_frames _).bind fun start => Frames.attempt ?_ fun e => handleStageError_cache _ _ _ _ _
  refine (alongside_cache _ _ _).bind fun result => (clock_frames _).bind fun now => ?_
  split
  · exact (alongside_cache _ _ _).bind fun _ => (stageMetrics_cache _ _).bind fun _ =>
      (routeToDlq_cache _ _ _ _ _).bind fun _ => frames_pure _
  · exact (stageMetrics_cache _ _).bind fun _ => frames_pure _

theorem runRulesEngine_cache (record : Record) :
    Frames cleanerCache (runRulesEngine (withCleaner base cleaner) record) := by
  refine (clock_frames _).bind fun start => Frames.attempt ?_ fun e => handleStageError_cache _ _ _ _ _
  refine (alongside_cache _ _ _).bind fun result => (clock_frames _).bind fun now => ?_
  split
  · exact (stageMetrics_cache _ _).bind fun _ => (routeToDlq_cache _ _ _ _ _).bind fun _ => frames_pure _
  · exact (stageMetrics_cache _ _).bind fun _ => frames_pure _

end Frames

section AfterCleaning
variable {base : PipelineOrchestrator V} {cleaner : DataCleaner}

-- A run past the cleaning stage: it returns, leaves the cache alone, calls later
-- components only, and ends well unless one of them failed under halt.
def Carries (base : PipelineOrchestrator V) (cleaner : DataCleaner) (fine : α → Prop)
    (m : Pipeline (LRUDedup × V) α) : Prop :=
  ∀ s, ∃ a t calls, m s = (.ok a,t) ∧ t.world.1 = s.world.1 ∧ t.seen = s.seen ++ calls ∧
    (∀ call ∈ calls, 3 ≤ call.rank) ∧ (fine a ∨ ∃ call ∈ calls, Halts (withCleaner base cleaner) call)

theorem oneCall_carries {ran : Pipeline (LRUDedup × V) (Option Record)} {call : PipelineState (LRUDedup × V) → Observation}
    (returns : Returns ran) (cache : Frames cleanerCache ran) (seen : ∀ s, (ran s).2.seen = s.seen ++ [call s])
    (late : ∀ s, 3 ≤ (call s).rank) (stops : ∀ s t, ran s = (.ok none,t) → Halts (withCleaner base cleaner) (call s)) :
    Carries base cleaner (· ≠ none) ran := by
  intro s
  have same := cache s
  have observed := seen s
  obtain ⟨out,t,did⟩ := returns s
  rw [did] at same observed
  refine ⟨out,t,[call s],did,same,observed,?_,?_⟩
  · intro other member
    rw [List.mem_singleton.mp member]
    exact late s
  · cases out with
    | none => exact .inr ⟨call s,List.mem_singleton_self _,stops s t did⟩
    | some record => exact .inl (by simp)

theorem orFail_carries {ran : Pipeline (LRUDedup × V) (Option Record)}
    {next : Record → Pipeline (LRUDedup × V) PipelineResult} (stage : Carries base cleaner (· ≠ none) ran)
    (rest : ∀ record, Carries base cleaner (fun result => result.success = true) (next record)) :
    Carries base cleaner (fun result => result.success = true)
      (orFail (withCleaner base cleaner) txnId place error start ran next) := by
  intro s
  obtain ⟨out,t,calls,did,cache,seen,late,ends⟩ := stage s
  cases out with
  | none =>
    rw [orFail_none did]
    exact ⟨_,t,calls,rfl,cache,seen,late,.inr (ends.resolve_left (fun fine => fine rfl))⟩
  | some record =>
    obtain ⟨result,u,more,went,same,further,later,outcome⟩ := rest record t
    rw [orFail_some did]
    refine ⟨result,u,calls ++ more,went,same.trans cache,by rw [further,seen,List.append_assoc],?_,?_⟩
    · intro call member
      rcases List.mem_append.mp member with early | after
      · exact late call early
      · exact later call after
    · rcases outcome with success | ⟨call,member,halts⟩
      · exact .inl success
      · exact .inr ⟨call,List.mem_append_right _ member,halts⟩

theorem runNormalization_carries (record : Record) :
    Carries base cleaner (· ≠ none) (runNormalization (withCleaner base cleaner) record) := by
  refine oneCall_carries ?_ ?_ (runNormalization_seen _ record) (fun _ => by simp [Observation.rank]) ?_
  · exact (returns_read _).bind fun _ => Returns.attempt fun _ => handleStageError_returns _ _ _ _
  · exact (clock_frames _).bind fun _ => Frames.attempt
      ((alongside_cache _ _ _).bind fun _ => (clock_frames _).bind fun _ => (stageMetrics_cache _ _).bind fun _ =>
        frames_pure _) fun _ => handleStageError_cache _ _ _ _ _
  · intro s t ran
    refine oneCall_yields (· = none → Halts _ _) (withCleaner base cleaner) s ?_ ?_ ran rfl
    · intro e raised _ _ _ handled stopped
      rw [raised]
      exact ⟨.normalization,rfl,handleStageError_stops _ _ _ _ _ _ _ handled stopped⟩
    · intro start result _
      refine ⟨(returns_read _).bind fun _ => (stageMetrics_returns _ _).bind fun _ => returns_pure _,?_⟩
      exact yields_bind fun _ => yields_bind fun _ => yields_pure fun stopped => by cases stopped

theorem runFeatureEngineering_carries (record : Record) :
    Carries base cleaner (· ≠ none) (runFeatureEngineering (withCleaner base cleaner) record) := by
  refine oneCall_carries ?_ ?_ (runFeatureEngineering_seen _ record) (fun _ => by simp [Observation.rank]) ?_
  · exact (returns_read _).bind fun _ => Returns.attempt fun _ => handleStageError_returns _ _ _ _
  · refine (clock_frames _).bind fun _ => Frames.attempt ?_ fun _ => handleStageError_cache _ _ _ _ _
    refine (alongside_cache _ _ _).bind fun result => (clock_frames _).bind fun _ => ?_
    split
    · exact (stageMetrics_cache _ _).bind fun _ => handleStageError_cache _ _ _ _ _
    · exact (stageMetrics_cache _ _).bind fun _ => frames_pure _
  · intro s t ran
    refine oneCall_yields (· = none → Halts _ _) (withCleaner base cleaner) s ?_ ?_ ran rfl
    · intro e raised _ _ _ handled stopped
      rw [raised]
      exact ⟨.featureEngineering,rfl,handleStageError_stops _ _ _ _ _ _ _ handled stopped⟩
    · intro start result computed
      constructor
      · refine (returns_read _).bind fun _ => ?_
        split
        · exact (stageMetrics_returns _ _).bind fun _ => handleStageError_returns _ _ _ _
        · exact (stageMetrics_returns _ _).bind fun _ => returns_pure _
      · rw [computed]
        refine yields_bind fun _ => ?_
        split
        · rename_i failed
          refine yields_bind fun _ _ _ _ handled stopped => ?_
          exact ⟨.featureEngineering,by simp [Observation.failedStage,failed],
            handleStageError_stops _ _ _ _ _ _ _ handled stopped⟩
        · exact yields_bind fun _ => yields_pure fun stopped => by cases stopped

-- One enricher's part of its stage: one call, and it raises only if the call did.
def EnricherStep (step : Record → Pipeline (LRUDedup × V) (Option Record)) : Prop :=
  ∀ record s, ∃ call, (step record s).2.seen = s.seen ++ [call] ∧ call.rank = 5 ∧
    (step record s).2.world.1 = s.world.1 ∧ (∀ e, (step record s).1 = .error e → call.failedStage = some .enrichment)

theorem report_step (component : Component V Record β) (observe : Record → Except String β → Observation)
    (report : β → Option Record) (place : ∀ r out, (observe r out).rank = 5)
    (fails : ∀ r e, (observe r (.error e)).failedStage = some .enrichment) :
    EnricherStep fun record => callComponent (alongside component) record (observe record) >>= fun result =>
      pure (report result) := by
  intro record s
  beta_reduce
  have called := callComponent_run (alongside component) record (observe record) s
  rcases outcome : (alongside component record s.world).1 with e | result
  · rw [outcome] at called
    refine ⟨observe record (.error e),?_,place _ _,?_,fun _ _ => fails _ _⟩
    · rw [bind_error _ called]
    · rw [bind_error _ called]; rfl
  · rw [outcome] at called
    refine ⟨observe record (.ok result),?_,place _ _,?_,?_⟩
    · rw [bind_ok _ called]; rfl
    · rw [bind_ok _ called]; rfl
    · intro e raised
      rw [bind_ok _ called] at raised
      cases raised

theorem enrichers_step (base : PipelineOrchestrator V) (cleaner : DataCleaner) :
    ∀ step ∈ enrichers (withCleaner base cleaner), EnricherStep step := by
  intro step member
  simp only [enrichers,List.mem_cons,List.not_mem_nil,or_false] at member
  rcases member with rfl | rfl | rfl | rfl
  · exact report_step base.geoEnricher .geoEnriched _ (fun _ _ => rfl) fun _ _ => rfl
  · exact report_step base.deviceEnricher .deviceEnriched _ (fun _ _ => rfl) fun _ _ => rfl
  · exact report_step base.merchantEnricher .merchantEnriched _ (fun _ _ => rfl) fun _ _ => rfl
  · exact report_step base.velocityCalculator .velocityEvaluated _ (fun _ _ => rfl) fun _ _ => rfl

-- The four calls together, by induction on the enrichers still to come.
theorem mergeReports_parts {steps : List (Record → Pipeline (LRUDedup × V) (Option Record))}
    (each : ∀ step ∈ steps, EnricherStep step) (record : Record) (s : PipelineState (LRUDedup × V)) :
    ∃ calls, (mergeReports steps record s).2.seen = s.seen ++ calls ∧ (∀ call ∈ calls, call.rank = 5) ∧
      (mergeReports steps record s).2.world.1 = s.world.1 ∧
      ((mergeReports steps record s).1.2 ≠ none → ∃ call ∈ calls, call.failedStage = some .enrichment) := by
  induction steps generalizing record s with
  | nil => exact ⟨[],by simp [mergeReports],by simp,rfl,fun raised => absurd rfl raised⟩
  | cons step rest ih =>
    obtain ⟨call,seen,place,cache,fails⟩ := each step List.mem_cons_self record s
    rcases ran : step record s with ⟨outcome,t⟩
    rw [ran] at seen cache fails
    cases outcome with
    | error e =>
      refine ⟨[call],?_,by simpa using place,?_,fun _ => ⟨call,List.mem_cons_self,fails e rfl⟩⟩
      · simp only [mergeReports,ran]; exact seen
      · simp only [mergeReports,ran]; exact cache
    | ok report =>
      obtain ⟨calls,further,places,same,raises⟩ :=
        ih (fun other member => each other (List.mem_cons_of_mem _ member)) (merge record report) t
      have start : t.seen = s.seen ++ [call] := seen
      refine ⟨call :: calls,?_,?_,?_,?_⟩
      · simp only [mergeReports,ran]
        rw [further,start,List.append_assoc]
        rfl
      · intro other member
        rcases List.mem_cons.mp member with rfl | later
        · exact place
        · exact places other later
      · simp only [mergeReports,ran]
        exact same.trans cache
      · simp only [mergeReports,ran]
        intro raised
        obtain ⟨other,member,failed⟩ := raises raised
        exact ⟨other,List.mem_cons_of_mem _ member,failed⟩

theorem runEnrichment_carries (record : Record) :
    Carries base cleaner (· ≠ none) (runEnrichment (withCleaner base cleaner) record) := by
  intro s
  obtain ⟨calls,seen,places,cache,raises⟩ := mergeReports_parts (enrichers_step base cleaner) record s
  rcases merged : mergeReports (enrichers (withCleaner base cleaner)) record s with ⟨⟨left,raised⟩,u⟩
  rw [merged] at seen cache raises
  have ran : mergeAll (withCleaner base cleaner) record s = (.ok (left,raised),u) := by rw [mergeAll,merged]
  rw [runEnrichment_eq,clock,read_bind,bind_ok _ ran]
  have late : ∀ call ∈ calls, 3 ≤ call.rank := fun call member => by have place := places call member; omega
  cases raised with
  | some e =>
    obtain ⟨out,t,handled⟩ := handleStageError_returns (withCleaner base cleaner) PipelineStage.enrichment.value left e u
    have kept := handleStageError_cache base cleaner PipelineStage.enrichment.value left e u
    have quiet := handleStageError_seen (withCleaner base cleaner) PipelineStage.enrichment.value left e u
    rw [handled] at kept quiet
    refine ⟨out,t,calls,handled,Eq.trans kept cache,Eq.trans quiet seen,late,?_⟩
    cases out with
    | some record => exact .inl (by simp)
    | none =>
      obtain ⟨call,member,failed⟩ := raises (by simp)
      exact .inr ⟨call,member,.enrichment,failed,handleStageError_stops _ _ _ _ _ _ _ handled rfl⟩
  | none =>
    have kept := fun change => stageMetrics_cache (V:=V) PipelineStage.enrichment.value change u
    have quiet := fun change => stageMetrics_seen (W:=LRUDedup × V) PipelineStage.enrichment.value change u
    exact ⟨_,_,calls,rfl,Eq.trans (kept _) cache,Eq.trans (quiet _) seen,late,.inl (by simp)⟩

theorem finish_carries (txnId : Value) (start : Rat) (record : Record) :
    Carries base cleaner (fun result => result.success = true)
      (orFail (withCleaner base cleaner) txnId .normalization "Normalization failed" start
          (runNormalization (withCleaner base cleaner) record) fun record =>
        orFail (withCleaner base cleaner) txnId .featureEngineering "Feature engineering failed" start
          (runFeatureEngineering (withCleaner base cleaner) record) fun record =>
        orFail (withCleaner base cleaner) txnId .enrichment "Enrichment failed" start
          (runEnrichment (withCleaner base cleaner) record) fun record => do
        let stamp ← Effect.read fun s => (withCleaner base cleaner).time s.world
        let record := (record.set "_pipeline_processed" (.bool true)).set
          "_pipeline_timestamp" (.float (.finite stamp))
        let now ← clock (withCleaner base cleaner)
        pure ⟨txnId,true,record,none,none,false,(now - start) * 1000⟩) := by
  refine orFail_carries (runNormalization_carries record) fun record => ?_
  refine orFail_carries (runFeatureEngineering_carries record) fun record => ?_
  refine orFail_carries (runEnrichment_carries record) fun record s => ?_
  exact ⟨_,s,[],rfl,rfl,by simp,by simp,.inl rfl⟩

end AfterCleaning

section Cleaning
variable {base : PipelineOrchestrator V} {cleaner : DataCleaner}

theorem runCleaning_returns (p : PipelineOrchestrator W) (record : Record) : Returns (runCleaning p record) :=
  (returns_read _).bind fun _ => Returns.attempt fun _ => handleStageError_returns _ _ _ _

theorem runCleaning_cache (base : PipelineOrchestrator V) (cleaner : DataCleaner) (record : Record) (s : PipelineState (LRUDedup × V)) :
    (runCleaning (withCleaner base cleaner) record s).2.world.1 =
      (cleaner.clean (base.time s.world.2) record s.world.1).2 := by
  refine oneCall_leaves cleanerCache (fun start result => ?_) (fun start result => ?_)
    (fun e => handleStageError_cache _ _ _ _ _) (withCleaner base cleaner) s
  · refine (returns_read _).bind fun now => ?_
    split
    · exact (stageMetrics_returns _ _).bind fun _ => route_and_stop_returns _ _ _ _
    · exact (stageMetrics_returns _ _).bind fun _ => returns_pure _
  · refine (clock_frames _).bind fun now => ?_
    split
    · exact (stageMetrics_cache _ _).bind fun _ => (routeToDlq_cache _ _ _ _ _).bind fun _ => frames_pure _
    · exact (stageMetrics_cache _ _).bind fun _ => frames_pure _

theorem runCleaning_stops (record : Record) (s : PipelineState (LRUDedup × V))
    (ran : runCleaning (withCleaner base cleaner) record s = (.ok none,t)) :
    (∃ result, (cleaner.clean (base.time s.world.2) record s.world.1).1 = .ok result ∧ result.isDuplicate = true) ∨
      Halts (withCleaner base cleaner)
        (.cleaned record (cleaner.clean (base.time s.world.2) record s.world.1).1) := by
  refine oneCall_yields (· = none → _) (withCleaner base cleaner) s ?_ ?_ ran rfl
  · intro e raised _ _ _ handled stopped
    refine .inr ⟨.cleaning,?_,handleStageError_stops _ _ _ _ _ _ _ handled stopped⟩
    have same : (cleaner.clean (base.time s.world.2) record s.world.1).1 = .error e := raised
    rw [same]
    rfl
  · intro start result called
    constructor
    · refine (returns_read _).bind fun _ => ?_
      split
      · exact (stageMetrics_returns _ _).bind fun _ => route_and_stop_returns _ _ _ _
      · exact (stageMetrics_returns _ _).bind fun _ => returns_pure _
    · refine yields_bind fun _ => ?_
      split
      · rename_i duplicate
        exact yields_bind fun _ => yields_bind fun _ => yields_pure fun _ => .inl ⟨result,called,duplicate⟩
      · exact yields_bind fun _ => yields_pure fun stopped => by cases stopped

-- What one call does to the cache and sees of the cleaner: nothing, or one
-- cleaning. A key that was not held is no duplicate, and unless the run ends on
-- a failure under halt its record completes.
def CleaningParts (base : PipelineOrchestrator V) (cleaner : DataCleaner) (before after : LRUDedup)
    (result : PipelineResult) (seen : List Observation) : Prop :=
  ((∀ r out, .cleaned r out ∉ seen) ∧ after = before) ∨
    ∃ r out, .cleaned r out ∈ seen ∧ (∀ r' out', .cleaned r' out' ∈ seen → r' = r ∧ out' = out) ∧
      (∀ k ∈ after.cache.keys, k = cleaner.computeDedupKey r ∨ k ∈ before.cache.keys) ∧
      (cleaner.computeDedupKey r ∉ before.cache.keys →
        (∀ cleaned, out = .ok cleaned → cleaned.isDuplicate = false) ∧
        (result.success = true ∨ ∃ call ∈ seen, Halts (withCleaner base cleaner) call))

theorem cleaned_place {call : Observation} (place : call.rank ≠ 2) : ∀ r out, call ≠ .cleaned r out := by
  rintro r out rfl
  exact place rfl

theorem CleaningParts.early (parts : CleaningParts base cleaner before after result seen)
    (places : ∀ call ∈ first, call.rank ≠ 2) : CleaningParts base cleaner before after result (first ++ seen) := by
  have other : ∀ r out, .cleaned r out ∉ first := fun r out member => cleaned_place (places _ member) r out rfl
  rcases parts with ⟨none,same⟩ | ⟨r,out,member,unique,keys,fresh⟩
  · refine .inl ⟨fun r out member => ?_,same⟩
    rcases List.mem_append.mp member with early | late
    · exact other r out early
    · exact none r out late
  · refine .inr ⟨r,out,List.mem_append_right _ member,fun r' out' found => ?_,keys,fun absent => ?_⟩
    · rcases List.mem_append.mp found with early | late
      · exact absurd early (other r' out')
      · exact unique r' out' late
    · obtain ⟨original,ends⟩ := fresh absent
      refine ⟨original,ends.imp_right ?_⟩
      rintro ⟨call,found,halts⟩
      exact ⟨call,List.mem_append_right _ found,halts⟩

def Cleans (base : PipelineOrchestrator V) (cleaner : DataCleaner) (m : Pipeline (LRUDedup × V) PipelineResult) : Prop :=
  ∀ s, ∃ result t seen, m s = (.ok result,t) ∧ t.seen = s.seen ++ seen ∧
    CleaningParts base cleaner s.world.1 t.world.1 result seen

theorem orFail_cleans {ran : Pipeline (LRUDedup × V) (Option Record)}
    {next : Record → Pipeline (LRUDedup × V) PipelineResult} (returns : Returns ran)
    (cache : Frames cleanerCache ran) (adds : Adds observations (fun call => call.rank ≠ 2) ran)
    (rest : ∀ record, Cleans base cleaner (next record)) :
    Cleans base cleaner (orFail (withCleaner base cleaner) txnId place error start ran next) := by
  intro s
  have same := cache s
  obtain ⟨first,seen,places⟩ := adds s
  obtain ⟨out,t,did⟩ := returns s
  rw [did] at same seen
  cases out with
  | none =>
    rw [orFail_none did]
    exact ⟨_,t,first,rfl,seen,.inl ⟨fun r out member => cleaned_place (places _ member) r out rfl,same⟩⟩
  | some record =>
    obtain ⟨result,u,more,went,further,parts⟩ := rest record t
    have start : t.seen = s.seen ++ first := seen
    have before : t.world.1 = s.world.1 := same
    rw [orFail_some did]
    rw [before] at parts
    exact ⟨result,u,first ++ more,went,by rw [further,start,List.append_assoc],parts.early places⟩

theorem fromCleaning_cleans {next : Record → Pipeline (LRUDedup × V) PipelineResult}
    (rest : ∀ record, Carries base cleaner (fun result => result.success = true) (next record)) (record : Record) :
    Cleans base cleaner
      (orFail (withCleaner base cleaner) txnId place error start (runCleaning (withCleaner base cleaner) record) next) := by
  intro s
  have seen := runCleaning_seen (withCleaner base cleaner) record s
  have cache := runCleaning_cache base cleaner record s
  obtain ⟨keys,original⟩ := cleaner.clean_parts (base.time s.world.2) record s.world.1
  obtain ⟨out,t,did⟩ := runCleaning_returns (withCleaner base cleaner) record s
  rw [did] at seen cache
  have unique : ∀ calls : List Observation, (∀ call ∈ calls, 3 ≤ call.rank) → ∀ r' out',
      .cleaned r' out' ∈ .cleaned record ((withCleaner base cleaner).cleaner record s.world).1 :: calls →
      r' = record ∧ out' = ((withCleaner base cleaner).cleaner record s.world).1 := by
    intro calls late r' out' member
    rcases List.mem_cons.mp member with same | after
    · cases same; exact ⟨rfl,rfl⟩
    · exact absurd (late _ after) (by simp [Observation.rank])
  have held : ∀ k ∈ t.world.1.cache.keys, k = cleaner.computeDedupKey record ∨ k ∈ s.world.1.cache.keys := by
    rw [show t.world.1 = _ from cache]
    exact keys
  cases out with
  | none =>
    rw [orFail_none did]
    refine ⟨_,t,_,rfl,seen,.inr ⟨record,_,List.mem_cons_self,unique [] (by simp),held,fun absent => ?_⟩⟩
    refine ⟨original absent,.inr ⟨_,List.mem_cons_self,?_⟩⟩
    rcases runCleaning_stops record s did with ⟨result,called,duplicate⟩ | halts
    · rw [original absent result called] at duplicate
      cases duplicate
    · exact halts
  | some left =>
    obtain ⟨result,u,calls,went,same,further,late,ends⟩ := rest left t
    have start : t.seen = s.seen ++ [.cleaned record ((withCleaner base cleaner).cleaner record s.world).1] := seen
    rw [orFail_some did]
    refine ⟨result,u,_ :: calls,went,by rw [further,start,List.append_assoc]; rfl,.inr ⟨record,_,List.mem_cons_self,
      unique calls late,by rw [same]; exact held,fun absent => ⟨original absent,ends.imp_right ?_⟩⟩⟩
    rintro ⟨call,member,halts⟩
    exact ⟨call,List.mem_cons_of_mem _ member,halts⟩

theorem processStages_cleans (base : PipelineOrchestrator V) (cleaner : DataCleaner) (txnId : Value) (start : Rat) (record : Record) :
    Cleans base cleaner (processStages (withCleaner base cleaner) txnId start record) := by
  refine orFail_cleans ?_ (runValidation_cache base cleaner record) ?_ fun record => ?_
  · exact (returns_read _).bind fun _ => Returns.attempt fun _ => handleStageError_returns _ _ _ _
  · exact (runValidation_adds _ record).mono fun call place => by omega
  refine orFail_cleans ?_ (runRulesEngine_cache base cleaner record) ?_ fun record => ?_
  · exact (returns_read _).bind fun _ => Returns.attempt fun _ => handleStageError_returns _ _ _ _
  · exact oneCall_adds (runRulesEngine_seen _ record) fun _ => by simp [Observation.rank]
  exact fromCleaning_cleans (finish_carries txnId start) record

theorem processRecord_cleans (base : PipelineOrchestrator V) (cleaner : DataCleaner) (record : Record) :
    Cleans base cleaner (processRecord (withCleaner base cleaner) record) := by
  refine fun s => ?_
  obtain ⟨result,t,seen,ran,grown,parts⟩ := processStages_cleans base cleaner
    (transactionId (withCleaner base cleaner) record s.world) ((withCleaner base cleaner).perfCounter s.world) record s
  refine ⟨result,t,seen,?_,grown,parts⟩
  exact attempt_ok _ ran

end Cleaning

-- The invariant of a run: every key the cache holds completed in an earlier call.
def KeysCompleted (cleaner : DataCleaner) (calls : List Call) (dedup : LRUDedup) : Prop :=
  ∀ k ∈ dedup.cache.keys, ∃ prior ∈ calls, prior.result.success = true ∧ prior.Cleaned cleaner k

-- The condition on a call: no stage from cleaning on failed under halt.
def Spared (p : PipelineOrchestrator W) (call : Call) : Prop := ∀ seen ∈ call.seen, ¬Halts p seen

instance (p : PipelineOrchestrator W) (call : Call) : Decidable (Spared p call) :=
  inferInstanceAs (Decidable (∀ seen ∈ call.seen, ¬Halts p seen))

theorem call_preserves {base : PipelineOrchestrator V} {cleaner : DataCleaner}
    (valid : KeysCompleted cleaner calls before) (parts : CleaningParts base cleaner before after result seen)
    (spared : ∀ call ∈ seen, ¬Halts (withCleaner base cleaner) call) :
    KeysCompleted cleaner (calls ++ [⟨record,result,seen⟩]) after := by
  have older : ∀ k ∈ before.cache.keys, ∃ prior ∈ calls ++ [⟨record,result,seen⟩],
      prior.result.success = true ∧ prior.Cleaned cleaner k := by
    intro k held
    obtain ⟨prior,member,completed⟩ := valid k held
    exact ⟨prior,List.mem_append_left _ member,completed⟩
  rcases parts with ⟨_,rfl⟩ | ⟨r,out,member,_,keys,fresh⟩
  · exact older
  · intro k held
    by_cases known : k ∈ before.cache.keys
    · exact older k known
    · rcases keys k held with rfl | old
      · rcases (fresh known).2 with success | ⟨call,found,halts⟩
        · exact ⟨_,List.mem_append_right _ (List.mem_singleton_self _),success,r,out,member,rfl⟩
        · exact absurd halts (spared call found)
      · exact absurd old known

theorem call_duplicate {base : PipelineOrchestrator V} {cleaner : DataCleaner}
    (valid : KeysCompleted cleaner calls before) (parts : CleaningParts base cleaner before after result seen)
    (member : .cleaned r (.ok cleaned) ∈ seen) (duplicate : cleaned.isDuplicate = true) :
    ∃ prior ∈ calls, prior.result.success = true ∧ prior.Cleaned cleaner (cleaner.computeDedupKey r) := by
  rcases parts with ⟨none,_⟩ | ⟨r',out,_,unique,_,fresh⟩
  · exact absurd member (none _ _)
  · obtain ⟨rfl,rfl⟩ := unique _ _ member
    by_cases known : cleaner.computeDedupKey r ∈ before.cache.keys
    · exact valid _ known
    · have original := (fresh known).1 cleaned rfl
      rw [original] at duplicate
      cases duplicate

theorem calls_completed {base : PipelineOrchestrator V} {cleaner : DataCleaner}
    (path : Calls (withCleaner base cleaner) (.fresh size) calls dedup)
    (spared : ∀ call ∈ calls, Spared (withCleaner base cleaner) call) :
    KeysCompleted cleaner calls dedup ∧ DuplicatesCompleted cleaner calls := by
  induction path with
  | nil =>
    refine ⟨fun k held => absurd held (by simp [LRUDedup.fresh,OrderedDict.keys,OrderedDict.empty]),?_⟩
    intro earlier call later split
    simp at split
  | @call earlier record s t result seen path ran grown ih =>
    obtain ⟨valid,completed⟩ := ih fun call member => spared call (List.mem_append_left _ member)
    obtain ⟨result',t',seen',ran',grown',parts⟩ := processRecord_cleans base cleaner record s
    rw [ran] at ran'
    cases ran'
    have same : seen' = seen := List.append_cancel_left (grown'.symm.trans grown)
    subst same
    have here := spared ⟨record,result,seen'⟩ (List.mem_append_right _ (List.mem_singleton_self _))
    refine ⟨call_preserves valid parts here,?_⟩
    intro first call later split r cleaned member duplicate
    rcases List.eq_nil_or_concat later with rfl | ⟨rest,last,rfl⟩
    · obtain ⟨rfl,last⟩ := List.append_inj' split rfl
      cases last
      exact call_duplicate valid parts member duplicate
    · have inside : earlier = first ++ call :: rest := by
        have whole : earlier ++ [⟨record,result,seen'⟩] = (first ++ call :: rest) ++ [last] := by
          rw [split]; simp
        exact (List.append_inj' whole rfl).1
      exact completed first call rest inside r cleaned member duplicate

-- From a fresh cache on: when no call fails under halt from its cleaning stage
-- on, only records whose key completed before are called duplicates.
theorem duplicates_completed {base : PipelineOrchestrator V} {cleaner : DataCleaner}
    (path : Calls (withCleaner base cleaner) (.fresh size) calls dedup)
    (spared : ∀ call ∈ calls, Spared (withCleaner base cleaner) call) : DuplicatesCompleted cleaner calls :=
  (calls_completed path spared).2

def replay (base : PipelineOrchestrator V) (cleaner : DataCleaner) : List (Record × V) → LRUDedup → List Call × LRUDedup
  | [],dedup => ([],dedup)
  | (record,v) :: rest,dedup =>
    match processRecord (withCleaner base cleaner) record (.start (dedup,v)) with
    | (.ok result,t) => (⟨record,result,t.seen⟩ :: (replay base cleaner rest t.world.1).1,(replay base cleaner rest t.world.1).2)
    | (.error _,_) => ([],dedup)

theorem replay_calls {base : PipelineOrchestrator V} {cleaner : DataCleaner} (records : List (Record × V))
    (path : Calls (withCleaner base cleaner) start calls dedup) :
    Calls (withCleaner base cleaner) start (calls ++ (replay base cleaner records dedup).1)
      (replay base cleaner records dedup).2 := by
  induction records generalizing calls dedup with
  | nil => simpa [replay] using path
  | cons head rest ih =>
    obtain ⟨record,v⟩ := head
    rcases ran : processRecord (withCleaner base cleaner) record (.start (dedup,v)) with ⟨outcome,t⟩
    cases outcome with
    | error e => simpa [replay,ran] using path
    | ok result =>
      have next : Calls (withCleaner base cleaner) start (calls ++ [⟨record,result,t.seen⟩]) t.world.1 :=
        .call (s:=.start (dedup,v)) path ran rfl
      have whole := ih next
      simpa [replay,ran] using whole

theorem replay_path (base : PipelineOrchestrator V) (cleaner : DataCleaner) (records : List (Record × V)) (size : Int) :
    Calls (withCleaner base cleaner) (.fresh size) (replay base cleaner records (.fresh size)).1
      (replay base cleaner records (.fresh size)).2 := by
  have path := replay_calls records (@Calls.nil V (withCleaner base cleaner) (.fresh size))
  exact path

-- A cleaner with the default fields; on the record below the text functions of
-- the language are these.
def plainCleaner : DataCleaner where
  text := ⟨fun v => match v with | .str text => text | _ => "",id,id,fun _ =>
    "822225bab47b1bbfb344683d8164731cf8f2d5ec5edb82aef029b585c30b96eb"⟩
  idempotencyFields := DataCleaner.defaultIdempotencyFields
  fixEncoding := fun record => .ok (record,[])
  trimWhitespace := fun record => .ok (record,[])
  standardizeStrings := fun record => .ok (record,[])
  parseDates := fun record => .ok (record,[])
  imputeMissing := fun record => .ok (record,[])
  cleanNumerics := fun record => .ok (record,[])
  sanitizeStrings := fun record => .ok (record,[])

def plainRecord : Record :=
  .ofList [("external_transaction_id",.str "t-1001"),("account_id",.str "a-77"),("transaction_amount",.str "125.50"),
    ("transaction_timestamp",.str "2026-01-15 10:30:00")]

def Call.duplicate (call : Call) : Bool :=
  call.seen.any fun seen => match seen with | .cleaned _ (.ok result) => result.isDuplicate | _ => false

theorem duplicates_completed_twice :
    (replay accepting plainCleaner [(plainRecord,()),(plainRecord,())] (.fresh 100000)).1.map Call.duplicate =
        [false,true] ∧
      DuplicatesCompleted plainCleaner
        (replay accepting plainCleaner [(plainRecord,()),(plainRecord,())] (.fresh 100000)).1 :=
  ⟨by decide +kernel,duplicates_completed (replay_path accepting plainCleaner _ _) (by decide +kernel)⟩

-- Feature engineering fails while its store is down, under the halt policy.
def featuresDown : PipelineOrchestrator Bool :=
  {accepting with
    featureEngineer := fun _ down => (.ok ⟨.empty,if down then some "feature store unavailable" else none⟩,down)
    errorPolicy := errorPolicies (.ofList [("feature_engineering",.halt)])}

theorem call_duplicate_exact (call : Call) (duplicate : call.duplicate = true) :
    ∃ r result, .cleaned r (.ok result) ∈ call.seen ∧ result.isDuplicate = true := by
  obtain ⟨seen,member,found⟩ := List.any_eq_true.mp duplicate
  cases seen with
  | cleaned r outcome =>
    cases outcome with
    | ok result => exact ⟨r,result,member,found⟩
    | error e => cases found
  | _ => cases found

-- The record fails after cleaning, and its replay with the store up again is
-- called a duplicate.
theorem failed_record_is_duplicate :
    ∃ calls dedup, Calls (withCleaner featuresDown plainCleaner) (.fresh 100000) calls dedup ∧
      ¬DuplicatesCompleted plainCleaner calls := by
  have path := replay_path featuresDown plainCleaner [(plainRecord,true),(plainRecord,false)] 100000
  have verdicts : (replay featuresDown plainCleaner [(plainRecord,true),(plainRecord,false)] (.fresh 100000)).1.map
      (fun call => (call.result.success,call.duplicate)) = [(false,false),(false,true)] := by decide +kernel
  refine ⟨_,_,path,fun completed => ?_⟩
  obtain ⟨first,rest,split,failed,others⟩ := List.map_eq_cons_iff.mp verdicts
  obtain ⟨second,last,inner,found,none⟩ := List.map_eq_cons_iff.mp others
  obtain ⟨r,result,member,duplicate⟩ := call_duplicate_exact second (congrArg Prod.snd found)
  obtain ⟨prior,earlier,success,_⟩ := completed [first] second last (by rw [split,inner]; rfl) r result
    member duplicate
  have refused : first.result.success = false := congrArg Prod.fst failed
  rw [List.mem_singleton.mp earlier,refused] at success
  cases success

end PipelineOrchestrator
end RiskPulse
