import Mathlib.Algebra.BigOperators.Group.List.Lemmas
import Mathlib.Algebra.Group.Int.Defs
import Mathlib.Algebra.Group.Pi.Basic
import Mathlib.Algebra.Ring.Int.Defs
import RiskPulse.Library.Accrual
import RiskPulse.PipelineStages

namespace RiskPulse.PipelineOrchestrator
open Effect
variable {W : Type}

-- A result says it went to the dead-letter queue exactly when it failed.
def Marked (result : PipelineResult) : Prop := result.dlq = !result.success

theorem orFail_yields {p : PipelineOrchestrator W} {good : PipelineResult → Prop}
    {ran : Pipeline W (Option Record)} {next : Record → Pipeline W PipelineResult}
    (failure : ∀ now, good ⟨txnId,false,.empty,some stage.value,some error,true,(now - start) * 1000⟩)
    (rest : ∀ record, Yields good (next record)) :
    Yields good (orFail p txnId stage error start ran next) := by
  refine yields_bind fun outcome => ?_
  cases outcome with
  | none => exact yields_bind fun now => yields_pure (failure now)
  | some record => exact rest record

theorem processStages_marked (p : PipelineOrchestrator W) (txnId : Value) (start : Rat) (record : Record) :
    Yields Marked (processStages p txnId start record) := by
  iterate 6 refine orFail_yields (fun _ => rfl) fun record => ?_
  exact yields_bind fun stamp => yields_bind fun now => yields_pure rfl

theorem processRecord_marked (p : PipelineOrchestrator W) (record : Record) :
    Yields Marked (processRecord p record) := by
  refine yields_bind fun start => yields_bind fun txnId => Yields.attempt (processStages_marked _ _ _ _) fun e => ?_
  exact yields_bind fun now => yields_bind fun _ => yields_pure rfl

theorem processRecord_files (p : PipelineOrchestrator W) (record : Record) (s : PipelineState W) :
    ∃ result t, processRecord p record s = (.ok result,t) ∧ result.dlq = !result.success ∧
      ((result.success = false ∧ ∃ entry, t.dlq = s.dlq ++ [entry]) ∨
        (result.success = true ∧ t.dlq = s.dlq)) := by
  obtain ⟨result,t,ran⟩ := processRecord_returns p record s
  refine ⟨result,t,ran,processRecord_marked p record s result t ran,?_⟩
  have accounts := processRecord_accounted p record s
  rw [ran] at accounts
  rcases accounts with failed | ⟨fine,kept⟩
  · exact .inl failed
  · exact .inr ⟨by simpa [unsuccessful] using fine,kept⟩

theorem add_success (counts : BatchCounts) (result : PipelineResult) (fine : result.success = true) :
    (counts.add result).succeeded = counts.succeeded + 1 ∧ (counts.add result).failed = counts.failed ∧
      (counts.add result).dlqCount = counts.dlqCount := by simp [BatchCounts.add,fine]

theorem add_failure (counts : BatchCounts) (result : PipelineResult) (bad : result.success = false)
    (marked : result.dlq = true) :
    (counts.add result).succeeded = counts.succeeded ∧ (counts.add result).failed = counts.failed + 1 ∧
      (counts.add result).dlqCount = counts.dlqCount + 1 := by simp [BatchCounts.add,bad,marked]

-- The loop of process_batch, by induction on the records still to come.
theorem processRecords_counts (p : PipelineOrchestrator W) (records : List Record) (counts : BatchCounts)
    (s : PipelineState W) :
    ∃ final t added, processRecords p records counts s = (.ok final,t) ∧ t.dlq = s.dlq ++ added ∧
      final.succeeded + final.failed = counts.succeeded + counts.failed + records.length ∧
      final.dlqCount = counts.dlqCount + added.length := by
  induction records generalizing counts s with
  | nil => exact ⟨counts,s,[],rfl,by simp,by simp,by simp⟩
  | cons record rest ih =>
    obtain ⟨result,u,ran,marked,filed⟩ := processRecord_files p record s
    obtain ⟨final,t,added,looped,grown,totals,letters⟩ := ih (counts.add result) u
    have unfolded : processRecords p (record :: rest) counts s = (.ok final,t) := by
      rw [processRecords,bind_ok _ ran,looped]
    rcases filed with ⟨bad,entry,one⟩ | ⟨fine,kept⟩
    · obtain ⟨sameSucceeded,moreFailed,moreLetters⟩ := add_failure counts result bad (by rw [marked,bad]; rfl)
      refine ⟨final,t,entry :: added,unfolded,by rw [grown,one]; simp,?_,?_⟩
      · simp only [List.length_cons]; omega
      · simp only [List.length_cons]; omega
    · obtain ⟨moreSucceeded,sameFailed,sameLetters⟩ := add_success counts result fine
      refine ⟨final,t,added,unfolded,by rw [grown,kept],?_,by omega⟩
      simp only [List.length_cons]; omega

theorem processBatch_files (p : PipelineOrchestrator W) (records : List Record) (s : PipelineState W) :
    ∃ batch t added, processBatch p records s = (.ok batch,t) ∧ t.dlq = s.dlq ++ added ∧
      batch.total = records.length ∧ batch.total = batch.succeeded + batch.failed ∧
      batch.dlqCount = added.length := by
  obtain ⟨final,t,added,looped,grown,totals,letters⟩ := processRecords_counts p records ⟨[],0,0,0⟩
    {s with metrics := {s.metrics with
      pipelineStartTime := p.perfCounter s.world
      totalIngested := records.length
      stageMetrics := PipelineStage.all.foldl
        (fun built stage => built.set stage.value (.start stage.value)) s.metrics.stageMetrics}}
  refine ⟨?batch,?t,added,?ran,?grown,?total,?split,?letters⟩
  case ran =>
    unfold processBatch clock
    simp only [read_bind,modify_bind]
    rw [bind_ok _ looped]
    rfl
  case grown => exact grown
  case total => rfl
  case split => simpa using totals.symm
  case letters => simpa using letters

theorem dead_letter_accounting (p : PipelineOrchestrator W) :
    (∀ record s, ∃ result t, processRecord p record s = (.ok result,t) ∧
      ((result.success = false ∧ ∃ entry, t.dlq = s.dlq ++ [entry]) ∨
        (result.success = true ∧ t.dlq = s.dlq))) ∧
    (∀ records s, ∃ batch t added, processBatch p records s = (.ok batch,t) ∧ t.dlq = s.dlq ++ added ∧
      batch.total = records.length ∧ batch.total = batch.succeeded + batch.failed ∧
      batch.dlqCount = added.length) := by
  refine ⟨fun record s => ?_,processBatch_files p⟩
  obtain ⟨result,t,ran,_,filed⟩ := processRecord_files p record s
  exact ⟨result,t,ran,filed⟩

end RiskPulse.PipelineOrchestrator

namespace RiskPulse

namespace Observation

-- The stage a component belongs to; validation and rules are the two parts of one.
def stage : Observation → PipelineStage
  | .validated _ _ | .quarantined _ _ | .evaluated _ _ => .validation
  | .cleaned _ _ => .cleaning
  | .normalized _ _ => .normalization
  | .featured _ _ => .featureEngineering
  | .geoEnriched _ _ | .deviceEnriched _ _ | .merchantEnriched _ _ | .velocityEvaluated _ _ => .enrichment

-- The call every record that enters the stage comes to first.
def enters : Observation → Bool
  | .validated _ _ | .cleaned _ _ | .normalized _ _ | .featured _ _ | .geoEnriched _ _ => true
  | .quarantined _ _ | .evaluated _ _ | .deviceEnriched _ _ | .merchantEnriched _ _ | .velocityEvaluated _ _ => false

def failed : Except String α → Bool
  | .ok _ => false
  | .error _ => true

-- A call that raises, so that its record is not counted; the rules come after it was.
def raises : Observation → Bool
  | .validated _ outcome => failed outcome
  | .quarantined _ outcome => failed outcome
  | .evaluated _ _ => false
  | .cleaned _ outcome => failed outcome
  | .normalized _ outcome => failed outcome
  | .featured _ outcome => failed outcome
  | .geoEnriched _ outcome => failed outcome
  | .deviceEnriched _ outcome => failed outcome
  | .merchantEnriched _ outcome => failed outcome
  | .velocityEvaluated _ outcome => failed outcome

-- A rule evaluation that returns, which counts its record once more.
def repeats : Observation → Bool
  | .evaluated _ outcome => !failed outcome
  | _ => false

end Observation

namespace PipelineOrchestrator
open Effect
variable {W : Type}

def one (b : Bool) : Int := if b then 1 else 0

def single (place : PipelineStage) : PipelineStage → Int := fun stage => if stage = place then 1 else 0

-- What a call adds to the records counted at each stage.
def weight (o : Observation) : PipelineStage → Int := fun stage =>
  if stage = o.stage then one o.enters - one o.raises + one o.repeats else 0

def tally (m : StageMetrics) : Nat := m.recordsProcessed + m.recordsFailed + m.recordsSkipped

def counted (s : PipelineState W) (stage : PipelineStage) : Int :=
  match s.metrics.stageMetrics.get? stage.value with
  | some m => tally m
  | none => 0

def balance (s : PipelineState W) : PipelineStage → Int := counted s - (s.seen.map weight).sum

-- Every stage has its metrics.
def Ready (s : PipelineState W) : Prop := ∀ stage : PipelineStage, ∃ m, s.metrics.stageMetrics.get? stage.value = some m

theorem value_inj (stage other : PipelineStage) : stage.value = other.value ↔ stage = other := by
  cases stage <;> cases other <;> decide

theorem same_metrics (s t : PipelineState W) (same : t.metrics = s.metrics) (ready : Ready s) : Ready t ∧ counted t = counted s := by
  refine ⟨?_,?_⟩
  · unfold Ready
    rw [same]
    exact ready
  · unfold counted
    rw [same]

theorem callComponent_shifts (component : Component W α β) (argument : α) (observe : Except String β → Observation) :
    Shifts Ready balance (callComponent component argument observe) fun out => -weight (observe out) := by
  intro s ready
  rw [callComponent_run]
  obtain ⟨still,same⟩ := same_metrics s {s with
    world := (component argument s.world).2
    seen := s.seen ++ [observe (component argument s.world).1]} rfl ready
  refine ⟨still,?_⟩
  unfold balance
  rw [same,List.map_append,List.sum_append,List.map_singleton,List.sum_singleton,sub_add_eq_sub_sub,sub_eq_add_neg _ (weight _)]

theorem changeStageMetrics_shifts (place : PipelineStage) (change : StageMetrics → StageMetrics) (adds : ∀ m, tally (change m) = tally m + 1) :
    Shifts Ready balance (changeStageMetrics (W:=W) place.value change) fun _ => single place := by
  intro s ready
  obtain ⟨m,here⟩ := ready place
  have ran : (changeStageMetrics (W:=W) place.value change s).2 =
      {s with metrics := {s.metrics with stageMetrics := s.metrics.stageMetrics.set place.value (change m)}} := by
    simp only [changeStageMetrics,Effect.modify,here]
  rw [ran]
  refine ⟨?_,?_⟩
  · intro stage
    change ∃ m, (s.metrics.stageMetrics.set place.value (change _)).get? stage.value = some m
    rw [OrderedDict.get?_set]
    split
    · exact ⟨_,rfl⟩
    · exact ready stage
  · funext stage
    change counted _ stage - _ = counted s stage - _ + single place stage
    have moved : counted {s with metrics := {s.metrics with stageMetrics := s.metrics.stageMetrics.set place.value (change m)}} stage =
        counted s stage + single place stage := by
      unfold counted single
      simp only [OrderedDict.get?_set,value_inj]
      by_cases same : stage = place
      · subst same
        simp only [if_true,here]
        rw [adds]
        rfl
      · simp only [same,if_false,add_zero]
    rw [moved]
    exact sub_add_eq_add_sub (counted s stage) _ _ |>.symm

theorem recordStageSuccess_shifts (place : PipelineStage) (latencyMs : Rat) :
    Shifts Ready balance (recordStageSuccess (W:=W) place.value latencyMs) fun _ => single place :=
  changeStageMetrics_shifts place _ fun m => by simp only [tally,StageMetrics.recordSuccess]; omega

theorem recordStageFailure_shifts (place : PipelineStage) :
    Shifts Ready balance (recordStageFailure (W:=W) place.value) fun _ => single place :=
  changeStageMetrics_shifts place _ fun m => by simp only [tally,StageMetrics.recordFailure]; omega

theorem recordStageSkip_shifts (place : PipelineStage) :
    Shifts Ready balance (recordStageSkip (W:=W) place.value) fun _ => single place :=
  changeStageMetrics_shifts place _ fun m => by simp only [tally,StageMetrics.recordSkip]; omega

theorem routeToDlq_balanced (p : PipelineOrchestrator W) (record : Record) (stage reason : String) :
    Balanced Ready balance (routeToDlq p record stage reason) := by
  intro s ready
  obtain ⟨w,ran⟩ := routeToDlq_run p record stage reason s
  rw [ran]
  obtain ⟨still,same⟩ := same_metrics s {s with world := w,dlq := s.dlq ++ [⟨p.uuid4Hex s.world,record,stage,reason,p.time s.world⟩]} rfl ready
  refine ⟨still,?_⟩
  unfold balance
  rw [same,add_zero]

theorem route_and_stop_balanced (p : PipelineOrchestrator W) (record : Record) (stage reason : String) :
    Balanced Ready balance (routeToDlq p record stage reason >>= fun _ => pure (none : Option Record)) :=
  (routeToDlq_balanced p record stage reason).bind fun _ => shifts_pure _

theorem handleStageError_balanced (p : PipelineOrchestrator W) (stage : String) (record : Record) (error : String) :
    Balanced Ready balance (handleStageError p stage record error) := by
  unfold handleStageError
  split
  · exact route_and_stop_balanced p record stage error
  · exact shifts_pure _

theorem clock_balanced (p : PipelineOrchestrator W) : Balanced Ready balance (clock p) := shifts_read _

-- The record is counted, and nothing else.
theorem counting {count : Pipeline W Unit} {rest : Pipeline W α} (place : PipelineStage) (counts : Shifts Ready balance count fun _ => single place)
    (calm : Balanced Ready balance rest) : Shifts Ready balance (count >>= fun _ => rest) fun _ => single place :=
  counts.bind (fun _ => calm) (fun _ => rfl) fun _ _ => add_zero _

theorem read_shifts {f : PipelineState W → β} {rest : β → Pipeline W α} {d : Except String α → PipelineStage → Int}
    (each : ∀ b, Shifts Ready balance (rest b) d) : Shifts Ready balance (read f >>= rest) d := fun s ready => each (f s) s ready

-- A stage that calls one component counts its record where the call returns.
theorem oneCall_balanced {component : Component W α β} {observe : Except String β → Observation} {used : Rat → β → Pipeline W (Option Record)}
    {handler : String → Pipeline W (Option Record)} (p : PipelineOrchestrator W) (place : PipelineStage)
    (returned : ∀ b, weight (observe (.ok b)) = single place) (raised : ∀ e, weight (observe (.error e)) = 0)
    (counts : ∀ start b, Shifts Ready balance (used start b) fun _ => single place) (calm : ∀ e, Balanced Ready balance (handler e)) :
    Balanced Ready balance (clock p >>= fun start => attempt (callComponent component argument observe >>= used start) handler) := by
  refine (clock_balanced p).bind fun start => Balanced.attempt ?_ calm
  refine (callComponent_shifts component argument observe).bind (counts start) ?_ ?_
  · intro e
    rw [raised,neg_zero]
  · intro b out
    rw [returned,neg_add_cancel]

-- What is counted either way.
theorem deciding {bad : Prop} [Decidable bad] {failing passing : Pipeline W Unit} {stop : Pipeline W (Option Record)} {out : Record}
    (place : PipelineStage) (failed : Shifts Ready balance failing fun _ => single place)
    (passed : Shifts Ready balance passing fun _ => single place) (stops : Balanced Ready balance stop) :
    Shifts Ready balance (if bad then failing >>= fun _ => stop else passing >>= fun _ => pure (some out)) fun _ => single place := by
  split
  · exact counting place failed stops
  · exact counting place passed (shifts_pure _)

theorem weight_only (o : Observation) (place : PipelineStage) (here : o.stage = place) (counts : one o.enters - one o.raises + one o.repeats = 1) :
    weight o = single place := by
  funext stage
  rw [weight,single,here,counts]

theorem weight_none (o : Observation) (nothing : one o.enters - one o.raises + one o.repeats = 0) : weight o = 0 := by
  funext stage
  rw [weight,nothing]
  exact ite_self 0

section Stages
variable (p : PipelineOrchestrator W) (record : Record)

-- A rejected record is counted once the quarantine has it.
theorem runValidation_balanced : Balanced Ready balance (runValidation p record) := by
  apply oneCall_balanced p .validation
  · exact fun b => weight_only _ _ rfl rfl
  · exact fun e => weight_none _ rfl
  · intro start result
    apply read_shifts
    intro now
    split
    · refine (callComponent_shifts p.quarantine (record,result) (.quarantined record)).bind (e := fun _ _ => single .validation) ?_ ?_ ?_
      · intro _
        exact counting .validation (recordStageFailure_shifts .validation) (route_and_stop_balanced _ _ _ _)
      · intro e
        have lost : weight (.quarantined record (.error e)) = -single .validation := by
          funext stage
          change (if stage = .validation then (-1 : Int) else 0) = -(if stage = .validation then (1 : Int) else 0)
          split
          · rfl
          · rfl
        rw [lost,neg_neg]
      · intro _ _
        rw [weight_none _ rfl,neg_zero,zero_add]
    · exact counting .validation (recordStageSuccess_shifts .validation _) (shifts_pure _)
  · exact fun e => handleStageError_balanced _ _ _ _

theorem runRulesEngine_balanced : Balanced Ready balance (runRulesEngine p record) := by
  apply oneCall_balanced p .validation
  · exact fun b => weight_only _ _ rfl rfl
  · exact fun e => weight_none _ rfl
  · intro start result
    apply read_shifts
    intro now
    exact deciding .validation (recordStageFailure_shifts .validation) (recordStageSuccess_shifts .validation _) (route_and_stop_balanced _ _ _ _)
  · exact fun e => handleStageError_balanced _ _ _ _

theorem runCleaning_balanced : Balanced Ready balance (runCleaning p record) := by
  apply oneCall_balanced p .cleaning
  · exact fun b => weight_only _ _ rfl rfl
  · exact fun e => weight_none _ rfl
  · intro start result
    apply read_shifts
    intro now
    exact deciding .cleaning (recordStageSkip_shifts .cleaning) (recordStageSuccess_shifts .cleaning _) (route_and_stop_balanced _ _ _ _)
  · exact fun e => handleStageError_balanced _ _ _ _

theorem runNormalization_balanced : Balanced Ready balance (runNormalization p record) := by
  apply oneCall_balanced p .normalization
  · exact fun b => weight_only _ _ rfl rfl
  · exact fun e => weight_none _ rfl
  · intro start result
    apply read_shifts
    intro now
    exact counting .normalization (recordStageSuccess_shifts .normalization _) (shifts_pure _)
  · exact fun e => handleStageError_balanced _ _ _ _

theorem runFeatureEngineering_balanced : Balanced Ready balance (runFeatureEngineering p record) := by
  apply oneCall_balanced p .featureEngineering
  · exact fun b => weight_only _ _ rfl rfl
  · exact fun e => weight_none _ rfl
  · intro start result
    apply read_shifts
    intro now
    exact deciding .featureEngineering (recordStageFailure_shifts .featureEngineering) (recordStageSuccess_shifts .featureEngineering _)
      (handleStageError_balanced _ _ _ _)
  · exact fun e => handleStageError_balanced _ _ _ _

-- What the enrichers owe the count when one of them has raised.
def owed : Except String α → PipelineStage → Int
  | .ok _ => 0
  | .error _ => single .enrichment

theorem report_shifts {component : Component W Record β} {observe : Except String β → Observation} {d : Except String (Option Record) → PipelineStage → Int}
    (report : β → Option Record) (returned : ∀ b, -weight (observe (.ok b)) = d (.ok (report b)))
    (raised : ∀ e, -weight (observe (.error e)) = d (.error e)) :
    Shifts Ready balance (callComponent component record observe >>= fun b => pure (report b)) d := by
  intro s ready
  obtain ⟨kept,moved⟩ := callComponent_shifts component record observe s ready
  rw [bind_pure]
  refine ⟨kept,moved.trans ?_⟩
  rcases callComponent component record observe s with ⟨e | b,t⟩
  · exact congrArg (balance s + ·) (raised e)
  · exact congrArg (balance s + ·) (returned b)

theorem weight_lost (o : Observation) (here : o.stage = .enrichment) (loses : one o.enters - one o.raises + one o.repeats = -1) :
    -weight o = single .enrichment := by
  funext stage
  change -(if stage = o.stage then one o.enters - one o.raises + one o.repeats else 0) = if stage = .enrichment then (1 : Int) else 0
  rw [here,loses]
  split
  · rfl
  · rfl

-- The calls of the enrichers after the first.
theorem mergeReports_shifts (steps : List (Record → Pipeline W (Option Record))) (each : ∀ step ∈ steps, ∀ r, Shifts Ready balance (step r) owed)
    (record : Record) (s : PipelineState W) (ready : Ready s) : Ready (mergeReports steps record s).2 ∧
      balance (mergeReports steps record s).2 = balance s +
        match (mergeReports steps record s).1.2 with
        | none => 0
        | some _ => single .enrichment := by
  induction steps generalizing record s with
  | nil => exact ⟨ready,(add_zero _).symm⟩
  | cons step rest ih =>
    obtain ⟨kept,moved⟩ := each step List.mem_cons_self record s ready
    rcases ran : step record s with ⟨e | report,t⟩
    · rw [ran] at kept moved
      simp only [mergeReports,ran]
      exact ⟨kept,moved⟩
    · rw [ran] at kept moved
      have later := ih (fun other member => each other (List.mem_cons_of_mem _ member)) (merge record report) t kept
      have start : balance t = balance s := moved.trans (add_zero _)
      simp only [mergeReports,ran]
      rw [start] at later
      exact later

theorem mergeAll_shifts : Shifts Ready balance (mergeAll p record) fun out => match out with
    | .ok (_,none) => -single .enrichment
    | _ => 0 := by
  have first : Shifts Ready balance (geoReport p record) fun out => match out with
      | .ok _ => -single .enrichment
      | .error _ => 0 := by
    apply report_shifts
    · exact fun b => congrArg Neg.neg (weight_only _ _ rfl rfl)
    · exact fun e => by rw [weight_none _ rfl,neg_zero]
  have later : ∀ step ∈ [deviceReport p,merchantReport p,velocityReport p], ∀ r, Shifts Ready balance (step r) owed := by
    intro step member r
    have silent : ∀ o : Observation, one o.enters - one o.raises + one o.repeats = 0 → -weight o = 0 := by
      intro o nothing
      rw [weight_none o nothing,neg_zero]
    rcases List.mem_cons.mp member with rfl | member
    · exact report_shifts r _ (fun b => silent _ rfl) fun e => weight_lost _ rfl rfl
    · rcases List.mem_cons.mp member with rfl | member
      · exact report_shifts r _ (fun b => silent _ rfl) fun e => weight_lost _ rfl rfl
      · cases List.mem_singleton.mp member
        exact report_shifts r _ (fun b => silent _ rfl) fun e => weight_lost _ rfl rfl
  intro s ready
  obtain ⟨kept,moved⟩ := first s ready
  change Ready (mergeReports (enrichers p) record s).2 ∧ balance (mergeReports (enrichers p) record s).2 = _
  rcases ran : geoReport p record s with ⟨e | report,t⟩
  · rw [ran] at kept moved
    simp only [mergeAll,enrichers,mergeReports,ran]
    exact ⟨kept,moved⟩
  · rw [ran] at kept moved
    obtain ⟨still,further⟩ := mergeReports_shifts _ later (merge record report) t kept
    have unfolded : mergeReports (enrichers p) record s = mergeReports [deviceReport p,merchantReport p,velocityReport p] (merge record report) t := by
      simp only [enrichers,mergeReports,ran]
    simp only [mergeAll]
    rw [unfolded]
    refine ⟨still,further.trans ?_⟩
    rw [moved]
    rcases mergeReports [deviceReport p,merchantReport p,velocityReport p] (merge record report) t with ⟨⟨merged,raised⟩,u⟩
    cases raised with
    | none => rw [add_zero]
    | some e => rw [add_assoc,neg_add_cancel]

theorem runEnrichment_balanced : Balanced Ready balance (runEnrichment p record) := by
  rw [runEnrichment_eq]
  refine (clock_balanced p).bind fun start => (mergeAll_shifts p record).bind (e := fun merged _ => match merged.2 with
    | none => single .enrichment
    | some _ => 0) ?_ (fun _ => rfl) ?_
  · intro merged
    obtain ⟨record,raised⟩ := merged
    cases raised with
    | some e => exact handleStageError_balanced _ _ _ _
    | none =>
      apply read_shifts
      intro now
      exact counting .enrichment (recordStageSuccess_shifts .enrichment _) (shifts_pure _)
  · intro merged out
    obtain ⟨record,raised⟩ := merged
    cases raised with
    | some e => exact add_zero _
    | none => exact neg_add_cancel _

theorem orFail_balanced {ran : Pipeline W (Option Record)} {next : Record → Pipeline W PipelineResult} (stageRan : Balanced Ready balance ran)
    (rest : ∀ record, Balanced Ready balance (next record)) (txnId : Value) (stage : PipelineStage) (error : String) (start : Rat) :
    Balanced Ready balance (orFail p txnId stage error start ran next) := by
  refine stageRan.bind fun outcome => ?_
  cases outcome with
  | none => exact (clock_balanced p).bind fun _ => shifts_pure _
  | some record => exact rest record

theorem processRecord_balanced : Balanced Ready balance (processRecord p record) := by
  refine (clock_balanced p).bind fun start => Balanced.bind (shifts_read _) fun txnId => Balanced.attempt ?_ fun e => ?_
  · refine orFail_balanced p (runValidation_balanced p record) (fun record => ?_) _ _ _ _
    refine orFail_balanced p (runRulesEngine_balanced p record) (fun record => ?_) _ _ _ _
    refine orFail_balanced p (runCleaning_balanced p record) (fun record => ?_) _ _ _ _
    refine orFail_balanced p (runNormalization_balanced p record) (fun record => ?_) _ _ _ _
    refine orFail_balanced p (runFeatureEngineering_balanced p record) (fun record => ?_) _ _ _ _
    refine orFail_balanced p (runEnrichment_balanced p record) (fun record => ?_) _ _ _ _
    exact Balanced.bind (shifts_read _) fun stamp => (clock_balanced p).bind fun now => shifts_pure _
  · exact (clock_balanced p).bind fun now => (routeToDlq_balanced _ _ _ _).bind fun _ => shifts_pure _

end Stages

theorem processRecords_balanced (p : PipelineOrchestrator W) (records : List Record) (counts : BatchCounts) :
    Balanced Ready balance (processRecords p records counts) := by
  induction records generalizing counts with
  | nil => exact shifts_pure counts
  | cons record rest ih => exact (processRecord_balanced p record).bind fun result => ih (counts.add result)

def anything (_ : Observation) : Prop := True

theorem processRecord_adds (p : PipelineOrchestrator W) (record : Record) : Adds observations anything (processRecord p record) := by
  refine (clock_frames p).adds.bind fun start => Adds.bind (frames_read _).adds fun txnId => Adds.attempt ?_ fun e => ?_
  · refine orFail_adds ((runValidation_adds p record).mono fun _ _ => trivial) fun record => ?_
    refine orFail_adds (oneCall_adds (runRulesEngine_seen p record) fun _ => trivial) fun record => ?_
    refine orFail_adds (oneCall_adds (runCleaning_seen p record) fun _ => trivial) fun record => ?_
    refine orFail_adds (oneCall_adds (runNormalization_seen p record) fun _ => trivial) fun record => ?_
    refine orFail_adds (oneCall_adds (runFeatureEngineering_seen p record) fun _ => trivial) fun record => ?_
    refine orFail_adds ((runEnrichment_adds p record).mono fun _ _ => trivial) fun record => ?_
    exact Adds.bind (frames_read _).adds fun stamp => (clock_frames p).adds.bind fun now => (frames_pure _).adds
  · exact (clock_frames p).adds.bind fun now => ((routeToDlq_seen _ _ _ _).bind fun _ => frames_pure _).adds

theorem processRecords_adds (p : PipelineOrchestrator W) (records : List Record) (counts : BatchCounts) :
    Adds observations anything (processRecords p records counts) := by
  induction records generalizing counts with
  | nil => exact (frames_pure counts).adds
  | cons record rest ih => exact (processRecord_adds p record).bind fun result => ih (counts.add result)

-- The component calls of one batch.
def batchCalls (p : PipelineOrchestrator W) (records : List Record) (s : PipelineState W) : List Observation :=
  (processBatch p records s).2.seen.drop s.seen.length

-- The state in which the loop over the records starts.
def opened (p : PipelineOrchestrator W) (records : List Record) (s : PipelineState W) : PipelineState W :=
  {s with metrics := {s.metrics with
    pipelineStartTime := p.perfCounter s.world
    totalIngested := records.length
    stageMetrics := PipelineStage.all.foldl (fun built stage => built.set stage.value (.start stage.value)) s.metrics.stageMetrics}}

theorem opened_fresh (p : PipelineOrchestrator W) (records : List Record) (s : PipelineState W) (stage : PipelineStage) :
    (opened p records s).metrics.stageMetrics.get? stage.value = some (.start stage.value) := by
  cases stage <;> simp [opened,PipelineStage.all,OrderedDict.get?_set,value_inj]

-- The records counted at a stage are the weight of the batch's calls.
theorem processBatch_counted (p : PipelineOrchestrator W) (records : List Record) (s : PipelineState W) :
    ∃ batch t, processBatch p records s = (.ok batch,t) ∧ ∀ stage : PipelineStage, ∃ m,
      batch.metrics.stageMetrics.get? stage.value = some m ∧ (tally m : Int) = ((batchCalls p records s).map weight).sum stage := by
  obtain ⟨counts,t,_,looped,_⟩ := processRecords_counts p records ⟨[],0,0,0⟩ (opened p records s)
  have ready : Ready (opened p records s) := fun stage => ⟨_,opened_fresh p records s stage⟩
  obtain ⟨kept,moved⟩ := processRecords_balanced p records ⟨[],0,0,0⟩ (opened p records s) ready
  obtain ⟨added,grown,_⟩ := processRecords_adds p records ⟨[],0,0,0⟩ (opened p records s)
  rw [looped] at kept moved grown
  have ran : ∃ batch u, processBatch p records s = (.ok batch,u) ∧ batch.metrics.stageMetrics = t.metrics.stageMetrics ∧ u.seen = t.seen := by
    refine ⟨?batch,?state,?ran,?metrics,?seen⟩
    case ran =>
      unfold processBatch clock
      simp only [read_bind,modify_bind]
      change (processRecords p records ⟨[],0,0,0⟩ >>= _) (opened p records s) = _
      rw [bind_ok _ looped]
      rfl
    case metrics => rfl
    case seen => rfl
  obtain ⟨batch,u,called,metrics,seen⟩ := ran
  have calls : batchCalls p records s = added := by
    rw [batchCalls,called]
    change u.seen.drop s.seen.length = added
    rw [seen,show t.seen = s.seen ++ added from grown,List.drop_left]
  refine ⟨batch,u,called,fun stage => ?_⟩
  obtain ⟨m,found⟩ := kept stage
  refine ⟨m,by rw [metrics]; exact found,?_⟩
  have level := congrFun moved stage
  have after : counted t stage = tally m := by
    unfold counted
    rw [show t.metrics.stageMetrics.get? stage.value = some m from found]
  have before : counted (opened p records s) stage = 0 := by
    unfold counted
    rw [opened_fresh]
    rfl
  have split : (t.seen.map weight).sum = (s.seen.map weight).sum + (added.map weight).sum := by
    rw [show t.seen = s.seen ++ added from grown,List.map_append,List.sum_append]
  change counted t stage - (t.seen.map weight).sum stage = counted (opened p records s) stage - (s.seen.map weight).sum stage + 0 at level
  rw [after,before,split,Pi.add_apply] at level
  rw [calls]
  omega

-- The records of the batch that entered a stage, the calls of the stage's components
-- that raise, and the rule evaluations that return.
def callsAt (kind : Observation → Bool) (stage : PipelineStage) (calls : List Observation) : Nat :=
  calls.countP fun o => decide (stage = o.stage) && kind o

def entered (stage : PipelineStage) (calls : List Observation) : Nat := callsAt Observation.enters stage calls

def lost (stage : PipelineStage) (calls : List Observation) : Nat := callsAt Observation.raises stage calls

def again (stage : PipelineStage) (calls : List Observation) : Nat := callsAt Observation.repeats stage calls

theorem callsAt_cons (kind : Observation → Bool) (stage : PipelineStage) (o : Observation) (rest : List Observation) :
    (callsAt kind stage (o :: rest) : Int) = callsAt kind stage rest + if stage = o.stage then one (kind o) else 0 := by
  unfold callsAt
  rw [List.countP_cons]
  by_cases here : stage = o.stage
  · cases given : kind o with
    | true => simp [here,one]
    | false => simp [here,one]
  · simp [here]

theorem weight_counts (stage : PipelineStage) (calls : List Observation) :
    (calls.map weight).sum stage = entered stage calls - lost stage calls + again stage calls := by
  induction calls with
  | nil => rfl
  | cons o rest ih =>
    unfold entered lost again at ih ⊢
    rw [List.map_cons,List.sum_cons,Pi.add_apply,ih,callsAt_cons,callsAt_cons,callsAt_cons,weight]
    split
    · omega
    · omega

-- After the batch each stage's metrics account for the records that entered it.
def StagesAccounted (p : PipelineOrchestrator W) (records : List Record) (s : PipelineState W) : Prop :=
  ∃ batch t, processBatch p records s = (.ok batch,t) ∧ ∀ stage : PipelineStage, ∃ m,
    batch.metrics.stageMetrics.get? stage.value = some m ∧
      m.recordsProcessed + m.recordsFailed + m.recordsSkipped = entered stage (batchCalls p records s)

-- Outside the validation stage no call raises, and in it as many rule evaluations return
-- as validator and quarantine calls raise.
structure Answering (calls : List Observation) : Prop where
  elsewhere : ∀ o ∈ calls, o.stage ≠ .validation → o.raises = false
  validation : again .validation calls = lost .validation calls

theorem repeats_validation (o : Observation) (twice : o.repeats = true) : o.stage = .validation := by
  cases o with
  | evaluated record outcome => rfl
  | _ => cases twice

theorem answering_counts (calls : List Observation) : Answering calls ↔ ∀ stage, lost stage calls = again stage calls := by
  have never : ∀ stage, stage ≠ .validation → again stage calls = 0 := by
    intro stage other
    apply List.countP_eq_zero.mpr
    intro o _ both
    obtain ⟨at',twice⟩ := Bool.and_eq_true_iff.mp both
    exact other ((of_decide_eq_true at').trans (repeats_validation o twice))
  constructor
  · intro answering stage
    by_cases first : stage = .validation
    · subst first
      exact answering.validation.symm
    · rw [never stage first]
      apply List.countP_eq_zero.mpr
      intro o member both
      obtain ⟨at',raised⟩ := Bool.and_eq_true_iff.mp both
      rw [answering.elsewhere o member (by rw [← of_decide_eq_true at']; exact first)] at raised
      cases raised
  · intro equal
    refine ⟨?_,(equal .validation).symm⟩
    intro o member other
    have none := (equal o.stage).trans (never o.stage other)
    have passed := List.countP_eq_zero.mp none o member
    simpa using passed

theorem stages_accounted (p : PipelineOrchestrator W) (records : List Record) (s : PipelineState W) :
    StagesAccounted p records s ↔ Answering (batchCalls p records s) := by
  obtain ⟨batch,t,ran,counts⟩ := processBatch_counted p records s
  rw [answering_counts]
  constructor
  · rintro ⟨batch',t',ran',accounts⟩ stage
    rw [ran] at ran'
    cases ran'
    obtain ⟨m,found,sum⟩ := counts stage
    obtain ⟨m',found',total⟩ := accounts stage
    rw [found] at found'
    cases found'
    rw [weight_counts,tally,total] at sum
    omega
  · intro equal
    refine ⟨batch,t,ran,fun stage => ?_⟩
    obtain ⟨m,found,sum⟩ := counts stage
    refine ⟨m,found,?_⟩
    rw [weight_counts,equal stage,tally] at sum
    omega

def talliesOf (p : PipelineOrchestrator Unit) (records : List Record) (stage : PipelineStage) : Option Nat :=
  (processBatch p records (.start ())).1.toOption.bind fun batch => (batch.metrics.stageMetrics.get? stage.value).map tally

def failingCleaner : PipelineOrchestrator Unit := {accepting with cleaner := raising "lookup failed"}

def identifiedRecord : Record := .ofList [("transaction_id",.str "t-1")]

-- One accepted record is counted twice by the validation stage, and one whose cleaning
-- raises not at all by the cleaning stage.
theorem stages_miscount :
    talliesOf failingCleaner [identifiedRecord] .validation = some 2 ∧ entered .validation (batchCalls failingCleaner [identifiedRecord] (.start ())) = 1 ∧
      talliesOf failingCleaner [identifiedRecord] .cleaning = some 0 ∧ entered .cleaning (batchCalls failingCleaner [identifiedRecord] (.start ())) = 1 ∧
      ¬StagesAccounted failingCleaner [identifiedRecord] (.start ()) := by
  have twice : talliesOf failingCleaner [identifiedRecord] .validation = some 2 := by decide +kernel
  have once : entered .validation (batchCalls failingCleaner [identifiedRecord] (.start ())) = 1 := by decide +kernel
  refine ⟨twice,once,by decide +kernel,by decide +kernel,?_⟩
  rintro ⟨batch,t,ran,accounts⟩
  obtain ⟨m,found,sum⟩ := accounts .validation
  rw [talliesOf,ran] at twice
  change (batch.metrics.stageMetrics.get? PipelineStage.validation.value).map tally = some 2 at twice
  rw [found] at twice
  have same : tally m = 2 := Option.some.inj twice
  rw [once] at sum
  rw [tally,sum] at same
  cases same

end PipelineOrchestrator
end RiskPulse
