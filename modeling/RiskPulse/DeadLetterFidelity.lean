import RiskPulse.EnrichmentPreservation
import RiskPulse.RejectedRecords

namespace RiskPulse

namespace Record

-- The two records have the same fields with the same values.
def SameFields (a b : Record) : Prop := ∀ key, a.get? key = b.get? key

theorem sameFields_set (record : Record) (key : String) (v : Value) :
    SameFields (record.set key v) record ↔ record.get? key = some v := by
  constructor
  · intro same
    rw [← same key,OrderedDict.get?_set,if_pos rfl]
  · intro found other
    rw [OrderedDict.get?_set]
    split
    · rename_i equal
      rw [equal,found]
    · rfl

end Record

-- What a stage writes for the outcome of a call when it goes on with the record.
def Observation.writes : Observation → Record → Record
  | .validated _ (.ok result),record =>
    if result.isValid = false then record else record.set "_validation_warnings" (.int result.warnings.length)
  | .validated _ (.error e),record => record.set "_validation_error" (.str e)
  | .quarantined _ (.ok _),record => record
  | .quarantined _ (.error e),record => record.set "_validation_error" (.str e)
  | .evaluated _ (.ok result),record =>
    (record.set "_rules_triggered" (.int result.totalRulesTriggered)).set "_rules_action" (.str result.overallAction.value)
  | .evaluated _ (.error e),record => record.set "_validation_error" (.str e)
  | .cleaned _ (.ok result),_ => result.record
  | .cleaned _ (.error e),record => record.set "_cleaning_error" (.str e)
  | .normalized _ (.ok result),_ => result.record
  | .normalized _ (.error e),record => record.set "_normalization_error" (.str e)
  | .featured _ (.ok result),record =>
    if result.isSuccess = false then
      record.set "_feature_engineering_error" (.str (PipelineOrchestrator.featureError result))
    else (record.update result.features).set "_feature_count" (.int result.features.entries.length)
  | .featured _ (.error e),record => record.set "_feature_engineering_error" (.str e)
  | call,record => PipelineOrchestrator.merge record call.report?

namespace PipelineOrchestrator
open Effect Record
variable {W : Type}

-- The writes of the calls, in their order.
def written (calls : List Observation) (record : Record) : Record :=
  calls.foldl (fun record call => call.writes record) record

theorem written_append (first later : List Observation) (record : Record) :
    written (first ++ later) record = written later (written first record) := List.foldl_append

-- The call observes nothing and either hands the record on or files the one it got.
def Ends (record after : Record) (m : Pipeline W (Option Record)) : Prop :=
  ∀ s, ∃ out t, m s = (.ok out,t) ∧ t.seen = s.seen ∧
    ((out = some after ∧ t.dlq = s.dlq) ∨
      (out = none ∧ ∃ entry, t.dlq = s.dlq ++ [entry] ∧ entry.originalRecord = record))

theorem ends_pass (record after : Record) : Ends record after (pure (some after) : Pipeline W (Option Record)) :=
  fun s => ⟨_,s,rfl,rfl,.inl ⟨rfl,rfl⟩⟩

theorem ends_file (p : PipelineOrchestrator W) (record after : Record) (stage reason : String) :
    Ends record after (routeToDlq p record stage reason >>= fun _ => pure none) := by
  intro s
  obtain ⟨w,routed⟩ := routeToDlq_run p record stage reason s
  exact ⟨none,_,bind_ok _ routed,rfl,.inr ⟨rfl,_,rfl,rfl⟩⟩

theorem Ends.metrics {next : Unit → Pipeline W (Option Record)} (stage : String) (change : StageMetrics → StageMetrics)
    (ends : Ends record after (next ())) : Ends record after (changeStageMetrics stage change >>= next) := by
  intro s
  obtain ⟨u,ran⟩ : ∃ u, changeStageMetrics stage change s = (.ok (),u) := ⟨_,rfl⟩
  have seen := stageMetrics_seen stage change s
  have letters := stageMetrics_dlq stage change s
  rw [ran] at seen letters
  obtain ⟨out,t,finished,same,left⟩ := ends u
  refine ⟨out,t,by rw [bind_ok _ ran,finished],Eq.trans same seen,?_⟩
  have start : u.dlq = s.dlq := letters
  rwa [start] at left

theorem Ends.clock {next : Rat → Pipeline W (Option Record)} (p : PipelineOrchestrator W)
    (ends : ∀ now, Ends record after (next now)) : Ends record after (clock p >>= next) := fun s => ends _ s

theorem handleStageError_ends (p : PipelineOrchestrator W) (stage : String) (record : Record) (error : String) :
    Ends record (record.set ("_" ++ stage ++ "_error") (.str error)) (handleStageError p stage record error) := by
  unfold handleStageError
  split
  · exact ends_file p record _ stage error
  · exact ends_pass record _

-- The stage hands on what its calls wrote, or files the record all but the last of
-- them left.
def Relays (record : Record) (stage : Pipeline W (Option Record)) : Prop :=
  ∀ s, ∃ out t calls, stage s = (.ok out,t) ∧ t.seen = s.seen ++ calls ∧
    ((out = some (written calls record) ∧ t.dlq = s.dlq) ∨
      (out = none ∧ calls ≠ [] ∧ ∃ entry, t.dlq = s.dlq ++ [entry] ∧ entry.originalRecord = written calls.dropLast record))

theorem oneCall_relays {component : Component W α β} {observe : Except String β → Observation}
    {used : Rat → β → Pipeline W (Option Record)} {handler : String → Pipeline W (Option Record)}
    (p : PipelineOrchestrator W) (raised : ∀ e, Ends record ((observe (.error e)).writes record) (handler e))
    (returned : ∀ start b, Ends record ((observe (.ok b)).writes record) (used start b)) :
    Relays record (clock p >>= fun start => attempt (callComponent component argument observe >>= used start) handler) := by
  intro s
  rcases called : component argument s.world with ⟨outcome,w⟩
  cases outcome with
  | error e =>
    obtain ⟨out,t,ran,seen,left⟩ := raised e {s with world := w,seen := s.seen ++ [observe (.error e)]}
    refine ⟨out,t,[observe (.error e)],by rw [oneCall_raised p called,ran],seen,?_⟩
    rcases left with on | ⟨stopped,entry,filed,same⟩
    · exact .inl on
    · exact .inr ⟨stopped,by simp,entry,filed,same⟩
  | ok b =>
    obtain ⟨out,t,ran,seen,left⟩ := returned (p.perfCounter s.world) b
      {s with world := w,seen := s.seen ++ [observe (.ok b)]}
    refine ⟨out,t,[observe (.ok b)],oneCall_returned p called ran,seen,?_⟩
    rcases left with on | ⟨stopped,entry,filed,same⟩
    · exact .inl on
    · exact .inr ⟨stopped,by simp,entry,filed,same⟩

theorem runRulesEngine_relays (p : PipelineOrchestrator W) (record : Record) : Relays record (runRulesEngine p record) := by
  refine oneCall_relays p (fun e => handleStageError_ends p _ record e) fun start result => Ends.clock p fun now => ?_
  split
  · exact Ends.metrics _ _ (ends_file p record _ _ _)
  · exact Ends.metrics _ _ (ends_pass record _)

theorem runCleaning_relays (p : PipelineOrchestrator W) (record : Record) : Relays record (runCleaning p record) := by
  refine oneCall_relays p (fun e => handleStageError_ends p _ record e) fun start result => Ends.clock p fun now => ?_
  split
  · exact Ends.metrics _ _ (ends_file p record _ _ _)
  · exact Ends.metrics _ _ (ends_pass record _)

theorem runNormalization_relays (p : PipelineOrchestrator W) (record : Record) :
    Relays record (runNormalization p record) :=
  oneCall_relays p (fun e => handleStageError_ends p _ record e) fun _ _ => Ends.clock p fun _ =>
    Ends.metrics _ _ (ends_pass record _)

theorem runFeatureEngineering_relays (p : PipelineOrchestrator W) (record : Record) :
    Relays record (runFeatureEngineering p record) := by
  refine oneCall_relays p (fun e => handleStageError_ends p _ record e) fun start result => Ends.clock p fun now => ?_
  by_cases failed : result.isSuccess = false
  · rw [if_pos failed,Observation.writes,if_pos failed]
    exact Ends.metrics _ _ (handleStageError_ends p _ record _)
  · rw [if_neg failed,Observation.writes,if_neg failed]
    exact Ends.metrics _ _ (ends_pass record _)

-- An invalid record is stored in the quarantine first, which may raise.
theorem runValidation_invalid_relays (p : PipelineOrchestrator W) (record : Record) (s : PipelineState W)
    (checked : p.validator record s.world = (.ok result,w)) (invalid : result.isValid = false) :
    ∃ out t calls, runValidation p record s = (.ok out,t) ∧ t.seen = s.seen ++ calls ∧
      ((out = some (written calls record) ∧ t.dlq = s.dlq) ∨
        (out = none ∧ calls ≠ [] ∧
          ∃ entry, t.dlq = s.dlq ++ [entry] ∧ entry.originalRecord = written calls.dropLast record)) := by
  have validated := callComponent_run p.validator record (.validated record) s
  rw [checked] at validated
  have stored := callComponent_run p.quarantine (record,result) (.quarantined record)
    {s with world := w,seen := s.seen ++ [.validated record (.ok result)]}
  have unmarked : written [.validated record (.ok result)] record = record := if_pos invalid
  rcases outcome : p.quarantine (record,result) w with ⟨taken,w'⟩
  simp only [outcome] at stored
  cases taken with
  | ok _ =>
    have ends : Ends record record (recordStageFailure PipelineStage.validation.value >>= fun _ =>
        routeToDlq p record PipelineStage.validation.value ("Validation errors: " ++ toString result.errors.length) >>=
        fun _ => pure none) := Ends.metrics _ _ (ends_file p record record _ _)
    obtain ⟨out,t,ran,seen,left⟩ := ends
      {s with world := w',seen := s.seen ++ [.validated record (.ok result)] ++ [.quarantined record (.ok ())]}
    refine ⟨out,t,[.validated record (.ok result),.quarantined record (.ok ())],?_,by rw [seen]; simp,?_⟩
    · unfold runValidation clock
      rw [read_bind]
      refine attempt_ok _ ?_
      rw [bind_ok _ validated,read_bind,if_pos invalid,bind_ok _ stored]
      exact ran
    · rcases left with ⟨on,kept⟩ | ⟨stopped,entry,filed,same⟩
      · exact .inl ⟨on.trans (congrArg some unmarked.symm),kept⟩
      · exact .inr ⟨stopped,by simp,entry,filed,same.trans unmarked.symm⟩
  | error e =>
    obtain ⟨out,t,ran,seen,left⟩ := handleStageError_ends p PipelineStage.validation.value record e
      {s with world := w',seen := s.seen ++ [.validated record (.ok result)] ++ [.quarantined record (.error e)]}
    refine ⟨out,t,[.validated record (.ok result),.quarantined record (.error e)],?_,by rw [seen]; simp,?_⟩
    · unfold runValidation clock
      rw [read_bind]
      refine (attempt_error _ ?_).trans ran
      rw [bind_ok _ validated,read_bind,if_pos invalid,bind_error _ stored]
    · have marked : written [.validated record (.ok result),.quarantined record (.error e)] record =
          record.set "_validation_error" (.str e) := congrArg (fun r : Record => r.set "_validation_error" (.str e)) unmarked
      rcases left with ⟨on,kept⟩ | ⟨stopped,entry,filed,same⟩
      · exact .inl ⟨on.trans (congrArg some marked.symm),kept⟩
      · exact .inr ⟨stopped,by simp,entry,filed,same.trans unmarked.symm⟩

theorem runValidation_relays (p : PipelineOrchestrator W) (record : Record) : Relays record (runValidation p record) := by
  intro s
  rcases outcome : p.validator record s.world with ⟨checked,w⟩
  cases checked with
  | error e =>
    obtain ⟨out,t,ran,seen,left⟩ := handleStageError_ends p PipelineStage.validation.value record e
      {s with world := w,seen := s.seen ++ [.validated record (.error e)]}
    refine ⟨out,t,[.validated record (.error e)],(oneCall_raised p outcome).trans ran,seen,?_⟩
    rcases left with on | ⟨stopped,entry,filed,same⟩
    · exact .inl on
    · exact .inr ⟨stopped,by simp,entry,filed,same⟩
  | ok result =>
    by_cases invalid : result.isValid = false
    · exact runValidation_invalid_relays p record s outcome invalid
    · have ends : Ends record (record.set "_validation_warnings" (.int result.warnings.length))
          (recordStageSuccess (W:=W) PipelineStage.validation.value ((p.perfCounter w - p.perfCounter s.world) * 1000) >>=
            fun _ => pure (some (record.set "_validation_warnings" (.int result.warnings.length)))) :=
        Ends.metrics _ _ (ends_pass record _)
      obtain ⟨out,t,ran,seen,left⟩ := ends {s with world := w,seen := s.seen ++ [.validated record (.ok result)]}
      refine ⟨out,t,[.validated record (.ok result)],oneCall_returned p outcome ?_,seen,?_⟩
      · unfold clock
        rw [read_bind,if_neg invalid]
        exact ran
      · have marked : written [.validated record (.ok result)] record =
            record.set "_validation_warnings" (.int result.warnings.length) := if_neg invalid
        rcases left with ⟨on,kept⟩ | ⟨stopped,entry,filed,same⟩
        · exact .inl ⟨on.trans (congrArg some marked.symm),kept⟩
        · exact .inr ⟨stopped,by simp,entry,filed,same⟩

-- The enrichers up to the one that raises: what is filed is what those before it left.
theorem mergeReports_raised {kinds : List Enricher} {steps : List (Record → Pipeline W (Option Record))}
    (each : List.Forall₂ ReportStep kinds steps) (record : Record) (s : PipelineState W) :
    ∃ calls, (mergeReports steps record s).2.seen = s.seen ++ calls ∧ (mergeReports steps record s).2.dlq = s.dlq ∧
      ∀ e, (mergeReports steps record s).1.2 = some e →
        calls ≠ [] ∧ (mergeReports steps record s).1.1 = written calls.dropLast record := by
  induction each generalizing record s with
  | nil =>
    refine ⟨[],by simp [mergeReports],rfl,fun e raised => ?_⟩
    cases raised
  | @cons kind step kinds steps first rest ih =>
    obtain ⟨call,seen,ofKind,letters,outcome⟩ := first record s
    rcases ran : step record s with ⟨answer,t⟩
    rw [ran] at seen letters outcome
    rcases outcome with ⟨e,raised,unreported⟩ | reported
    · simp only at raised
      subst raised
      simp only [mergeReports,ran]
      exact ⟨[call],seen,letters,fun _ _ => ⟨by simp,rfl⟩⟩
    · simp only at reported
      subst reported
      obtain ⟨calls,further,same,filed⟩ := ih (merge record call.report?) t
      simp only [mergeReports,ran]
      have start : t.seen = s.seen ++ [call] := seen
      refine ⟨call :: calls,by rw [further,start,List.append_assoc]; rfl,Eq.trans same letters,fun e raised => ?_⟩
      obtain ⟨called,left⟩ := filed e raised
      refine ⟨by simp,?_⟩
      have writes : call.writes record = merge record call.report? := by
        cases call with
        | geoEnriched | deviceEnriched | merchantEnriched | velocityEvaluated => rfl
        | _ => cases ofKind
      rw [left,List.dropLast_cons_of_ne_nil called]
      exact congrArg (written calls.dropLast) writes.symm

-- What the calls of a run file is what all but the last of them left.
def Files (record : Record) (run : Pipeline W PipelineResult) : Prop :=
  ∀ s, ∃ result t calls filed, run s = (.ok result,t) ∧ t.seen = s.seen ++ calls ∧ t.dlq = s.dlq ++ filed ∧
    (filed ≠ [] → calls ≠ []) ∧ ∀ entry ∈ filed, entry.originalRecord = written calls.dropLast record

theorem orFail_files {p : PipelineOrchestrator W} {stage : Pipeline W (Option Record)}
    {next : Record → Pipeline W PipelineResult} (relays : Relays record stage) (rest : ∀ record, Files record (next record)) :
    Files record (orFail p txnId place error start stage next) := by
  intro s
  obtain ⟨out,t,calls,ran,seen,⟨rfl,kept⟩ | ⟨rfl,called,entry,filed,same⟩⟩ := relays s
  · obtain ⟨result,u,later,filed,finished,more,letters,some_called,left⟩ := rest (written calls record) t
    refine ⟨result,u,calls ++ later,filed,by rw [orFail_some ran,finished],by rw [more,seen,List.append_assoc],
      by rw [letters,kept],?_,?_⟩
    · intro some
      exact List.append_ne_nil_of_right_ne_nil _ (some_called some)
    · intro entry member
      have last := some_called (List.ne_nil_of_mem member)
      rw [List.dropLast_append_of_ne_nil last,written_append]
      exact left entry member
  · refine ⟨_,t,calls,[entry],orFail_none ran,seen,filed,fun _ => called,?_⟩
    intro other member
    rw [List.mem_singleton.mp member]
    exact same

theorem enrichment_files {p : PipelineOrchestrator W} {next : Record → Pipeline W PipelineResult}
    (last : ∀ record s, ∃ result t, next record s = (.ok result,t) ∧ t.seen = s.seen ∧ t.dlq = s.dlq) (record : Record) :
    Files record (orFail p txnId place error start (runEnrichment p record) next) := by
  intro s
  obtain ⟨calls,seen,letters,filed⟩ := mergeReports_raised (enrichers_report p) record s
  rcases outcome : mergeReports (enrichers p) record s with ⟨⟨left,raised⟩,u⟩
  rw [outcome] at seen letters filed
  have merged : mergeAll p record s = (.ok (left,raised),u) := by rw [mergeAll,outcome]
  have carried : ∃ out t, runEnrichment p record s = (.ok out,t) ∧ t.seen = s.seen ++ calls ∧
      ((∃ after, out = some after ∧ t.dlq = s.dlq) ∨ (out = none ∧ calls ≠ [] ∧
        ∃ entry, t.dlq = s.dlq ++ [entry] ∧ entry.originalRecord = written calls.dropLast record)) := by
    rw [runEnrichment_eq,clock,read_bind,bind_ok _ merged]
    cases raised with
    | some e =>
      obtain ⟨called,same⟩ := filed e rfl
      obtain ⟨out,t,ran,quiet,ends⟩ := handleStageError_ends p PipelineStage.enrichment.value left e u
      refine ⟨out,t,ran,Eq.trans quiet seen,?_⟩
      have start : u.dlq = s.dlq := letters
      rw [start] at ends
      rcases ends with ⟨on,kept⟩ | ⟨stopped,entry,made,original⟩
      · exact .inl ⟨_,on,kept⟩
      · exact .inr ⟨stopped,called,entry,made,original.trans same⟩
    | none =>
      have quiet := fun change => stageMetrics_seen (W:=W) PipelineStage.enrichment.value change u
      have still := fun change => stageMetrics_dlq (W:=W) PipelineStage.enrichment.value change u
      exact ⟨_,_,rfl,Eq.trans (quiet _) seen,.inl ⟨_,rfl,Eq.trans (still _) letters⟩⟩
  obtain ⟨out,t,ran,observed,⟨after,rfl,kept⟩ | ⟨rfl,called,entry,made,same⟩⟩ := carried
  · obtain ⟨result,v,finished,more,still⟩ := last after t
    exact ⟨result,v,calls,[],by rw [orFail_some ran,finished],by rw [more,observed],by rw [still,kept]; simp,
      fun absurdity => absurd rfl absurdity,fun entry member => (List.not_mem_nil member).elim⟩
  · refine ⟨_,t,calls,[entry],orFail_none ran,observed,made,fun _ => called,?_⟩
    intro other member
    rw [List.mem_singleton.mp member]
    exact same

theorem processStages_files (p : PipelineOrchestrator W) (txnId : Value) (start : Rat) (record : Record) :
    Files record (processStages p txnId start record) := by
  refine orFail_files (runValidation_relays p record) fun record => ?_
  refine orFail_files (runRulesEngine_relays p record) fun record => ?_
  refine orFail_files (runCleaning_relays p record) fun record => ?_
  refine orFail_files (runNormalization_relays p record) fun record => ?_
  refine orFail_files (runFeatureEngineering_relays p record) fun record => ?_
  exact enrichment_files (fun record s => ⟨_,s,rfl,rfl,rfl⟩) record

theorem processRecord_files_written (p : PipelineOrchestrator W) (record : Record) : Files record (processRecord p record) := by
  intro s
  obtain ⟨result,t,calls,filed,ran,left⟩ :=
    processStages_files p (transactionId p record s.world) (p.perfCounter s.world) record s
  exact ⟨result,t,calls,filed,attempt_ok _ ran,left⟩

-- The rules engine blocks a record that the validator passed.
def blocking : PipelineOrchestrator Unit := {accepting with rulesEngine := answer ⟨.block,["R-1"],1⟩}

end PipelineOrchestrator
end RiskPulse
