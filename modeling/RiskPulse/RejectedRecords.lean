import RiskPulse.PipelineStages

namespace RiskPulse

-- The schema validator found the record invalid, or the rules engine blocked it.
def Observation.Rejects : Observation → Prop
  | .validated _ (.ok result) => result.isValid = false
  | .evaluated _ (.ok result) => result.overallAction = .block
  | _ => False

theorem Observation.rejects_early (seen : Observation) (rejects : seen.Rejects) : seen.rank ≤ 1 := by
  cases seen with
  | validated _ _ | evaluated _ _ => simp [rank]
  | _ => cases rejects

namespace PipelineOrchestrator
open Effect
variable {W : Type}

-- Among the calls made for one record: a rejection makes the result a failure
-- and no component of a later stage was called.
def RejectionHolds (result : PipelineResult) (calls : List Observation) : Prop :=
  ∀ rejection ∈ calls, rejection.Rejects →
    result.success = false ∧ ∀ call ∈ calls, call.rank ≤ rejection.rank

-- The validator rejects, the quarantine handler raises, and the policy of the
-- validation stage is not halt: the except clause then takes the failure of the
-- handler for one of the validator and lets the record go on.
def QuarantineEscapes (p : PipelineOrchestrator W) (record : Record) (w : W) : Prop :=
  ∃ result, (p.validator record w).1 = .ok result ∧ result.isValid = false ∧
    (∃ e, (p.quarantine (record,result) (p.validator record w).2).1 = .error e) ∧
    p.errorPolicy.getD PipelineStage.validation.value .skip ≠ .halt

theorem handleStageError_halts (p : PipelineOrchestrator W) (record : Record) (error : String) (s : PipelineState W)
    (halts : p.errorPolicy.getD stage .skip = .halt) :
    ∃ t, handleStageError p stage record error s = (.ok none,t) ∧ t.seen = s.seen := by
  rw [handleStageError,if_pos halts]
  exact route_and_stop p record stage error s

theorem handleStageError_skips (p : PipelineOrchestrator W) (record : Record) (error : String) (s : PipelineState W)
    (skips : p.errorPolicy.getD stage .skip ≠ .halt) :
    handleStageError p stage record error s = (.ok (some (record.set ("_" ++ stage ++ "_error") (.str error))),s) := by
  rw [handleStageError,if_neg skips]
  rfl

-- What the validation stage does with a record the validator found invalid. It
-- stops unless the quarantine handler raises under a policy that goes on.
theorem runValidation_invalid (p : PipelineOrchestrator W) (record : Record) (s : PipelineState W)
    (checked : p.validator record s.world = (.ok result,w)) (invalid : result.isValid = false) :
    ∃ out t, runValidation p record s = (.ok out,t) ∧
      t.seen = s.seen ++ [.validated record (.ok result),.quarantined record (p.quarantine (record,result) w).1] ∧
      (out ≠ none ↔ QuarantineEscapes p record s.world) := by
  have validated := callComponent_run p.validator record (.validated record) s
  rw [checked] at validated
  have stored := callComponent_run p.quarantine (record,result) (.quarantined record)
    {s with world := w,seen := s.seen ++ [.validated record (.ok result)]}
  have policy : ∀ e, (p.quarantine (record,result) w).1 = .error e →
      (QuarantineEscapes p record s.world ↔ p.errorPolicy.getD PipelineStage.validation.value .skip ≠ .halt) := by
    intro e raised
    constructor
    · rintro ⟨_,_,_,_,skips⟩; exact skips
    · intro skips; exact ⟨result,by rw [checked],invalid,⟨e,by rw [checked]; exact raised⟩,skips⟩
  rcases outcome : p.quarantine (record,result) w with ⟨taken,w'⟩
  simp only [outcome] at stored policy
  cases taken with
  | ok _ =>
    obtain ⟨t,stopped,same⟩ := route_and_stop p record PipelineStage.validation.value
      ("Validation errors: " ++ toString result.errors.length)
      (recordStageFailure PipelineStage.validation.value
        {s with world := w',seen := s.seen ++ [.validated record (.ok result)] ++ [.quarantined record (.ok ())]}).2
    refine ⟨none,t,?_,?_,?_⟩
    · unfold runValidation clock
      rw [read_bind]
      refine attempt_ok _ ?_
      rw [bind_ok _ validated,read_bind,if_pos invalid,bind_ok _ stored]
      exact stopped
    · exact same.trans ((stageMetrics_seen _ _ _).trans (by simp [observations]))
    · constructor
      · intro absurdity; exact absurd rfl absurdity
      · rintro ⟨other,sameResult,_,⟨e,raised⟩,_⟩
        rw [checked] at sameResult raised
        cases sameResult
        rw [outcome] at raised
        cases raised
  | error e =>
    have handled : runValidation p record s = handleStageError p PipelineStage.validation.value record e
        {s with world := w',seen := s.seen ++ [.validated record (.ok result)] ++ [.quarantined record (.error e)]} := by
      unfold runValidation clock
      rw [read_bind]
      refine attempt_error _ ?_
      rw [bind_ok _ validated,read_bind,if_pos invalid,bind_error _ stored]
    rw [policy e rfl,handled]
    by_cases halts : p.errorPolicy.getD PipelineStage.validation.value .skip = .halt
    · obtain ⟨t,stopped,same⟩ := handleStageError_halts p record e _ halts
      exact ⟨none,t,stopped,by rw [same]; simp,by simp [halts]⟩
    · exact ⟨_,_,handleStageError_skips p record e _ halts,by simp,by simp [halts]⟩

theorem runValidation_checked (p : PipelineOrchestrator W) (record : Record) (s : PipelineState W)
    (passes : ¬(Observation.validated record (p.validator record s.world).1).Rejects) :
    ∃ out t, runValidation p record s = (.ok out,t) ∧
      t.seen = s.seen ++ [.validated record (p.validator record s.world).1] := by
  have validated := callComponent_run p.validator record (.validated record) s
  rcases outcome : p.validator record s.world with ⟨checked,w⟩
  rw [outcome] at validated passes
  cases checked with
  | error e =>
    obtain ⟨out,t,handled⟩ := handleStageError_returns p PipelineStage.validation.value record e
      {s with world := w,seen := s.seen ++ [.validated record (.error e)]}
    have kept := handleStageError_seen p PipelineStage.validation.value record e
      {s with world := w,seen := s.seen ++ [.validated record (.error e)]}
    rw [handled] at kept
    refine ⟨out,t,?_,kept⟩
    unfold runValidation clock
    rw [read_bind,attempt_error _ (bind_error _ validated)]
    exact handled
  | ok result =>
    have valid : ¬result.isValid = false := passes
    refine ⟨some (record.set "_validation_warnings" (.int result.warnings.length)),
      (recordStageSuccess PipelineStage.validation.value ((p.perfCounter w - p.perfCounter s.world) * 1000)
        {s with world := w,seen := s.seen ++ [.validated record (.ok result)]}).2,?_,stageMetrics_seen _ _ _⟩
    unfold runValidation clock
    rw [read_bind]
    refine attempt_ok _ ?_
    rw [bind_ok _ validated,read_bind,if_neg valid]
    rfl

theorem fromCleaning_adds (p : PipelineOrchestrator W) (txnId : Value) (start : Rat) (record : Record)
    {last : Record → Pipeline W PipelineResult} (quiet : ∀ r, Frames observations (last r)) :
    Adds observations (fun call => 2 ≤ call.rank)
      (orFail p txnId .cleaning "Cleaning failed" start (runCleaning p record) fun record =>
        orFail p txnId .normalization "Normalization failed" start (runNormalization p record) fun record =>
        orFail p txnId .featureEngineering "Feature engineering failed" start (runFeatureEngineering p record)
          fun record =>
        orFail p txnId .enrichment "Enrichment failed" start (runEnrichment p record) last) := by
  refine orFail_adds (oneCall_adds (runCleaning_seen p record) fun _ => by simp [Observation.rank]) fun record => ?_
  refine orFail_adds (oneCall_adds (runNormalization_seen p record) fun _ => by simp [Observation.rank]) fun record => ?_
  refine orFail_adds (oneCall_adds (runFeatureEngineering_seen p record) fun _ => by simp [Observation.rank])
    fun record => ?_
  exact orFail_adds ((runEnrichment_adds p record).mono fun _ same => by omega) fun record => (quiet record).adds

theorem runRulesEngine_blocks (p : PipelineOrchestrator W) (record : Record) (s : PipelineState W)
    (evaluated : p.rulesEngine record s.world = (.ok result,w)) (block : result.overallAction = .block) :
    ∃ t, runRulesEngine p record s = (.ok none,t) := by
  have called := callComponent_run p.rulesEngine record (.evaluated record) s
  rw [evaluated] at called
  obtain ⟨t,stopped,_⟩ := route_and_stop p record "rules_engine_block"
    ("Blocked by rules: " ++ reprIds result.triggeredRules)
    (recordStageFailure PipelineStage.validation.value
      {s with world := w,seen := s.seen ++ [.evaluated record (.ok result)]}).2
  refine ⟨t,?_⟩
  unfold runRulesEngine clock
  rw [read_bind]
  refine attempt_ok _ ?_
  rw [bind_ok _ called,read_bind,if_pos block]
  exact stopped

-- From the rules engine on: its call comes first, a block ends the run as a
-- failure, and everything after it belongs to later stages.
theorem fromRules_guarded (p : PipelineOrchestrator W) (record : Record) (s : PipelineState W)
    {next : Record → Pipeline W PipelineResult}
    (later : ∀ r, Adds observations (fun call => 2 ≤ call.rank) (next r)) :
    ∃ added, (orFail p txnId .validation error start (runRulesEngine p record) next s).2.seen =
        s.seen ++ .evaluated record (p.rulesEngine record s.world).1 :: added ∧
      (∀ call ∈ added, 2 ≤ call.rank) ∧
      ((Observation.evaluated record (p.rulesEngine record s.world).1).Rejects → added = [] ∧
        ∀ result, (orFail p txnId .validation error start (runRulesEngine p record) next s).1 = .ok result →
          result.success = false) := by
  have seen := runRulesEngine_seen p record s
  rcases ran : runRulesEngine p record s with ⟨outcome,t⟩
  rw [ran] at seen
  by_cases blocked : (Observation.evaluated record (p.rulesEngine record s.world).1).Rejects
  · rcases evaluated : p.rulesEngine record s.world with ⟨answer,w⟩
    rw [evaluated] at blocked seen
    cases answer with
    | error e => cases blocked
    | ok result =>
      obtain ⟨u,stopped⟩ := runRulesEngine_blocks p record s evaluated blocked
      rw [ran] at stopped
      cases stopped
      rw [orFail_none ran]
      exact ⟨[],seen,by simp,fun _ => ⟨rfl,fun result same => by cases same; rfl⟩⟩
  · rcases outcome with e | out
    · refine ⟨[],?_,by simp,fun rejects => absurd rejects blocked⟩
      rw [orFail,bind_error _ ran]
      exact seen
    · cases out with
      | none =>
        refine ⟨[],?_,by simp,fun rejects => absurd rejects blocked⟩
        rw [orFail_none ran]
        exact seen
      | some r =>
        obtain ⟨added,grown,all⟩ := later r t
        refine ⟨added,?_,all,fun rejects => absurd rejects blocked⟩
        have start : t.seen = s.seen ++ [.evaluated record (p.rulesEngine record s.world).1] := seen
        rw [orFail_some ran]
        refine grown.trans ?_
        rw [observations,start,List.append_assoc]
        rfl

def StopsAt (outcome : Except String PipelineResult) (calls : List Observation) : Prop :=
  ∀ rejection ∈ calls, rejection.Rejects →
    (∀ result, outcome = .ok result → result.success = false) ∧ ∀ call ∈ calls, call.rank ≤ rejection.rank

theorem later_stages (p : PipelineOrchestrator W) (txnId : Value) (start : Rat) (record : Record) :
    Adds observations (fun call => 2 ≤ call.rank)
      (orFail p txnId .cleaning "Cleaning failed" start (runCleaning p record) fun record =>
        orFail p txnId .normalization "Normalization failed" start (runNormalization p record) fun record =>
        orFail p txnId .featureEngineering "Feature engineering failed" start (runFeatureEngineering p record)
          fun record =>
        orFail p txnId .enrichment "Enrichment failed" start (runEnrichment p record) fun record => do
          let stamp ← Effect.read fun s => p.time s.world
          let record := (record.set "_pipeline_processed" (.bool true)).set
            "_pipeline_timestamp" (.float (.finite stamp))
          let now ← clock p
          pure ⟨txnId,true,record,none,none,false,(now - start) * 1000⟩) :=
  fromCleaning_adds p txnId start record fun _ =>
    (frames_read _).bind fun _ => (clock_frames p).bind fun _ => frames_pure _

-- A record the validator rejects: it is quarantined or fails, or it goes on.
theorem processStages_rejected (p : PipelineOrchestrator W) (txnId : Value) (start : Rat) (record : Record)
    (s : PipelineState W)
    (rejects : (Observation.validated record (p.validator record s.world).1).Rejects) :
    ∃ added, (processStages p txnId start record s).2.seen = s.seen ++ added ∧
      (StopsAt (processStages p txnId start record s).1 added ↔ ¬QuarantineEscapes p record s.world) := by
  unfold processStages
  rcases checked : p.validator record s.world with ⟨answer,w⟩
  rw [checked] at rejects
  cases answer with
  | error e => cases rejects
  | ok result =>
    obtain ⟨out,t,ran,seen,escapes⟩ := runValidation_invalid p record s checked rejects
    cases out with
    | none =>
      rw [orFail_none ran]
      refine ⟨_,seen,?_⟩
      have stays : ¬QuarantineEscapes p record s.world := fun escaped => escapes.mpr escaped rfl
      simp only [stays,not_false_eq_true,iff_true]
      intro rejection member _
      refine ⟨fun final same => by cases same; rfl,fun call called => ?_⟩
      simp only [List.mem_cons,List.not_mem_nil,or_false] at called
      rcases called with rfl | rfl
      · exact Nat.zero_le _
      · exact Nat.zero_le _
    | some r =>
      -- the record went on: the rules engine is called after the rejection
      obtain ⟨added,grown,_,_⟩ := fromRules_guarded p r t (later_stages p txnId start)
      rw [orFail_some ran]
      refine ⟨_,grown.trans (by rw [seen,List.append_assoc]),?_⟩
      have escaped : QuarantineEscapes p record s.world := escapes.mp (by simp)
      simp only [escaped,not_true_eq_false,iff_false]
      intro stops
      have order := (stops (.validated record (.ok result)) (by simp) rejects).2
        (.evaluated r (p.rulesEngine r t.world).1) (by simp)
      exact absurd order (by simp [Observation.rank])

theorem processStages_checked (p : PipelineOrchestrator W) (txnId : Value) (start : Rat) (record : Record)
    (s : PipelineState W)
    (rejects : ¬(Observation.validated record (p.validator record s.world).1).Rejects) :
    ∃ added, (processStages p txnId start record s).2.seen = s.seen ++ added ∧
      (StopsAt (processStages p txnId start record s).1 added ↔ ¬QuarantineEscapes p record s.world) := by
  unfold processStages
  have stays : ¬QuarantineEscapes p record s.world := by
    rintro ⟨result,checked,invalid,_⟩
    rw [checked] at rejects
    exact rejects invalid
  simp only [stays,not_false_eq_true,iff_true]
  obtain ⟨out,t,ran,seen⟩ := runValidation_checked p record s rejects
  cases out with
  | none =>
    rw [orFail_none ran]
    refine ⟨_,seen,?_⟩
    intro rejection member isRejection
    rw [List.mem_singleton.mp member] at isRejection
    exact absurd isRejection rejects
  | some r =>
    obtain ⟨added,grown,later,blocked⟩ := fromRules_guarded p r t (later_stages p txnId start)
    rw [orFail_some ran]
    refine ⟨_,grown.trans (by rw [seen,List.append_assoc]),?_⟩
    intro rejection member isRejection
    simp only [List.cons_append,List.nil_append,List.mem_cons] at member
    rcases member with rfl | rfl | after
    · exact absurd isRejection rejects
    · obtain ⟨rfl,failed⟩ := blocked isRejection
      refine ⟨failed,fun call called => ?_⟩
      simp only [List.cons_append,List.nil_append,List.mem_cons,List.not_mem_nil,or_false] at called
      rcases called with rfl | rfl
      · exact Nat.zero_le _
      · exact Nat.le_refl _
    · have early := rejection.rejects_early isRejection
      have late := later rejection after
      omega

theorem processStages_guarded (p : PipelineOrchestrator W) (txnId : Value) (start : Rat) (record : Record)
    (s : PipelineState W) :
    ∃ added, (processStages p txnId start record s).2.seen = s.seen ++ added ∧
      (StopsAt (processStages p txnId start record s).1 added ↔ ¬QuarantineEscapes p record s.world) := by
  by_cases rejects : (Observation.validated record (p.validator record s.world).1).Rejects
  · exact processStages_rejected p txnId start record s rejects
  · exact processStages_checked p txnId start record s rejects

-- The exact condition: a rejected record stops unless the quarantine handler
-- raises on it under a validation policy other than halt.
theorem rejected_records_stop (p : PipelineOrchestrator W) (record : Record) (s : PipelineState W) :
    ∃ result t calls, processRecord p record s = (.ok result,t) ∧ t.seen = s.seen ++ calls ∧
      (RejectionHolds result calls ↔ ¬QuarantineEscapes p record s.world) := by
  obtain ⟨result,t,ran,seen,same,success⟩ := processRecord_stages p record s
  obtain ⟨calls,grown,exactly⟩ :=
    processStages_guarded p (transactionId p record s.world) (p.perfCounter s.world) record s
  refine ⟨result,t,calls,ran,seen.trans grown,?_⟩
  rw [← exactly]
  -- the handler around the stages turns their exception into a failure, and
  -- passes their result on unchanged
  have agrees : (∀ final, (processStages p (transactionId p record s.world) (p.perfCounter s.world) record s).1 =
      .ok final → final.success = false) ↔ result.success = false := by
    constructor
    · intro failing
      cases outcome : result.success with
      | false => rfl
      | true => rw [← failing result (by rw [success outcome]),outcome]
    · intro failed final returned
      rw [same final returned]
      exact failed
  constructor
  · intro holds rejection member rejects
    exact ⟨agrees.mpr (holds rejection member rejects).1,(holds rejection member rejects).2⟩
  · intro stops rejection member rejects
    exact ⟨agrees.mp (stops rejection member rejects).1,(stops rejection member rejects).2⟩

-- The validator rejects every record and the quarantine store is down.
def quarantineDown : PipelineOrchestrator Unit :=
  {accepting with
    validator := answer ⟨false,[⟨"transaction_amount","required","missing",.error,.none⟩],[]⟩
    quarantine := raising "quarantine store unavailable"}

theorem rejected_record_passes :
    ∃ result t, processRecord quarantineDown .empty (.start ()) = (.ok result,t) ∧ result.success = true ∧
      ∃ rejection ∈ t.seen, rejection.Rejects ∧ ∃ call ∈ t.seen, rejection.rank < call.rank := by
  refine ⟨_,_,rfl,rfl,_,List.mem_cons_self,rfl,_,List.mem_cons_of_mem _ (List.mem_cons_of_mem _ List.mem_cons_self),?_⟩
  decide

end PipelineOrchestrator
end RiskPulse
