import RiskPulse.PipelineOrchestrator

namespace RiskPulse

-- The place of the observed component in the order of the stages.
def Observation.rank : Observation → Nat
  | .validated _ _ | .quarantined _ _ => 0
  | .evaluated _ _ => 1
  | .cleaned _ _ => 2
  | .normalized _ _ => 3
  | .featured _ _ => 4
  | .geoEnriched _ _ | .deviceEnriched _ _ | .merchantEnriched _ _ | .velocityEvaluated _ _ => 5

namespace PipelineOrchestrator
open Effect
variable {W : Type}

-- What the small steps leave alone. Only a component call touches the world
-- and the observations, only a routing touches the dead-letter queue.
def deadLetters (s : PipelineState W) : List DlqEntry := s.dlq

def observations (s : PipelineState W) : List Observation := s.seen

theorem callComponent_dlq (component : Component W α β) (argument : α) (observe : Except String β → Observation) :
    Frames deadLetters (callComponent component argument observe) := fun _ => rfl

theorem callComponent_run (component : Component W α β) (argument : α) (observe : Except String β → Observation)
    (s : PipelineState W) : callComponent component argument observe s =
      ((component argument s.world).1,
        {s with world := (component argument s.world).2,seen := s.seen ++ [observe (component argument s.world).1]}) := rfl

theorem changeStageMetrics_frames {observed : PipelineState W → γ}
    (blind : ∀ s metrics, observed {s with metrics := metrics} = observed s) (stage : String)
    (change : StageMetrics → StageMetrics) : Frames observed (changeStageMetrics stage change) := by
  apply frames_modify
  intro s
  split
  · rfl
  · exact blind s _

theorem clock_frames {observed : PipelineState W → γ} (p : PipelineOrchestrator W) : Frames observed (clock p) :=
  frames_read _

theorem routeToDlq_run (p : PipelineOrchestrator W) (record : Record) (stage reason : String) (s : PipelineState W) :
    ∃ w, routeToDlq p record stage reason s =
      (.ok (),{s with world := w,dlq := s.dlq ++ [⟨p.uuid4Hex s.world,record,stage,reason,p.time s.world⟩]}) := by
  unfold routeToDlq
  cases p.onDlq with
  | none => exact ⟨s.world,rfl⟩
  | some callback => exact ⟨_,rfl⟩

theorem routeToDlq_files (p : PipelineOrchestrator W) (record : Record) (stage reason : String) (s : PipelineState W) :
    ∃ entry t, routeToDlq p record stage reason s = (.ok (),t) ∧ deadLetters t = deadLetters s ++ [entry] := by
  obtain ⟨w,ran⟩ := routeToDlq_run p record stage reason s
  exact ⟨_,_,ran,rfl⟩

theorem routeToDlq_returns (p : PipelineOrchestrator W) (record : Record) (stage reason : String) :
    Returns (routeToDlq p record stage reason) := by
  intro s
  obtain ⟨w,ran⟩ := routeToDlq_run p record stage reason s
  exact ⟨(),_,ran⟩

theorem routeToDlq_seen (p : PipelineOrchestrator W) (record : Record) (stage reason : String) :
    Frames observations (routeToDlq p record stage reason) := by
  intro s
  obtain ⟨w,ran⟩ := routeToDlq_run p record stage reason s
  rw [ran]
  rfl

theorem route_and_stop (p : PipelineOrchestrator W) (record : Record) (stage reason : String) (s : PipelineState W) :
    ∃ t, (routeToDlq p record stage reason >>= fun _ => pure (none : Option Record)) s = (.ok none,t) ∧
      t.seen = s.seen := by
  obtain ⟨w,routed⟩ := routeToDlq_run p record stage reason s
  exact ⟨_,bind_ok _ routed,rfl⟩

theorem handleStageError_returns (p : PipelineOrchestrator W) (stage : String) (record : Record) (error : String) :
    Returns (handleStageError p stage record error) := by
  unfold handleStageError
  split
  · exact (routeToDlq_returns _ _ _ _).bind fun _ => returns_pure _
  · exact returns_pure _

theorem handleStageError_seen (p : PipelineOrchestrator W) (stage : String) (record : Record) (error : String) :
    Frames observations (handleStageError p stage record error) := by
  unfold handleStageError
  split
  · exact (routeToDlq_seen _ _ _ _).bind fun _ => frames_pure _
  · exact frames_pure _

theorem handleStageError_stops (p : PipelineOrchestrator W) (stage : String) (record : Record) (error : String) :
    Yields (fun out => out = none → p.errorPolicy.getD stage .skip = .halt) (handleStageError p stage record error) := by
  unfold handleStageError
  split
  · rename_i halts
    exact yields_bind fun _ => yields_pure fun _ => halts
  · exact yields_pure fun absurdity => by cases absurdity

def rejected (outcome : Option Record) : Prop := outcome = none

theorem file_and_stop (p : PipelineOrchestrator W) (record : Record) (stage reason : String) :
    Accounted deadLetters rejected (routeToDlq p record stage reason >>= fun _ => pure none) :=
  accounted_file rfl (routeToDlq_files p record stage reason)

theorem pass_on (record : Record) :
    Accounted deadLetters rejected (pure (some record) : Pipeline W (Option Record)) :=
  accounted_pure (by simp [rejected])

theorem handleStageError_accounted (p : PipelineOrchestrator W) (stage : String) (record : Record) (error : String) :
    Accounted deadLetters rejected (handleStageError p stage record error) := by
  unfold handleStageError
  split
  · exact file_and_stop p record stage error
  · exact pass_on _

theorem stageMetrics_dlq (stage : String) (change : StageMetrics → StageMetrics) :
    Frames deadLetters (changeStageMetrics (W:=W) stage change) :=
  changeStageMetrics_frames (fun _ _ => rfl) stage change

theorem runValidation_accounted (p : PipelineOrchestrator W) (record : Record) :
    Accounted deadLetters rejected (runValidation p record) := by
  refine Accounted.after (clock_frames p) fun start => Accounted.attempt ?_ fun e => handleStageError_accounted _ _ _ _
  refine Accounted.after (callComponent_dlq _ _ _) fun result => Accounted.after (clock_frames p) fun now => ?_
  split
  · exact Accounted.after (callComponent_dlq _ _ _) fun _ =>
      Accounted.after (stageMetrics_dlq _ _) fun _ => file_and_stop _ _ _ _
  · exact Accounted.after (stageMetrics_dlq _ _) fun _ => pass_on _

-- A stage that counts a failure and stops, or counts a success and passes a record on.
theorem decided_accounted {bad : Prop} [Decidable bad] {stage : String} {failed passed : StageMetrics → StageMetrics}
    {stop : Pipeline W (Option Record)} {out : Record} (stopped : Accounted deadLetters rejected stop) :
    Accounted deadLetters rejected (if bad then changeStageMetrics stage failed >>= fun _ => stop
      else changeStageMetrics stage passed >>= fun _ => pure (some out)) := by
  split
  · exact Accounted.after (stageMetrics_dlq _ _) fun _ => stopped
  · exact Accounted.after (stageMetrics_dlq _ _) fun _ => pass_on _

theorem runRulesEngine_accounted (p : PipelineOrchestrator W) (record : Record) :
    Accounted deadLetters rejected (runRulesEngine p record) := by
  refine Accounted.after (clock_frames p) fun start => Accounted.attempt ?_ fun e => handleStageError_accounted _ _ _ _
  exact Accounted.after (callComponent_dlq _ _ _) fun result => Accounted.after (clock_frames p) fun now =>
    decided_accounted (file_and_stop _ _ _ _)

theorem runCleaning_accounted (p : PipelineOrchestrator W) (record : Record) :
    Accounted deadLetters rejected (runCleaning p record) := by
  refine Accounted.after (clock_frames p) fun start => Accounted.attempt ?_ fun e => handleStageError_accounted _ _ _ _
  exact Accounted.after (callComponent_dlq _ _ _) fun result => Accounted.after (clock_frames p) fun now =>
    decided_accounted (file_and_stop _ _ _ _)

theorem runNormalization_accounted (p : PipelineOrchestrator W) (record : Record) :
    Accounted deadLetters rejected (runNormalization p record) := by
  refine Accounted.after (clock_frames p) fun start => Accounted.attempt ?_ fun e => handleStageError_accounted _ _ _ _
  exact Accounted.after (callComponent_dlq _ _ _) fun result => Accounted.after (clock_frames p) fun now =>
    Accounted.after (stageMetrics_dlq _ _) fun _ => pass_on _

theorem runFeatureEngineering_accounted (p : PipelineOrchestrator W) (record : Record) :
    Accounted deadLetters rejected (runFeatureEngineering p record) := by
  refine Accounted.after (clock_frames p) fun start => Accounted.attempt ?_ fun e => handleStageError_accounted _ _ _ _
  exact Accounted.after (callComponent_dlq _ _ _) fun result => Accounted.after (clock_frames p) fun now =>
    decided_accounted (handleStageError_accounted _ _ _ _)

-- The four enricher calls as one effect: the record as they leave it and what
-- stopped them, if anything.
def mergeAll (p : PipelineOrchestrator W) (record : Record) : Pipeline W (Record × Option String) := fun s =>
  (.ok (mergeReports (enrichers p) record s).1,(mergeReports (enrichers p) record s).2)

theorem runEnrichment_eq (p : PipelineOrchestrator W) (record : Record) :
    runEnrichment p record = (clock p >>= fun start => mergeAll p record >>= fun merged =>
      match merged.2 with
      | some e => handleStageError p PipelineStage.enrichment.value merged.1 e
      | none => clock p >>= fun now =>
        recordStageSuccess PipelineStage.enrichment.value ((now - start) * 1000) >>= fun _ =>
        pure (some (merged.1.set "_enrichment_latency_ms" (.float (.finite (roundTo 4 ((now - start) * 1000))))))) :=
  rfl

theorem mergeReports_frames {observed : PipelineState W → γ}
    {steps : List (Record → Pipeline W (Option Record))} (each : ∀ step ∈ steps, ∀ r, Frames observed (step r))
    (record : Record) (s : PipelineState W) : observed (mergeReports steps record s).2 = observed s := by
  induction steps generalizing record s with
  | nil => rfl
  | cons step rest ih =>
    have kept := each step List.mem_cons_self record s
    rcases ran : step record s with ⟨outcome,t⟩
    rw [ran] at kept
    cases outcome with
    | error e => simpa [mergeReports,ran] using kept
    | ok report =>
      simp only [mergeReports,ran]
      exact (ih (fun other member => each other (List.mem_cons_of_mem _ member)) _ t).trans kept

theorem enrichers_dlq (p : PipelineOrchestrator W) :
    ∀ step ∈ enrichers p, ∀ r, Frames deadLetters (step r) := by
  intro step member r
  simp only [enrichers,List.mem_cons,List.not_mem_nil,or_false] at member
  rcases member with rfl | rfl | rfl | rfl
  all_goals exact (callComponent_dlq _ _ _).bind fun _ => frames_pure _

theorem runEnrichment_accounted (p : PipelineOrchestrator W) (record : Record) :
    Accounted deadLetters rejected (runEnrichment p record) := by
  rw [runEnrichment_eq]
  refine Accounted.after (clock_frames p) fun start => Accounted.after ?_ fun merged => ?_
  · exact fun s => mergeReports_frames (enrichers_dlq p) record s
  · obtain ⟨record,raised⟩ := merged
    cases raised with
    | some e => exact handleStageError_accounted _ _ _ _
    | none => exact Accounted.after (clock_frames p) fun now => Accounted.after (stageMetrics_dlq _ _) fun _ => pass_on _

def unsuccessful (result : PipelineResult) : Prop := result.success = false

theorem orFail_accounted {p : PipelineOrchestrator W} {ran : Pipeline W (Option Record)}
    {next : Record → Pipeline W PipelineResult} (stageAccounts : Accounted deadLetters rejected ran)
    (rest : ∀ record, Accounted deadLetters unsuccessful (next record)) (txnId : Value) (stage : PipelineStage)
    (error : String) (start : Rat) :
    Accounted deadLetters unsuccessful (orFail p txnId stage error start ran next) := by
  refine Accounted.bind stageAccounts ?_ ?_
  · rintro _ rfl s
    exact ⟨_,s,rfl,rfl,rfl⟩
  · intro outcome passed
    cases outcome with
    | none => exact absurd rfl passed
    | some record => exact rest record

theorem processStages_accounted (p : PipelineOrchestrator W) (txnId : Value) (start : Rat) (record : Record) :
    Accounted deadLetters unsuccessful (processStages p txnId start record) := by
  refine orFail_accounted (runValidation_accounted p record) (fun record => ?_) _ _ _ _
  refine orFail_accounted (runRulesEngine_accounted p record) (fun record => ?_) _ _ _ _
  refine orFail_accounted (runCleaning_accounted p record) (fun record => ?_) _ _ _ _
  refine orFail_accounted (runNormalization_accounted p record) (fun record => ?_) _ _ _ _
  refine orFail_accounted (runFeatureEngineering_accounted p record) (fun record => ?_) _ _ _ _
  refine orFail_accounted (runEnrichment_accounted p record) (fun record => ?_) _ _ _ _
  refine Accounted.after (frames_read _) fun stamp => Accounted.after (clock_frames p) fun now => ?_
  exact accounted_pure (by simp [unsuccessful])

theorem processRecord_accounted (p : PipelineOrchestrator W) (record : Record) :
    Accounted deadLetters unsuccessful (processRecord p record) := by
  refine Accounted.after (clock_frames p) fun start => Accounted.after (frames_read _) fun txnId => ?_
  refine Accounted.attempt (processStages_accounted _ _ _ _) fun e => Accounted.after (clock_frames p) fun now => ?_
  exact accounted_file rfl (routeToDlq_files _ _ _ _)

theorem processRecord_returns (p : PipelineOrchestrator W) (record : Record) : Returns (processRecord p record) := by
  refine (returns_read _).bind fun start => (returns_read _).bind fun txnId => Returns.attempt fun e => ?_
  exact (returns_read _).bind fun now => (routeToDlq_returns _ _ _ _).bind fun _ => returns_pure _

-- What the stages return is the result, a successful one always comes from
-- them, and the handler around them observes nothing.
theorem processRecord_stages (p : PipelineOrchestrator W) (record : Record) (s : PipelineState W) :
    ∃ result t, processRecord p record s = (.ok result,t) ∧
      t.seen = (processStages p (transactionId p record s.world) (p.perfCounter s.world) record s).2.seen ∧
      (∀ final, (processStages p (transactionId p record s.world) (p.perfCounter s.world) record s).1 = .ok final →
        final = result) ∧
      (result.success = true →
        processStages p (transactionId p record s.world) (p.perfCounter s.world) record s = (.ok result,t)) := by
  rcases ran : processStages p (transactionId p record s.world) (p.perfCounter s.world) record s with ⟨outcome,u⟩
  have unfolded : processRecord p record s =
      attempt (processStages p (transactionId p record s.world) (p.perfCounter s.world) record) (fun e => do
        let now ← clock p
        routeToDlq p record "pipeline_exception" e
        pure ⟨transactionId p record s.world,false,.empty,none,some e,true,
          (now - p.perfCounter s.world) * 1000⟩) s := rfl
  cases outcome with
  | ok result =>
    exact ⟨result,u,by rw [unfolded,attempt_ok _ ran],rfl,fun _ same => (Except.ok.inj same).symm,fun _ => rfl⟩
  | error e =>
    obtain ⟨w,routed⟩ := routeToDlq_run p record "pipeline_exception" e u
    refine ⟨?result,?t,?returned,?quiet,?raised,?failed⟩
    case returned =>
      rw [unfolded,attempt_error _ ran,clock,read_bind,bind_ok _ routed]
      rfl
    case quiet => rfl
    case raised =>
      intro _ same
      cases same
    case failed =>
      intro success
      cases success

theorem orFail_none {p : PipelineOrchestrator W} {ran : Pipeline W (Option Record)}
    {next : Record → Pipeline W PipelineResult} (stopped : ran s = (.ok none,t)) :
    orFail p txnId stage error start ran next s =
      (.ok ⟨txnId,false,.empty,some stage.value,some error,true,(p.perfCounter t.world - start) * 1000⟩,t) := by
  rw [orFail,bind_ok _ stopped]
  rfl

theorem orFail_some {p : PipelineOrchestrator W} {ran : Pipeline W (Option Record)}
    {next : Record → Pipeline W PipelineResult} (passed : ran s = (.ok (some record),t)) :
    orFail p txnId stage error start ran next s = next record t := by rw [orFail,bind_ok _ passed]

-- The stages that call one component once, by what it gave back.
section OneCall
variable {component : Component W α β} {observe : Except String β → Observation}
  {used : Rat → β → Pipeline W (Option Record)} {handler : String → Pipeline W (Option Record)}

theorem oneCall_raised (p : PipelineOrchestrator W) (raised : component argument s.world = (.error e,w)) :
    (clock p >>= fun start => attempt (callComponent component argument observe >>= used start) handler) s =
      handler e {s with world := w,seen := s.seen ++ [observe (.error e)]} := by
  have called := callComponent_run component argument observe s
  rw [raised] at called
  rw [clock,read_bind,attempt_error _ (bind_error _ called)]

theorem oneCall_returned (p : PipelineOrchestrator W) (returned : component argument s.world = (.ok b,w))
    (ran : used (p.perfCounter s.world) b {s with world := w,seen := s.seen ++ [observe (.ok b)]} = (.ok out,t)) :
    (clock p >>= fun start => attempt (callComponent component argument observe >>= used start) handler) s =
      (.ok out,t) := by
  have called := callComponent_run component argument observe s
  rw [returned] at called
  rw [clock,read_bind]
  refine attempt_ok _ ?_
  rw [bind_ok _ called]
  exact ran

theorem oneCall_leaves (observed : PipelineState W → γ) (returns : ∀ start b, Returns (used start b))
    (quiet : ∀ start b, Frames observed (used start b)) (calm : ∀ e, Frames observed (handler e))
    (p : PipelineOrchestrator W) (s : PipelineState W) :
    observed ((clock p >>= fun start =>
      attempt (callComponent component argument observe >>= used start) handler) s).2 =
      observed {s with
        world := (component argument s.world).2
        seen := s.seen ++ [observe (component argument s.world).1]} := by
  rcases called : component argument s.world with ⟨outcome,w⟩
  cases outcome with
  | error e =>
    rw [oneCall_raised p called]
    exact calm e _
  | ok b =>
    have kept := quiet (p.perfCounter s.world) b {s with world := w,seen := s.seen ++ [observe (.ok b)]}
    obtain ⟨out,t,ran⟩ := returns (p.perfCounter s.world) b {s with world := w,seen := s.seen ++ [observe (.ok b)]}
    rw [oneCall_returned p called ran]
    rw [ran] at kept
    exact kept

theorem oneCall_seen (returns : ∀ start b, Returns (used start b))
    (quiet : ∀ start b, Frames observations (used start b)) (calm : ∀ e, Frames observations (handler e))
    (p : PipelineOrchestrator W) (s : PipelineState W) :
    ((clock p >>= fun start => attempt (callComponent component argument observe >>= used start) handler) s).2.seen =
      s.seen ++ [observe (component argument s.world).1] :=
  oneCall_leaves observations returns quiet calm p s

theorem oneCall_yields (good : Option Record → Prop) (p : PipelineOrchestrator W) (s : PipelineState W)
    (raised : ∀ e, (component argument s.world).1 = .error e → Yields good (handler e))
    (returned : ∀ start b, (component argument s.world).1 = .ok b → Returns (used start b) ∧ Yields good (used start b))
    (ran : (clock p >>= fun start =>
      attempt (callComponent component argument observe >>= used start) handler) s = (.ok out,t)) : good out := by
  rcases called : component argument s.world with ⟨outcome,w⟩
  rw [called] at raised returned
  cases outcome with
  | error e =>
    rw [oneCall_raised p called] at ran
    exact raised e rfl _ _ _ ran
  | ok b =>
    obtain ⟨returns,yields⟩ := returned (p.perfCounter s.world) b rfl
    obtain ⟨made,u,used⟩ := returns {s with world := w,seen := s.seen ++ [observe (.ok b)]}
    rw [oneCall_returned p called used] at ran
    cases ran
    exact yields _ _ _ used

end OneCall

theorem stageMetrics_seen (stage : String) (change : StageMetrics → StageMetrics) :
    Frames observations (changeStageMetrics (W:=W) stage change) :=
  changeStageMetrics_frames (fun _ _ => rfl) stage change

theorem route_and_stop_seen (p : PipelineOrchestrator W) (record : Record) (stage reason : String) :
    Frames observations (routeToDlq p record stage reason >>= fun _ => pure (none : Option Record)) :=
  (routeToDlq_seen _ _ _ _).bind fun _ => frames_pure _

theorem stageMetrics_returns (stage : String) (change : StageMetrics → StageMetrics) :
    Returns (changeStageMetrics (W:=W) stage change) := returns_modify _

theorem route_and_stop_returns (p : PipelineOrchestrator W) (record : Record) (stage reason : String) :
    Returns (routeToDlq p record stage reason >>= fun _ => pure (none : Option Record)) :=
  (routeToDlq_returns _ _ _ _).bind fun _ => returns_pure _

section Decided
variable {bad : Prop} [Decidable bad] {stage : String} {failed passed : StageMetrics → StageMetrics}
  {stop : Pipeline W (Option Record)} {out : Record}

theorem decided_returns (stopped : Returns stop) : Returns (if bad then changeStageMetrics stage failed >>= fun _ => stop
    else changeStageMetrics stage passed >>= fun _ => pure (some out)) := by
  split
  · exact (stageMetrics_returns _ _).bind fun _ => stopped
  · exact (stageMetrics_returns _ _).bind fun _ => returns_pure _

theorem decided_seen (stopped : Frames observations stop) :
    Frames observations (if bad then changeStageMetrics stage failed >>= fun _ => stop
      else changeStageMetrics stage passed >>= fun _ => pure (some out)) := by
  split
  · exact (stageMetrics_seen _ _).bind fun _ => stopped
  · exact (stageMetrics_seen _ _).bind fun _ => frames_pure _

end Decided

theorem runRulesEngine_seen (p : PipelineOrchestrator W) (record : Record) (s : PipelineState W) :
    (runRulesEngine p record s).2.seen = s.seen ++ [.evaluated record (p.rulesEngine record s.world).1] :=
  oneCall_seen (fun _ _ => (returns_read _).bind fun _ => decided_returns (route_and_stop_returns _ _ _ _))
    (fun _ _ => (clock_frames p).bind fun _ => decided_seen (route_and_stop_seen _ _ _ _))
    (fun _ => handleStageError_seen _ _ _ _) p s

theorem runCleaning_seen (p : PipelineOrchestrator W) (record : Record) (s : PipelineState W) :
    (runCleaning p record s).2.seen = s.seen ++ [.cleaned record (p.cleaner record s.world).1] :=
  oneCall_seen (fun _ _ => (returns_read _).bind fun _ => decided_returns (route_and_stop_returns _ _ _ _))
    (fun _ _ => (clock_frames p).bind fun _ => decided_seen (route_and_stop_seen _ _ _ _))
    (fun _ => handleStageError_seen _ _ _ _) p s

theorem runNormalization_seen (p : PipelineOrchestrator W) (record : Record) (s : PipelineState W) :
    (runNormalization p record s).2.seen = s.seen ++ [.normalized record (p.normalizer record s.world).1] :=
  oneCall_seen (fun _ _ => (returns_read _).bind fun _ => (stageMetrics_returns _ _).bind fun _ => returns_pure _)
    (fun _ _ => (clock_frames p).bind fun _ => (stageMetrics_seen _ _).bind fun _ => frames_pure _)
    (fun _ => handleStageError_seen _ _ _ _) p s

theorem runFeatureEngineering_seen (p : PipelineOrchestrator W) (record : Record) (s : PipelineState W) :
    (runFeatureEngineering p record s).2.seen = s.seen ++ [.featured record (p.featureEngineer record s.world).1] :=
  oneCall_seen (fun _ _ => (returns_read _).bind fun _ => decided_returns (handleStageError_returns _ _ _ _))
    (fun _ _ => (clock_frames p).bind fun _ => decided_seen (handleStageError_seen _ _ _ _))
    (fun _ => handleStageError_seen _ _ _ _) p s

theorem orFail_adds {fits : Observation → Prop} {p : PipelineOrchestrator W} {ran : Pipeline W (Option Record)}
    {next : Record → Pipeline W PipelineResult} (stage : Adds observations fits ran)
    (rest : ∀ record, Adds observations fits (next record)) :
    Adds observations fits (orFail p txnId place error start ran next) := by
  refine stage.bind fun outcome => ?_
  cases outcome with
  | none => exact ((clock_frames p).bind fun _ => frames_pure _).adds
  | some record => exact rest record

theorem oneCall_adds {fits : Observation → Prop} {ran : Pipeline W (Option Record)}
    {observe : PipelineState W → Observation} (seen : ∀ s, (ran s).2.seen = s.seen ++ [observe s])
    (each : ∀ s, fits (observe s)) : Adds observations fits ran := by
  intro s
  refine ⟨[observe s],seen s,?_⟩
  intro call member
  rw [List.mem_singleton.mp member]
  exact each s

theorem mergeReports_adds {fits : Observation → Prop} {steps : List (Record → Pipeline W (Option Record))}
    (each : ∀ step ∈ steps, ∀ r, Adds observations fits (step r)) (record : Record) (s : PipelineState W) :
    ∃ added, (mergeReports steps record s).2.seen = s.seen ++ added ∧ ∀ call ∈ added, fits call := by
  induction steps generalizing record s with
  | nil => exact ⟨[],by simp [mergeReports],by simp⟩
  | cons step rest ih =>
    obtain ⟨added,grown,all⟩ := each step List.mem_cons_self record s
    rcases ran : step record s with ⟨outcome,t⟩
    rw [ran] at grown
    cases outcome with
    | error e => exact ⟨added,by simp only [mergeReports,ran]; exact grown,all⟩
    | ok report =>
      obtain ⟨more,further,others⟩ := ih (fun other member => each other (List.mem_cons_of_mem _ member))
        (merge record report) t
      have start : t.seen = s.seen ++ added := grown
      refine ⟨added ++ more,?_,?_⟩
      · simp only [mergeReports,ran]
        rw [further,start,List.append_assoc]
      · intro call member
        rcases List.mem_append.mp member with early | late
        · exact all call early
        · exact others call late

theorem callComponent_adds (place : Nat) (component : Component W α β) (argument : α)
    {observe : Except String β → Observation} (each : ∀ out, (observe out).rank = place) :
    Adds observations (fun call => call.rank = place) (callComponent component argument observe) := by
  intro s
  refine ⟨[observe (component argument s.world).1],rfl,?_⟩
  intro call member
  rw [List.mem_singleton.mp member]
  exact each _

theorem runValidation_adds (p : PipelineOrchestrator W) (record : Record) :
    Adds observations (fun call => call.rank = 0) (runValidation p record) := by
  refine (clock_frames p).adds.bind fun start => Adds.attempt ?_ fun e => (handleStageError_seen _ _ _ _).adds
  refine Adds.bind (callComponent_adds 0 _ _ (by intro _; rfl)) fun result => (clock_frames p).adds.bind fun now => ?_
  split
  · exact Adds.bind (callComponent_adds 0 _ _ (by intro _; rfl)) fun _ =>
      ((stageMetrics_seen _ _).bind fun _ => route_and_stop_seen _ _ _ _).adds
  · exact ((stageMetrics_seen _ _).bind fun _ => frames_pure _).adds

theorem runEnrichment_adds (p : PipelineOrchestrator W) (record : Record) :
    Adds observations (fun call => call.rank = 5) (runEnrichment p record) := by
  rw [runEnrichment_eq]
  refine (clock_frames p).adds.bind fun start => Adds.bind ?_ fun merged => ?_
  · intro s
    refine mergeReports_adds (fun step member r => ?_) record s
    simp only [enrichers,List.mem_cons,List.not_mem_nil,or_false] at member
    rcases member with rfl | rfl | rfl | rfl
    all_goals exact Adds.bind (callComponent_adds 5 _ _ (by intro _; rfl)) fun _ => (frames_pure _).adds
  · obtain ⟨record,raised⟩ := merged
    cases raised with
    | some e => exact (handleStageError_seen _ _ _ _).adds
    | none => exact ((clock_frames p).bind fun now => (stageMetrics_seen _ _).bind fun _ => frames_pure _).adds

end PipelineOrchestrator
end RiskPulse
